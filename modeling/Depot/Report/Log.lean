import Depot.Value.Basic
/-!
# Log entries

What the client says about its work: a level, a message and a context of named
values.
-/
namespace Depot

inductive Level where
  | debug | info | warn | error
  deriving DecidableEq, Repr

namespace Level

def all : List Level := [.debug, .info, .warn, .error]

def number : Level → Nat
  | .debug => 0
  | .info => 1
  | .warn => 2
  | .error => 3

def name : Level → String
  | .debug => "DEBUG"
  | .info => "INFO"
  | .warn => "WARN"
  | .error => "ERROR"

end Level

structure LogEntry where
  level : Level
  message : String
  context : Option Fields

namespace LogEntry

def toValue (e : LogEntry) : Value :=
  .record [("level", .nat e.level.number), ("message", .text e.message),
    ("context", .optional (e.context.map .record))]

/-- The entries at a level, in their order. -/
def atLevel (level : Float) (entries : List LogEntry) : List LogEntry :=
  entries.filter (Float.ofNat ·.level.number == level)

end LogEntry
end Depot
