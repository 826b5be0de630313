import Depot.Failure.Basic
import Depot.Report.Log
import Depot.Report.Redaction
import Depot.Value.Json
/-!
# Console lines

A log entry is written as one line of JSON on the stream of its level, if the
level is high enough. The line begins with the date, so there is none at a time
that is no date.
-/
namespace Depot

/-- Where a line goes. -/
inductive Stream where
  | log | warn | error
  deriving DecidableEq, Repr

namespace Stream

def name : Stream → String
  | .log => "log"
  | .warn => "warn"
  | .error => "error"

def ofLevel : Level → Stream
  | .debug => .log
  | .info => .log
  | .warn => .warn
  | .error => .error

end Stream

structure ConsoleLine where
  stream : Stream
  line : String

namespace ConsoleLine

/-- An entry as a record; a context without members is left out. -/
def record (now : Instant) (e : LogEntry) : Fields :=
  [("timestamp", .text now.text), ("level", .text e.level.name), ("message", .text e.message)] ++
    match e.context with
    | some (field :: fields) => [("context", .record (Redaction.redactFields (field :: fields)))]
    | _ => []

/-- The level from which entries are written unless another is asked for. -/
def defaultLevel : Float := Float.ofNat Level.info.number

/-- Why an entry cannot be written at a time that is no date. -/
def undated : Failure := .foreign "RangeError" "Invalid time value"

/-- The line of an entry; there is none if its level is below the least one. -/
def ofEntry? (minLevel : Float) (now : Option Instant) (e : LogEntry) :
    Outcome (Option ConsoleLine) :=
  if Float.ofNat e.level.number < minLevel then .ok none
  else
    match now with
    | some now => .ok (some ⟨.ofLevel e.level, (Value.record (record now e)).json⟩)
    | none => .error undated

end ConsoleLine
end Depot
