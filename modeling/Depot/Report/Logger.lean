import Depot.Report.Console
/-!
# Loggers

Where log entries go: to the console from some level on, into a list that can be
asked for, or nowhere.
-/
namespace Depot

inductive Logger where
  | console (minLevel : Float)
  /-- Keeps the entries, in their order. -/
  | memory (entries : List LogEntry)
  | silent

namespace Logger

/-- Takes an entry whose context has a copy with a text: the lines that it writes, and the logger
afterwards. -/
def write (l : Logger) (now : Option Instant) (e : LogEntry) :
    Outcome (List ConsoleLine × Logger) :=
  match l with
  | .console minLevel => (ConsoleLine.ofEntry? minLevel now e).map fun line => (line.toList, l)
  | .memory entries => .ok ([], .memory (entries ++ [e]))
  | .silent => .ok ([], l)

/-- Takes an entry with any context. Where a line is due, it fails if the copy of the context has no
text; those of the contexts with which the client itself reports always have one. -/
def log (l : Logger) (now : Option Instant) (e : LogEntry) : Outcome (List ConsoleLine × Logger) := do
  let (lines, after) ← l.write now e
  match lines, e.context.bind fun fields => Redaction.fault? (.record fields) with
  | _ :: _, some f => throw f
  | lines, _ => return (lines, after)

/-- The entries that are kept. -/
def entries : Logger → List LogEntry
  | .memory entries => entries
  | _ => []

/-- The entries that are kept, of one level if it is given. -/
def entriesAt (l : Logger) (level : Option Float) : List LogEntry :=
  level.elim l.entries (LogEntry.atLevel · l.entries)

def messages (l : Logger) : List String := l.entries.map LogEntry.message

end Logger
end Depot
