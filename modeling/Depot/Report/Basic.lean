import Depot.Report.Log
import Depot.Report.Metrics
/-!
# Reports

What the client reports while it works: log entries, additions to counters, and
durations.
-/
namespace Depot

inductive Report where
  | log (entry : LogEntry)
  | count (metric : Metric) (amount : Nat) (labels : Labels)
  | time (metric : Metric) (ms : Float) (labels : Labels)

namespace Report

def debug (message : String) (context : Fields) : Report := .log ⟨.debug, message, some context⟩

def info (message : String) (context : Fields) : Report := .log ⟨.info, message, some context⟩

def warn (message : String) (context : Fields) : Report := .log ⟨.warn, message, some context⟩

def error (message : String) (context : Fields) : Report := .log ⟨.error, message, some context⟩

/-- Adds one to a counter. -/
def tick (metric : Metric) (labels : Labels) : Report := .count metric 1 labels

end Report
end Depot
