import Depot.Report.Basic
import Depot.Report.Logger
/-!
# Observers

An observer takes the reports of a client: log entries go to its logger, counters
and durations to its meter.
-/
namespace Depot

structure Observer where
  logger : Logger
  meter : Meter Nat

namespace Observer

/-- Keeps everything. -/
def memory : Observer := ⟨.memory [], .kept .empty⟩

/-- Writes the log entries from a level on, and nothing else. -/
def console (minLevel : Float) : Observer := ⟨.console minLevel, .ignored⟩

def silent : Observer := ⟨.silent, .ignored⟩

/-- Takes a report: the lines that it writes, and the observer afterwards. -/
def take (o : Observer) (now : Option Instant) : Report → Outcome (List ConsoleLine × Observer)
  | .log e => (o.logger.write now e).map fun (lines, logger) => (lines, { o with logger := logger })
  | .count metric amount labels =>
    .ok ([], { o with meter := o.meter.increment metric.name amount labels })
  | .time metric ms labels => .ok ([], { o with meter := o.meter.record metric.name ms labels })

end Observer
end Depot
