import Depot.Sorting
import Depot.Table
import Depot.Text.Collation
/-!
# Metrics

Counters and samples, kept per series. A series is a metric with labels, and its
key names the labels in collation order.
-/
namespace Depot

/-- What the client measures. -/
inductive Metric where
  | requestsTotal | requestLatency | errorsTotal | queryPages | recordsWritten
  | uploadParts | uploadsCompleted | uploadsAborted | uploadBytes
  deriving DecidableEq, Repr

def Metric.name : Metric → String
  | .requestsTotal => "deta_requests_total"
  | .requestLatency => "deta_request_latency_ms"
  | .errorsTotal => "deta_errors_total"
  | .queryPages => "deta_query_pages_total"
  | .recordsWritten => "deta_records_written_total"
  | .uploadParts => "deta_upload_parts_total"
  | .uploadsCompleted => "deta_uploads_completed_total"
  | .uploadsAborted => "deta_uploads_aborted_total"
  | .uploadBytes => "deta_upload_bytes_total"

abbrev Labels := Table String

/-- The key of a series: its name, and in braces its labels as `name=value`, with commas between. -/
def seriesKey (name : String) (labels : Labels) : String :=
  let sorted := Sorting.sorted (fun a b => Text.Collation.le a.1 b.1) labels
  let pairs := sorted.map fun (k, v) => k ++ "=" ++ v
  if pairs.isEmpty then name else name ++ "\x7B" ++ ",".intercalate pairs ++ "\x7D"

/-- Totals and samples per series, in order of first use. -/
structure Metrics (α : Type) where
  totals : Table α
  samples : Table (List Float)

namespace Metrics
variable {α : Type}

def empty : Metrics α := ⟨[], []⟩

def samplesAt (m : Metrics α) (key : String) : List Float := (Table.get? key m.samples).getD []

/-- Adds a sample. -/
def record (m : Metrics α) (name : String) (sample : Float) (labels : Labels) : Metrics α :=
  let key := seriesKey name labels
  { m with samples := Table.put key (m.samplesAt key ++ [sample]) m.samples }

/-- The samples of a series. -/
def timings (m : Metrics α) (name : String) (labels : Labels) : List Float :=
  m.samplesAt (seriesKey name labels)

/-- The samples that came after those of earlier metrics. -/
def samplesSince (m earlier : Metrics α) : Table (List Float) :=
  (m.samples.map fun (key, samples) => (key, samples.drop (earlier.samplesAt key).length)).filter
    fun (_, samples) => !samples.isEmpty

variable [Add α] [OfNat α 0]

/-- The total of a series; nothing was added to one that is not there. -/
def totalAt (m : Metrics α) (key : String) : α := (Table.get? key m.totals).getD 0

/-- Adds to a counter. -/
def increment (m : Metrics α) (name : String) (amount : α) (labels : Labels) : Metrics α :=
  let key := seriesKey name labels
  { m with totals := Table.put key (m.totalAt key + amount) m.totals }

/-- The total of a counter. -/
def counter (m : Metrics α) (name : String) (labels : Labels) : α :=
  m.totalAt (seriesKey name labels)

/-- The totals that differ from those of earlier metrics. -/
def totalsSince [BEq α] (m earlier : Metrics α) : Table α :=
  m.totals.filter fun (key, total) => total != earlier.totalAt key

end Metrics

/-- Where counters and samples go: into metrics, or nowhere. -/
inductive Meter (α : Type) where
  | kept (m : Metrics α)
  | ignored

namespace Meter
variable {α : Type}

def increment [Add α] [OfNat α 0] (r : Meter α) (name : String) (amount : α) (labels : Labels) :
    Meter α :=
  match r with
  | .kept m => .kept (m.increment name amount labels)
  | .ignored => .ignored

def record (r : Meter α) (name : String) (sample : Float) (labels : Labels) : Meter α :=
  match r with
  | .kept m => .kept (m.record name sample labels)
  | .ignored => .ignored

/-- The metrics that are kept. -/
def metrics : Meter α → Metrics α
  | .kept m => m
  | .ignored => Metrics.empty

end Meter
end Depot
