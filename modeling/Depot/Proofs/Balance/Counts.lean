import Mathlib.Algebra.BigOperators.Ring.Finset
import Depot.Proofs.Balance.Operations
import Depot.Proofs.Base.Batches
import Depot.Proofs.Query.Walk
import Depot.Proofs.Report.Series
/-!
# What operations count

A put counts the items that each answer brings, an insertion one record when it comes to a result,
and a walk each page that an answer brings, also when it fails afterwards.
-/
namespace Depot

/-- A tally of what reports count, where an answer is to be counted for `brings`. -/
def Tally.counting (counts : Report → Nat) (brings : Arrival → Nat) : Tally :=
  ⟨fun r => counts r, 0, fun a => brings a⟩

section Counting
variable {counts : Report → Nat} {brings : Arrival → Nat}

theorem Tally.sum_counting (rs : List Report) :
    (Tally.counting counts brings).sum rs = (rs.map counts).sum := by
  rw [sum, Nat.cast_list_sum, List.map_map]
  rfl

theorem Scene.owes_counting (s : Scene) : s.owes (.counting counts brings) =
    ((s.arrived.map fun x => brings x.2).sum : ℕ) - (s.amount counts : ℕ) := by
  rw [owes, Tally.sum_counting, amount, Nat.cast_list_sum (s.arrived.map _), List.map_map]
  change 0 * _ + _ - _ = _
  rw [zero_mul, zero_add]
  rfl

/-- What is counted at the end of a course, if nothing is left to pay. -/
theorem Scene.amount_of_even {s : Scene} (even : s.owes (.counting counts brings) = 0) :
    s.amount counts = (s.arrived.map fun x => brings x.2).sum := by
  rw [owes_counting] at even
  omega

end Counting

/-- Reports are counted only if they add to the counters of a metric. -/
structure Report.CountsOnly (m : Metric) (counts : Report → Nat) : Prop where
  log : ∀ e, counts (.log e) = 0
  time : ∀ m' ms labels, counts (.time m' ms labels) = 0
  other : ∀ m', m' ≠ m → ∀ amount labels, counts (.count m' amount labels) = 0

theorem Report.countsOnly_amountOf (m : Metric) : CountsOnly m (amountOf m) :=
  ⟨fun _ => rfl, fun _ _ _ => rfl, fun _ other _ _ => if_neg other⟩

namespace Tally
variable {m : Metric} {counts : Report → Nat} (h : Report.CountsOnly m counts)
  (request : m ≠ .requestsTotal) (error : m ≠ .errorsTotal)
include h request error

/-- Exchanges count for nothing by themselves. -/
theorem echoes_counting (brings : Arrival → Nat) :
    (counting counts brings).Echoes fun a => brings a where
  sending _ := congrArg Nat.cast (h.log _)
  settle c a := by
    have nothing : (counting counts brings).sum (Exchange.settle c a.latencyMs a.outcome).2 = 0 :=
      sum_eq_zero fun r hr => congrArg Nat.cast (Exchange.of_mem_settle (P := (counts · = 0)) hr
        (fun _ => h.other _ request.symm ..) (fun _ => h.time ..)
        (fun _ => h.other _ error.symm ..) fun _ => h.log _)
    rw [nothing]
    exact zero_add _

theorem ignores_counting {own : List Metric} (foreign : m ∉ own) :
    (counting counts fun _ => 0).Ignores own where
  echoes := echoes_counting h request error fun _ => 0
  entry _ _ _ _ := congrArg Nat.cast (h.log _)
  count m' hm _ _ := congrArg Nat.cast (h.other m' (fun same => foreign (same ▸ hm)) ..)

end Tally

theorem Scene.amount_amountOf (m : Metric) (s : Scene) :
    s.amount (Report.amountOf m) = s.counted m := Report.sum_amountOf m s.reports

/-- What a report adds to the counter of the records written to a base. -/
def Report.recordsOf (base : String) : Report → Nat :=
  countsWhere (· = seriesKey Metric.recordsWritten.name [("base", base)])

theorem Report.recordsOf_written (base base' : String) (amount : Nat) :
    recordsOf base' (.count .recordsWritten amount [("base", base)]) =
      if base = base' then amount else 0 := by
  simp [recordsOf, countsWhere, seriesKey_singleton_inj]

theorem Report.countsOnly_recordsOf (base : String) :
    CountsOnly .recordsWritten (recordsOf base) where
  log _ := rfl
  time _ _ _ := rfl
  other _ other _ _ := if_neg fun same => other (Metric.eq_of_seriesKey (of_decide_eq_true same))

namespace Base

/-- How many items the answer to a bulk put brings to a base, if the put is one to `base`. -/
def processedFor (base base' : String) (a : Arrival) : Nat :=
  match PutResult.ofArrival a with
  | .ok r => if base = base' then r.processed.length else 0
  | .error _ => 0

theorem sum_recordsOf (base base' : String) (r : PutResult) :
    ((putReports base r).map (Report.recordsOf base')).sum =
      if base = base' then r.processed.length else 0 := by
  have entry (context : Fields) : Report.recordsOf base'
      (.warn "Some records were not stored" context) = 0 := rfl
  rw [putReports, List.map_cons, List.sum_cons, Report.recordsOf_written]
  cases r.failed.isEmpty <;> simp [entry]

/-- What a put to one base reports counts for another as its answers do. -/
theorem echoes_recordsOf (base base' : String) :
    (Tally.counting (Report.recordsOf base') (processedFor base base')).Echoes
      (putWorth (.counting (Report.recordsOf base') (processedFor base base')) base) := by
  have worth (a : Arrival) : putWorth (.counting (Report.recordsOf base')
      (processedFor base base')) base a = (processedFor base base' a : ℕ) := by
    rw [putWorth, processedFor]
    cases PutResult.ofArrival a with
    | error f => rfl
    | ok r => exact (Tally.sum_counting _).trans (congrArg Nat.cast (sum_recordsOf base base' r))
  rw [funext worth]
  exact Tally.echoes_counting (Report.countsOnly_recordsOf base') (by decide) (by decide) _

/-- An insertion counts one record if it comes to a result. -/
theorem pays_insert_recordsOf (base base' : String) (r : Record) : (insert base r).Pays
    (.counting (Report.recordsOf base') fun _ => 0)
    (fun owed x => owed = -((if base = base' ∧ x.isOk then 1 else 0 : ℕ) : ℤ)) 0 := by
  have echoes := Tally.echoes_counting (Report.countsOnly_recordsOf base') (by decide) (by decide)
    fun _ => 0
  refine (pays_insert base echoes r 0).mono ?_
  rintro _ x rfl
  cases x with
  | error f => simp [Except.isOk, Except.toBool]
  | ok item =>
    change 0 - ((Report.recordsOf base' (.tick .recordsWritten [("base", base)]) : ℕ) : ℤ) = _
    simp [Report.tick, Report.recordsOf_written, Except.isOk, Except.toBool]

end Base

namespace Walk

/-- How many pages an answer brings. -/
def pagesIn (a : Arrival) : Nat := if (Page.ofArrival a).isOk then 1 else 0

theorem sum_pagesIn (arrived : List (Nat × Arrival)) : (arrived.map fun x => pagesIn x.2).sum =
    ((arrived.map Prod.snd).filterMap fun a => (Page.ofArrival a).toOption).length := by
  induction arrived with
  | nil => rfl
  | cons x rest ih =>
    rw [List.map_cons, List.sum_cons, ih, List.map_cons, List.filterMap_cons, pagesIn]
    cases Page.ofArrival x.2 with
    | error f => exact Nat.zero_add _
    | ok page => exact Nat.add_comm 1 _

/-- A walk counts the pages that its answers bring. -/
theorem isEven_run_pagesIn (bound : Bool) (ref : Nat) (policy : PagePolicy) (budget : Nat) :
    (run bound ref policy budget).IsEven (.counting (Report.amountOf .queryPages) pagesIn) := by
  have worth (a : Arrival) : pageWorth (.counting (Report.amountOf .queryPages) pagesIn)
      (Page.ofArrival a) = (pagesIn a : ℕ) := by
    rw [pageWorth, pagesIn]
    cases (Page.ofArrival a).isOk <;> rfl
  refine isEven_run ?_ (fun _ _ _ _ => rfl) bound ref policy budget
  rw [funext worth]
  exact Tally.echoes_counting (Report.countsOnly_amountOf _) (by decide) (by decide) pagesIn

end Walk
end Depot
