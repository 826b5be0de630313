import Mathlib.Algebra.BigOperators.Group.List.Basic
import Depot.Proofs.Report.Failures
import Depot.Proofs.World.Courses
/-!
# What metrics hold

The totals of the series of a metric add up to what was reported of it, and so do those of the
requests with one method, and the samples of a series. A key begins with the name of its metric, up
to the first brace, and the labels of a request have the method in front.
-/
namespace Depot

/-! ### Keys -/

section Keys
variable (name k v : String) (labels : Labels)

theorem toList_seriesKey : ∃ rest, (seriesKey name labels).toList = name.toList ++ rest ∧
    rest.takeWhile (· ≠ '\x7B') = [] := by
  rw [seriesKey]
  simp only
  split
  · exact ⟨[], (List.append_nil _).symm, rfl⟩
  · refine ⟨_, by rw [String.append_assoc, String.append_assoc, String.toList_append], ?_⟩
    rw [String.toList_append]
    rfl

theorem toList_seriesKey_singleton : (seriesKey name [(k, v)]).toList =
    name.toList ++ '\x7B' :: (k.toList ++ '=' :: (v.toList ++ ['\x7D'])) := by
  simp [seriesKey, Sorting.sorted, Sorting.insert]

theorem seriesKey_singleton_inj {v v' : String} :
    seriesKey name [(k, v)] = seriesKey name [(k, v')] ↔ v = v' := by
  rw [← String.toList_inj, toList_seriesKey_singleton, toList_seriesKey_singleton]
  simp [String.toList_inj]

end Keys

namespace Metric

/-- Whether a key is that of a series of a metric. -/
def keys (m : Metric) (key : String) : Bool := key.toList.takeWhile (· ≠ '\x7B') = m.name.toList

theorem name_injective {m m' : Metric} (h : m.name = m'.name) : m = m' := by
  cases m <;> cases m' <;> first | rfl | exact absurd h (by decide)

theorem takeWhile_name (m : Metric) {rest : List Char}
    (ends : rest.takeWhile (· ≠ '\x7B') = []) :
    (m.name.toList ++ rest).takeWhile (· ≠ '\x7B') = m.name.toList := by
  have plain : m.name.toList.all (· ≠ '\x7B') = true := by cases m <;> rfl
  rw [List.takeWhile_append_of_pos (List.all_eq_true.mp plain), ends, List.append_nil]

theorem keys_seriesKey (m m' : Metric) (labels : Labels) :
    m.keys (seriesKey m'.name labels) = decide (m' = m) := by
  obtain ⟨rest, key, ends⟩ := toList_seriesKey m'.name labels
  rw [keys, key, m'.takeWhile_name ends, decide_eq_decide, String.toList_inj]
  exact ⟨name_injective, congrArg name⟩

/-- Series of different metrics have different keys. -/
theorem eq_of_seriesKey {m m' : Metric} {labels labels' : Labels}
    (h : seriesKey m.name labels = seriesKey m'.name labels') : m = m' := by
  have same := m'.keys_seriesKey m labels
  rw [h, keys_seriesKey, decide_eq_true rfl] at same
  exact of_decide_eq_true same.symm

end Metric

namespace Method

/-- What the keys of the series of requests with a method begin with. -/
def front (method : Method) : List Char :=
  (Metric.requestsTotal.name ++ "\x7Bmethod=" ++ method.text ++ ",").toList

/-- Whether a key is that of a series of requests with a method. -/
def keys (method : Method) (key : String) : Bool := method.front.isPrefixOf key.toList

theorem keys_seriesKey (method method' : Method) (status : String) :
    method.keys (seriesKey Metric.requestsTotal.name
      [("method", method'.text), ("status", status)]) = decide (method' = method) := by
  have order : Text.Collation.le "method" "status" = true := by decide +kernel
  have key : (seriesKey Metric.requestsTotal.name
      [("method", method'.text), ("status", status)]).toList =
      method'.front ++ ("status=" ++ status ++ "\x7D").toList := by
    simp [seriesKey, Sorting.sorted, Sorting.insert, order, front]
  rw [keys, key]
  cases method <;> cases method' <;> simp [front, text, Metric.name, List.isPrefixOf]

/-- Only requests are counted by their method. -/
theorem keys_seriesKey_other (method : Method) {m : Metric} (other : m ≠ .requestsTotal)
    (labels : Labels) : method.keys (seriesKey m.name labels) = false := by
  refine Bool.eq_false_iff.mpr fun starts => ?_
  obtain ⟨rest, key⟩ := List.isPrefixOf_iff_prefix.mp starts
  have own : Metric.requestsTotal.keys (seriesKey m.name labels) = true := by
    rw [Metric.keys, ← key, front, String.append_assoc, String.append_assoc, String.toList_append,
      List.append_assoc, Metric.takeWhile_name, decide_eq_true rfl]
    rw [String.toList_append]
    rfl
  rw [Metric.keys_seriesKey] at own
  exact other (of_decide_eq_true own)

end Method

/-! ### Tables -/

namespace Metrics

/-- The sum of the totals whose keys satisfy `p`. -/
def sumWhere (p : String → Bool) (ms : Metrics Nat) : Nat :=
  ((ms.totals.filter fun e => p e.1).map Prod.snd).sum

variable (ms : Metrics Nat) (p : String → Bool) (name : String) (labels : Labels)

theorem sumWhere_increment (amount : Nat) : (ms.increment name amount labels).sumWhere p =
    ms.sumWhere p + if p (seriesKey name labels) then amount else 0 := by
  have all (key : String) (totals : Table Nat) :
      (((totals.put key ((totals.get? key).getD 0 + amount)).filter fun e => p e.1).map
        Prod.snd).sum =
      ((totals.filter fun e => p e.1).map Prod.snd).sum + if p key then amount else 0 := by
    induction totals with
    | nil => cases h : p key <;> simp [Table.put, Table.get?, h]
    | cons e rest ih =>
      by_cases same : e.1 = key
      · subst same
        cases h : p e.1 <;> simp [Table.put, Table.get?, h, Nat.add_right_comm]
      · cases h : p e.1 <;> simp [Table.put, Table.get?, same, h, ih, Nat.add_assoc]
  exact all _ _

theorem counter_increment (name' : String) (labels' : Labels) (amount : Nat) :
    (ms.increment name' amount labels').counter name labels = ms.counter name labels +
      if seriesKey name' labels' = seriesKey name labels then amount else 0 := by
  rw [counter, counter, totalAt, increment]
  by_cases same : seriesKey name' labels' = seriesKey name labels
  · rw [same, Table.get?_put_self, if_pos rfl]
    rfl
  · rw [Table.get?_put_ne (Ne.symm same), if_neg same]
    rfl

theorem length_timings_record (name' : String) (ms' : Float) (labels' : Labels) :
    ((ms.record name' ms' labels').timings name labels).length =
      (ms.timings name labels).length +
        if seriesKey name' labels' = seriesKey name labels then 1 else 0 := by
  rw [timings, timings, samplesAt, record]
  by_cases same : seriesKey name' labels' = seriesKey name labels
  · rw [same, Table.get?_put_self, if_pos rfl, Option.getD_some, List.length_append]
    rfl
  · rw [Table.get?_put_ne (Ne.symm same), if_neg same]
    rfl

end Metrics

/-! ### Reports -/

namespace Report

/-- What a report adds to the totals whose keys satisfy `p`. -/
def countsWhere (p : String → Bool) : Report → Nat
  | .count m amount labels => if p (seriesKey m.name labels) then amount else 0
  | _ => 0

/-- How many samples a report adds to a series. -/
def samplesOf (m : Metric) (labels : Labels) : Report → Nat
  | .time m' _ labels' => if seriesKey m'.name labels' = seriesKey m.name labels then 1 else 0
  | _ => 0

theorem sum_amountOf (m : Metric) (rs : List Report) :
    (rs.map (amountOf m)).sum = total m rs := by
  induction rs with
  | nil => rfl
  | cons r rest ih => rw [List.map_cons, List.sum_cons, ih, total]

theorem countsWhere_keys (m : Metric) (r : Report) : r.countsWhere m.keys = r.amountOf m := by
  cases r with
  | log | time => rfl
  | count m' amount labels => simp [countsWhere, amountOf, Metric.keys_seriesKey]

end Report

namespace Meter

/-- What adds up report by report adds up over all. -/
theorem foldl_heard (value : Metrics Nat → Nat) (adds : Report → Nat)
    (each : ∀ ms r, value ((kept ms).heard r).metrics = value ms + adds r) (ms : Metrics Nat)
    (rs : List Report) : ∃ ms', rs.foldl heard (kept ms) = .kept ms' ∧
      value ms' = value ms + (rs.map adds).sum := by
  induction rs generalizing ms with
  | nil => exact ⟨ms, rfl, rfl⟩
  | cons r rest ih =>
    obtain ⟨ms₁, first⟩ : ∃ ms₁, (kept ms).heard r = .kept ms₁ := by cases r <;> exact ⟨_, rfl⟩
    obtain ⟨ms', all, sum⟩ := ih ms₁
    have own := each ms r
    rw [first] at own
    refine ⟨ms', by rw [List.foldl_cons, first, all], ?_⟩
    rw [sum, List.map_cons, List.sum_cons, ← Nat.add_assoc]
    exact congrArg (· + _) own

end Meter

/-- The metrics after some reports. -/
def Report.metricsOf (rs : List Report) : Metrics Nat :=
  (rs.foldl Meter.heard (.kept .empty)).metrics

namespace Report
variable (rs : List Report)

theorem value_metricsOf (value : Metrics Nat → Nat) (adds : Report → Nat)
    (each : ∀ ms r, value ((Meter.kept ms).heard r).metrics = value ms + adds r)
    (empty : value .empty = 0) : value (metricsOf rs) = (rs.map adds).sum := by
  obtain ⟨ms, all, sum⟩ := Meter.foldl_heard value adds each .empty rs
  rw [empty, Nat.zero_add] at sum
  rw [metricsOf, all]
  exact sum

theorem sumWhere_metricsOf (p : String → Bool) :
    (metricsOf rs).sumWhere p = (rs.map (countsWhere p)).sum := by
  refine value_metricsOf rs (Metrics.sumWhere p) (countsWhere p) (fun ms r => ?_) rfl
  cases r with
  | log | time => rfl
  | count m amount labels => exact ms.sumWhere_increment p m.name labels amount

theorem sumWhere_keys_metricsOf (m : Metric) : (metricsOf rs).sumWhere m.keys = total m rs := by
  rw [sumWhere_metricsOf, funext (countsWhere_keys m), sum_amountOf]

theorem counter_metricsOf (m : Metric) (labels : Labels) : (metricsOf rs).counter m.name labels =
    (rs.map (countsWhere (· = seriesKey m.name labels))).sum := by
  refine value_metricsOf rs (fun ms => ms.counter m.name labels) _ (fun ms r => ?_) rfl
  cases r with
  | log | time => rfl
  | count m' amount labels' =>
    have added := ms.counter_increment m.name labels m'.name labels' amount
    simp only [countsWhere, decide_eq_true_eq]
    exact added

theorem length_timings_metricsOf (m : Metric) (labels : Labels) :
    ((metricsOf rs).timings m.name labels).length = (rs.map (samplesOf m labels)).sum := by
  refine value_metricsOf rs (fun ms => (ms.timings m.name labels).length) _ (fun ms r => ?_) rfl
  cases r with
  | log | count => rfl
  | time m' sample labels' => exact ms.length_timings_record m.name labels m'.name sample labels'

end Report
end Depot
