import Depot.Decode.Item
import Depot.Proofs.Value.Parsing
/-!
# Values of JSON pass

The decoder of JSON values is the one that it refers to, however far it is unrolled. It takes every
value of JSON as it is, at every depth and in its order, but for the members that records do not
keep; and what is merged with a part of itself stays the same.
-/
namespace Depot
namespace Value

mutual

/-- A value without the members that records do not keep, at any depth. -/
def pruned : Value → Value
  | .list items => .list (prunedItems items)
  | .record fields => .record (prunedFields fields)
  | v => v

def prunedItems : List Value → List Value
  | [] => []
  | v :: rest => pruned v :: prunedItems rest

def prunedFields : List (String × Value) → List (String × Value)
  | [] => []
  | (k, v) :: rest =>
    if k = prototypeKey then prunedFields rest else (k, pruned v) :: prunedFields rest

end

theorem get?_prunedFields {k : String} (kept : k ≠ prototypeKey) (fields : Fields) :
    Table.get? k (prunedFields fields) = (Table.get? k fields).map pruned := by
  induction fields with
  | nil => rfl
  | cons e rest ih =>
    obtain ⟨k', v⟩ := e
    rw [prunedFields]
    by_cases dropped : k' = prototypeKey
    · have other : k' ≠ k := fun same => kept (same ▸ dropped)
      rw [if_pos dropped, ih, Table.get?, if_neg other]
    · rw [if_neg dropped]
      by_cases same : k' = k
      · rw [Table.get?, if_pos same, Table.get?, if_pos same, Option.map_some]
      · rw [Table.get?, if_neg same, Table.get?, if_neg same, ih]

theorem keys_prunedFields_sublist (fields : Fields) :
    (Table.keys (prunedFields fields)).Sublist (Table.keys fields) := by
  induction fields with
  | nil => exact .slnil
  | cons e rest ih =>
    rw [prunedFields]
    split
    · exact ih.cons _
    · exact ih.cons_cons _

theorem depth_le_of_mem {v : Value} {items : List Value} (h : v ∈ items) :
    v.depth ≤ depthOfItems items := by
  induction items with
  | nil => cases h
  | cons w rest ih =>
    rw [depthOfItems]
    rcases List.mem_cons.mp h with rfl | h
    · exact Nat.le_max_left ..
    · exact Nat.le_trans (ih h) (Nat.le_max_right ..)

theorem depth_le_of_mem_fields {e : String × Value} {fields : Fields} (h : e ∈ fields) :
    e.2.depth ≤ depthOfFields fields := by
  induction fields with
  | nil => cases h
  | cons e' rest ih =>
    rw [depthOfFields]
    rcases List.mem_cons.mp h with rfl | h
    · exact Nat.le_max_left ..
    · exact Nat.le_trans (ih h) (Nat.le_max_right ..)

end Value

namespace Decoder
variable {α : Type} {d d' : Decoder α}

theorem items_congr {vs : List Value} (h : ∀ v ∈ vs, d v = d' v) (i : Nat) :
    items d i vs = items d' i vs := by
  induction vs generalizing i with
  | nil => rfl
  | cons v rest ih =>
    obtain ⟨first, others⟩ := List.forall_mem_cons.mp h
    rw [items, items, first, ih others]

theorem members_congr {fields : Fields} (h : ∀ e ∈ fields, d e.2 = d' e.2) :
    members d fields = members d' fields := by
  induction fields with
  | nil => rfl
  | cons e rest ih =>
    obtain ⟨first, others⟩ := List.forall_mem_cons.mp h
    rw [members, members, first, ih others]

/-! ## Options -/

section Options
variable {v : Value} {spoilt : Option (Decoded α)} {ds ds' : List (Decoder α)}

theorem firstOf_of_mismatch (h : (d v).data? = none) :
    firstOf v spoilt (d :: ds) = firstOf v spoilt ds := by
  cases spoilt <;> simp [firstOf, h]

theorem firstOf_of_ok {a : α} (h : d v = .ok a) : firstOf v spoilt (d :: ds) = .ok a := by
  cases spoilt <;> simp [firstOf, h, Decoded.ok]

theorem firstOf_congr (h : List.Forall₂ (fun d d' => d v = d' v) ds ds') :
    firstOf v spoilt ds = firstOf v spoilt ds' := by
  induction h generalizing spoilt with
  | nil => rfl
  | cons same _ ih => cases spoilt <;> simp only [firstOf, same, ih]

end Options

/-! ## Unrolling -/

/-- What is around other values depends on their decoder only for the values that are inside. -/
theorem jsonAround_congr {inner inner' : Decoder Value} {v : Value}
    (list : ∀ items, v = .list items → ∀ w ∈ items, inner w = inner' w)
    (record : ∀ fields, v = .record fields → ∀ e ∈ fields, inner e.2 = inner' e.2) :
    jsonAround inner v = jsonAround inner' v := by
  have lists : Decoder.list inner v = Decoder.list inner' v := by
    cases v with
    | list items => exact items_congr (list items rfl) 0
    | _ => rfl
  have tables : table inner v = table inner' v := by
    cases v with
    | record fields => exact members_congr (record fields rfl)
    | _ => rfl
  apply firstOf_congr
  simp [map, lists, tables]

theorem jsonWithin_eq {m n : Nat} {v : Value} (hm : v.depth < m) (hn : v.depth < n) :
    jsonWithin m v = jsonWithin n v := by
  induction m generalizing n v with
  | zero => cases hm
  | succ m ih =>
    cases n with
    | zero => cases hn
    | succ n =>
      apply jsonAround_congr
      · rintro items rfl w mem
        have := Value.depth_le_of_mem mem
        rw [Value.depth] at hm hn
        exact ih (by omega) (by omega)
      · rintro fields rfl e mem
        have := Value.depth_le_of_mem_fields mem
        rw [Value.depth] at hm hn
        exact ih (by omega) (by omega)

/-- The decoder of JSON values is around itself. -/
theorem json_eq (v : Value) : json v = jsonAround json v := by
  apply jsonAround_congr
  · rintro items rfl w mem
    have := Value.depth_le_of_mem mem
    apply jsonWithin_eq
    · rw [Value.depth]
      omega
    · exact Nat.lt_succ_self _
  · rintro fields rfl e mem
    have := Value.depth_le_of_mem_fields mem
    apply jsonWithin_eq
    · rw [Value.depth]
      omega
    · exact Nat.lt_succ_self _

/-! ## Accepting -/

theorem items_eq_pruned {d : Decoder Value} {vs : List Value} (h : ∀ v ∈ vs, d v = .ok v.pruned)
    (i : Nat) : items d i vs = .ok (Value.prunedItems vs) := by
  induction vs generalizing i with
  | nil => rfl
  | cons v rest ih =>
    obtain ⟨first, others⟩ := List.forall_mem_cons.mp h
    rw [items, first, ih others]
    rfl

theorem members_eq_pruned {d : Decoder Value} {fields : Fields}
    (h : ∀ e ∈ fields, d e.2 = .ok e.2.pruned) :
    members d fields = .ok (Value.prunedFields fields) := by
  induction fields with
  | nil => rfl
  | cons e rest ih =>
    obtain ⟨first, others⟩ := List.forall_mem_cons.mp h
    obtain ⟨k, v⟩ := e
    rw [members, first, ih others, Value.prunedFields]
    split <;> rename_i kept <;>
      simp [Decoded.ok, Decoded.under, Decoded.map, Decoded.both, kept]

section Around
variable {inner : Decoder Value}

theorem jsonAround_number {x : Float} (h : x.isNaN = false) :
    jsonAround inner (.number x) = .ok (.number x) := by
  rw [jsonAround, union, firstOf_of_mismatch rfl]
  apply firstOf_of_ok
  rw [map, number, h]
  rfl

theorem jsonAround_list {items others : List Value}
    (h : list inner (.list items) = .ok others) :
    jsonAround inner (.list items) = .ok (.list others) := by
  rw [jsonAround, union, firstOf_of_mismatch rfl, firstOf_of_mismatch rfl, firstOf_of_mismatch rfl,
    firstOf_of_mismatch rfl]
  apply firstOf_of_ok
  rw [map, h]
  rfl

theorem jsonAround_record {fields others : Fields} (h : table inner (.record fields) = .ok others) :
    jsonAround inner (.record fields) = .ok (.record others) := by
  rw [jsonAround, union, firstOf_of_mismatch rfl, firstOf_of_mismatch rfl, firstOf_of_mismatch rfl,
    firstOf_of_mismatch rfl, firstOf_of_mismatch rfl]
  apply firstOf_of_ok
  rw [map, h]
  rfl

end Around

/-- A value of JSON is accepted as it is, without the members that records do not keep. -/
theorem json_of_isJson {v : Value} (h : v.IsJson) : json v = .ok v.pruned := by
  induction h with
  | null => rfl
  | bool b => rfl
  | text s => rfl
  | number number =>
    rw [json_eq]
    exact jsonAround_number number
  | list _ ih =>
    rw [json_eq, Value.pruned]
    exact jsonAround_list (items_eq_pruned ih 0)
  | record _ _ ih =>
    rw [json_eq, Value.pruned]
    exact jsonAround_record (members_eq_pruned ih)

/-- A record of JSON as one with any members. -/
theorem table_of_isJson {fields : Fields} (h : Value.IsJson (.record fields)) :
    table json (.record fields) = .ok (Value.prunedFields fields) := by
  cases h with
  | record _ inside => exact members_eq_pruned fun e mem => json_of_isJson (inside e mem)

end Decoder

/-! ## Merging -/

namespace Value

theorem mergeMembers?_eq_self {fields : Fields} {k s : String}
    (own : ∀ e ∈ fields, e.1 = k → e.2 = .text s) :
    mergeMembers? fields [(k, .text s)] = some fields := by
  induction fields with
  | nil => rfl
  | cons e rest ih =>
    obtain ⟨first, others⟩ := List.forall_mem_cons.mp own
    obtain ⟨k', v⟩ := e
    rw [mergeMembers?, ih others]
    by_cases same : k' = k
    · have text : v = .text s := first same
      subst same text
      simp [Table.get?, merge?]
    · simp [Table.get?, Ne.symm same]

/-- A record that is merged with one of its members stays the same. -/
theorem mergeRecords?_eq_self {fields : Fields} {k s : String} (nodup : (Table.keys fields).Nodup)
    (own : Table.get? k fields = some (.text s)) :
    mergeRecords? fields [(k, .text s)] = some fields := by
  have unique : ∀ e ∈ fields, e.1 = k → e.2 = .text s := by
    rintro ⟨k', v⟩ mem rfl
    have found := (Table.get?_eq_some_iff nodup).mpr mem
    exact Option.some.inj (found.symm.trans own)
  simp [mergeRecords?, mergeMembers?_eq_self unique, addOthers, own]

end Value
end Depot
