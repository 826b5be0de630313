import Mathlib.Data.List.Basic
import Mathlib.Data.List.Induction
import Mathlib.Order.WithBot
import Depot.Sorting
import Depot.Table
/-!
# Tables from entries

What a table holds into which entries are put one after another: each key once, at its first entry and
with the value of its last. Entries that make the members of a record come in the order of members
instead; if their keys are different, nothing else changes.
-/
namespace Depot

namespace Table
variable {α : Type} {k : String} {v : α} {t entries : Table α} {e : String × α}

theorem keys_put (k : String) (v : α) (t : Table α) :
    (t.put k v).keys = if k ∈ t.keys then t.keys else t.keys ++ [k] := by
  induction t with
  | nil => rfl
  | cons e rest ih =>
    simp only [keys] at ih
    by_cases same : e.1 = k
    · simp [put, keys, same]
    · by_cases later : k ∈ rest.map Prod.fst
      · simp [put, keys, same, ih, later]
      · simp [put, keys, same, Ne.symm same, ih, later]

theorem erase_put_self (k : String) (v : α) (t : Table α) : (t.put k v).erase k = t.erase k := by
  induction t with
  | nil => simp [put, erase]
  | cons e rest ih =>
    by_cases h : e.1 = k
    · simp [put, erase, h]
    · simpa [put, erase, h] using ih

theorem erase_comm (k k' : String) (t : Table α) : (t.erase k).erase k' = (t.erase k').erase k := by
  simp [erase, List.filter_filter, Bool.and_comm]

/-- A table is told by its keys and what is at them. -/
theorem filterMap_keys (once : t.keys.Nodup) :
    t.keys.filterMap (fun k => (t.get? k).map (Prod.mk k)) = t := by
  induction t with
  | nil => rfl
  | cons e rest ih =>
    obtain ⟨fresh, others⟩ := List.nodup_cons.mp once
    have same : (keys rest).filterMap (fun k => (get? k (e :: rest)).map (Prod.mk k)) =
        (keys rest).filterMap fun k => (get? k rest).map (Prod.mk k) := by
      refine List.filterMap_congr fun k hk => ?_
      have other : e.1 ≠ k := fun same => fresh (same ▸ hk)
      rw [get?, if_neg other]
    have first : get? e.1 (e :: rest) = some e.2 := if_pos rfl
    rw [keys, List.map_cons, List.filterMap_cons_some (b := e) (by rw [first]; rfl), ← keys, same,
      ih others]

/-- What is entered last under a key. -/
def last? (k : String) (entries : Table α) : Option α :=
  (entries.reverse.find? (·.1 = k)).map Prod.snd

theorem last?_append_singleton (k : String) (entries : Table α) (e : String × α) :
    last? k (entries ++ [e]) = if e.1 = k then some e.2 else last? k entries := by
  by_cases h : e.1 = k <;> simp [last?, h]

/-- The table into which entries are put one after another. -/
def putAll (entries : Table α) : Table α := entries.foldl (fun t e => t.put e.1 e.2) []

theorem putAll_append_singleton (entries : Table α) (e : String × α) :
    putAll (entries ++ [e]) = (putAll entries).put e.1 e.2 := by simp [putAll]

theorem keys_putAll (entries : Table α) : (putAll entries).keys = entries.keys.eraseDups := by
  induction entries using List.reverseRecOn with
  | nil => rfl
  | append_singleton entries e ih =>
    have keys_concat : keys (entries ++ [e]) = keys entries ++ [e.1] := by simp [keys]
    rw [putAll_append_singleton, keys_put, ih, keys_concat, List.eraseDups_append, List.removeAll]
    by_cases known : e.1 ∈ keys entries <;>
      simp [known, List.mem_eraseDups, List.eraseDups_cons]

theorem nodup_keys_putAll (entries : Table α) : (putAll entries).keys.Nodup := by
  induction entries using List.reverseRecOn with
  | nil => exact List.nodup_nil
  | append_singleton entries e ih =>
    rw [putAll_append_singleton]
    exact nodup_keys_put ih

theorem get?_putAll (k : String) (entries : Table α) : (putAll entries).get? k = entries.last? k := by
  induction entries using List.reverseRecOn with
  | nil => rfl
  | append_singleton entries e ih =>
    rw [putAll_append_singleton, last?_append_singleton, ← ih]
    by_cases same : e.1 = k
    · rw [if_pos same, ← same, get?_put_self]
    · rw [if_neg same, get?_put_ne (Ne.symm same)]

theorem last?_eq_none_iff : entries.last? k = none ↔ k ∉ entries.keys := by
  rw [← get?_putAll, get?_eq_none_iff, keys_putAll, List.mem_eraseDups]

/-- Each key is there once, at its first entry and with the value of its last. -/
theorem putAll_eq (entries : Table α) : putAll entries =
    entries.keys.eraseDups.filterMap fun k => (entries.last? k).map (k, ·) := by
  rw [← filterMap_keys (nodup_keys_putAll entries), keys_putAll]
  exact List.filterMap_congr fun k _ => by rw [get?_putAll]

end Table

namespace Member
variable {α : Type} {k : String} {v : α} {t entries : Table α} {e : String × α}

theorem insert_eq_put (named : index? k = none) (v : α) (t : Table α) :
    insert k v t = t.put k v := by
  induction t with
  | nil => rfl
  | cons e rest ih =>
    -- a key without an index goes before no other
    have behind : precedes k e.1 = false := by rw [precedes, named]
    simp [insert, Table.put, behind, ih]

theorem ofEntries_append_singleton (entries : List (String × α)) (e : String × α) :
    ofEntries (entries ++ [e]) = insert e.1 e.2 (ofEntries entries) := by
  simp [ofEntries]

theorem get?_foldl_insert (k : String) (entries t : Table α) :
    Table.get? k (entries.foldl (fun t e => insert e.1 e.2 t) t) =
      (entries.last? k).or (t.get? k) := by
  induction entries using List.reverseRecOn with
  | nil => rfl
  | append_singleton rest e ih =>
    rw [List.foldl_concat, Table.last?_append_singleton]
    by_cases h : e.1 = k
    · rw [if_pos h, ← h, get?_insert_self, Option.some_or]
    · rw [if_neg h, get?_insert_ne (Ne.symm h), ih]

/-- Entries with different keys are the members that they make, but for the order. -/
theorem ofEntries_of_nodup (h : entries.keys.Nodup) :
    (Table.keys (ofEntries entries)).Nodup ∧
    ∀ k, Table.get? k (ofEntries entries) = entries.get? k := by
  induction entries using List.reverseRecOn with
  | nil => exact ⟨List.nodup_nil, fun _ => rfl⟩
  | append_singleton entries e ih =>
    obtain ⟨k, v⟩ := e
    rw [Table.keys, List.map_append, List.nodup_append] at h
    have fresh : k ∉ Table.keys entries := fun hk => h.2.2 k hk k (by simp) rfl
    obtain ⟨nodup, same⟩ := ih h.1
    have fresh' : k ∉ Table.keys (ofEntries entries) := by
      rw [← Table.get?_eq_none_iff, same k]
      exact Table.get?_eq_none_iff.mpr fresh
    rw [ofEntries_append_singleton]
    refine ⟨nodup_keys_insert nodup fresh', fun k' => ?_⟩
    rw [Table.get?_append_singleton]
    by_cases hk : k = k'
    · subst hk
      rw [get?_insert_self, Table.get?_eq_none_iff.mpr fresh, if_pos rfl, Option.none_or]
    · rw [get?_insert_ne (Ne.symm hk), same k', if_neg hk, Option.or_none]

/-! ## The order of members -/

/-- Where a key stands: at its index, or behind all keys that have one. -/
def place (k : String) : WithTop Nat := (index? k).elim ⊤ WithTop.some

theorem precedes_iff {k k' : String} : precedes k k' = true ↔ place k < place k' := by
  unfold precedes place
  cases index? k <;> cases index? k' <;> simp

/-- The members of a record in their order: those with an index first, ascending, and then the
others as they are. -/
def arranged (t : Table α) : Table α := Sorting.sorted (fun a b => place a.1 ≤ place b.1) t

theorem insert_sorted_insert (other : e.1 ≠ k) (fresh : k ∉ t.keys) :
    Sorting.insert (fun a b => place a.1 ≤ place b.1) e (insert k v t) =
      insert k v (Sorting.insert (fun a b => place a.1 ≤ place b.1) e t) := by
  induction t with
  | nil =>
    by_cases first : place k < place e.1
    · simp [insert, Sorting.insert, precedes_iff, other, first]
    · simp [insert, Sorting.insert, precedes_iff, other, first, not_lt.mp first]
  | cons x rest ih =>
    obtain ⟨distinct, fresh⟩ : x.1 ≠ k ∧ k ∉ Table.keys rest := by
      simpa [Table.keys, eq_comm] using fresh
    -- where the two new members stand to the first one, and to each other if both go before it
    by_cases before : place e.1 ≤ place x.1 <;> by_cases first : place k < place x.1
    · by_cases next : place k < place e.1
      · have next' : ¬ place e.1 ≤ place k := not_le.mpr next
        simp [insert, Sorting.insert, precedes_iff, other, distinct, before, first, next, next']
      · simp [insert, Sorting.insert, precedes_iff, other, distinct, before, first, next,
          not_lt.mp next]
    · have next : ¬ place k < place e.1 := fun less => first (less.trans_le before)
      simp [insert, Sorting.insert, precedes_iff, other, distinct, before, first, next]
    · have next : ¬ place e.1 ≤ place k := fun le => before (le.trans first.le)
      simp [insert, Sorting.insert, precedes_iff, distinct, before, first, next]
    · simp [insert, Sorting.insert, precedes_iff, distinct, before, first, ih fresh]

theorem arranged_append_singleton (fresh : e.1 ∉ t.keys) :
    arranged (t ++ [e]) = insert e.1 e.2 (arranged t) := by
  induction t with
  | nil => rfl
  | cons x rest ih =>
    obtain ⟨distinct, fresh⟩ : x.1 ≠ e.1 ∧ e.1 ∉ Table.keys rest := by
      simpa [Table.keys, eq_comm] using fresh
    have fresh' : e.1 ∉ Table.keys (arranged rest) := fun he =>
      fresh (((Sorting.sorted_perm _ rest).map Prod.fst).mem_iff.mp he)
    rw [List.cons_append, arranged, Sorting.sorted, ← arranged, ih fresh,
      insert_sorted_insert distinct fresh']
    rfl

theorem ofEntries_eq_arranged (once : entries.keys.Nodup) :
    ofEntries entries = arranged entries := by
  induction entries using List.reverseRecOn with
  | nil => rfl
  | append_singleton entries e ih =>
    rw [Table.keys, List.map_append, List.nodup_append] at once
    have fresh : e.1 ∉ Table.keys entries := fun he => once.2.2 e.1 he e.1 (by simp) rfl
    rw [ofEntries_append_singleton, ih once.1, arranged_append_singleton fresh]

end Member
end Depot
