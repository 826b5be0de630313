import Depot.Text.Digits
/-!
# Tables

Keyed entries in an order that every reader sees. A table keeps its keys in
order of first entry, and an entry overwritten keeps its place. The members of a
record are a table whose index keys, the decimal numerals below `2 ^ 32 - 1`,
come first and ascend.
-/
namespace Depot

/-- Entries in order of first entry, each key once. -/
abbrev Table (α : Type) := List (String × α)

namespace Table
variable {α β : Type}

def get? (k : String) : Table α → Option α
  | [] => none
  | (k', v) :: rest => if k' = k then some v else get? k rest

/-- Enters a value; the key keeps its place if it has one. -/
def put (k : String) (v : α) : Table α → Table α
  | [] => [(k, v)]
  | (k', v') :: rest => if k' = k then (k, v) :: rest else (k', v') :: put k v rest

def keys (t : Table α) : List String := t.map Prod.fst

def erase (k : String) (t : Table α) : Table α := t.filter (·.1 ≠ k)

@[simp] theorem get?_put_self (k : String) (v : α) (t : Table α) :
    (t.put k v).get? k = some v := by
  induction t with
  | nil => simp [put, get?]
  | cons e rest ih => by_cases h : e.1 = k <;> simp [put, get?, h, ih]

theorem get?_put_ne {k k' : String} (h : k' ≠ k) (v : α) (t : Table α) :
    (t.put k v).get? k' = t.get? k' := by
  induction t with
  | nil => simp [put, get?, Ne.symm h]
  | cons e rest ih =>
    by_cases he : e.1 = k
    · have : e.1 ≠ k' := fun h' => h (h'.symm.trans he)
      simp [put, get?, he, Ne.symm h]
    · simp [put, get?, he, ih]

theorem get?_map (f : α → β) (k : String) (t : Table α) :
    get? k (t.map fun e => (e.1, f e.2)) = (t.get? k).map f := by
  induction t with
  | nil => rfl
  | cons e rest ih => by_cases h : e.1 = k <;> simp [get?, h, ih]

theorem put_map (f : α → β) (k : String) (v : α) (t : Table α) :
    put k (f v) (t.map fun e => (e.1, f e.2)) = (t.put k v).map fun e => (e.1, f e.2) := by
  induction t with
  | nil => rfl
  | cons e rest ih => by_cases h : e.1 = k <;> simp [put, h, ih]

theorem get?_append_singleton (t : Table α) (k k' : String) (v : α) :
    get? k (t ++ [(k', v)]) = (t.get? k).or (if k' = k then some v else none) := by
  induction t with
  | nil => rfl
  | cons e rest ih => by_cases h : e.1 = k <;> simp [get?, h, ih]

theorem get?_eq_none_iff {k : String} {t : Table α} : t.get? k = none ↔ k ∉ t.keys := by
  induction t with
  | nil => simp [get?, keys]
  | cons e rest ih =>
    by_cases h : e.1 = k
    · simp [get?, keys, h]
    · simpa [get?, keys, h, Ne.symm h] using ih

theorem get?_eq_some_iff {k : String} {v : α} {t : Table α} (h : t.keys.Nodup) :
    t.get? k = some v ↔ (k, v) ∈ t := by
  induction t with
  | nil => simp [get?]
  | cons e rest ih =>
    obtain ⟨fresh, others⟩ := List.nodup_cons.mp h
    obtain ⟨k', v'⟩ := e
    by_cases same : k' = k
    · subst same
      have absent : (k', v) ∉ rest := fun mem => fresh (List.mem_map.mpr ⟨_, mem, rfl⟩)
      simp [get?, absent, eq_comm]
    · simp [get?, same, ih others, Ne.symm same]

theorem get?_erase_self (k : String) (t : Table α) : (t.erase k).get? k = none := by
  rw [get?_eq_none_iff]
  simp [keys, erase]

/-- Leaving out another key does not change what is at a key. -/
theorem get?_erase_ne {k k' : String} (h : k' ≠ k) (t : Table α) :
    (t.erase k).get? k' = t.get? k' := by
  induction t with
  | nil => rfl
  | cons e rest ih =>
    rw [erase] at ih ⊢
    by_cases he : e.1 = k
    · have other : e.1 ≠ k' := fun h' => h (h'.symm.trans he)
      rw [List.filter_cons_of_neg (by simpa using he), ih, get?, if_neg other]
    · rw [List.filter_cons_of_pos (by simpa using he), get?, get?, ih]

theorem mem_keys_put {k k' : String} {v : α} {t : Table α} :
    k' ∈ (t.put k v).keys ↔ k' = k ∨ k' ∈ t.keys := by
  induction t with
  | nil => simp [put, keys]
  | cons e rest ih =>
    rw [keys, keys] at ih
    by_cases h : e.1 = k
    · simp [put, keys, h]
    · simp only [put, keys, h, if_false, List.map_cons, List.mem_cons, ih]
      exact or_left_comm

theorem nodup_keys_put {k : String} {v : α} {t : Table α} (h : t.keys.Nodup) :
    (t.put k v).keys.Nodup := by
  induction t with
  | nil => simp [put, keys]
  | cons e rest ih =>
    obtain ⟨fresh, others⟩ := List.nodup_cons.mp h
    by_cases he : e.1 = k
    · simpa [put, keys, he] using h
    · have absent : e.1 ∉ (put k v rest).keys := by
        rw [mem_keys_put, not_or]
        exact ⟨he, fresh⟩
      simpa [put, keys, he] using List.nodup_cons.mpr ⟨absent, ih others⟩

end Table

namespace Member

/-- The largest number that is an index key. -/
def largestIndex : Nat := 0xFFFFFFFE

/-- The number of a key that is the decimal numeral of an index. -/
def index? (k : String) : Option Nat :=
  match k.toList with
  | [] => none
  | c :: cs =>
    if (c :: cs).all Char.isDigit ∧ (c ≠ '0' ∨ cs = []) then
      let n := Text.digitsValue (c :: cs)
      if n ≤ largestIndex then some n else none
    else none

/-- Whether a key that enters a record goes in front of a key that is there. -/
def precedes (k k' : String) : Bool :=
  match index? k, index? k' with
  | some i, some j => i < j
  | some _, none => true
  | none, _ => false

variable {α : Type}

/-- Enters a member at its place in the order of members. -/
def insert (k : String) (v : α) : Table α → Table α
  | [] => [(k, v)]
  | (k', v') :: rest =>
    if k' = k then (k, v) :: rest
    else if precedes k k' then (k, v) :: (k', v') :: rest
    else (k', v') :: insert k v rest

/-- The members that entries make, entered one after another. -/
def ofEntries (entries : List (String × α)) : Table α :=
  entries.foldl (fun t e => insert e.1 e.2 t) []

@[simp] theorem get?_insert_self (k : String) (v : α) (t : Table α) :
    Table.get? k (insert k v t) = some v := by
  induction t with
  | nil => simp [insert, Table.get?]
  | cons e rest ih =>
    by_cases h : e.1 = k
    · simp [insert, Table.get?, h]
    · by_cases hp : precedes k e.1 <;> simp [insert, Table.get?, h, hp, ih]

theorem get?_insert_ne {k k' : String} (h : k' ≠ k) (v : α) (t : Table α) :
    Table.get? k' (insert k v t) = Table.get? k' t := by
  induction t with
  | nil => simp [insert, Table.get?, Ne.symm h]
  | cons e rest ih =>
    by_cases he : e.1 = k
    · simp [insert, Table.get?, he, Ne.symm h]
    · by_cases hp : precedes k e.1 <;> simp [insert, Table.get?, he, hp, ih, Ne.symm h]

theorem mem_keys_insert {k k' : String} {v : α} {t : Table α} :
    k' ∈ Table.keys (insert k v t) ↔ k' = k ∨ k' ∈ t.keys := by
  induction t with
  | nil => simp [insert, Table.keys]
  | cons e rest ih =>
    rw [Table.keys, Table.keys] at ih
    by_cases h : e.1 = k
    · simp [insert, Table.keys, h]
    · by_cases hp : precedes k e.1
      · simp [insert, Table.keys, h, hp]
      · simp only [insert, Table.keys, h, hp, if_false, Bool.false_eq_true, List.map_cons,
          List.mem_cons, ih]
        exact or_left_comm

theorem nodup_keys_insert {k : String} {v : α} {t : Table α} (h : t.keys.Nodup) (hk : k ∉ t.keys) :
    (Table.keys (insert k v t)).Nodup := by
  induction t with
  | nil => simp [insert, Table.keys]
  | cons e rest ih =>
    obtain ⟨fresh, others⟩ := List.nodup_cons.mp h
    have other : e.1 ≠ k := fun he => hk (he ▸ List.mem_cons_self ..)
    by_cases hp : precedes k e.1
    · simpa [insert, other, hp, Table.keys] using And.intro hk h
    · have absent : e.1 ∉ Table.keys (insert k v rest) := by
        rw [mem_keys_insert, not_or]
        exact ⟨other, fresh⟩
      have rest_nodup := ih others fun h' => hk (List.mem_cons_of_mem _ h')
      simpa [insert, other, hp, Table.keys] using List.nodup_cons.mpr ⟨absent, rest_nodup⟩

end Member
end Depot
