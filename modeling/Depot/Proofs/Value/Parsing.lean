import Depot.Proofs.Number.Decimal
import Depot.Value.Parsing
/-!
# What a JSON text holds

A JSON text holds a value of JSON: nothing but null, truth values, numbers, texts, lists and records,
at every depth, and no record with two members of one name. Index keys stand in front of the others
and ascend, so a member that enters a record finds the one of its name, if there is one.
-/
namespace Depot

namespace Member
variable {α : Type} {t : Table α} {k : String} {v : α}

theorem precedes_trans {a b c : String} (h : precedes a b) (h' : precedes b c) : precedes a c := by
  unfold precedes at *
  split at h <;> split at h' <;> simp_all
  omega

theorem not_precedes_self (a : String) : precedes a a = false := by
  unfold precedes
  split <;> simp_all

/-- Whether no member stands behind one that it precedes. -/
def Ordered (t : Table α) : Prop := t.Pairwise fun e e' => precedes e'.1 e.1 = false

theorem mem_insert {e : String × α} (h : e ∈ insert k v t) : e = (k, v) ∨ e ∈ t := by
  induction t with
  | nil => exact .inl (List.mem_singleton.mp h)
  | cons e' rest ih =>
    by_cases same : e'.1 = k
    · rw [insert, if_pos same] at h
      exact (List.mem_cons.mp h).imp_right (List.mem_cons_of_mem e')
    · by_cases first : precedes k e'.1
      · rw [insert, if_neg same, if_pos first] at h
        exact List.mem_cons.mp h
      · rw [insert, if_neg same, if_neg first] at h
        rcases List.mem_cons.mp h with rfl | h
        · exact .inr (List.mem_cons_self ..)
        · exact (ih h).imp_right (List.mem_cons_of_mem e')

theorem Ordered.insert (h : Ordered t) : Ordered (insert k v t) := by
  induction t with
  | nil => exact List.pairwise_singleton ..
  | cons e rest ih =>
    obtain ⟨behind, ordered⟩ := List.pairwise_cons.mp h
    by_cases same : e.1 = k
    · rw [Member.insert, if_pos same]
      exact List.pairwise_cons.mpr ⟨fun e' mem => same ▸ behind e' mem, ordered⟩
    · by_cases first : precedes k e.1
      · rw [Member.insert, if_neg same, if_pos first]
        refine List.pairwise_cons.mpr ⟨fun e' mem => Bool.eq_false_iff.mpr fun before => ?_, h⟩
        -- what precedes `k` precedes the head as well
        have before : precedes e'.1 e.1 := precedes_trans before first
        rcases List.mem_cons.mp mem with rfl | mem
        · rw [not_precedes_self] at before
          cases before
        · rw [behind e' mem] at before
          cases before
      · rw [Member.insert, if_neg same, if_neg first]
        refine List.pairwise_cons.mpr ⟨fun e' mem => ?_, ih ordered⟩
        rcases mem_insert mem with rfl | mem
        · exact Bool.eq_false_iff.mpr first
        · exact behind e' mem

theorem Ordered.nodup_keys_insert (h : Ordered t) (nodup : t.keys.Nodup) :
    (Table.keys (Member.insert k v t)).Nodup := by
  induction t with
  | nil => exact List.nodup_singleton k
  | cons e rest ih =>
    obtain ⟨behind, ordered⟩ := List.pairwise_cons.mp h
    obtain ⟨fresh, others⟩ := List.nodup_cons.mp nodup
    by_cases same : e.1 = k
    · rw [Member.insert, if_pos same]
      exact List.nodup_cons.mpr ⟨same ▸ fresh, others⟩
    · by_cases first : precedes k e.1
      · rw [Member.insert, if_neg same, if_pos first]
        refine List.nodup_cons.mpr ⟨fun mem => ?_, nodup⟩
        rcases List.mem_cons.mp mem with found | mem
        · exact same found.symm
        · obtain ⟨e', mem, found⟩ := List.mem_map.mp mem
          have later := behind e' mem
          rw [found, first] at later
          cases later
      · rw [Member.insert, if_neg same, if_neg first]
        refine List.nodup_cons.mpr ⟨fun mem => ?_, ih ordered others⟩
        rcases mem_keys_insert.mp mem with found | mem
        · exact same found
        · exact fresh mem

end Member

namespace Value

/-- The values of JSON. -/
inductive IsJson : Value → Prop where
  | null : IsJson .null
  | bool (b : Bool) : IsJson (.bool b)
  | number {x : Float} (h : x.isNaN = false) : IsJson (.number x)
  | text (s : String) : IsJson (.text s)
  | list {items : List Value} (h : ∀ v ∈ items, IsJson v) : IsJson (.list items)
  | record {fields : List (String × Value)} (nodup : (Table.keys fields).Nodup)
      (h : ∀ e ∈ fields, IsJson e.2) : IsJson (.record fields)

/-- Members that have been read from a record of JSON. -/
structure AreRead (fields : Fields) : Prop where
  ordered : Member.Ordered fields
  nodup : (Table.keys fields).Nodup
  json : ∀ e ∈ fields, IsJson e.2

theorem AreRead.nil : AreRead [] := ⟨.nil, .nil, fun _ mem => (List.not_mem_nil mem).elim⟩

theorem AreRead.insert {fields : Fields} (h : AreRead fields) (k : String) {v : Value}
    (hv : IsJson v) : AreRead (Member.insert k v fields) where
  ordered := h.ordered.insert
  nodup := h.ordered.nodup_keys_insert h.nodup
  json e mem := by
    rcases Member.mem_insert mem with rfl | mem
    · exact hv
    · exact h.json e mem

theorem isNaN_of_readNumber {cs rest : List Char} {x : Float}
    (h : readNumber cs = some (x, rest)) : x.isNaN = false := by
  unfold readNumber at h
  dsimp only [bind, pure] at h
  -- with a sign or without one
  split at h
  all_goals
    split at h
    · cases h
    · obtain ⟨fraction, -, h⟩ := Option.bind_eq_some_iff.mp h
      obtain ⟨exponent, -, h⟩ := Option.bind_eq_some_iff.mp h
      obtain ⟨rfl, -⟩ := Prod.mk.inj (Option.some.inj h)
      exact Number.isNaN_ofDecimal ..

/-- What is read within some steps is JSON. -/
structure ReadsJson (steps : Nat) : Prop where
  value : ∀ {cs v rest}, readValue steps cs = some (v, rest) → IsJson v
  items : ∀ {cs vs rest}, readItems steps cs = some (vs, rest) → ∀ v ∈ vs, IsJson v
  fields : ∀ {fields cs fields' rest}, readFields steps fields cs = some (fields', rest) →
    AreRead fields → AreRead fields'

theorem isJson_of_readValue {steps : Nat} (ih : ReadsJson steps) {cs rest : List Char} {v : Value}
    (h : readValue (steps + 1) cs = some (v, rest)) : IsJson v := by
  rw [readValue] at h
  split at h
  case h_1 => cases h; exact .null
  case h_2 => cases h; exact .bool true
  case h_3 => cases h; exact .bool false
  case h_4 =>
    obtain ⟨⟨s, _⟩, -, h⟩ := Option.map_eq_some_iff.mp h
    cases h
    exact .text s
  case h_5 =>
    split at h
    · cases h
      exact .list fun _ mem => (List.not_mem_nil mem).elim
    · obtain ⟨⟨items, _⟩, read, h⟩ := Option.map_eq_some_iff.mp h
      cases h
      exact .list (ih.items read)
  case h_6 =>
    split at h
    · cases h
      exact .record .nil AreRead.nil.json
    · obtain ⟨⟨fields, _⟩, read, h⟩ := Option.map_eq_some_iff.mp h
      cases h
      have read := ih.fields read .nil
      exact .record read.nodup read.json
  case h_7 =>
    obtain ⟨⟨x, _⟩, read, h⟩ := Option.map_eq_some_iff.mp h
    cases h
    exact .number (isNaN_of_readNumber read)

theorem isJson_of_readItems {steps : Nat} (ih : ReadsJson steps) {cs rest : List Char}
    {vs : List Value} (h : readItems (steps + 1) cs = some (vs, rest)) : ∀ v ∈ vs, IsJson v := by
  rw [readItems] at h
  split at h
  case h_1 => cases h
  case h_2 first _ read =>
    have first := ih.value read
    split at h
    case h_1 =>
      obtain ⟨⟨items, _⟩, more, h⟩ := Option.map_eq_some_iff.mp h
      cases h
      exact List.forall_mem_cons.mpr ⟨first, ih.items more⟩
    case h_2 =>
      cases h
      exact List.forall_mem_singleton.mpr first
    case h_3 => cases h

theorem areRead_of_readFields {steps : Nat} (ih : ReadsJson steps) {fields fields' : Fields}
    {cs rest : List Char} (h : readFields (steps + 1) fields cs = some (fields', rest))
    (before : AreRead fields) : AreRead fields' := by
  rw [readFields] at h
  split at h
  case h_2 => cases h
  case h_1 =>
    split at h
    case h_1 => cases h
    case h_2 k _ _ =>
      split at h
      case h_2 => cases h
      case h_1 =>
        split at h
        case h_1 => cases h
        case h_2 v _ read =>
          have entered := before.insert k (ih.value read)
          dsimp only at h
          split at h
          case h_1 => exact ih.fields h entered
          case h_2 => cases h; exact entered
          case h_3 => cases h

theorem readsJson (steps : Nat) : ReadsJson steps := by
  induction steps with
  | zero =>
    refine ⟨fun h => ?_, fun h => ?_, fun h => ?_⟩
    · rw [readValue] at h; cases h
    · rw [readItems] at h; cases h
    · rw [readFields] at h; cases h
  | succ steps ih =>
    exact ⟨isJson_of_readValue ih, isJson_of_readItems ih, areRead_of_readFields ih⟩

/-- What a JSON text holds is a value of JSON. -/
theorem isJson_of_parse {s : String} {v : Value} (h : parse? s = some v) : IsJson v := by
  rw [parse?] at h
  split at h
  case h_1 read =>
    split at h
    · cases h
      exact (readsJson _).value read
    · cases h
  case h_2 => cases h

end Value
end Depot
