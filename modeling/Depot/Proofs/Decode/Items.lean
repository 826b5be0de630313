import Depot.Base.Operations
import Depot.Proofs.Decode.Basic
import Depot.Proofs.Decode.Json
/-!
# Items as they were sent

Which items, pages and results of bulk puts a value of JSON holds, said of the value itself: an item is
a record with a text for its key, and all of the record belongs to it. The decoders read just that.
-/
namespace Depot

namespace Value

/-- What is inside a record of JSON is JSON. -/
theorem IsJson.member {fields : Fields} (h : IsJson (.record fields)) {k : String} {v : Value}
    (found : Table.get? k fields = some v) : IsJson v := by
  cases h with
  | record nodup inside => exact inside (k, v) ((Table.get?_eq_some_iff nodup).mp found)

theorem IsJson.items {items : List Value} (h : IsJson (.list items)) : ∀ v ∈ items, IsJson v := by
  cases h with
  | list inside => exact inside

/-- The records of JSON keep what they have under a name only once. -/
theorem IsJson.nodup {fields : Fields} (h : IsJson (.record fields)) :
    (Table.keys (prunedFields fields)).Nodup := by
  cases h with
  | record nodup inside => exact nodup.sublist (keys_prunedFields_sublist fields)

end Value

open Decoder

/-- Whether a value is a record with this key, of which the item has all members that records keep,
in their order. -/
def Item.IsIn (v : Value) (i : Item) : Prop :=
  ∃ fields, v = .record fields ∧ Table.get? "key" fields = some (.text i.key) ∧
    i.fields = Value.prunedFields fields

/-- Whether a value is where a page ends: how many items it has, and its cursor, if it has one. -/
def Paging.IsIn (v : Value) (p : Paging) : Prop :=
  ∃ fields, v = .record fields ∧ Table.get? "size" fields = some (.number p.size) ∧
    Number.isIntegral p.size = true ∧ p.size ≥ 0.0 ∧
    Table.get? "last" fields = p.last.map .text

/-- Whether a value is a page of a query, with all of its items. -/
def Page.IsIn (v : Value) (p : Page) : Prop :=
  ∃ fields paging items, v = .record fields ∧ Table.get? "paging" fields = some paging ∧
    p.paging.IsIn paging ∧ Table.get? "items" fields = some (.list items) ∧
    List.Forall₂ Item.IsIn items p.items

/-- Whether a record has a list of these items under a name, or nothing and there are none. -/
def Item.AreUnder (name : String) (fields : Fields) (is : List Item) : Prop :=
  Table.get? name fields = none ∧ is = [] ∨
    ∃ inner items, Table.get? name fields = some (.record inner) ∧
      Table.get? "items" inner = some (.list items) ∧ List.Forall₂ Item.IsIn items is

/-- Whether a value is the answer to a bulk put, with all items that were stored and all that were
not. -/
def Base.PutResult.IsIn (v : Value) (r : Base.PutResult) : Prop :=
  ∃ fields, v = .record fields ∧ Item.AreUnder "processed" fields r.processed ∧
    Item.AreUnder "failed" fields r.failed

/-! ## Items -/

theorem table_json_eq_ok {v : Value} (h : v.IsJson) {fields' : Fields} :
    (table json v).toExcept = .ok fields' ↔
      ∃ fields, v = .record fields ∧ fields' = Value.prunedFields fields := by
  cases v with
  | record fields =>
    rw [table_of_isJson h]
    simp [Decoded.ok, Decoded.toExcept, eq_comm]
  | _ => simp [table]

theorem Item.decode_eq_ok {v : Value} (h : v.IsJson) {i : Item} :
    (decode v).toExcept = .ok i ↔ i.IsIn v := by
  have merged {fields : Fields} (json : Value.IsJson (.record fields)) {key : String}
      (found : Table.get? "key" fields = some (.text key)) :
      Value.mergeRecords? (Value.prunedFields fields) [("key", .text key)] =
        some (Value.prunedFields fields) := by
    apply Value.mergeRecords?_eq_self json.nodup
    rw [Value.get?_prunedFields (by decide), found]
    rfl
  rw [decode, intersection_eq_ok]
  constructor
  · rintro ⟨_, key, all, own, whole⟩
    obtain ⟨fields, rfl, rfl⟩ := (table_json_eq_ok h).mp all
    obtain ⟨_, found, text⟩ := (field_required_eq_ok rfl).mp (of_record_eq_ok own)
    cases text_eq_ok.mp text
    rw [merged h found] at whole
    cases whole
    exact ⟨fields, rfl, found, rfl⟩
  · rintro ⟨fields, rfl, found, own⟩
    have key : (record (field "key" text) (.record fields)).toExcept = .ok i.key :=
      (field_required_eq_ok rfl).mpr ⟨_, found, text_eq_ok.mpr rfl⟩
    refine ⟨_, i.key, (table_json_eq_ok h).mpr ⟨fields, rfl, rfl⟩, key, ?_⟩
    rw [merged h found, ← own]
    rfl

/-- A list of JSON is read as items if each of its elements is one. -/
theorem Item.list_decode_eq_ok {v : Value} (h : v.IsJson) {is : List Item} :
    (list decode v).toExcept = .ok is ↔
      ∃ items, v = .list items ∧ List.Forall₂ IsIn items is := by
  have same {items : List Value} (json : ∀ v ∈ items, v.IsJson) {is : List Item} :
      List.Forall₂ (fun v i => (decode v).toExcept = .ok i) items is ↔
        List.Forall₂ IsIn items is := by
    induction items generalizing is with
    | nil => simp
    | cons v rest ih =>
      obtain ⟨first, others⟩ := List.forall_mem_cons.mp json
      simp only [List.forall₂_cons_left_iff, decode_eq_ok first, ih others]
  rw [list_eq_ok]
  apply exists_congr
  intro items
  apply and_congr_right
  rintro rfl
  exact same h.items

/-! ## Pages -/

theorem count_eq_ok {v : Value} {x : Float} : (count v).toExcept = .ok x ↔
    v = .number x ∧ x.isNaN = false ∧ Number.isIntegral x = true ∧ x ≥ 0.0 := by
  simp only [count, check_eq_ok, number_eq_ok, decide_eq_true_eq, and_assoc]

/-- A member that a record of JSON may leave out. -/
theorem field_optional_eq_ok {α : Type} {d : Decoder α} {fields : Fields}
    (h : Value.IsJson (.record fields)) {name : String} {a? : Option α} :
    (field name (optional d) (.record fields)).toExcept = .ok a? ↔
      Table.get? name fields = none ∧ a? = none ∨
        ∃ v a, Table.get? name fields = some v ∧ (d v).toExcept = .ok a ∧ a? = some a := by
  rw [field_eq_ok, optional_eq_ok]
  cases found : Table.get? name fields with
  | none => simp [Value.member, Value.optional, found]
  | some v =>
    have present : v ≠ .absent := by
      rintro rfl
      cases h.member found
    simp [Value.member, Value.optional, found, present]

theorem Paging.decode_eq_ok {v : Value} (h : v.IsJson) {p : Paging} :
    (decode v).toExcept = .ok p ↔ p.IsIn v := by
  have last {fields : Fields} (json : Value.IsJson (.record fields)) {s? : Option String} :
      (field "last" (optional text) (.record fields)).toExcept = .ok s? ↔
        Table.get? "last" fields = s?.map .text := by
    rw [field_optional_eq_ok json]
    cases s? <;> simp [text_eq_ok]
  simp only [decode, record_eq_ok, Decoded.both_eq_ok, Decoded.map_eq_ok]
  constructor
  · rintro ⟨⟨fields, rfl⟩, _, s?, ⟨size, read, rfl⟩, read', rfl⟩
    obtain ⟨_, found, number⟩ := (field_required_eq_ok rfl).mp read
    obtain ⟨rfl, -, whole, least⟩ := count_eq_ok.mp number
    exact ⟨fields, rfl, found, whole, least, (last h).mp read'⟩
  · rintro ⟨fields, rfl, found, whole, least, cursor⟩
    have number : p.size.isNaN = false := by
      cases h.member found with
      | number number => exact number
    have size := (field_required_eq_ok rfl).mpr
      ⟨_, found, count_eq_ok.mpr ⟨rfl, number, whole, least⟩⟩
    exact ⟨⟨fields, rfl⟩, _, p.last, ⟨p.size, size, rfl⟩, (last h).mpr cursor, rfl⟩

theorem Page.decode_eq_ok {v : Value} (h : v.IsJson) {p : Page} :
    (decode v).toExcept = .ok p ↔ p.IsIn v := by
  simp only [decode, record_eq_ok, Decoded.both_eq_ok, Decoded.map_eq_ok]
  constructor
  · rintro ⟨⟨fields, rfl⟩, _, is, ⟨paging, read, rfl⟩, read', rfl⟩
    obtain ⟨w, found, read⟩ := (field_required_eq_ok rfl).mp read
    obtain ⟨w', found', read'⟩ := (field_required_eq_ok rfl).mp read'
    obtain ⟨items, rfl, all⟩ := (Item.list_decode_eq_ok (h.member found')).mp read'
    exact ⟨fields, w, items, rfl, found, (Paging.decode_eq_ok (h.member found)).mp read, found',
      all⟩
  · rintro ⟨fields, w, items, rfl, found, isIn, found', all⟩
    have paging := (field_required_eq_ok rfl).mpr
      ⟨w, found, (Paging.decode_eq_ok (h.member found)).mpr isIn⟩
    have list := (field_required_eq_ok rfl).mpr
      ⟨_, found', (Item.list_decode_eq_ok (h.member found')).mpr ⟨items, rfl, all⟩⟩
    exact ⟨⟨fields, rfl⟩, _, p.items, ⟨p.paging, paging, rfl⟩, list, rfl⟩

/-! ## Bulk puts -/

theorem PutAnswer.items_eq_ok {v : Value} (h : v.IsJson) {is : List Item} :
    (PutAnswer.items v).toExcept = .ok is ↔ ∃ inner vs, v = .record inner ∧
      Table.get? "items" inner = some (.list vs) ∧ List.Forall₂ Item.IsIn vs is := by
  rw [PutAnswer.items, record_eq_ok]
  constructor
  · rintro ⟨⟨inner, rfl⟩, read⟩
    obtain ⟨w, found, read⟩ := (field_required_eq_ok rfl).mp read
    obtain ⟨vs, rfl, all⟩ := (Item.list_decode_eq_ok (h.member found)).mp read
    exact ⟨inner, vs, rfl, found, all⟩
  · rintro ⟨inner, vs, rfl, found, all⟩
    exact ⟨⟨inner, rfl⟩, (field_required_eq_ok rfl).mpr
      ⟨_, found, (Item.list_decode_eq_ok (h.member found)).mpr ⟨vs, rfl, all⟩⟩⟩

/-- A list that is missing from the answer is an empty one. -/
theorem PutAnswer.field_eq_ok {fields : Fields} (h : Value.IsJson (.record fields)) {name : String}
    {is : List Item} :
    (∃ is?, (field name (optional PutAnswer.items) (.record fields)).toExcept = .ok is? ∧
      is?.getD [] = is) ↔ Item.AreUnder name fields is := by
  simp only [field_optional_eq_ok h, Item.AreUnder]
  constructor
  · rintro ⟨is?, ⟨missing, rfl⟩ | ⟨v, is', found, read, rfl⟩, rfl⟩
    · exact .inl ⟨missing, rfl⟩
    · obtain ⟨inner, vs, rfl, found', all⟩ := (items_eq_ok (h.member found)).mp read
      exact .inr ⟨inner, vs, found, found', all⟩
  · rintro (⟨missing, rfl⟩ | ⟨inner, vs, found, found', all⟩)
    · exact ⟨none, .inl ⟨missing, rfl⟩, rfl⟩
    · exact ⟨some is, .inr ⟨_, is, found, (items_eq_ok (h.member found)).mpr
        ⟨inner, vs, rfl, found', all⟩, rfl⟩, rfl⟩

end Depot
