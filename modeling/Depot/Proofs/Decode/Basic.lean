import Mathlib.Data.List.Forall2
import Depot.Decode.Basic
/-!
# What decoders accept

When data is read without an issue: part by part, and with every check passed.
-/
namespace Depot

namespace Decoded
variable {α β : Type}

theorem toExcept_eq_ok {d : Decoded α} {a : α} :
    d.toExcept = .ok a ↔ d.data? = some a ∧ d.issues = [] := by
  obtain ⟨data, issues⟩ := d
  cases data with
  | none => simp [toExcept]
  | some b => cases issues <;> simp [toExcept]

theorem toExcept_map (f : α → β) (d : Decoded α) : (d.map f).toExcept = d.toExcept.map f := by
  obtain ⟨data, issues⟩ := d
  cases data with
  | none => rfl
  | some a => cases issues <;> rfl

theorem map_eq_ok {f : α → β} {d : Decoded α} {b : β} :
    (d.map f).toExcept = .ok b ↔ ∃ a, d.toExcept = .ok a ∧ f a = b := by
  simp only [toExcept_eq_ok, map, Option.map_eq_some_iff]
  exact ⟨fun ⟨⟨a, ha, hb⟩, hi⟩ => ⟨a, ⟨ha, hi⟩, hb⟩, fun ⟨a, ⟨ha, hi⟩, hb⟩ => ⟨⟨a, ha, hb⟩, hi⟩⟩

theorem both_eq_ok {f : Decoded (α → β)} {d : Decoded α} {b : β} :
    (f.both d).toExcept = .ok b ↔ ∃ g a, f.toExcept = .ok g ∧ d.toExcept = .ok a ∧ g a = b := by
  simp only [toExcept_eq_ok, both, Option.bind_eq_some_iff, Option.map_eq_some_iff,
    List.append_eq_nil_iff]
  constructor
  · rintro ⟨⟨g, hg, a, ha, hb⟩, hf, hd⟩
    exact ⟨g, a, ⟨hg, hf⟩, ⟨ha, hd⟩, hb⟩
  · rintro ⟨g, a, ⟨hg, hf⟩, ⟨ha, hd⟩, hb⟩
    exact ⟨⟨g, hg, a, ha, hb⟩, hf, hd⟩

theorem under_eq_ok {step : String} {d : Decoded α} {a : α} :
    (d.under step).toExcept = .ok a ↔ d.toExcept = .ok a := by
  simp only [toExcept_eq_ok, under, List.map_eq_nil_iff]

end Decoded

namespace Decoder
variable {α : Type}

theorem check_eq_ok {d : Decoder α} {test : α → Bool} {message : String} {v : Value} {a : α} :
    (check d test message v).toExcept = .ok a ↔ (d v).toExcept = .ok a ∧ test a = true := by
  simp only [check]
  rcases d v with ⟨_ | b, issues⟩
  · simp [Decoded.toExcept_eq_ok]
  · by_cases passed : test b = true
    · simp only [passed, if_true]
      constructor
      · intro h
        have data := (Decoded.toExcept_eq_ok.mp h).1
        exact ⟨h, Option.some.inj data ▸ passed⟩
      · exact And.left
    · simp only [passed, Decoded.toExcept_eq_ok]
      constructor
      · rintro ⟨-, issues⟩
        exact absurd issues (by simp)
      · rintro ⟨⟨data, -⟩, ha⟩
        exact absurd (Option.some.inj data ▸ ha) passed

@[simp] theorem unexpected_ne_ok {expected : String} {v : Value} {a : α} :
    (unexpected expected v).toExcept ≠ .ok a := by
  rw [unexpected]
  split <;> simp [Decoded.mismatch, Decoded.toExcept]

theorem record_eq_ok {read : Value → Decoded α} {v : Value} {a : α} :
    (record read v).toExcept = .ok a ↔
      (∃ fields, v = .record fields) ∧ (read v).toExcept = .ok a := by
  cases v with
  | record fields => simp [record]
  | _ => simp [record]

theorem of_record_eq_ok {read : Value → Decoded α} {v : Value} {a : α}
    (h : (record read v).toExcept = .ok a) : (read v).toExcept = .ok a := (record_eq_ok.mp h).2

theorem text_eq_ok {v : Value} {s : String} : (text v).toExcept = .ok s ↔ v = .text s := by
  cases v with
  | text t => simp [text, Decoded.ok, Decoded.toExcept]
  | _ => simp [text]

theorem number_eq_ok {v : Value} {x : Float} :
    (number v).toExcept = .ok x ↔ v = .number x ∧ x.isNaN = false := by
  cases v with
  | number y =>
    simp only [number]
    split
    case isTrue nan =>
      simp only [unexpected_ne_ok, Value.number.injEq, false_iff]
      rintro ⟨rfl, number⟩
      rw [nan] at number
      cases number
    case isFalse number =>
      simp only [Decoded.ok, Decoded.toExcept, Value.number.injEq, Except.ok.injEq]
      constructor
      · rintro rfl
        exact ⟨rfl, Bool.eq_false_iff.mpr number⟩
      · exact And.left
  | _ => simp [number]

/-- What may be left out is left out, or there. -/
theorem optional_eq_ok {d : Decoder α} {v : Value} {a? : Option α} :
    (optional d v).toExcept = .ok a? ↔ v = .absent ∧ a? = none ∨
      v ≠ .absent ∧ ∃ a, (d v).toExcept = .ok a ∧ a? = some a := by
  by_cases h : v.isAbsent = true
  · have absent : v = .absent := by cases v <;> first | rfl | cases h
    subst absent
    simp [optional, Value.isAbsent, Decoded.ok, Decoded.toExcept, eq_comm]
  · have present : v ≠ .absent := fun absent => h (absent ▸ rfl)
    rw [optional, if_neg h, Decoded.map_eq_ok]
    simp [present, eq_comm]

theorem items_eq_ok {d : Decoder α} {vs : List Value} {as : List α} {i : Nat} :
    (items d i vs).toExcept = .ok as ↔ List.Forall₂ (fun v a => (d v).toExcept = .ok a) vs as := by
  induction vs generalizing i as with
  | nil => simp [items, Decoded.ok, Decoded.toExcept, eq_comm]
  | cons v rest ih =>
    simp only [items, Decoded.both_eq_ok, Decoded.map_eq_ok, Decoded.under_eq_ok, ih,
      List.forall₂_cons_left_iff]
    constructor
    · rintro ⟨_, others, ⟨a, first, rfl⟩, all, rfl⟩
      exact ⟨a, others, first, all, rfl⟩
    · rintro ⟨a, others, first, all, rfl⟩
      exact ⟨_, others, ⟨a, first, rfl⟩, all, rfl⟩

/-- A list is accepted item by item, and so one bad item spoils it. -/
theorem list_eq_ok {d : Decoder α} {v : Value} {as : List α} :
    (list d v).toExcept = .ok as ↔
      ∃ vs, v = .list vs ∧ List.Forall₂ (fun v a => (d v).toExcept = .ok a) vs as := by
  cases v with
  | list vs => simp [list, items_eq_ok]
  | _ => simp [list]

theorem intersection_eq_ok {β γ : Type} {merge : α → β → Option γ} {d : Decoder α} {e : Decoder β}
    {v : Value} {c : γ} : (intersection merge d e v).toExcept = .ok c ↔
      ∃ a b, (d v).toExcept = .ok a ∧ (e v).toExcept = .ok b ∧ merge a b = some c := by
  simp only [intersection, Decoded.toExcept_eq_ok]
  rcases d v with ⟨_ | a, issues⟩
  · simp
  · rcases e v with ⟨_ | b, issues'⟩
    · simp
    · cases merged : merge a b with
      | none => simp [merged]
      | some c' => simp [merged, and_assoc, and_comm, and_left_comm]

theorem field_eq_ok {name : String} {d : Decoder α} {v : Value} {a : α} :
    (field name d v).toExcept = .ok a ↔ (d (v.member name)).toExcept = .ok a :=
  Decoded.under_eq_ok

/-- A member that is required is there, and accepted. -/
theorem field_required_eq_ok {name : String} {d : Decoder α} (required : (d .absent).data? = none)
    {fields : Fields} {a : α} : (field name d (.record fields)).toExcept = .ok a ↔
      ∃ v, Table.get? name fields = some v ∧ (d v).toExcept = .ok a := by
  rw [field_eq_ok]
  cases found : Table.get? name fields with
  | none => simp [Value.member, Value.optional, found, Decoded.toExcept_eq_ok, required]
  | some v => simp [Value.member, Value.optional, found]

end Decoder
end Depot
