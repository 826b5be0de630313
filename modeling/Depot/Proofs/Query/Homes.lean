import Depot.Proofs.Exchange
import Depot.Query.Desk
/-!
# Where the queries of a desk go

What holds of the endpoints of a desk still holds when its caller has made moves, if it holds of each
endpoint that the settings of the desk lead to.
-/
namespace Depot.Desk

/-- Something holds of all endpoints of a desk, those of its queries and those of bases to come. -/
structure AllHomes (P : Endpoint → Prop) (d : Desk) : Prop where
  bases : ∀ s, d.settings = some s → ∀ name e, Endpoint.ofBase s name = .ok e → P e
  sheets : ∀ sheet ∈ d.sheets, ∀ e, sheet.home = some e → P e

namespace AllHomes
variable {P : Endpoint → Prop} {d : Desk}

theorem empty {s : Settings} (h : ∀ name e, Endpoint.ofBase s name = .ok e → P e) :
    (Desk.empty (some s)).AllHomes P where
  bases := by
    rintro _ ⟨⟩
    exact h
  sheets := fun sheet hs => by cases hs

variable (h : d.AllHomes P)
include h

theorem home {base : Option String} {home : Option Endpoint} (found : d.home base = .ok home)
    (e : Endpoint) (he : home = some e) : P e := by
  subst he
  obtain ⟨settings, sheets, names⟩ := d
  cases base with
  | none => cases found
  | some name =>
    cases settings with
    | none => cases found
    | some s =>
      obtain ⟨e', based, same⟩ := exists_of_map_eq_ok found
      cases same
      exact h.bases s rfl name e based

theorem find {name : String} {x : Nat × Sheet} (found : d.find name = .ok x) (e : Endpoint)
    (he : x.2.home = some e) : P e := by
  refine h.sheets x.2 ?_ e he
  rw [Desk.find] at found
  split at found
  case h_1 place there =>
    cases found
    obtain ⟨ref', -, there⟩ := Option.bind_eq_some_iff.mp there
    obtain ⟨sheet', at_place, same⟩ := Option.map_eq_some_iff.mp there
    cases same
    exact List.mem_of_getElem? at_place
  case h_2 => cases found

theorem add (name : String) {sheet : Sheet} (hs : ∀ e, sheet.home = some e → P e) :
    (d.add name sheet).AllHomes P where
  bases := h.bases
  sheets := fun other ho => (List.mem_append.mp ho).elim (h.sheets other) fun last => by
    cases List.mem_singleton.mp last
    exact hs

theorem set (ref : Nat) {sheet : Sheet} (hs : ∀ e, sheet.home = some e → P e) :
    { d with sheets := d.sheets.set ref sheet }.AllHomes P where
  bases := h.bases
  sheets := fun other ho => (List.mem_or_eq_of_mem_set ho).elim (h.sheets other) fun same => by
    cases same
    exact hs

theorem play {m : Desk.Move} {x : Query × Desk} (played : d.play m = .ok x) : x.2.AllHomes P := by
  obtain ⟨name, act⟩ := m
  cases act with
  | create base =>
    obtain ⟨home, found, done⟩ := exists_of_bind_eq_ok played
    cases done
    exact h.add name (h.home found)
  | copy target =>
    obtain ⟨y, found, done⟩ := exists_of_bind_eq_ok played
    cases done
    exact h.add target (h.find found)
  | union other =>
    obtain ⟨y, found, rest⟩ := exists_of_bind_eq_ok played
    obtain ⟨z, -, done⟩ := exists_of_bind_eq_ok rest
    cases done
    exact h.set _ (h.find found)
  | edit edit =>
    obtain ⟨y, found, done⟩ := exists_of_bind_eq_ok played
    cases done
    exact h.set _ (h.find found)

theorem playAll (moves : List Desk.Move) : (d.playAll moves).2.AllHomes P := by
  induction moves generalizing d with
  | nil => exact h
  | cons m rest ih =>
    rw [Desk.playAll]
    cases played : d.play m with
    | error f => exact h
    | ok x => exact ih (h.play played)

end AllHomes
end Depot.Desk
