import Depot.Proofs.Http.Endpoint
import Depot.Session.Basic
/-!
# Another client in the place of one

A client whose settings are replaced, and with them the endpoints that its bases and drives have:
its desk, its patches and its errands are those of the first client with the endpoints replaced.
-/
namespace Depot

/-- What replaces the settings of a client, and each endpoint that comes from them. -/
structure Recast where
  settings : Settings → Settings
  home : Endpoint → Endpoint
  ofBase : ∀ s name, Endpoint.ofBase (settings s) name = (Endpoint.ofBase s name).map home
  ofDrive : ∀ s name, Endpoint.ofDrive (settings s) name = (Endpoint.ofDrive s name).map home
  nowhere : ∀ s, Errand.nowhere (settings s) = home (Errand.nowhere s)

namespace Recast

/-- It is enough to replace the endpoints below a service. -/
def ofUnder (settings : Settings → Settings) (home : Endpoint → Endpoint)
    (base : ∀ s name, Endpoint.under (settings s) (settings s).baseUrl name =
      home (.under s s.baseUrl name))
    (drive : ∀ s name, Endpoint.under (settings s) (settings s).driveUrl name =
      home (.under s s.driveUrl name))
    (nowhere : ∀ s, Errand.nowhere (settings s) = home (Errand.nowhere s)) : Recast where
  settings := settings
  home := home
  ofBase s name := by
    rw [Endpoint.ofBase_eq, Endpoint.ofBase_eq, base]
    cases Text.isBlankText name <;> rfl
  ofDrive s name := by
    rw [Endpoint.ofDrive_eq, Endpoint.ofDrive_eq, drive]
    cases Text.isBlankText name <;> rfl
  nowhere := nowhere

variable (r : Recast)

def sheet (s : Sheet) : Sheet := { s with home := s.home.map r.home }

def desk (d : Desk) : Desk :=
  { d with settings := d.settings.map r.settings, sheets := d.sheets.map r.sheet }

@[simp] theorem queryAt_desk (d : Desk) (ref : Nat) : (r.desk d).queryAt ref = d.queryAt ref := by
  simp only [Desk.queryAt, desk, List.getElem?_map, Option.map_map]
  rfl

theorem find_desk (d : Desk) (name : String) :
    (r.desk d).find name = (d.find name).map fun x => (x.1, r.sheet x.2) := by
  rw [Desk.find, Desk.find]
  change _ = Except.map _ _
  have names : (r.desk d).names = d.names := rfl
  have place (ref : Nat) : (r.desk d).sheets[ref]? = d.sheets[ref]?.map r.sheet :=
    List.getElem?_map ..
  rw [names]
  cases Table.get? name d.names with
  | none => rfl
  | some ref =>
    simp only [Option.bind_some, place, Option.map_map]
    cases d.sheets[ref]? <;> rfl

theorem home_desk (d : Desk) (base : Option String) :
    (r.desk d).home base = (d.home base).map (Option.map r.home) := by
  obtain ⟨settings, sheets, names⟩ := d
  cases base with
  | none => rfl
  | some name =>
    cases settings with
    | none => rfl
    | some s =>
      have lifted (x : Outcome Endpoint) :
          (x.map r.home).map some = (x.map some).map (Option.map r.home) := by cases x <;> rfl
      have parts : (r.desk ⟨some s, sheets, names⟩).home (some name) =
          (Endpoint.ofBase (r.settings s) name).map some := rfl
      rw [parts, r.ofBase]
      exact lifted _

theorem desk_add (d : Desk) (name : String) (s : Sheet) :
    (r.desk d).add name (r.sheet s) = r.desk (d.add name s) := by
  simp [desk, Desk.add]

theorem desk_set (d : Desk) (ref : Nat) (s : Sheet) :
    { r.desk d with sheets := (r.desk d).sheets.set ref (r.sheet s) } =
      r.desk { d with sheets := d.sheets.set ref s } := by
  simp [desk, List.map_set]

theorem play_desk (d : Desk) (m : Desk.Move) :
    (r.desk d).play m = (d.play m).map fun x => (x.1, r.desk x.2) := by
  obtain ⟨name, act⟩ := m
  cases act with
  | create base =>
    simp only [Desk.play, home_desk]
    cases d.home base with
    | error f => rfl
    | ok home => exact congrArg (fun d => Except.ok (_, d)) (r.desk_add d name ⟨_, home⟩)
  | copy target =>
    simp only [Desk.play, find_desk]
    cases d.find name with
    | error f => rfl
    | ok x => exact congrArg (fun d => Except.ok (_, d)) (r.desk_add d target x.2)
  | union other =>
    simp only [Desk.play, find_desk]
    cases d.find name with
    | error f => rfl
    | ok x =>
      cases d.find other with
      | error f => rfl
      | ok y =>
        exact congrArg (fun d => Except.ok (_, d))
          (r.desk_set d x.1 { x.2 with query := x.2.query.union y.2.query })
  | edit e =>
    simp only [Desk.play, find_desk]
    cases d.find name with
    | error f => rfl
    | ok x =>
      exact congrArg (fun d => Except.ok (_, d))
        (r.desk_set d x.1 { x.2 with query := x.2.query.edit e })

theorem playAll_desk (d : Desk) (moves : List Desk.Move) :
    (r.desk d).playAll moves = ((d.playAll moves).1, r.desk (d.playAll moves).2) := by
  induction moves generalizing d with
  | nil => rfl
  | cons m rest ih =>
    rw [Desk.playAll, Desk.playAll, play_desk]
    cases d.play m with
    | error f => rfl
    | ok x => exact ih x.2

def patch (p : BoundPatch) : BoundPatch := { p with home := r.home p.home }

def errand (e : Errand) : Errand := { e with home := r.home e.home }

theorem findPatch {s s' : Session}
    (patches : s'.patches = s.patches.map fun x => (x.1, r.patch x.2)) (name : String) :
    s'.findPatch name = (s.findPatch name).map r.patch := by
  rw [Session.findPatch, Session.findPatch, patches, Table.get?_map]
  cases Table.get? name s.patches <;> rfl

theorem bindPatch (settings : Settings) (base : String) (key : Value) :
    (do return ⟨← Endpoint.ofBase (r.settings settings) base, ← validKey key, Patch.empty⟩ :
        Outcome BoundPatch) =
      (do return ⟨← Endpoint.ofBase settings base, ← validKey key, Patch.empty⟩ :
        Outcome BoundPatch).map r.patch := by
  rw [r.ofBase]
  cases Endpoint.ofBase settings base <;> cases validKey key <;> rfl

theorem homeOf_sheet (settings : Settings) (sheet : Sheet) :
    Errand.homeOf (r.settings settings) (r.sheet sheet) = r.home (Errand.homeOf settings sheet) := by
  rcases sheet with ⟨query, _ | home⟩
  · exact r.nowhere settings
  · rfl

theorem forQuery {α : Type} (settings : Settings) (d : Desk) (name : String) (toValue : α → Value)
    (job : Bool → Nat → Job α) :
    Errand.forQuery (r.settings settings) (r.desk d) name toValue job =
      (Errand.forQuery settings d name toValue job).map r.errand := by
  rw [Errand.forQuery, Errand.forQuery, find_desk]
  rcases d.find name with f | ⟨ref, sheet⟩
  · rfl
  have bound : (r.sheet sheet).home.isSome = sheet.home.isSome := Option.isSome_map ..
  change Except.ok (Errand.showing (Errand.homeOf (r.settings settings) (r.sheet sheet)) toValue
    (job (r.sheet sheet).home.isSome ref)) = _
  rw [homeOf_sheet, bound]
  rfl

end Recast
end Depot
