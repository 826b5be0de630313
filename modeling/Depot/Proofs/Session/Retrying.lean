import Depot.Proofs.Alike.Operations
import Depot.Proofs.Session.Disguise
import Depot.Proofs.Settings.Accepted
import Depot.Proofs.World.Twins
/-!
# Clients that repeat requests

A client that repeats its requests after transient outcomes, next to one that does not and never sees
these outcomes. Whatever their caller asks of them, one thing after another, comes to the same.
-/
namespace Depot

/-- Whether a command is one for the bases, drives and queries of a client, or lets time pass, and sends
one call at a time. -/
def Command.isSequential : Command → Bool
  | .upload _ _ _ o _ => o.isSequential
  | c => c.isOfClient

theorem Command.isOfClient_of_isSequential {c : Command} (h : c.isSequential = true) :
    c.isOfClient = true := by
  cases c with
  | upload => rfl
  | _ => exact h

/-- Whether a command has come to an end, which is a result or a failure. -/
def Result.IsEnd : Result → Prop
  | .unfinished => False
  | _ => True

namespace Persistence
variable {p : Persistence} {s : Settings}

/-- The requests of a client with these settings are repeated in this way. -/
structure Fits (p : Persistence) (s : Settings) : Prop where
  most : s.retry.limit? = some p.most
  timeoutMs : p.timeoutMs = some s.requestTimeoutMs

theorem Fits.covers_under (h : p.Fits s) (service name : String) :
    p.Covers (.under s service name) where
  most := by
    have allows : s.retry.allows 0 = decide (0 < p.most) := by rw [RetryPolicy.allows, h.most]; rfl
    rw [Endpoint.under, allows]
    by_cases once : p.most = 0
    · simp [once, RetryPolicy.most?]
    · simp [Nat.pos_of_ne_zero once, RetryPolicy.most?, h.most]
  timeoutMs := h.timeoutMs

theorem Fits.covers_ofBase (h : p.Fits s) {name : String} {e : Endpoint}
    (found : Endpoint.ofBase s name = .ok e) : p.Covers e := by
  rw [Endpoint.ofBase_eq] at found
  split at found <;> cases found
  exact h.covers_under ..

theorem Fits.covers_ofDrive (h : p.Fits s) {name : String} {e : Endpoint}
    (found : Endpoint.ofDrive s name = .ok e) : p.Covers e := by
  rw [Endpoint.ofDrive_eq] at found
  split at found <;> cases found
  exact h.covers_under ..

/-- Whatever settings are accepted, the requests of their client are repeated in some way. -/
theorem exists_fits_of_build {d : Settings.Draft} (accepted : d.build = .ok s) (c : Channel) :
    ∃ p : Persistence, p.channel = c ∧ p.Fits s := by
  obtain ⟨most, limit⟩ := Settings.Draft.exists_limit_of_build accepted
  exact ⟨⟨c, some s.requestTimeoutMs, most⟩, rfl, limit, rfl⟩

end Persistence

namespace Session
section Leafing
variable {home : Endpoint} {bound : Bool} {b : Nat}

/-- Whoever takes pages waits for each of them. -/
theorem run_notAfter_leaf {most : Option Nat} {between : List (List Desk.Move)} {pages : Pages}
    {w : World} (onward : ∀ most between pages (w : World),
      w.NotAfter (leaf home bound b most between pages w).2) :
    (w.run home (pages.pull bound)).2.NotAfter (leaf home bound (b + 1) most between pages w).2 := by
  rw [leaf]
  rcases w.run home (pages.pull bound) with ⟨_ | f | _ | ⟨page, pages⟩, w₁⟩
  · exact .refl w₁
  · exact .refl w₁
  · exact .refl w₁
  simp only
  split
  · exact .refl w₁
  · rcases (w₁.happen (.taken page)).desk.playAll (between.headD []) with ⟨_ | f, desk⟩
    · exact onward _ _ _ { w₁.happen (.taken page) with desk := desk }
    · exact .refl w₁

theorem notAfter_leaf (most : Option Nat) (between : List (List Desk.Move)) (pages : Pages)
    (w : World) : w.NotAfter (leaf home bound b most between pages w).2 := by
  induction b generalizing most between pages w with
  | zero => exact .refl w
  | succ b ih => exact (World.notAfter_run ..).trans (run_notAfter_leaf ih)

end Leafing
end Session

namespace World.Twins
variable {p : Persistence} {always : Prop} {script : List Prepared} {n : Nat} {w w' : World}

/-- Moves of the caller have the same failures in both worlds. -/
theorem playAll (h : Twins p always script n w w') (moves : List Desk.Move) :
    (w'.desk.playAll moves).1 = (w.desk.playAll moves).1 ∧
      Twins p always script n { w with desk := (w.desk.playAll moves).2 }
        { w' with desk := (w'.desk.playAll moves).2 } := by
  rw [h.desk, Recast.playAll_desk]
  exact ⟨rfl, { h with desk := rfl, homes := h.homes.playAll moves }⟩

/-- The pages of a query are the same in both worlds. -/
theorem leaf (h : Twins p always script n w w') {home : Endpoint} {bound : Bool}
    (covered : bound = true → p.Covers home) {b b' : Nat} (hb : n < b) (hb' : n < b')
    (most : Option Nat) (between : List (List Desk.Move)) (pages : Pages)
    (takes : TakesBetween always w (Session.leaf home bound b most between pages w).2)
    (takes' : TakesBetween always w' (Session.leaf home.plain bound b' most between pages w').2) :
    ∃ result w₁ w₁' n', Session.leaf home bound b most between pages w = (result, w₁) ∧
      Session.leaf home.plain bound b' most between pages w' = (result, w₁') ∧ result.IsEnd ∧
      Twins p always script n' w₁ w₁' := by
  induction b generalizing n b' most between pages w w' with
  | zero => exact absurd hb (Nat.not_lt_zero n)
  | succ b ih =>
    obtain ⟨b', rfl⟩ := Nat.exists_eq_add_of_lt hb'
    obtain ⟨result, w₁, w₁', n', ran, ran', fewer, twins⟩ := h.run covered (pages.alike_pull)
      (takes.fore (notAfter_run ..) (Session.run_notAfter_leaf Session.notAfter_leaf))
      (takes'.fore (notAfter_run ..) (Session.run_notAfter_leaf Session.notAfter_leaf))
    have after : w.NotAfter w₁ := by simpa only [ran] using notAfter_run home (pages.pull bound) w
    have after' : w'.NotAfter w₁' := by
      simpa only [ran'] using notAfter_run home.plain (pages.pull bound) w'
    rw [Session.leaf, ran] at takes
    rw [Session.leaf, ran'] at takes'
    rw [Session.leaf, Session.leaf, ran, ran']
    rcases result with f | _ | ⟨page, pages⟩
    · exact ⟨_, _, _, n', rfl, rfl, trivial, twins⟩
    · exact ⟨_, _, _, n', rfl, rfl, trivial, twins⟩
    have fewer : n' < n := fewer _ rfl
    have twins := twins.happen (.taken page)
    cases last : most.any (· ≤ 1) with
    | true => exact ⟨_, _, _, n', rfl, rfl, trivial, twins⟩
    | false =>
      obtain ⟨same, twins⟩ := twins.playAll (between.headD [])
      simp only [last, Bool.false_eq_true, if_false] at takes takes' ⊢
      rcases played : (w₁.happen (.taken page)).desk.playAll (between.headD []) with ⟨failure, desk⟩
      rcases played' : (w₁'.happen (.taken page)).desk.playAll (between.headD []) with
        ⟨failure', desk'⟩
      rw [played, played'] at same twins
      rw [played] at takes
      rw [played'] at takes'
      obtain rfl : failure' = failure := same
      cases failure' with
      | some f => exact ⟨_, _, _, n', rfl, rfl, trivial, twins⟩
      | none =>
        exact ih twins (by omega) (by omega) _ _ _ (takes.rear after (Session.notAfter_leaf ..))
          (takes'.rear after' (Session.notAfter_leaf ..))

end World.Twins

namespace Session

/-- Two sessions of a client that repeats its requests and of one that does not. -/
structure Twins (p : Persistence) (always : Prop) (script : List Prepared) (s s' : Session) :
    Prop where
  fits : p.Fits s.settings
  settings : s'.settings = Recast.plain.settings s.settings
  world : World.Twins p always script s'.world.script.length s.world s'.world
  patches : s'.patches = s.patches.map fun x => (x.1, Recast.plain.patch x.2)
  homes : ∀ name q, Table.get? name s.patches = some q → p.Covers q.home

/-- Two commands in two sessions come to the same end and leave twins, if all their reports are taken. -/
def Agree (p : Persistence) (always : Prop) (script : List Prepared) (s s' : Session)
    (x x' : Result × Session) : Prop :=
  World.TakesBetween always s.world x.2.world → World.TakesBetween always s'.world x'.2.world →
    x'.1 = x.1 ∧ x.1.IsEnd ∧ Twins p always script x.2 x'.2

namespace Twins
variable {p : Persistence} {always : Prop} {script : List Prepared} {s s' : Session}
  (h : Twins p always script s s')
include h

theorem withWorld {since : List Prepared} {n : Nat} {w w' : World}
    (twins : World.Twins p always since n w w') :
    Twins p always since { s with world := w } { s' with world := w' } :=
  { h with world := { twins with short := Nat.le_refl _ } }

theorem ofBase (name : String) :
    Endpoint.ofBase s'.settings name = (Endpoint.ofBase s.settings name).map .plain := by
  rw [h.settings]
  exact Recast.plain.ofBase s.settings name

theorem ofDrive (name : String) :
    Endpoint.ofDrive s'.settings name = (Endpoint.ofDrive s.settings name).map .plain := by
  rw [h.settings]
  exact Recast.plain.ofDrive s.settings name

/-- There are more pages allowed than there are responses. -/
theorem budget : s'.world.script.length < s.budget ∧ s'.world.script.length < s'.budget := by
  have fewer : s'.world.script.length ≤ s.world.script.length := by
    rw [h.world.thinned]
    exact (p.thin_sublist p.most s.world.script).length_le
  rw [Session.budget, Session.budget]
  omega

theorem settle {α β : Type} {f : α → β} {outcome : Outcome α} {next : α → Result × Session}
    {next' : β → Result × Session}
    (agree : ∀ a, outcome = .ok a → Agree p always script s s' (next a) (next' (f a))) :
    Agree p always script s s' (s.settle outcome next) (s'.settle (outcome.map f) next') := by
  cases outcome with
  | error failure => exact fun _ _ => ⟨rfl, trivial, h⟩
  | ok a => exact agree a rfl

/-- A job for an endpoint, if there is one. -/
theorem runErrand {may : Prop} {home : Outcome Endpoint} {j j' : Job Result}
    (covered : ∀ e, home = .ok e → may → p.Covers e)
    (alike : j.Alike (fun _ busy x => busy = none ∧ ∀ r, x = .ok r → r.IsEnd) may
      s'.world.script.length none j') :
    Agree p always script s s' (s.runErrand (home.map (Errand.mk · j)))
      (s'.runErrand ((home.map Endpoint.plain).map (Errand.mk · j'))) := by
  intro takes takes'
  cases home with
  | error f => exact ⟨rfl, trivial, h⟩
  | ok e =>
    obtain ⟨result, w, w', n, ran, ran', ended, twins⟩ :=
      h.world.run (covered e rfl) alike takes takes'
    have here : s.runErrand (.ok ⟨e, j⟩) = (Result.ofOutcome id result, { s with world := w }) := by
      rw [Session.runErrand, ran]
      rfl
    have there : s'.runErrand (.ok ⟨e.plain, j'⟩) =
        (Result.ofOutcome id result, { s' with world := w' }) := by
      rw [Session.runErrand, ran']
      rfl
    change (s'.runErrand (.ok ⟨e.plain, j'⟩)).1 = (s.runErrand (.ok ⟨e, j⟩)).1 ∧
      (s.runErrand (.ok ⟨e, j⟩)).1.IsEnd ∧
      Twins p always script (s.runErrand (.ok ⟨e, j⟩)).2 (s'.runErrand (.ok ⟨e.plain, j'⟩)).2
    rw [here, there]
    refine ⟨rfl, ?_, h.withWorld twins⟩
    cases result with
    | error f => trivial
    | ok r => exact ended r rfl

/-- A job of a base. -/
theorem inBase {α : Type} (base : String) (toValue : α → Value) {j j' : Job α}
    (alike : j.Alike Job.AtRest True s'.world.script.length none j') :
    Agree p always script s s' (s.inBase base toValue j) (s'.inBase base toValue j') := by
  rw [Session.inBase, Session.inBase, h.ofBase]
  exact h.runErrand (fun e found _ => h.fits.covers_ofBase found) (alike.map fun _ => trivial)

/-- A job of a drive. -/
theorem inDrive {α : Type} (drive : String) (toValue : α → Value) {j j' : Job α}
    (alike : j.Alike Job.AtRest True s'.world.script.length none j') :
    Agree p always script s s' (s.inDrive drive toValue j) (s'.inDrive drive toValue j') := by
  rw [Session.inDrive, Session.inDrive, h.ofDrive]
  exact h.runErrand (fun e found _ => h.fits.covers_ofDrive found) (alike.map fun _ => trivial)

/-- The sheet of a query in both sessions, and where the query goes. -/
theorem find (name : String) : s'.world.desk.find name =
    (s.world.desk.find name).map fun x => (x.1, Recast.plain.sheet x.2) := by
  rw [h.world.desk, Recast.find_desk]

theorem homeOf (sheet : Sheet) : Errand.homeOf s'.settings (Recast.plain.sheet sheet) =
    (Errand.homeOf s.settings sheet).plain := by
  rw [h.settings]
  exact Recast.plain.homeOf_sheet s.settings sheet

theorem covers_homeOf {name : String} {x : Nat × Sheet} (found : s.world.desk.find name = .ok x)
    (bound : x.2.home.isSome = true) : p.Covers (Errand.homeOf s.settings x.2) := by
  obtain ⟨home, there⟩ := Option.isSome_iff_exists.mp bound
  rw [Errand.homeOf, there]
  exact h.world.homes.find found home there

/-- A job for a query. -/
theorem runQuery {α : Type} (name : String) (toValue : α → Value) {job job' : Bool → Nat → Job α}
    (alike : ∀ bound ref, (job bound ref).Alike Job.AtRest (bound = true) s'.world.script.length none
      (job' bound ref)) :
    Agree p always script s s' (s.runErrand (Errand.forQuery s.settings s.world.desk name toValue job))
      (s'.runErrand (Errand.forQuery s'.settings s'.world.desk name toValue job')) := by
  rw [Errand.forQuery, Errand.forQuery, h.find]
  cases found : s.world.desk.find name with
  | error f => exact fun _ _ => ⟨rfl, trivial, h⟩
  | ok x =>
    have bound : (Recast.plain.sheet x.2).home.isSome = x.2.home.isSome := Option.isSome_map ..
    have covered : ∀ e, Except.ok (Errand.homeOf s.settings x.2) = (.ok e : Outcome Endpoint) →
        x.2.home.isSome = true → p.Covers e := by
      rintro _ ⟨⟩
      exact h.covers_homeOf found
    have shown : ∀ a, (Result.value (toValue a)).IsEnd := fun _ => trivial
    have ran := h.runErrand covered ((alike x.2.home.isSome x.1).map shown)
    change Agree p always script s s' _ (s'.runErrand (.ok (Errand.showing
      (Errand.homeOf s'.settings (Recast.plain.sheet x.2)) toValue
      (job' (Recast.plain.sheet x.2).home.isSome x.1))))
    rw [h.homeOf, bound]
    exact ran

/-- The pages of a query. -/
theorem leafThrough (name : String) (most : Option Nat) (between : List (List Desk.Move)) :
    Agree p always script s s' (s.leafThrough name most between) (s'.leafThrough name most between) := by
  rw [Session.leafThrough, Session.leafThrough, h.find]
  refine h.settle fun x found takes takes' => ?_
  have bound : (Recast.plain.sheet x.2).home.isSome = x.2.home.isSome := Option.isSome_map ..
  have pages : (Recast.plain.sheet x.2).query = x.2.query := rfl
  simp only [h.homeOf, bound, pages] at takes' ⊢
  obtain ⟨result, w, w', n, ran, ran', ended, twins⟩ := h.world.leaf
    (h.covers_homeOf found) h.budget.1 h.budget.2 most between
    (Pages.start x.2.query) takes takes'
  rw [ran, ran']
  exact ⟨rfl, ended, h.withWorld twins⟩

theorem findPatch (name : String) : s'.findPatch name =
    (s.findPatch name).map Recast.plain.patch := Recast.plain.findPatch h.patches name

theorem covers_findPatch {name : String} {q : BoundPatch} (found : s.findPatch name = .ok q) :
    p.Covers q.home := by
  rw [Session.findPatch] at found
  split at found <;> cases found
  exact h.homes name q ‹_›

/-- A patch is named in both sessions. -/
theorem putPatch (name : String) {q : BoundPatch} (covered : p.Covers q.home) :
    Twins p always script { s with patches := Table.put name q s.patches }
      { s' with patches := Table.put name (Recast.plain.patch q) s'.patches } :=
  { h with
    patches := by
      change Table.put name (Recast.plain.patch q) s'.patches = _
      rw [h.patches]
      exact Table.put_map Recast.plain.patch name q s.patches
    homes := fun other q' found => by
      by_cases same : other = name
      · subst same
        rw [Table.get?_put_self] at found
        cases found
        exact covered
      · rw [Table.get?_put_ne same] at found
        exact h.homes other q' found }

/-! ## Commands -/

theorem carryOut_bindPatch (base : String) (key : Value) (name : String) :
    Agree p always script s s' (s.carryOut (.bindPatch base key name)) (s'.carryOut (.bindPatch base key name)) := by
  have bound : (do return ⟨← Endpoint.ofBase s'.settings base, ← validKey key, Patch.empty⟩ :
        Outcome BoundPatch) =
      (do return ⟨← Endpoint.ofBase s.settings base, ← validKey key, Patch.empty⟩ :
        Outcome BoundPatch).map Recast.plain.patch := by
    rw [h.settings]
    exact Recast.plain.bindPatch s.settings base key
  simp only [Session.carryOut]
  rw [bound]
  refine h.settle fun q bound _ _ => ⟨rfl, trivial, h.putPatch name ?_⟩
  obtain ⟨e, found, rest⟩ := exists_of_bind_eq_ok bound
  obtain ⟨key, -, done⟩ := exists_of_bind_eq_ok rest
  cases done
  exact h.fits.covers_ofBase found

theorem carryOut_changePatch (name : String) (changes : List Patch.Change) :
    Agree p always script s s' (s.carryOut (.changePatch name changes))
      (s'.carryOut (.changePatch name changes)) := by
  rw [Session.carryOut, Session.carryOut, h.findPatch]
  refine h.settle fun q found _ _ => ?_
  have covered : p.Covers q.home := h.covers_findPatch found
  exact ⟨rfl, trivial, h.putPatch name (q := { q with patch := q.patch.changeAll changes }) covered⟩

theorem carryOut_commitPatch (name : String) :
    Agree p always script s s' (s.carryOut (.commitPatch name)) (s'.carryOut (.commitPatch name)) := by
  rw [Session.carryOut, Session.carryOut, h.findPatch]
  cases found : s.findPatch name with
  | error f => exact fun _ _ => ⟨rfl, trivial, h⟩
  | ok q =>
    have covered : ∀ e, Except.ok q.home = (.ok e : Outcome Endpoint) → True → p.Covers e := by
      rintro _ ⟨⟩ -
      exact h.covers_findPatch found
    have shown : ∀ a, (Result.value (UpdateAnswer.toValue a)).IsEnd := fun _ => trivial
    have ran := h.runErrand covered ((Base.alike_commit trivial (some q.key) q.patch).map shown)
    exact ran

theorem carryOut_query (m : Desk.Move) :
    Agree p always script s s' (s.carryOut (.query m)) (s'.carryOut (.query m)) := by
  have played : s'.world.desk.play m =
      (s.world.desk.play m).map fun x => (x.1, Recast.plain.desk x.2) := by
    rw [h.world.desk, Recast.play_desk]
  rw [Session.carryOut, Session.carryOut, played]
  refine h.settle fun x found _ _ => ?_
  have moved : World.Twins p always script s'.world.script.length { s.world with desk := x.2 }
      { s'.world with desk := Recast.plain.desk x.2 } :=
    { h.world with desk := rfl, homes := h.world.homes.play found }
  exact ⟨rfl, trivial, h.withWorld moved⟩

theorem carryOut_download (drive name : String) :
    Agree p always script s s' (s.carryOut (.download drive name)) (s'.carryOut (.download drive name)) := by
  have errand (home : Outcome Endpoint) (j : Job Result) :
      (do return ⟨← home, j⟩ : Outcome Errand) = home.map (Errand.mk · j) := by cases home <;> rfl
  rw [Session.carryOut, Session.carryOut, errand, errand, h.ofDrive]
  exact h.runErrand (fun e found _ => h.fits.covers_ofDrive found)
    ((Drive.alike_download trivial name).map fun _ => trivial)

/-- The caller of an upload hears of it until it has ended. -/
theorem carryOut_upload (drive saveAs : String) (content : Drive.FileContent)
    {o : Drive.UploadOptions} (listener : Option Listener)
    (sequential : (Command.upload drive saveAs content o listener).isSequential = true) :
    Agree p always script s s' (s.carryOut (.upload drive saveAs content o listener))
      (s'.carryOut (.upload drive saveAs content o listener)) := by
  have heard : Twins p always script { s with world := { s.world with listener := listener } }
      { s' with world := { s'.world with listener := listener } } :=
    h.withWorld { h.world with listener := rfl }
  have agree := heard.inDrive drive Drive.UploadResult.toValue
    (Drive.alike_store trivial saveAs content sequential)
  rw [Session.carryOut, Session.carryOut]
  intro takes takes'
  obtain ⟨same, ended, twins⟩ := agree takes takes'
  exact ⟨same, ended, twins.withWorld { twins.world with listener := rfl }⟩

/-- What a command comes to does not depend on whether requests are repeated. -/
theorem carryOut {c : Command} (sequential : c.isSequential = true) :
    Agree p always script s s' (s.carryOut c) (s'.carryOut c) := by
  cases c with
  | settings | insertAt | address | exchange | exchangeAs => cases sequential
  | advance ms => exact fun _ _ => ⟨rfl, trivial, h.withWorld { h.world with }⟩
  | base name =>
    rw [Session.carryOut, Session.carryOut, h.ofBase]
    exact h.settle fun _ _ _ _ => ⟨rfl, trivial, h⟩
  | drive name =>
    rw [Session.carryOut, Session.carryOut, h.ofDrive]
    exact h.settle fun _ _ _ _ => ⟨rfl, trivial, h⟩
  | get base key => exact h.inBase base _ (Base.alike_get trivial key)
  | delete base key => exact h.inBase base _ (Base.alike_delete trivial key)
  | put base records => exact h.inBase base _ (Base.alike_put trivial base records)
  | putMany base records => exact h.inBase base _ (Base.alike_putMany trivial base records)
  | insert base r => exact h.inBase base _ (Base.alike_insert trivial base r)
  | update base key changes => exact h.inBase base _ (Base.alike_update trivial key _)
  | bindPatch base key name => exact h.carryOut_bindPatch base key name
  | changePatch name changes => exact h.carryOut_changePatch name changes
  | commitPatch name => exact h.carryOut_commitPatch name
  | query m => exact h.carryOut_query m
  | runQuery name =>
    refine h.runQuery name _ fun bound ref => ?_
    exact ⟨rfl, _, rfl, fun q => Walk.alike_fetch q (fun _ _ _ => rfl) (fun _ _ _ => rfl)⟩
  | walk name policy =>
    exact h.runQuery name _ fun bound ref => Walk.alike_run ref policy h.budget.1 h.budget.2
  | pages name most between => exact h.leafThrough name most between
  | list drive o => exact h.inDrive drive _ (Drive.alike_list trivial o)
  | listAll drive front =>
    exact h.inDrive drive _ (Drive.alike_listAll trivial front h.budget.1 h.budget.2)
  | download drive name => exact h.carryOut_download drive name
  | deleteFiles drive names => exact h.inDrive drive _ (Drive.alike_delete trivial names)
  | upload drive saveAs content o listener =>
    exact h.carryOut_upload drive saveAs content listener sequential

end Twins
end Session
end Depot
