import Depot.Proofs.World.Disguise
/-!
# Sessions in disguise

The same commands in two sessions, the second of which is the first in disguise: the replies are the
same but for the requests, which are those of the first in disguise.
-/
namespace Depot

/-- Whether a command is one for the bases, drives and queries of a client, or lets time pass. The
others show the settings, or go to an endpoint of their own. -/
def Command.isOfClient : Command → Bool
  | .settings | .insertAt .. | .address .. | .exchange .. | .exchangeAs .. => false
  | _ => true

namespace Disguise
variable (d : Disguise)

def session (s : Session) : Session :=
  { settings := d.settings s.settings
    world := d.world s.world
    patches := s.patches.map fun x => (x.1, d.patch x.2) }

theorem patches_session (s : Session) :
    (d.session s).patches = s.patches.map fun x => (x.1, d.patch x.2) := rfl

def reply (r : Reply) : Reply := { r with requests := r.requests.map d.sent }

/-- What a command comes to, in disguise. -/
def outcome {α : Type} (x : α × Session) : α × Session := (x.1, d.session x.2)

section Past
variable (w : World)

theorem history_world : (d.world w).history = w.history.map d.event := List.map_reverse.symm

theorem requests_world : (d.world w).requests = w.requests.map d.sent := by
  rw [World.requests, World.requests, history_world, List.filterMap_map, List.map_filterMap]
  exact congrArg (List.filterMap · w.history) (funext fun e => by cases e <;> rfl)

theorem lines_world : (d.world w).lines = w.lines := by
  rw [World.lines, World.lines, history_world, List.filterMap_map]
  exact congrArg (List.filterMap · w.history) (funext fun e => by cases e <;> rfl)

theorem tellings_world : (d.world w).tellings = w.tellings := by
  rw [World.tellings, World.tellings, history_world, List.filterMap_map]
  exact congrArg (List.filterMap · w.history) (funext fun e => by cases e <;> rfl)

theorem pages_world : (d.world w).pages = w.pages := by
  rw [World.pages, World.pages, history_world, List.filterMap_map]
  exact congrArg (List.filterMap · w.history) (funext fun e => by cases e <;> rfl)

end Past

section Errands
variable (s : Session)

theorem runErrand_session (e : Outcome Errand) :
    (d.session s).runErrand (e.map d.errand) = d.outcome (s.runErrand e) := by
  cases e with
  | error f => rfl
  | ok e =>
    have run : (d.session s).world.run (d.errand e).home (d.errand e).job =
        ((s.world.run e.home e.job).1, d.world (s.world.run e.home e.job).2) :=
      d.run_world s.world e.home e.job
    simp only [Except.map, Session.runErrand, run]
    rfl

theorem inBase_session {α : Type} (base : String) (toValue : α → Value) (job : Job α) :
    (d.session s).inBase base toValue job = d.outcome (s.inBase base toValue job) := by
  have errand : (Endpoint.ofBase (d.settings s.settings) base).map (Errand.showing · toValue job) =
      ((Endpoint.ofBase s.settings base).map (Errand.showing · toValue job)).map d.errand := by
    rw [d.ofBase]
    cases Endpoint.ofBase s.settings base <;> rfl
  rw [Session.inBase, Session.inBase, ← runErrand_session]
  exact congrArg _ errand

theorem inDrive_session {α : Type} (drive : String) (toValue : α → Value) (job : Job α) :
    (d.session s).inDrive drive toValue job = d.outcome (s.inDrive drive toValue job) := by
  have errand : (Endpoint.ofDrive (d.settings s.settings) drive).map
        (Errand.showing · toValue job) =
      ((Endpoint.ofDrive s.settings drive).map (Errand.showing · toValue job)).map d.errand := by
    rw [d.ofDrive]
    cases Endpoint.ofDrive s.settings drive <;> rfl
  rw [Session.inDrive, Session.inDrive, ← runErrand_session]
  exact congrArg _ errand

theorem forQuery_session {α : Type} (name : String) (toValue : α → Value)
    (job : Bool → Nat → Job α) :
    Errand.forQuery (d.session s).settings (d.session s).world.desk name toValue job =
      (Errand.forQuery s.settings s.world.desk name toValue job).map d.errand :=
  d.forQuery s.settings s.world.desk name toValue job

theorem leaf_world (home : Endpoint) (bound : Bool) (budget : Nat) (most : Option Nat)
    (between : List (List Desk.Move)) (p : Pages) (w : World) :
    Session.leaf (d.home home) bound budget most between p (d.world w) =
      ((Session.leaf home bound budget most between p w).1,
        d.world (Session.leaf home bound budget most between p w).2) := by
  induction budget generalizing most between p w with
  | zero => rfl
  | succ budget ih =>
    rw [Session.leaf, Session.leaf, run_world]
    rcases w.run home (p.pull bound) with ⟨_ | f | _ | ⟨page, p⟩, w⟩
    · rfl
    · rfl
    · rfl
    have played (moves : List Desk.Move) : (d.world w).desk.playAll moves =
        ((w.desk.playAll moves).1, d.desk (w.desk.playAll moves).2) := d.playAll_desk w.desk moves
    have taken : ((d.world w).happen (.taken page)).desk = (d.world w).desk := rfl
    have taken' : (w.happen (.taken page)).desk = w.desk := rfl
    simp only [taken, taken', played]
    split
    · rfl
    · rcases w.desk.playAll (between.headD []) with ⟨_ | f, desk⟩
      · exact ih _ _ p { w.happen (.taken page) with desk := desk }
      · rfl

/-- What is settled may itself be in disguise. -/
theorem settle_session {α β : Type} (g : α → β) (x : Outcome α) {next : α → Result × Session}
    {next' : β → Result × Session} (h : ∀ a, next' (g a) = d.outcome (next a)) :
    (d.session s).settle (x.map g) next' = d.outcome (s.settle x next) := by
  cases x with
  | ok a => exact h a
  | error f => rfl

theorem leafThrough_session (name : String) (most : Option Nat)
    (between : List (List Desk.Move)) :
    (d.session s).leafThrough name most between = d.outcome (s.leafThrough name most between) := by
  have found : (d.session s).world.desk.find name =
      (s.world.desk.find name).map fun x => (x.1, d.sheet x.2) := d.find_desk s.world.desk name
  rw [Session.leafThrough, Session.leafThrough, found]
  refine d.settle_session s _ _ fun (_, sheet) => ?_
  have bound : (d.sheet sheet).home.isSome = sheet.home.isSome := Option.isSome_map ..
  have leaf := d.leaf_world (Errand.homeOf s.settings sheet) (d.sheet sheet).home.isSome s.budget
    most between (Pages.start sheet.query) s.world
  rw [← d.homeOf_sheet] at leaf
  simp only [← bound]
  exact congrArg (fun x : Result × World => (x.1, { d.session s with world := x.2 })) leaf

end Errands

section Commands
variable (s : Session)

theorem ofBase_session (base : String) : Endpoint.ofBase (d.session s).settings base =
    (Endpoint.ofBase s.settings base).map d.home := d.ofBase s.settings base

theorem ofDrive_session (drive : String) : Endpoint.ofDrive (d.session s).settings drive =
    (Endpoint.ofDrive s.settings drive).map d.home := d.ofDrive s.settings drive

/-- A patch is named in disguise. -/
theorem putPatch_session (name : String) (p : BoundPatch) (r : Result) :
    (r, { d.session s with patches := Table.put name (d.patch p) (d.session s).patches }) =
      d.outcome (r, { s with patches := Table.put name p s.patches }) :=
  congrArg (fun patches => (r, ({ d.session s with patches := patches } : Session)))
    (Table.put_map d.patch name p s.patches)

end Commands

/-- In disguise a client carries out the commands for its bases, drives and queries as before. -/
theorem carryOut_session (s : Session) {c : Command} (h : c.isOfClient = true) :
    (d.session s).carryOut c = d.outcome (s.carryOut c) := by
  cases c with
  | settings | insertAt | address | exchange | exchangeAs => cases h
  | advance ms => rfl
  | base name =>
    rw [Session.carryOut, Session.carryOut, ofBase_session]
    exact d.settle_session s d.home _ fun _ => rfl
  | drive name =>
    rw [Session.carryOut, Session.carryOut, ofDrive_session]
    exact d.settle_session s d.home _ fun _ => rfl
  | get base key => exact d.inBase_session s base _ _
  | delete base key => exact d.inBase_session s base _ _
  | put base records => exact d.inBase_session s base _ _
  | putMany base records => exact d.inBase_session s base _ _
  | insert base r => exact d.inBase_session s base _ _
  | update base key changes => exact d.inBase_session s base _ _
  | bindPatch base key name =>
    have bound := d.bindPatch s.settings base key
    simp only [Session.carryOut]
    rw [show (d.session s).settings = d.settings s.settings from rfl, bound]
    exact d.settle_session s d.patch _ fun p => d.putPatch_session s name p _
  | changePatch name changes =>
    rw [Session.carryOut, Session.carryOut, d.findPatch (d.patches_session s)]
    exact d.settle_session s d.patch _ fun p =>
      d.putPatch_session s name { p with patch := p.patch.changeAll changes } _
  | commitPatch name =>
    rw [Session.carryOut, Session.carryOut, d.findPatch (d.patches_session s), ← runErrand_session]
    cases s.findPatch name <;> rfl
  | query m =>
    have played : (d.session s).world.desk.play m =
        (s.world.desk.play m).map fun x => (x.1, d.desk x.2) := d.play_desk s.world.desk m
    rw [Session.carryOut, Session.carryOut, played]
    exact d.settle_session s _ _ fun _ => rfl
  | runQuery name =>
    rw [Session.carryOut, Session.carryOut, d.forQuery_session s]
    exact d.runErrand_session s _
  | walk name policy =>
    rw [Session.carryOut, Session.carryOut, d.forQuery_session s]
    exact d.runErrand_session s _
  | pages name most between => exact d.leafThrough_session s name most between
  | list drive o => exact d.inDrive_session s drive _ _
  | listAll drive front => exact d.inDrive_session s drive _ _
  | download drive name =>
    rw [Session.carryOut, Session.carryOut, ofDrive_session, ← runErrand_session]
    cases Endpoint.ofDrive s.settings drive <;> rfl
  | deleteFiles drive names => exact d.inDrive_session s drive _ _
  | upload drive saveAs content o listener =>
    have stored := d.inDrive_session { s with world := { s.world with listener := listener } } drive
      Drive.UploadResult.toValue (Drive.store saveAs content o)
    exact congrArg (fun x : Result × Session =>
      (x.1, ({ x.2 with world := { x.2.world with listener := none } } : Session))) stored

/-- In disguise the reply to a command differs in its requests at most. -/
theorem perform_session (s : Session) {c : Command} (h : c.isOfClient = true)
    (responses : List Prepared) : (d.session s).perform c responses =
      (d.reply (s.perform c responses).1, d.session (s.perform c responses).2) := by
  have carried := d.carryOut_session
    { s with world := s.world.afresh.prepare responses } h
  have prepared : { d.session s with world := (d.session s).world.afresh.prepare responses } =
      d.session { s with world := s.world.afresh.prepare responses } := rfl
  rw [Session.perform, Session.perform, prepared, carried]
  rcases ({ s with world := s.world.afresh.prepare responses } : Session).carryOut c
    with ⟨result, next⟩
  refine Prod.ext ?_ rfl
  have requests : (d.session next).world.requests = next.world.requests.map d.sent :=
    d.requests_world next.world
  have lines : (d.session next).world.lines = next.world.lines := d.lines_world next.world
  have pages : (d.session next).world.pages = next.world.pages := d.pages_world next.world
  have tellings : (d.session next).world.tellings = next.world.tellings :=
    d.tellings_world next.world
  simp only [outcome, reply, requests, lines]
  congr 1
  · cases c with
    | pages => exact congrArg some pages
    | _ => rfl
  · cases c with
    | upload _ _ _ _ listener =>
      cases listener with
      | none => rfl
      | some l => exact congrArg some tellings
    | _ => rfl

/-- In disguise a session replies as before, but for the requests. -/
theorem performAll_session (s : Session) {commands : List (Command × List Prepared)}
    (h : ∀ x ∈ commands, x.1.isOfClient = true) :
    (d.session s).performAll commands = (s.performAll commands).map d.reply := by
  induction commands generalizing s with
  | nil => rfl
  | cons x rest ih =>
    obtain ⟨c, responses⟩ := x
    obtain ⟨first, others⟩ := List.forall_mem_cons.mp h
    rw [Session.performAll, Session.performAll, d.perform_session s first]
    exact congrArg _ (ih _ others)

end Disguise
end Depot
