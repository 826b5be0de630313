import Depot.Query.Pages
import Depot.Session.Errand
import Depot.World.Run
/-!
# Sessions

A session is one client in a world, with what its caller has named. Every
command yields a reply: its result, and what could be observed meanwhile.
-/
namespace Depot

/-- A patch that is bound to an item. -/
structure BoundPatch where
  home : Endpoint
  key : String
  patch : Patch

structure Session where
  settings : Settings
  world : World
  patches : Table BoundPatch

/-- The reply to a command; only what has changed is in it. -/
structure Reply where
  result : Result
  pages : Option (List Page)
  requests : List Request
  logs : List LogEntry
  counters : Table Nat
  timings : Table (List Float)
  lines : List ConsoleLine
  tellings : Option (List (Nat × Nat))
  elapsedMs : Float

namespace Session

/-- Runs an errand, unless its endpoint is already in error. -/
def runErrand (s : Session) : Outcome Errand → Result × Session
  | .error f => (.failed f, s)
  | .ok e =>
    let (result, world) := s.world.run e.home e.job
    (result.elim .unfinished (Result.ofOutcome id), { s with world := world })

/-- Runs an errand of a base. -/
def inBase {α : Type} (s : Session) (base : String) (toValue : α → Value) (job : Job α) :
    Result × Session :=
  s.runErrand <| (Endpoint.ofBase s.settings base).map (Errand.showing · toValue job)

/-- Runs an errand of a drive. -/
def inDrive {α : Type} (s : Session) (drive : String) (toValue : α → Value) (job : Job α) :
    Result × Session :=
  s.runErrand <| (Endpoint.ofDrive s.settings drive).map (Errand.showing · toValue job)

/-- The patch of a name. -/
def findPatch (s : Session) (name : String) : Outcome BoundPatch :=
  match Table.get? name s.patches with
  | some p => .ok p
  | none => .error (.foreign "Error" ("there is no patch named " ++ name))

/-- Shows something that a session comes to, or the failure in its way. -/
def settle {α : Type} (s : Session) (outcome : Outcome α) (next : α → Result × Session) :
    Result × Session :=
  match outcome with
  | .ok a => next a
  | .error f => (.failed f, s)

/-- Takes the next pages, of which there are at most `budget`. -/
def leaf (home : Endpoint) (bound : Bool) : (budget : Nat) → (most : Option Nat) →
    List (List Desk.Move) → Pages → World → Result × World
  | 0, _, _, _, w => (.unfinished, w)
  | budget + 1, most, between, p, w =>
    match w.run home (p.pull bound) with
    | (none, w) => (.unfinished, w)
    | (some (.error f), w) => (.failed f, w)
    | (some (.ok none), w) => (.value .null, w)
    | (some (.ok (some (page, p))), w) =>
      let w := w.happen (.taken page)
      if most.any (· ≤ 1) then (.value .null, w)
      else
        match w.desk.playAll (between.headD []) with
        | (some f, desk) => (.failed f, { w with desk := desk })
        | (none, desk) =>
          leaf home bound budget (most.map (· - 1)) between.tail p { w with desk := desk }

/-- The most pages that the prepared responses can hold, and one more. -/
def budget (s : Session) : Nat := s.world.script.length + 2

/-- Takes the pages of a query one by one, `most` at most. -/
def leafThrough (s : Session) (name : String) (most : Option Nat)
    (between : List (List Desk.Move)) : Result × Session :=
  s.settle (s.world.desk.find name) fun (_, sheet) =>
    let (result, world) := leaf (Errand.homeOf s.settings sheet) sheet.home.isSome s.budget most
      between (Pages.start sheet.query) s.world
    (result, { s with world := world })

/-- Carries out a command. -/
def carryOut (s : Session) : Command → Result × Session
  | .settings => (.settings s.settings, s)
  | .advance ms => (.value .null, { s with world := s.world.pass ms })
  | .base name => s.settle (Endpoint.ofBase s.settings name) fun _ => (.value (.text name), s)
  | .drive name => s.settle (Endpoint.ofDrive s.settings name) fun _ => (.value (.text name), s)
  | .get base key => s.inBase base Item.toValue (Base.get key)
  | .delete base key => s.inBase base DeleteAnswer.toValue (Base.delete key)
  | .put base records => s.inBase base Base.PutResult.toValue (Base.put base records)
  | .putMany base records => s.inBase base Base.PutResult.toValue (Base.putMany base records)
  | .insert base r => s.inBase base Item.toValue (Base.insert base r)
  | .update base key changes =>
    s.inBase base UpdateAnswer.toValue (Base.update key (Patch.empty.changeAll changes))
  | .bindPatch base key name =>
    let bound : Outcome BoundPatch := do
      return ⟨← Endpoint.ofBase s.settings base, ← validKey key, Patch.empty⟩
    s.settle bound fun p => (.value .null, { s with patches := Table.put name p s.patches })
  | .changePatch name changes =>
    s.settle (s.findPatch name) fun p =>
      let patch := p.patch.changeAll changes
      (.value (.text (Value.record patch.payload).json),
        { s with patches := Table.put name { p with patch := patch } s.patches })
  | .commitPatch name => s.runErrand <| (s.findPatch name).map fun p =>
    Errand.showing p.home UpdateAnswer.toValue (Base.commit (some p.key) p.patch)
  | .query m =>
    s.settle (s.world.desk.play m) fun (q, desk) =>
      (.value (.text (Value.record q.payload).json),
        { s with world := { s.world with desk := desk } })
  | .runQuery name => s.runErrand <|
    Errand.forQuery s.settings s.world.desk name Page.toValue fun bound ref =>
      .query ref (Walk.fetch bound)
  | .walk name policy => s.runErrand <|
    Errand.forQuery s.settings s.world.desk name WalkResult.toValue fun bound ref =>
      Walk.run bound ref policy s.budget
  | .pages name most between => s.leafThrough name most between
  | .list drive o => s.inDrive drive Listing.toValue (Drive.list o)
  | .listAll drive front => s.inDrive drive Value.texts (Drive.listAll front s.budget)
  | .download drive name => s.runErrand do
    return ⟨← Endpoint.ofDrive s.settings drive, do return .bytes (← Drive.download name)⟩
  | .deleteFiles drive names => s.inDrive drive DeletedFiles.toValue (Drive.delete names)
  | .upload drive saveAs content o listener =>
    let heard := { s with world := { s.world with listener := listener } }
    let (result, s) :=
      heard.inDrive drive Drive.UploadResult.toValue (Drive.store saveAs content o)
    (result, { s with world := { s.world with listener := none } })
  | .insertAt e base r =>
    let timed := { s with world := { s.world with stopped := none } }
    let (result, next) := timed.runErrand (.ok (.showing e Item.toValue (Base.insert base r)))
    (result, { next with world := { next.world with stopped := s.world.stopped } })
  | .address e c => (.value (.text (e.url c.path c.params)), s)
  | .exchange e c => s.runErrand (.ok ⟨e, do return .bytes (← Job.exchange c)⟩)
  | .exchangeAs e c schema => s.runErrand (.ok (.showing e id (Job.exchangeAs schema.decode c)))

/-- The amounts told of during an upload by a caller that wants to know. -/
private def tellings (w : World) : Command → Option (List (Nat × Nat))
  | .upload _ _ _ _ (some _) => some w.tellings
  | _ => none

/-- The pages taken in a command about them. -/
private def pages (w : World) : Command → Option (List Page)
  | .pages .. => some w.pages
  | _ => none

/-- Carries out a command with more responses prepared for it. -/
def perform (s : Session) (c : Command) (responses : List Prepared) : Reply × Session :=
  let (result, next) := { s with world := s.world.afresh.prepare responses }.carryOut c
  let before := s.world.observer
  let after := next.world.observer
  let reply : Reply :=
    { result := result
      pages := pages next.world c
      requests := next.world.requests
      logs := after.logger.entries.drop before.logger.entries.length
      counters := after.meter.metrics.totalsSince before.meter.metrics
      timings := after.meter.metrics.samplesSince before.meter.metrics
      lines := next.world.lines
      tellings := tellings next.world c
      elapsedMs := next.world.now - s.world.now }
  (reply, next)

/-- A session that begins. -/
def start (settings : Settings) (observer : Observer) (now : Float) (stopped : Option Float)
    (channel : Channel) (draws : List Float) : Session :=
  { settings := settings
    world :=
      { World.start now observer channel draws (Desk.empty settings) with stopped := stopped }
    patches := [] }

/-- Carries out commands one after another, whatever comes of each. -/
def performAll (s : Session) : List (Command × List Prepared) → List Reply
  | [] => []
  | (c, responses) :: rest =>
    let (reply, s) := s.perform c responses
    reply :: performAll s rest

end Session
end Depot
