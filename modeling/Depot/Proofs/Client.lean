import Depot.Proofs.Drive.Listeners
import Depot.Proofs.Report.Failures
import Depot.Proofs.Report.Series
import Depot.Retry
/-!
# Clients

A client has any number of operations at work, each of which takes its course, and an observer that
keeps what they report. So the observer is what the reports of the operations make of it, in some
order, with those of retries in between.
-/
namespace Depot

/-- What a caller can ask of a client. Walks and listings go through `budget` pages at most. -/
inductive Operation where
  | get (key : Value)
  | delete (key : Value)
  | update (key : Value) (p : Patch)
  | commit (key : Option String) (p : Patch)
  | insert (base : String) (r : Record)
  | put (base : String) (rs : List Record)
  | putMany (base : String) (rs : List Record)
  | fetch (bound : Bool) (q : Query)
  | walk (bound : Bool) (ref : Nat) (policy : PagePolicy) (budget : Nat)
  | pull (bound : Bool) (p : Pages)
  | list (o : Drive.ListOptions)
  | listAll (front : Option String) (budget : Nat)
  | download (name : String)
  | deleteFiles (names : List String)
  | store (saveAs : String) (content : Drive.FileContent) (o : Drive.UploadOptions)

namespace Operation

/-- What an operation comes to. -/
def Answer : Operation → Type
  | get _ | insert .. => Item
  | delete _ => DeleteAnswer
  | update .. | commit .. => UpdateAnswer
  | put .. | putMany .. => Base.PutResult
  | fetch .. => Page
  | walk .. => WalkResult
  | pull .. => Option (Page × Pages)
  | list _ => Listing
  | listAll .. => List String
  | download _ => ByteArray
  | deleteFiles _ => DeletedFiles
  | store .. => Drive.UploadResult

def job : (o : Operation) → Job o.Answer
  | get key => Base.get key
  | delete key => Base.delete key
  | update key p => Base.update key p
  | commit key p => Base.commit key p
  | insert base r => Base.insert base r
  | put base rs => Base.put base rs
  | putMany base rs => Base.putMany base rs
  | fetch bound q => Walk.fetch bound q
  | walk bound ref policy budget => Walk.run bound ref policy budget
  | pull bound p => p.pull bound
  | list o => Drive.list o
  | listAll front budget => Drive.listAll front budget
  | download name => Drive.download name
  | deleteFiles names => Drive.delete names
  | store saveAs content o => Drive.store saveAs content o

theorem isAccounted (o : Operation) : ∃ budget shown, o.job.IsAccounted shown budget := by
  cases o with
  | get key => exact ⟨0, _, (Job.Shows.get key).isAccounted⟩
  | delete key => exact ⟨0, _, (Job.Shows.delete key).isAccounted⟩
  | update key p => exact ⟨0, _, (Job.Shows.update key p).isAccounted⟩
  | commit key p => exact ⟨0, _, (Job.Shows.commit key p).isAccounted⟩
  | insert base r => exact ⟨0, _, (Job.Shows.insert base r).isAccounted⟩
  | put base rs => exact ⟨0, _, (Job.Shows.put base rs).isAccounted⟩
  | putMany base rs => exact ⟨0, _, (Job.Shows.putMany base rs).isAccounted⟩
  | fetch bound q => exact ⟨0, _, (Job.Shows.fetch bound q).isAccounted⟩
  | walk bound ref policy budget => exact ⟨budget, _, (Job.Shows.walk bound ref policy).isAccounted⟩
  | pull bound p => exact ⟨0, _, (Job.Shows.pull bound p).isAccounted⟩
  | list o => exact ⟨0, _, (Job.Shows.list o).isAccounted⟩
  | listAll front budget => exact ⟨budget, _, (Job.Shows.listAll front).isAccounted⟩
  | download name => exact ⟨0, _, (Job.Shows.download name).isAccounted⟩
  | deleteFiles names => exact ⟨0, _, (Job.Shows.deleteFiles names).isAccounted⟩
  | store saveAs content o => exact ⟨0, _, (Job.Shows.store saveAs content o).isAccounted⟩

end Operation

namespace Course
variable {α : Type}

/-- What a course reports with its next turn, if it reports anything. -/
def says? (c : Course α) : Option Report :=
  match c.job with
  | .report r _ => some r
  | _ => none

theorem reports_of_step {t : Turn} {c c' : Course α} (h : c.step t = some c') :
    c'.scene.reports = c.scene.reports ++ c.says?.toList := by
  cases moves_of_step h <;> simp [says?]

end Course

/-- An operation at work. -/
structure Activity where
  operation : Operation
  course : Course operation.Answer

namespace Activity

/-- The activity takes its course from where its operation begins. -/
def Runs (a : Activity) : Prop :=
  ∃ desk turns, (Course.start desk a.operation.job).run turns = some a.course

theorem runs_start (o : Operation) (desk : Desk) : Runs ⟨o, .start desk o.job⟩ := ⟨desk, [], rfl⟩

theorem Runs.step {a : Activity} (h : a.Runs) {t : Turn} {c : Course a.operation.Answer}
    (ht : a.course.step t = some c) : Runs ⟨a.operation, c⟩ := by
  obtain ⟨desk, turns, run⟩ := h
  refine ⟨desk, turns ++ [t], ?_⟩
  rw [Course.run_append, run]
  exact (Option.bind_some ..).trans (congrArg (Option.bind · (Course.run [])) ht)

/-- Whether an operation has ended. -/
def isOver (a : Activity) : Bool := a.course.result?.isSome

/-- Whether an operation has come to a result. -/
def isResolved (a : Activity) : Bool := a.course.result?.any Except.isOk

def reports (a : Activity) : List Report := a.course.scene.reports

/-- The answers to the calls of an operation. -/
def answers (a : Activity) : List Arrival := a.course.scene.arrived.map Prod.snd

end Activity

def Report.logged? : Report → Option LogEntry
  | .log e => some e
  | _ => none

namespace Observer

/-- An observer that keeps everything, after some reports. -/
def after (heard : List Report) : Observer :=
  ⟨.memory (heard.filterMap Report.logged?), heard.foldl Meter.heard (.kept .empty)⟩

theorem take_after (heard : List Report) (now : Option Instant) (r : Report) :
    (after heard).take now r = .ok ([], after (heard ++ [r])) := by
  cases r <;> simp [after, take, Logger.write, Except.map, Meter.heard, Report.logged?]

/-- The observer after something is said, if it is taken. -/
def hear (o : Observer) (now : Option Instant) (said : Option Report) : Option Observer :=
  said.elim (some o) fun r => (o.take now r).toOption.map Prod.snd

theorem hear_after (heard : List Report) (now : Option Instant) (said : Option Report) :
    (after heard).hear now said = some (after (heard ++ said.toList)) := by
  cases said with
  | none => rw [Option.toList_none, List.append_nil]; rfl
  | some r => rw [hear, Option.elim_some, take_after]; rfl

end Observer

/-- The operations that a caller has asked for, and the observer of all. -/
structure Client where
  activities : List Activity
  observer : Observer

namespace Client

/-- What can happen to a client. -/
inductive Move where
  /-- The caller asks for an operation, with its queries as they stand. -/
  | ask (o : Operation) (desk : Desk)
  /-- An operation goes on. -/
  | turn (i : Nat) (t : Turn) (now : Option Instant)
  /-- A request is sent once more. -/
  | retry (s : Retry.Step) (now : Option Instant)

/-- A client of which nothing was asked, with an observer that keeps everything. -/
def fresh : Client := ⟨[], .memory⟩

/-- The client after a move, if it is one that can happen. -/
def step (c : Client) : Move → Option Client
  | .ask o desk => some { c with activities := c.activities ++ [⟨o, .start desk o.job⟩] }
  | .turn i t now =>
    c.activities[i]?.bind fun a => (a.course.step t).bind fun course =>
      (c.observer.hear now a.course.says?).map fun observer =>
        ⟨c.activities.set i ⟨a.operation, course⟩, observer⟩
  | .retry s now =>
    (c.observer.hear now (some s.report)).map fun observer => { c with observer := observer }

def run : List Move → Client → Option Client
  | [], c => some c
  | m :: rest, c => (c.step m).bind (run rest)

/-- What the operations of a client have reported. -/
def reports (c : Client) : List Report := c.activities.flatMap Activity.reports

/-- Every operation takes its course, and the observer has heard what they report, and of retries.
-/
structure Hears (c : Client) (heard : List Report) : Prop where
  runs : ∀ a ∈ c.activities, a.Runs
  observer : c.observer = .after heard
  said : ∃ retries : List Retry.Step, heard.Perm (c.reports ++ retries.map Retry.Step.report)

theorem hears_fresh : fresh.Hears [] := ⟨fun _ ha => absurd ha List.not_mem_nil, rfl, [], .nil⟩

variable {c c' : Client} {heard : List Report}

theorem Hears.step {m : Move} (h : c.Hears heard) (hm : c.step m = some c') :
    ∃ heard', c'.Hears heard' := by
  obtain ⟨runs, observer, retries, said⟩ := h
  cases m with
  | ask o desk =>
    cases hm
    refine ⟨heard, fun a ha => ?_, observer, retries, ?_⟩
    · rcases List.mem_append.mp ha with ha | ha
      · exact runs a ha
      · rw [List.mem_singleton.mp ha]
        exact Activity.runs_start o desk
    · simpa [reports, Activity.reports, Course.start, Scene.reports] using said
  | turn i t now =>
    obtain ⟨a, ha, hm⟩ := Option.bind_eq_some_iff.mp hm
    obtain ⟨course, ht, hm⟩ := Option.bind_eq_some_iff.mp hm
    rw [observer, Observer.hear_after] at hm
    cases hm
    obtain ⟨hi, rfl⟩ := List.getElem?_eq_some_iff.mp ha
    refine ⟨_, fun b hb => ?_, rfl, retries, ?_⟩
    · rcases List.mem_or_eq_of_mem_set hb with hb | rfl
      · exact runs b hb
      · exact (runs _ (List.getElem_mem hi)).step ht
    · -- what is said goes to the end of what the operation has reported
      have parts : c.reports = (c.activities.take i).flatMap Activity.reports ++
          ((c.activities[i]).reports ++ (c.activities.drop (i + 1)).flatMap Activity.reports) := by
        rw [reports, ← List.flatMap_cons, ← List.flatMap_append, List.getElem_cons_drop,
          List.take_append_drop]
      rw [parts] at said
      rw [reports, List.set_eq_take_append_cons_drop, if_pos hi, List.flatMap_append,
        List.flatMap_cons, Activity.reports, Course.reports_of_step ht]
      refine (said.append_right _).trans ?_
      simp only [List.append_assoc]
      refine List.Perm.append_left _ (List.Perm.append_left _ ?_)
      rw [← List.append_assoc]
      exact List.perm_append_comm
  | retry s now =>
    obtain ⟨o, ho, rfl⟩ := Option.map_eq_some_iff.mp hm
    rw [observer, Observer.hear_after] at ho
    cases ho
    refine ⟨_, runs, rfl, retries ++ [s], ?_⟩
    simpa [reports, ← List.append_assoc] using said.append_right [s.report]

theorem hears_of_run {moves : List Move} (h : c.Hears heard) (hr : c.run moves = some c') :
    ∃ heard', c'.Hears heard' := by
  induction moves generalizing c heard with
  | nil =>
    cases hr
    exact ⟨heard, h⟩
  | cons m rest ih =>
    obtain ⟨d, hm, hr⟩ := Option.bind_eq_some_iff.mp hr
    obtain ⟨_, h⟩ := h.step hm
    exact ih h hr

/-- What the reports are worth to which the observer has listened, if retries are worth nothing. -/
theorem Hears.sum {M : Type} [AddCommMonoid M] (h : c.Hears heard) {f : Report → M}
    (retry : ∀ s : Retry.Step, f s.report = 0) :
    (heard.map f).sum = (c.activities.map fun a => (a.reports.map f).sum).sum := by
  obtain ⟨retries, said⟩ := h.said
  have nothing : ((retries.map Retry.Step.report).map f).sum = 0 := List.sum_eq_zero fun n hn => by
    simp only [List.map_map, List.mem_map, Function.comp_apply] at hn
    obtain ⟨s, -, rfl⟩ := hn
    exact retry s
  rw [(said.map f).sum_eq, List.map_append, List.sum_append, nothing, add_zero, reports,
    List.map_flatMap, List.flatMap_def, List.sum_flatten, List.map_map]
  rfl

end Client
end Depot
