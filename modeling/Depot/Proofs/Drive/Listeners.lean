import Mathlib.Data.List.Basic
import Depot.Drive.Upload
import Depot.Proofs.Incidents
import Depot.Proofs.World.Courses
/-!
# Uploads do not heed their listeners

A caller that fails when it is told an amount is reported, and then the upload goes on as if it had
not failed. So two uploads whose calls are answered alike differ in nothing but these reports.
-/
namespace Depot

/-- What is reported of a caller that has failed when it was told an amount. -/
def Report.shrug (told : Nat × Nat) (f : Failure) : Report :=
  .warn "Progress callback failed"
    [("uploaded", .nat told.1), ("total", .nat told.2), ("error", .text f.message)]

def Report.isShrug : Report → Bool
  | .log e => e.message = "Progress callback failed"
  | _ => false

/-- Whether an incident is the report of a caller that has failed. -/
def Incident.isShrug : Incident → Bool
  | .reported r => r.isShrug
  | _ => false

/-- What came of telling the caller an amount, if a turn is that. -/
def Turn.heard? : Turn → Option (Option Failure)
  | .hear failure => some failure
  | _ => none

/-- The failures of callers count for no metric. -/
theorem Meter.foldl_unshrugged (rs : List Report) (m : Meter Nat) :
    (rs.filter (!·.isShrug)).foldl heard m = rs.foldl heard m := by
  have each (m : Meter Nat) (r : Report) :
      (if (!r.isShrug) = true then m.heard r else m) = m.heard r := by
    cases r <;> simp [Report.isShrug, heard]
  rw [List.foldl_filter]
  simp only [each]

namespace Scene

/-- The reports of callers that have failed. -/
def shrugs (s : Scene) : List Report := s.reports.filter (·.isShrug)

/-- All that has happened, but for the reports of callers that have failed. -/
def unshrugged (s : Scene) : List Incident := s.past.filter (!·.isShrug)

variable {s s' : Scene}

theorem unshrugged_note (s : Scene) (i : Incident) :
    (s.note i).unshrugged = s.unshrugged ++ [i].filter (!·.isShrug) := List.filter_append ..

theorem unshrugged_launch (s : Scene) (k : Nat) (c : Call) :
    (s.launch k c).unshrugged = s.unshrugged ++ [.sent k c] := s.unshrugged_note (.sent k c)

theorem unshrugged_land (s : Scene) (moves : List Desk.Move) (k : Nat) (a : Arrival) :
    ((s.stir moves).land k a).unshrugged = s.unshrugged ++ [.arrived k a] :=
  s.unshrugged_note (.arrived k a)

/-- No call is the report of a caller that has failed. -/
theorem launched_unshrugged (s : Scene) :
    s.unshrugged.filterMap Incident.launch? = s.launched := by
  rw [unshrugged, launched, List.filterMap_filter]
  apply List.filterMap_congr
  intro i _
  cases i <;> simp [Incident.isShrug]

theorem reports_unshrugged (s : Scene) : s.unshrugged.filterMap Incident.report? =
    s.reports.filter (!·.isShrug) := by
  rw [unshrugged, reports, List.filterMap_filter, List.filter_filterMap]
  apply List.filterMap_congr
  intro i _
  cases i <;> simp [Incident.isShrug, Option.filter]

theorem shrugs_heard (s : Scene) (rs : List Report) :
    (s.heard rs).shrugs = s.shrugs ++ rs.filter (·.isShrug) := by
  rw [shrugs, reports_heard, List.filter_append]
  rfl

theorem shrugs_eq (h : s'.reports = s.reports) : s'.shrugs = s.shrugs := by rw [shrugs, h]; rfl

/-- The same has happened, but for reports of callers that have failed, and the same is under way.
-/
structure AsUnheard (s s' : Scene) : Prop where
  underWay : s'.underWay = s.underWay
  past : s'.unshrugged = s.unshrugged

namespace AsUnheard

theorem refl (s : Scene) : s.AsUnheard s := ⟨rfl, rfl⟩

theorem trans {s'' : Scene} (h : s.AsUnheard s') (h' : s'.AsUnheard s'') : s.AsUnheard s'' :=
  ⟨h'.underWay.trans h.underWay, h'.past.trans h.past⟩

theorem symm (h : s.AsUnheard s') : s'.AsUnheard s := ⟨h.underWay.symm, h.past.symm⟩

theorem note (h : s.AsUnheard s') (i : Incident) : (s.note i).AsUnheard (s'.note i) :=
  ⟨h.underWay, by rw [unshrugged_note, unshrugged_note, h.past]⟩

theorem launch (h : s.AsUnheard s') (k : Nat) (c : Call) :
    (s.launch k c).AsUnheard (s'.launch k c) :=
  ⟨by simp [h.underWay], by rw [unshrugged_launch, unshrugged_launch, h.past]⟩

theorem land (h : s.AsUnheard s') (moves moves' : List Desk.Move) (k : Nat) (a : Arrival) :
    ((s.stir moves).land k a).AsUnheard ((s'.stir moves').land k a) :=
  ⟨by simp [h.underWay], by rw [unshrugged_land, unshrugged_land, h.past]⟩

end AsUnheard

end Scene

namespace Job
variable {α β : Type}

/-- Whether a job goes on in the same way when it has told its caller something, once a failure of
the caller is reported. It says so of nothing else, and looks neither at the clock nor at a query.
-/
def ShrugsOff : Job α → Prop
  | .finish _ => True
  | .stall => True
  | .report r next => r.isShrug = false ∧ (next none).ShrugsOff
  | .clock _ => False
  | .query _ _ => False
  | .progress uploaded total next => (next none).ShrugsOff ∧ ∀ f, ∃ after,
    next (some f) = .report (.shrug (uploaded, total) f) after ∧ after none = next none
  | .launch _ _ next => next.ShrugsOff
  | .await next => ∀ k a, (next k a).ShrugsOff
  | .detach .. => True

variable {j : Job α}

theorem ShrugsOff.bind {f : α → Job β} (h : j.ShrugsOff) (hf : ∀ a, (f a).ShrugsOff) :
    (j >>= f).ShrugsOff := by
  change (j.bind f).ShrugsOff
  induction j with
  | finish result =>
    cases result with
    | ok a => exact hf a
    | error e => trivial
  | stall | detach => trivial
  | report r next ih => exact ⟨h.1, ih none h.2⟩
  | clock | query => exact h.elim
  | progress u n next ih =>
    refine ⟨ih none h.1, fun failure => ?_⟩
    obtain ⟨after, reported, same⟩ := h.2 failure
    exact ⟨fun e => (after e).bind f, congrArg (·.bind f) reported, congrArg (·.bind f) same⟩
  | launch k c next ih => exact ih h
  | await next ih => exact fun k a => ih k a (h k a)

theorem ShrugsOff.attempt (h : j.ShrugsOff) : j.attempt.ShrugsOff := by
  induction j with
  | finish | stall | detach => trivial
  | report r next ih => exact ⟨h.1, ih none h.2⟩
  | clock | query => exact h.elim
  | progress u n next ih =>
    refine ⟨ih none h.1, fun failure => ?_⟩
    obtain ⟨after, reported, same⟩ := h.2 failure
    exact ⟨fun e => (after e).attempt, congrArg Job.attempt reported, congrArg Job.attempt same⟩
  | launch k c next ih => exact ih h
  | await next ih => exact fun k a => ih k a (h k a)

theorem shrugsOff_say {r : Report} (h : r.isShrug = false) : (say r).ShrugsOff := ⟨h, trivial⟩

theorem shrugsOff_sayAll {rs : List Report} (h : ∀ r ∈ rs, r.isShrug = false) :
    (sayAll rs).ShrugsOff := by
  induction rs with
  | nil => trivial
  | cons r rest ih =>
    obtain ⟨first, others⟩ := List.forall_mem_cons.mp h
    exact (shrugsOff_say first).bind fun _ => ih others

theorem shrugsOff_settle (c : Call) (a : Arrival) : (settle c a).ShrugsOff :=
  (shrugsOff_sayAll fun _ hr => Exchange.of_mem_settle (P := (·.isShrug = false)) hr
    (fun _ => rfl) (fun _ => rfl) (fun _ => rfl) fun _ => rfl).bind fun _ => trivial

theorem shrugsOff_send (k : Nat) (c : Call) : (send k c).ShrugsOff :=
  (shrugsOff_say rfl).bind fun _ => trivial

theorem shrugsOff_exchange (c : Call) : (exchange c).ShrugsOff :=
  (shrugsOff_send 0 c).bind fun _ _ a => shrugsOff_settle c a

theorem shrugsOff_exchangeAs (decode : Decoder α) (c : Call) : (exchangeAs decode c).ShrugsOff :=
  (shrugsOff_exchange c).bind fun _ => trivial

end Job

namespace Drive
open Job

namespace Upload

theorem shrugsOff_tell (uploaded total : Nat) : (tell uploaded total).ShrugsOff :=
  ⟨trivial, fun _ => ⟨_, rfl, rfl⟩⟩

theorem shrugsOff_single (saveAs : String) (content : ByteArray) :
    (single saveAs content).ShrugsOff :=
  (shrugsOff_exchangeAs _ _).bind fun _ => (shrugsOff_say rfl).bind fun _ =>
    (shrugsOff_tell _ _).bind fun _ => trivial

theorem shrugsOff_launchAll (p : Parts) (parts : List Nat) : (launchAll p parts).ShrugsOff := by
  induction parts with
  | nil => trivial
  | cons part rest ih => exact (shrugsOff_send _ _).bind fun _ => ih

theorem shrugsOff_reportPart (p : Parts) (session : Session) (part : Nat)
    (answer : Outcome ByteArray) : (reportPart p session part answer).ShrugsOff := by
  cases answer with
  | error f => exact shrugsOff_say rfl
  | ok body => exact (shrugsOff_say rfl).bind fun _ => (shrugsOff_say rfl).bind fun _ =>
      shrugsOff_tell _ _

theorem shrugsOff_settleAll (p : Parts) (unsettled : Nat) (pending : List Nat)
    (session : Session) : (settleAll p unsettled pending session).ShrugsOff := by
  induction unsettled generalizing pending session with
  | zero => trivial
  | succ unsettled ih =>
    refine fun part a => (shrugsOff_settle _ _).attempt.bind fun answer => ?_
    refine (shrugsOff_reportPart _ _ _ _).attempt.bind fun reported => ?_
    cases reported with
    | error f => trivial
    | ok _ =>
      refine (shrugsOff_launchAll _ _).attempt.bind fun launched => ?_
      cases launched with
      | error f => trivial
      | ok _ => exact ih _ _

theorem shrugsOff_conclude (p : Parts) (session : Session) : (conclude p session).ShrugsOff := by
  unfold conclude
  simp only
  split
  · exact (shrugsOff_exchangeAs _ _).bind fun _ => (shrugsOff_say rfl).bind fun _ =>
      (shrugsOff_say rfl).bind fun _ => trivial
  · exact (shrugsOff_exchange _).bind fun _ => (shrugsOff_say rfl).bind fun _ =>
      (shrugsOff_say rfl).bind fun _ => trivial

theorem shrugsOff_chunked (saveAs : String) (content : ByteArray) (plan : UploadPlan) :
    (chunked saveAs content plan).ShrugsOff :=
  (shrugsOff_exchangeAs _ _).bind fun _ => (shrugsOff_say rfl).bind fun _ =>
    (shrugsOff_launchAll _ _).bind fun _ => (shrugsOff_settleAll _ _ _ _).bind fun _ =>
      shrugsOff_conclude _ _

end Upload

theorem shrugsOff_store (saveAs : String) (content : FileContent) (o : UploadOptions) :
    (store saveAs content o).ShrugsOff := by
  refine ShrugsOff.bind (j := ofOutcome (o.plan saveAs)) trivial fun plan => ?_
  split
  · exact Upload.shrugsOff_single saveAs _
  · exact Upload.shrugsOff_chunked saveAs _ plan

end Drive
namespace Course
variable {α : Type} {s : Scene} {turns : List Turn} {c : Course α}

theorem run_append (turns more : List Turn) (c : Course α) :
    c.run (turns ++ more) = (c.run turns).bind (run more) := by
  induction turns generalizing c with
  | nil => rfl
  | cons t rest ih =>
    rw [List.cons_append, run, run, Option.bind_assoc]
    exact Option.bind_congr fun d _ => ih d

theorem still_of_ended {c₀ : Course α} {result : Outcome α} (ended : c₀.result? = some result) :
    ∀ t, c₀.step t = none := by
  obtain ⟨j, s⟩ := c₀
  cases j <;> cases ended
  rintro (_ | _ | _ | _) <;> rfl

/-! ### The first turn of a run -/

theorem run_still {c₀ : Course α} (still : ∀ t, c₀.step t = none) (h : c₀.run turns = some c) :
    turns = [] ∧ c = c₀ := by
  cases turns with
  | nil => exact ⟨rfl, (Option.some.inj h).symm⟩
  | cons t rest =>
    obtain ⟨d, first, -⟩ := Option.bind_eq_some_iff.mp h
    rw [still t] at first
    cases first

theorem run_report {r : Report} {next : Option Failure → Job α}
    (h : (Course.mk (.report r next) s).run turns = some c) :
    (turns = [] ∧ c = ⟨.report r next, s⟩) ∨ ∃ rest, turns = .serve :: rest ∧
      (Course.mk (next none) (s.note (.reported r))).run rest = some c := by
  cases turns with
  | nil => exact .inl ⟨rfl, (Option.some.inj h).symm⟩
  | cons t rest =>
    obtain ⟨d, first, h⟩ := Option.bind_eq_some_iff.mp h
    cases t <;> cases first
    exact .inr ⟨rest, rfl, h⟩

theorem run_progress {uploaded total : Nat} {next : Option Failure → Job α}
    (h : (Course.mk (.progress uploaded total next) s).run turns = some c) :
    (turns = [] ∧ c = ⟨.progress uploaded total next, s⟩) ∨
      ∃ failure rest, turns = .hear failure :: rest ∧
        (Course.mk (next failure) (s.note (.told uploaded total))).run rest = some c := by
  cases turns with
  | nil => exact .inl ⟨rfl, (Option.some.inj h).symm⟩
  | cons t rest =>
    obtain ⟨d, first, h⟩ := Option.bind_eq_some_iff.mp h
    cases t <;> cases first
    exact .inr ⟨_, rest, rfl, h⟩

theorem run_launch {k : Nat} {call : Call} {next : Job α}
    (h : (Course.mk (.launch k call next) s).run turns = some c) :
    (turns = [] ∧ c = ⟨.launch k call next, s⟩) ∨ ∃ rest, turns = .serve :: rest ∧
      (Course.mk next (s.launch k call)).run rest = some c := by
  cases turns with
  | nil => exact .inl ⟨rfl, (Option.some.inj h).symm⟩
  | cons t rest =>
    obtain ⟨d, first, h⟩ := Option.bind_eq_some_iff.mp h
    cases t <;> cases first
    exact .inr ⟨rest, rfl, h⟩

theorem run_await {next : Nat → Arrival → Job α}
    (h : (Course.mk (.await next) s).run turns = some c) :
    (turns = [] ∧ c = ⟨.await next, s⟩) ∨ ∃ moves k a rest, turns = .answer moves k a :: rest ∧
      k ∈ s.underWay ∧ (Course.mk (next k a) ((s.stir moves).land k a)).run rest = some c := by
  cases turns with
  | nil => exact .inl ⟨rfl, (Option.some.inj h).symm⟩
  | cons t rest =>
    obtain ⟨d, first, h⟩ := Option.bind_eq_some_iff.mp h
    cases t with
    | answer moves k a =>
      simp only [step, Option.ite_none_right_eq_some, Option.some.injEq] at first
      obtain ⟨hk, rfl⟩ := first
      exact .inr ⟨moves, k, a, rest, rfl, hk, h⟩
    | _ => cases first

/-- The answers that turns bring, with the tickets of their calls. -/
def answersOf (turns : List Turn) : List (Nat × Arrival) := turns.filterMap Turn.answer?

theorem answersOf_append (turns more : List Turn) :
    answersOf (turns ++ more) = answersOf turns ++ answersOf more := List.filterMap_append

/-- A caller that is told something does not matter: a run goes on as if the caller had not failed,
and that this was reported is all that has happened besides; or it can go on so. -/
theorem run_progress_shrugged {uploaded total : Nat} {next : Option Failure → Job α}
    (shrugs : (Job.progress uploaded total next).ShrugsOff)
    (h : (Course.mk (.progress uploaded total next) s).run turns = some c) :
    ∃ failure : Option Failure,
      let told := (s.note (.told uploaded total)).heard
        (failure.map (Report.shrug (uploaded, total))).toList
      (c.result? = none ∧ ∃ more, answersOf turns = [] ∧ answersOf more = [] ∧
          c.run more = some ⟨next none, told⟩) ∨
        ∃ rest, answersOf turns = answersOf rest ∧
          turns.filterMap Turn.heard? = failure :: rest.filterMap Turn.heard? ∧
          (Course.mk (next none) told).run rest = some c := by
  have calm := Scene.heard_nil (s.note (.told uploaded total))
  rcases run_progress h with ⟨rfl, rfl⟩ | ⟨failure, rest, rfl, remaining⟩
  · refine ⟨none, .inl ⟨rfl, [.hear none], rfl, rfl, ?_⟩⟩
    rw [Option.map_none, Option.toList_none, calm]
    rfl
  · cases failure with
    | none =>
      refine ⟨none, .inr ⟨rest, rfl, rfl, ?_⟩⟩
      rw [Option.map_none, Option.toList_none, calm]
      exact remaining
    | some f =>
      obtain ⟨after, reported, same⟩ := shrugs.2 f
      rw [reported] at remaining
      rcases run_report remaining with ⟨rfl, rfl⟩ | ⟨rest, rfl, later⟩
      · refine ⟨some f, .inl ⟨rfl, [.serve], rfl, rfl, ?_⟩⟩
        rw [← same]
        rfl
      · rw [same] at later
        exact ⟨some f, .inr ⟨rest, rfl, rfl, later⟩⟩

/-- Where one run has ended with some answers, another one that has had `so_far` of them can be
continued with the others; then it comes to the same, and the same has happened. -/
def CatchesUp (answers : List (Nat × Arrival)) (c : Course α) (so_far : List (Nat × Arrival))
    (c' : Course α) : Prop :=
  ∃ more d, c'.run more = some d ∧ so_far ++ answersOf more = answers ∧
    d.result? = c.result? ∧ c.scene.AsUnheard d.scene

theorem CatchesUp.of_run {answers so_far : List (Nat × Arrival)} {c c' d : Course α}
    (more : List Turn) (h : c'.run more = some d)
    (rest : CatchesUp answers c (so_far ++ answersOf more) d) : CatchesUp answers c so_far c' := by
  obtain ⟨others, e, run, all, facts⟩ := rest
  refine ⟨more ++ others, e, ?_, ?_, facts⟩
  · rw [run_append, h]
    exact run
  · rw [answersOf_append, ← List.append_assoc, all]

theorem CatchesUp.push {answers so_far : List (Nat × Arrival)} {c c' : Course α}
    (h : CatchesUp answers c so_far c') (before : List (Nat × Arrival)) :
    CatchesUp (before ++ answers) c (before ++ so_far) c' := by
  obtain ⟨more, d, run, all, facts⟩ := h
  exact ⟨more, d, run, by rw [List.append_assoc, all], facts⟩

/-- What becomes of a job that shrugs off the failures of its caller is told by its answers. -/
theorem catchesUp {j : Job α} (shrugs : j.ShrugsOff) {s s' : Scene} (alike : s.AsUnheard s')
    {turns turns' : List Turn} {c c' : Course α} {result : Outcome α}
    (h : (Course.mk j s).run turns = some c) (ended : c.result? = some result)
    (h' : (Course.mk j s').run turns' = some c') (answers : answersOf turns' <+: answersOf turns) :
    CatchesUp (answersOf turns) c (answersOf turns') c' := by
  induction j generalizing s s' turns turns' c' with
  | finish r =>
    obtain ⟨rfl, rfl⟩ := run_still (by rintro (_ | _ | _ | _) <;> rfl) h
    obtain ⟨rfl, rfl⟩ := run_still (by rintro (_ | _ | _ | _) <;> rfl) h'
    exact ⟨[], _, rfl, rfl, rfl, alike⟩
  | stall =>
    obtain ⟨-, rfl⟩ := run_still (by rintro (_ | _ | _ | _) <;> rfl) h
    cases ended
  | report r next ih =>
    rcases run_report h with ⟨-, rfl⟩ | ⟨rest, rfl, remaining⟩
    · cases ended
    have goes_on (rest' : List Turn) (e : Course α)
        (run' : (Course.mk (next none) (s'.note (.reported r))).run rest' = some e)
        (so_far : answersOf rest' <+: answersOf rest) :=
      ih none shrugs.2 (alike.note (.reported r)) remaining run' so_far
    rcases run_report h' with ⟨rfl, rfl⟩ | ⟨rest', rfl, remaining'⟩
    · exact .of_run [.serve] rfl (goes_on [] _ rfl List.nil_prefix)
    · exact goes_on rest' c' remaining' answers
  | clock | query => exact shrugs.elim
  | progress u n next ih =>
    have unheard (s : Scene) (failure : Option Failure) :
        s.AsUnheard (s.heard (failure.map (Report.shrug (u, n))).toList) := by
      cases failure with
      | none => exact (s.heard_nil).symm ▸ .refl s
      | some f => exact ⟨rfl, (s.unshrugged_note _).trans (List.append_nil _)⟩
    obtain ⟨failure, ⟨open_, -⟩ | ⟨rest, same, -, remaining⟩⟩ := run_progress_shrugged shrugs h
    · rw [ended] at open_
      cases open_
    rw [same] at answers ⊢
    obtain ⟨failure', first'⟩ := run_progress_shrugged shrugs h'
    have alike := (unheard (s.note (.told u n)) failure).symm.trans
      ((alike.note (.told u n)).trans (unheard _ failure'))
    have goes_on (rest' : List Turn) (e : Course α) (run' : (Course.mk (next none) _).run rest' =
        some e) (so_far : answersOf rest' <+: answersOf rest) :=
      ih none shrugs.1 alike remaining run' so_far
    rcases first' with ⟨-, more, none_so_far, none_more, later⟩ | ⟨rest', same', -, remaining'⟩
    · refine .of_run more later ?_
      rw [none_so_far, none_more]
      exact goes_on [] _ rfl List.nil_prefix
    · rw [same'] at answers ⊢
      exact goes_on rest' c' remaining' answers
  | launch k call next ih =>
    rcases run_launch h with ⟨-, rfl⟩ | ⟨rest, rfl, remaining⟩
    · cases ended
    have goes_on (rest' : List Turn) (e : Course α)
        (run' : (Course.mk next (s'.launch k call)).run rest' = some e)
        (so_far : answersOf rest' <+: answersOf rest) :=
      ih shrugs (alike.launch k call) remaining run' so_far
    rcases run_launch h' with ⟨rfl, rfl⟩ | ⟨rest', rfl, remaining'⟩
    · exact .of_run [.serve] rfl (goes_on [] _ rfl List.nil_prefix)
    · exact goes_on rest' c' remaining' answers
  | await next ih =>
    rcases run_await h with ⟨-, rfl⟩ | ⟨moves, k, a, rest, rfl, hk, remaining⟩
    · cases ended
    have goes_on (moves' : List Desk.Move) (rest' : List Turn) (e : Course α)
        (run' : (Course.mk (next k a) ((s'.stir moves').land k a)).run rest' = some e)
        (so_far : answersOf rest' <+: answersOf rest) :=
      (ih k a (shrugs k a) (alike.land moves moves' k a) remaining run' so_far).push [(k, a)]
    rcases run_await h' with ⟨rfl, rfl⟩ | ⟨moves', k', a', rest', rfl, -, remaining'⟩
    · have step : (Course.mk (.await next) s').run [.answer [] k a] =
          some ⟨next k a, (s'.stir []).land k a⟩ := by
        rw [run, Course.step, if_pos (alike.underWay ▸ hk)]
        rfl
      exact .of_run _ step (goes_on [] [] _ rfl List.nil_prefix)
    · obtain ⟨same, others⟩ : (k', a') = (k, a) ∧ answersOf rest' <+: answersOf rest :=
        List.cons_prefix_cons.mp answers
      cases same
      exact goes_on moves' rest' c' remaining' others
  | detach =>
    obtain ⟨-, rfl⟩ := run_still (by rintro (_ | _ | _ | _) <;> rfl) h
    cases ended

/-- The same calls were sent, and the same has come of it. What was reported differs in nothing but
that a caller has failed, which no metric counts. -/
structure EndsAs (c d : Course α) : Prop where
  result : d.result? = c.result?
  launched : d.scene.launched = c.scene.launched
  reports : d.scene.reports.filter (!·.isShrug) = c.scene.reports.filter (!·.isShrug)
  metrics : ∀ m : Meter Nat,
    d.scene.reports.foldl Meter.heard m = c.scene.reports.foldl Meter.heard m

theorem EndsAs.of_unheard {c d : Course α} (result : d.result? = c.result?)
    (alike : c.scene.AsUnheard d.scene) : c.EndsAs d := by
  have launched : d.scene.launched = c.scene.launched := by
    rw [← Scene.launched_unshrugged, alike.past, Scene.launched_unshrugged]
  have reports : d.scene.reports.filter (!·.isShrug) = c.scene.reports.filter (!·.isShrug) := by
    rw [← Scene.reports_unshrugged, alike.past, Scene.reports_unshrugged]
  refine ⟨result, launched, reports, fun m => ?_⟩
  rw [← Meter.foldl_unshrugged, reports, Meter.foldl_unshrugged]

/-- What is reported of a caller that was told these amounts, and of whom this has come. -/
def shrugsFor (told : List (Nat × Nat)) (heard : List (Option Failure)) : List Report :=
  (told.zip heard).filterMap fun x => x.2.map (Report.shrug x.1)

/-- Each failure of the caller is reported once, with the amount that it was told. -/
theorem shrugs_of_run {j : Job α} (shrugs : j.ShrugsOff) {s : Scene} {turns : List Turn}
    {c : Course α} {result : Outcome α} (h : (Course.mk j s).run turns = some c)
    (ended : c.result? = some result) : ∃ told, c.scene.told = s.told ++ told ∧
      told.length = (turns.filterMap Turn.heard?).length ∧
      c.scene.shrugs = s.shrugs ++ shrugsFor told (turns.filterMap Turn.heard?) := by
  induction j generalizing s turns with
  | finish r =>
    obtain ⟨rfl, rfl⟩ := run_still (by rintro (_ | _ | _ | _) <;> rfl) h
    exact ⟨[], by simp, rfl, by simp [shrugsFor]⟩
  | stall | detach =>
    obtain ⟨-, rfl⟩ := run_still (by rintro (_ | _ | _ | _) <;> rfl) h
    cases ended
  | report r next ih =>
    rcases run_report h with ⟨-, rfl⟩ | ⟨rest, rfl, remaining⟩
    · cases ended
    obtain ⟨told, same, count, reported⟩ := ih none shrugs.2 remaining
    refine ⟨told, by simpa using same, count, ?_⟩
    have calm : [r].filter (·.isShrug) = [] := by simp [shrugs.1]
    rw [reported, ← Scene.heard_singleton, Scene.shrugs_heard, calm, List.append_nil]
    rfl
  | clock | query => exact shrugs.elim
  | progress u n next ih =>
    obtain ⟨failure, ⟨open_, -⟩ | ⟨rest, -, heard, remaining⟩⟩ := run_progress_shrugged shrugs h
    · rw [ended] at open_
      cases open_
    obtain ⟨told, same, count, reported⟩ := ih none shrugs.1 remaining
    refine ⟨(u, n) :: told, by simpa using same, by simp [heard, count], ?_⟩
    have calm : (s.note (.told u n)).shrugs = s.shrugs := Scene.shrugs_eq (by simp)
    have own : (failure.map (Report.shrug (u, n))).toList.filter (·.isShrug) =
        (failure.map (Report.shrug (u, n))).toList := by cases failure <;> rfl
    rw [reported, heard, Scene.shrugs_heard, calm, own, List.append_assoc]
    cases failure <;> rfl
  | launch k call next ih =>
    rcases run_launch h with ⟨-, rfl⟩ | ⟨rest, rfl, remaining⟩
    · cases ended
    obtain ⟨told, same, count, reported⟩ := ih shrugs remaining
    rw [Scene.shrugs_eq (s.reports_launch k call)] at reported
    exact ⟨told, by simpa using same, count, reported⟩
  | await next ih =>
    rcases run_await h with ⟨-, rfl⟩ | ⟨moves, k, a, rest, rfl, hk, remaining⟩
    · cases ended
    obtain ⟨told, same, count, reported⟩ := ih k a (shrugs k a) remaining
    rw [Scene.shrugs_eq ((s.stir moves).reports_land k a)] at reported
    exact ⟨told, by simpa using same, count, reported⟩

end Course
end Depot
