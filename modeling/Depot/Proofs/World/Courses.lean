import Depot.World.Run
import Depot.Proofs.Keeping
/-!
# Worlds run courses

A world is one choice of surroundings. Whatever it does with a job whose requests are not
repeated, and whose reports are all taken, is a course of that job, with the same requests
and the same reports.
-/
namespace Depot

/-- A logger that takes every entry, as one does that writes nothing. -/
def Logger.TakesAll : Logger → Prop
  | .console _ => False
  | _ => True

/-- The meter after a report. -/
def Meter.heard (m : Meter Nat) : Report → Meter Nat
  | .log _ => m
  | .count metric amount labels => m.increment metric.name amount labels
  | .time metric ms labels => m.record metric.name ms labels

theorem Observer.take_heard {o : Observer} (h : o.logger.TakesAll) (now : Option Instant)
    (r : Report) : ∃ logger, o.take now r = .ok ([], ⟨logger, o.meter.heard r⟩) ∧
      logger.TakesAll := by
  obtain ⟨logger, meter⟩ := o
  cases logger with
  | console minLevel => exact h.elim
  | memory entries => cases r <;> exact ⟨_, rfl, trivial⟩
  | silent => cases r <;> exact ⟨_, rfl, trivial⟩

namespace World

theorem first?_eq_none {flights : List Flight} (h : first? flights = none) : flights = [] := by
  cases flights with
  | nil => rfl
  | cons f rest =>
    rw [first?] at h
    split at h
    · cases h
    · split at h <;> cases h

theorem first?_perm {flights others : List Flight} {f : Flight}
    (h : first? flights = some (f, others)) : flights.Perm (f :: others) := by
  induction flights generalizing f others with
  | nil => cases h
  | cons g rest ih =>
    rw [first?] at h
    cases hr : first? rest with
    | none =>
      rw [hr] at h
      cases h
      rw [first?_eq_none hr]
    | some found =>
      obtain ⟨f', others'⟩ := found
      rw [hr] at h
      simp only at h
      split at h
      · cases h
        exact .refl _
      · cases h
        exact ((ih hr).cons g).trans (.swap ..)

theorem le_foldl_add (ns : List Nat) (n : Nat) : n ≤ ns.foldl (· + ·) n := by
  induction ns generalizing n with
  | nil => exact Nat.le_refl n
  | cons m rest ih => exact Nat.le_trans (Nat.le_add_right n m) (ih (n + m))

/-- A request that is not repeated has its outcome when it is its turn. -/
theorem landAny_eq {w : World} {f : Flight} {others : List Flight} {outcome : Outcome Response}
    {moves : List Desk.Move} (first : first? w.flights = some (f, others))
    (arriving : f.stage = .arriving outcome moves) (once : f.policy = none) :
    ∃ outcome' w', w.landAny = some (f, outcome', w') ∧ w'.flights = others ∧
      w'.desk = (w.desk.playAll moves).2 ∧ w'.observer = w.observer ∧ w'.chores = w.chores ∧
      w'.past = w.past := by
  obtain ⟨n, hn⟩ := Nat.exists_eq_add_of_le' (le_foldl_add (w.flights.map w.steps) 1)
  have final (outcome : Outcome Response) : again? f outcome = none := by
    rw [again?, once]
    rfl
  rw [landAny, hn, land, first]
  simp only [arriving, settleMoves, final]
  exact ⟨_, _, rfl, rfl, rfl, rfl, rfl, rfl⟩

/-- A world shows a scene of the only job that has requests under way in it. All that has happened
since `before` is what happened in the scene. -/
structure Shows (w : World) (e : Endpoint) (job : Nat) (before : World) (s : Scene) : Prop where
  takes : w.observer.logger.TakesAll
  alone : w.chores = []
  flying : ∀ f ∈ w.flights, f.job = job ∧ f.policy = none ∧ f.stage ≠ .resting
  underWay : (w.flights.map Flight.ticket).Perm s.underWay
  desk : w.desk = s.desk
  requests : w.requests = before.requests ++ s.sent.map e.request
  reports : w.reports = before.reports ++ s.reports

namespace Shows
variable {e : Endpoint} {job : Nat} {before w : World} {s : Scene}

theorem report (h : w.Shows e job before s) (r : Report) :
    ∃ w', w.report r = (none, w') ∧ w'.Shows e job before (s.note (.reported r)) := by
  obtain ⟨logger, taken, takes⟩ := Observer.take_heard h.takes (Instant.ofNumber? w.now) r
  refine ⟨{ w.happen (.reported r) with observer := ⟨logger, w.observer.meter.heard r⟩ },
    by simp [World.report, taken], ?_⟩
  exact
    { takes := takes
      alone := h.alone
      flying := h.flying
      underWay := h.underWay
      desk := h.desk
      requests := by
        simpa [World.requests, World.history, World.happen] using h.requests
      reports := by
        have := congrArg (· ++ [r]) h.reports
        simpa [World.reports, World.history, World.happen] using this }

theorem note (h : w.Shows e job before s) {i : Incident} (call : i.call? = none)
    (report : i.report? = none) : w.Shows e job before (s.note i) :=
  { h with
    requests := by
      rw [Scene.sent_note, call, Option.toList_none, List.append_nil]
      exact h.requests
    reports := by
      rw [Scene.reports_note, report, Option.toList_none, List.append_nil]
      exact h.reports }

theorem tell (h : w.Shows e job before s) (u n : Nat) :
    (w.tell u n).2.Shows e job before (s.note (.told u n)) := by
  have same : w.Shows e job before (s.note (.told u n)) := h.note rfl rfl
  rw [World.tell]
  cases w.listener.isSome with
  | false => exact same
  | true =>
    exact
      { same with
        requests := by
          simpa [World.requests, World.history, World.happen] using same.requests
        reports := by
          simpa [World.reports, World.history, World.happen] using same.reports }

theorem launch (h : w.Shows e job before s) (k : Nat) (c : Call) :
    (w.launch job k (e.request c) none).Shows e job before (s.launch k c) := by
  have added : ∀ f ∈ (w.launch job k (e.request c) none).flights, f ∈ w.flights ∨
      f.job = job ∧ f.policy = none ∧ f.stage ≠ .resting := by
    intro f hf
    rcases List.mem_cons.mp hf with rfl | hf
    · exact .inr ⟨rfl, rfl, nofun⟩
    · exact .inl hf
  exact
    { takes := h.takes
      alone := h.alone
      flying := fun f hf => (added f hf).elim (h.flying f) id
      underWay := (h.underWay.cons k).trans (List.perm_append_singleton k s.underWay).symm
      desk := h.desk
      requests := by
        have := congrArg (· ++ [e.request c]) h.requests
        simpa [World.launch, World.send, World.requests, World.history, World.happen] using this
      reports := by
        simpa [World.launch, World.send, World.reports, World.history, World.happen]
          using h.reports }

theorem awaitAny (h : w.Shows e job before s) (busy : s.underWay ≠ []) :
    ∃ f outcome w' moves, w.awaitAny job = some (f, outcome, w') ∧ f.ticket ∈ s.underWay ∧
      w'.Shows e job before ((s.stir moves).land f.ticket ⟨outcome, w'.now - f.began⟩) := by
  cases first : first? w.flights with
  | none =>
    have idle := h.underWay
    rw [first?_eq_none first] at idle
    exact absurd idle.nil_eq.symm busy
  | some found =>
    obtain ⟨f, others⟩ := found
    have perm := first?_perm first
    have tickets := perm.map Flight.ticket
    obtain ⟨own, once, moving⟩ := h.flying f (perm.mem_iff.mpr (List.mem_cons_self ..))
    cases stage : f.stage with
    | resting => exact absurd stage moving
    | arriving outcome moves =>
      obtain ⟨outcome', w', landed, flights, desk, observer, chores, past⟩ :=
        landAny_eq first stage once
      have flown : (f.ticket :: others.map Flight.ticket).Perm s.underWay :=
        tickets.symm.trans h.underWay
      obtain ⟨under_way, others_left⟩ := List.cons_perm_iff_perm_erase.mp flown
      have handed : w.awaitAny job = some (f, outcome', w') := by
        rw [World.awaitAny, h.alone]
        simp only [List.map_nil, List.foldl_nil, awaitWithin, landed, own, if_true]
      refine ⟨f, outcome', w', moves, handed, under_way, ?_⟩
      exact
        { takes := observer ▸ h.takes
          alone := chores.trans h.alone
          flying := by
            rw [flights]
            exact fun g hg => h.flying g (perm.mem_iff.mpr (List.mem_cons_of_mem _ hg))
          underWay := by
            rw [flights]
            exact others_left
          desk := by
            rw [desk, h.desk]
            rfl
          requests := by
            rw [World.requests, World.history, past, Scene.sent_land, Scene.sent_stir]
            exact h.requests
          reports := by
            rw [World.reports, World.history, past, Scene.reports_land, Scene.reports_stir]
            exact h.reports }

/-- What a world does with a job is a course of it. -/
theorem course_of_runOn {α : Type} {j : Job α} {I : Scene → Prop}
    {Q : Option (Outcome α) → Scene → Prop} (once : e.retry = none) (kept : j.Keeps I Q s)
    (h : w.Shows e job before s) : ∃ turns c, (Course.mk j s).run turns = some c ∧
      (w.runOn e job j).1 = c.result? ∧ (w.runOn e job j).2.Shows e job before c.scene := by
  induction j generalizing w s with
  | finish result => exact ⟨[], _, rfl, rfl, h⟩
  | stall => exact ⟨[], _, rfl, rfl, h⟩
  | report r next ih =>
    obtain ⟨w', taken, h'⟩ := h.report r
    obtain ⟨turns, c, run, result, shows⟩ := ih none kept.2 h'
    refine ⟨.serve :: turns, c, run, ?_, ?_⟩
    · rw [runOn, taken]
      exact result
    · rw [runOn, taken]
      exact shows
  | clock next ih =>
    obtain ⟨turns, c, run, result, shows⟩ := ih w.clock (kept.2 w.clock) (h.note rfl rfl)
    exact ⟨.date w.clock :: turns, c, run, result, shows⟩
  | query ref next ih =>
    obtain ⟨turns, c, run, result, shows⟩ := ih (s.desk.queryAt ref) kept.2 (h.note rfl rfl)
    refine ⟨.serve :: turns, c, run, ?_, ?_⟩
    · rw [runOn, h.desk]
      exact result
    · rw [runOn, h.desk]
      exact shows
  | progress u n next ih =>
    obtain ⟨turns, c, run, result, shows⟩ := ih (w.tell u n).1 (kept.2 _) (h.tell u n)
    exact ⟨.hear (w.tell u n).1 :: turns, c, run, result, shows⟩
  | launch k c next ih =>
    obtain ⟨turns, c', run, result, shows⟩ := ih kept.2 (h.launch k c)
    refine ⟨.serve :: turns, c', run, ?_, ?_⟩
    · rw [runOn, once]
      exact result
    · rw [runOn, once]
      exact shows
  | await next ih =>
    -- the world answers what is due first, and a course may answer anything
    obtain ⟨f, outcome, w', moves, handed, under_way, h'⟩ := h.awaitAny kept.2.1
    obtain ⟨turns, c, run, result, shows⟩ := ih _ _ (kept.2.2 moves _ _ under_way) h'
    refine ⟨.answer moves f.ticket ⟨outcome, w'.now - f.began⟩ :: turns, c, ?_, ?_, ?_⟩
    · rw [Course.run, Course.step, if_pos under_way]
      exact run
    · rw [runOn, handed]
      exact result
    · rw [runOn, handed]
      exact shows
  | detach => exact kept.elim

end Shows

/-- Running a job in a world in which nothing is under way is a course of the job: it comes to the
same, with the requests of its calls and with its reports. -/
theorem course_of_run {α : Type} {w : World} {e : Endpoint} {j : Job α} {I : Scene → Prop}
    {Q : Option (Outcome α) → Scene → Prop} (takes : w.observer.logger.TakesAll)
    (idle : w.flights = []) (alone : w.chores = []) (once : e.retry = none)
    (kept : j.Keeps I Q ⟨[], w.desk, []⟩) : ∃ turns c,
      (Course.start w.desk j).run turns = some c ∧ (w.run e j).1 = c.result? ∧
      (w.run e j).2.desk = c.scene.desk ∧
      (w.run e j).2.requests = w.requests ++ c.scene.sent.map e.request ∧
      (w.run e j).2.reports = w.reports ++ c.scene.reports := by
  have begins : w.withJob.Shows e w.jobs w ⟨[], w.desk, []⟩ :=
    { takes := takes
      alone := alone
      flying := by
        rw [withJob, idle]
        simp
      underWay := by
        rw [withJob, idle]
        exact .nil
      desk := rfl
      requests := (List.append_nil _).symm
      reports := (List.append_nil _).symm }
  obtain ⟨turns, c, run, result, shows⟩ := begins.course_of_runOn once kept
  exact ⟨turns, c, run, result, shows.desk, shows.requests, shows.reports⟩

end World
end Depot
