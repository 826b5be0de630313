import Depot.Proofs.AskingOnce
import Depot.Proofs.World.Landing
/-!
# Worlds and jobs that ask once

What a world makes of a job that fails at once, and of one that asks once, whatever transport it has
and whatever state it is in. Reports change nothing but the observer and what has happened; so the
world in which the call is sent has the same responses to give as the one in which the job began.
-/
namespace Depot
namespace World

/-- What a world has for a request: what its transport brings, or why a move of the caller fails that
comes before. -/
def brings (w : World) (r : Request) : Outcome Response :=
  let (_, outcome, moves, _) := w.answer r
  (w.settleMoves r outcome moves).1

/-- The same world after some reports, which were taken. -/
structure Told (w w' : World) : Prop where
  same : ∃ observer past, w' = { w with observer := observer, past := past }
  requests : w'.requests = w.requests
  takes : w.observer.logger.TakesAll → w'.observer.logger.TakesAll

/-- A world in which a request was sent and has come to its end, and nothing else has happened. -/
structure Asked (w : World) (r : Request) (w' : World) : Prop where
  after : w.NotAfter w'
  observer : w'.observer = w.observer
  requests : w'.requests = w.requests ++ [r]
  script : w'.script = w.script.tail
  chores : w'.chores = w.chores

variable {w w' w'' last : World}

namespace Told

theorem refl (w : World) : w.Told w := ⟨⟨w.observer, w.past, rfl⟩, rfl, id⟩

theorem trans (h : w.Told w') (h' : w'.Told w'') : w.Told w'' := by
  obtain ⟨observer, past, rfl⟩ := h.same
  obtain ⟨observer', past', rfl⟩ := h'.same
  exact ⟨⟨observer', past', rfl⟩, h'.requests.trans h.requests, h'.takes ∘ h.takes⟩

theorem now (h : w.Told w') : w'.now = w.now := by
  obtain ⟨observer, past, rfl⟩ := h.same
  rfl

theorem script (h : w.Told w') : w'.script = w.script := by
  obtain ⟨observer, past, rfl⟩ := h.same
  rfl

theorem flights (h : w.Told w') : w'.flights = w.flights := by
  obtain ⟨observer, past, rfl⟩ := h.same
  rfl

theorem chores (h : w.Told w') : w'.chores = w.chores := by
  obtain ⟨observer, past, rfl⟩ := h.same
  rfl

/-- What a transport brings does not depend on what is reported. -/
theorem brings (h : w.Told w') (r : Request) : w'.brings r = w.brings r := by
  obtain ⟨observer, past, rfl⟩ := h.same
  rfl

theorem takesUntil (h : w.Told w') (takes : w.TakesUntil last) : w'.TakesUntil last := by
  apply takes.imp h.takes
  intro dated
  rw [IsDated, h.now]
  exact dated

end Told

theorem Asked.takesUntil {r : Request} (h : w.Asked r w') (takes : w.TakesUntil last)
    (later : w'.NotAfter last) : w'.TakesUntil last := by
  rw [TakesUntil, h.observer]
  exact takes.imp_right fun dated => ⟨dated.1.between dated.2 h.after later, dated.2⟩

theorem told_report (takes : w.TakesReports) (r : Report) :
    ∃ w', w.report r = (none, w') ∧ w.Told w' := by
  obtain ⟨w', taken, heard⟩ := exists_heard takes r
  obtain ⟨observer, past, same⟩ := heard.same
  exact ⟨w', taken, ⟨observer, past, same⟩, heard.requests, heard.takes⟩

theorem told_tell (w : World) (u n : Nat) : w.Told (w.tell u n).2 := by
  rw [tell]
  cases w.listener.isSome with
  | false => exact .refl w
  | true => exact ⟨⟨_, _, rfl⟩, by simp [requests, history, happen], id⟩

/-! ## Running jobs -/

section Running
variable {α : Type} {e : Endpoint} {job : Nat} {j : Job α}

/-- A job that fails at once leaves the world as it is. -/
theorem runOn_failsAtOnce {f : Failure} (h : j.FailsAtOnce f) (w : World) :
    w.runOn e job j = (some (.error f), w) := by
  induction j with
  | finish result =>
    rw [runOn, h]
  | clock next ih => exact ih w.clock (h w.clock)
  | query ref next ih => exact ih (w.desk.queryAt ref) (h _)
  | stall | report | progress | launch | await | detach => exact h.elim

/-- A job that ends without a call does nothing but to report. -/
theorem runOn_endsIn {Q : Outcome α → Prop} (h : j.EndsIn Q)
    (takes : w.TakesUntil (w.runOn e job j).2) :
    ∃ result w', w.runOn e job j = (some result, w') ∧ Q result ∧ w.Told w' := by
  induction j generalizing w with
  | finish result => exact ⟨result, w, rfl, h, .refl w⟩
  | report r next ih =>
    obtain ⟨w₁, taken, told⟩ := told_report takes.takesReports r
    have goes_on : w.runOn e job (.report r next) = w₁.runOn e job (next none) := by
      rw [runOn, taken]
    rw [goes_on] at takes ⊢
    obtain ⟨result, w', ended, hQ, told'⟩ := ih none h (told.takesUntil takes)
    exact ⟨result, w', ended, hQ, told.trans told'⟩
  | clock next ih => exact ih w.clock (h w.clock) takes
  | query ref next ih => exact ih (w.desk.queryAt ref) (h _) takes
  | progress u n next ih =>
    have told := told_tell w u n
    obtain ⟨result, w', ended, hQ, told'⟩ := ih (w.tell u n).1 (h _) (told.takesUntil takes)
    exact ⟨result, w', ended, hQ, told.trans told'⟩
  | stall | launch | await | detach => exact h.elim

theorem script_answer (w : World) (r : Request) : (w.answer r).2.2.2 = w.script.tail := by
  unfold answer
  split <;> rename_i script <;> rw [script] <;> rfl

/-- Where nothing else is under way, a request that is not repeated comes to what the world has for
it. -/
theorem landAny_once (idle : w.flights = []) (job k : Nat) (r : Request) :
    ∃ f w', (w.launch job k r none).landAny = some (f, w.brings r, w') ∧ f.job = job ∧
      f.ticket = k ∧ w.Asked r w' := by
  have first : ∃ f, first? (w.launch job k r none).flights = some (f, []) ∧ f.job = job ∧
      f.ticket = k ∧ f.request = r ∧ f.policy = none ∧
      f.stage = .arriving (w.answer r).2.1 (w.answer r).2.2.1 := by
    rw [launch, send, idle]
    exact ⟨_, rfl, rfl, rfl, rfl, rfl, rfl⟩
  obtain ⟨f, first, own, ticket, request, policy, stage⟩ := first
  obtain ⟨n, budget⟩ := Nat.exists_eq_add_of_le'
    (le_foldl_add ((w.launch job k r none).flights.map (w.launch job k r none).steps) 1)
  have once (outcome : Outcome Response) : again? f outcome = none := by
    rw [again?, policy]
    rfl
  have asked : w.Asked r (((w.launch job k r none).turnTo f []).settleMoves r (w.answer r).2.1
      (w.answer r).2.2.1).2 :=
    { after := notAfter_turnTo (w.launch job k r none) f []
      observer := rfl
      requests := by simp [requests, history, settleMoves, turnTo, launch, send, happen]
      script := script_answer w r
      chores := rfl }
  refine ⟨f, _, ?_, own, ticket, asked⟩
  rw [landAny, budget, land_arriving first stage]
  simp only [once, request]
  rfl

theorem awaitAny_once (idle : w.flights = []) (alone : w.chores = []) (job k : Nat) (r : Request) :
    ∃ f w', (w.launch job k r none).awaitAny job = some (f, w.brings r, w') ∧ f.ticket = k ∧
      w.Asked r w' := by
  obtain ⟨f, w', landed, own, ticket, asked⟩ := landAny_once idle job k r
  have nobody : (w.launch job k r none).chores = [] := alone
  refine ⟨f, w', ?_, ticket, asked⟩
  rw [awaitAny, nobody]
  simp only [List.map_nil, List.foldl_nil, awaitWithin, landed, own, if_true]

/-- A job that asks once sends one request, which takes one of the responses, and comes to what the
outcome of the request brings. -/
theorem runOn_asksOnce (h : j.AsksOnce) (once : e.retry = none) (idle : w.flights = [])
    (alone : w.chores = []) (takes : w.TakesUntil (w.runOn e job j).2) :
    ∃ c result w', w.runOn e job j = (some result, w') ∧
      Exchange.Brings (w.brings (e.request c)) result ∧
      w'.requests = w.requests ++ [e.request c] ∧ w'.script = w.script.tail ∧ w'.chores = [] := by
  induction j generalizing w with
  | report r next ih =>
    obtain ⟨w₁, taken, told⟩ := told_report takes.takesReports r
    have goes_on : w.runOn e job (.report r next) = w₁.runOn e job (next none) := by
      rw [runOn, taken]
    rw [goes_on] at takes ⊢
    obtain ⟨c, result, w', ended, brought, requests, script, left⟩ := ih none h
      (told.flights.trans idle) (told.chores.trans alone) (told.takesUntil takes)
    rw [told.brings] at brought
    rw [told.requests] at requests
    rw [told.script] at script
    exact ⟨c, result, w', ended, brought, requests, script, left⟩
  | clock next ih => exact ih w.clock (h w.clock) idle alone takes
  | query ref next ih => exact ih (w.desk.queryAt ref) (h _) idle alone takes
  | launch k c next ih =>
    cases next with
    | await next =>
      obtain ⟨f, w₁, handed, ticket, asked⟩ :=
        awaitAny_once idle alone job k (e.request c)
      have goes_on : w.runOn e job (.launch k c (.await next)) =
          w₁.runOn e job (next k ⟨w.brings (e.request c), w₁.now - f.began⟩) := by
        rw [runOn, runOn, once, handed, ← ticket]
      rw [goes_on] at takes ⊢
      have later := notAfter_runOn e job (next k ⟨w.brings (e.request c), w₁.now - f.began⟩) w₁
      obtain ⟨result, w', ended, brought, told⟩ :=
        runOn_endsIn (h ⟨w.brings (e.request c), w₁.now - f.began⟩)
          (asked.takesUntil takes later)
      refine ⟨c, result, w', ended, brought, ?_, ?_, ?_⟩
      · rw [told.requests, asked.requests]
      · rw [told.script, asked.script]
      · rw [told.chores, asked.chores, alone]
    | _ => exact h.elim
  | finish | stall | progress | await | detach => exact h.elim

end Running

end World
end Depot
