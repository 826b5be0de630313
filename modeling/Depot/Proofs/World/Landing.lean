import Mathlib
import Depot.Proofs.World.Retrying
/-!
# Landing on a network

Whatever happens on a network, each request under way comes to its end after finitely many things,
with a response or a failure of the client. The invariant is that this holds of every outcome that
is about to arrive; what goes down with each thing is the number of retries that are left.
-/
namespace Depot

/-- Whether an outcome is a response or a failure of the client. -/
def Outcome.isOwn {α : Type} : Outcome α → Bool
  | .ok _ => true
  | .error f => f.isClient

/-- How many responses an outcome is. -/
def Outcome.responses {α : Type} : Outcome α → Nat
  | .ok _ => 1
  | .error _ => 0

theorem Outcome.responses_le_one {α : Type} (outcome : Outcome α) : outcome.responses ≤ 1 := by
  cases outcome with
  | ok => exact Nat.le_refl 1
  | error => exact Nat.zero_le 1

namespace Fetch

theorem isClient_failure (limitMs : Float) (f : Failure) : (failure limitMs f).isClient = true := by
  cases f with
  | foreign name message =>
    rw [failure]
    split <;> rfl
  | _ => rfl

theorem isOwn_settle (limitMs : Float) (d : Delivery) : (settle limitMs d).2.isOwn = true := by
  cases d with
  | refuse afterMs f =>
    rw [settle]
    split
    · rfl
    · exact isClient_failure ..
  | answer headAfterMs r bodyAfterMs bodyFailure =>
    simp only [settle]
    split
    · rfl
    · cases bodyFailure with
      | some f => exact isClient_failure ..
      | none => rfl

end Fetch

namespace Desk

/-- Moves lead from one desk to another. -/
def Reaches (d d' : Desk) : Prop := ∃ moves, d.playAll moves = (none, d')

theorem Reaches.refl (d : Desk) : d.Reaches d := ⟨[], rfl⟩

theorem Reaches.cons {d d' d'' : Desk} {m : Move} {q : Query} (first : d.play m = .ok (q, d'))
    (rest : d'.Reaches d'') : d.Reaches d'' := by
  obtain ⟨moves, played⟩ := rest
  refine ⟨m :: moves, ?_⟩
  rw [playAll, first]
  exact played

theorem Reaches.trans {d d' d'' : Desk} (h : d.Reaches d') (h' : d'.Reaches d'') :
    d.Reaches d'' := by
  obtain ⟨moves, played⟩ := h
  induction moves generalizing d with
  | nil =>
    cases played
    exact h'
  | cons m rest ih =>
    rw [playAll] at played
    cases first : d.play m with
    | ok x =>
      rw [first] at played
      exact .cons first (ih played)
    | error f =>
      rw [first] at played
      cases played

/-- Moves up to one that fails. -/
theorem reaches_playAll (d : Desk) (moves : List Move) : d.Reaches (d.playAll moves).2 := by
  induction moves generalizing d with
  | nil => exact .refl d
  | cons m rest ih =>
    rw [playAll]
    cases first : d.play m with
    | ok x => exact .cons first (ih x.2)
    | error f => exact .refl d

end Desk

namespace Flight

/-- How many responses a flight arrives with. -/
def responses (f : Flight) : Nat :=
  match f.stage with
  | .arriving outcome _ => outcome.responses
  | .resting => 0

/-- How many things can still happen to a flight that may be repeated so often. -/
def left (most : Nat) (f : Flight) : Nat :=
  2 * (most - f.retries) + match f.stage with
    | .arriving .. => 1
    | .resting => 2

/-- A request of a job, which may be repeated so often, and a response or a failure of the client is
what it arrives with. -/
structure IsCarried (job most : Nat) (f : Flight) : Prop where
  ofJob : f.job = job
  limit : RetryPolicy.most? f.policy = some most
  within : f.retries ≤ most
  own : ∀ outcome moves, f.stage = .arriving outcome moves → outcome.isOwn = true

end Flight

namespace World

/-- The responses that requests have had or can still have. -/
def responses (w : World) : Nat := (w.flights.map Flight.responses).sum + w.script.length

/-- A network that carries the requests of a job, and nothing else. -/
structure Carries (w : World) (job most : Nat) (tickets : List Nat) : Prop where
  network : ∃ limitMs, w.channel = .network limitMs
  alone : w.chores = []
  flying : ∀ f ∈ w.flights, f.IsCarried job most
  underWay : (w.flights.map Flight.ticket).Perm tickets

/-- How many things can still happen before a request has come to its end. -/
def left (most : Nat) (w : World) : Nat := (w.flights.map (Flight.left most)).sum

/-- A world that comes after another: time may have passed, and the caller may have made moves. -/
structure Later (w w' : World) : Prop where
  after : w.NotAfter w'
  takes : w.observer.logger.TakesAll → w'.observer.logger.TakesAll
  desk : w.desk.Reaches w'.desk

theorem Later.trans {w w' w'' : World} (h : w.Later w') (h' : w'.Later w'') : w.Later w'' where
  after := h.after.trans h'.after
  takes := h'.takes ∘ h.takes
  desk := h.desk.trans h'.desk

/-- A world that comes after another, in which requests may have used responses. -/
structure Onward (w w' : World) : Prop extends w.Later w' where
  responses : w'.responses ≤ w.responses

theorem Onward.trans {w w' w'' : World} (h : w.Onward w') (h' : w'.Onward w'') : w.Onward w'' where
  toLater := h.toLater.trans h'.toLater
  responses := Nat.le_trans h'.responses h.responses

section Steps
variable {w : World} {job most : Nat} {tickets : List Nat} (h : w.Carries job most tickets)
  {f : Flight} {others : List Flight}
include h

theorem Carries.exists_first (busy : tickets ≠ []) : ∃ found, first? w.flights = some found := by
  refine Option.ne_none_iff_exists'.mp fun none_first => busy ?_
  have idle := h.underWay
  rw [first?_eq_none none_first] at idle
  exact idle.nil_eq.symm

theorem Carries.turnTo (first : first? w.flights = some (f, others)) :
    f.IsCarried job most ∧ f.ticket ∈ tickets ∧
      (w.turnTo f others).Carries job most (tickets.erase f.ticket) ∧ w.Onward (w.turnTo f others) ∧
      w.left most = f.left most + (w.turnTo f others).left most ∧
      w.responses = f.responses + (w.turnTo f others).responses := by
  have perm := first?_perm first
  have flown : (f.ticket :: others.map Flight.ticket).Perm tickets :=
    (perm.map Flight.ticket).symm.trans h.underWay
  obtain ⟨under_way, others_left⟩ := List.cons_perm_iff_perm_erase.mp flown
  have responses : w.responses = f.responses + (w.turnTo f others).responses :=
    (congrArg (· + w.script.length) (perm.map Flight.responses).sum_nat).trans (Nat.add_assoc ..)
  refine ⟨h.flying f (perm.mem_iff.mpr (List.mem_cons_self ..)), under_way, ?_, ?_,
    (perm.map (Flight.left most)).sum_nat, responses⟩
  · exact
      { network := h.network
        alone := h.alone
        flying := fun g hg => h.flying g (perm.mem_iff.mpr (List.mem_cons_of_mem _ hg))
        underWay := others_left }
  · exact ⟨⟨notAfter_turnTo w f others, id, .refl _⟩, responses ▸ Nat.le_add_left ..⟩

/-- On a network a request comes to a response or a failure of the client, and takes at most one of
the responses that are prepared. -/
theorem Carries.answer (r : Request) : (w.answer r).2.1.isOwn = true ∧
    (w.answer r).2.1.responses + (w.answer r).2.2.2.length ≤ w.script.length := by
  obtain ⟨limitMs, network⟩ := h.network
  unfold World.answer
  rw [network]
  cases w.script with
  | nil =>
    refine ⟨Fetch.isOwn_settle .., ?_⟩
    obtain ⟨f, refused⟩ := Channel.exists_outcome_none (.network limitMs) r
    exact Nat.le_of_eq (congrArg Outcome.responses refused)
  | cons p rest =>
    refine ⟨Fetch.isOwn_settle .., ?_⟩
    rw [List.length_cons, Nat.add_comm rest.length]
    exact Nat.add_le_add_right (Outcome.responses_le_one _) rest.length

/-- A request of the job is sent, for the first time or once more. -/
theorem Carries.send (own : f.job = job) (limit : RetryPolicy.most? f.policy = some most)
    (within : f.retries ≤ most) : (w.send f).Carries job most (f.ticket :: tickets) ∧
      w.Onward (w.send f) ∧ (w.send f).left most = w.left most + 2 * (most - f.retries) + 1 := by
  obtain ⟨good, supply⟩ := h.answer f.request
  refine ⟨?_, ⟨⟨.of_eq (now_send w f), id, .refl _⟩, ?_⟩, ?_⟩
  · exact
      { network := h.network
        alone := h.alone
        flying := by
          intro g hg
          rcases List.mem_cons.mp hg with rfl | hg
          · refine ⟨own, limit, within, ?_⟩
            rintro outcome moves stage
            cases stage
            exact good
          · exact h.flying g hg
        underWay := h.underWay.cons f.ticket }
  · have now_responses : (w.send f).responses = (w.answer f.request).2.1.responses +
        (w.flights.map Flight.responses).sum + (w.answer f.request).2.2.2.length := rfl
    have responses : w.responses = (w.flights.map Flight.responses).sum + w.script.length := rfl
    omega
  · have now_left : (w.send f).left most = 2 * (most - f.retries) + 1 + w.left most := rfl
    omega

/-- The moves of the caller come before a response, and one that fails is a failure on the way. -/
theorem Carries.settleMoves (r : Request) {outcome : Outcome Response}
    (own : outcome.isOwn = true) (moves : List Desk.Move) : ∃ outcome' w',
      w.settleMoves r outcome moves = (outcome', w') ∧ outcome'.isOwn = true ∧
      outcome'.responses ≤ outcome.responses ∧ w'.Carries job most tickets ∧ w.Onward w' ∧
      w'.left most = w.left most := by
  obtain ⟨limitMs, network⟩ := h.network
  refine ⟨_, _, rfl, ?_, ?_, { h with }, ⟨⟨.refl _, id, w.desk.reaches_playAll moves⟩,
    Nat.le_refl _⟩, rfl⟩
  · simp only [failing, network]
    cases (w.desk.playAll moves).1 with
    | none => exact own
    | some f => exact Fetch.isClient_failure ..
  · cases (w.desk.playAll moves).1 with
    | none => exact Nat.le_refl _
    | some f => exact Nat.zero_le _

/-- A request that may be repeated rests before, unless that cannot be reported. -/
theorem Carries.rest (carried : f.IsCarried job most) (more : f.retries < most)
    (policy : RetryPolicy) (reason : String) :
    (∃ failure w', w.rest f policy reason = (some failure, w') ∧ ¬ w.TakesReports) ∨
    ∃ w', w.rest f policy reason = (none, w') ∧ w'.Carries job most (f.ticket :: tickets) ∧
      w.Onward w' ∧ w'.left most = w.left most + 2 * (most - f.retries) := by
  refine (rest_cases w f policy reason).imp_right ?_
  rintro ⟨observer, past, drawn, due, w₁, rested, sends, rfl⟩
  refine ⟨_, rested, ?_, ⟨⟨sends.after, sends.takes, .refl _⟩, ?_⟩, ?_⟩
  · exact
      { network := h.network
        alone := h.alone
        flying := by
          intro g hg
          rcases List.mem_cons.mp hg with rfl | hg
          · exact ⟨carried.ofJob, carried.limit, more, nofun⟩
          · exact h.flying g hg
        underWay := h.underWay.cons f.ticket }
  · simp [responses, Flight.responses]
  · simp only [left, List.map_cons, List.sum_cons, Flight.left]
    omega

end Steps

/-- A request of a job has come to its end. -/
structure Ends (w : World) (job most : Nat) (tickets : List Nat) (f : Flight)
    (outcome : Outcome Response) (w' : World) : Prop where
  ticket : f.ticket ∈ tickets
  own : outcome.isOwn = true
  carries : w'.Carries job most (tickets.erase f.ticket)
  onward : w.Onward w'
  responses : outcome.responses + w'.responses ≤ w.responses

theorem Ends.prepend {w w₁ w' : World} {job most : Nat} {tickets tickets₁ : List Nat} {f : Flight}
    {outcome : Outcome Response} (ends : w₁.Ends job most tickets₁ f outcome w')
    (same : tickets₁.Perm tickets) (before : w.Onward w₁) :
    w.Ends job most tickets f outcome w' where
  ticket := same.mem_iff.mp ends.ticket
  own := ends.own
  carries := { ends.carries with underWay := ends.carries.underWay.trans (same.erase f.ticket) }
  onward := before.trans ends.onward
  responses := Nat.le_trans ends.responses before.responses

theorem TakesUntil.later {w w₁ w' : World} (h : w.TakesUntil w') (before : w.Later w₁)
    (after : w₁.NotAfter w') : w₁.TakesUntil w' := h.onward before.takes before.after after

/-- A request that is repeated has retries left. -/
theorem lt_of_again? {f : Flight} {job most : Nat} (carried : f.IsCarried job most)
    {outcome : Outcome Response} {found : RetryPolicy × String}
    (again : again? f outcome = some found) : f.retries < most := by
  obtain ⟨left, rfl⟩ := Nat.exists_eq_add_of_le carried.within
  have repeated := again?_eq carried.limit outcome
  by_cases none_left : left = 0
  · rw [if_neg (fun h => h.1 none_left), again] at repeated
    cases repeated
  · omega

/-- As many things as are left to happen bring a request to its end. -/
theorem exists_land {budget : Nat} {w : World} {job most : Nat} {tickets : List Nat}
    (h : w.Carries job most tickets) (busy : tickets ≠ []) (enough : w.left most ≤ budget) :
    ∃ f outcome w', land budget w = some (f, outcome, w') ∧ f.job = job ∧
      (w.TakesUntil w' → w.Ends job most tickets f outcome w') := by
  induction budget generalizing w tickets with
  | zero =>
    obtain ⟨⟨f, others⟩, first⟩ := h.exists_first busy
    obtain ⟨-, -, -, -, left, -⟩ := h.turnTo first
    have own : 0 < f.left most := by
      rw [Flight.left]
      cases f.stage <;> exact Nat.succ_pos _
    omega
  | succ budget ih =>
    obtain ⟨⟨f, others⟩, first⟩ := h.exists_first busy
    obtain ⟨carried, under_way, turned, onward, left, responses⟩ := h.turnTo first
    have same := (List.perm_cons_erase under_way).symm
    cases stage : f.stage with
    | resting =>
      obtain ⟨sent, onward₁, left₁⟩ := turned.send carried.ofJob carried.limit carried.within
      simp only [Flight.left, stage] at left
      obtain ⟨g, outcome, w', landed, own, ends⟩ := ih sent nofun (by omega)
      refine ⟨g, outcome, w', (land_resting first stage).trans landed, own, fun takes => ?_⟩
      have before := onward.trans onward₁
      exact (ends (takes.later before.toLater (notAfter_land landed))).prepend same before
    | arriving outcome moves =>
      rw [land_arriving first stage]
      simp only [Flight.left, Flight.responses, stage] at left responses
      obtain ⟨outcome, w₂, settled, own, fewer, carries, onward₂, left₂⟩ :=
        turned.settleMoves f.request (carried.own _ _ stage) moves
      have before := onward.trans onward₂
      simp only [settled]
      cases again : again? f outcome with
      | none =>
        have used := onward₂.responses
        exact ⟨f, outcome, w₂, rfl, carried.ofJob,
          fun _ => ⟨under_way, own, carries, before, by omega⟩⟩
      | some found =>
        obtain ⟨policy, reason⟩ := found
        have unmoved := now_rest w₂ f policy reason
        rcases carries.rest carried (lt_of_again? carried again) policy reason with
          ⟨failure, w₃, refused, never⟩ | ⟨w₃, rested, carries₃, onward₃, left₃⟩
        · rw [refused] at unmoved
          simp only [refused]
          refine ⟨f, _, w₃, rfl, carried.ofJob, fun takes => absurd ?_ never⟩
          exact (takes.later before.toLater (.of_eq unmoved)).takesReports
        · simp only [rested]
          obtain ⟨g, outcome', w', landed, own', ends⟩ := ih carries₃ nofun (by omega)
          refine ⟨g, outcome', w', landed, own', fun takes => ?_⟩
          have before := before.trans onward₃
          exact (ends (takes.later before.toLater (notAfter_land landed))).prepend same before

section Waiting
variable {w : World} {job most : Nat} {tickets : List Nat} (h : w.Carries job most tickets)
include h

theorem left_le_steps : w.left most ≤ (w.flights.map w.steps).foldl (· + ·) 1 := by
  have each : ∀ f ∈ w.flights, f.left most ≤ w.steps f := by
    intro f hf
    have limit := (h.flying f hf).limit
    have allowed : f.policy.elim 0 (·.limit?.getD w.script.length) = most := by
      cases policy : f.policy with
      | none =>
        rw [policy] at limit
        exact Option.some.inj limit
      | some p =>
        rw [policy] at limit
        exact congrArg (Option.getD · w.script.length) limit
    have stage : (match f.stage with | .arriving .. => 1 | .resting => 2) ≤ 2 := by
      cases f.stage with
      | arriving => exact Nat.le_succ 1
      | resting => exact Nat.le_refl 2
    rw [Flight.left, steps, allowed]
    omega
  have budget : (w.flights.map w.steps).foldl (· + ·) 1 = (1 :: w.flights.map w.steps).sum := by
    rw [List.sum_eq_foldl_nat]
    rfl
  rw [budget, List.sum_cons]
  exact Nat.le_add_left_of_le (List.sum_le_sum each)

/-- Whoever waits for one of the requests gets one. -/
theorem exists_awaitAny (busy : tickets ≠ []) : ∃ f outcome w',
    w.awaitAny job = some (f, outcome, w') ∧ w.NotAfter w' ∧
      (w.TakesUntil w' → w.Ends job most tickets f outcome w') := by
  obtain ⟨f, outcome, w', landed, own, ends⟩ := exists_land h busy (left_le_steps h)
  refine ⟨f, outcome, w', ?_, notAfter_land landed, ends⟩
  rw [awaitAny, h.alone]
  simp only [List.map_nil, List.foldl_nil, awaitWithin, landAny, landed, own, if_true]

end Waiting

end World
end Depot
