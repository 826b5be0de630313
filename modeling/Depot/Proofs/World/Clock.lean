import Depot.Proofs.Number.Rank
import Depot.World.Run
/-!
# Clocks

The clock of a world never goes back, whatever runs in it. So if it shows a date in the beginning
and in the end, then it does in between.
-/
namespace Depot
namespace World
open Number

/-- The clock shows a date. -/
def IsDated (w : World) : Prop := (Instant.ofNumber? w.now).isSome

instance (w : World) : Decidable w.IsDated :=
  inferInstanceAs (Decidable ((Instant.ofNumber? w.now).isSome = true))

/-- The clock of the second world is not behind that of the first. -/
def NotAfter (w w' : World) : Prop := rank w.now ≤ rank w'.now

theorem NotAfter.refl (w : World) : w.NotAfter w := Int.le_refl _

theorem NotAfter.of_eq {w w' : World} (h : w'.now = w.now) : w.NotAfter w' := Int.le_of_eq (h ▸ rfl)

theorem NotAfter.trans {w w' w'' : World} (h : w.NotAfter w') (h' : w'.NotAfter w'') :
    w.NotAfter w'' := Int.le_trans h h'

/-- A clock that shows a date before and after shows one in between. -/
theorem IsDated.between {first w last : World} (begins : first.IsDated) (ends : last.IsDated)
    (after : first.NotAfter w) (before : w.NotAfter last) : w.IsDated :=
  Instant.isSome_ofNumber?_of_between begins ends after before

section Keeping
variable (w : World)

theorem exists_foldl_written (lines : List ConsoleLine) : ∃ past,
    lines.foldl (fun w line => w.happen (.written line)) w = { w with past := past } := by
  induction lines generalizing w with
  | nil => exact ⟨w.past, rfl⟩
  | cons line rest ih => exact ih (w.happen (.written line))

theorem now_report (r : Report) : (w.report r).2.now = w.now := by
  rw [report]
  split
  · rename_i lines observer _
    obtain ⟨past, written⟩ := exists_foldl_written
      { w.happen (.reported r) with observer := observer } lines
    have same := congrArg World.now written
    exact same
  · rfl

theorem now_tell (u n : Nat) : (w.tell u n).2.now = w.now := by
  rw [tell]
  split <;> rfl

theorem now_send (f : Flight) : (w.send f).now = w.now := rfl

theorem now_rest (f : Flight) (policy : RetryPolicy) (reason : String) :
    (w.rest f policy reason).2.now = w.now := by
  have same := now_report w.draw.2
    (Retry.Step.mk (f.retries + 1) reason
      (policy.delay (Float.ofNat (f.retries + 1)) w.draw.1)).report
  simp only [rest]
  split <;> rename_i taken <;> rw [taken] at same <;> exact same

/-- A job that was left to itself goes on until it waits, which takes no time. -/
theorem now_goOn (c : Chore) (j : Job Unit) : (goOn c j w).now = w.now := by
  induction j generalizing c w with
  | finish | stall | await => rfl
  | report r next ih => exact (ih _ _ c).trans (now_report w r)
  | clock next ih => exact ih _ w c
  | query ref next ih => exact ih _ w c
  | progress u n next ih => exact ih _ w c
  | launch k call next ih => exact ih _ c
  | detach most rest next ihRest ih => exact (ih _ _).trans (ihRest _ _)

theorem now_handOver (f : Flight) (outcome : Outcome Response) :
    (w.handOver f outcome).now = w.now := by
  rw [handOver]
  split
  · rfl
  · exact now_goOn ..

end Keeping

/-- Time moves to what is due. -/
theorem rank_le_due (now : Float) (due : Option Float) :
    rank now ≤ rank (due.elim now fun due => if now < due then due else now) := by
  cases due with
  | none => exact Int.le_refl _
  | some due =>
    rw [Option.elim_some]
    split
    case isTrue later => exact Int.le_of_lt (rank_lt_rank later)
    case isFalse => exact Int.le_refl _

/-- The world when it is the turn of a flight. -/
def turnTo (w : World) (f : Flight) (others : List Flight) : World :=
  { w with
    now := f.due.elim w.now fun due => if w.now < due then due else w.now
    flights := others }

theorem notAfter_turnTo (w : World) (f : Flight) (others : List Flight) :
    w.NotAfter (w.turnTo f others) := rank_le_due w.now f.due

section Landing
variable {budget : Nat} {w : World} {f : Flight} {others : List Flight}
  (first : first? w.flights = some (f, others))
include first

/-- A flight that rests is sent once more. -/
theorem land_resting (stage : f.stage = .resting) :
    land (budget + 1) w = land budget ((w.turnTo f others).send f) := by
  rw [land, first]
  simp only [stage]
  rfl

/-- A flight that arrives has come to its end, unless it is repeated. -/
theorem land_arriving {outcome : Outcome Response} {moves : List Desk.Move}
    (stage : f.stage = .arriving outcome moves) : land (budget + 1) w =
      let (outcome, w) := (w.turnTo f others).settleMoves f.request outcome moves
      match again? f outcome with
      | none => some (f, outcome, w)
      | some (policy, reason) =>
        match w.rest f policy reason with
        | (some failure, w) => some (f, .error failure, w)
        | (none, w) => land budget w := by
  rw [land, first]
  simp only [stage]
  rfl

end Landing

theorem notAfter_land {budget : Nat} {w w' : World} {f : Flight} {outcome : Outcome Response}
    (landed : land budget w = some (f, outcome, w')) : w.NotAfter w' := by
  induction budget generalizing w with
  | zero => cases landed
  | succ budget ih =>
    cases first : first? w.flights with
    | none =>
      rw [land, first] at landed
      cases landed
    | some found =>
      obtain ⟨g, others⟩ := found
      have moved := notAfter_turnTo w g others
      cases stage : g.stage with
      | resting =>
        rw [land_resting first stage] at landed
        exact (moved.trans (.of_eq (now_send ..))).trans (ih landed)
      | arriving result moves =>
        rw [land_arriving first stage] at landed
        simp only at landed
        split at landed
        · cases landed
          exact moved
        · rename_i policy reason _
          have rested := now_rest ((w.turnTo g others).settleMoves g.request result moves).2 g
            policy reason
          split at landed <;> rename_i taken <;> rw [taken] at rested
          · cases landed
            exact moved.trans (.of_eq rested)
          · exact (moved.trans (.of_eq rested)).trans (ih landed)

theorem notAfter_awaitWithin {job budget : Nat} {w w' : World} {f : Flight}
    {outcome : Outcome Response} (handed : awaitWithin job budget w = some (f, outcome, w')) :
    w.NotAfter w' := by
  induction budget generalizing w with
  | zero => cases handed
  | succ budget ih =>
    rw [awaitWithin] at handed
    split at handed
    · cases handed
    · rename_i g result w₁ landed
      split at handed
      · cases handed
        exact notAfter_land landed
      · exact ((notAfter_land landed).trans (.of_eq (now_handOver ..))).trans (ih handed)

theorem notAfter_runOn {α : Type} (e : Endpoint) (job : Nat) (j : Job α) (w : World) :
    w.NotAfter (w.runOn e job j).2 := by
  induction j generalizing job w with
  | finish | stall => exact .refl w
  | report r next ih => exact (NotAfter.of_eq (now_report w r)).trans (ih _ job _)
  | clock next ih => exact ih _ job w
  | query ref next ih => exact ih _ job w
  | progress u n next ih => exact (NotAfter.of_eq (now_tell w u n)).trans (ih _ job _)
  | launch k c next ih =>
    rw [runOn]
    exact (NotAfter.of_eq (now_send ..)).trans (ih job _)
  | await next ih =>
    rw [runOn]
    split
    · exact .refl w
    · rename_i handed
      exact (notAfter_awaitWithin handed).trans (ih _ _ job _)
  | detach most rest next _ ih =>
    rw [runOn]
    refine NotAfter.trans (.of_eq ?_) (ih _ _)
    exact now_goOn ..

theorem notAfter_awaitAny {job : Nat} {w w' : World} {f : Flight} {outcome : Outcome Response}
    (handed : w.awaitAny job = some (f, outcome, w')) : w.NotAfter w' := notAfter_awaitWithin handed

theorem notAfter_run {α : Type} (e : Endpoint) (j : Job α) (w : World) :
    w.NotAfter (w.run e j).2 := notAfter_runOn e w.jobs j w.withJob

end World
end Depot
