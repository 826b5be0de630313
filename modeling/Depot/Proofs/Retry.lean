import Mathlib.Data.Nat.Find
import Depot.Retry
/-!
# Retries on schedule

An operation is repeated after each outcome that is worth it, as often as the policy allows, and what
the last call comes to is what the repetition comes to. Between two calls one retry is announced, and
then there is one delay. The budget of a repetition makes no difference if it is no less than the retries
that are allowed.
-/
namespace Depot

namespace Number

/-- A double that is a natural number is the least one that is not below it. -/
theorem ceilNat?_of_natural? {x : Float} {n : Nat} (h : natural? x = some n) :
    ceilNat? x = some n := by
  rw [natural?] at h
  rw [ceilNat?]
  cases size : exact x with
  | nan | infinite => rw [size] at h; cases h
  | finite negative m e =>
    rw [size] at h
    dsimp only at h ⊢
    have den_pos : 0 < Nat.pow 2 (-e).toNat := Nat.pow_pos Nat.zero_lt_two
    generalize Nat.pow 2 (-e).toNat = den at h den_pos ⊢
    split at h
    case isFalse => cases h
    case isTrue whole =>
      obtain ⟨k, rfl⟩ := Nat.dvd_of_mod_eq_zero whole.1
      have cut : den * k * Nat.pow 2 e.toNat / den = k * Nat.pow 2 e.toNat := by
        rw [Nat.mul_assoc, Nat.mul_div_cancel_left _ den_pos]
      have up : (den * k * Nat.pow 2 e.toNat + den - 1) / den = k * Nat.pow 2 e.toNat := by
        rw [Nat.mul_assoc, Nat.add_sub_assoc den_pos, Nat.mul_add_div den_pos,
          Nat.div_eq_of_lt (Nat.sub_one_lt_of_lt den_pos), Nat.add_zero]
      rw [cut] at h
      rw [up, ← h]
      cases negative with
      | false => rfl
      | true =>
        have zero : den * k = 0 := whole.2.resolve_right (by simp)
        rw [(Nat.mul_eq_zero.mp zero).resolve_left (Nat.ne_of_gt den_pos), Nat.zero_mul]
        rfl

end Number

namespace Retry
variable {α : Type}

/-- Whether an outcome is worth a retry: a failure that may pass, or a result that the caller marks. -/
def isWorthOne (marked : α → Bool) : Outcome α → Bool
  | .error f => f.isRetryable
  | .ok a => marked a

/-- The reason for a retry after an outcome. -/
def reason : Outcome α → String
  | .error f => f.message
  | .ok _ => "retryable response"

theorem again?_eq {p : RetryPolicy} {most : Nat} (limit : p.limit? = some most) (marked : α → Bool)
    (retries : Nat) (outcome : Outcome α) : p.again? marked retries outcome =
      if retries < most ∧ isWorthOne marked outcome then some (reason outcome) else none := by
  rw [RetryPolicy.again?, RetryPolicy.allows, limit, Option.all_some]
  cases outcome with
  | error f => by_cases h : retries < most <;> simp [h, RetryPolicy.reason?, isWorthOne, reason]
  | ok a => by_cases h : retries < most <;> simp [h, RetryPolicy.reason?, isWorthOne, reason]

section Schedule
variable (p : RetryPolicy) (outcomes : Nat → Outcome α) (draws : Nat → Float)

/-- The retry after call number `n`, counted from zero, with the delay for the random number of its own. -/
def step (n : Nat) : Step :=
  ⟨n + 1, reason (outcomes n), p.delay (Float.ofNat (n + 1)) (draws n)⟩

/-- What happens from a call to the next. -/
def round (n : Nat) : List Event :=
  [.called, .announced (step p outcomes draws n), .slept (step p outcomes draws n).delayMs]

/-- What happens if `count` retries are made from call number `first` on. -/
def schedule (first count : Nat) : List Event :=
  (List.range' first count).flatMap (round p outcomes draws) ++ [.called]

end Schedule

variable {p : RetryPolicy} {most : Nat} (marked : α → Bool) (outcomes : Nat → Outcome α)
  (draws : Nat → Float)

/-- With enough budget, the calls from one on end where the retries or the reasons for them end. -/
theorem execute_eq (limit : p.limit? = some most) {first count budget : Nat}
    (enough : most ≤ first + budget)
    (within : first + count ≤ most)
    (worth : ∀ i, first ≤ i → i < first + count → isWorthOne marked (outcomes i) = true)
    (last : first + count = most ∨ isWorthOne marked (outcomes (first + count)) = false) :
    execute p marked outcomes draws budget first =
      ⟨outcomes (first + count), schedule p outcomes draws first count⟩ := by
  induction count generalizing first budget with
  | zero =>
    cases budget with
    | zero => rfl
    | succ budget =>
      have stops : p.again? marked first (outcomes first) = none := by
        rw [again?_eq limit, if_neg]
        rintro ⟨more, again⟩
        rcases last with used | other
        · omega
        · exact Bool.false_ne_true (other.symm.trans again)
      rw [execute, stops]
      rfl
  | succ count ih =>
    cases budget with
    | zero => omega
    | succ budget =>
      have goes_on : p.again? marked first (outcomes first) = some (reason (outcomes first)) := by
        rw [again?_eq limit, if_pos ⟨by omega, worth first (Nat.le_refl _) (by omega)⟩]
      have next : first + 1 + count = first + (count + 1) := by omega
      have rest : execute p marked outcomes draws budget (first + 1) =
          ⟨outcomes (first + 1 + count), schedule p outcomes draws (first + 1) count⟩ :=
        ih (by omega) (by omega) (fun i after before => worth i (by omega) (by omega)) (next ▸ last)
      rw [next] at rest
      rw [execute, goes_on]
      simp only [rest]
      rw [schedule, schedule, List.range'_succ, List.flatMap_cons, List.append_assoc]
      rfl

/-- Every delay that is made is that of a retry that is allowed. -/
theorem exists_of_slept (limit : p.limit? = some most) {budget first : Nat} {ms : Float}
    (h : .slept ms ∈ (execute p marked outcomes draws budget first).events) :
    ∃ n < most, ms = p.delay (Float.ofNat (n + 1)) (draws n) := by
  induction budget generalizing first with
  | zero => simp [execute] at h
  | succ budget ih =>
    rw [execute, again?_eq limit] at h
    split at h
    case h_1 => simp at h
    case h_2 reason again =>
      have allowed : first < most := by
        by_contra not
        simp [not] at again
      simp only [List.mem_cons, Event.slept.injEq, reduceCtorEq, false_or] at h
      rcases h with same | later
      · exact ⟨first, allowed, same⟩
      · exact ih later

theorem countP_rounds (first count : Nat) :
    ((List.range' first count).flatMap (round p outcomes draws)).countP Event.isCall = count := by
  induction count generalizing first with
  | zero => rfl
  | succ count ih =>
    rw [List.range'_succ, List.flatMap_cons, List.countP_append, ih, Nat.add_comm]
    rfl

/-- An operation that may be repeated a whole number of times is repeated after each of the outcomes in
front that are worth it, up to that number, and comes to what the next call comes to. Between two calls
one retry is announced, with the number of the first of them and the reason in its outcome, and then there
is one delay, the one announced, for a random number of its own; nothing is announced after the last
call. No more budget is used than there are retries. -/
theorem follows_schedule (whole : Number.natural? p.maxRetries = some most) :
    ∃ j ≤ most, (∀ i < j, isWorthOne marked (outcomes i) = true) ∧
      (j = most ∨ isWorthOne marked (outcomes j) = false) ∧
      ∀ budget, most ≤ budget →
        (execute p marked outcomes draws budget 0).calls = j + 1 ∧
        execute p marked outcomes draws budget 0 =
          ⟨outcomes j, (List.range j).flatMap (round p outcomes draws) ++ [.called]⟩ := by
  have ends : ∃ n, n = most ∨ isWorthOne marked (outcomes n) = false := ⟨most, .inl rfl⟩
  have within : Nat.find ends ≤ most := Nat.find_min' ends (.inl rfl)
  have worth (i : Nat) (before : i < Nat.find ends) : isWorthOne marked (outcomes i) = true := by
    have goes_on := Nat.find_min ends before
    rw [not_or, Bool.not_eq_false] at goes_on
    exact goes_on.2
  refine ⟨Nat.find ends, within, worth, Nat.find_spec ends, fun budget enough => ?_⟩
  have run := execute_eq marked outcomes draws (Number.ceilNat?_of_natural? whole)
    (Nat.le_trans enough (Nat.le_add_left budget 0))
    (Nat.le_trans (Nat.le_of_eq (Nat.zero_add _)) within)
    (fun i _ before => worth i (by rwa [Nat.zero_add] at before))
    ((Nat.zero_add (Nat.find ends)).symm ▸ Nat.find_spec ends)
  rw [Nat.zero_add, schedule, ← List.range_eq_range'] at run
  refine ⟨?_, run⟩
  rw [run, Run.calls, List.countP_append, List.range_eq_range', countP_rounds]
  rfl

/-- Three retries, as patient as usual. -/
def threeTimes : RetryPolicy := { RetryPolicy.standard with maxRetries := 3.0 }

/-- An operation that does not get through, then is answered by a busy service, and then succeeds. -/
def thirdTime : Nat → Outcome Nat
  | 0 => .error (.transport "reset" none)
  | 1 => .ok 503
  | _ => .ok 200

/-- It is called three times, though it might be called four times, and the second retry is for its
result. -/
theorem follows_schedule_thirdTime :
    (execute threeTimes (· == 503) thirdTime (fun _ => 0.0) 3 0).calls = 3 ∧
      execute threeTimes (· == 503) thirdTime (fun _ => 0.0) 3 0 = ⟨.ok 200, [
        .called, .announced ⟨1, "Transport error: reset", 500.0⟩, .slept 500.0,
        .called, .announced ⟨2, "retryable response", 1000.0⟩, .slept 1000.0, .called]⟩ := by
  have whole : Number.natural? threeTimes.maxRetries = some 3 := by decide +kernel
  obtain ⟨j, -, worth, last, run⟩ := follows_schedule (· == 503) thirdTime (fun _ => 0.0) whole
  have goes_on : ∀ i < 2, isWorthOne (· == 503) (thirdTime i) = true := by decide
  have stops : isWorthOne (· == 503) (thirdTime 2) = false := by decide
  have second : j = 2 := by
    rcases Nat.lt_trichotomy j 2 with before | same | after
    · rcases last with rfl | other
      · omega
      · exact absurd ((goes_on j before).symm.trans other) (by decide)
    · exact same
    · exact absurd ((worth 2 after).symm.trans stops) (by decide)
  subst second
  obtain ⟨calls, run⟩ := run 3 (Nat.le_refl 3)
  have first : threeTimes.delay 1.0 0.0 = 500.0 := by decide +kernel
  have twice : threeTimes.delay 2.0 0.0 = 1000.0 := by decide +kernel
  refine ⟨calls, run.trans ?_⟩
  change Run.mk (.ok 200) [.called,
    .announced ⟨1, "Transport error: reset", threeTimes.delay 1.0 0.0⟩,
    .slept (threeTimes.delay 1.0 0.0), .called,
    .announced ⟨2, "retryable response", threeTimes.delay 2.0 0.0⟩,
    .slept (threeTimes.delay 2.0 0.0), .called] = _
  rw [first, twice]

end Retry
end Depot
