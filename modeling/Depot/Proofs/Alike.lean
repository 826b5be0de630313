import Mathlib.Data.List.Forall2
import Depot.Drive.Upload
import Depot.Proofs.Exchange
import Depot.Query.Pages
/-!
# Jobs that are alike

Two jobs that ask for the same, one call at a time, and come to the same, as long as their calls have
the same outcomes. How long a call takes can differ, and so can the pages that a job may ask for, if
there are enough of them: a number goes along that is at least the number of answers that are left.
-/
namespace Depot

/-- The same report, but for a duration. -/
inductive Report.SameButTime : Report → Report → Prop where
  | refl (r : Report) : SameButTime r r
  | time (metric : Metric) (ms ms' : Float) (labels : Labels) :
    SameButTime (.time metric ms labels) (.time metric ms' labels)

/-- The answers that are left when a call has had an outcome: one less if that was an answer. -/
def Spends : Outcome Response → Nat → Nat → Prop
  | .ok _, n, n' => n = n' + 1
  | .error _, n, n' => n = n'

namespace Job
variable {α β : Type}

/-- The first job is alike to the second when at most so many answers are left, and perhaps one call is
under way; `Q` holds at the end. Calls are sent only if they `may` be, and reports are taken. -/
def Alike (Q : Nat → Option (Nat × Call) → Outcome α → Prop) (may : Prop) :
    Nat → Option (Nat × Call) → Job α → Job α → Prop
  | n, busy, .finish result, j' => j' = .finish result ∧ Q n busy result
  | _, _, .stall, _ => False
  | n, busy, .report r next, j' => busy = none ∧ ∃ r' next', j' = .report r' next' ∧
    r.SameButTime r' ∧ Alike Q may n none (next none) (next' none)
  | n, busy, .clock next, j' => busy = none ∧ ∃ next', j' = .clock next' ∧
    ∀ t, Alike Q may n none (next t) (next' t)
  | n, busy, .query ref next, j' => busy = none ∧ ∃ next', j' = .query ref next' ∧
    ∀ q, Alike Q may n none (next q) (next' q)
  | n, busy, .progress u total next, j' => busy = none ∧ ∃ next', j' = .progress u total next' ∧
    ∀ failure, Alike Q may n none (next failure) (next' failure)
  | n, busy, .launch k c next, j' => busy = none ∧ may ∧ ∃ next', j' = .launch k c next' ∧
    Alike Q may n (some (k, c)) next next'
  | n, busy, .await next, j' => ∃ k c next', busy = some (k, c) ∧ j' = .await next' ∧
    ∀ a a' n', a'.outcome = a.outcome → Spends a.outcome n n' →
      Alike Q may n' none (next k a) (next' k a')
  | _, _, .detach .., _ => False

variable {Q R : Nat → Option (Nat × Call) → Outcome α → Prop} {may : Prop} {n : Nat}
  {busy : Option (Nat × Call)} {j j' : Job α}

theorem Alike.mono (h : j.Alike Q may n busy j') (hQ : ∀ n busy x, Q n busy x → R n busy x) :
    j.Alike R may n busy j' := by
  induction j generalizing n busy j' with
  | finish result => exact ⟨h.1, hQ _ _ _ h.2⟩
  | stall | detach => exact h
  | report r next ih =>
    obtain ⟨free, r', next', rfl, same, h⟩ := h
    exact ⟨free, r', next', rfl, same, ih _ h⟩
  | clock next ih =>
    obtain ⟨free, next', rfl, h⟩ := h
    exact ⟨free, next', rfl, fun t => ih _ (h t)⟩
  | query ref next ih =>
    obtain ⟨free, next', rfl, h⟩ := h
    exact ⟨free, next', rfl, fun q => ih _ (h q)⟩
  | progress u total next ih =>
    obtain ⟨free, next', rfl, h⟩ := h
    exact ⟨free, next', rfl, fun failure => ih _ (h failure)⟩
  | launch k c next ih =>
    obtain ⟨free, allowed, next', rfl, h⟩ := h
    exact ⟨free, allowed, next', rfl, ih h⟩
  | await next ih =>
    obtain ⟨k, c, next', rfl, rfl, h⟩ := h
    exact ⟨k, c, next', rfl, rfl, fun a a' n' same spends => ih _ _ (h a a' n' same spends)⟩

/-- What jobs have to come to in front of others. -/
def AlikeBefore (Q : Nat → Option (Nat × Call) → Outcome β → Prop) (may : Prop) (f f' : α → Job β) :
    Nat → Option (Nat × Call) → Outcome α → Prop
  | n, busy, .ok a => (f a).Alike Q may n busy (f' a)
  | n, busy, .error e => Q n busy (.error e)

theorem Alike.bind {Q : Nat → Option (Nat × Call) → Outcome β → Prop} {f f' : α → Job β}
    (h : j.Alike (AlikeBefore Q may f f') may n busy j') :
    (j >>= f).Alike Q may n busy (j' >>= f') := by
  change (j.bind f).Alike Q may n busy (j'.bind f')
  induction j generalizing n busy j' with
  | finish result =>
    obtain ⟨rfl, h⟩ := h
    cases result with
    | ok a => exact h
    | error e => exact ⟨rfl, h⟩
  | stall | detach => exact h.elim
  | report r next ih =>
    obtain ⟨free, r', next', rfl, same, h⟩ := h
    exact ⟨free, r', _, rfl, same, ih _ h⟩
  | clock next ih =>
    obtain ⟨free, next', rfl, h⟩ := h
    exact ⟨free, _, rfl, fun t => ih _ (h t)⟩
  | query ref next ih =>
    obtain ⟨free, next', rfl, h⟩ := h
    exact ⟨free, _, rfl, fun q => ih _ (h q)⟩
  | progress u total next ih =>
    obtain ⟨free, next', rfl, h⟩ := h
    exact ⟨free, _, rfl, fun failure => ih _ (h failure)⟩
  | launch k c next ih =>
    obtain ⟨free, allowed, next', rfl, h⟩ := h
    exact ⟨free, allowed, _, rfl, ih h⟩
  | await next ih =>
    obtain ⟨k, c, next', rfl, rfl, h⟩ := h
    exact ⟨k, c, _, rfl, rfl, fun a a' n' same spends => ih _ _ (h a a' n' same spends)⟩

theorem Alike.attempt {Q : Nat → Option (Nat × Call) → Outcome (Outcome α) → Prop}
    (h : j.Alike (fun n busy x => Q n busy (.ok x)) may n busy j') :
    j.attempt.Alike Q may n busy j'.attempt := by
  induction j generalizing n busy j' with
  | finish result =>
    obtain ⟨rfl, h⟩ := h
    exact ⟨rfl, h⟩
  | stall | detach => exact h.elim
  | report r next ih =>
    obtain ⟨free, r', next', rfl, same, h⟩ := h
    exact ⟨free, r', _, rfl, same, ih _ h⟩
  | clock next ih =>
    obtain ⟨free, next', rfl, h⟩ := h
    exact ⟨free, _, rfl, fun t => ih _ (h t)⟩
  | query ref next ih =>
    obtain ⟨free, next', rfl, h⟩ := h
    exact ⟨free, _, rfl, fun q => ih _ (h q)⟩
  | progress u total next ih =>
    obtain ⟨free, next', rfl, h⟩ := h
    exact ⟨free, _, rfl, fun failure => ih _ (h failure)⟩
  | launch k c next ih =>
    obtain ⟨free, allowed, next', rfl, h⟩ := h
    exact ⟨free, allowed, _, rfl, ih h⟩
  | await next ih =>
    obtain ⟨k, c, next', rfl, rfl, h⟩ := h
    exact ⟨k, c, _, rfl, rfl, fun a a' n' same spends => ih _ _ (h a a' n' same spends)⟩

/-! ## The parts of jobs -/

/-- What comes after a value that may not be there. -/
theorem alike_ofOutcome_bind {x : Outcome β} {f f' : β → Job α}
    (ok : ∀ b, x = .ok b → (f b).Alike Q may n busy (f' b)) (fails : ∀ e, Q n busy (.error e)) :
    (ofOutcome x >>= f).Alike Q may n busy (ofOutcome x >>= f') := by
  cases x with
  | error e => exact ⟨rfl, fails e⟩
  | ok b => exact ok b rfl

/-- What comes after a condition, which holds then. -/
theorem alike_require_bind {holds : Bool} {p : Precondition} {f f' : Unit → Job α}
    (ok : holds = true → (f ()).Alike Q may n busy (f' ()))
    (fails : ∀ e, Q n busy (.error e)) :
    (require holds p >>= f).Alike Q may n busy (require holds p >>= f') := by
  cases holds with
  | false => exact ⟨rfl, fails _⟩
  | true => exact ok rfl

section Reports
variable {Q : Nat → Option (Nat × Call) → Outcome Unit → Prop}

theorem alike_say {r r' : Report} (same : r.SameButTime r') (h : Q n none (.ok ())) :
    (say r).Alike Q may n none (say r') := ⟨rfl, r', _, rfl, same, rfl, h⟩

theorem alike_sayAll {rs rs' : List Report} (same : List.Forall₂ Report.SameButTime rs rs')
    (h : Q n none (.ok ())) : (sayAll rs).Alike Q may n none (sayAll rs') := by
  induction same with
  | nil => exact ⟨rfl, h⟩
  | cons hr _ ih => exact Alike.bind (alike_say hr ih)

theorem alike_send {k : Nat} {c : Call} (allowed : may) (h : Q n (some (k, c)) (.ok ())) :
    (send k c).Alike Q may n none (send k c) :=
  Alike.bind (alike_say (.refl _) ⟨rfl, allowed, _, rfl, rfl, h⟩)

end Reports

/-- The reports about an outcome differ in the latency at most. -/
theorem sameButTime_settle (c : Call) (ms ms' : Float) (outcome : Outcome Response) :
    List.Forall₂ Report.SameButTime (Exchange.settle c ms outcome).2
      (Exchange.settle c ms' outcome).2 := by
  have same (rs : List Report) : List.Forall₂ Report.SameButTime rs rs :=
    List.forall₂_same.mpr fun r _ => .refl r
  have responding (r : Response) : List.Forall₂ Report.SameButTime (Exchange.responding c ms r)
      (Exchange.responding c ms' r) := .cons (.refl _) (.cons (.time ..) .nil)
  cases outcome with
  | error f => exact same _
  | ok r =>
    cases failure : Exchange.failure? r with
    | none => simpa only [Exchange.settle, failure] using responding r
    | some f =>
      simp only [Exchange.settle, failure]
      exact List.rel_append (responding r) (same _)

theorem alike_settle {Q : Nat → Option (Nat × Call) → Outcome ByteArray → Prop} (c : Call)
    {a a' : Arrival} (same : a'.outcome = a.outcome) (h : Q n none (Exchange.answer a.outcome)) :
    (settle c a).Alike Q may n none (settle c a') := by
  have parts (a : Arrival) : settle c a =
      sayAll (Exchange.settle c a.latencyMs a.outcome).2 >>= fun _ =>
        ofOutcome (Exchange.answer a.outcome) := by
    rw [← Exchange.settle_fst c a.latencyMs a.outcome]
    rfl
  rw [parts, parts, same]
  exact Alike.bind (alike_sayAll (sameButTime_settle ..) ⟨rfl, h⟩)

/-- An exchange comes to an answer, and then there are less left, or to a failure. -/
theorem alike_exchange {Q : Nat → Option (Nat × Call) → Outcome ByteArray → Prop} {c : Call}
    (allowed : may) (ok : ∀ body n', n' < n → Q n' none (.ok body))
    (fails : ∀ e n', n' ≤ n → Q n' none (.error e)) :
    (exchange c).Alike Q may n none (exchange c) := by
  refine Alike.bind (alike_send allowed ⟨0, c, _, rfl, rfl, fun a a' n' same spends => ?_⟩)
  refine alike_settle c same ?_
  cases outcome : a.outcome with
  | error f =>
    rw [outcome] at spends
    exact fails f n' (Nat.le_of_eq (Eq.symm spends))
  | ok r =>
    rw [outcome] at spends
    have less : n' < n := by
      have := show n = n' + 1 from spends
      omega
    rw [Exchange.answer]
    cases Exchange.failure? r with
    | none => exact ok _ n' less
    | some f => exact fails f n' (Nat.le_of_lt less)

theorem alike_exchangeAs {decode : Decoder α} {c : Call} (allowed : may)
    (ok : ∀ a n', n' < n → Q n' none (.ok a)) (fails : ∀ e n', n' ≤ n → Q n' none (.error e)) :
    (exchangeAs decode c).Alike Q may n none (exchangeAs decode c) := by
  refine Alike.bind (alike_exchange allowed (fun body n' less => ⟨rfl, ?_⟩) fails)
  cases Exchange.readAs decode c body with
  | error f => exact fails f n' (Nat.le_of_lt less)
  | ok a => exact ok a n' less

end Job
end Depot
