import Depot.Proofs.Exchange
/-!
# Jobs that ask once

A job that fails at once does nothing but to fail. A job that asks once sends one call, waits for the
answer, and ends without another call; what it comes to is told by the answer. As with what a job
keeps, the rules follow the parts of a job.
-/
namespace Depot

/-- What a job comes to whose only call has this outcome: it fails as the call does, or as the status
of the response says, or because the body is not what was asked for. -/
inductive Exchange.Brings {α : Type} : Outcome Response → Outcome α → Prop where
  | failed (f : Failure) : Brings (.error f) (.error f)
  | rejected {r : Response} (unsuccessful : r.isSuccess = false) :
    Brings (.ok r) (.error (.ofStatus r.status r.statusText (namedErrors r.body)))
  | unreadable {r : Response} (success : r.isSuccess = true) (message : String)
      (details : Option Fields) : Brings (.ok r) (.error (.serialization message none details))
  | read {r : Response} (success : r.isSuccess = true) (a : α) : Brings (.ok r) (.ok a)

namespace Exchange
variable {α β : Type} {outcome : Outcome Response}

theorem Brings.map_error {f : Failure} (h : Brings outcome (.error f : Outcome α)) :
    Brings outcome (.error f : Outcome β) := by
  cases h with
  | failed => exact .failed f
  | rejected unsuccessful => exact .rejected unsuccessful
  | unreadable success message details => exact .unreadable success message details

theorem Brings.map_ok {a : α} (h : Brings outcome (.ok a)) (b : β) : Brings outcome (.ok b) := by
  cases h with
  | read success => exact .read success b

theorem brings_answer (outcome : Outcome Response) : Brings outcome (answer outcome) := by
  cases outcome with
  | error f => exact .failed f
  | ok r =>
    rw [answer, failure?]
    cases success : r.isSuccess with
    | true => exact .read success r.body
    | false => exact .rejected success

theorem brings_answerAs (decode : Decoder α) (c : Call) (outcome : Outcome Response) :
    Brings outcome (answerAs decode c outcome) := by
  have brought := brings_answer outcome
  cases answered : answer outcome with
  | error f =>
    rw [answered] at brought
    rw [answerAs_of_error answered]
    exact brought.map_error
  | ok body =>
    rw [answered] at brought
    have reads : answerAs decode c outcome = readAs decode c body := by
      rw [answerAs, answered]
      rfl
    rw [reads]
    cases read : readAs decode c body with
    | ok a => exact brought.map_ok a
    | error f =>
      obtain ⟨message, details, rfl⟩ := readAs_error read
      cases brought with
      | read success => exact .unreadable success message details

end Exchange

namespace Job
variable {α β : Type}

/-- Whatever the job reads, it does nothing else but to fail like this. -/
def FailsAtOnce (f : Failure) : Job α → Prop
  | .finish result => result = .error f
  | .clock next => ∀ t, (next t).FailsAtOnce f
  | .query _ next => ∀ q, (next q).FailsAtOnce f
  | _ => False

/-- The job ends without a call if what it reports is taken, and `Q` holds of what it comes to. -/
def EndsIn (Q : Outcome α → Prop) : Job α → Prop
  | .finish result => Q result
  | .report _ next => (next none).EndsIn Q
  | .clock next => ∀ t, (next t).EndsIn Q
  | .query _ next => ∀ q, (next q).EndsIn Q
  | .progress _ _ next => ∀ failure, (next failure).EndsIn Q
  | _ => False

/-- The job sends one call if what it reports is taken, and ends after the answer as that tells. -/
def AsksOnce : Job α → Prop
  | .report _ next => (next none).AsksOnce
  | .clock next => ∀ t, (next t).AsksOnce
  | .query _ next => ∀ q, (next q).AsksOnce
  | .launch k _ (.await next) => ∀ a, (next k a).EndsIn (Exchange.Brings a.outcome)
  | _ => False

variable {j : Job α} {Q : Outcome β → Prop} {R : Outcome α → Prop} {f : α → Job β}

theorem EndsIn.bind (h : j.EndsIn R) (ok : ∀ a, R (.ok a) → (f a).EndsIn Q)
    (error : ∀ e, R (.error e) → Q (.error e)) : (j >>= f).EndsIn Q := by
  change (j.bind f).EndsIn Q
  induction j with
  | finish result =>
    cases result with
    | ok a => exact ok a h
    | error e => exact error e h
  | report r next ih => exact ih none h
  | clock next ih => exact fun t => ih t (h t)
  | query ref next ih => exact fun q => ih q (h q)
  | progress u n next ih => exact fun failure => ih failure (h failure)
  | stall | launch | await | detach => exact h.elim

theorem EndsIn.mono {R' : Outcome α → Prop} (h : j.EndsIn R) (imp : ∀ result, R result → R' result) :
    j.EndsIn R' := by
  induction j with
  | finish result => exact imp result h
  | report r next ih => exact ih none h
  | clock next ih => exact fun t => ih t (h t)
  | query ref next ih => exact fun q => ih q (h q)
  | progress u n next ih => exact fun failure => ih failure (h failure)
  | stall | launch | await | detach => exact h.elim

/-- A job that goes on after one that ends well. -/
theorem EndsIn.andThen {a : α} (h : j.EndsIn (· = .ok a)) (next : (f a).EndsIn Q) :
    (j >>= f).EndsIn Q := by
  apply h.bind
  · intro b same
    cases same
    exact next
  · intro e same
    cases same

theorem endsIn_say (r : Report) : (say r).EndsIn (· = .ok ()) := rfl

theorem endsIn_sayAll (rs : List Report) : (sayAll rs).EndsIn (· = .ok ()) := by
  induction rs with
  | nil => rfl
  | cons r rest ih => exact (endsIn_say r).andThen ih

theorem endsIn_settle (c : Call) (a : Arrival) :
    (settle c a).EndsIn (· = Exchange.answer a.outcome) := by
  have parts : settle c a = sayAll (Exchange.settle c a.latencyMs a.outcome).2 >>= fun _ =>
      ofOutcome (Exchange.settle c a.latencyMs a.outcome).1 := rfl
  rw [parts, Exchange.settle_fst]
  exact (endsIn_sayAll _).andThen rfl

theorem endsIn_settleAs (decode : Decoder α) (c : Call) (a : Arrival) :
    (settle c a >>= fun body => ofOutcome (Exchange.readAs decode c body)).EndsIn
      (· = Exchange.answerAs decode c a.outcome) := by
  apply (endsIn_settle c a).bind
  · intro body answered
    rw [Exchange.answerAs, ← answered]
    rfl
  · intro e answered
    exact (Exchange.answerAs_of_error answered.symm).symm

theorem asksOnce_exchange (c : Call) : (exchange c).AsksOnce := by
  have settles (a : Arrival) : (settle c a).EndsIn (Exchange.Brings a.outcome) := by
    apply (endsIn_settle c a).mono
    rintro _ rfl
    exact Exchange.brings_answer a.outcome
  exact settles

/-- What follows the only call comes to a result once the answer is read. -/
theorem asksOnce_exchangeAs_bind (decode : Decoder α) (c : Call)
    (ends : ∀ a, (f a).EndsIn fun result => ∃ b, result = .ok b) :
    (exchangeAs decode c >>= f).AsksOnce := by
  have settles (a : Arrival) :
      ((settle c a >>= fun body => ofOutcome (Exchange.readAs decode c body)) >>= f).EndsIn
        (Exchange.Brings a.outcome) := by
    have brought := Exchange.brings_answerAs decode c a.outcome
    apply (endsIn_settleAs decode c a).bind
    · intro x read
      rw [← read] at brought
      apply (ends x).mono
      rintro _ ⟨b, rfl⟩
      exact brought.map_ok b
    · intro e unread
      rw [← unread] at brought
      exact brought.map_error
  exact settles

theorem asksOnce_exchangeAs (decode : Decoder α) (c : Call) : (exchangeAs decode c).AsksOnce := by
  have settles (a : Arrival) :
      (settle c a >>= fun body => ofOutcome (Exchange.readAs decode c body)).EndsIn
        (Exchange.Brings a.outcome) := by
    apply (endsIn_settleAs decode c a).mono
    rintro _ rfl
    exact Exchange.brings_answerAs decode c a.outcome
  exact settles

end Job
end Depot
