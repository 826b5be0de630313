import Depot.World.Flights
/-!
# Attempts

Which of the prepared responses a request takes in that is repeated after transient outcomes: those in
front that are transient, as many as it may be repeated, and one more. What is left without them is a
script under which no request has to be repeated.
-/
namespace Depot

/-- Whether another attempt may have another outcome. -/
def Retry.isTransient : Outcome Response → Bool
  | .error f => f.isRetryable
  | .ok r => r.isTransient

/-- The most retries under a policy, if there are limits to them; without a policy there are none. -/
def RetryPolicy.most? (policy : Option RetryPolicy) : Option Nat :=
  policy.elim (some 0) RetryPolicy.limit?

namespace Channel

/-- What a prepared response comes to, for a request with a time limit. -/
def brings (c : Channel) (timeoutMs : Option Float) (p : Prepared) : Outcome Response :=
  match c with
  | .handed => p.canned.outcome
  | .network limitMs =>
    (Fetch.settle (timeoutMs.getD limitMs) (p.canned.delivery p.delayMs p.headers)).2

/-- What a request comes to with the next prepared response, if there is one left. -/
def outcome (c : Channel) (r : Request) : Option Prepared → Outcome Response
  | some p => c.brings r.timeoutMs p
  | none =>
    match c with
    | .handed => .error (noResponse "MockTransport" r)
    | .network limitMs =>
      (Fetch.settle (r.timeoutMs.getD limitMs) (.refuse 0.0 (noResponse "fetch" r))).2

/-- Whether a request has a transient outcome with the next prepared response. That there is none left
is one on a network. -/
def isTransient (c : Channel) (timeoutMs : Option Float) : Option Prepared → Bool
  | some p => Retry.isTransient (c.brings timeoutMs p)
  | none =>
    match c with
    | .handed => false
    | .network _ => true

/-- The number of transient outcomes in front of the prepared responses, `most` at most. -/
def retries (c : Channel) (timeoutMs : Option Float) : (most : Nat) → List Prepared → Nat
  | 0, _ => 0
  | most + 1, script =>
    if c.isTransient timeoutMs script.head? then retries c timeoutMs most script.tail + 1 else 0

theorem isTransient_outcome (c : Channel) (r : Request) (p : Option Prepared) :
    Retry.isTransient (c.outcome r p) = c.isTransient r.timeoutMs p := by
  cases p with
  | some p => rfl
  | none =>
    cases c with
    | handed => rfl
    | network limitMs =>
      have now (limitMs : Float) : Fetch.isLate limitMs 0.0 = false := rfl
      have named : "Error" ≠ Fetch.abortName := by decide
      simp only [outcome, isTransient, Fetch.settle, now, noResponse, Fetch.failure, named, if_false]
      rfl

/-- Without a response that is prepared there is no answer. -/
theorem exists_outcome_none (c : Channel) (r : Request) : ∃ f, c.outcome r none = .error f := by
  cases c with
  | handed => exact ⟨_, rfl⟩
  | network limitMs =>
    simp only [outcome, Fetch.settle]
    split <;> exact ⟨_, rfl⟩

/-- Unless the channel runs out of responses, the retries are as many as there are transient outcomes
in front, and no more than are allowed. -/
theorem retries_eq_min (c : Channel) (timeoutMs : Option Float) (most : Nat) (script : List Prepared)
    (enough : c = .handed ∨ ∃ p ∈ script, Retry.isTransient (c.brings timeoutMs p) = false) :
    c.retries timeoutMs most script =
      min most (script.takeWhile fun p => Retry.isTransient (c.brings timeoutMs p)).length := by
  induction script generalizing most with
  | nil =>
    obtain rfl | ⟨p, hp, -⟩ := enough
    · cases most <;> rfl
    · cases hp
  | cons p rest ih =>
    cases most with
    | zero => simp [retries]
    | succ most =>
      rw [retries]
      simp only [List.head?_cons, isTransient, List.tail_cons, List.takeWhile_cons]
      by_cases transient : Retry.isTransient (c.brings timeoutMs p) = true
      · have others : c = .handed ∨
            ∃ p ∈ rest, Retry.isTransient (c.brings timeoutMs p) = false :=
          enough.imp_right fun ⟨q, hq, lasting⟩ => by
            refine ⟨q, (List.mem_cons.mp hq).resolve_left ?_, lasting⟩
            rintro rfl
            rw [transient] at lasting
            cases lasting
        simp only [transient, if_true, List.length_cons, Nat.succ_min_succ, ih most others]
      · simp [transient]

end Channel

/-- How requests are carried, and how often each of them may be repeated. -/
structure Persistence where
  channel : Channel
  timeoutMs : Option Float
  most : Nat

namespace Persistence
variable (p : Persistence)

/-- Requests to this endpoint are repeated in this way. -/
structure Covers (e : Endpoint) : Prop where
  most : RetryPolicy.most? e.retry = some p.most
  timeoutMs : p.timeoutMs = some e.timeoutMs

/-- The number of times that the next request is repeated. -/
def retries (script : List Prepared) : Nat := p.channel.retries p.timeoutMs p.most script

/-- The prepared responses without those after which a request is repeated, if the next one may be
repeated `left` times more. -/
def thin : (left : Nat) → List Prepared → List Prepared
  | _, [] => []
  | 0, x :: rest => x :: thin p.most rest
  | left + 1, x :: rest =>
    if Retry.isTransient (p.channel.brings p.timeoutMs x) then thin left rest
    else x :: thin p.most rest

/-- The prepared responses without those after which a request is repeated. -/
def thinned (script : List Prepared) : List Prepared := p.thin p.most script

/-- The prepared responses that are left after so many requests, however often they are repeated. -/
def remaining : List Prepared → (count : Nat) → List Prepared
  | script, 0 => script
  | script, count + 1 => remaining (script.drop (p.retries script + 1)) count

/-- The requests that are sent, each as often as it is repeated and once more. -/
def repeated : List Prepared → List Request → List Request
  | _, [] => []
  | script, r :: rest =>
    List.replicate (p.retries script + 1) r ++ repeated (script.drop (p.retries script + 1)) rest

/-- The first response that is kept is the one that the next request ends with, and the others are
those of the requests after it. -/
theorem thin_eq (left : Nat) (script : List Prepared) : p.thin left script =
    (script.drop (p.channel.retries p.timeoutMs left script)).head?.toList ++
      p.thinned (script.drop (p.channel.retries p.timeoutMs left script + 1)) := by
  induction script generalizing left with
  | nil =>
    have nothing (left : Nat) : p.thin left [] = [] := by cases left <;> rfl
    simp [thinned, nothing]
  | cons x rest ih =>
    cases left with
    | zero => rfl
    | succ left =>
      have first : p.channel.isTransient p.timeoutMs (x :: rest).head? =
          Retry.isTransient (p.channel.brings p.timeoutMs x) := rfl
      rw [thin, Channel.retries, first]
      cases Retry.isTransient (p.channel.brings p.timeoutMs x) with
      | false => rfl
      | true => simpa using ih left

theorem head?_thinned (script : List Prepared) :
    (p.thinned script).head? = (script.drop (p.retries script)).head? := by
  rw [thinned, thin_eq, retries]
  cases left : script.drop (p.channel.retries p.timeoutMs p.most script) with
  | nil =>
    rw [← List.drop_drop, left]
    cases p.most <;> rfl
  | cons x rest => rfl

theorem tail_thinned (script : List Prepared) :
    (p.thinned script).tail = p.thinned (script.drop (p.retries script + 1)) := by
  rw [thinned, thin_eq, retries]
  cases left : script.drop (p.channel.retries p.timeoutMs p.most script) with
  | nil =>
    rw [← List.drop_drop, left]
    cases p.most <;> rfl
  | cons x rest => rfl

theorem thin_sublist (left : Nat) (script : List Prepared) : (p.thin left script).Sublist script := by
  induction script generalizing left with
  | nil => cases left <;> exact .refl _
  | cons x rest ih =>
    have kept := (ih p.most).cons_cons x
    cases left with
    | zero => exact kept
    | succ left =>
      rw [thin]
      split
      · exact (ih left).cons x
      · exact kept

theorem remaining_add (script : List Prepared) (m n : Nat) :
    p.remaining script (m + n) = p.remaining (p.remaining script m) n := by
  induction m generalizing script with
  | zero => rw [Nat.zero_add, remaining]
  | succ m ih =>
    rw [Nat.succ_add, remaining, remaining]
    exact ih _

theorem repeated_append (script : List Prepared) (rs rs' : List Request) :
    p.repeated script (rs ++ rs') =
      p.repeated script rs ++ p.repeated (p.remaining script rs.length) rs' := by
  induction rs generalizing script with
  | nil => rfl
  | cons r rest ih =>
    rw [List.cons_append, repeated, repeated, ih, List.append_assoc]
    rfl

end Persistence
end Depot
