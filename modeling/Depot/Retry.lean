import Depot.Failure.Basic
import Depot.Number.Power
import Depot.Report.Basic
import Depot.Settings.Basic
/-!
# Retries

An operation is repeated after failures that may pass and after results that its
caller marks, as often as the policy allows. The delay grows by a factor up to a
limit, and a random share is added to it.
-/
namespace Depot
namespace RetryPolicy

/-- The delay before retry number `attempt`, for a random number from zero to one. -/
def delay (p : RetryPolicy) (attempt draw : Float) : Float :=
  let grown := Number.minimum
    (p.initialBackoffMs * Number.power p.backoffMultiplier (attempt - 1.0)) p.maxBackoffMs
  Number.floor (grown + grown * p.jitterFactor * draw)

/-- Why an outcome is worth a retry. -/
def reason? {α : Type} (marked : α → Bool) : Outcome α → Option String
  | .error f => if f.isRetryable then some f.message else none
  | .ok a => if marked a then some "retryable response" else none

/-- Why there is another retry after this outcome, if there is one. -/
def again? {α : Type} (p : RetryPolicy) (marked : α → Bool) (retries : Nat)
    (outcome : Outcome α) : Option String :=
  if p.allows retries then reason? marked outcome else none

end RetryPolicy

namespace Retry

/-- A retry that was made: its number, why, and the delay before it. -/
structure Step where
  attempt : Nat
  reason : String
  delayMs : Float

/-- What is reported before a retry. -/
def Step.report (s : Step) : Report :=
  .warn "Retrying request"
    [("attempt", .nat s.attempt), ("reason", .text s.reason), ("delayMs", .number s.delayMs)]

/-- Something that happens while an operation is repeated. -/
inductive Event where
  /-- The operation is called. -/
  | called
  /-- A retry is announced. -/
  | announced (s : Step)
  | slept (ms : Float)

/-- The retry that an event announces. -/
def Event.step? : Event → Option Step
  | .announced s => some s
  | _ => none

def Event.isCall : Event → Bool
  | .called => true
  | _ => false

/-- What repeating an operation came to, and what happened, in its order. -/
structure Run (α : Type) where
  outcome : Outcome α
  events : List Event

namespace Run
variable {α : Type}

/-- How often the operation was called. -/
def calls (r : Run α) : Nat := r.events.countP Event.isCall

/-- The retries that were announced. -/
def steps (r : Run α) : List Step := r.events.filterMap Event.step?

end Run

/--
Repeats an operation whose call number `n` has the outcome `outcomes n`; `draws n`
is the random number for retry `n + 1`. At most `budget` retries are made.
-/
def execute {α : Type} (p : RetryPolicy) (marked : α → Bool) (outcomes : Nat → Outcome α)
    (draws : Nat → Float) : (budget retries : Nat) → Run α
  | 0, retries => ⟨outcomes retries, [.called]⟩
  | budget + 1, retries =>
    match p.again? marked retries (outcomes retries) with
    | none => ⟨outcomes retries, [.called]⟩
    | some reason =>
      let delayMs := p.delay (Float.ofNat (retries + 1)) (draws retries)
      let rest := execute p marked outcomes draws budget (retries + 1)
      { rest with
        events := .called :: .announced ⟨retries + 1, reason, delayMs⟩ :: .slept delayMs ::
          rest.events }

end Retry
end Depot
