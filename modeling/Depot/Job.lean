import Depot.Http.Exchange
import Depot.Query.Basic
/-!
# Jobs

An operation of the client, as data: what it reports, which calls it launches,
and how it goes on after each answer. A job never waits for a particular call;
it takes the answers in whatever order they come. A job that ends early can leave
a part of itself behind. Running a job is the business of the worlds that can.
-/
namespace Depot

/-- What came of a call, and how long that took. -/
structure Arrival where
  outcome : Outcome Response
  latencyMs : Float

inductive Job (α : Type) where
  /-- The operation has ended. -/
  | finish (result : Outcome α)
  /-- The operation has used up the pages that it may ask for. -/
  | stall
  /-- Reports something; whoever takes the report may fail. -/
  | report (r : Report) (next : Option Failure → Job α)
  /-- Reads the clock that records expire by; what it shows may be no date. -/
  | clock (next : Option Instant → Job α)
  /-- Reads a query as it stands now. -/
  | query (ref : Nat) (next : Query → Job α)
  /-- Tells the caller how much is stored; the caller may fail. -/
  | progress (uploaded total : Nat) (next : Option Failure → Job α)
  /-- Sends a call, to be known by its ticket. -/
  | launch (ticket : Nat) (c : Call) (next : Job α)
  /-- Waits for any of the calls that are under way. -/
  | await (next : Nat → Arrival → Job α)
  /-- Leaves `rest` to itself, with the calls that are under way; it waits `most` times at most,
  and nobody hears what it comes to. -/
  | detach (most : Nat) (rest next : Job α)

namespace Job
variable {α β : Type}

def bind (j : Job α) (f : α → Job β) : Job β :=
  match j with
  | .finish (.ok a) => f a
  | .finish (.error e) => .finish (.error e)
  | .stall => .stall
  | .report r next => .report r fun e => (next e).bind f
  | .clock next => .clock fun t => (next t).bind f
  | .query ref next => .query ref fun q => (next q).bind f
  | .progress uploaded total next => .progress uploaded total fun e => (next e).bind f
  | .launch ticket c next => .launch ticket c (next.bind f)
  | .await next => .await fun ticket arrival => (next ticket arrival).bind f
  | .detach most rest next => .detach most (rest.bind fun _ => .stall) (next.bind f)

instance : Monad Job where
  pure a := .finish (.ok a)
  bind := bind

/-- The same job, whose failure is a result. -/
def attempt : Job α → Job (Outcome α)
  | .finish result => .finish (.ok result)
  | .stall => .stall
  | .report r next => .report r fun e => (next e).attempt
  | .clock next => .clock fun t => (next t).attempt
  | .query ref next => .query ref fun q => (next q).attempt
  | .progress uploaded total next => .progress uploaded total fun e => (next e).attempt
  | .launch ticket c next => .launch ticket c next.attempt
  | .await next => .await fun ticket arrival => (next ticket arrival).attempt
  | .detach most rest next => .detach most rest.attempt next.attempt

/-- A job that has ended at once. -/
def ofOutcome (result : Outcome α) : Job α := .finish result

def fail (f : Failure) : Job α := .finish (.error f)

/-- Fails unless a condition holds. -/
def require (holds : Bool) (p : Precondition) : Job Unit :=
  if holds then pure () else fail p.failure

/-- Reports something, and fails if the report is not taken. -/
def say (r : Report) : Job Unit := .report r fun failure =>
  match failure with
  | none => pure ()
  | some f => fail f

def sayAll (rs : List Report) : Job Unit := rs.forM say

/-- Reports a call and sends it. -/
def send (ticket : Nat) (c : Call) : Job Unit := do
  say (Exchange.sending c)
  .launch ticket c (pure ())

/-- Reports what came of a call, and fails unless that is a success. -/
def settle (c : Call) (a : Arrival) : Job ByteArray := do
  let (answer, reports) := Exchange.settle c a.latencyMs a.outcome
  sayAll reports
  ofOutcome answer

/-- Sends one call and waits for its answer. -/
def exchange (c : Call) : Job ByteArray := do
  send 0 c
  .await fun _ arrival => settle c arrival

/-- Sends one call and reads its answer. -/
def exchangeAs (decode : Decoder α) (c : Call) : Job α := do
  ofOutcome (Exchange.readAs decode c (← exchange c))

end Job
end Depot
