import Depot.World.Flights
/-!
# Running jobs

A world runs a job for one endpoint: it takes what the job reports, sends what
it launches, and hands back what arrives first. A job that was left to itself goes
on whenever a request of its own has settled while another job waits.
-/
namespace Depot
namespace World

/-- The failure of a caller that is told an amount. -/
def refusal? (listener : Option Listener) (uploaded : Nat) : Option Failure :=
  listener.bind fun l => if l.failsAt.contains uploaded then some l.failure else none

/-- Tells the caller how much is stored, if it wants to know; the failure is the caller's. -/
def tell (w : World) (uploaded total : Nat) : Option Failure × World :=
  (refusal? w.listener uploaded,
    if w.listener.isSome then w.happen (.told uploaded total) else w)

/-- The same world with one more job in it, which has the next number. -/
def withJob (w : World) : World := { w with jobs := w.jobs + 1 }

/-- Lets a job that was left to itself go on until it waits; `c` tells whose it is. -/
def goOn (c : Chore) : Job Unit → World → World
  | .finish _, w => w
  | .stall, w => w
  | .report r next, w =>
    let (failure, w) := w.report r
    goOn c (next failure) w
  | .clock next, w => goOn c (next w.clock) w
  | .query ref next, w => goOn c (next (w.desk.queryAt ref)) w
  | .progress uploaded _ next, w => goOn c (next (refusal? c.listener uploaded)) w
  | .launch ticket call next, w =>
    goOn c next (w.launch c.job ticket (c.home.request call) c.home.retry)
  | .await next, w => { w with chores := { c with next := next } :: w.chores }
  | .detach most rest next, w =>
    let w := goOn { c with left := most } rest w
    goOn { c with job := w.jobs } next w.withJob

/-- Hands an arrival to the job that was left to itself with the request. -/
def handOver (w : World) (f : Flight) (outcome : Outcome Response) : World :=
  match w.chores.find? (·.job = f.job) with
  | none => w
  | some c =>
    goOn { c with left := c.left - 1 } (c.next f.ticket ⟨outcome, w.now - f.began⟩)
      { w with chores := w.chores.filter (·.job ≠ f.job) }

/-- Waits for a request of a job; at most `budget` requests of others settle before. -/
def awaitWithin (job : Nat) : (budget : Nat) → World → Option (Flight × Outcome Response × World)
  | 0, _ => none
  | budget + 1, w =>
    match w.landAny with
    | none => none
    | some (f, outcome, w) =>
      if f.job = job then some (f, outcome, w) else awaitWithin job budget (w.handOver f outcome)

/-- Waits for a request of a job. -/
def awaitAny (w : World) (job : Nat) : Option (Flight × Outcome Response × World) :=
  awaitWithin job ((w.chores.map Chore.left).foldl (· + ·) 1) w

/-- Runs a job with what it has under way. There is no result if the job does not end. -/
def runOn {α : Type} (e : Endpoint) (job : Nat) : Job α → World → Option (Outcome α) × World
  | .finish result, w => (some result, w)
  | .stall, w => (none, w)
  | .report r next, w =>
    let (failure, w) := w.report r
    runOn e job (next failure) w
  | .clock next, w => runOn e job (next w.clock) w
  | .query ref next, w => runOn e job (next (w.desk.queryAt ref)) w
  | .progress uploaded total next, w =>
    let (failure, w) := w.tell uploaded total
    runOn e job (next failure) w
  | .launch ticket c next, w => runOn e job next (w.launch job ticket (e.request c) e.retry)
  | .await next, w =>
    match w.awaitAny job with
    | none => (none, w)
    | some (f, outcome, w) => runOn e job (next f.ticket ⟨outcome, w.now - f.began⟩) w
  | .detach most rest next, w =>
    let c : Chore := ⟨job, e, w.listener, most, fun _ _ => .stall⟩
    let w := goOn c (rest.bind fun _ => .stall) w
    runOn e w.jobs next w.withJob

/-- Runs a job. What it still has under way when it has ended is given up, unless it has left it
to a part of itself. -/
def run {α : Type} (w : World) (e : Endpoint) (j : Job α) : Option (Outcome α) × World :=
  let (result, w) := runOn e w.jobs j w.withJob
  (result, { w with flights := w.flights.filter fun f => w.chores.any (·.job = f.job) })

end World
end Depot
