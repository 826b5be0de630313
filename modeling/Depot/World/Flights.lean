import Depot.Retry
import Depot.World.Basic
/-!
# Flights

A request is under way until its response arrives or its retries are used up.
Of all requests under way the one that is due first goes on, and time moves to
it.
-/
namespace Depot
namespace World

/-- What comes of a request, and when. -/
def answer (w : World) (r : Request) :
    Float × Outcome Response × List Desk.Move × List Prepared :=
  match w.channel, w.script with
  | .handed, [] => (0.0, .error (noResponse "MockTransport" r), [], [])
  | .handed, p :: rest => (Fetch.span p.delayMs, p.canned.outcome, p.moves, rest)
  | .network limitMs, [] =>
    let (ms, outcome) :=
      Fetch.settle (r.timeoutMs.getD limitMs) (.refuse 0.0 (noResponse "fetch" r))
    (ms, outcome, [], [])
  | .network limitMs, p :: rest =>
    let limitMs := r.timeoutMs.getD limitMs
    let moves := if Fetch.isLate limitMs p.delayMs then [] else p.moves
    let (ms, outcome) := Fetch.settle limitMs (p.canned.delivery p.delayMs p.headers)
    (ms, outcome, moves, rest)

/-- Sends the request of a flight, for the first time or once more. -/
def send (w : World) (f : Flight) : World :=
  let (ms, outcome, moves, script) := w.answer f.request
  let due := if ms == 0.0 then none else some (w.now + ms)
  let f := { f with due := due, order := w.timed, stage := .arriving outcome moves }
  { w.happen (.sent f.request) with
    script := script, timed := w.timed + 1, flights := f :: w.flights }

/-- Sends a request of a job, to be known by its ticket. -/
def launch (w : World) (job ticket : Nat) (r : Request) (policy : Option RetryPolicy) : World :=
  w.send ⟨job, ticket, r, policy, 0, w.now, none, w.timed, .resting⟩

/-- Whether a flight goes before another. -/
def isBefore (f g : Flight) : Bool :=
  match f.due, g.due with
  | none, some _ => true
  | some _, none => false
  | none, none => f.order < g.order
  | some s, some t => s < t || (s == t && f.order < g.order)

/-- The flight that goes first, and the others. -/
def first? : List Flight → Option (Flight × List Flight)
  | [] => none
  | f :: rest =>
    match first? rest with
    | none => some (f, [])
    | some (g, others) => if isBefore f g then some (f, rest) else some (g, f :: others)

/-- What a failure comes to that takes the place of a response to a request. -/
def failing (w : World) (r : Request) (f : Failure) : Failure :=
  match w.channel with
  | .handed => f
  | .network limitMs => Fetch.failure (r.timeoutMs.getD limitMs) f

/-- Moves of the caller before a response; a move that fails takes the place of the response. -/
def settleMoves (w : World) (r : Request) (outcome : Outcome Response) (moves : List Desk.Move) :
    Outcome Response × World :=
  let (failure, desk) := w.desk.playAll moves
  (failure.elim outcome fun f => .error (w.failing r f), { w with desk := desk })

/-- Waits before a flight is sent once more, unless that cannot be reported. -/
def rest (w : World) (f : Flight) (policy : RetryPolicy) (reason : String) :
    Option Failure × World :=
  let retry := f.retries + 1
  let (draw, w) := w.draw
  let delayMs := policy.delay (Float.ofNat retry) draw
  match w.report (Retry.Step.mk retry reason delayMs).report with
  | (some failure, w) => (some failure, w)
  | (none, w) =>
    let due := if w.rests then some (w.now + Fetch.span delayMs) else none
    let f := { f with retries := retry, due := due, order := w.timed, stage := .resting }
    (none, { w.happen (.slept delayMs) with timed := w.timed + 1, flights := f :: w.flights })

/-- Why a flight is sent once more after an outcome, if it is. -/
def again? (f : Flight) (outcome : Outcome Response) : Option (RetryPolicy × String) := do
  let policy ← f.policy
  let reason ← policy.again? Response.isTransient f.retries outcome
  return (policy, reason)

/-- Goes on until a request has its final outcome; at most `budget` things happen before. -/
def land : (budget : Nat) → World → Option (Flight × Outcome Response × World)
  | 0, _ => none
  | budget + 1, w =>
    match first? w.flights with
    | none => none
    | some (f, others) =>
      let now := f.due.elim w.now fun due => if w.now < due then due else w.now
      let w := { w with now := now, flights := others }
      match f.stage with
      | .resting => land budget (w.send f)
      | .arriving outcome moves =>
        let (outcome, w) := w.settleMoves f.request outcome moves
        match again? f outcome with
        | none => some (f, outcome, w)
        | some (policy, reason) =>
          match w.rest f policy reason with
          | (some failure, w) => some (f, .error failure, w)
          | (none, w) => land budget w

/-- How many things can happen to one flight. -/
def steps (w : World) (f : Flight) : Nat :=
  2 * (f.policy.elim 0 (·.limit?.getD w.script.length)) + 2

/-- Goes on until a request has its final outcome. -/
def landAny (w : World) : Option (Flight × Outcome Response × World) :=
  land ((w.flights.map w.steps).foldl (· + ·) 1) w

/-- Sends one request and waits for what comes of it. -/
def fetch (w : World) (r : Request) (policy : Option RetryPolicy) :
    Option (Outcome Response) × World :=
  match (w.launch 0 0 r policy).landAny with
  | some (_, outcome, w) => (some outcome, w)
  | none => (none, w)

end World
end Depot
