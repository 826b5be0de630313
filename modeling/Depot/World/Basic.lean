import Depot.Decode.Answers
import Depot.Job
import Depot.Query.Desk
import Depot.Report.Observer
import Depot.Transport.Canned
/-!
# Worlds

The surroundings of a client as data: a clock, an observer that takes its
reports, responses prepared for its requests, random numbers, the queries that
its caller works on, and what has happened so far. Time passes only when
everything waits for it. Times are milliseconds since the start of 1970; the
clock may show a time that is no date.
-/
namespace Depot

/-- A response that waits for its request. -/
structure Prepared where
  canned : Canned
  /-- How long after the request it arrives. -/
  delayMs : Float
  /-- The headers with which a network delivers it. -/
  headers : Table String
  /-- What the caller does to its queries just before it arrives. -/
  moves : List Desk.Move

/-- How requests get their responses. -/
inductive Channel where
  /-- The prepared responses are handed out as they are. -/
  | handed
  /-- A network delivers them, and a request without a time limit of its own has this one. -/
  | network (limitMs : Float)
  deriving Inhabited

/-- A caller that is told how much is stored, and fails at some of the amounts. -/
structure Listener where
  failsAt : List Nat
  failure : Failure

inductive Event where
  | sent (r : Request)
  | reported (r : Report)
  /-- A line went to the console. -/
  | written (line : ConsoleLine)
  | told (uploaded total : Nat)
  | slept (ms : Float)
  /-- The caller took a page. -/
  | taken (p : Page)

/-- What a request that is under way waits for. -/
inductive Stage where
  | arriving (outcome : Outcome Response) (moves : List Desk.Move)
  | resting

/-- A request that is under way. -/
structure Flight where
  /-- The number of the job that it belongs to. -/
  job : Nat
  ticket : Nat
  request : Request
  policy : Option RetryPolicy
  retries : Nat
  /-- When it was sent for the first time. -/
  began : Float
  /-- When it goes on; `none` is at once. -/
  due : Option Float
  /-- Of two flights that are due at one time, the one with the lesser number is first. -/
  order : Nat
  stage : Stage

/-- A job that was left to itself and waits for what it has under way. -/
structure Chore where
  job : Nat
  home : Endpoint
  listener : Option Listener
  /-- How often it waits at most. -/
  left : Nat
  next : Nat → Arrival → Job Unit

structure World where
  now : Float
  /-- A clock that stands still, if records expire by one. -/
  stopped : Option Float
  observer : Observer
  channel : Channel
  script : List Prepared
  /-- Random numbers, used over and over. -/
  draws : List Float
  /-- How many of them have been used. -/
  drawn : Nat
  /-- Whether the delay before a retry takes time. -/
  rests : Bool
  desk : Desk
  listener : Option Listener
  flights : List Flight
  chores : List Chore
  /-- How many jobs have been given a number. -/
  jobs : Nat
  /-- How many flights have been given a time. -/
  timed : Nat
  /-- What has happened, the latest first. -/
  past : List Event

namespace World

/-- A world in which nothing has happened yet. -/
def start (now : Float) (observer : Observer) (channel : Channel) (draws : List Float)
    (desk : Desk) : World :=
  { now := now
    stopped := none
    observer := observer
    channel := channel
    script := []
    draws := draws
    drawn := 0
    rests := true
    desk := desk
    listener := none
    flights := []
    chores := []
    jobs := 0
    timed := 0
    past := [] }

def happen (w : World) (e : Event) : World := { w with past := e :: w.past }

/-- Hands a report to the observer, who may fail to take it. -/
def report (w : World) (r : Report) : Option Failure × World :=
  match w.observer.take (Instant.ofNumber? w.now) r with
  | .ok (lines, observer) =>
    let w := { w.happen (.reported r) with observer := observer }
    (none, lines.foldl (fun w line => w.happen (.written line)) w)
  | .error f => (some f, w)

/-- The time by which records expire, if it is a date. -/
def clock (w : World) : Option Instant := Instant.ofNumber? (w.stopped.getD w.now)

/-- Prepares responses after those that are there. -/
def prepare (w : World) (responses : List Prepared) : World :=
  { w with script := w.script ++ responses }

/-- Lets time pass. -/
def pass (w : World) (ms : Float) : World := { w with now := w.now + ms }

/-- The next random number. -/
def draw (w : World) : Float × World :=
  ((w.draws[w.drawn % w.draws.length]?).getD 0.0, { w with drawn := w.drawn + 1 })

/-- The same world with its past forgotten. -/
def afresh (w : World) : World := { w with past := [] }

/-- What has happened, in its order. -/
def history (w : World) : List Event := w.past.reverse

/-- The requests that were sent. -/
def requests (w : World) : List Request :=
  w.history.filterMap fun e => match e with
    | .sent r => some r
    | _ => none

/-- What was reported. -/
def reports (w : World) : List Report :=
  w.history.filterMap fun e => match e with
    | .reported r => some r
    | _ => none

/-- The lines that went to the console. -/
def lines (w : World) : List ConsoleLine :=
  w.history.filterMap fun e => match e with
    | .written line => some line
    | _ => none

/-- The amounts that the caller was told. -/
def tellings (w : World) : List (Nat × Nat) :=
  w.history.filterMap fun e => match e with
    | .told uploaded total => some (uploaded, total)
    | _ => none

/-- The pages that the caller took one by one. -/
def pages (w : World) : List Page :=
  w.history.filterMap fun e => match e with
    | .taken p => some p
    | _ => none

/-- The delays before retries. -/
def sleeps (w : World) : List Float :=
  w.history.filterMap fun e => match e with
    | .slept ms => some ms
    | _ => none

end World
end Depot
