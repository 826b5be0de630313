import Depot.Proofs.Session.Recast
/-!
# Requests in disguise

A client in the place of another whose requests are those of the first, but for something that no
transport looks at. A world treats both alike: whatever it does, it does in disguise.
-/
namespace Depot

/-- Another client whose requests are changed in something that does not matter to a world. -/
structure Disguise extends Recast where
  sent : Request → Request
  request : ∀ e c, (home e).request c = sent (e.request c)
  retry : ∀ e, (home e).retry = e.retry
  method : ∀ r, (sent r).method = r.method
  url : ∀ r, (sent r).url = r.url
  timeoutMs : ∀ r, (sent r).timeoutMs = r.timeoutMs

namespace Disguise
variable (d : Disguise)

def flight (f : Flight) : Flight := { f with request := d.sent f.request }

def event : Event → Event
  | .sent r => .sent (d.sent r)
  | e => e

def chore (c : Chore) : Chore := { c with home := d.home c.home }

def world (w : World) : World :=
  { w with
    desk := d.desk w.desk
    flights := w.flights.map d.flight
    chores := w.chores.map d.chore
    past := w.past.map d.event }

/-- What has landed, in disguise. -/
def landed (x : Flight × Outcome Response × World) : Flight × Outcome Response × World :=
  (d.flight x.1, x.2.1, d.world x.2.2)

variable (w : World)

theorem report_world (r : Report) :
    (d.world w).report r = ((w.report r).1, d.world (w.report r).2) := by
  have lines (w : World) (written : List ConsoleLine) :
      written.foldl (fun w line => w.happen (.written line)) (d.world w) =
        d.world (written.foldl (fun w line => w.happen (.written line)) w) := by
    induction written generalizing w with
    | nil => rfl
    | cons line rest ih => exact ih (w.happen (.written line))
  have same : (d.world w).observer.take (Instant.ofNumber? (d.world w).now) r =
      w.observer.take (Instant.ofNumber? w.now) r := rfl
  rw [World.report, World.report, same]
  cases w.observer.take (Instant.ofNumber? w.now) r with
  | error f => rfl
  | ok taken =>
    exact congrArg (none, ·) (lines { w.happen (.reported r) with observer := taken.2 } taken.1)

theorem tell_world (uploaded total : Nat) :
    (d.world w).tell uploaded total = ((w.tell uploaded total).1,
      d.world (w.tell uploaded total).2) := by
  rw [World.tell, World.tell]
  have same : (d.world w).listener = w.listener := rfl
  rw [same]
  cases w.listener.isSome <;> rfl

theorem answer_world (r : Request) : (d.world w).answer (d.sent r) = w.answer r := by
  have channel : (d.world w).channel = w.channel := rfl
  have script : (d.world w).script = w.script := rfl
  have none_left (transport : String) : noResponse transport (d.sent r) = noResponse transport r := by
    rw [noResponse, noResponse, d.method, d.url]
  rw [World.answer, World.answer, channel, script, d.timeoutMs]
  cases w.channel <;> cases w.script <;> simp only [none_left]

theorem send_world (f : Flight) : (d.world w).send (d.flight f) = d.world (w.send f) := by
  have answer : (d.world w).answer (d.flight f).request = w.answer f.request :=
    d.answer_world w f.request
  unfold World.send
  rw [answer]
  rcases w.answer f.request with ⟨ms, outcome, moves, script⟩
  rfl

theorem launch_world (job ticket : Nat) (e : Endpoint) (c : Call) :
    (d.world w).launch job ticket ((d.home e).request c) (d.home e).retry =
      d.world (w.launch job ticket (e.request c) e.retry) := by
  rw [d.request, d.retry]
  exact d.send_world w ⟨job, ticket, e.request c, e.retry, 0, w.now, none, w.timed, .resting⟩

theorem first?_map (flights : List Flight) : World.first? (flights.map d.flight) =
    (World.first? flights).map fun x => (d.flight x.1, x.2.map d.flight) := by
  induction flights with
  | nil => rfl
  | cons f rest ih =>
    rw [List.map_cons, World.first?, World.first?, ih]
    cases World.first? rest with
    | none => rfl
    | some found =>
      have before : World.isBefore (d.flight f) (d.flight found.1) = World.isBefore f found.1 := rfl
      simp only [Option.map_some, before]
      cases World.isBefore f found.1 <;> rfl

theorem settleMoves_world (r : Request) (outcome : Outcome Response) (moves : List Desk.Move) :
    (d.world w).settleMoves (d.sent r) outcome moves =
      ((w.settleMoves r outcome moves).1, d.world (w.settleMoves r outcome moves).2) := by
  have failing (f : Failure) : (d.world w).failing (d.sent r) f = w.failing r f := by
    have channel : (d.world w).channel = w.channel := rfl
    rw [World.failing, World.failing, channel, d.timeoutMs]
  have desk : (d.world w).desk = d.desk w.desk := rfl
  rw [World.settleMoves, World.settleMoves, desk, d.playAll_desk]
  simp only [failing]
  rfl

theorem draw_world : (d.world w).draw = (w.draw.1, d.world w.draw.2) := rfl

theorem rest_world (f : Flight) (policy : RetryPolicy) (reason : String) :
    (d.world w).rest (d.flight f) policy reason =
      ((w.rest f policy reason).1, d.world (w.rest f policy reason).2) := by
  have retries : (d.flight f).retries = f.retries := rfl
  simp only [World.rest, draw_world, report_world, retries]
  rcases w.draw.2.report _ with ⟨failure, w'⟩
  cases failure <;> rfl

theorem land_world (budget : Nat) : World.land budget (d.world w) =
    (World.land budget w).map d.landed := by
  induction budget generalizing w with
  | zero => rfl
  | succ budget ih =>
    have flights : (d.world w).flights = w.flights.map d.flight := rfl
    rw [World.land, World.land, flights, first?_map]
    rcases World.first? w.flights with _ | ⟨f, others⟩
    · rfl
    have now : (d.world w).now = w.now := rfl
    have due : (d.flight f).due = f.due := rfl
    have stage : (d.flight f).stage = f.stage := rfl
    have clocked (now : Float) :
        { d.world w with now := now, flights := others.map d.flight } =
          d.world { w with now := now, flights := others } := rfl
    simp only [Option.map_some, now, due, stage, clocked]
    generalize { w with now := _, flights := others } = w
    cases f.stage with
    | resting => simp only [send_world, ih]
    | arriving outcome moves =>
      have request : (d.flight f).request = d.sent f.request := rfl
      have again (o : Outcome Response) : World.again? (d.flight f) o = World.again? f o := rfl
      simp only [request, settleMoves_world, again]
      rcases w.settleMoves f.request outcome moves with ⟨outcome, w⟩
      rcases World.again? f outcome with _ | ⟨policy, reason⟩
      · rfl
      simp only [rest_world]
      rcases w.rest f policy reason with ⟨_ | failure, w⟩
      · exact ih w
      · rfl

theorem landAny_world : (d.world w).landAny = w.landAny.map d.landed := by
  have steps : (d.world w).flights.map (d.world w).steps = w.flights.map w.steps :=
    List.map_map ..
  rw [World.landAny, World.landAny, steps, land_world]

theorem goOn_world (c : Chore) (j : Job Unit) :
    World.goOn (d.chore c) j (d.world w) = d.world (World.goOn c j w) := by
  induction j generalizing c w with
  | finish result | stall => rfl
  | report r next ih =>
    simp only [World.goOn, report_world]
    exact ih _ _ _
  | clock next ih => exact ih _ w c
  | query ref next ih =>
    have query : (d.world w).desk.queryAt ref = w.desk.queryAt ref := d.queryAt_desk w.desk ref
    simp only [World.goOn, query]
    exact ih _ w c
  | progress u n next ih => exact ih _ w c
  | launch k call next ih =>
    have home : (d.chore c).home = d.home c.home := rfl
    simp only [World.goOn, home, launch_world]
    exact ih _ c
  | await next => rfl
  | detach most rest next ihr ih =>
    have left : { d.chore c with left := most } = d.chore { c with left := most } := rfl
    simp only [World.goOn, left, ihr]
    generalize World.goOn { c with left := most } rest w = w
    exact ih w.withJob { c with job := w.jobs }

theorem handOver_world (f : Flight) (outcome : Outcome Response) :
    (d.world w).handOver (d.flight f) outcome = d.world (w.handOver f outcome) := by
  have chores : (d.world w).chores = w.chores.map d.chore := rfl
  have found : (w.chores.map d.chore).find? (·.job = (d.flight f).job) =
      (w.chores.find? (·.job = f.job)).map d.chore := List.find?_map ..
  have others : (w.chores.map d.chore).filter (·.job ≠ (d.flight f).job) =
      (w.chores.filter (·.job ≠ f.job)).map d.chore := List.filter_map ..
  rw [World.handOver, World.handOver, chores, found, others]
  cases w.chores.find? (·.job = f.job) with
  | none => rfl
  | some c =>
    exact d.goOn_world { w with chores := w.chores.filter (·.job ≠ f.job) }
      { c with left := c.left - 1 } (c.next f.ticket ⟨outcome, w.now - f.began⟩)

theorem awaitWithin_world (job budget : Nat) : World.awaitWithin job budget (d.world w) =
    (World.awaitWithin job budget w).map d.landed := by
  induction budget generalizing w with
  | zero => rfl
  | succ budget ih =>
    rw [World.awaitWithin, World.awaitWithin, landAny_world]
    rcases w.landAny with _ | ⟨f, outcome, w⟩
    · rfl
    have mine : (d.flight f).job = f.job := rfl
    simp only [Option.map_some, landed, mine, handOver_world, ih]
    split <;> rfl

theorem awaitAny_world (job : Nat) : (d.world w).awaitAny job = (w.awaitAny job).map d.landed := by
  have left : (d.world w).chores.map Chore.left = w.chores.map Chore.left := List.map_map ..
  rw [World.awaitAny, World.awaitAny, left, awaitWithin_world]

theorem runOn_world {α : Type} (e : Endpoint) (job : Nat) (j : Job α) :
    World.runOn (d.home e) job j (d.world w) =
      ((World.runOn e job j w).1, d.world (World.runOn e job j w).2) := by
  induction j generalizing job w with
  | finish result | stall => rfl
  | report r next ih =>
    simp only [World.runOn, report_world]
    exact ih _ _ _
  | clock next ih => exact ih _ w job
  | query ref next ih =>
    have query : (d.world w).desk.queryAt ref = w.desk.queryAt ref := d.queryAt_desk w.desk ref
    simp only [World.runOn, query]
    exact ih _ w job
  | progress u n next ih =>
    simp only [World.runOn, tell_world]
    exact ih _ _ job
  | launch k call next ih =>
    simp only [World.runOn, launch_world]
    exact ih _ job
  | await next ih =>
    simp only [World.runOn, awaitAny_world]
    rcases w.awaitAny job with _ | ⟨f, outcome, w⟩
    · rfl
    · exact ih _ _ w job
  | detach most rest next ihr ih =>
    have left : World.goOn ⟨job, d.home e, (d.world w).listener, most, fun _ _ => .stall⟩
        (rest.bind fun _ => .stall) (d.world w) =
        d.world (World.goOn ⟨job, e, w.listener, most, fun _ _ => .stall⟩
          (rest.bind fun _ => .stall) w) := d.goOn_world w ⟨job, e, w.listener, most, _⟩ _
    simp only [World.runOn, left]
    generalize World.goOn _ _ w = w
    exact ih w.withJob w.jobs

theorem run_world {α : Type} (e : Endpoint) (j : Job α) :
    (d.world w).run (d.home e) j = ((w.run e j).1, d.world (w.run e j).2) := by
  have numbered : (d.world w).withJob = d.world w.withJob := rfl
  have jobs : (d.world w).jobs = w.jobs := rfl
  rw [World.run, World.run, numbered, jobs, runOn_world]
  rcases World.runOn e w.jobs j w.withJob with ⟨result, w⟩
  have waiting (f : Flight) : (d.world w).chores.any (·.job = (d.flight f).job) =
      w.chores.any (·.job = f.job) := List.any_map ..
  have kept : (d.world w).flights.filter (fun f => (d.world w).chores.any (·.job = f.job)) =
      (w.flights.filter fun f => w.chores.any (·.job = f.job)).map d.flight := by
    refine (List.filter_map ..).trans ?_
    simp only [Function.comp_def, waiting]
  simp only [kept]
  rfl

end Disguise
end Depot
