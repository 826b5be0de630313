import Depot.Proofs.World.Attempts
import Depot.Proofs.World.Reporting
/-!
# Repeated requests

What becomes of a request that is repeated, in a world with nothing else under way: it is sent once
more after each transient outcome, as often as its policy allows, and the outcome that ends this is
its outcome. Nobody can see the others but who sees the requests.
-/
namespace Depot

namespace World
variable {w w₁ w₂ : World}

theorem answer_eq (w : World) (r : Request) (calm : ∀ p ∈ w.script, p.moves = []) :
    ∃ ms, w.answer r = (ms, w.channel.outcome r w.script.head?, [], w.script.tail) := by
  rw [answer]
  cases script : w.script with
  | nil => cases w.channel <;> exact ⟨_, rfl⟩
  | cons p rest =>
    have still : p.moves = [] := calm p (script ▸ List.mem_cons_self ..)
    cases w.channel with
    | handed => exact ⟨_, by simp only [still]; rfl⟩
    | network limitMs => exact ⟨_, by simp only [still, ite_self]; rfl⟩

/-- From one world to another nothing happens that a caller, a counter or a job could see, but requests
are sent, and time may pass. -/
structure OnlySends (w w₁ : World) (rs : List Request) : Prop where
  after : w.NotAfter w₁
  takes : w.observer.logger.TakesAll → w₁.observer.logger.TakesAll
  meter : w₁.observer.meter = w.observer.meter
  desk : w₁.desk = w.desk
  listener : w₁.listener = w.listener
  channel : w₁.channel = w.channel
  stopped : w₁.stopped = w.stopped
  chores : w₁.chores = w.chores
  requests : w₁.requests = w.requests ++ rs
  tellings : w₁.tellings = w.tellings
  pages : w₁.pages = w.pages

theorem OnlySends.trans {rs rs' : List Request} (h : w.OnlySends w₁ rs) (h' : w₁.OnlySends w₂ rs') :
    w.OnlySends w₂ (rs ++ rs') where
  after := h.after.trans h'.after
  takes := h'.takes ∘ h.takes
  meter := h'.meter.trans h.meter
  desk := h'.desk.trans h.desk
  listener := h'.listener.trans h.listener
  channel := h'.channel.trans h.channel
  stopped := h'.stopped.trans h.stopped
  chores := h'.chores.trans h.chores
  requests := by rw [h'.requests, h.requests, List.append_assoc]
  tellings := h'.tellings.trans h.tellings
  pages := h'.pages.trans h.pages

theorem OnlySends.takesUntil {rs : List Request} {last : World} (h : w.OnlySends w₁ rs)
    (takes : w.TakesUntil last) (later : w₁.NotAfter last) : w₁.TakesUntil last :=
  takes.onward h.takes h.after later

/-- Nobody but the logger hears of an entry. -/
theorem Heard.onlySends {entry : LogEntry} (h : w.Heard (.log entry) w₁) : w.OnlySends w₁ [] := by
  obtain ⟨observer, past, rfl⟩ := h.same
  exact
    { after := .of_eq rfl
      takes := h.takes
      meter := h.meter
      desk := rfl
      listener := rfl
      channel := rfl
      stopped := rfl
      chores := rfl
      requests := h.requests.trans (List.append_nil _).symm
      tellings := h.tellings
      pages := h.pages }

/-- A request rests before it is sent once more, unless that cannot be reported. -/
theorem rest_cases (w : World) (f : Flight) (policy : RetryPolicy) (reason : String) :
    (∃ failure w', w.rest f policy reason = (some failure, w') ∧ ¬ w.TakesReports) ∨
      ∃ observer past drawn due w₁, w.rest f policy reason = (none, w₁) ∧ w.OnlySends w₁ [] ∧
        w₁ = { w with
          observer := observer
          past := past
          drawn := drawn
          timed := w.timed + 1
          flights := { f with
            retries := f.retries + 1
            due := due
            order := w.timed
            stage := .resting } :: w.flights } := by
  have entry (step : Retry.Step) : ∃ entry, step.report = .log entry := ⟨_, rfl⟩
  obtain ⟨entry, logged⟩ := entry
    ⟨f.retries + 1, reason, policy.delay (Float.ofNat (f.retries + 1)) w.draw.1⟩
  simp only [rest, logged]
  rcases report_cases w.draw.2 (.log entry) with ⟨failure, refused, never⟩ | ⟨w₁, taken, heard⟩
  · rw [refused]
    exact .inl ⟨failure, _, rfl, never⟩
  · have sends : w.OnlySends w₁ [] := { heard.onlySends with }
    obtain ⟨observer, past, rfl⟩ := heard.same
    rw [taken]
    refine .inr ⟨_, _, _, _, _, rfl, ?_, rfl⟩
    exact
      { sends with
        requests := by simpa [requests, history, happen] using sends.requests
        tellings := by simpa [tellings, history, happen] using sends.tellings
        pages := by simpa [pages, history, happen] using sends.pages }

theorem send_eq (f : Flight) (calm : ∀ p ∈ w.script, p.moves = []) :
    ∃ due order, (w.send f).flights =
        { f with
          due := due
          order := order
          stage := .arriving (w.channel.outcome f.request w.script.head?) [] } :: w.flights ∧
      w.OnlySends (w.send f) [f.request] ∧ (w.send f).script = w.script.tail := by
  obtain ⟨ms, answered⟩ := w.answer_eq f.request calm
  have sent : w.send f =
      { w.happen (.sent f.request) with
        script := w.script.tail
        timed := w.timed + 1
        flights :=
          { f with
            due := if ms == 0.0 then none else some (w.now + ms)
            order := w.timed
            stage := .arriving (w.channel.outcome f.request w.script.head?) [] } :: w.flights } := by
    rw [send, answered]
  rw [sent]
  refine ⟨_, _, rfl, ?_, rfl⟩
  exact
    { after := .of_eq rfl
      takes := id
      meter := rfl
      desk := rfl
      listener := rfl
      channel := rfl
      stopped := rfl
      chores := rfl
      requests := by simp [requests, history, happen]
      tellings := by simp [tellings, history, happen]
      pages := by simp [pages, history, happen] }

/-- A request is repeated after a transient outcome while there are retries left. -/
theorem again?_eq {f : Flight} {left : Nat}
    (most : RetryPolicy.most? f.policy = some (f.retries + left)) (outcome : Outcome Response) :
    if left ≠ 0 ∧ Retry.isTransient outcome then ∃ again, again? f outcome = some again
    else again? f outcome = none := by
  cases policy : f.policy with
  | none =>
    have none_left : left = 0 := by
      rw [policy] at most
      have := Option.some.inj most
      omega
    rw [if_neg (fun h => h.1 none_left), again?, policy]
    rfl
  | some p =>
    have limit : p.limit? = some (f.retries + left) := by rwa [policy] at most
    have reason : p.again? Response.isTransient f.retries outcome =
        if left ≠ 0 then RetryPolicy.reason? Response.isTransient outcome else none := by
      rw [RetryPolicy.again?, RetryPolicy.allows, limit]
      simp only [Option.all_some, decide_eq_true_eq, Nat.lt_add_right_iff_pos, Nat.pos_iff_ne_zero]
    have marked : ∃ r, RetryPolicy.reason? Response.isTransient outcome =
        if Retry.isTransient outcome then some r else none := by
      cases outcome with
      | error e => exact ⟨_, rfl⟩
      | ok r => exact ⟨_, rfl⟩
    obtain ⟨r, marked⟩ := marked
    have unfolded : again? f outcome =
        (p.again? Response.isTransient f.retries outcome).map (p, ·) := by
      rw [again?, policy]
      change (p.again? Response.isTransient f.retries outcome).bind (fun r => some (p, r)) = _
      cases p.again? Response.isTransient f.retries outcome <;> rfl
    rw [unfolded, reason, marked]
    by_cases zero : left = 0
    · simp [zero]
    · cases Retry.isTransient outcome <;> simp [zero]

/-- What has landed of the only request under way, after so many retries. -/
structure Lands (w : World) (f : Flight) (retries : Nat) (outcome : Outcome Response)
    (w₁ : World) : Prop where
  outcome : outcome = w.channel.outcome f.request (w.script.drop retries).head?
  flights : w₁.flights = []
  script : w₁.script = w.script.drop (retries + 1)
  sends : w.OnlySends w₁ (List.replicate (retries + 1) f.request)

section Alone
variable {f : Flight} (idle : w.flights = []) (calm : ∀ p ∈ w.script, p.moves = [])
include idle calm

/-- What happens to a request that was sent with nothing else under way. -/
theorem land_succ_send (budget : Nat) : ∃ due order w₁, w₁.flights = [] ∧
    w₁.script = w.script.tail ∧ w.OnlySends w₁ [f.request] ∧
    ∀ f₁, f₁ = { f with
        due := due
        order := order
        stage := .arriving (w.channel.outcome f.request w.script.head?) [] } →
      land (budget + 1) (w.send f) =
        match again? f₁ (w.channel.outcome f.request w.script.head?) with
        | none => some (f₁, w.channel.outcome f.request w.script.head?, w₁)
        | some (policy, reason) =>
          match w₁.rest f₁ policy reason with
          | (some failure, w₂) => some (f₁, .error failure, w₂)
          | (none, w₂) => land budget w₂ := by
  obtain ⟨due, order, flights, sends, script⟩ := send_eq f calm
  rw [idle] at flights
  refine ⟨due, order, { w.send f with
    now := due.elim (w.send f).now fun due => if (w.send f).now < due then due else (w.send f).now
    flights := [] }, rfl, script, ?_, ?_⟩
  · exact { sends with after := sends.after.trans (rank_le_due (w.send f).now due) }
  rintro f₁ rfl
  rw [land, flights]
  rfl

/-- A request that is not repeated has its outcome at once. -/
theorem land_send_last (budget : Nat)
    (last : again? f (w.channel.outcome f.request w.script.head?) = none) :
    ∃ f₁ outcome w₁, land (budget + 1) (w.send f) = some (f₁, outcome, w₁) ∧ f₁.job = f.job ∧
      f₁.ticket = f.ticket ∧ w.Lands f 0 outcome w₁ := by
  obtain ⟨due, order, w₁, flights, script, sends, landed⟩ := land_succ_send idle calm budget
  have landed := landed _ rfl
  have last : again? { f with
      due := due
      order := order
      stage := .arriving (w.channel.outcome f.request w.script.head?) [] }
      (w.channel.outcome f.request w.script.head?) = none := last
  rw [last] at landed
  exact ⟨_, _, w₁, landed, rfl, rfl, rfl, flights, script.trans (List.drop_one ..).symm, sends⟩

/-- A request that is repeated is sent once more, with one retry less, unless that cannot be reported. -/
theorem land_send_again (budget : Nat) {again : RetryPolicy × String}
    (repeated : again? f (w.channel.outcome f.request w.script.head?) = some again) :
    (∃ f₁ outcome w₁, land (budget + 2) (w.send f) = some (f₁, outcome, w₁) ∧ f₁.job = f.job ∧
      f₁.ticket = f.ticket ∧ ¬ w.TakesUntil w₁) ∨
    ∃ f₂ w₂, land (budget + 2) (w.send f) = land budget (w₂.send f₂) ∧ f₂.job = f.job ∧
      f₂.ticket = f.ticket ∧ f₂.request = f.request ∧ f₂.policy = f.policy ∧
      f₂.retries = f.retries + 1 ∧ w₂.flights = [] ∧ w₂.script = w.script.tail ∧
      w.OnlySends w₂ [f.request] := by
  obtain ⟨due, order, w₁, flights, script, sends, landed⟩ := land_succ_send idle calm (budget + 1)
  obtain ⟨policy, reason⟩ := again
  have landed := landed _ rfl
  generalize arrived : ({ f with
    due := due
    order := order
    stage := .arriving (w.channel.outcome f.request w.script.head?) [] } : Flight) = f₁ at landed
  have repeated : again? f₁ (w.channel.outcome f.request w.script.head?) = some (policy, reason) :=
    arrived ▸ repeated
  have unmoved := now_rest w₁ f₁ policy reason
  rw [repeated] at landed
  rcases rest_cases w₁ f₁ policy reason with
    ⟨failure, w₂, refused, never⟩ | ⟨observer, past, drawn, due', w₂, rested, sends', same⟩
  · rw [refused] at unmoved
    simp only [refused] at landed
    refine .inl ⟨f₁, _, w₂, landed, arrived ▸ rfl, arrived ▸ rfl, fun takes => never ?_⟩
    exact (sends.takesUntil takes (.of_eq unmoved)).takesReports
  · simp only [rested] at landed
    have alone : ∃ f₂, w₂.flights = [f₂] ∧ f₂.stage = .resting ∧ f₂.job = f₁.job ∧
        f₂.ticket = f₁.ticket ∧ f₂.request = f₁.request ∧ f₂.policy = f₁.policy ∧
        f₂.retries = f₁.retries + 1 := by
      rw [same, flights]
      exact ⟨_, rfl, rfl, rfl, rfl, rfl, rfl, rfl⟩
    obtain ⟨f₂, alone, resting, own, ticket, request, same_policy, retries⟩ := alone
    have first : first? w₂.flights = some (f₂, []) := by rw [alone]; rfl
    rw [land_resting first resting] at landed
    have sends := sends.trans sends'
    subst arrived
    refine .inr ⟨f₂, _, landed, own, ticket, request, same_policy, retries, rfl, ?_, ?_⟩
    · exact (congrArg World.script same).trans script
    · exact { sends with after := sends.after.trans (notAfter_turnTo w₂ f₂ []) }

/-- A request that is sent with some retries left is repeated as long as its outcome is transient. -/
theorem land_send {left : Nat} (most : RetryPolicy.most? f.policy = some (f.retries + left))
    {budget : Nat} (enough : 2 * left < budget) : ∃ f₁ outcome w₁,
      land budget (w.send f) = some (f₁, outcome, w₁) ∧ f₁.job = f.job ∧ f₁.ticket = f.ticket ∧
      (w.TakesUntil w₁ →
        w.Lands f (w.channel.retries f.request.timeoutMs left w.script) outcome w₁) := by
  induction left generalizing w f budget with
  | zero =>
    obtain ⟨budget, rfl⟩ := Nat.exists_eq_add_of_le' (Nat.zero_lt_of_lt enough)
    have last := again?_eq most (w.channel.outcome f.request w.script.head?)
    rw [if_neg (fun h => h.1 rfl)] at last
    obtain ⟨f₁, outcome, w₁, landed, job, ticket, lands⟩ := land_send_last idle calm budget last
    exact ⟨f₁, outcome, w₁, landed, job, ticket, fun _ => lands⟩
  | succ left ih =>
    obtain ⟨budget, rfl⟩ := Nat.exists_eq_add_of_le' (show 2 ≤ budget by omega)
    have repeated := again?_eq most (w.channel.outcome f.request w.script.head?)
    rw [Channel.isTransient_outcome] at repeated
    rw [Channel.retries]
    cases transient : w.channel.isTransient f.request.timeoutMs w.script.head? with
    | false =>
      rw [transient, if_neg (fun h => Bool.false_ne_true h.2)] at repeated
      obtain ⟨f₁, outcome, w₁, landed, job, ticket, lands⟩ :=
        land_send_last idle calm (budget + 1) repeated
      exact ⟨f₁, outcome, w₁, landed, job, ticket, fun _ => lands⟩
    | true =>
      rw [transient, if_pos ⟨Nat.succ_ne_zero left, rfl⟩] at repeated
      obtain ⟨again, repeated⟩ := repeated
      rcases land_send_again idle calm budget repeated with
        ⟨f₁, outcome, w₁, landed, job, ticket, never⟩ |
        ⟨f₂, w₂, landed, job, ticket, request, policy, retries, idle₂, script₂, sends₂⟩
      · exact ⟨f₁, outcome, w₁, landed, job, ticket, fun takes => absurd takes never⟩
      have calm₂ : ∀ p ∈ w₂.script, p.moves = [] := fun p hp =>
        calm p (List.mem_of_mem_tail (script₂ ▸ hp))
      have most₂ : RetryPolicy.most? f₂.policy = some (f₂.retries + left) := by
        rw [policy, retries, most]
        congr 1
        omega
      obtain ⟨f₁, outcome, w₁, landed₁, job₁, ticket₁, lands⟩ := ih idle₂ calm₂ most₂
        (show 2 * left < budget by omega)
      rw [request, sends₂.channel, script₂] at lands
      rw [if_pos rfl]
      refine ⟨f₁, outcome, w₁, landed.trans landed₁, job₁.trans job, ticket₁.trans ticket,
        fun takes => ?_⟩
      have before : w₂.NotAfter w₁ := (NotAfter.of_eq (now_send w₂ f₂)).trans (notAfter_land landed₁)
      have lands := lands (sends₂.takesUntil takes before)
      exact
        { outcome := by
            rw [lands.outcome, sends₂.channel, request, script₂, List.drop_tail]
          flights := lands.flights
          script := by rw [lands.script, script₂, List.drop_tail]
          sends := by
            have all := sends₂.trans lands.sends
            rwa [request] at all }

/-- A request that is sent for the first time has its outcome after its retries. -/
theorem landAny_launch (job ticket : Nat) (r : Request) {policy : Option RetryPolicy} {most : Nat}
    (limit : RetryPolicy.most? policy = some most) : ∃ f outcome w₁,
      (w.launch job ticket r policy).landAny = some (f, outcome, w₁) ∧ f.job = job ∧
      f.ticket = ticket ∧ (w.TakesUntil w₁ →
        w.Lands ⟨job, ticket, r, policy, 0, w.now, none, w.timed, .resting⟩
          (w.channel.retries r.timeoutMs most w.script) outcome w₁) := by
  obtain ⟨due, order, flights, -⟩ :=
    send_eq (w := w) ⟨job, ticket, r, policy, 0, w.now, none, w.timed, .resting⟩ calm
  have steps (script : List Prepared) : policy.elim 0 (·.limit?.getD script.length) = most := by
    cases policy with
    | none => exact Option.some.inj limit
    | some p =>
      have limit : p.limit? = some most := limit
      simp [limit]
  have budget : ((w.launch job ticket r policy).flights.map (w.launch job ticket r policy).steps).foldl
      (· + ·) 1 = 2 * most + 3 := by
    rw [launch, flights, idle]
    simp only [List.map_cons, List.map_nil, List.foldl_cons, List.foldl_nil, World.steps, steps]
    omega
  rw [landAny, budget]
  exact land_send idle calm (limit.trans (congrArg some (Nat.zero_add most).symm)) (by omega)

theorem awaitAny_launch (alone : w.chores = []) (job ticket : Nat) (r : Request)
    {policy : Option RetryPolicy} {most : Nat} (limit : RetryPolicy.most? policy = some most) :
    ∃ f outcome w₁, (w.launch job ticket r policy).awaitAny job = some (f, outcome, w₁) ∧
      f.ticket = ticket ∧ (w.TakesUntil w₁ →
        w.Lands ⟨job, ticket, r, policy, 0, w.now, none, w.timed, .resting⟩
          (w.channel.retries r.timeoutMs most w.script) outcome w₁) := by
  obtain ⟨f, outcome, w₁, landed, own, same, lands⟩ :=
    landAny_launch idle calm job ticket r limit
  have nobody : (w.launch job ticket r policy).chores = [] := by
    obtain ⟨-, -, -, sends, -⟩ :=
      send_eq (w := w) ⟨job, ticket, r, policy, 0, w.now, none, w.timed, .resting⟩ calm
    exact sends.chores.trans alone
  refine ⟨f, outcome, w₁, ?_, same, lands⟩
  rw [awaitAny, nobody]
  change awaitWithin job 1 _ = _
  rw [awaitWithin, landed]
  exact if_pos own

/-- Whoever waits for a request has its outcome after its retries. -/
theorem fetch_eq (r : Request) {policy : Option RetryPolicy} {most : Nat}
    (limit : RetryPolicy.most? policy = some most) (takes : w.TakesUntil (w.fetch r policy).2) :
    ∃ w₁, w.fetch r policy = (some (w.channel.outcome r
        (w.script.drop (w.channel.retries r.timeoutMs most w.script)).head?), w₁) ∧
      w₁.requests = w.requests ++
        List.replicate (w.channel.retries r.timeoutMs most w.script + 1) r ∧
      w₁.script = w.script.drop (w.channel.retries r.timeoutMs most w.script + 1) := by
  obtain ⟨f, outcome, w₁, landed, -, -, lands⟩ := landAny_launch idle calm 0 0 r limit
  rw [fetch, landed] at takes ⊢
  have lands := lands takes
  exact ⟨w₁, by rw [lands.outcome], lands.sends.requests, lands.script⟩

end Alone

end World
end Depot
