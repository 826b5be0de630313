import Depot.Proofs.Alike
import Depot.Proofs.Query.Homes
import Depot.Proofs.Session.Recast
import Depot.Proofs.World.Retrying
/-!
# Twin worlds

Two worlds of one client, which repeats requests in the first and never does in the second. The second
has only the responses that are kept of those of the first. What can be seen of both is the same, but
for the requests that are sent again: a job that sends one call at a time comes to the same in both,
and leaves them twins.
-/
namespace Depot

/-- The same settings without retries. -/
def Settings.plain (s : Settings) : Settings :=
  { s with retry := { s.retry with maxRetries := 0.0 } }

/-- The same endpoint without retries. -/
def Endpoint.plain (e : Endpoint) : Endpoint := { e with retry := none }

theorem Endpoint.under_plain (s : Settings) (service name : String) :
    under s.plain service name = (under s service name).plain := by
  have once : s.plain.retry.allows 0 = false := by
    have limit : Number.ceilNat? 0.0 = some 0 := by decide +kernel
    change (Number.ceilNat? 0.0).all (0 < ·) = false
    rw [limit]
    rfl
  rw [under, once]
  rfl

/-- A client in the place of another that never repeats a request. -/
def Recast.plain : Recast :=
  .ofUnder Settings.plain Endpoint.plain (fun s => Endpoint.under_plain s s.baseUrl)
    (fun s => Endpoint.under_plain s s.driveUrl) (fun _ => rfl)

/-- Meters with the same totals, or two that keep nothing. -/
def Meter.SameTotals : Meter Nat → Meter Nat → Prop
  | .kept m, .kept m' => m'.totals = m.totals
  | .ignored, .ignored => True
  | _, _ => False

theorem Meter.SameTotals.heard {m m' : Meter Nat} (h : m.SameTotals m') {r r' : Report}
    (same : r.SameButTime r') : (m.heard r).SameTotals (m'.heard r') := by
  cases same with
  | time metric ms ms' labels => cases m <;> cases m' <;> exact h
  | refl r =>
    cases r with
    | log | time => cases m <;> cases m' <;> exact h
    | count metric amount labels =>
      cases m with
      | ignored => cases m' <;> exact h
      | kept m =>
        cases m' with
        | ignored => exact h
        | kept m' =>
          have totals : m'.totals = m.totals := h
          simp only [Meter.heard, Meter.increment, SameTotals, Metrics.increment, Metrics.totalAt,
            totals]

/-- Two events that a caller sees alike, and neither of which is a request. -/
inductive Event.Twin : Event → Event → Prop where
  | told (uploaded total : Nat) : Twin (.told uploaded total) (.told uploaded total)
  | taken (page : Page) : Twin (.taken page) (.taken page)

namespace World

/-- Two worlds at rest, of a client that repeats requests and of one that does not and has `n` responses
left at most. Their requests are those since `script` was what is prepared in the first. Their loggers
may take every entry always. -/
structure Twins (p : Persistence) (always : Prop) (script : List Prepared) (n : Nat) (w w' : World) :
    Prop where
  takes : always → w.observer.logger.TakesAll ∧ w'.observer.logger.TakesAll
  totals : w.observer.meter.SameTotals w'.observer.meter
  desk : w'.desk = Recast.plain.desk w.desk
  homes : w.desk.AllHomes p.Covers
  listener : w'.listener = w.listener
  channel : w.channel = p.channel ∧ w'.channel = p.channel
  stopped : ∃ t, w.stopped = some t ∧ w'.stopped = some t
  idle : w.flights = [] ∧ w'.flights = []
  alone : w.chores = [] ∧ w'.chores = []
  calm : ∀ x ∈ w.script, x.moves = []
  thinned : w'.script = p.thinned w.script
  short : w'.script.length ≤ n
  rest : w.script = p.remaining script w'.requests.length
  requests : w.requests = p.repeated script w'.requests
  tellings : w'.tellings = w.tellings
  pages : w'.pages = w.pages

namespace Twins
variable {p : Persistence} {always : Prop} {script : List Prepared} {n : Nat} {w w' : World}
  (h : Twins p always script n w w')
include h

theorem clock : w'.clock = w.clock := by
  obtain ⟨t, stopped, stopped'⟩ := h.stopped
  rw [World.clock, World.clock, stopped, stopped']
  rfl

theorem queryAt (ref : Nat) : w'.desk.queryAt ref = w.desk.queryAt ref := by
  rw [h.desk, Recast.queryAt_desk]

/-- Without a request, no responses are used. -/
theorem unsent {w₁ w₁' : World} (requests : w₁.requests = w.requests)
    (requests' : w₁'.requests = w'.requests) :
    w.script = p.remaining script w₁'.requests.length ∧
      w₁.requests = p.repeated script w₁'.requests := by
  rw [requests, requests']
  exact ⟨h.rest, h.requests⟩

/-- What happens in both worlds without a request leaves them twins. -/
theorem happen {i i' : Event} (same : i.Twin i') : Twins p always script n (w.happen i) (w'.happen i') := by
  have sent : (w.happen i).requests = w.requests := by
    cases same <;> simp [World.requests, history, World.happen]
  have sent' : (w'.happen i').requests = w'.requests := by
    cases same <;> simp [World.requests, history, World.happen]
  have told : (w'.happen i').tellings = (w.happen i).tellings := by
    have tellings := h.tellings
    cases same <;> simpa [World.tellings, history, World.happen] using tellings
  have taken : (w'.happen i').pages = (w.happen i).pages := by
    have pages := h.pages
    cases same <;> simpa [World.pages, history, World.happen] using pages
  exact
    { h with
      rest := (h.unsent sent sent').1
      requests := (h.unsent sent sent').2
      tellings := told
      pages := taken }

/-- Reports that are the same but for a duration are taken in both worlds. -/
theorem report {r r' : Report} (same : r.SameButTime r') (takes : w.TakesReports)
    (takes' : w'.TakesReports) : ∃ w₁ w₁', w.report r = (none, w₁) ∧ w'.report r' = (none, w₁') ∧
      w₁.now = w.now ∧ w₁'.now = w'.now ∧ Twins p always script n w₁ w₁' := by
  obtain ⟨w₁, taken, heard⟩ := exists_heard takes r
  obtain ⟨w₁', taken', heard'⟩ := exists_heard takes' r'
  have totals : w₁.observer.meter.SameTotals w₁'.observer.meter := by
    rw [heard.meter, heard'.meter]
    exact h.totals.heard same
  have unsent := h.unsent heard.requests heard'.requests
  have tellings := heard'.tellings.trans (h.tellings.trans heard.tellings.symm)
  have pages := heard'.pages.trans (h.pages.trans heard.pages.symm)
  have takes := fun all => And.intro (heard.takes (h.takes all).1) (heard'.takes (h.takes all).2)
  obtain ⟨observer, past, rfl⟩ := heard.same
  obtain ⟨observer', past', rfl⟩ := heard'.same
  refine ⟨_, _, taken, taken', rfl, rfl, ?_⟩
  exact
    { h with
      takes := takes
      totals := totals
      rest := unsent.1
      requests := unsent.2
      tellings := tellings
      pages := pages }

theorem tell (uploaded total : Nat) : (w'.tell uploaded total).1 = (w.tell uploaded total).1 ∧
    Twins p always script n (w.tell uploaded total).2 (w'.tell uploaded total).2 := by
  rw [World.tell, World.tell, h.listener]
  refine ⟨rfl, ?_⟩
  cases w.listener.isSome with
  | false => exact h
  | true => exact h.happen (.told uploaded total)

theorem calm' : ∀ x ∈ w'.script, x.moves = [] := by
  rw [h.thinned]
  exact fun x hx => h.calm x ((p.thin_sublist p.most w.script).subset hx)

/-- If a request has an answer, there is one less of them. -/
theorem exists_spends {r : Request} {outcome : Outcome Response}
    (first : outcome = p.channel.outcome r w'.script.head?) :
    ∃ n', w'.script.tail.length ≤ n' ∧ Spends outcome n n' := by
  have enough := h.short
  rw [List.length_tail]
  cases answered : outcome with
  | error failure => exact ⟨n, by omega, rfl⟩
  | ok answer =>
    have some_left : w'.script ≠ [] := fun none_left => by
      obtain ⟨failure, failed⟩ := p.channel.exists_outcome_none r
      rw [none_left, List.head?_nil, failed, answered] at first
      cases first
    have := List.length_pos_iff.mpr some_left
    exact ⟨n - 1, by omega, by change n = n - 1 + 1; omega⟩

/-- A request leaves twins that is repeated in the first world after what the second has not. -/
theorem sent {r : Request} {w₁ w₁' : World} {n' : Nat}
    (sends : w.OnlySends w₁ (List.replicate (p.retries w.script + 1) r))
    (sends' : w'.OnlySends w₁' [r]) (idle : w₁.flights = [] ∧ w₁'.flights = [])
    (rest : w₁.script = w.script.drop (p.retries w.script + 1)) (rest' : w₁'.script = w'.script.tail)
    (short : w₁'.script.length ≤ n') : Twins p always script n' w₁ w₁' where
  takes := fun all => ⟨sends.takes (h.takes all).1, sends'.takes (h.takes all).2⟩
  totals := by
    rw [sends.meter, sends'.meter]
    exact h.totals
  desk := by rw [sends.desk, sends'.desk, h.desk]
  homes := by
    rw [sends.desk]
    exact h.homes
  listener := by rw [sends.listener, sends'.listener, h.listener]
  channel := ⟨sends.channel.trans h.channel.1, sends'.channel.trans h.channel.2⟩
  stopped := by
    rw [sends.stopped, sends'.stopped]
    exact h.stopped
  idle := idle
  alone := ⟨sends.chores.trans h.alone.1, sends'.chores.trans h.alone.2⟩
  calm := fun x hx => h.calm x (List.mem_of_mem_drop (rest ▸ hx))
  thinned := by rw [rest', h.thinned, p.tail_thinned, rest]
  short := short
  rest := by
    rw [sends'.requests, List.length_append, p.remaining_add, ← h.rest]
    exact rest
  requests := by
    rw [sends.requests, h.requests, sends'.requests, p.repeated_append, ← h.rest]
    exact congrArg (p.repeated script w'.requests ++ ·) (List.append_nil _).symm
  tellings := by rw [sends.tellings, sends'.tellings, h.tellings]
  pages := by rw [sends.pages, sends'.pages, h.pages]

/-- A call that is sent in both worlds has the same outcome in both. -/
theorem land {e : Endpoint} (covered : p.Covers e) (job job' k : Nat) (c : Call) :
    ∃ f f' outcome outcome' w₁ w₁',
      (w.launch job k (e.request c) e.retry).awaitAny job = some (f, outcome, w₁) ∧
      (w'.launch job' k (e.plain.request c) e.plain.retry).awaitAny job' = some (f', outcome', w₁') ∧
      f.ticket = k ∧ f'.ticket = k ∧ (TakesBetween always w w₁ → TakesBetween always w' w₁' →
        outcome' = outcome ∧ ∃ n', Spends outcome n n' ∧ Twins p always script n' w₁ w₁') := by
  obtain ⟨f, outcome, w₁, landed, ticket, lands⟩ := awaitAny_launch h.idle.1 h.calm h.alone.1 job k
    (e.request c) covered.most
  have once : RetryPolicy.most? e.plain.retry = some 0 := rfl
  obtain ⟨f', outcome', w₁', landed', ticket', lands'⟩ := awaitAny_launch h.idle.2 h.calm' h.alone.2
    job' k (e.plain.request c) once
  refine ⟨f, f', outcome, outcome', w₁, w₁', landed, landed', ticket, ticket', fun takes takes' => ?_⟩
  have lands := lands (takes.takesUntil fun all => (h.takes all).1)
  have lands' := lands' (takes'.takesUntil fun all => (h.takes all).2)
  have retries : w.channel.retries (e.request c).timeoutMs p.most w.script = p.retries w.script := by
    rw [h.channel.1, Persistence.retries, covered.timeoutMs]
    rfl
  rw [retries] at lands
  rw [Channel.retries] at lands'
  have first : outcome' = p.channel.outcome (e.request c) w'.script.head? := by
    rw [lands'.outcome, h.channel.2]
    rfl
  -- what the second world has in front is what the first comes to after its retries
  have same : outcome' = outcome := by
    rw [first, lands.outcome, h.channel.1, h.thinned, p.head?_thinned]
  have rest' : w₁'.script = w'.script.tail := lands'.script.trans (List.drop_one ..)
  obtain ⟨n', short, spends⟩ := h.exists_spends first
  exact ⟨same, n', same ▸ spends, h.sent lands.sends lands'.sends ⟨lands.flights, lands'.flights⟩
    lands.script rest' (rest' ▸ short)⟩

end Twins

/-- Twin worlds, in which perhaps one call has been sent to an endpoint. -/
def TwinsWith (p : Persistence) (always : Prop) (script : List Prepared) (e : Endpoint)
    (job job' n : Nat) : Option (Nat × Call) → World → World → Prop
  | none, w, w' => Twins p always script n w w'
  | some (k, c), w, w' => p.Covers e ∧ ∃ v v', Twins p always script n v v' ∧
      w = v.launch job k (e.request c) e.retry ∧
      w' = v'.launch job' k (e.plain.request c) e.plain.retry

/-- Jobs that are alike come to the same in twin worlds. -/
theorem TwinsWith.runOn {p : Persistence} {always : Prop} {script : List Prepared} {e : Endpoint}
    {job job' n : Nat} {busy : Option (Nat × Call)} {w w' : World} {α : Type} {may : Prop}
    {j j' : Job α} {Q : Nat → Option (Nat × Call) → Outcome α → Prop}
    (covered : may → p.Covers e) (alike : j.Alike Q may n busy j')
    (h : TwinsWith p always script e job job' n busy w w')
    (takes : TakesBetween always w (World.runOn e job j w).2)
    (takes' : TakesBetween always w' (World.runOn e.plain job' j' w').2) :
    ∃ result w₁ w₁' n' busy', World.runOn e job j w = (some result, w₁) ∧
      World.runOn e.plain job' j' w' = (some result, w₁') ∧ Q n' busy' result ∧
      TwinsWith p always script e job job' n' busy' w₁ w₁' := by
  -- the second job goes along with the first
  induction j generalizing n busy j' w w' with
  | finish result =>
    obtain ⟨rfl, done⟩ := alike
    exact ⟨result, w, w', n, busy, rfl, rfl, done, h⟩
  | stall | detach => exact alike.elim
  | report r next ih =>
    obtain ⟨rfl, r', next', rfl, same, alike⟩ := alike
    have twins : Twins p always script n w w' := h
    obtain ⟨w₁, w₁', taken, taken', now, now', twins⟩ := twins.report same
      (takes.takesUntil fun all => (h.takes all).1).takesReports
      (takes'.takesUntil fun all => (h.takes all).2).takesReports
    simp only [World.runOn, taken] at takes
    simp only [World.runOn, taken'] at takes'
    simp only [World.runOn, taken, taken']
    exact ih none alike twins (takes.rear (.of_eq now) (notAfter_runOn ..))
      (takes'.rear (.of_eq now') (notAfter_runOn ..))
  | clock next ih =>
    obtain ⟨rfl, next', rfl, alike⟩ := alike
    simp only [World.runOn, Twins.clock h] at takes' ⊢
    exact ih _ (alike _) h takes takes'
  | query ref next ih =>
    obtain ⟨rfl, next', rfl, alike⟩ := alike
    simp only [World.runOn, Twins.queryAt h] at takes' ⊢
    exact ih _ (alike _) h takes takes'
  | progress u total next ih =>
    obtain ⟨rfl, next', rfl, alike⟩ := alike
    obtain ⟨same, twins⟩ := Twins.tell h u total
    simp only [World.runOn, same] at takes' ⊢
    exact ih _ (alike _) twins (takes.rear (.of_eq (now_tell ..)) (notAfter_runOn ..))
      (takes'.rear (.of_eq (now_tell ..)) (notAfter_runOn ..))
  | launch k c next ih =>
    obtain ⟨rfl, allowed, next', rfl, alike⟩ := alike
    have sent : TwinsWith p always script e job job' n (some (k, c))
        (w.launch job k (e.request c) e.retry)
        (w'.launch job' k (e.plain.request c) e.plain.retry) :=
      ⟨covered allowed, w, w', h, rfl, rfl⟩
    simp only [World.runOn]
    exact ih alike sent takes takes'
  | await next ih =>
    obtain ⟨k, c, next', rfl, rfl, alike⟩ := alike
    obtain ⟨here, v, v', twins, rfl, rfl⟩ := h
    obtain ⟨f, f', outcome, outcome', w₁, w₁', landed, landed', ticket, ticket', agree⟩ :=
      twins.land here job job' k c
    simp only [World.runOn, landed] at takes
    simp only [World.runOn, landed'] at takes'
    have after := notAfter_awaitAny landed
    have after' := notAfter_awaitAny landed'
    obtain ⟨rfl, n', spends, twins⟩ := agree (takes.fore after (notAfter_runOn ..))
      (takes'.fore after' (notAfter_runOn ..))
    have takes := takes.rear after (notAfter_runOn ..)
    have takes' := takes'.rear after' (notAfter_runOn ..)
    rw [ticket] at takes
    rw [ticket'] at takes'
    simp only [World.runOn, landed, landed', ticket, ticket']
    exact ih _ _ (alike _ _ n' rfl spends) twins takes takes'

/-- A job comes to the same as one that is alike, and no call is left under way. -/
theorem Twins.run {p : Persistence} {always : Prop} {script : List Prepared} {n : Nat} {w w' : World}
    {α : Type} {may : Prop} {j j' : Job α} {Q : Nat → Outcome α → Prop}
    (h : Twins p always script n w w') {e : Endpoint} (covered : may → p.Covers e)
    (alike : j.Alike (fun n busy x => busy = none ∧ Q n x) may n none j')
    (takes : TakesBetween always w (w.run e j).2)
    (takes' : TakesBetween always w' (w'.run e.plain j').2) :
    ∃ result w₁ w₁' n', w.run e j = (some result, w₁) ∧ w'.run e.plain j' = (some result, w₁') ∧
      Q n' result ∧ Twins p always script n' w₁ w₁' := by
  have numbered : Twins p always script n w.withJob w'.withJob := { h with }
  have free : TwinsWith p always script e w.jobs w'.jobs n none w.withJob w'.withJob := numbered
  obtain ⟨result, w₁, w₁', n', _, ran, ran', ⟨rfl, done⟩, twins⟩ :=
    free.runOn covered alike takes takes'
  have twins : Twins p always script n' w₁ w₁' := twins
  refine ⟨result, _, _, n', by rw [World.run, ran], by rw [World.run, ran'], done, ?_⟩
  exact
    { twins with
      idle := by
        rw [twins.idle.1, twins.idle.2]
        exact ⟨rfl, rfl⟩ }

end World
end Depot
