import Depot.Proofs.Http.Rejections
import Depot.Proofs.Retry
import Depot.Proofs.World.Fetching
import Depot.Proofs.World.Trails
/-!
# Attempts and failures

How often the requests of an operation are sent, next to what it fails with. A request that failed in
a way that may pass has been sent as often as is allowed, except after a status that says so of a
failure but is not taken for transient; and after any other failure it was not sent again.
-/
namespace Depot
namespace World

/-- A world whose requests are on trails, in a scene that they are part of: what has arrived is what
the last attempts of the trails that ended came to. -/
structure Tracks (w : World) (c : Carrier) (job : Nat) (before sent : List Request)
    (under ended : List Trail) (s : Scene) : Prop where
  trodden : w.IsTrodden c job before sent under
  covers : Cover (ended ++ under) sent.length
  closed : ∀ t ∈ ended, t.IsClosed c sent
  desk : w.desk = s.desk
  underWay : (under.map Trail.ticket).Perm s.underWay
  calls : ((ended ++ under).map Trail.call).Perm s.sent
  arrived : ended.map Trail.outcome? = s.arrived.map fun x => some x.2.outcome

namespace Tracks
variable {w : World} {c : Carrier} {job : Nat} {before sent : List Request}
  {under ended : List Trail} {s : Scene}

/-- Neither a call nor an arrival. -/
theorem note (h : w.Tracks c job before sent under ended s) {i : Incident} (call : i.call? = none)
    (arrival : i.arrival? = none) : w.Tracks c job before sent under ended (s.note i) :=
  { h with
    calls := by
      rw [Scene.sent_note, call, Option.toList_none, List.append_nil]
      exact h.calls
    arrived := by
      rw [Scene.arrived_note, arrival, Option.toList_none, List.append_nil]
      exact h.arrived }

theorem report (h : w.Tracks c job before sent under ended s) (takes : w.TakesReports) (r : Report) :
    ∃ w', w.report r = (none, w') ∧ w'.Tracks c job before sent under ended (s.note (.reported r)) ∧
      w.Later w' := by
  obtain ⟨w', taken, heard⟩ := exists_heard takes r
  have requests := heard.requests
  obtain ⟨observer, past, rfl⟩ := heard.same
  have same := h.note (i := .reported r) rfl rfl
  exact ⟨_, taken, { same with trodden := { same.trodden with
    requests := requests.trans same.trodden.requests } }, ⟨.refl _, heard.takes, .refl _⟩⟩

theorem tell (h : w.Tracks c job before sent under ended s) (u k : Nat) :
    (w.tell u k).2.Tracks c job before sent under ended (s.note (.told u k)) ∧
      w.Later (w.tell u k).2 := by
  have same := h.note (i := .told u k) rfl rfl
  rw [World.tell]
  cases w.listener.isSome with
  | false => exact ⟨same, .refl _, id, .refl _⟩
  | true =>
    have requests : (w.happen (.told u k)).requests = w.requests := by
      simp [World.requests, history, happen]
    exact ⟨{ same with trodden := { same.trodden with
      requests := requests.trans same.trodden.requests } }, .refl _, id, .refl _⟩

theorem launch (h : w.Tracks c job before sent under ended s)
    (limit : RetryPolicy.most? c.home.retry = some c.most) (k : Nat) (call : Call) :
    (w.launch job k (c.home.request call) c.home.retry).Tracks c job before
        (sent ++ [c.home.request call]) (⟨k, call, [], some sent.length⟩ :: under) ended
        (s.launch k call) ∧
      w.Later (w.launch job k (c.home.request call) c.home.retry) := by
  have flies : Trail.IsOpen c sent job ⟨k, call, [], none⟩
      ⟨job, k, c.home.request call, c.home.retry, 0, w.now, none, w.timed, .resting⟩ :=
    { ofJob := rfl
      limit := limit
      ticket := rfl
      request := rfl
      retries := rfl
      within := Nat.zero_le _
      past := fun a ha => absurd ha List.not_mem_nil
      increasing := .nil
      arriving := nofun
      resting := fun _ => rfl }
  refine ⟨?_, .of_eq (now_send ..), id, .refl _⟩
  exact
    { trodden := h.trodden.send flies rfl
      covers := by
        have covers : Cover (ended ++ ⟨k, call, [], none⟩ :: under) sent.length := by
          simpa [Cover, Trail.places] using h.covers
        rw [List.length_append, List.length_singleton]
        exact covers.send rfl
      closed := fun t ht => (h.closed t ht).later _
      desk := h.desk
      underWay := (h.underWay.cons k).trans (List.perm_append_singleton k s.underWay).symm
      calls := by
        rw [Scene.sent_launch, List.map_append, List.map_cons]
        have calls := h.calls
        rw [List.map_append] at calls
        exact (List.perm_middle.trans (calls.cons call)).trans (List.perm_append_singleton ..).symm
      arrived := by
        rw [Scene.arrived_launch]
        exact h.arrived }

theorem await (h : w.Tracks c job before sent under ended s) {f : Flight}
    {outcome : Outcome Response} {w' : World} (handed : w.awaitAny job = some (f, outcome, w'))
    (takes : w.TakesUntil w') : f.ticket ∈ s.underWay ∧ w.Later w' ∧
      ∃ moves sent' under' ended', w'.Tracks c job before sent' under' ended'
        ((s.stir moves).land f.ticket ⟨outcome, w'.now - f.began⟩) := by
  have landed : w.landAny = some (f, outcome, w') := by
    rw [awaitAny, h.trodden.alone] at handed
    change awaitWithin job 1 w = _ at handed
    rw [awaitWithin] at handed
    split at handed
    · cases handed
    · rename_i landed
      split at handed
      · rw [landed, handed]
      · cases handed
  obtain ⟨more, t, rest, trodden, closed, brings, -, ticket, keys, covers, later⟩ :=
    closes_of_land landed takes h.trodden h.covers
  obtain ⟨moves, played⟩ := later.desk
  have tickets : (t.ticket :: rest.map Trail.ticket).Perm s.underWay := by
    have same := keys.map Prod.fst
    rw [List.map_map, List.map_map] at same
    exact same.trans h.underWay
  have calls : (t.call :: rest.map Trail.call).Perm (under.map Trail.call) := by
    have same := keys.map Prod.snd
    rwa [List.map_map, List.map_map] at same
  obtain ⟨under_way, others⟩ := List.cons_perm_iff_perm_erase.mp tickets
  rw [← ticket] at under_way others
  refine ⟨under_way, later, moves, sent ++ more, rest, ended ++ [t], ?_⟩
  exact
    { trodden := trodden
      covers := by rwa [List.append_assoc]
      closed := fun u hu => (List.mem_append.mp hu).elim (fun hu => (h.closed u hu).later more)
        fun hu => List.mem_singleton.mp hu ▸ closed
      desk := by
        rw [h.desk] at played
        exact (congrArg Prod.snd played).symm
      underWay := others
      calls := by
        rw [Scene.sent_land, Scene.sent_stir, List.append_assoc, List.map_append]
        have before := h.calls
        rw [List.map_append] at before
        exact (calls.append_left _).trans before
      arrived := by
        rw [Scene.arrived_land, Scene.arrived_stir, List.map_append, List.map_append, h.arrived]
        simp [brings] }

/-- What a job keeps is kept while the trails of its requests are followed. -/
theorem exists_keeps {α : Type} {j : Job α} {I : Scene → Prop}
    {Q : Option (Outcome α) → Scene → Prop} (limit : RetryPolicy.most? c.home.retry = some c.most)
    (kept : j.Keeps I Q s) (h : w.Tracks c job before sent under ended s)
    (takes : w.TakesUntil (w.runOn c.home job j).2) {result : Outcome α}
    (finished : (w.runOn c.home job j).1 = some result) :
    ∃ sent' under' ended' s', Q (some result) s' ∧
      (w.runOn c.home job j).2.Tracks c job before sent' under' ended' s' := by
  induction j generalizing w sent under ended s with
  | finish outcome =>
    cases finished
    exact ⟨sent, under, ended, s, kept.2, h⟩
  | stall => cases finished
  | report r next ih =>
    obtain ⟨w', taken, h', later⟩ := h.report takes.takesReports r
    have goes_on : w.runOn c.home job (.report r next) = w'.runOn c.home job (next none) := by
      rw [runOn, taken]
    rw [goes_on] at takes finished ⊢
    exact ih none kept.2 h' (takes.later later (notAfter_runOn ..)) finished
  | clock next ih => exact ih w.clock (kept.2 w.clock) (h.note rfl rfl) takes finished
  | query ref next ih =>
    have goes_on : w.runOn c.home job (.query ref next) =
        w.runOn c.home job (next (s.desk.queryAt ref)) := by
      rw [runOn, h.desk]
    rw [goes_on] at takes finished ⊢
    exact ih _ kept.2 (h.note rfl rfl) takes finished
  | progress u k next ih =>
    obtain ⟨h', later⟩ := h.tell u k
    exact ih _ (kept.2 _) h' (takes.later later (notAfter_runOn ..)) finished
  | launch k call next ih =>
    obtain ⟨h', later⟩ := h.launch limit k call
    exact ih kept.2 h' (takes.later later (notAfter_runOn ..)) finished
  | await next ih =>
    cases handed : w.awaitAny job with
    | none =>
      rw [runOn, handed] at finished
      cases finished
    | some found =>
      obtain ⟨f, outcome, w'⟩ := found
      have goes_on : w.runOn c.home job (.await next) =
          w'.runOn c.home job (next f.ticket ⟨outcome, w'.now - f.began⟩) := by
        rw [runOn, handed]
      rw [goes_on] at takes finished ⊢
      have after := notAfter_awaitWithin handed
      have later := notAfter_runOn c.home job (next f.ticket ⟨outcome, w'.now - f.began⟩) w'
      obtain ⟨under_way, onward, moves, sent', under', ended', h'⟩ := h.await handed
        (takes.imp_right fun dated => ⟨dated.1, dated.1.between dated.2 after later⟩)
      exact ih _ _ (kept.2.2 moves _ _ under_way) h' (takes.later onward later) finished
  | detach => exact kept.elim

end Tracks

/-- Nothing has been sent yet. -/
theorem tracks_withJob {w : World} (idle : w.flights = []) (alone : w.chores = []) {c : Carrier}
    (channel : c.channel = w.channel) (script : c.script = w.script) :
    w.withJob.Tracks c w.jobs w.requests [] [] [] ⟨[], w.desk, []⟩ where
  trodden :=
    { channel := channel.symm
      alone := alone
      requests := (List.append_nil _).symm
      script := script.symm
      flying := by
        rw [withJob, idle]
        exact .nil }
  covers := .refl _
  closed := fun t ht => absurd ht List.not_mem_nil
  desk := rfl
  underWay := .refl _
  calls := .refl _
  arrived := rfl

end World

/-! ## Two verdicts on one failure -/

namespace Failure

/-- No status with a failure of its own is transient. -/
theorem lasting_of_ofStatus? {status : Float} {kind : Rejection}
    (found : Rejection.ofStatus? status = some kind) :
    Response.isTransientStatus status = false := by
  obtain ⟨name, code, default, own⟩ : ∃ name code default, Own status name code default :=
    ⟨_, _, _, own_iff.mpr ⟨kind, found, rfl, rfl, rfl⟩⟩
  cases own <;> decide +kernel

/-- A transient status is that of a failure that may pass. -/
theorem isTemporaryStatus_of_transient {status : Float}
    (h : Response.isTransientStatus status = true) : isTemporaryStatus status = true := by
  simp only [Response.isTransientStatus, Bool.or_eq_true] at h
  rcases h with ((equal | equal) | equal) | equal
  · rw [isTemporaryStatus, equal, Bool.true_or]
  · exact Number.eq_of_beq equal (by decide +kernel) ▸ by decide +kernel
  · exact Number.eq_of_beq equal (by decide +kernel) ▸ by decide +kernel
  · exact Number.eq_of_beq equal (by decide +kernel) ▸ by decide +kernel

/-- A status of a failure that may pass is a transient one, or one of a failing service. -/
theorem transient_or_le_of_isTemporaryStatus {status : Float} (h : isTemporaryStatus status = true) :
    Response.isTransientStatus status = true ∨ 500.0 ≤ status := by
  simp only [isTemporaryStatus, Bool.or_eq_true, decide_eq_true_eq] at h
  refine h.imp (fun equal => ?_) id
  simp [Response.isTransientStatus, equal]

end Failure

namespace Exchange

theorem failure_of_answer {r : Response} {f : Failure} (failed : answer (.ok r) = .error f) :
    f = .ofStatus r.status r.statusText (namedErrors r.body) := by
  rw [answer, failure?] at failed
  split at failed <;> cases failed
  rfl

variable {outcome : Outcome Response} {f : Failure} (failed : answer outcome = .error f)
include failed

theorem transient_or_le_of_isRetryable (flag : f.isRetryable = true) :
    Retry.isTransient outcome = true ∨ ∃ r, outcome = .ok r ∧ 500.0 ≤ r.status := by
  cases outcome with
  | error g =>
    cases failed
    exact .inl flag
  | ok r =>
    obtain rfl := failure_of_answer failed
    rw [Failure.ofStatus] at flag
    split at flag
    · cases flag
    · exact (Failure.transient_or_le_of_isTemporaryStatus flag).imp_right fun high => ⟨r, rfl, high⟩

theorem isTransient_of_not_isRetryable (flag : f.isRetryable = false) :
    Retry.isTransient outcome = false := by
  cases outcome with
  | error g =>
    cases failed
    exact flag
  | ok r =>
    obtain rfl := failure_of_answer failed
    rw [Failure.ofStatus] at flag
    split at flag
    case h_1 kind found => exact Failure.lasting_of_ofStatus? found
    case h_2 =>
      by_contra transient
      have temporary := Failure.isTemporaryStatus_of_transient (Bool.eq_true_of_not_eq_false transient)
      rw [Failure.isRetryable, temporary] at flag
      cases flag

end Exchange

/-- What the call of a trail has failed with. -/
def Trail.FailsWith (t : Trail) (f : Failure) : Prop :=
  ∃ outcome, t.outcome? = some outcome ∧ Exchange.answer outcome = .error f

/-- A call that failed in a way that may pass has been sent as often as is allowed, unless a failing
service has answered it with a status that is not transient; any other one was not sent again after it
had failed. -/
theorem Trail.IsClosed.flagged {c : Carrier} {sent : List Request} {t : Trail}
    (closed : t.IsClosed c sent) {f : Failure} (failed : t.FailsWith f) :
    (f.isRetryable = true → t.attempts.length = c.most + 1 ∨
      ∃ r, t.outcome? = some (.ok r) ∧ 500.0 ≤ r.status ∧ r.isTransient = false) ∧
    (f.isRetryable = false → ∀ outcome, t.outcome? = some outcome →
      Retry.isTransient outcome = false) := by
  obtain ⟨outcome, brings, failed⟩ := failed
  obtain ⟨a, last, ends⟩ := closed.ends
  have came : t.outcome? = some a.outcome := by rw [Trail.outcome?, last, Option.map_some]
  obtain rfl := Option.some.inj (brings.symm.trans came)
  constructor
  · intro flag
    cases transient : Retry.isTransient a.outcome with
    | true => exact .inl (ends transient)
    | false =>
      rcases Exchange.transient_or_le_of_isRetryable failed flag with again | ⟨r, answered, high⟩
      · rw [transient] at again
        cases again
      · rw [answered] at brings transient
        exact .inr ⟨r, brings, high, transient⟩
  · intro flag outcome' brings'
    obtain rfl := Option.some.inj (brings.symm.trans brings')
    exact Exchange.isTransient_of_not_isRetryable failed flag

/--
Each request that a failed operation has sent is an attempt at exactly one of its calls, and has the
response that was prepared for it. A call is tried again as long as that ends in a transient outcome,
and `most` times at most. If it has failed in a way that may pass, it was tried `most + 1` times, unless
its last answer was a status from 500 on that is not transient; if it has failed in any other way, its
last attempt was none after which there is another. If the last call has failed, the operation has
failed like it.
-/
theorem attempts_as_flagged {α : Type} {budget : Nat} {j : Job α} {shown : α → List Failure}
    (operation : j.Shows budget shown) {s : Settings} {most : Nat}
    (limit : Number.natural? s.retry.maxRetries = some most) {e : Endpoint} {name : String}
    (home : Endpoint.ofBase s name = .ok e ∨ Endpoint.ofDrive s name = .ok e) {w : World}
    (idle : w.flights = []) (alone : w.chores = []) (takes : w.TakesUntil (w.run e j).2)
    {failure : Failure} (failed : (w.run e j).1 = some (.error failure)) :
    ∃ sent trails, (w.run e j).2.requests = w.requests ++ sent ∧
      World.Cover trails sent.length ∧
      (∀ t ∈ trails, t.IsClosed ⟨e, w.channel, w.script, most⟩ sent) ∧
      (∀ t ∈ trails, ∀ f, t.FailsWith f →
        (f.isRetryable = true → t.attempts.length = most + 1 ∨
          ∃ r, t.outcome? = some (.ok r) ∧ 500.0 ≤ r.status ∧ r.isTransient = false) ∧
        (f.isRetryable = false → ∀ outcome, t.outcome? = some outcome →
          Retry.isTransient outcome = false)) ∧
      ∀ t f, trails.getLast? = some t → t.FailsWith f → failure = f := by
  have fits : Persistence.Fits ⟨w.channel, some s.requestTimeoutMs, most⟩ s :=
    ⟨Number.ceilNat?_of_natural? limit, rfl⟩
  have most_retries : RetryPolicy.most? e.retry = some most :=
    home.elim (fun found => (fits.covers_ofBase found).most) fun found =>
      (fits.covers_ofDrive found).most
  obtain ⟨sent, under, trails, s', ⟨new, stands, accounts⟩, tracked⟩ :=
    World.Tracks.exists_keeps (c := ⟨e, w.channel, w.script, most⟩) most_retries
      (operation.isAccounted _ [] [] (.start w.desk)) (World.tracks_withJob idle alone rfl rfl)
      takes failed
  have landed : under = [] := by
    have none_left := tracked.underWay
    rw [stands.underWay] at none_left
    exact List.map_eq_nil_iff.mp none_left.eq_nil
  subst landed
  have calls := tracked.calls
  have covers := tracked.covers
  rw [List.append_nil] at calls covers
  have answers : new.map Prod.snd = s'.arrived.map Prod.snd := by
    have within := s'.answered_sublist
    rw [stands.answered, List.nil_append] at within
    refine within.eq_of_length ?_
    have all := s'.sent_perm.length_eq
    rw [stands.answered, stands.waiting, List.nil_append] at all
    have same := congrArg List.length tracked.arrived
    have ends := calls.length_eq
    simp only [List.length_map, List.length_append, List.length_nil] at all same ends ⊢
    omega
  refine ⟨sent, trails, tracked.trodden.requests, covers, tracked.closed,
    fun t ht f hf => (tracked.closed t ht).flagged hf, fun t f last hf => ?_⟩
  obtain ⟨outcome, brings, answer⟩ := hf
  have arrived : (new.map fun x => some x.2.outcome).getLast? = some (some outcome) := by
    have same := congrArg (List.map fun a : Arrival => some a.outcome) answers
    rw [List.map_map, List.map_map] at same
    change (new.map ((fun a : Arrival => some a.outcome) ∘ Prod.snd)).getLast? = _
    rw [same]
    change (s'.arrived.map fun x => some x.2.outcome).getLast? = _
    rw [← tracked.arrived, List.getLast?_map, last, Option.map_some, brings]
  rw [List.getLast?_map, Option.map_eq_some_iff] at arrived
  obtain ⟨x, last_answered, same⟩ := arrived
  have own : x.2.failure? = some f := by
    rw [Arrival.failure?_eq_some, Option.some.inj same, answer]
  exact (accounts.failed failure (congrArg some rfl) x f last_answered own).1

/-- A draft whose client sends a request once more. -/
def Settings.Draft.persistent : Draft := sample.withRetry [("maxRetries", .number 1.0)]

/-- A world in which two requests are answered with this status. -/
def World.answering (status : Float) : World :=
  (World.start 0.0 .silent .handed [] (.empty none)).prepare
    [⟨.errors status [], 0.0, [], []⟩, ⟨.errors status [], 0.0, [], []⟩]

/-- What asking for an item comes to with a client that sends a request once more: how often it does,
whether the failure may pass, and how many requests were sent. -/
def World.asked (w : World) : Option (Option Nat × Bool × Nat) :=
  Settings.Draft.persistent.build.toOption.bind fun s =>
    (Endpoint.ofBase s "users").toOption.bind fun e =>
      match w.run e (Base.get (.text "k")) with
      | (some (.error f), w') =>
        some (Number.natural? s.retry.maxRetries, f.isRetryable, w'.requests.length)
      | _ => none

theorem World.exists_of_asked {w : World} {most : Option Nat} {flag : Bool} {count : Nat}
    (h : w.asked = some (most, flag, count)) : ∃ s e failure,
      Number.natural? s.retry.maxRetries = most ∧ Endpoint.ofBase s "users" = .ok e ∧
      (w.run e (Base.get (.text "k"))).1 = some (.error failure) ∧ failure.isRetryable = flag ∧
      (w.run e (Base.get (.text "k"))).2.requests.length = count := by
  obtain ⟨s, -, rest⟩ := Option.bind_eq_some_iff.mp h
  obtain ⟨e, found, rest⟩ := Option.bind_eq_some_iff.mp rest
  have home : Endpoint.ofBase s "users" = .ok e := by
    cases found' : Endpoint.ofBase s "users" <;> rw [found'] at found <;> cases found
    rfl
  split at rest
  case h_1 failure w' ran =>
    cases rest
    exact ⟨s, e, failure, rfl, home, by rw [ran], rfl, by rw [ran]⟩
  case h_2 => cases rest

/-- After a status that is transient the request is sent once more. -/
theorem attempts_as_flagged_unavailable : ∃ s e failure sent trails,
    Number.natural? s.retry.maxRetries = some 1 ∧ Endpoint.ofBase s "users" = .ok e ∧
    ((World.answering 503.0).run e (Base.get (.text "k"))).1 = some (.error failure) ∧
    ((World.answering 503.0).run e (Base.get (.text "k"))).2.requests = sent ∧ sent.length = 2 ∧
    World.Cover trails 2 ∧
    ∀ t ∈ trails, t.IsClosed ⟨e, .handed, (World.answering 503.0).script, 1⟩ sent := by
  have asked : (World.answering 503.0).asked = some (some 1, true, 2) := by decide +kernel
  obtain ⟨s, e, failure, limit, home, failed, -, count⟩ := World.exists_of_asked asked
  have operation : (Base.get (.text "k")).Shows 0 fun _ => [] := .get _
  obtain ⟨sent, trails, requests, covers, closed, -⟩ := attempts_as_flagged operation limit
    (.inl home) (w := World.answering 503.0) rfl rfl (.inl trivial) failed
  have requests : ((World.answering 503.0).run e (Base.get (.text "k"))).2.requests = sent := requests
  rw [requests] at count
  exact ⟨s, e, failure, sent, trails, limit, home, failed, requests, count, count ▸ covers, closed⟩

/-- After an internal error, which is a failure that may pass, it is not. -/
theorem not_attempts_as_flagged_internalError : ∃ s e failure,
    Number.natural? s.retry.maxRetries = some 1 ∧ Endpoint.ofBase s "users" = .ok e ∧
    ((World.answering 500.0).run e (Base.get (.text "k"))).1 = some (.error failure) ∧
    failure.isRetryable = true ∧
    ((World.answering 500.0).run e (Base.get (.text "k"))).2.requests.length = 1 :=
  World.exists_of_asked (by decide +kernel)

end Depot
