import Depot.Proofs.Report.Failures
import Depot.Proofs.Session.Retrying
import Depot.Proofs.World.Landing
/-!
# Fetching

What an operation comes to whose requests go over a network, whatever the network does. It comes to
an end, since it has used up the responses otherwise; and each failure that it shows is one of the
client, since a call comes to no other one and the client adds no other.
-/
namespace Depot

/-- A call that has failed on a network has a failure of the client. -/
theorem Arrival.isClient_of_failure? {a : Arrival} (own : a.outcome.isOwn = true) {f : Failure}
    (failed : a.failure? = some f) : f.isClient = true := by
  rw [failure?_eq_some] at failed
  cases outcome : a.outcome with
  | error g =>
    rw [outcome] at failed own
    cases failed
    exact own
  | ok r =>
    rw [outcome, Exchange.answer, Exchange.failure?] at failed
    split at failed
    · cases failed
    · cases failed
      rw [Failure.ofStatus]
      cases Rejection.ofStatus? r.status <;> rfl

/-- A call that has not failed has had a response. -/
theorem Arrival.responses_of_failure? {a : Arrival} (succeeded : a.failure? = none) :
    a.outcome.responses = 1 := by
  rw [failure?] at succeeded
  cases outcome : a.outcome with
  | error g =>
    rw [outcome] at succeeded
    cases succeeded
  | ok r => rfl

namespace Scene

/-- How many responses have arrived. -/
def responses (s : Scene) : Nat := (s.arrived.map fun x => x.2.outcome.responses).sum

@[simp] theorem responses_land (s : Scene) (k : Nat) (a : Arrival) :
    (s.land k a).responses = s.responses + a.outcome.responses := by
  simp [responses]

/-- What calls have been answered with has arrived. -/
theorem answered_sublist (s : Scene) :
    (s.answered.map Prod.snd).Sublist (s.arrived.map Prod.snd) := by
  have all (past : List Incident) (l : Ledger) :
      ((past.foldl Ledger.enter l).answered.map Prod.snd).Sublist
        (l.answered.map Prod.snd ++ (past.filterMap Incident.arrival?).map Prod.snd) := by
    induction past generalizing l with
    | nil => simp
    | cons i rest ih =>
      have first : (i :: rest).filterMap Incident.arrival? =
          i.arrival?.toList ++ rest.filterMap Incident.arrival? := by cases i <;> rfl
      rw [first]
      refine (ih (l.enter i)).trans ?_
      cases i with
      | arrived k a =>
        rw [Ledger.enter]
        split <;> simp
      | reported | dated | read | told | sent => simp [Ledger.enter]
  exact all s.past ⟨[], []⟩

end Scene

namespace World

/-- The requests of a scene go over a network, and all that has arrived is a response or a failure
of the client; no more than `n` responses are there at all. -/
structure Fetches (w : World) (job most n : Nat) (s : Scene) : Prop where
  carries : w.Carries job most s.underWay
  desk : w.desk = s.desk
  own : ∀ x ∈ s.arrived, x.2.outcome.isOwn = true
  supply : s.responses + w.responses ≤ n

namespace Fetches
variable {e : Endpoint} {job most n : Nat} {w : World} {s : Scene}

theorem note (h : w.Fetches job most n s) {i : Incident} (arrival : i.arrival? = none) :
    w.Fetches job most n (s.note i) where
  carries := h.carries
  desk := h.desk
  own := by
    rw [Scene.arrived_note, arrival, Option.toList_none, List.append_nil]
    exact h.own
  supply := by
    rw [Scene.responses, Scene.arrived_note, arrival, Option.toList_none, List.append_nil]
    exact h.supply

theorem report (h : w.Fetches job most n s) (takes : w.TakesReports) (r : Report) : ∃ w',
    w.report r = (none, w') ∧ w'.Fetches job most n (s.note (.reported r)) ∧ w.Onward w' := by
  obtain ⟨w', taken, heard⟩ := exists_heard takes r
  obtain ⟨observer, past, rfl⟩ := heard.same
  have same := h.note (i := .reported r) rfl
  exact ⟨_, taken, { same with carries := { same.carries with } },
    ⟨⟨.refl _, heard.takes, .refl _⟩, Nat.le_refl _⟩⟩

theorem tell (h : w.Fetches job most n s) (u k : Nat) :
    (w.tell u k).2.Fetches job most n (s.note (.told u k)) ∧ w.Onward (w.tell u k).2 := by
  have same := h.note (i := .told u k) rfl
  rw [World.tell]
  cases w.listener.isSome with
  | false => exact ⟨same, ⟨⟨.refl _, id, .refl _⟩, Nat.le_refl _⟩⟩
  | true =>
    exact ⟨{ same with carries := { same.carries with } },
      ⟨⟨.refl _, id, .refl _⟩, Nat.le_refl _⟩⟩

theorem launch (h : w.Fetches job most n s) (limit : RetryPolicy.most? e.retry = some most)
    (k : Nat) (c : Call) :
    (w.launch job k (e.request c) e.retry).Fetches job most n (s.launch k c) ∧
      w.Onward (w.launch job k (e.request c) e.retry) := by
  obtain ⟨carries, onward, -⟩ := h.carries.send
    (f := ⟨job, k, e.request c, e.retry, 0, w.now, none, w.timed, .resting⟩) rfl limit
    (Nat.zero_le most)
  have underWay := carries.underWay.trans (List.perm_append_singleton k s.underWay).symm
  refine ⟨?_, onward⟩
  exact
    { carries := { carries with underWay := underWay }
      desk := h.desk
      own := by
        rw [Scene.arrived_launch]
        exact h.own
      supply := by
        rw [Scene.responses, Scene.arrived_launch]
        exact Nat.le_trans (Nat.add_le_add_left onward.responses _) h.supply }

theorem await (h : w.Fetches job most n s) (busy : s.underWay ≠ []) : ∃ f outcome w',
    w.awaitAny job = some (f, outcome, w') ∧ w.NotAfter w' ∧ (w.TakesUntil w' →
      f.ticket ∈ s.underWay ∧ w.Onward w' ∧ ∃ moves,
        w'.Fetches job most n ((s.stir moves).land f.ticket ⟨outcome, w'.now - f.began⟩)) := by
  obtain ⟨f, outcome, w', handed, after, ends⟩ := exists_awaitAny h.carries busy
  refine ⟨f, outcome, w', handed, after, fun takes => ?_⟩
  obtain ⟨under_way, own, carries, onward, supply⟩ := ends takes
  obtain ⟨moves, played⟩ := onward.desk
  refine ⟨under_way, onward, moves, ?_⟩
  exact
    { carries := carries
      desk := by
        rw [h.desk] at played
        exact (congrArg Prod.snd played).symm
      own := by
        rw [Scene.arrived_land, Scene.arrived_stir]
        intro x hx
        rcases List.mem_append.mp hx with hx | hx
        · exact h.own x hx
        · exact List.mem_singleton.mp hx ▸ own
      supply := by
        have before := h.supply
        rw [Scene.responses_land]
        have same : (s.stir moves).responses = s.responses := rfl
        simp only
        omega }

/-- What a job keeps is kept where its requests go over a network. -/
theorem exists_keeps {α : Type} {j : Job α} {I : Scene → Prop}
    {Q : Option (Outcome α) → Scene → Prop} (limit : RetryPolicy.most? e.retry = some most)
    (kept : j.Keeps I Q s) (h : w.Fetches job most n s)
    (takes : w.TakesUntil (w.runOn e job j).2) :
    ∃ s', Q (w.runOn e job j).1 s' ∧ (w.runOn e job j).2.Fetches job most n s' := by
  induction j generalizing w s with
  | finish result => exact ⟨s, kept.2, h⟩
  | stall => exact ⟨s, kept.2, h⟩
  | report r next ih =>
    obtain ⟨w', taken, h', onward⟩ := h.report takes.takesReports r
    have goes_on : w.runOn e job (.report r next) = w'.runOn e job (next none) := by
      rw [runOn, taken]
    rw [goes_on] at takes ⊢
    exact ih none kept.2 h' (takes.later onward.toLater (notAfter_runOn ..))
  | clock next ih => exact ih w.clock (kept.2 w.clock) (h.note rfl) takes
  | query ref next ih =>
    have goes_on : w.runOn e job (.query ref next) = w.runOn e job (next (s.desk.queryAt ref)) := by
      rw [runOn, h.desk]
    rw [goes_on] at takes ⊢
    exact ih _ kept.2 (h.note rfl) takes
  | progress u k next ih =>
    obtain ⟨h', onward⟩ := h.tell u k
    exact ih _ (kept.2 _) h' (takes.later onward.toLater (notAfter_runOn ..))
  | launch k c next ih =>
    obtain ⟨h', onward⟩ := h.launch limit k c
    exact ih kept.2 h' (takes.later onward.toLater (notAfter_runOn ..))
  | await next ih =>
    obtain ⟨f, outcome, w', handed, after, lands⟩ := h.await kept.2.1
    have goes_on : w.runOn e job (.await next) =
        w'.runOn e job (next f.ticket ⟨outcome, w'.now - f.began⟩) := by
      rw [runOn, handed]
    rw [goes_on] at takes ⊢
    have later := notAfter_runOn e job (next f.ticket ⟨outcome, w'.now - f.began⟩) w'
    obtain ⟨under_way, onward, moves, h'⟩ := lands
      (takes.imp_right fun dated => ⟨dated.1, dated.1.between dated.2 after later⟩)
    exact ih _ _ (kept.2.2 moves _ _ under_way) h' (takes.later onward.toLater later)
  | detach => exact kept.elim

end Fetches

variable {w : World}

/-- Nothing has been sent yet. -/
theorem fetches_withJob {limitMs : Float} (fetching : w.channel = .network limitMs)
    (idle : w.flights = []) (alone : w.chores = []) (most : Nat) :
    w.withJob.Fetches w.jobs most w.script.length ⟨[], w.desk, []⟩ where
  carries :=
    { network := ⟨limitMs, fetching⟩
      alone := alone
      flying := by
        rw [withJob, idle]
        exact fun f hf => absurd hf List.not_mem_nil
      underWay := by
        rw [withJob, idle]
        exact .nil }
  desk := rfl
  own := fun x hx => absurd hx List.not_mem_nil
  supply := by simp [Scene.responses, Scene.arrived, responses, withJob, idle]

end World

namespace Scene
variable {s : Scene} {answered : List (Call × Arrival)} (h : s.answered = answered)
include h

/-- What has arrived tells about all that has been answered. -/
theorem forall_answered {P : Arrival → Prop} (all : ∀ x ∈ s.arrived, P x.2) :
    ∀ x ∈ answered, P x.2 := by
  intro x hx
  obtain ⟨y, hy, same⟩ := List.mem_map.mp
    (s.answered_sublist.subset (List.mem_map_of_mem (h ▸ hx)))
  exact same ▸ all y hy

/-- Calls that have succeeded have had a response each. -/
theorem length_le_responses (all : AllSucceed answered) : answered.length ≤ s.responses := by
  have each : (answered.map Prod.snd).map (fun a => a.outcome.responses) =
      List.replicate answered.length 1 := by
    rw [List.map_map, List.eq_replicate_iff]
    refine ⟨List.length_map .., fun n hn => ?_⟩
    obtain ⟨x, hx, rfl⟩ := List.mem_map.mp hn
    exact Arrival.responses_of_failure? (all x hx)
  have fewer := ((h ▸ s.answered_sublist).map fun a : Arrival => a.outcome.responses).sum_le_sum
    fun _ _ => Nat.zero_le _
  rw [each, List.sum_replicate, smul_eq_mul, Nat.mul_one, List.map_map] at fewer
  exact fewer

end Scene

/-- Where the requests of a client with these settings go: those of a query without a base go
nowhere. -/
inductive Endpoint.IsOf (s : Settings) : Endpoint → Prop where
  | base {name : String} {e : Endpoint} (found : Endpoint.ofBase s name = .ok e) : IsOf s e
  | drive {name : String} {e : Endpoint} (found : Endpoint.ofDrive s name = .ok e) : IsOf s e
  | nowhere : IsOf s (Errand.nowhere s)

/-- Whatever settings are accepted, there is a limit to the retries. -/
theorem Endpoint.IsOf.exists_most {d : Settings.Draft} {s : Settings} (accepted : d.build = .ok s)
    {e : Endpoint} (home : e.IsOf s) : ∃ most, RetryPolicy.most? e.retry = some most := by
  obtain ⟨p, -, fits⟩ := Persistence.exists_fits_of_build accepted .handed
  cases home with
  | base found => exact ⟨_, (fits.covers_ofBase found).most⟩
  | drive found => exact ⟨_, (fits.covers_ofDrive found).most⟩
  | nowhere => exact ⟨0, rfl⟩

/-- A world that logs to a console, and whose network answers to an upload in two parts but throws a
bare value in place of one answer. -/
def brokenPart : World :=
  (World.start 0.0 (.console 0.0) (.network 30000.0) [] (.empty none)).prepare
    [⟨.json (.record [("upload_id", .text "u"), ("name", .text "f")]) 202.0, 0.0, [], []⟩,
      ⟨.json (.record []) 200.0, 0.0, [], []⟩, ⟨.failed (.thrown "reset"), 0.0, [], []⟩,
      ⟨.json (.record []) 200.0, 0.0, [], []⟩]

end Depot
