import Mathlib.Data.List.Forall2
import Depot.Proofs.Session.Retrying
import Depot.Settings.Draft
/-!
# Retries that nobody sees

Who asks a client for one thing after another cannot tell whether it repeats its requests: without
retries, and without the transient outcomes after which there are some, everything comes to the same.
-/
namespace Depot

theorem Meter.SameTotals.refl (m : Meter Nat) : m.SameTotals m := by
  cases m with
  | kept m => exact Eq.refl m.totals
  | ignored => trivial

theorem Meter.SameTotals.totals {m m' : Meter Nat} (h : m.SameTotals m') :
    m'.metrics.totals = m.metrics.totals := by
  cases m with
  | ignored =>
    cases m' with
    | ignored => rfl
    | kept => exact h.elim
  | kept =>
    cases m' with
    | ignored => exact h.elim
    | kept => exact h

theorem Meter.SameTotals.totalAt {m m' : Meter Nat} (h : m.SameTotals m') (key : String) :
    m'.metrics.totalAt key = m.metrics.totalAt key := by
  rw [Metrics.totalAt, Metrics.totalAt, h.totals]

theorem Meter.SameTotals.totalsSince {m m' earlier earlier' : Meter Nat} (h : m.SameTotals m')
    (before : earlier.SameTotals earlier') :
    m'.metrics.totalsSince earlier'.metrics = m.metrics.totalsSince earlier.metrics := by
  simp only [Metrics.totalsSince, h.totals, before.totalAt]

/-- Nothing is under way, and the caller does nothing before a response. -/
structure World.IsQuiet (w : World) : Prop where
  idle : w.flights = []
  calm : ∀ x ∈ w.script, x.moves = []

/-- Two replies whose results are the same, and are an end, and whose pages, amounts and counters are
the same. -/
structure Reply.SameToCaller (r r' : Reply) : Prop where
  ended : r.result.IsEnd
  result : r'.result = r.result
  pages : r'.pages = r.pages
  tellings : r'.tellings = r.tellings
  counters : r'.counters = r.counters

namespace Session

/-- Commands for which no more responses are prepared. -/
def asked (commands : List Command) : List (Command × List Prepared) := commands.map (·, [])

/-- The same session with responses prepared for it. -/
def supply (s : Session) (script : List Prepared) : Session :=
  { s with world := s.world.prepare script }

/-- The session after commands. -/
def afterAll (s : Session) : List (Command × List Prepared) → Session
  | [] => s
  | (c, responses) :: rest => (s.perform c responses).2.afterAll rest

/-- The clock shows a date before each command and after the last. -/
def StaysDated (s : Session) : List (Command × List Prepared) → Prop
  | [] => s.world.IsDated
  | (c, responses) :: rest => s.world.IsDated ∧ (s.perform c responses).2.StaysDated rest

instance StaysDated.decidable : (s : Session) → (commands : List (Command × List Prepared)) →
    Decidable (s.StaysDated commands)
  | s, [] => inferInstanceAs (Decidable s.world.IsDated)
  | s, (c, responses) :: rest =>
    have := StaysDated.decidable (s.perform c responses).2 rest
    inferInstanceAs (Decidable (_ ∧ _))

theorem StaysDated.begins {s : Session} {commands : List (Command × List Prepared)}
    (h : s.StaysDated commands) : s.world.IsDated := by
  cases commands with
  | nil => exact h
  | cons => exact h.1

namespace Twins
variable {p : Persistence} {always : Prop} {script : List Prepared} {s s' : Session}
  (h : Twins p always script s s')
include h

/-- The requests of twins are counted anew. -/
theorem afresh : Twins p always s.world.script { s with world := s.world.afresh.prepare [] }
    { s' with world := s'.world.afresh.prepare [] } := by
  have unchanged (w : World) : w.afresh.prepare [] = w.afresh := by
    simp only [World.prepare, World.afresh, List.append_nil]
  have forgotten : World.Twins p always s.world.script s'.world.script.length s.world.afresh
      s'.world.afresh :=
    { h.world with rest := rfl, requests := rfl, tellings := rfl, pages := rfl }
  rw [unchanged, unchanged]
  exact h.withWorld forgotten

/-- The reply to a command is the same to the caller. -/
theorem perform {c : Command} (sequential : c.isSequential = true)
    (takes : World.TakesBetween always s.world (s.perform c []).2.world)
    (takes' : World.TakesBetween always s'.world (s'.perform c []).2.world) :
    (s.perform c []).1.SameToCaller (s'.perform c []).1 ∧
      Twins p always s.world.script (s.perform c []).2 (s'.perform c []).2 ∧
      (s.perform c []).1.requests = (s.perform c []).2.world.requests ∧
      (s'.perform c []).1.requests = (s'.perform c []).2.world.requests := by
  have carried := h.afresh.carryOut sequential takes takes'
  rw [Session.perform, Session.perform]
  generalize ({ s with world := s.world.afresh.prepare [] } : Session).carryOut c = x at carried ⊢
  generalize ({ s' with world := s'.world.afresh.prepare [] } : Session).carryOut c = x'
    at carried ⊢
  obtain ⟨result, next⟩ := x
  obtain ⟨result', next'⟩ := x'
  obtain ⟨same, ended, twins⟩ := carried
  refine ⟨?_, twins, rfl, rfl⟩
  exact
    { ended := ended
      result := same
      pages := by
        cases c with
        | pages => exact congrArg some twins.world.pages
        | _ => rfl
      tellings := by
        cases c with
        | upload _ _ _ _ listener =>
          cases listener with
          | none => rfl
          | some l => exact congrArg some twins.world.tellings
        | _ => rfl
      counters := twins.world.totals.totalsSince h.world.totals }

/-- The requests for all commands are repeated over one script. -/
theorem performAll {commands : List Command} (sequential : ∀ c ∈ commands, c.isSequential = true)
    (dated : always ∨ s.StaysDated (asked commands))
    (dated' : always ∨ s'.StaysDated (asked commands)) : List.Forall₂ Reply.SameToCaller (s.performAll (asked commands)) (s'.performAll (asked commands)) ∧
      (s.performAll (asked commands)).flatMap Reply.requests =
        p.repeated s.world.script ((s'.performAll (asked commands)).flatMap Reply.requests) ∧
      ∃ since, Twins p always since (s.afterAll (asked commands)) (s'.afterAll (asked commands)) := by
  induction commands generalizing script s s' with
  | nil => exact ⟨.nil, rfl, script, h⟩
  | cons c rest ih =>
    obtain ⟨first, others⟩ := List.forall_mem_cons.mp sequential
    obtain ⟨reply, twins, sent, sent'⟩ := h.perform first
      (dated.imp_right fun dates => ⟨dates.1, dates.2.begins⟩)
      (dated'.imp_right fun dates => ⟨dates.1, dates.2.begins⟩)
    obtain ⟨replies, requests, after⟩ :=
      ih twins others (dated.imp_right And.right) (dated'.imp_right And.right)
    refine ⟨.cons reply replies, ?_, after⟩
    change (s.perform c []).1.requests ++
        ((s.perform c []).2.performAll (asked rest)).flatMap Reply.requests =
      p.repeated s.world.script ((s'.perform c []).1.requests ++
        ((s'.perform c []).2.performAll (asked rest)).flatMap Reply.requests)
    rw [p.repeated_append, sent, sent', requests, twins.world.requests, ← twins.world.rest]

end Twins

/-- A client that begins, with a record clock that stands still. -/
def supplied (s : Settings) (observer : Observer) (now clock : Float) (channel : Channel)
    (draws : List Float) (script : List Prepared) : Session :=
  (start s observer now (some clock) channel draws).supply script

theorem twins_supplied {s : Settings} {p : Persistence} (fits : p.Fits s) (observer : Observer)
    (now clock : Float) (draws : List Float) {script : List Prepared}
    (calm : ∀ x ∈ script, x.moves = []) :
    Twins p observer.logger.TakesAll script (supplied s observer now clock p.channel draws script)
      (supplied s.plain observer now clock p.channel draws (p.thinned script)) where
  fits := fits
  settings := rfl
  world :=
    { takes := fun all => ⟨all, all⟩
      totals := .refl observer.meter
      desk := rfl
      homes := .empty fun _ _ found => fits.covers_ofBase found
      listener := rfl
      channel := ⟨rfl, rfl⟩
      stopped := ⟨clock, rfl, rfl⟩
      idle := ⟨rfl, rfl⟩
      alone := ⟨rfl, rfl⟩
      calm := calm
      thinned := rfl
      short := Nat.le_refl _
      rest := rfl
      requests := rfl
      tellings := rfl
      pages := rfl }
  patches := rfl
  homes := fun _ _ found => by cases found

end Session

/-- Without retries a client is the same as the one that never repeats a request. -/
theorem Endpoint.plain_under_of_once {s : Settings} (once : s.retry.allows 0 = false)
    (service name : String) : (under s service name).plain = under s service name := by
  rw [under, once]
  rfl

/-- A client that has no retries, in place of one that has none either. -/
def Disguise.once : Disguise where
  toRecast := Recast.ofUnder (fun s => if s.retry.allows 0 then s else s.plain) id
    (fun s name => by
      cases once : s.retry.allows 0 with
      | true => rfl
      | false => exact (Endpoint.under_plain ..).trans (Endpoint.plain_under_of_once once ..))
    (fun s name => by
      cases once : s.retry.allows 0 with
      | true => rfl
      | false => exact (Endpoint.under_plain ..).trans (Endpoint.plain_under_of_once once ..))
    (fun s => by cases s.retry.allows 0 <;> rfl)
  sent := id
  request _ _ := rfl
  retry _ := rfl
  method _ := rfl
  url _ := rfl
  timeoutMs _ := rfl

namespace Session

/-- Without retries nothing is different at all. -/
theorem performAll_plain {s : Settings} {p : Persistence} (fits : p.Fits s) (once : p.most = 0)
    (observer : Observer) (now clock : Float) (draws : List Float) (script : List Prepared)
    {commands : List Command} (sequential : ∀ c ∈ commands, c.isSequential = true) :
    (supplied s.plain observer now clock p.channel draws script).performAll (asked commands) =
      (supplied s observer now clock p.channel draws script).performAll (asked commands) := by
  have none_left : s.retry.allows 0 = false := by rw [RetryPolicy.allows, fits.most, once]; rfl
  have settings : Disguise.once.settings s = s.plain := by
    change (if s.retry.allows 0 then s else s.plain) = s.plain
    rw [none_left]
    rfl
  have disguised : supplied s.plain observer now clock p.channel draws script =
      Disguise.once.session (supplied s observer now clock p.channel draws script) := by
    rw [← settings]
    rfl
  have ofClient : ∀ x ∈ asked commands, x.1.isOfClient = true := by
    intro x hx
    obtain ⟨c, hc, rfl⟩ := List.mem_map.mp hx
    exact Command.isOfClient_of_isSequential (sequential c hc)
  have same (r : Reply) : Disguise.once.reply r = r := by
    have requests : r.requests.map Disguise.once.sent = r.requests := List.map_id _
    rw [Disguise.reply, requests]
  rw [disguised, Disguise.performAll_session _ _ ofClient, funext same, List.map_id']

/-- What the caller of two clients gets for commands, of which the first client repeats its requests. -/
structure SeenAlike (p : Persistence) (s s' : Session) (commands : List (Command × List Prepared)) :
    Prop where
  replies : List.Forall₂ Reply.SameToCaller (s.performAll commands) (s'.performAll commands)
  /-- Each request is sent once, and once more after each of the transient outcomes in front of those
  that are left, up to the most retries. -/
  requests : (s.performAll commands).flatMap Reply.requests =
    p.repeated s.world.script ((s'.performAll commands).flatMap Reply.requests)
  /-- Every counter ends with the same value. -/
  counters : ∀ name labels, (s'.afterAll commands).world.observer.meter.metrics.counter name labels =
    (s.afterAll commands).world.observer.meter.metrics.counter name labels

/-- Every request of a client is repeated after the transient outcomes in front of those that are left,
up to the most retries, and has the outcome that comes next. Whatever the caller asks for, one thing
after another, has the same result or failure, and every counter the same value, as for a client
without retries to which none of those outcomes happens; if there are no retries, the two clients do
the same. A request is not repeated unless that can be logged; so the logger takes every entry, or
the clocks show dates. -/
theorem retries_go_unseen {s : Settings} {p : Persistence} (fits : p.Fits s) {observer : Observer}
    {now clock : Float} {draws : List Float} {script : List Prepared}
    (calm : ∀ x ∈ script, x.moves = []) {commands : List Command}
    (sequential : ∀ c ∈ commands, c.isSequential = true) :
    (∀ name e, Endpoint.ofBase s name = .ok e ∨ Endpoint.ofDrive s name = .ok e →
      ∀ w : World, w.IsQuiet → w.channel = p.channel →
      ∀ c, w.TakesUntil (w.fetch (e.request c) e.retry).2 → ∃ w₁,
        w.fetch (e.request c) e.retry = (some (p.channel.outcome (e.request c)
          (w.script.drop (p.retries w.script)).head?), w₁) ∧
        w₁.requests = w.requests ++ List.replicate (p.retries w.script + 1) (e.request c) ∧
        w₁.script = w.script.drop (p.retries w.script + 1)) ∧
    (observer.logger.TakesAll ∨
        (supplied s observer now clock p.channel draws script).StaysDated (asked commands) ∧
        (supplied s.plain observer now clock p.channel draws (p.thinned script)).StaysDated
          (asked commands) →
      SeenAlike p (supplied s observer now clock p.channel draws script)
        (supplied s.plain observer now clock p.channel draws (p.thinned script)) (asked commands)) ∧
    (p.most = 0 →
      (supplied s.plain observer now clock p.channel draws script).performAll (asked commands) =
        (supplied s observer now clock p.channel draws script).performAll (asked commands)) := by
  refine ⟨?_, fun takes => ?_, fun once => ?_⟩
  · intro name e found w quiet channel c takes
    have covered : p.Covers e := found.elim fits.covers_ofBase fits.covers_ofDrive
    obtain ⟨w₁, fetched, sent, rest⟩ := World.fetch_eq quiet.idle quiet.calm (e.request c)
      covered.most takes
    have retries : w.channel.retries (e.request c).timeoutMs p.most w.script = p.retries w.script := by
      rw [channel, Persistence.retries, covered.timeoutMs]
      rfl
    rw [retries] at fetched sent rest
    rw [channel] at fetched
    exact ⟨w₁, fetched, sent, rest⟩
  · have twins := twins_supplied fits observer now clock draws calm
    obtain ⟨replies, requests, since, after⟩ := twins.performAll sequential
      (takes.imp_right And.left) (takes.imp_right And.right)
    exact ⟨replies, requests, fun name labels => after.world.totals.totalAt _⟩
  · exact performAll_plain fits once observer now clock draws script sequential

/-- Settings with two retries. -/
def patient : Settings :=
  { projectKey := ⟨Settings.Draft.sampleKey⟩
    projectId := "testproj"
    baseUrl := Settings.defaultBaseUrl
    driveUrl := Settings.defaultDriveUrl
    requestTimeoutMs := Settings.defaultTimeoutMs
    userAgent := Settings.defaultUserAgent
    retry := { RetryPolicy.standard with maxRetries := 2.0 }
    retryNotes := [] }

/-- Two transient outcomes, and then an answer. -/
def lateAnswer : List Prepared :=
  [⟨.errors 503.0 [], 0.0, [], []⟩, ⟨.errors 429.0 [], 0.0, [], []⟩,
    ⟨.json (.record [("key", .text "k")]) 200.0, 0.0, [], []⟩]

/-- A deletion that is answered at the third attempt, by clients that write lines and count. -/
theorem retries_go_unseen_thrice :
    let p : Persistence := ⟨.handed, some Settings.defaultTimeoutMs, 2⟩
    p.retries lateAnswer = 2 ∧
      SeenAlike p (supplied patient ⟨.console 0.0, .kept .empty⟩ 0.0 0.0 .handed [] lateAnswer)
        (supplied patient.plain ⟨.console 0.0, .kept .empty⟩ 0.0 0.0 .handed [] (p.thinned lateAnswer))
        (asked [.delete "users" (.text "k")]) := by
  have fits : Persistence.Fits ⟨.handed, some Settings.defaultTimeoutMs, 2⟩ patient :=
    ⟨by decide +kernel, rfl⟩
  exact ⟨by decide +kernel, (retries_go_unseen fits (by simp [lateAnswer])
    (by simp [Command.isSequential, Command.isOfClient])).2.1 (.inr (by decide +kernel))⟩

end Session
end Depot
