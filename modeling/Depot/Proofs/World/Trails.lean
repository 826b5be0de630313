import Mathlib.Data.List.Perm.Basic
import Depot.Proofs.World.Landing
/-!
# Trails

Every request that is sent is an attempt at a call, whatever else is under way at the same time. The
trail of a call has all of its attempts, each with its place among the requests and with what came of
it; the response that it took is the one with the same place among those that were prepared.
-/
namespace Depot

/-- An attempt at a call: the place of its request among all that were sent, and what came of it. -/
structure Attempt where
  place : Nat
  outcome : Outcome Response

/-- The attempts at a call. The place of the one that is under way is `current`. -/
structure Trail where
  ticket : Nat
  call : Call
  attempts : List Attempt
  current : Option Nat

/-- The places of all attempts. -/
def Trail.places (t : Trail) : List Nat := t.attempts.map Attempt.place ++ t.current.toList

/-- The trail after the attempt under way has come to something. -/
def Trail.after (t : Trail) (a : Attempt) : Trail :=
  { t with attempts := t.attempts ++ [a], current := none }

/-- Which call a trail is about. -/
def Trail.key (t : Trail) : Nat × Call := (t.ticket, t.call)

/-- What the last attempt has come to. -/
def Trail.outcome? (t : Trail) : Option (Outcome Response) := t.attempts.getLast?.map Attempt.outcome

namespace Channel

/-- What a failure comes to that takes the place of a response. -/
def failing (c : Channel) (r : Request) (f : Failure) : Failure :=
  match c with
  | .handed => f
  | .network limitMs => Fetch.failure (r.timeoutMs.getD limitMs) f

/-- What a request comes to with a prepared response: that one, unless a move fails that the caller
makes before. -/
inductive Yields (c : Channel) (r : Request) (x : Option Prepared) : Outcome Response → Prop
  | arrived : Yields c r x (c.outcome r x)
  | moved {p : Prepared} {d : Desk} {f : Failure} (prepared : x = some p)
    (failed : (d.playAll p.moves).1 = some f) : Yields c r x (.error (c.failing r f))

end Channel

/-- Where the requests of a job go, how they are carried, the responses that are prepared for them,
and how often each is sent once more at most. -/
structure Carrier where
  home : Endpoint
  channel : Channel
  script : List Prepared
  most : Nat

section Trails
variable (c : Carrier) (sent : List Request)

/-- This is an attempt at a call. -/
structure Attempt.IsAt (call : Call) (a : Attempt) : Prop where
  sent : sent[a.place]? = some (c.home.request call)
  outcome : c.channel.Yields (c.home.request call) c.script[a.place]? a.outcome

/-- A trail on which a flight is: it has been sent once more after each attempt so far, as each had a
transient outcome. -/
structure Trail.IsOpen (job : Nat) (t : Trail) (f : Flight) : Prop where
  ofJob : f.job = job
  limit : RetryPolicy.most? f.policy = some c.most
  ticket : f.ticket = t.ticket
  request : f.request = c.home.request t.call
  retries : f.retries = t.attempts.length
  within : t.attempts.length ≤ c.most
  past : ∀ a ∈ t.attempts, a.IsAt c sent t.call ∧ Retry.isTransient a.outcome = true
  increasing : t.places.Pairwise (· < ·)
  arriving : ∀ outcome moves, f.stage = .arriving outcome moves → ∃ place,
    t.current = some place ∧ sent[place]? = some f.request ∧
      outcome = c.channel.outcome f.request c.script[place]? ∧
      (moves = [] ∨ ∃ p, c.script[place]? = some p ∧ p.moves = moves)
  resting : f.stage = .resting → t.current = none

/-- A trail that has come to its end: all attempts but the last had transient outcomes, and so had the
last one only if it was the last that is allowed. -/
structure Trail.IsClosed (t : Trail) : Prop where
  current : t.current = none
  attempts : ∀ a ∈ t.attempts, a.IsAt c sent t.call
  increasing : t.places.Pairwise (· < ·)
  again : ∀ a ∈ t.attempts.dropLast, Retry.isTransient a.outcome = true
  ends : ∃ a, t.attempts.getLast? = some a ∧
    (Retry.isTransient a.outcome = true → t.attempts.length = c.most + 1)
  length_le : t.attempts.length ≤ c.most + 1

end Trails

section Later
variable {c : Carrier} {sent : List Request} (more : List Request)

theorem Attempt.IsAt.later {call : Call} {a : Attempt} (h : a.IsAt c sent call) :
    a.IsAt c (sent ++ more) call where
  sent := by rw [List.getElem?_append_left (List.getElem?_eq_some_iff.mp h.sent).1, h.sent]
  outcome := h.outcome

theorem Trail.IsOpen.later {job : Nat} {t : Trail} {f : Flight} (h : t.IsOpen c sent job f) :
    t.IsOpen c (sent ++ more) job f :=
  { h with
    past := fun a ha => ⟨(h.past a ha).1.later more, (h.past a ha).2⟩
    arriving := fun outcome moves stage => by
      obtain ⟨place, current, there, rest⟩ := h.arriving outcome moves stage
      refine ⟨place, current, ?_, rest⟩
      rw [List.getElem?_append_left (List.getElem?_eq_some_iff.mp there).1, there] }

theorem Trail.IsClosed.later {t : Trail} (h : t.IsClosed c sent) : t.IsClosed c (sent ++ more) :=
  { h with attempts := fun a ha => (h.attempts a ha).later more }

end Later

namespace World

/-! ## What leaves the requests as they are -/

theorem requests_rest (w : World) (f : Flight) (policy : RetryPolicy) (reason : String) :
    (w.rest f policy reason).2.requests = w.requests := by
  have same := requests_report w.draw.2
    (Retry.Step.mk (f.retries + 1) reason
      (policy.delay (Float.ofNat (f.retries + 1)) w.draw.1)).report
  simp only [rest]
  split <;> rename_i taken <;> rw [taken] at same
  · exact same
  · refine Eq.trans ?_ same
    simp [requests, history, happen]

/-- A request takes the next prepared response, with the moves of the caller before it. -/
theorem exists_answer (w : World) (r : Request) : ∃ ms moves,
    w.answer r = (ms, w.channel.outcome r w.script.head?, moves, w.script.tail) ∧
      (moves = [] ∨ ∃ p, w.script.head? = some p ∧ p.moves = moves) := by
  rw [answer]
  cases w.script with
  | nil => cases w.channel <;> exact ⟨_, _, rfl, .inl rfl⟩
  | cons p rest =>
    cases w.channel with
    | handed => exact ⟨_, _, rfl, .inr ⟨p, rfl, rfl⟩⟩
    | network limitMs =>
      refine ⟨_, _, rfl, ?_⟩
      split
      · exact .inl rfl
      · exact .inr ⟨p, rfl, rfl⟩

/-- A world whose flights are on trails. -/
structure IsTrodden (w : World) (c : Carrier) (job : Nat) (before sent : List Request)
    (under : List Trail) : Prop where
  channel : w.channel = c.channel
  alone : w.chores = []
  requests : w.requests = before ++ sent
  script : w.script = c.script.drop sent.length
  flying : List.Forall₂ (Trail.IsOpen c sent job) under w.flights

/-- Each of so many requests is an attempt on exactly one of the trails. -/
def Cover (trails : List Trail) (count : Nat) : Prop :=
  (trails.flatMap Trail.places).Perm (List.range count)

namespace IsTrodden
variable {w : World} {c : Carrier} {job : Nat} {before sent : List Request} {under : List Trail}

theorem turnTo (h : w.IsTrodden c job before sent under) {f : Flight} {others : List Flight}
    (first : first? w.flights = some (f, others)) : ∃ t rest, under.Perm (t :: rest) ∧
      t.IsOpen c sent job f ∧ (w.turnTo f others).IsTrodden c job before sent rest := by
  obtain ⟨trails, flying, perm⟩ :=
    List.perm_comp_forall₂ (first?_perm first).symm h.flying.flip
  cases flying with
  | @cons _ t _ rest flies others =>
    exact ⟨t, rest, perm.symm, flies, { h with flying := others.flip }⟩

/-- A request is sent, for the first time or once more. -/
theorem send (h : w.IsTrodden c job before sent under) {t : Trail} {f : Flight}
    (flies : t.IsOpen c sent job f) (rests : t.current = none) :
    (w.send f).IsTrodden c job before (sent ++ [f.request])
      ({ t with current := some sent.length } :: under) := by
  obtain ⟨ms, moves, answered, prepared⟩ := w.exists_answer f.request
  have next : w.script.head? = c.script[sent.length]? := by rw [h.script, List.head?_drop]
  have earlier : ∀ a ∈ t.attempts, a.place < sent.length := fun a ha =>
    (List.getElem?_eq_some_iff.mp (flies.past a ha).1.sent).1
  rw [World.send, answered]
  exact
    { channel := h.channel
      alone := h.alone
      requests := by
        have all := congrArg (· ++ [f.request]) h.requests
        simpa [World.requests, history, happen] using all
      script := by
        rw [h.script, List.tail_drop, List.length_append, List.length_singleton]
      flying := by
        refine .cons ?_ (h.flying.imp fun t f open_ => open_.later [_])
        exact
          { flies.later [f.request] with
            increasing := by
              have past := flies.increasing
              rw [Trail.places, rests, Option.toList_none, List.append_nil] at past
              rw [Trail.places, List.pairwise_append]
              refine ⟨past, List.pairwise_singleton .., fun x hx y hy => ?_⟩
              obtain ⟨a, ha, rfl⟩ := List.mem_map.mp hx
              have last : y = sent.length := by simpa using hy
              exact last ▸ earlier a ha
            arriving := by
              rintro outcome moves' stage
              cases stage
              rw [next] at prepared
              exact ⟨sent.length, rfl, List.getElem?_concat_length .., by rw [h.channel, next], prepared⟩
            resting := fun resting => by cases resting } }

/-- A response, or the failure of a move before it, is what the attempt under way has come to. -/
theorem exists_attempt (h : w.IsTrodden c job before sent under) {t : Trail} {f : Flight}
    (flies : t.IsOpen c sent job f) {outcome : Outcome Response} {moves : List Desk.Move}
    (stage : f.stage = .arriving outcome moves) : ∃ a : Attempt,
      a.outcome = (w.settleMoves f.request outcome moves).1 ∧ t.current = some a.place ∧
        a.IsAt c sent t.call := by
  obtain ⟨place, current, there, rfl, prepared⟩ := flies.arriving outcome moves stage
  refine ⟨⟨place, _⟩, rfl, current, flies.request ▸ there, ?_⟩
  have failing (f : Failure) (r : Request) : w.failing r f = c.channel.failing r f := by
    rw [World.failing, h.channel]
    rfl
  rw [← flies.request]
  simp only [settleMoves, failing]
  cases failed : (w.desk.playAll moves).1 with
  | none => exact .arrived
  | some g =>
    rcases prepared with rfl | ⟨p, prepared, rfl⟩
    · cases failed
    · exact .moved prepared failed

end IsTrodden

/-! ## What each request is -/

theorem Cover.perm {trails trails' : List Trail} {count : Nat} (h : Cover trails count)
    (same : trails.Perm trails') : Cover trails' count :=
  (same.flatMap_right Trail.places).symm.trans h

theorem places_after {t : Trail} {a : Attempt} (arrived : t.current = some a.place) :
    (t.after a).places = t.places := by
  simp [Trail.places, Trail.after, arrived]

section Covering
variable {ended rest : List Trail} {t : Trail} {count : Nat} (h : Cover (ended ++ t :: rest) count)
include h

/-- The next request is one more attempt. -/
theorem Cover.send (rests : t.current = none) :
    Cover (ended ++ { t with current := some count } :: rest) (count + 1) := by
  have places : Trail.places { t with current := some count } = t.places ++ [count] := by
    simp [Trail.places, rests]
  have after := (h.append_right [count]).trans (List.Perm.of_eq List.range_succ.symm)
  refine List.Perm.trans ?_ after
  simp only [List.flatMap_append, List.flatMap_cons, places, List.append_assoc]
  exact (List.perm_append_comm.append_left t.places).append_left _

/-- What comes of an attempt leaves the requests as they are. -/
theorem Cover.after {a : Attempt} (arrived : t.current = some a.place) :
    Cover (ended ++ t.after a :: rest) count := by
  simpa [Cover, places_after arrived] using h

end Covering

/-- A flight has come to its end: what it brings is the outcome of the last attempt on its trail, and
each request that has been sent is an attempt on exactly one trail. -/
def Closes (w : World) (c : Carrier) (job : Nat) (before sent : List Request)
    (under ended : List Trail) (f : Flight) (outcome : Outcome Response) (w' : World) : Prop :=
  ∃ more t rest, w'.IsTrodden c job before (sent ++ more) rest ∧ t.IsClosed c (sent ++ more) ∧
    t.outcome? = some outcome ∧ f.job = job ∧ f.ticket = t.ticket ∧
    ((t :: rest).map Trail.key).Perm (under.map Trail.key) ∧
    Cover (ended ++ t :: rest) (sent ++ more).length ∧ w.Later w'

theorem Closes.prepend {w w₁ w' : World} {c : Carrier} {job : Nat}
    {before sent sent₁ : List Request} {under under₁ ended : List Trail} {f : Flight}
    {outcome : Outcome Response} (closes : w₁.Closes c job before sent₁ under₁ ended f outcome w')
    (grown : ∃ more, sent₁ = sent ++ more) (same : (under₁.map Trail.key).Perm (under.map Trail.key)) (later : w.Later w₁) :
    w.Closes c job before sent under ended f outcome w' := by
  obtain ⟨more, rfl⟩ := grown
  obtain ⟨others, t, rest, trodden, closed, brings, ofJob, ticket, keys, covers, later'⟩ := closes
  rw [List.append_assoc] at trodden closed covers
  exact ⟨more ++ others, t, rest, trodden, closed, brings, ofJob, ticket, keys.trans same, covers,
    later.trans later'⟩

section Landing
variable {w w' : World} {c : Carrier} {job : Nat} {before sent : List Request}
  {rest ended : List Trail} {t : Trail} {f : Flight} {a : Attempt}
  (flies : t.IsOpen c sent job f) (attempt : a.IsAt c sent t.call)
  (arrived : t.current = some a.place)
include flies attempt arrived

/-- An attempt after which there is no other one. -/
theorem isClosed_after (last : again? f a.outcome = none) : (t.after a).IsClosed c sent := by
  obtain ⟨left, most⟩ := Nat.exists_eq_add_of_le flies.within
  have limit : RetryPolicy.most? f.policy = some (f.retries + left) := by
    rw [flies.limit, flies.retries, most]
  have repeated := again?_eq limit a.outcome
  exact
    { current := rfl
      attempts := fun b hb => (List.mem_append.mp hb).elim (fun hb => (flies.past b hb).1)
        fun hb => List.mem_singleton.mp hb ▸ attempt
      increasing := places_after arrived ▸ flies.increasing
      again := by
        rw [Trail.after, List.dropLast_concat]
        exact fun b hb => (flies.past b hb).2
      ends := by
        refine ⟨a, List.getLast?_concat .., fun transient => ?_⟩
        have none_left : left = 0 := by
          by_contra some_left
          rw [if_pos ⟨some_left, transient⟩, last] at repeated
          obtain ⟨again, found⟩ := repeated
          cases found
        rw [Trail.after, List.length_append, List.length_singleton, most, none_left]
      length_le := by
        rw [Trail.after, List.length_append, List.length_singleton]
        exact Nat.succ_le_succ flies.within }

/-- An attempt after which there is another one. -/
theorem isOpen_after {found : RetryPolicy × String} (again : again? f a.outcome = some found)
    (due : Option Float) (order : Nat) : (t.after a).IsOpen c sent job
      { f with retries := f.retries + 1, due := due, order := order, stage := .resting } := by
  obtain ⟨left, most⟩ := Nat.exists_eq_add_of_le flies.within
  have limit : RetryPolicy.most? f.policy = some (f.retries + left) := by
    rw [flies.limit, flies.retries, most]
  have repeated := again?_eq limit a.outcome
  have more : left ≠ 0 ∧ Retry.isTransient a.outcome = true := by
    by_contra no
    rw [if_neg no, again] at repeated
    cases repeated
  exact
    { flies with
      retries := by rw [Trail.after, List.length_append, List.length_singleton, flies.retries]
      within := by
        rw [Trail.after, List.length_append, List.length_singleton]
        omega
      past := fun b hb => by
        rcases List.mem_append.mp hb with hb | hb
        · exact flies.past b hb
        · rw [List.mem_singleton.mp hb]
          exact ⟨attempt, more.2⟩
      increasing := places_after arrived ▸ flies.increasing
      arriving := nofun
      resting := fun _ => rfl }

end Landing

theorem closes_of_land {budget : Nat} {w w' : World} {f : Flight} {outcome : Outcome Response}
    (landed : land budget w = some (f, outcome, w')) (takes : w.TakesUntil w') {c : Carrier}
    {job : Nat} {before sent : List Request} {under ended : List Trail}
    (h : w.IsTrodden c job before sent under) (covers : Cover (ended ++ under) sent.length) :
    w.Closes c job before sent under ended f outcome w' := by
  induction budget generalizing w sent under with
  | zero => cases landed
  | succ budget ih =>
    cases first : first? w.flights with
    | none =>
      rw [land, first] at landed
      cases landed
    | some found =>
      obtain ⟨g, others⟩ := found
      obtain ⟨t, rest, perm, flies, turned⟩ := h.turnTo first
      have moved : w.Later (w.turnTo g others) := ⟨notAfter_turnTo w g others, id, .refl _⟩
      have covers := covers.perm (perm.append_left ended)
      have keys := (perm.map Trail.key).symm
      cases stage : g.stage with
      | resting =>
        rw [land_resting first stage] at landed
        have later : w.Later ((w.turnTo g others).send g) :=
          moved.trans ⟨.of_eq (now_send ..), id, .refl _⟩
        have rests := flies.resting stage
        have covers := covers.send rests
        rw [← List.length_singleton (a := g.request), ← List.length_append] at covers
        exact (ih landed (takes.later later (notAfter_land landed)) (turned.send flies rests)
          covers).prepend ⟨_, rfl⟩ keys later
      | arriving outcome₁ moves =>
        rw [land_arriving first stage] at landed
        obtain ⟨a, came, arrived, attempt⟩ := turned.exists_attempt flies stage
        have covers := covers.after arrived
        have onward : w.Later ((w.turnTo g others).settleMoves g.request outcome₁ moves).2 :=
          moved.trans ⟨.refl _, id, Desk.reaches_playAll _ moves⟩
        have turned : ((w.turnTo g others).settleMoves g.request outcome₁ moves).2.IsTrodden c job
          before sent rest := { turned with }
        generalize settled : (w.turnTo g others).settleMoves g.request outcome₁ moves = after
          at landed came onward turned
        obtain ⟨outcome₂, w₂⟩ := after
        obtain rfl : a.outcome = outcome₂ := came
        simp only at landed onward turned
        cases again : again? g a.outcome with
        | none =>
          rw [again] at landed
          cases landed
          have closed := isClosed_after flies attempt arrived again
          refine ⟨[], t.after a, rest, ?_, ?_, ?_, flies.ofJob, flies.ticket, keys, ?_, onward⟩
          · rwa [List.append_nil]
          · rwa [List.append_nil]
          · rw [Trail.outcome?, Trail.after, List.getLast?_concat, Option.map_some]
          · rwa [List.append_nil]
        | some found =>
          obtain ⟨policy, reason⟩ := found
          rw [again] at landed
          simp only at landed
          have unmoved := now_rest w₂ g policy reason
          have requests := requests_rest w₂ g policy reason
          rcases rest_cases w₂ g policy reason with
            ⟨failure, w₃, refused, never⟩ | ⟨observer, past, drawn, due, w₃, rested, sends, rfl⟩
          · rw [refused] at landed unmoved
            cases landed
            have takes_on : w₂.TakesUntil w' := takes.later onward (.of_eq unmoved)
            exact absurd takes_on.takesReports never
          · rw [rested] at landed requests
            simp only at landed
            have flies' := isOpen_after flies attempt arrived again due w₂.timed
            have takes_on := fun later => takes.later later (notAfter_land landed)
            refine Closes.prepend (ih landed (takes_on ?later) ?_ covers)
              ⟨[], (List.append_nil _).symm⟩ keys ?later
            · exact onward.trans ⟨sends.after, sends.takes, .refl _⟩
            · exact
                { turned with
                  requests := requests.trans turned.requests
                  flying := .cons flies' turned.flying }

end World
end Depot
