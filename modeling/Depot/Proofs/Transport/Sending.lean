import Depot.Proofs.Number.Rounding
import Depot.Proofs.Value.Members
import Depot.Proofs.World.AskingOnce
/-!
# Sending within a time limit

A request that is sent waits for the head of the response and then for its body, with a timer beside
it that aborts whatever it waits for. The invariant of its steps says when it has come to each of
these waits, and that one which is over has the outcome and the time of the closed form, with its
timer cleared. Time is an input of the steps.
-/
namespace Depot.Fetch

/-! ## Time limits -/

/-- What is late stays late when it takes longer. -/
theorem isLate_add {limitMs ms more : Float} (late : isLate limitMs ms = true) (nonneg : 0.0 ≤ more) :
    isLate limitMs (ms + more) = true := by
  simp only [isLate, Bool.and_eq_true, decide_eq_true_eq] at late ⊢
  have longer := Number.le_add (Number.le_of_lt late.1) nonneg
  exact ⟨Number.lt_of_lt_of_le late.1 longer, Number.le_trans late.2 longer⟩

/-! ## The steps of a request -/

/-- The timer that aborts a request when its limit passes. -/
inductive Timer where
  | running | fired | cleared
  deriving DecidableEq

/-- What a request waits for, if it has not ended. -/
inductive Wait where
  | head
  | body (r : Response)
  | ended (outcome : Outcome Response)

/-- A request that was sent: the time that has passed since, its timer, and what it waits for. -/
structure Sending where
  afterMs : Float
  timer : Timer
  wait : Wait

/-- What can happen to a request. -/
inductive Occurrence where
  /-- The limit passes: the timer fires, and aborts what the request waits for. -/
  | limit
  | head (r : Response)
  | body
  /-- What the request waits for is rejected. -/
  | rejection (f : Failure)

/-- What the network has for a request that waits for something, and when. -/
def brings (d : Delivery) : Wait → Option (Float × Occurrence)
  | .head =>
    match d with
    | .refuse ms f => some (ms, .rejection f)
    | .answer ms r _ _ => some (ms, .head r)
  | .body _ =>
    match d with
    | .refuse .. => none
    | .answer ms _ more bodyFailure => some (ms + more, bodyFailure.elim .body .rejection)
  | .ended _ => none

namespace Sending

/-- A request at the time at which it is sent. -/
def start : Sending := ⟨0.0, .running, .head⟩

/-- What a request does when something happens to it at a time. However it ends, its timer is
cleared. -/
def react (limitMs afterMs : Float) : Occurrence → Sending → Option Sending
  | .limit, ⟨_, .running, .head⟩ => some ⟨afterMs, .fired, .head⟩
  | .limit, ⟨_, .running, .body r⟩ => some ⟨afterMs, .fired, .body r⟩
  | .head r, ⟨_, timer, .head⟩ => some ⟨afterMs, timer, .body r⟩
  | .body, ⟨_, _, .body r⟩ =>
    some ⟨afterMs, .cleared, .ended (.ok { r with headers := headers r.headers })⟩
  | .rejection f, ⟨_, _, .head⟩ => some ⟨afterMs, .cleared, .ended (.error (failure limitMs f))⟩
  | .rejection f, ⟨_, _, .body _⟩ => some ⟨afterMs, .cleared, .ended (.error (failure limitMs f))⟩
  | _, _ => none

/-- What happens to a request, and when. What it waits for comes at its time, unless the limit passes
before; once the timer has fired, what it waits for is rejected with an error that says so. -/
inductive Meets (limitMs : Float) (d : Delivery) : Sending → Float → Occurrence → Prop where
  | served {past ms : Float} {wait : Wait} {o : Occurrence} (next : brings d wait = some (ms, o))
      (inTime : isLate limitMs ms = false) : Meets limitMs d ⟨past, .running, wait⟩ ms o
  | expired {past ms : Float} {wait : Wait} {o : Occurrence} (next : brings d wait = some (ms, o))
      (late : isLate limitMs ms = true) :
    Meets limitMs d ⟨past, .running, wait⟩ (span limitMs) .limit
  | aborted {past : Float} {wait : Wait} (message : String) :
    Meets limitMs d ⟨past, .fired, wait⟩ past (.rejection (.foreign abortName message))

/-- One step of a request. -/
def Steps (limitMs : Float) (d : Delivery) (s s' : Sending) : Prop :=
  ∃ afterMs o, Meets limitMs d s afterMs o ∧ s.react limitMs afterMs o = some s'

/-- Steps of a request, one after another. -/
inductive Reaches (limitMs : Float) (d : Delivery) (s : Sending) : Sending → Prop where
  | refl : Reaches limitMs d s s
  | step {s' s'' : Sending} (before : Reaches limitMs d s s') (step : Steps limitMs d s' s'') :
    Reaches limitMs d s s''

/-- Whatever happens to a request, it comes to an end. -/
inductive Ends (limitMs : Float) (d : Delivery) : Sending → Prop where
  | now {s : Sending} {outcome : Outcome Response} (ended : s.wait = .ended outcome) :
    Ends limitMs d s
  | later {s : Sending} (onward : ∃ s', Steps limitMs d s s')
      (rest : ∀ s', Steps limitMs d s s' → Ends limitMs d s') : Ends limitMs d s

end Sending

/-- When everything that the network has for a request has come. -/
def totalMs : Delivery → Float
  | .refuse ms _ => ms
  | .answer ms _ more _ => ms + more

/-- What is rejected on the way of a request: itself, or the reading of its body. -/
def rejection? : Delivery → Option Failure
  | .refuse _ f => some f
  | .answer _ _ _ bodyFailure => bodyFailure

/-- Nothing that follows takes less than no time. -/
def IsTimely : Delivery → Prop
  | .refuse .. => True
  | .answer _ _ more _ => 0.0 ≤ more

/-- An error by the name that a given-up request ends with. -/
def IsAbort (f : Failure) : Prop := ∃ message, f = .foreign abortName message

variable {limitMs : Float} {d : Delivery}

theorem failure_of_isAbort {f : Failure} (abort : IsAbort f) :
    failure limitMs f = .timeout limitMs := by
  obtain ⟨message, rfl⟩ := abort
  rfl

theorem failure_of_not_isAbort {f : Failure} (other : ¬ IsAbort f) :
    failure limitMs f = .transport f.message (some f) := by
  cases f with
  | foreign name message =>
    have named : name ≠ abortName := fun same => other ⟨message, by rw [same]⟩
    exact if_neg named
  | _ => rfl

theorem settle_of_late (late : isLate limitMs (totalMs d) = true) :
    settle limitMs d = (span limitMs, .error (.timeout limitMs)) := by
  cases d <;> exact if_pos late

theorem settle_of_rejection {f : Failure} (inTime : isLate limitMs (totalMs d) = false)
    (rejected : rejection? d = some f) :
    settle limitMs d = (totalMs d, .error (failure limitMs f)) := by
  cases d with
  | refuse ms g =>
    cases rejected
    simp only [totalMs] at inTime
    simp [settle, inTime, totalMs]
  | answer ms r more bodyFailure =>
    cases rejected
    simp only [totalMs] at inTime
    simp [settle, inTime, totalMs]

theorem settle_of_answer {ms more : Float} {r : Response}
    (inTime : isLate limitMs (ms + more) = false) :
    settle limitMs (.answer ms r more none) =
      (ms + more, .ok { r with headers := headers r.headers }) := by simp [settle, inTime]

namespace Sending

/-- Where a request can be. -/
inductive At (limitMs : Float) (d : Delivery) : Sending → Prop where
  | sent : At limitMs d start
  | headAborted (late : isLate limitMs (totalMs d) = true) :
    At limitMs d ⟨span limitMs, .fired, .head⟩
  | headArrived {ms more : Float} {r : Response} {bodyFailure : Option Failure}
      (answered : d = .answer ms r more bodyFailure) : At limitMs d ⟨ms, .running, .body r⟩
  | bodyAborted {r : Response} (late : isLate limitMs (totalMs d) = true) :
    At limitMs d ⟨span limitMs, .fired, .body r⟩
  | ended : At limitMs d ⟨(settle limitMs d).1, .cleared, .ended (settle limitMs d).2⟩

theorem at_of_aborted (late : isLate limitMs (totalMs d) = true) (message : String) :
    At limitMs d ⟨span limitMs, .cleared,
      .ended (.error (failure limitMs (.foreign abortName message)))⟩ := by
  have closed : At limitMs d _ := .ended
  rw [settle_of_late late] at closed
  exact closed

theorem at_of_rejection {f : Failure} (inTime : isLate limitMs (totalMs d) = false)
    (rejected : rejection? d = some f) :
    At limitMs d ⟨totalMs d, .cleared, .ended (.error (failure limitMs f))⟩ := by
  have closed : At limitMs d _ := .ended
  rw [settle_of_rejection inTime rejected] at closed
  exact closed

theorem at_of_answer {ms more : Float} {r : Response}
    (inTime : isLate limitMs (ms + more) = false) :
    At limitMs (.answer ms r more none)
      ⟨ms + more, .cleared, .ended (.ok { r with headers := headers r.headers })⟩ := by
  have closed : At limitMs (.answer ms r more none) _ := .ended
  rw [settle_of_answer inTime] at closed
  exact closed

theorem At.step {s s' : Sending} (timely : IsTimely d) (h : At limitMs d s)
    (step : Steps limitMs d s s') : At limitMs d s' := by
  obtain ⟨ms, o, meets, reacts⟩ := step
  cases h with
  | sent =>
    cases meets with
    | served next inTime =>
      cases d with
      | refuse ms f =>
        cases next
        cases reacts
        exact at_of_rejection inTime rfl
      | answer ms r more bodyFailure =>
        cases next
        cases reacts
        exact .headArrived rfl
    | expired next late =>
      cases reacts
      refine .headAborted ?_
      cases d with
      | refuse ms f =>
        cases next
        exact late
      | answer ms r more bodyFailure =>
        -- a body that follows a late head is late, too
        cases next
        exact isLate_add late timely
  | @headArrived headMs more r bodyFailure answered =>
    subst answered
    cases meets with
    | served next inTime =>
      cases bodyFailure with
      | none =>
        cases next
        cases reacts
        exact at_of_answer inTime
      | some f =>
        cases next
        cases reacts
        exact at_of_rejection inTime rfl
    | expired next late =>
      cases next
      cases reacts
      exact .bodyAborted late
  | headAborted late | bodyAborted late =>
    cases meets with
    | aborted message =>
      cases reacts
      exact at_of_aborted late message
  | ended => cases meets

/-- How many steps a request has left at most. -/
def left : Sending → Nat
  | ⟨_, .running, .head⟩ => 3
  | ⟨_, .running, .body _⟩ => 2
  | ⟨_, _, .ended _⟩ => 0
  | _ => 1

theorem left_lt_of_step {s s' : Sending} (step : Steps limitMs d s s') : s'.left < s.left := by
  obtain ⟨ms, o, meets, reacts⟩ := step
  obtain ⟨past, timer, wait⟩ := s
  cases meets with
  | served next =>
    cases wait with
    | head | body r => cases o <;> cases reacts <;> simp [left]
    | ended outcome => cases next
  | expired next =>
    cases wait with
    | head | body r =>
      cases reacts
      simp [left]
    | ended outcome => cases next
  | aborted message => cases wait <;> cases reacts <;> simp [left]

theorem At.onward {s : Sending} (h : At limitMs d s) :
    (∃ outcome, s.wait = .ended outcome) ∨ ∃ s', Steps limitMs d s s' := by
  -- with the timer running, whatever the network has is either in time or late
  have waiting {past : Float} {wait : Wait} (next : ∃ ms o, brings d wait = some (ms, o) ∧
      (∀ ms, (react limitMs ms o ⟨past, .running, wait⟩).isSome) ∧
        (∀ ms, (react limitMs ms .limit ⟨past, .running, wait⟩).isSome)) :
      ∃ s', Steps limitMs d ⟨past, .running, wait⟩ s' := by
    obtain ⟨ms, o, next, taken, expires⟩ := next
    cases late : isLate limitMs ms with
    | false =>
      obtain ⟨s', reacts⟩ := Option.isSome_iff_exists.mp (taken ms)
      exact ⟨s', ms, o, .served next late, reacts⟩
    | true =>
      obtain ⟨s', reacts⟩ := Option.isSome_iff_exists.mp (expires (span limitMs))
      exact ⟨s', span limitMs, .limit, .expired next late, reacts⟩
  cases h with
  | sent =>
    refine .inr (waiting ?_)
    cases d <;> exact ⟨_, _, rfl, fun _ => rfl, fun _ => rfl⟩
  | @headArrived ms more r bodyFailure answered =>
    subst answered
    refine .inr (waiting ?_)
    cases bodyFailure <;> exact ⟨_, _, rfl, fun _ => rfl, fun _ => rfl⟩
  | headAborted | bodyAborted => exact .inr ⟨_, _, _, .aborted "", rfl⟩
  | ended => exact .inl ⟨_, rfl⟩

theorem At.ends {s : Sending} (timely : IsTimely d) (h : At limitMs d s) : Ends limitMs d s := by
  induction n : s.left using Nat.strong_induction_on generalizing s with
  | _ n ih =>
    rcases h.onward with ⟨outcome, ended⟩ | onward
    · exact .now ended
    · refine .later onward fun s' step => ?_
      exact ih s'.left (n ▸ left_lt_of_step step) (h.step timely step) rfl

theorem at_of_reaches {s : Sending} (timely : IsTimely d) (h : Reaches limitMs d start s) :
    At limitMs d s := by
  induction h with
  | refl => exact .sent
  | step _ step ih => exact ih.step timely step

/-- A request ends with its timer cleared, at the time and with the outcome of the closed form. -/
theorem At.settled {s : Sending} (h : At limitMs d s) {outcome : Outcome Response}
    (ended : s.wait = .ended outcome) :
    s.timer = .cleared ∧ settle limitMs d = (s.afterMs, outcome) := by
  cases h with
  | ended =>
    cases ended
    exact ⟨rfl, rfl⟩
  | sent | headAborted | headArrived | bodyAborted => cases ended

end Sending

/-! ## Headers -/

/-- The headers of a response by their names in lower case. -/
def lowered (hs : Table String) : Table String := hs.map fun h => (Text.lowercase h.1, h.2)

/-- Of the headers with one name the last one stays, unless assignment does not keep the name. -/
theorem get?_headers (name : String) (hs : Table String) : Table.get? name (headers hs) =
    if name = Value.prototypeKey then none else (lowered hs).last? name := by
  induction hs using List.reverseRecOn with
  | nil => simp [headers, lowered, Table.last?, Table.get?]
  | append_singleton hs h ih =>
    have last : headers (hs ++ [h]) = if Text.lowercase h.1 = Value.prototypeKey then headers hs
        else (headers hs).put (Text.lowercase h.1) h.2 := by
      rw [headers, List.foldl_append]
      rfl
    have named : lowered (hs ++ [h]) = lowered hs ++ [(Text.lowercase h.1, h.2)] := by
      simp [lowered]
    rw [last, named, Table.last?_append_singleton]
    by_cases same : Text.lowercase h.1 = name
    · subst same
      by_cases dropped : Text.lowercase h.1 = Value.prototypeKey
      · simpa [dropped] using ih
      · simp [dropped]
    · rw [if_neg same, ← ih]
      split
      · rfl
      · rw [Table.get?_put_ne (Ne.symm same)]

/-- A response that is handed over: it has the status, the status text and the body of the one that
has come, and its headers by their names in lower case. -/
structure HandsOver (came handed : Response) : Prop where
  status : handed.status = came.status
  statusText : handed.statusText = came.statusText
  body : handed.body = came.body
  headers : ∀ name, Table.get? name handed.headers = (lowered came.headers).last? name

theorem handsOver_iff (r : Response) : HandsOver r { r with headers := headers r.headers } ↔
    ∀ h ∈ r.headers, Text.lowercase h.1 ≠ Value.prototypeKey := by
  have absent : (lowered r.headers).last? Value.prototypeKey = none ↔
      ∀ h ∈ r.headers, Text.lowercase h.1 ≠ Value.prototypeKey := by
    rw [Table.last?_eq_none_iff]
    simp [Table.keys, lowered]
  rw [← absent]
  constructor
  · intro handed
    rw [← handed.headers, get?_headers, if_pos rfl]
  · intro none_given
    refine ⟨rfl, rfl, rfl, fun name => ?_⟩
    rw [get?_headers]
    split
    case isTrue named => rw [named, none_given]
    case isFalse => rfl

end Depot.Fetch

namespace Depot

/-- What the network has for the next request. -/
def World.delivery (w : World) (r : Request) : Delivery :=
  match w.script with
  | [] => .refuse 0.0 (noResponse "fetch" r)
  | p :: _ => p.canned.delivery p.delayMs p.headers

namespace World
variable {w : World} {transportMs : Float} {r : Request}

theorem answer_network (network : w.channel = .network transportMs) :
    ((w.answer r).1, (w.answer r).2.1) =
      Fetch.settle (r.timeoutMs.getD transportMs) (w.delivery r) := by
  rw [answer, delivery, network]
  cases w.script <;> rfl

theorem isTimely_delivery (w : World) (r : Request) : Fetch.IsTimely (w.delivery r) := by
  have now : (0.0 : Float) ≤ 0.0 := by decide +kernel
  rw [delivery]
  split
  · trivial
  · rw [Canned.delivery]
    split
    · trivial
    · exact now

/-- Where nothing else is under way and the caller does nothing meanwhile, a request comes to what the
network answers it with. -/
theorem fetch_network (network : w.channel = .network transportMs) (idle : w.flights = [])
    (still : ∀ p ∈ w.script.head?, p.moves = []) : (w.fetch r none).1 =
      some (Fetch.settle (r.timeoutMs.getD transportMs) (w.delivery r)).2 := by
  have unmoved : (w.answer r).2.2.1 = [] := by
    rw [answer, network]
    cases script : w.script with
    | nil => rfl
    | cons p rest =>
      have none_moved : p.moves = [] := still p (by rw [script]; rfl)
      simp only [none_moved, ite_self]
  have brought : w.brings r = (w.answer r).2.1 := by
    rw [brings]
    simp only [unmoved]
    rfl
  obtain ⟨f, w', landed, -⟩ := landAny_once idle 0 0 r
  rw [fetch, landed, brought, ← answer_network network]

end World

namespace Fetch

/-- A response with a header whose name assignment does not keep. -/
def prototypeHeader : Response := ⟨200.0, "", [("__proto__", "x")], "x".toUTF8⟩

end Fetch
end Depot
