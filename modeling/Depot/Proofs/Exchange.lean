import Depot.Proofs.Keeping
/-!
# Courses of an exchange

What an exchange adds to a scene: its call, the answer to it, and reports that only
the counters of requests and errors can show. What it comes to depends on the
response alone.
-/
namespace Depot

theorem exists_of_map_eq_ok {α β : Type} {f : α → β} {x : Outcome α} {b : β}
    (h : x.map f = .ok b) : ∃ a, x = .ok a ∧ f a = b := by
  cases x with
  | error e => cases h
  | ok a => exact ⟨a, rfl, Except.ok.inj h⟩

theorem exists_of_bind_eq_ok {α β : Type} {x : Outcome α} {f : α → Outcome β} {b : β}
    (h : x >>= f = .ok b) : ∃ a, x = .ok a ∧ f a = .ok b := by
  cases x with
  | error e => cases h
  | ok a => exact ⟨a, rfl, h⟩

namespace Exchange

/-- The body that a call brings, or why it brings none. -/
def answer : Outcome Response → Outcome ByteArray
  | .error f => .error f
  | .ok r => (failure? r).elim (.ok r.body) .error

def answerAs {α : Type} (decode : Decoder α) (c : Call) (outcome : Outcome Response) : Outcome α :=
  answer outcome >>= readAs decode c

theorem answerAs_of_error {α : Type} {decode : Decoder α} {c : Call} {outcome : Outcome Response}
    {f : Failure} (h : answer outcome = .error f) : answerAs decode c outcome = .error f := by
  rw [answerAs, h]
  rfl

/-- A body that cannot be read is a serialization failure. -/
theorem readAs_error {α : Type} {decode : Decoder α} {c : Call} {body : ByteArray} {f : Failure}
    (h : readAs decode c body = .error f) :
    ∃ message details, f = .serialization message none details := by
  rw [readAs] at h
  cases parsed : readBody body with
  | error g =>
    rw [parsed] at h
    cases h
    rw [readBody] at parsed
    split at parsed <;> cases parsed
    exact ⟨_, _, rfl⟩
  | ok v =>
    simp only [parsed, bind, Except.bind] at h
    split at h <;> cases h
    exact ⟨_, _, rfl⟩

theorem settle_fst (c : Call) (latencyMs : Float) (outcome : Outcome Response) :
    (settle c latencyMs outcome).1 = answer outcome := by
  cases outcome with
  | error f => rfl
  | ok r =>
    cases h : failure? r <;> simp [settle, answer, h]

end Exchange

/-- A report that only the counters of requests and errors can show. -/
def Report.Aside (r : Report) : Prop :=
  ∀ m, m ≠ .requestsTotal → m ≠ .errorsTotal → r.amountOf m = 0

namespace Report

@[simp] theorem amountOf_log (m : Metric) (e : LogEntry) : amountOf m (.log e) = 0 := rfl

@[simp] theorem amountOf_time (m metric : Metric) (ms : Float) (labels : Labels) :
    amountOf m (.time metric ms labels) = 0 := rfl

@[simp] theorem amountOf_count (m metric : Metric) (amount : Nat) (labels : Labels) :
    amountOf m (.count metric amount labels) = if metric = m then amount else 0 := rfl

theorem aside_log (e : LogEntry) : (Report.log e).Aside := fun _ _ _ => rfl

theorem aside_sending (c : Call) : (Exchange.sending c).Aside := aside_log _

theorem aside_failing {c : Call} {f : Failure} {r : Report} (h : r ∈ Exchange.failing c f) :
    r.Aside := by
  intro m hm hm'
  simp only [Exchange.failing, List.mem_cons, List.not_mem_nil, or_false] at h
  rcases h with rfl | rfl
  · exact if_neg (Ne.symm hm')
  · rfl

theorem aside_settle {c : Call} {latencyMs : Float} {outcome : Outcome Response} {r : Report}
    (h : r ∈ (Exchange.settle c latencyMs outcome).2) : r.Aside := by
  have responding {x : Response} (h : r ∈ Exchange.responding c latencyMs x) : r.Aside := by
    intro m hm hm'
    simp only [Exchange.responding, List.mem_cons, List.not_mem_nil, or_false] at h
    rcases h with rfl | rfl
    · exact if_neg (Ne.symm hm)
    · rfl
  cases outcome with
  | error f => exact aside_failing h
  | ok x =>
    cases hx : Exchange.failure? x with
    | none => exact responding (by simpa [Exchange.settle, hx] using h)
    | some f =>
      simp only [Exchange.settle, hx, List.mem_append] at h
      exact h.elim responding aside_failing

end Report

namespace Scene

/-- Scenes with the same calls, answers and readings. -/
structure SameCalls (s s' : Scene) : Prop where
  underWay : s'.underWay = s.underWay
  launched : s'.launched = s.launched
  arrived : s'.arrived = s.arrived
  readings : s'.readings = s.readings

namespace SameCalls

theorem refl (s : Scene) : s.SameCalls s := ⟨rfl, rfl, rfl, rfl⟩

theorem sent {s s' : Scene} (h : s.SameCalls s') : s'.sent = s.sent := by
  rw [sent_eq_map_launched, sent_eq_map_launched, h.launched]

theorem trans {s s' s'' : Scene} (h : s.SameCalls s') (h' : s'.SameCalls s'') : s.SameCalls s'' :=
  ⟨h'.1.trans h.1, h'.2.trans h.2, h'.3.trans h.3, h'.4.trans h.4⟩

theorem note (s : Scene) {i : Incident} (call : i.launch? = none) (arrival : i.arrival? = none)
    (query : i.query? = none) : s.SameCalls (s.note i) :=
  ⟨rfl, by rw [Scene.launched_note, call, Option.toList_none, List.append_nil],
    by rw [Scene.arrived_note, arrival, Option.toList_none, List.append_nil],
    by rw [Scene.readings_note, query, Option.toList_none, List.append_nil]⟩

theorem launch {s s' : Scene} (h : s.SameCalls s') (k : Nat) (c : Call) :
    (s.launch k c).SameCalls (s'.launch k c) :=
  ⟨by simp [h.underWay], by simp [h.launched], by simp [h.arrived], by simp [h.readings]⟩

theorem land {s s' : Scene} (h : s.SameCalls s') (moves : List Desk.Move) (k : Nat) (a : Arrival) :
    ((s.stir moves).land k a).SameCalls ((s'.stir moves).land k a) :=
  ⟨by simp [h.underWay], by simp [h.launched], by simp [h.arrived], by simp [h.readings]⟩

end SameCalls

/-- Scenes with the same calls, answers and readings, between which what is counted are these
reports. -/
structure Adds (rs : List Report) (s s' : Scene) : Prop where
  calls : s.SameCalls s'
  counted : ∀ m, s'.counted m = s.counted m + Report.total m rs

namespace Adds

theorem refl (s : Scene) : s.Adds [] s := ⟨.refl s, fun _ => rfl⟩

theorem report (s : Scene) (r : Report) : s.Adds [r] (s.note (.reported r)) :=
  ⟨.note s rfl rfl rfl, fun m => by simp [Report.total]⟩

theorem trans {s s' s'' : Scene} {rs rs' : List Report} (h : s.Adds rs s') (h' : s'.Adds rs' s'') :
    s.Adds (rs ++ rs') s'' :=
  ⟨h.calls.trans h'.calls, fun m => by
    rw [h'.counted m, h.counted m, Report.total_append, Nat.add_assoc]⟩

theorem congr {s s' : Scene} {rs rs' : List Report} (h : s.Adds rs s')
    (same : ∀ m, Report.total m rs' = Report.total m rs) : s.Adds rs' s' :=
  ⟨h.calls, fun m => by rw [h.counted m, same m]⟩

end Adds

/-- Scenes that differ in reports at most, and in none that counts anything but requests and
errors. -/
structure Alike (s s' : Scene) : Prop where
  calls : s.SameCalls s'
  counted : ∀ m, m ≠ .requestsTotal → m ≠ .errorsTotal → s'.counted m = s.counted m

namespace Alike

theorem trans {s s' s'' : Scene} (h : s.Alike s') (h' : s'.Alike s'') : s.Alike s'' :=
  ⟨h.calls.trans h'.calls, fun m hm hm' => (h'.counted m hm hm').trans (h.counted m hm hm')⟩

theorem note {s : Scene} {r : Report} (hr : r.Aside) : s.Alike (s.note (.reported r)) :=
  ⟨.note s rfl rfl rfl, fun m hm hm' => by simp [hr m hm hm']⟩

theorem launch {s s' : Scene} (h : s.Alike s') (k : Nat) (c : Call) :
    (s.launch k c).Alike (s'.launch k c) :=
  ⟨h.calls.launch k c, fun m hm hm' => by simp [h.counted m hm hm']⟩

theorem land {s s' : Scene} (h : s.Alike s') (moves : List Desk.Move) (k : Nat) (a : Arrival) :
    ((s.stir moves).land k a).Alike ((s'.stir moves).land k a) :=
  ⟨h.calls.land moves k a, fun m hm hm' => by simp [h.counted m hm hm']⟩

end Alike

/-- What a scene has counted, requests and errors aside, are these reports. -/
def Counts (s : Scene) (rs : List Report) : Prop :=
  ∀ m, m ≠ .requestsTotal → m ≠ .errorsTotal → s.counted m = Report.total m rs

namespace Counts
variable {s s' : Scene} {rs rs' : List Report}

theorem alike (h : s.Counts rs) (hs : s.Alike s') : s'.Counts rs :=
  fun m hm hm' => (hs.counted m hm hm').trans (h m hm hm')

theorem adds (h : s.Counts rs) (hs : s.Adds rs' s') : s'.Counts (rs ++ rs') := fun m hm hm' => by
  rw [hs.counted m, h m hm hm', Report.total_append]

theorem launch (h : s.Counts rs) (k : Nat) (c : Call) : (s.launch k c).Counts rs :=
  fun m hm hm' => (Scene.counted_launch ..).trans (h m hm hm')

theorem land (h : s.Counts rs) (moves : List Desk.Move) (k : Nat) (a : Arrival) :
    ((s.stir moves).land k a).Counts rs :=
  fun m hm hm' => (Scene.counted_land ..).trans (h m hm hm')

end Counts

/-- An invariant that heeds no reports. -/
def Heedless (I : Scene → Prop) : Prop := ∀ s s', SameCalls s s' → I s → I s'

end Scene

namespace Job
variable {α : Type} {I : Scene → Prop} {s : Scene}

theorem keeps_pure {Q : Option (Outcome α) → Scene → Prop} {a : α} (h : I s)
    (hQ : Q (some (.ok a)) s) : (pure a : Job α).Keeps I Q s := ⟨h, hQ⟩

theorem keeps_say {r : Report} (hI : Scene.Heedless I) (h : I s) :
    (say r).Keeps I (fun result s' => result = some (.ok ()) ∧ s' = s.note (.reported r)) s := by
  have h' : I (s.note (.reported r)) := hI _ _ (.note s rfl rfl rfl) h
  exact ⟨h, h', rfl, rfl⟩

/-- Reports add nothing but what they count. -/
theorem keeps_sayAll {rs : List Report} (hI : Scene.Heedless I) (h : I s) :
    (sayAll rs).Keeps I (fun result s' => result = some (.ok ()) ∧ s.Adds rs s') s := by
  induction rs generalizing s with
  | nil => exact keeps_pure h ⟨rfl, .refl s⟩
  | cons r rest ih =>
    refine Keeps.bind ((keeps_say hI h).mono ?_)
    rintro _ _ h' ⟨rfl, rfl⟩
    refine (ih h').mono ?_
    rintro _ s'' - ⟨rfl, added⟩
    exact ⟨rfl, (Scene.Adds.report s r).trans added⟩

theorem keeps_settle {c : Call} {a : Arrival} (hI : Scene.Heedless I) (h : I s) :
    (settle c a).Keeps I
      (fun result s' => result = some (Exchange.answer a.outcome) ∧ s.Alike s') s := by
  have parts : settle c a = sayAll (Exchange.settle c a.latencyMs a.outcome).2 >>= fun _ =>
      ofOutcome (Exchange.settle c a.latencyMs a.outcome).1 := rfl
  rw [parts, Exchange.settle_fst]
  refine Keeps.bind ((keeps_sayAll hI h).mono ?_)
  rintro _ s' h' ⟨rfl, calls, counted⟩
  refine ⟨h', rfl, calls, fun m hm hm' => ?_⟩
  have silent : Report.total m (Exchange.settle c a.latencyMs a.outcome).2 = 0 :=
    Report.total_eq_zero fun r hr => Report.aside_settle hr m hm hm'
  rw [counted m, silent, Nat.add_zero]

theorem keeps_send {k : Nat} {c : Call} (hI : Scene.Heedless I) (h : I s) (h' : I (s.launch k c)) :
    (send k c).Keeps I
      (fun result s' => result = some (.ok ()) ∧ (s.launch k c).Alike s') s := by
  have told : s.Alike (s.note (.reported (Exchange.sending c))) := .note (Report.aside_sending c)
  refine Keeps.bind ((keeps_say hI h).mono ?_)
  rintro _ _ hs ⟨rfl, rfl⟩
  exact ⟨hs, hI _ _ (told.launch k c).calls h', rfl, told.launch k c⟩

/-- The scene after an exchange whose call was answered. -/
def Exchanged (s : Scene) (c : Call) (a : Arrival) (s' : Scene) : Prop :=
  ∃ moves, (((s.launch 0 c).stir moves).land 0 a).Alike s'

theorem keeps_exchange {c : Call} (hI : Scene.Heedless I) (idle : s.underWay = []) (h : I s)
    (h' : I (s.launch 0 c)) (h'' : ∀ moves a, I (((s.launch 0 c).stir moves).land 0 a)) :
    (exchange c).Keeps I
      (fun result s' => ∃ a, result = some (Exchange.answer a.outcome) ∧ Exchanged s c a s') s := by
  refine Keeps.bind ((keeps_send hI h h').mono ?_)
  rintro _ s₁ h₁ ⟨rfl, hs₁⟩
  refine ⟨h₁, by simp [hs₁.calls.underWay], fun moves k a hk => ?_⟩
  have hk : k = 0 := by simpa [hs₁.calls.underWay, idle] using hk
  subst hk
  have landed := hs₁.land moves 0 a
  refine (keeps_settle hI (hI _ _ landed.calls (h'' moves a))).mono ?_
  rintro _ s₂ - ⟨rfl, hs₂⟩
  exact ⟨a, rfl, moves, landed.trans hs₂⟩

theorem keeps_exchangeAs {decode : Decoder α} {c : Call} (hI : Scene.Heedless I)
    (idle : s.underWay = []) (h : I s) (h' : I (s.launch 0 c))
    (h'' : ∀ moves a, I (((s.launch 0 c).stir moves).land 0 a)) :
    (exchangeAs decode c).Keeps I
      (fun result s' => ∃ a, result = some (Exchange.answerAs decode c a.outcome) ∧
        Exchanged s c a s') s := by
  refine Keeps.bind ((keeps_exchange hI idle h h' h'').mono ?_)
  rintro _ s' hs ⟨a, rfl, hs'⟩
  cases ha : Exchange.answer a.outcome with
  | error f => exact ⟨a, by rw [Exchange.answerAs_of_error ha], hs'⟩
  | ok body => exact ⟨hs, a, by rw [Exchange.answerAs, ha]; rfl, hs'⟩

end Job
end Depot
