import Depot.Proofs.Report.Alarms
/-!
# One call after another

Jobs that wait for the answer to each call before they go on, and that end when one has failed. What
such a job comes to is told by its last answer, and the rules follow the parts of a job.
-/
namespace Depot
namespace Job
variable {α β : Type} {waiting : List (Nat × Call)} {answered : List (Call × Arrival)}
  {alarms : List Report} {s : Scene}

/-- Whatever happens to a job, it never waits for nothing and leaves nothing to itself, and `Q`
holds of what it comes to. -/
abbrev ComesTo (Q : Option (Outcome α) → Scene → Prop) (j : Job α) (s : Scene) : Prop :=
  j.Keeps (fun _ => True) Q s

theorem comesTo_say (h : s.Stands waiting answered alarms) (r : Report) :
    (say r).ComesTo (fun result s' => result = some (.ok ()) ∧
      s'.Stands waiting answered (alarms ++ [r].filter (·.isAlarm))) s :=
  ⟨trivial, trivial, rfl, h.report r⟩

theorem comesTo_sayAll (h : s.Stands waiting answered alarms) (rs : List Report) :
    (sayAll rs).ComesTo (fun result s' => result = some (.ok ()) ∧
      s'.Stands waiting answered (alarms ++ rs.filter (·.isAlarm))) s := by
  induction rs generalizing s alarms with
  | nil => exact ⟨trivial, rfl, by simpa using h⟩
  | cons r rest ih =>
    refine Keeps.bind ((comesTo_say h r).mono ?_)
    rintro _ s' - ⟨rfl, h'⟩
    refine (ih h').mono fun result s'' _ hq => ⟨hq.1, ?_⟩
    have split : (r :: rest).filter (·.isAlarm) =
        [r].filter (·.isAlarm) ++ rest.filter (·.isAlarm) := by
      rw [← List.filter_append, List.singleton_append]
    rw [split, ← List.append_assoc]
    exact hq.2

theorem comesTo_settle (h : s.Stands waiting answered alarms) (c : Call) (a : Arrival) :
    (settle c a).ComesTo (fun result s' => result = some (Exchange.answer a.outcome) ∧
      s'.Stands waiting answered (alarms ++ Exchange.alarms (c, a))) s := by
  have parts : settle c a = sayAll (Exchange.settle c a.latencyMs a.outcome).2 >>= fun _ =>
      ofOutcome (Exchange.settle c a.latencyMs a.outcome).1 := rfl
  rw [parts, Exchange.settle_fst, ← Exchange.filter_isAlarm_settle]
  refine Keeps.bind ((comesTo_sayAll h _).mono ?_)
  rintro _ s' - ⟨rfl, h'⟩
  exact ⟨trivial, rfl, h'⟩

theorem comesTo_send (h : s.Stands waiting answered alarms) (k : Nat) (c : Call) :
    (send k c).ComesTo (fun result s' => result = some (.ok ()) ∧
      s'.Stands (waiting ++ [(k, c)]) answered alarms) s := by
  refine Keeps.bind ((comesTo_say h (Exchange.sending c)).mono ?_)
  rintro _ s' - ⟨rfl, h'⟩
  have calm : [Exchange.sending c].filter (·.isAlarm) = [] := rfl
  rw [calm, List.append_nil] at h'
  exact ⟨trivial, trivial, rfl, h'.launch k c⟩

theorem comesTo_exchange (h : s.Stands [] answered alarms) (c : Call) :
    (exchange c).ComesTo (fun result s' => ∃ a, result = some (Exchange.answer a.outcome) ∧
      s'.Stands [] (answered ++ [(c, a)]) (alarms ++ Exchange.alarms (c, a))) s := by
  refine Keeps.bind ((comesTo_send h 0 c).mono ?_)
  rintro _ s' - ⟨rfl, h'⟩
  refine ⟨trivial, by simp [h'.underWay], fun moves k a hk => ?_⟩
  have own : k = 0 := by simpa [h'.underWay] using hk
  subst own
  have own_call : ([] ++ [(0, c)] : List (Nat × Call)).lookup 0 = some c := rfl
  have landed := (h'.stir moves).land own_call a
  exact (comesTo_settle landed c a).mono fun _ _ _ hq => ⟨a, hq⟩

theorem comesTo_exchangeAs (h : s.Stands [] answered alarms) (decode : Decoder α) (c : Call) :
    (exchangeAs decode c).ComesTo (fun result s' => ∃ a,
      result = some (Exchange.answerAs decode c a.outcome) ∧
        s'.Stands [] (answered ++ [(c, a)]) (alarms ++ Exchange.alarms (c, a))) s := by
  refine Keeps.bind ((comesTo_exchange h c).mono ?_)
  rintro _ s' - ⟨a, rfl, h'⟩
  cases ha : Exchange.answer a.outcome with
  | error f => exact ⟨a, by rw [Exchange.answerAs_of_error ha], h'⟩
  | ok body => exact ⟨trivial, a, by rw [Exchange.answerAs, ha]; rfl, h'⟩

end Job

theorem Exchange.isClient_of_readAs {α : Type} {decode : Decoder α} {c : Call} {body : ByteArray}
    {f : Failure} (h : readAs decode c body = .error f) : f.isClient = true := by
  obtain ⟨message, details, rfl⟩ := readAs_error h
  rfl

/-- An answer is a failure, or is read; if it cannot be read, that is a failure of the client. -/
theorem Exchange.answerAs_cases {α : Type} (decode : Decoder α) (c : Call) (a : Arrival) :
    (∃ f, a.failure? = some f ∧ answerAs decode c a.outcome = .error f) ∨
      a.failure? = none ∧ ((∃ b, answerAs decode c a.outcome = .ok b) ∨
        ∃ f, answerAs decode c a.outcome = .error f ∧ f.isClient = true) := by
  rw [Arrival.failure?]
  cases ha : answer a.outcome with
  | error f => exact .inl ⟨f, rfl, answerAs_of_error ha⟩
  | ok body =>
    have read : answerAs decode c a.outcome = readAs decode c body := by
      rw [answerAs, ha]
      rfl
    rw [read]
    refine .inr ⟨rfl, ?_⟩
    cases hr : readAs decode c body with
    | ok b => exact .inl ⟨b, rfl⟩
    | error f => exact .inr ⟨f, rfl, isClient_of_readAs hr⟩

theorem Precondition.isClient_failure (p : Precondition) : p.failure.isClient = true := by
  cases p <;> rfl

/-- The failures that an outcome shows: the one that it is, or those in the result. -/
def failuresIn {α : Type} (inner : α → List Failure) : Outcome α → List Failure
  | .ok a => inner a
  | .error f => [f]

/-- Whether all of these calls have brought what was asked for. -/
def AllSucceed (new : List (Call × Arrival)) : Prop := ∀ x ∈ new, x.2.failure? = none

theorem AllSucceed.nil : AllSucceed [] := fun _ h => (List.not_mem_nil h).elim

theorem AllSucceed.append {new new' : List (Call × Arrival)} (h : AllSucceed new)
    (h' : AllSucceed new') : AllSucceed (new ++ new') :=
  fun x hx => (List.mem_append.mp hx).elim (h x) (h' x)

theorem AllSucceed.singleton {x : Call × Arrival} (h : x.2.failure? = none) : AllSucceed [x] :=
  fun _ hy => List.mem_singleton.mp hy ▸ h

/-- What a job comes to that ends when a call has failed, with the calls that were answered. It
fails like the call, or shows the failure in its result; and without failed calls its failures are
those of a client. It stalls when `n` calls have been answered. -/
inductive InTurn {α : Type} (inner : α → List Failure) (n : Nat) :
    List (Call × Arrival) → Option (Outcome α) → Prop where
  | ended {new : List (Call × Arrival)} {result : Outcome α} (all : AllSucceed new)
      (own : ∀ f ∈ failuresIn inner result, f.isClient = true) : InTurn inner n new (some result)
  | failed {new : List (Call × Arrival)} {x : Call × Arrival} {f : Failure} (all : AllSucceed new)
      (last : x.2.failure? = some f) : InTurn inner n (new ++ [x]) (some (.error f))
  | shown {new : List (Call × Arrival)} {x : Call × Arrival} {f : Failure} {a : α}
      (all : AllSucceed new) (last : x.2.failure? = some f) (shows_ : inner a = [f.asError]) :
    InTurn inner n (new ++ [x]) (some (.ok a))
  | stalled {new : List (Call × Arrival)} (all : AllSucceed new) (long : n ≤ new.length) :
    InTurn inner n new none

theorem InTurn.ended_error {α : Type} {inner : α → List Failure} {n : Nat}
    {new : List (Call × Arrival)} {f : Failure} (all : AllSucceed new) (own : f.isClient = true) :
    InTurn inner n new (some (.error f)) :=
  .ended all fun _ hg => List.mem_singleton.mp hg ▸ own

/-- The only call has failed. -/
theorem InTurn.failed_alone {α : Type} {inner : α → List Failure} {n : Nat} {x : Call × Arrival}
    {f : Failure} (last : x.2.failure? = some f) : InTurn inner n [x] (some (.error f)) :=
  show InTurn inner n ([] ++ [x]) _ from .failed .nil last

/-- The calls that succeeded before belong to what a job comes to. -/
theorem InTurn.prepend {α : Type} {inner : α → List Failure} {m n : Nat}
    {before new : List (Call × Arrival)} {result : Option (Outcome α)} (all : AllSucceed before)
    (h : InTurn inner n new result) (many : m ≤ before.length + n) :
    InTurn inner m (before ++ new) result := by
  cases h with
  | ended all' own => exact .ended (all.append all') own
  | failed all' last =>
    rw [← List.append_assoc]
    exact .failed (all.append all') last
  | shown all' last shows_ =>
    rw [← List.append_assoc]
    exact .shown (all.append all') last shows_
  | stalled all' long =>
    refine .stalled (all.append all') ?_
    rw [List.length_append]
    omega

namespace Job
variable {α β : Type} {inner : α → List Failure} {n : Nat}

/-- Whether a job, where nothing else is under way, sends one call after another and comes to what
its answers tell. -/
def AsksInTurn (inner : α → List Failure) (n : Nat) (j : Job α) : Prop :=
  ∀ s answered alarms, s.Stands [] answered alarms →
    j.ComesTo (fun result s' => ∃ new,
      s'.Stands [] (answered ++ new) (alarms ++ new.flatMap Exchange.alarms) ∧
        InTurn inner n new result) s

theorem asksInTurn_ofOutcome {result : Outcome α}
    (own : ∀ f ∈ failuresIn inner result, f.isClient = true) :
    (ofOutcome result).AsksInTurn inner n :=
  fun _ _ _ h => ⟨trivial, [], by simpa using h, .ended .nil own⟩

theorem asksInTurn_pure {a : α} (none_shown : inner a = []) :
    (pure a : Job α).AsksInTurn inner n := by
  refine show (ofOutcome (.ok a)).AsksInTurn inner n from asksInTurn_ofOutcome fun f hf => ?_
  rw [failuresIn, none_shown] at hf
  cases hf

theorem asksInTurn_require (holds : Bool) (p : Precondition) :
    (require holds p).AsksInTurn (fun _ => []) n := by
  cases holds with
  | true => exact asksInTurn_pure rfl
  | false =>
    refine show (ofOutcome (.error p.failure)).AsksInTurn (fun _ => []) n from
      asksInTurn_ofOutcome fun f hf => ?_
    exact List.mem_singleton.mp hf ▸ p.isClient_failure

theorem asksInTurn_sayAll {rs : List Report} (calm : rs.filter (·.isAlarm) = []) :
    (sayAll rs).AsksInTurn (fun _ => []) n := by
  intro s answered alarms h
  refine (comesTo_sayAll h rs).mono ?_
  rintro _ s' - ⟨rfl, h'⟩
  rw [calm] at h'
  exact ⟨[], by simpa using h', .ended .nil fun _ hf => (List.not_mem_nil hf).elim⟩

theorem asksInTurn_say {r : Report} (calm : r.isAlarm = false) :
    (say r).AsksInTurn (fun _ => []) n := by
  intro s answered alarms h
  refine (comesTo_say h r).mono ?_
  rintro _ s' - ⟨rfl, h'⟩
  rw [List.filter_cons_of_neg (by simp [calm]), List.filter_nil] at h'
  exact ⟨[], by simpa using h', .ended .nil fun _ hf => (List.not_mem_nil hf).elim⟩

/-- A job that goes on after calls that succeeded. -/
theorem AsksInTurn.after {j : Job α} {s : Scene} {answered before : List (Call × Arrival)}
    {alarms : List Report} {m : Nat} (h : j.AsksInTurn inner n) (all : AllSucceed before)
    (hs : s.Stands [] (answered ++ before) (alarms ++ before.flatMap Exchange.alarms))
    (many : m ≤ before.length + n) : j.ComesTo (fun result s' => ∃ new,
      s'.Stands [] (answered ++ new) (alarms ++ new.flatMap Exchange.alarms) ∧
        InTurn inner m new result) s := by
  refine (h s _ _ hs).mono ?_
  rintro result s' - ⟨new, hs', turns⟩
  refine ⟨before ++ new, ?_, turns.prepend all many⟩
  rw [List.flatMap_append, ← List.append_assoc, ← List.append_assoc]
  exact hs'

theorem AsksInTurn.bind {j : Job β} {f : β → Job α} (h : j.AsksInTurn (fun _ => []) n)
    (hf : ∀ b, (f b).AsksInTurn inner n) : (j >>= f).AsksInTurn inner n := by
  intro s answered alarms hs
  refine Keeps.bind ((h s answered alarms hs).mono ?_)
  rintro result s' - ⟨new, hs', turns⟩
  cases turns with
  | ended all own =>
    rename_i result
    cases result with
    | ok b => exact (hf b).after all hs' (Nat.le_add_left ..)
    | error e => exact ⟨new, hs', .ended all own⟩
  | failed all last => exact ⟨_, hs', .failed all last⟩
  | shown all last shows_ => cases shows_
  | stalled all long => exact ⟨new, hs', .stalled all long⟩

/-- A call counts towards those after which a job stalls. -/
theorem asksInTurn_exchangeAs_bind {decode : Decoder β} {c : Call} {f : β → Job α}
    (hf : ∀ b, (f b).AsksInTurn inner n) :
    (exchangeAs decode c >>= f).AsksInTurn inner (n + 1) := by
  intro s answered alarms hs
  refine Keeps.bind ((comesTo_exchangeAs hs decode c).mono ?_)
  rintro result s' - ⟨a, rfl, hs'⟩
  have hs' : s'.Stands [] (answered ++ [(c, a)]) (alarms ++ [(c, a)].flatMap Exchange.alarms) := by
    simpa using hs'
  rcases Exchange.answerAs_cases decode c a with
    ⟨f, last, failed⟩ | ⟨calm, ⟨b, read⟩ | ⟨f, unread, own⟩⟩
  · rw [failed]
    exact ⟨_, hs', .failed_alone last⟩
  · rw [read]
    exact (hf b).after (.singleton calm) hs' (Nat.le_of_eq (Nat.add_comm n 1))
  · rw [unread]
    exact ⟨_, hs', .ended_error (.singleton calm) own⟩

theorem asksInTurn_exchangeAs (decode : Decoder α) (c : Call) :
    (exchangeAs decode c).AsksInTurn (fun _ => []) n := by
  intro s answered alarms hs
  refine (comesTo_exchangeAs hs decode c).mono ?_
  rintro result s' - ⟨a, rfl, hs'⟩
  refine ⟨[(c, a)], by simpa using hs', ?_⟩
  rcases Exchange.answerAs_cases decode c a with
    ⟨f, last, failed⟩ | ⟨calm, ⟨b, read⟩ | ⟨f, unread, own⟩⟩
  · rw [failed]
    exact .failed_alone last
  · rw [read]
    exact .ended (.singleton calm) fun g hg => (List.not_mem_nil hg).elim
  · rw [unread]
    exact .ended_error (.singleton calm) own

theorem asksInTurn_exchange (c : Call) : (exchange c).AsksInTurn (fun _ => []) n := by
  intro s answered alarms hs
  refine (comesTo_exchange hs c).mono ?_
  rintro result s' - ⟨a, rfl, hs'⟩
  refine ⟨[(c, a)], by simpa using hs', ?_⟩
  cases ha : Exchange.answer a.outcome with
  | error f => exact .failed_alone (Arrival.failure?_eq_some.mpr ha)
  | ok body =>
    exact .ended (.singleton (by rw [Arrival.failure?, ha])) fun g hg => (List.not_mem_nil hg).elim

/-- What a job reads or is told makes no difference. -/
theorem asksInTurn_clock {next : Option Instant → Job α} (h : ∀ t, (next t).AsksInTurn inner n) :
    (clock next).AsksInTurn inner n :=
  fun _ _ _ hs => ⟨trivial, fun t => h t _ _ _ (hs.note rfl rfl rfl)⟩

theorem asksInTurn_query {ref : Nat} {next : Query → Job α} (h : ∀ q, (next q).AsksInTurn inner n) :
    (query ref next).AsksInTurn inner n :=
  fun _ _ _ hs => ⟨trivial, h _ _ _ _ (hs.note rfl rfl rfl)⟩

theorem asksInTurn_progress {uploaded total : Nat} {next : Option Failure → Job α}
    (h : ∀ failure, (next failure).AsksInTurn inner n) :
    (progress uploaded total next).AsksInTurn inner n :=
  fun _ _ _ hs => ⟨trivial, fun failure => h failure _ _ _ (hs.note rfl rfl rfl)⟩

end Job
end Depot
