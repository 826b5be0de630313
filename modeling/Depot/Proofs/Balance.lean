import Mathlib.Algebra.BigOperators.Group.List.Basic
import Mathlib.Algebra.Order.Ring.Int
import Depot.Proofs.Exchange
/-!
# Reports in balance with calls

A tally says what reports, calls and answers are worth. What a scene owes are its calls and answers,
less its reports. The rules follow the parts of a job; with a tally in which the reports of an
exchange are worth what its call and its answer are, an exchange leaves nothing to pay.
-/
namespace Depot

structure Tally where
  report : Report → ℤ
  call : ℤ
  answer : Arrival → ℤ

namespace Tally

/-- What reports are worth. -/
def sum (t : Tally) (rs : List Report) : ℤ := (rs.map t.report).sum

theorem sum_eq_zero {t : Tally} {rs : List Report} (h : ∀ r ∈ rs, t.report r = 0) :
    t.sum rs = 0 := List.sum_eq_zero fun n hn => by
  obtain ⟨r, hr, rfl⟩ := List.mem_map.mp hn
  exact h r hr

/-- What is reported of a call when it is sent pays for it, and of what its answer is worth `rest`
is left to pay. -/
structure Echoes (t : Tally) (rest : Arrival → ℤ) : Prop where
  sending : ∀ c, t.report (Exchange.sending c) = t.call
  settle : ∀ c a, t.sum (Exchange.settle c a.latencyMs a.outcome).2 + rest a = t.answer a

end Tally

namespace Scene

/-- What is left to pay in a scene. -/
def owes (t : Tally) (s : Scene) : ℤ :=
  t.call * s.sent.length + (s.arrived.map fun x => t.answer x.2).sum - t.sum s.reports

section Views
variable (t : Tally) (s : Scene)

theorem owes_report (r : Report) : (s.note (.reported r)).owes t = s.owes t - t.report r := by
  simp [owes, Tally.sum]
  omega

theorem owes_note {i : Incident} (call : i.call? = none) (arrival : i.arrival? = none)
    (report : i.report? = none) : (s.note i).owes t = s.owes t := by
  rw [owes, sent_note, call, arrived_note, arrival, reports_note, report, Option.toList_none,
    Option.toList_none, Option.toList_none, List.append_nil, List.append_nil, List.append_nil, owes]

theorem owes_launch (k : Nat) (c : Call) : (s.launch k c).owes t = s.owes t + t.call := by
  simp [owes, mul_add]
  omega

theorem owes_land (moves : List Desk.Move) (k : Nat) (a : Arrival) :
    ((s.stir moves).land k a).owes t = s.owes t + t.answer a := by
  simp [owes]
  omega

end Views

end Scene

namespace Job
variable {α β : Type} {t : Tally}

/-- Where `owed` is left to pay, whatever happens to a job, `Q` holds of what is left to pay when it
has ended and of what it comes to. -/
def Pays (t : Tally) (Q : ℤ → Outcome α → Prop) : Job α → (owed : ℤ) → Prop
  | .finish result, owed => Q owed result
  | .stall, _ => True
  | .report r next, owed => (next none).Pays t Q (owed - t.report r)
  | .clock next, owed => ∀ date, (next date).Pays t Q owed
  | .query _ next, owed => ∀ q, (next q).Pays t Q owed
  | .progress _ _ next, owed => ∀ failure, (next failure).Pays t Q owed
  | .launch _ _ next, owed => next.Pays t Q (owed + t.call)
  | .await next, owed => ∀ k a, (next k a).Pays t Q (owed + t.answer a)
  | .detach .., _ => True

/-- A job that leaves as much to pay as it finds. -/
abbrev IsEven (t : Tally) (j : Job α) : Prop := ∀ owed, j.Pays t (fun owed' _ => owed' = owed) owed

variable {Q R : ℤ → Outcome α → Prop} {j : Job α} {owed : ℤ}

theorem Pays.mono (h : j.Pays t Q owed) (hQ : ∀ owed x, Q owed x → R owed x) : j.Pays t R owed := by
  induction j generalizing owed with
  | finish result => exact hQ _ _ h
  | stall | detach => trivial
  | report r next ih => exact ih none h
  | clock next ih => exact fun date => ih date (h date)
  | query ref next ih => exact fun q => ih q (h q)
  | progress u n next ih => exact fun failure => ih failure (h failure)
  | launch k c next ih => exact ih h
  | await next ih => exact fun k a => ih k a (h k a)

/-- What a job in front of another has to leave to pay. -/
def Paid (t : Tally) (Q : ℤ → Outcome β → Prop) (f : α → Job β) : ℤ → Outcome α → Prop
  | owed, .ok a => (f a).Pays t Q owed
  | owed, .error e => Q owed (.error e)

theorem Pays.bind {Q : ℤ → Outcome β → Prop} {f : α → Job β} (h : j.Pays t (Paid t Q f) owed) :
    (j >>= f).Pays t Q owed := by
  change (j.bind f).Pays t Q owed
  induction j generalizing owed with
  | finish result => cases result <;> exact h
  | stall | detach => trivial
  | report r next ih => exact ih none h
  | clock next ih => exact fun date => ih date (h date)
  | query ref next ih => exact fun q => ih q (h q)
  | progress u n next ih => exact fun failure => ih failure (h failure)
  | launch k c next ih => exact ih h
  | await next ih => exact fun k a => ih k a (h k a)

theorem Pays.attempt {Q : ℤ → Outcome (Outcome α) → Prop}
    (h : j.Pays t (fun owed x => Q owed (.ok x)) owed) : j.attempt.Pays t Q owed := by
  induction j generalizing owed with
  | finish result => exact h
  | stall | detach => trivial
  | report r next ih => exact ih none h
  | clock next ih => exact fun date => ih date (h date)
  | query ref next ih => exact fun q => ih q (h q)
  | progress u n next ih => exact fun failure => ih failure (h failure)
  | launch k c next ih => exact ih h
  | await next ih => exact fun k a => ih k a (h k a)

theorem IsEven.bind {f : α → Job β} (h : j.IsEven t) (hf : ∀ a, (f a).IsEven t) :
    (j >>= f).IsEven t := by
  refine fun owed => Pays.bind ((h owed).mono ?_)
  rintro _ x rfl
  cases x with
  | ok a => exact hf a _
  | error e => rfl

theorem IsEven.attempt (h : j.IsEven t) : j.attempt.IsEven t := fun owed => Pays.attempt (h owed)

theorem isEven_ofOutcome (result : Outcome α) : (ofOutcome result).IsEven t := fun _ => rfl

theorem isEven_require (holds : Bool) (p : Precondition) : (require holds p).IsEven t := by
  cases holds <;> exact fun _ => rfl

theorem isEven_say {r : Report} (calm : t.report r = 0) : (say r).IsEven t := by
  intro owed
  exact (congrArg (owed - ·) calm).trans (sub_zero owed)

theorem pays_sayAll (t : Tally) (rs : List Report) (owed : ℤ) : (sayAll rs).Pays t
    (fun owed' x => owed' = owed - t.sum rs ∧ x = .ok ()) owed := by
  induction rs generalizing owed with
  | nil => exact ⟨(sub_zero owed).symm, rfl⟩
  | cons r rest ih =>
    refine Pays.bind (j := say r) (f := fun _ => sayAll rest) ((ih _).mono ?_)
    rintro owed' x ⟨rfl, rfl⟩
    exact ⟨by simp [Tally.sum, sub_sub], rfl⟩

section Exchanges
variable {rest : Arrival → ℤ} (h : t.Echoes rest)
include h

/-- When an answer has arrived, it is reported; what is left is the rest. -/
theorem pays_settle (c : Call) (a : Arrival) (owed : ℤ) : (settle c a).Pays t
    (fun owed' x => owed' = owed + rest a ∧ x = Exchange.answer a.outcome)
    (owed + t.answer a) := by
  have parts : settle c a = sayAll (Exchange.settle c a.latencyMs a.outcome).2 >>= fun _ =>
      ofOutcome (Exchange.settle c a.latencyMs a.outcome).1 := rfl
  rw [parts, Exchange.settle_fst]
  refine Pays.bind ((pays_sayAll t _ _).mono ?_)
  rintro _ _ ⟨rfl, rfl⟩
  exact ⟨by rw [← h.settle c a]; omega, rfl⟩

theorem pays_send (k : Nat) (c : Call) (owed : ℤ) :
    (send k c).Pays t (fun owed' x => owed' = owed ∧ x = .ok ()) owed := by
  refine ⟨?_, rfl⟩
  rw [h.sending, sub_add_cancel]

theorem pays_exchange (c : Call) (owed : ℤ) : (exchange c).Pays t
    (fun owed' x => ∃ a, owed' = owed + rest a ∧ x = Exchange.answer a.outcome) owed := by
  refine Pays.bind ((pays_send h 0 c owed).mono ?_)
  rintro _ _ ⟨rfl, rfl⟩ k a
  exact (pays_settle h c a _).mono fun _ _ hq => ⟨a, hq⟩

theorem pays_exchangeAs (decode : Decoder α) (c : Call) (owed : ℤ) : (exchangeAs decode c).Pays t
    (fun owed' x => ∃ a, owed' = owed + rest a ∧ x = Exchange.answerAs decode c a.outcome)
    owed := by
  refine Pays.bind ((pays_exchange h c owed).mono ?_)
  rintro _ _ ⟨a, rfl, rfl⟩
  cases ha : Exchange.answer a.outcome with
  | error f => exact ⟨a, rfl, by rw [Exchange.answerAs_of_error ha]⟩
  | ok body => exact ⟨a, rfl, by rw [Exchange.answerAs, ha]; rfl⟩

end Exchanges

section Even
variable (h : t.Echoes fun _ => 0)
include h

theorem isEven_exchange (c : Call) : (exchange c).IsEven t := by
  refine fun owed => (pays_exchange h c owed).mono ?_
  rintro _ _ ⟨a, rfl, -⟩
  exact add_zero owed

theorem isEven_exchangeAs (decode : Decoder α) (c : Call) : (exchangeAs decode c).IsEven t := by
  refine fun owed => (pays_exchangeAs h decode c owed).mono ?_
  rintro _ _ ⟨a, rfl, -⟩
  exact add_zero owed

end Even
end Job

namespace Course
variable {α : Type} {t : Tally} {Q : ℤ → Outcome α → Prop}

/-- What a job pays is paid wherever its courses come to. -/
theorem pays_of_moves {c c' : Course α} (h : c.job.Pays t Q (c.scene.owes t)) (hm : c.Moves c') :
    c'.job.Pays t Q (c'.scene.owes t) := by
  cases hm with
  | report r next s =>
    rw [Scene.owes_report]
    exact h
  | clock date next s =>
    rw [Scene.owes_note t s rfl rfl rfl]
    exact h date
  | query ref next s =>
    rw [Scene.owes_note t s rfl rfl rfl]
    exact h _
  | progress u n failure next s =>
    rw [Scene.owes_note t s rfl rfl rfl]
    exact h failure
  | launch k call next s =>
    rw [Scene.owes_launch]
    exact h
  | await moves k a next s hk =>
    rw [Scene.owes_land]
    exact h k a

theorem pays_of_run {turns : List Turn} {c c' : Course α}
    (h : c.job.Pays t Q (c.scene.owes t)) (hr : c.run turns = some c') :
    c'.job.Pays t Q (c'.scene.owes t) := by
  induction turns generalizing c with
  | nil =>
    cases hr
    exact h
  | cons turn rest ih =>
    obtain ⟨d, hd, hr⟩ := Option.bind_eq_some_iff.mp hr
    exact ih (pays_of_moves h (moves_of_step hd)) hr

/-- What is left to pay at the end of a course that begins with nothing to pay. -/
theorem owes_of_ended {j : Job α} (h : j.Pays t Q 0) {desk : Desk} {turns : List Turn}
    {c : Course α} (hr : (Course.start desk j).run turns = some c) {result : Outcome α}
    (ended : c.result? = some result) : Q (c.scene.owes t) result := by
  have begins : (Course.start desk j).scene.owes t = 0 := by
    simp [Course.start, Scene.owes, Scene.sent, Scene.arrived, Scene.reports, Tally.sum]
  have paid := pays_of_run (c := Course.start desk j) (by rw [begins]; exact h) hr
  obtain ⟨job, s⟩ := c
  cases job <;> cases ended
  exact paid

/-- Each call that was sent is under way or has been answered. -/
theorem length_sent_of_run {turns : List Turn} {c c' : Course α}
    (h : c.scene.sent.length = c.scene.arrived.length + c.scene.underWay.length)
    (hr : c.run turns = some c') :
    c'.scene.sent.length = c'.scene.arrived.length + c'.scene.underWay.length := by
  induction turns generalizing c with
  | nil =>
    cases hr
    exact h
  | cons turn rest ih =>
    obtain ⟨d, hd, hr⟩ := Option.bind_eq_some_iff.mp hr
    refine ih ?_ hr
    cases moves_of_step hd with
    | report | clock | query | progress => simpa using h
    | launch k call next s => simp [h, Nat.add_assoc]
    | await moves k a next s hk =>
      have some_left := List.length_pos_of_mem hk
      simp only [Scene.sent_land, Scene.sent_stir, h, Scene.arrived_land, Scene.arrived_stir,
        List.length_append, List.length_singleton, Scene.underWay_land, Scene.underWay_stir,
        List.length_erase_of_mem hk]
      omega

end Course
end Depot
