import Depot.Proofs.Course
/-!
# What a job can ask for

The calls that a job can send and the queries that it can read, whatever it is answered. As with
what a course keeps, the rules follow the parts of a job.
-/
namespace Depot
namespace Job
variable {α β : Type} {P : Call → Prop} {R : Nat → Prop}

/-- Whatever a job is answered, each call that it sends satisfies `P`, and each query that it reads
is at a place that satisfies `R`. -/
def AsksOnly (P : Call → Prop) (R : Nat → Prop) : Job α → Prop
  | .finish _ => True
  | .stall => True
  | .report _ next => ∀ failure, AsksOnly P R (next failure)
  | .clock next => ∀ t, AsksOnly P R (next t)
  | .query ref next => R ref ∧ ∀ q, AsksOnly P R (next q)
  | .progress _ _ next => ∀ failure, AsksOnly P R (next failure)
  | .launch _ c next => P c ∧ AsksOnly P R next
  | .await next => ∀ k a, AsksOnly P R (next k a)
  | .detach _ rest next => AsksOnly P R rest ∧ AsksOnly P R next

variable {j : Job α}

theorem AsksOnly.mono {P' : Call → Prop} {R' : Nat → Prop} (h : j.AsksOnly P R)
    (hP : ∀ c, P c → P' c) (hR : ∀ ref, R ref → R' ref) : j.AsksOnly P' R' := by
  induction j with
  | finish | stall => trivial
  | report r next ih => exact fun failure => ih failure (h failure)
  | clock next ih => exact fun t => ih t (h t)
  | query ref next ih => exact ⟨hR ref h.1, fun q => ih q (h.2 q)⟩
  | progress u n next ih => exact fun failure => ih failure (h failure)
  | launch k c next ih => exact ⟨hP c h.1, ih h.2⟩
  | await next ih => exact fun k a => ih k a (h k a)
  | detach most rest next ihr ih => exact ⟨ihr h.1, ih h.2⟩

theorem AsksOnly.bind {f : α → Job β} (h : j.AsksOnly P R) (hf : ∀ a, (f a).AsksOnly P R) :
    (j >>= f).AsksOnly P R := by
  change (j.bind f).AsksOnly P R
  induction j generalizing f with
  | finish result =>
    cases result with
    | ok a => exact hf a
    | error e => trivial
  | stall => trivial
  | report r next ih => exact fun failure => ih failure (h failure) hf
  | clock next ih => exact fun t => ih t (h t) hf
  | query ref next ih => exact ⟨h.1, fun q => ih q (h.2 q) hf⟩
  | progress u n next ih => exact fun failure => ih failure (h failure) hf
  | launch k c next ih => exact ⟨h.1, ih h.2 hf⟩
  | await next ih => exact fun k a => ih k a (h k a) hf
  | detach most rest next ihr ih =>
    -- what is left to itself ends without a result
    exact ⟨ihr h.1 fun _ => trivial, ih h.2 hf⟩

theorem AsksOnly.attempt (h : j.AsksOnly P R) : j.attempt.AsksOnly P R := by
  induction j with
  | finish | stall => trivial
  | report r next ih => exact fun failure => ih failure (h failure)
  | clock next ih => exact fun t => ih t (h t)
  | query ref next ih => exact ⟨h.1, fun q => ih q (h.2 q)⟩
  | progress u n next ih => exact fun failure => ih failure (h failure)
  | launch k c next ih => exact ⟨h.1, ih h.2⟩
  | await next ih => exact fun k a => ih k a (h k a)
  | detach most rest next ihr ih => exact ⟨ihr h.1, ih h.2⟩

theorem asksOnly_ofOutcome (result : Outcome α) : (ofOutcome result).AsksOnly P R := trivial

theorem asksOnly_require (holds : Bool) (p : Precondition) : (require holds p).AsksOnly P R := by
  cases holds <;> trivial

theorem asksOnly_say (r : Report) : (say r).AsksOnly P R := by
  intro failure
  cases failure <;> trivial

theorem asksOnly_sayAll (rs : List Report) : (sayAll rs).AsksOnly P R := by
  induction rs with
  | nil => trivial
  | cons r rest ih => exact (asksOnly_say r).bind fun _ => ih

theorem asksOnly_send {k : Nat} {c : Call} (hc : P c) : (send k c).AsksOnly P R :=
  (asksOnly_say _).bind fun _ => ⟨hc, trivial⟩

theorem asksOnly_settle (c : Call) (a : Arrival) : (settle c a).AsksOnly P R :=
  (asksOnly_sayAll _).bind fun _ => asksOnly_ofOutcome _

theorem asksOnly_exchange {c : Call} (hc : P c) : (exchange c).AsksOnly P R :=
  (asksOnly_send hc).bind fun _ _ a => asksOnly_settle c a

theorem asksOnly_exchangeAs {decode : Decoder α} {c : Call} (hc : P c) :
    (exchangeAs decode c).AsksOnly P R :=
  (asksOnly_exchange hc).bind fun _ => asksOnly_ofOutcome _

end Job

namespace Course
variable {α : Type} {P : Call → Prop} {R : Nat → Prop}

theorem asksOnly_of_moves {c c' : Course α} (h : c.job.AsksOnly P R) (hm : c.Moves c') :
    c'.job.AsksOnly P R := by
  cases hm with
  | report r next s => exact h none
  | clock t next s => exact h t
  | query ref next s => exact h.2 _
  | progress u n failure next s => exact h failure
  | launch k call next s => exact h.2
  | await moves k a next s hk => exact h k a

theorem sent_of_moves {c c' : Course α} (h : c.job.AsksOnly P R)
    (sent : ∀ call ∈ c.scene.sent, P call) (hm : c.Moves c') : ∀ call ∈ c'.scene.sent, P call := by
  cases hm with
  | report | clock | query | progress => simpa [Incident.call?] using sent
  | launch k call next s =>
    intro other ho
    rw [Scene.sent_launch] at ho
    exact (List.mem_append.mp ho).elim (sent other) fun last => List.mem_singleton.mp last ▸ h.1
  | await moves k a next s hk => simpa using sent

/-- Whatever the surroundings of a job do, each call that it sends is one that it can ask for. -/
theorem sent_of_asksOnly {turns : List Turn} {c c' : Course α} (h : c.job.AsksOnly P R)
    (sent : ∀ call ∈ c.scene.sent, P call) (hr : c.run turns = some c') :
    ∀ call ∈ c'.scene.sent, P call := by
  induction turns generalizing c with
  | nil => cases hr; exact sent
  | cons t rest ih =>
    obtain ⟨d, hd, hr⟩ := Option.bind_eq_some_iff.mp hr
    have moves := moves_of_step hd
    exact ih (asksOnly_of_moves h moves) (sent_of_moves h sent moves) hr

end Course
end Depot
