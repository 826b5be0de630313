import Depot.Proofs.Course
/-!
# What a course keeps

A job keeps an invariant when every scene of its courses satisfies it. The rules
follow the parts of a job, so a job that is put together from others is treated
part by part, and a course is never unrolled.
-/
namespace Depot
namespace Job
variable {α β : Type} {I : Scene → Prop}

/-- Every scene that a course of the job from `s` comes to satisfies `I`, the job never waits for
nothing and leaves nothing to itself, and `Q` holds of what it comes to at the end; a job that
stalls comes to nothing. -/
def Keeps (I : Scene → Prop) (Q : Option (Outcome α) → Scene → Prop) : Job α → Scene → Prop
  | .finish result, s => I s ∧ Q (some result) s
  | .stall, s => I s ∧ Q none s
  | .report r next, s => I s ∧ Keeps I Q (next none) (s.note (.reported r))
  | .clock next, s => I s ∧ ∀ t, Keeps I Q (next t) (s.note (.dated t))
  | .query ref next, s =>
    I s ∧ Keeps I Q (next (s.desk.queryAt ref)) (s.note (.read (s.desk.queryAt ref)))
  | .progress u n next, s => I s ∧ ∀ failure, Keeps I Q (next failure) (s.note (.told u n))
  | .launch k c next, s => I s ∧ Keeps I Q next (s.launch k c)
  | .await next, s => I s ∧ s.underWay ≠ [] ∧
    ∀ moves k a, k ∈ s.underWay → Keeps I Q (next k a) ((s.stir moves).land k a)
  | .detach .., _ => False

variable {Q R : Option (Outcome α) → Scene → Prop} {j : Job α} {s : Scene}

theorem Keeps.inv (h : j.Keeps I Q s) : I s := by
  cases j with
  | detach => exact h.elim
  | _ => exact h.1

theorem Keeps.mono (h : j.Keeps I Q s) (hQ : ∀ result s, I s → Q result s → R result s) :
    j.Keeps I R s := by
  induction j generalizing s with
  | finish result => exact ⟨h.1, hQ _ _ h.1 h.2⟩
  | stall => exact ⟨h.1, hQ _ _ h.1 h.2⟩
  | report r next ih => exact ⟨h.1, ih _ h.2⟩
  | clock next ih => exact ⟨h.1, fun t => ih _ (h.2 t)⟩
  | query ref next ih => exact ⟨h.1, ih _ h.2⟩
  | progress u n next ih => exact ⟨h.1, fun failure => ih _ (h.2 failure)⟩
  | launch k c next ih => exact ⟨h.1, ih h.2⟩
  | await next ih => exact ⟨h.1, h.2.1, fun moves k a hk => ih _ _ (h.2.2 moves k a hk)⟩
  | detach => exact h

/-- What a job in front of another has to come to. -/
def Before (I : Scene → Prop) (Q : Option (Outcome β) → Scene → Prop) (f : α → Job β) :
    Option (Outcome α) → Scene → Prop
  | some (.ok a), s => (f a).Keeps I Q s
  | some (.error e), s => Q (some (.error e)) s
  | none, s => Q none s

theorem Keeps.bind {Q : Option (Outcome β) → Scene → Prop} {f : α → Job β}
    (h : j.Keeps I (Before I Q f) s) : (j >>= f).Keeps I Q s := by
  change (j.bind f).Keeps I Q s
  induction j generalizing s with
  | finish result =>
    cases result with
    | ok a => exact h.2
    | error e => exact h
  | stall => exact h
  | report r next ih => exact ⟨h.1, ih _ h.2⟩
  | clock next ih => exact ⟨h.1, fun t => ih _ (h.2 t)⟩
  | query ref next ih => exact ⟨h.1, ih _ h.2⟩
  | progress u n next ih => exact ⟨h.1, fun failure => ih _ (h.2 failure)⟩
  | launch k c next ih => exact ⟨h.1, ih h.2⟩
  | await next ih => exact ⟨h.1, h.2.1, fun moves k a hk => ih _ _ (h.2.2 moves k a hk)⟩
  | detach => exact h.elim

theorem Keeps.attempt {Q : Option (Outcome (Outcome α)) → Scene → Prop}
    (h : j.Keeps I (fun result s => Q (result.map .ok) s) s) : j.attempt.Keeps I Q s := by
  induction j generalizing s with
  | finish result => exact h
  | stall => exact h
  | report r next ih => exact ⟨h.1, ih _ h.2⟩
  | clock next ih => exact ⟨h.1, fun t => ih _ (h.2 t)⟩
  | query ref next ih => exact ⟨h.1, ih _ h.2⟩
  | progress u n next ih => exact ⟨h.1, fun failure => ih _ (h.2 failure)⟩
  | launch k c next ih => exact ⟨h.1, ih h.2⟩
  | await next ih => exact ⟨h.1, h.2.1, fun moves k a hk => ih _ _ (h.2.2 moves k a hk)⟩
  | detach => exact h.elim

end Job

namespace Course
variable {α : Type} {I : Scene → Prop} {Q : Option (Outcome α) → Scene → Prop}

theorem keeps_of_moves {c c' : Course α} (h : c.job.Keeps I Q c.scene) (hm : c.Moves c') :
    c'.job.Keeps I Q c'.scene := by
  cases hm with
  | report r next s => exact h.2
  | clock t next s => exact h.2 t
  | query ref next s => exact h.2
  | progress u n failure next s => exact h.2 failure
  | launch k call next s => exact h.2
  | await moves k a next s hk => exact h.2.2 moves k a hk

/-- What a job keeps holds wherever its courses come to. -/
theorem keeps_of_run {turns : List Turn} {c c' : Course α} (h : c.job.Keeps I Q c.scene)
    (hr : c.run turns = some c') : c'.job.Keeps I Q c'.scene := by
  induction turns generalizing c with
  | nil => cases hr; exact h
  | cons t rest ih =>
    obtain ⟨d, hd, hr⟩ := Option.bind_eq_some_iff.mp hr
    exact ih (keeps_of_moves h (moves_of_step hd)) hr

theorem post_of_keeps {c : Course α} {result : Outcome α} (h : c.job.Keeps I Q c.scene)
    (hr : c.result? = some result) : Q (some result) c.scene := by
  obtain ⟨j, s⟩ := c
  cases j <;> cases hr
  exact h.2

/-- A job that keeps an invariant is never stuck. -/
theorem goes_on_of_keeps {c : Course α} (h : c.job.Keeps I Q c.scene) :
    (∃ result, c.result? = some result) ∨ c.job = .stall ∨ ∃ t c', c.step t = some c' := by
  obtain ⟨j, s⟩ := c
  cases j with
  | finish result => exact .inl ⟨result, rfl⟩
  | stall => exact .inr (.inl rfl)
  | report r next => exact .inr (.inr ⟨.serve, _, rfl⟩)
  | clock next => exact .inr (.inr ⟨.date none, _, rfl⟩)
  | query ref next => exact .inr (.inr ⟨.serve, _, rfl⟩)
  | progress u n next => exact .inr (.inr ⟨.hear none, _, rfl⟩)
  | launch k call next => exact .inr (.inr ⟨.serve, _, rfl⟩)
  | await next =>
    obtain ⟨k, hk⟩ := List.exists_mem_of_ne_nil _ h.2.1
    exact .inr (.inr ⟨.answer [] k ⟨.error (.thrown ""), 0⟩, _, if_pos hk⟩)
  | detach => exact h.elim

/-- A job that keeps an invariant ends or uses up its pages, whatever happens. -/
theorem surely_of_keeps {c : Course α} (h : c.job.Keeps I Q c.scene) :
    c.Surely fun c => (∃ result, c.result? = some result ∧ Q (some result) c.scene) ∨
      (c.job = .stall ∧ Q none c.scene) := by
  induction c using moves_wellFounded.induction with
  | _ c ih =>
    rcases goes_on_of_keeps h with ⟨result, ended⟩ | stalled | onward
    · exact .now (.inl ⟨result, ended, post_of_keeps h ended⟩)
    · rw [stalled] at h
      exact .now (.inr ⟨stalled, h.2⟩)
    · refine .later onward fun t c' step => ?_
      have moves := moves_of_step step
      exact ih c' moves (keeps_of_moves h moves)

theorem surely_ends_of_keeps {c : Course α} (h : c.job.Keeps I Q c.scene)
    (never : ∀ s, ¬ Q none s) : c.Surely fun c => ∃ result, c.result? = some result := by
  refine (surely_of_keeps h).mono fun c hc => ?_
  rcases hc with ⟨result, ended, -⟩ | ⟨-, stalled⟩
  · exact ⟨result, ended⟩
  · exact absurd stalled (never c.scene)

/-- A course of a job that refuses what is asked of it: it does nothing but to fail. -/
structure Refused (f : Failure) (c : Course α) : Prop where
  silent : c.scene.Silent
  result : ∀ result, c.result? = some result → result = .error f
  ends : c.Surely fun c => ∃ result, c.result? = some result

theorem refused_of_keeps {f : Failure} {c : Course α}
    (h : c.job.Keeps Scene.Silent (fun result _ => result = some (.error f)) c.scene) :
    c.Refused f where
  silent := h.inv
  result _ hr := Option.some.inj (post_of_keeps h hr)
  ends := surely_ends_of_keeps h nofun

end Course
end Depot
