import Depot.Proofs.InTurn
/-!
# Accounts of failures

What the failures of an operation have to do with the calls that failed, for operations that ask one
thing after another and for those that have several calls under way.
-/
namespace Depot
variable {α : Type} {inner : α → List Failure} {n : Nat} {new : List (Call × Arrival)}
  {result : Option (Outcome α)}

/-- What a job comes to, with the calls that were answered. A result shows the failures of calls. If
the last call has failed, the job fails like it, and no call of its method has failed before. Every
other failure is one of a client; and the job stalls only after `n` calls that succeeded. -/
structure Accounts (inner : α → List Failure) (n : Nat) (new : List (Call × Arrival))
    (result : Option (Outcome α)) : Prop where
  shown : ∀ a, result = some (.ok a) → ∀ x ∈ new, ∀ f, x.2.failure? = some f → f.asError ∈ inner a
  failed : ∀ e, result = some (.error e) → ∀ x f, new.getLast? = some x → x.2.failure? = some f →
    e = f ∧ ∀ y ∈ new.dropLast, y.1.method = x.1.method → y.2.failure? = none
  traced : ∀ outcome, result = some outcome → ∀ f ∈ failuresIn inner outcome, f.isClient = true ∨
    ∃ x ∈ new, ∃ g, x.2.failure? = some g ∧ (f = g ∨ f = g.asError)
  stalled : result = none → n ≤ new.length ∧ AllSucceed new

theorem Accounts.of_ok {a : α}
    (shown : ∀ x ∈ new, ∀ f, x.2.failure? = some f → f.asError ∈ inner a)
    (traced : ∀ f ∈ inner a, f.isClient = true ∨
      ∃ x ∈ new, ∃ g, x.2.failure? = some g ∧ (f = g ∨ f = g.asError)) :
    Accounts inner n new (some (.ok a)) := by
  refine ⟨fun b h => ?_, fun e h => ?_, fun outcome h => ?_, fun h => ?_⟩ <;> cases h
  · exact shown
  · exact traced

theorem Accounts.of_error {e : Failure}
    (failed : ∀ x f, new.getLast? = some x → x.2.failure? = some f →
      e = f ∧ ∀ y ∈ new.dropLast, y.1.method = x.1.method → y.2.failure? = none)
    (traced : e.isClient = true ∨
      ∃ x ∈ new, ∃ g, x.2.failure? = some g ∧ (e = g ∨ e = g.asError)) :
    Accounts inner n new (some (.error e)) := by
  refine ⟨fun b h => ?_, fun e h => ?_, fun outcome h => ?_, fun h => ?_⟩ <;> cases h
  · exact failed
  · exact fun f hf => List.mem_singleton.mp hf ▸ traced

theorem InTurn.accounts (h : InTurn inner n new result) : Accounts inner n new result := by
  cases h with
  | @ended new result all own =>
    cases result with
    | ok a =>
      refine .of_ok (fun x hx f hf => ?_) fun f hf => .inl (own f hf)
      rw [all x hx] at hf
      cases hf
    | error e =>
      refine .of_error (fun x f hx hf => ?_) (.inl (own e (List.mem_singleton_self e)))
      rw [all x (List.mem_of_getLast? hx)] at hf
      cases hf
  | @failed new x g all last =>
    refine .of_error (fun y f hy hf => ?_) (.inr ⟨x, by simp, g, last, .inl rfl⟩)
    rw [List.getLast?_concat] at hy
    cases hy
    rw [List.dropLast_concat]
    exact ⟨Option.some.inj (last.symm.trans hf), fun y hy _ => all y hy⟩
  | @shown new x g a all last shows_ =>
    refine .of_ok (fun y hy f hf => ?_) fun f hf => ?_
    · rw [shows_]
      rcases List.mem_append.mp hy with hy | hy
      · rw [all y hy] at hf
        cases hf
      · rw [List.mem_singleton.mp hy, last] at hf
        cases hf
        exact List.mem_singleton_self _
    · rw [shows_] at hf
      exact .inr ⟨x, by simp, g, last, .inr (List.mem_singleton.mp hf)⟩
  | stalled all long =>
    refine ⟨fun _ h => ?_, fun _ h => ?_, fun _ h => ?_, fun _ => ⟨long, all⟩⟩ <;> cases h

/-- Whether a job, where nothing else is under way, comes to what its answers tell. -/
def Job.IsAccounted (inner : α → List Failure) (n : Nat) (j : Job α) : Prop :=
  ∀ s answered alarms, s.Stands [] answered alarms →
    j.ComesTo (fun result s' => ∃ new,
      s'.Stands [] (answered ++ new) (alarms ++ new.flatMap Exchange.alarms) ∧
        Accounts inner n new result) s

theorem Job.AsksInTurn.isAccounted {j : Job α} (h : j.AsksInTurn inner n) :
    j.IsAccounted inner n := by
  intro s answered alarms hs
  refine (h s answered alarms hs).mono ?_
  rintro result s' - ⟨new, hs', turns⟩
  exact ⟨new, hs', turns.accounts⟩

end Depot
