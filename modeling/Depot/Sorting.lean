/-!
# Sorting

A list in the order of a relation. What is equal in that order keeps its place.
-/
namespace Depot.Sorting
variable {α : Type}

/-- Puts an element in front of the first one that may stand behind it. -/
def insert (le : α → α → Bool) (a : α) : List α → List α
  | [] => [a]
  | b :: rest => if le a b then a :: b :: rest else b :: insert le a rest

/-- The elements of a list in order. -/
def sorted (le : α → α → Bool) : List α → List α
  | [] => []
  | a :: rest => insert le a (sorted le rest)

theorem insert_perm (le : α → α → Bool) (a : α) (l : List α) :
    (insert le a l).Perm (a :: l) := by
  induction l with
  | nil => exact .refl _
  | cons b rest ih =>
    simp only [insert]
    split
    · exact .refl _
    · exact (ih.cons b).trans (.swap a b rest)

/-- Sorting loses and adds nothing. -/
theorem sorted_perm (le : α → α → Bool) (l : List α) : (sorted le l).Perm l := by
  induction l with
  | nil => exact .refl _
  | cons a rest ih => exact (insert_perm le a _).trans (ih.cons a)

section Order
variable {le : α → α → Bool}

theorem insert_pairwise (total : ∀ a b, le a b ∨ le b a)
    (trans : ∀ a b c, le a b → le b c → le a c) (a : α) {l : List α}
    (h : l.Pairwise fun x y => le x y) : (insert le a l).Pairwise fun x y => le x y := by
  induction l with
  | nil => exact List.pairwise_singleton _ a
  | cons b rest ih =>
    obtain ⟨below, ordered⟩ := List.pairwise_cons.mp h
    simp only [insert]
    split
    case isTrue first =>
      refine List.pairwise_cons.mpr ⟨?_, h⟩
      intro c hc
      rcases List.mem_cons.mp hc with rfl | hc
      · exact first
      · exact trans a b c first (below c hc)
    case isFalse later =>
      refine List.pairwise_cons.mpr ⟨?_, ih ordered⟩
      intro c hc
      rcases List.mem_cons.mp ((insert_perm le a rest).mem_iff.mp hc) with rfl | hc
      · exact (total b c).resolve_right later
      · exact below c hc

theorem sorted_pairwise (total : ∀ a b, le a b ∨ le b a)
    (trans : ∀ a b c, le a b → le b c → le a c) (l : List α) :
    (sorted le l).Pairwise fun x y => le x y := by
  induction l with
  | nil => exact .nil
  | cons a rest ih => exact insert_pairwise total trans a ih

/-- However a list is shuffled, sorting brings it back into its order. -/
theorem sorted_eq_of_perm (total : ∀ a b, le a b ∨ le b a)
    (trans : ∀ a b c, le a b → le b c → le a c) {l l' : List α} (h : l.Perm l')
    (ordered : l'.Pairwise fun x y => le x y)
    (antisymm : ∀ a ∈ l', ∀ b ∈ l', le a b → le b a → a = b) : sorted le l = l' := by
  have perm := (sorted_perm le l).trans h
  refine List.Perm.eq_of_pairwise ?_ (sorted_pairwise total trans l) ordered perm
  intro a b ha hb
  exact antisymm a (perm.mem_iff.mp ha) b hb

end Order

end Depot.Sorting
