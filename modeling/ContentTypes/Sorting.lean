/-!
Stable sorting by insertion. The result has the same elements in order, and elements that are as
good as equal stay as they were.
-/

namespace ContentTypes

variable {α : Type}

/-- Puts an element in front of the first one that it does not have to follow. -/
def insertBy (le : α → α → Bool) (a : α) : List α → List α
  | [] => [a]
  | b :: rest => if le a b then a :: b :: rest else b :: insertBy le a rest

def sortBy (le : α → α → Bool) : List α → List α
  | [] => []
  | a :: rest => insertBy le a (sortBy le rest)

theorem insertBy_perm (le : α → α → Bool) (a : α) (l : List α) :
    (insertBy le a l).Perm (a :: l) := by
  induction l with
  | nil => exact .refl _
  | cons b rest ih =>
    simp only [insertBy]
    split
    · exact .refl _
    · exact (ih.cons b).trans (.swap a b rest)

/-- Sorting loses nothing and adds nothing. -/
theorem sortBy_perm (le : α → α → Bool) (l : List α) : (sortBy le l).Perm l := by
  induction l with
  | nil => exact .refl _
  | cons a rest ih => exact (insertBy_perm le a _).trans (ih.cons a)

theorem pairwise_insertBy {le : α → α → Bool} (trans : ∀ a b c, le a b → le b c → le a c)
    (total : ∀ a b, le a b || le b a) (a : α) {l : List α} (h : l.Pairwise (le · ·)) :
    (insertBy le a l).Pairwise (le · ·) := by
  induction l with
  | nil => simp [insertBy]
  | cons b rest ih =>
    obtain ⟨hhead, htail⟩ := List.pairwise_cons.1 h
    simp only [insertBy]
    split
    · rename_i hab
      refine List.pairwise_cons.2 ⟨fun c hc => ?_, h⟩
      rcases List.mem_cons.1 hc with rfl | hc
      · exact hab
      · exact trans a b c hab (hhead c hc)
    · rename_i hab
      have hba : le b a = true := by simpa [hab] using total a b
      refine List.pairwise_cons.2 ⟨fun c hc => ?_, ih htail⟩
      rcases List.mem_cons.1 ((insertBy_perm le a rest).mem_iff.1 hc) with rfl | hc
      · exact hba
      · exact hhead c hc

/-- A sorted list is in order. -/
theorem pairwise_sortBy {le : α → α → Bool} (trans : ∀ a b c, le a b → le b c → le a c)
    (total : ∀ a b, le a b || le b a) (l : List α) : (sortBy le l).Pairwise (le · ·) := by
  induction l with
  | nil => exact .nil
  | cons a rest ih => exact pairwise_insertBy trans total a ih

/-- An element passes in front of those of a class that it does not have to follow. -/
theorem filter_insertBy {le : α → α → Bool} {p : α → Bool} (hp : ∀ a b, p a → p b → le a b) (a : α)
    (l : List α) : (insertBy le a l).filter p = (a :: l).filter p := by
  induction l with
  | nil => rfl
  | cons b rest ih =>
    simp only [insertBy]
    split
    · rfl
    · rename_i hab
      have : ¬(p a = true ∧ p b = true) := fun h => hab (hp a b h.1 h.2)
      grind

/-- Elements that may stand either way keep their order. -/
theorem filter_sortBy {le : α → α → Bool} {p : α → Bool} (hp : ∀ a b, p a → p b → le a b)
    (l : List α) : (sortBy le l).filter p = l.filter p := by
  induction l with
  | nil => rfl
  | cons a rest ih =>
    rw [sortBy, filter_insertBy hp]
    simp [List.filter_cons, ih]

end ContentTypes
