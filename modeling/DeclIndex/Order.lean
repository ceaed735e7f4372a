/-!
# Sorting

A stable insertion sort by an arbitrary comparison: elements that the comparison does not put in
order keep the order they have. And lists without repetitions.

## Main definitions

* `sortBy` — the sorted list.
* `distinct` — the list without repetitions.

## Main results

* `sortBy_perm` — sorting loses and adds nothing.
* `mem_distinct`, `nodup_distinct` — each element once.
-/

namespace DeclIndex

/-- Puts an element in front of the first that does not come before it. -/
def insertBy {α : Type} (before : α → α → Bool) (a : α) : List α → List α
  | [] => [a]
  | b :: rest => if before b a then b :: insertBy before a rest else a :: b :: rest

/-- The list in the order of `before`; elements of equal rank keep their order. -/
def sortBy {α : Type} (before : α → α → Bool) : List α → List α
  | [] => []
  | a :: rest => insertBy before a (sortBy before rest)

theorem insertBy_perm {α : Type} (before : α → α → Bool) (a : α) (l : List α) :
    (insertBy before a l).Perm (a :: l) := by
  induction l with
  | nil => exact List.Perm.refl _
  | cons b rest ih =>
    unfold insertBy
    split
    · exact (ih.cons b).trans (List.Perm.swap a b rest)
    · exact List.Perm.refl _

theorem sortBy_perm {α : Type} (before : α → α → Bool) (l : List α) :
    (sortBy before l).Perm l := by
  induction l with
  | nil => exact List.Perm.refl _
  | cons a rest ih => exact (insertBy_perm before a _).trans (ih.cons a)

theorem mem_sortBy {α : Type} (before : α → α → Bool) (a : α) (l : List α) :
    a ∈ sortBy before l ↔ a ∈ l :=
  (sortBy_perm before l).mem_iff

/-- The list without repetitions; of equal elements the first is kept. -/
def distinct {α : Type} [DecidableEq α] : List α → List α
  | [] => []
  | a :: rest => a :: (distinct rest).filter fun b => b ≠ a

theorem mem_distinct {α : Type} [DecidableEq α] (a : α) (l : List α) :
    a ∈ distinct l ↔ a ∈ l := by
  induction l with
  | nil => simp [distinct]
  | cons b rest ih => by_cases h : a = b <;> simp [distinct, h, ih]

theorem nodup_distinct {α : Type} [DecidableEq α] (l : List α) : (distinct l).Nodup := by
  induction l with
  | nil => simp [distinct]
  | cons b rest ih =>
    refine List.nodup_cons.mpr ⟨by simp, ?_⟩
    exact List.Pairwise.filter _ ih

end DeclIndex
