/-
  Xlxd.Go.Sort — Go's `sort.Sort`, by its contract. The library only swaps, so it returns
  a permutation of its input; when `Less` is a strict weak ordering, no element of its
  result is less than one before it. Which of those permutations it returns is the
  library's business (the sort is not stable) and is left open: a `Sorter` is any function
  with the contract, and `insertionSorter` is one.
-/

import Mathlib.Data.List.Sort

namespace Xlxd.Go

variable {α : Type}

structure Sorter (α : Type) where
  sort : (α → α → Bool) → List α → List α
  perm : ∀ less l, (sort less l).Perm l
  sorted : ∀ less l, IsStrictWeakOrder α (fun a b => less a b = true) →
    (sort less l).Pairwise fun a b => less b a = false

section StrictWeak

variable {less : α → α → Bool} (h : IsStrictWeakOrder α (fun a b => less a b = true))
include h

theorem not_less_total (a b : α) : less b a = false ∨ less a b = false := by
  by_contra hc
  simp only [not_or, Bool.not_eq_false] at hc
  exact h.irrefl a (h.trans a b a hc.2 hc.1)

/-- Negative transitivity: under a strict weak ordering, "not after" is transitive. -/
theorem not_less_trans {a b c : α} (hba : less b a = false) (hcb : less c b = false) :
    less c a = false := by
  by_contra hca
  simp only [Bool.not_eq_false] at hca
  cases hbc : less b c
  · cases hab : less a b
    · have := h.incomp_trans a b c (by simp [hab, hba]) (by simp [hbc, hcb])
      simp [hca] at this
    · exact absurd (h.trans c a b hca hab) (by simp [hcb])
  · exact absurd (h.trans b c a hbc hca) (by simp [hba])

/-- Under a strict weak ordering, "equal or strictly before" is antisymmetric. -/
theorem eq_or_less_antisymm (a b : α) (hab : a = b ∨ less a b = true) (hba : b = a ∨ less b a = true) :
    a = b := by
  rcases hab with rfl | hab
  · rfl
  · exact hba.elim Eq.symm fun hba => absurd (h.trans a b a hab hba) (h.irrefl a)

/-- Two sorts of permuted inputs, by any two sorters, are one list when `less` leaves no two
distinct elements incomparable: the sort is not stable, but nothing is left to its choice. -/
theorem Sorter.sort_eq_of_perm (s s' : Sorter α) {l l' : List α} (hp : l.Perm l')
    (hinc : ∀ a ∈ l, ∀ b ∈ l, less a b = false → less b a = false → a = b) :
    s.sort less l = s'.sort less l' := by
  haveI : IsAntisymm α fun a b => a = b ∨ less a b = true := ⟨eq_or_less_antisymm h⟩
  have hsorted : ∀ (t : Sorter α) (m : List α), m.Perm l →
      (t.sort less m).Sorted fun a b => a = b ∨ less a b = true := by
    intro t m hm
    have hsub := ((t.perm less m).trans hm).subset
    refine (t.sorted less m h).imp_of_mem fun {a b} ha hb hba => ?_
    cases hab : less a b
    · exact .inl (hinc a (hsub ha) b (hsub hb) hab hba)
    · exact .inr rfl
  exact List.eq_of_perm_of_sorted ((s.perm less l).trans (hp.trans (s'.perm less l').symm))
    (hsorted s l (List.Perm.refl l)) (hsorted s' l' hp.symm)

end StrictWeak

/-- Insertion sort by "not after": a `Sorter`, so the contract can be met. -/
def insertionSorter : Sorter α where
  sort less l := l.insertionSort fun a b => less b a = false
  perm less l := List.perm_insertionSort _ l
  sorted less l h := by
    haveI : IsTotal α fun a b => less b a = false := ⟨not_less_total h⟩
    haveI : IsTrans α fun a b => less b a = false := ⟨fun _ _ _ hab hbc => not_less_trans h hab hbc⟩
    exact List.sorted_insertionSort _ l

end Xlxd.Go
