import Mathlib.Data.Set.Disjoint
import Mathlib.Data.Set.Lattice
import Mathlib.Order.CompletePartialOrder
import Mathlib.Tactic.Common

/-!
# Exclusive reservations

Owners hold resources and the rest of the resources may be free. `Exclusive` says that no
resource has two owners and that no held resource is free. Reservation schemes differ in
how a resource is marked free, so the rules below speak only about the two views of a
state: what each owner holds, and what is free.
-/

namespace Reservation

variable {ι ρ : Type*}

/-- No resource is held twice, and no held resource is free. -/
structure Exclusive (held : ι → Set ρ) (free : Set ρ) : Prop where
  disjoint : ∀ i j, i ≠ j → Disjoint (held i) (held j)
  notFree : ∀ i, Disjoint (held i) free

variable {held held' : ι → Set ρ} {free free' : Set ρ}

/-- One owner trades with the free resources: it may take free ones and give back its own,
while every other owner keeps at most what it had. -/
theorem Exclusive.trade (h : Exclusive held free) (i : ι)
    (hothers : ∀ j, j ≠ i → held' j ⊆ held j) (htake : held' i ⊆ held i ∪ free)
    (hgive : free' ⊆ free ∪ held i) (hi : Disjoint (held' i) free') : Exclusive held' free' := by
  have hpool : ∀ j, j ≠ i → Disjoint (held' j) (held i ∪ free) := by
    intro j hj
    apply Set.disjoint_union_right.mpr
    exact ⟨(h.disjoint j i hj).mono_left (hothers j hj), (h.notFree j).mono_left (hothers j hj)⟩
  constructor
  · intro j k hjk
    by_cases hj : j = i
    · subst hj
      exact ((hpool k hjk.symm).mono_right htake).symm
    · by_cases hk : k = i
      · subst hk
        exact (hpool j hj).mono_right htake
      · exact (h.disjoint j k hjk).mono (hothers j hj) (hothers k hk)
  · intro j
    by_cases hj : j = i
    · subst hj
      exact hi
    · exact (hpool j hj).mono_right (hgive.trans (Set.union_comm _ _).subset)

/-- Resources that nobody holds may become free. -/
theorem Exclusive.give (h : Exclusive held free) {given : Set ρ}
    (hheld : ∀ j, held' j ⊆ held j) (hfree : free' ⊆ free ∪ given)
    (hgiven : ∀ j, Disjoint (held' j) given) : Exclusive held' free' where
  disjoint i j hij := (h.disjoint i j hij).mono (hheld i) (hheld j)
  notFree j := (Set.disjoint_union_right.mpr
    ⟨(h.notFree j).mono_left (hheld j), hgiven j⟩).mono_right hfree

end Reservation
