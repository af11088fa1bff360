import Mathlib.Algebra.BigOperators.Group.Finset.Basic
import Mathlib.Algebra.Order.BigOperators.Group.List
import Mathlib.Algebra.Order.Group.Defs

/-!
# Taking the largest first

Items with weights are taken from a list that is ordered by weight, largest first. No selection of
as many items weighs more than the first ones, so the shortest prefix that reaches a target is a
selection with the fewest items.
-/

namespace Allocation

variable {α M : Type} [AddCommGroup M] [LinearOrder M] [IsOrderedAddMonoid M] {w : α → M} {l : List α}

def LargestFirst (w : α → M) (l : List α) : Prop := l.Pairwise (fun a b => w b ≤ w a)

lemma LargestFirst.sum_take_succ_le {a : α} (h : LargestFirst w (a :: l)) {k : ℕ} (hk : k < l.length) :
    ((l.take (k + 1)).map w).sum ≤ w a + ((l.take k).map w).sum := by
  have hle : w l[k] ≤ w a := (List.pairwise_cons.mp h).1 _ (List.getElem_mem hk)
  rw [List.take_succ_eq_append_getElem hk, List.map_append, List.sum_append, add_comm]
  simpa using hle

variable [DecidableEq α]

theorem LargestFirst.sum_le_sum_take (h : LargestFirst w l) {S : Finset α} (hS : ∀ a ∈ S, a ∈ l) :
    ∑ a ∈ S, w a ≤ ((l.take S.card).map w).sum := by
  induction l generalizing S with
  | nil =>
    have hempty : S = ∅ := Finset.eq_empty_of_forall_notMem fun a ha => by simpa using hS a ha
    simp [hempty]
  | cons a l ih =>
    have htail : LargestFirst w l := h.of_cons
    have hmem : ∀ b ∈ S.erase a, b ∈ l := fun b hb =>
      (List.mem_cons.mp (hS b (Finset.mem_of_mem_erase hb))).resolve_left (Finset.ne_of_mem_erase hb)
    have hle := ih htail hmem
    by_cases ha : a ∈ S
    · rw [← Finset.add_sum_erase S w ha, ← Finset.card_erase_add_one ha, List.take_succ_cons,
        List.map_cons, List.sum_cons]
      exact add_le_add_right hle (w a)
    -- without the first item, the last of the items counts less than it
    · rw [Finset.erase_eq_of_notMem ha] at hle hmem
      cases hcard : S.card with
      | zero => simp [Finset.card_eq_zero.mp hcard]
      | succ k =>
        have hlen : k < l.length := by
          have hsub : S.card ≤ l.toFinset.card :=
            Finset.card_le_card fun b hb => List.mem_toFinset.mpr (hmem b hb)
          have := l.toFinset_card_le
          omega
        rw [hcard] at hle
        rw [List.take_succ_cons, List.map_cons, List.sum_cons]
        exact hle.trans (h.sum_take_succ_le hlen)

/-- A prefix whose parts do not reach the target has no more items than any selection that does. -/
theorem LargestFirst.le_card (h : LargestFirst w l) {target : M} {k : ℕ}
    (hbefore : ∀ i < k, ((l.take i).map w).sum < target) {S : Finset α} (hS : ∀ a ∈ S, a ∈ l)
    (hreach : target ≤ ∑ a ∈ S, w a) : k ≤ S.card := by
  by_contra hlt
  have hless := hbefore S.card (not_le.mp hlt)
  exact absurd (hreach.trans (h.sum_le_sum_take hS)) (not_le.mpr hless)

end Allocation
