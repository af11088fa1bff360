import Mathlib.Algebra.BigOperators.Group.List.Basic
import Mathlib.Data.List.Induction

/-!
# Two-bucket accounts

An account splits its total into a confirmed and a pending part. Value enters either part,
and a demotion moves everything confirmed back to pending. `replay` is the account after a
history of such changes.
-/

namespace Ledger

variable {M : Type*}

@[ext] structure Buckets (M : Type*) where
  confirmed : M
  pending : M

inductive Change (M : Type*)
  | confirm (x : M)
  | await (x : M)
  | demote

section Replay

variable [AddCommMonoid M]

def Buckets.apply (b : Buckets M) : Change M → Buckets M
  | .confirm x => ⟨b.confirmed + x, b.pending⟩
  | .await x => ⟨b.confirmed, b.pending + x⟩
  | .demote => ⟨0, b.pending + b.confirmed⟩

def replay (l : List (Change M)) : Buckets M := l.foldl Buckets.apply ⟨0, 0⟩

def Change.amount : Change M → M
  | confirm x | await x => x
  | demote => 0

def Change.confirmedAmount : Change M → M
  | confirm x => x
  | await _ | demote => 0

lemma replay_append_singleton (l : List (Change M)) (c : Change M) :
    replay (l ++ [c]) = (replay l).apply c := by
  unfold replay
  rw [List.foldl_append]
  rfl

lemma Buckets.apply_total (b : Buckets M) (c : Change M) :
    (b.apply c).confirmed + (b.apply c).pending = b.confirmed + b.pending + c.amount := by
  cases c with
  | confirm x => exact add_right_comm _ _ _
  | await x => exact (add_assoc _ _ _).symm
  | demote =>
    change 0 + (b.pending + b.confirmed) = b.confirmed + b.pending + 0
    rw [zero_add, add_zero, add_comm]

theorem replay_total (l : List (Change M)) :
    (replay l).confirmed + (replay l).pending = (l.map Change.amount).sum := by
  induction l using List.reverseRecOn with
  | nil => exact add_zero 0
  | append_singleton l c ih =>
    rw [replay_append_singleton, Buckets.apply_total, ih, List.map_append, List.sum_append]
    simp

lemma foldl_apply_confirmed {l : List (Change M)} (hl : ∀ c ∈ l, c ≠ .demote) (b : Buckets M) :
    (l.foldl Buckets.apply b).confirmed = b.confirmed + (l.map Change.confirmedAmount).sum := by
  induction l generalizing b with
  | nil => simp
  | cons c l ih =>
    rw [List.foldl_cons, ih (fun c' hc' => hl c' (List.mem_cons_of_mem _ hc'))]
    cases c with
    | confirm x => simp [Buckets.apply, Change.confirmedAmount, add_assoc]
    | await x => simp [Buckets.apply, Change.confirmedAmount]
    | demote => exact absurd rfl (hl .demote (by simp))

/-- After a demotion, the confirmed part is what has been confirmed since, whatever the
history before it was. -/
theorem replay_confirmed_after_demote (before : List (Change M)) {after : List (Change M)}
    (hafter : ∀ c ∈ after, c ≠ .demote) :
    (replay (before ++ .demote :: after)).confirmed = (after.map Change.confirmedAmount).sum := by
  unfold replay
  rw [List.foldl_append, List.foldl_cons, foldl_apply_confirmed hafter]
  exact zero_add _

lemma Buckets.apply_comm (b : Buckets M) {c d : Change M} (hc : c ≠ .demote) (hd : d ≠ .demote) :
    (b.apply c).apply d = (b.apply d).apply c := by
  cases c with
  | demote => exact absurd rfl hc
  | confirm x =>
    cases d with
    | demote => exact absurd rfl hd
    | confirm y => simp [Buckets.apply, add_right_comm]
    | await y => rfl
  | await x =>
    cases d with
    | demote => exact absurd rfl hd
    | confirm y => rfl
    | await y => simp [Buckets.apply, add_right_comm]

theorem replay_perm {l l' : List (Change M)} (hl : ∀ c ∈ l, c ≠ .demote) (h : l.Perm l') :
    replay l = replay l' :=
  h.foldl_eq' (fun c hc d hd b => b.apply_comm (hl c hc) (hl d hd)) _

end Replay

end Ledger
