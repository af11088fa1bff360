import WalletManager.Storage.OutputTimes
import Mathlib.Data.List.TakeWhile

/-!
# Changing several UTXO rows at once

`LockUTXOs` looks at all listed rows before it changes the first one, so that it changes all of them
or none. `MarkUTXOsSpent` and `RestoreUTXOs` look each row up when they come to it: at an unknown
outpoint they return an error and keep what they have changed before.
-/

namespace WalletManager.Proofs

open StampedTable

section Loop

variable {V : Type} {t : Table String V} {ops : List String} {f : V → V}

/-- The call `r` has made the change `f` to all listed rows and to no other one, or it has failed
and the table is as it was. -/
def AllOrNothing (f : V → V) (ops : List String) (t : Table String V)
    (r : Except Error Unit × Table String V) : Prop :=
  (r.1 = .ok () ∧ (∀ op ∈ ops, op ∈ t) ∧
    ∀ op, r.2.lookup op = if op ∈ ops then (t.lookup op).map f else t.lookup op) ∨
  (r.1 ≠ .ok () ∧ ∀ op, r.2.lookup op = t.lookup op)

def reached (ops : List String) (t : Table String V) : List String :=
  ops.takeWhile (· ∈ t)

lemma reached_eq (h : ∀ op ∈ ops, op ∈ t) : reached ops t = ops := by
  apply List.takeWhile_eq_self_iff.mpr
  intro op hop
  exact decide_eq_true (h op hop)

lemma reached_cons (f : V → V) {op : String} {u : V} (hu : t.lookup op = some u) :
    reached (op :: ops) t = op :: reached ops (t.insert op (f u)) := by
  have hop : op ∈ t := Table.mem_iff.mpr ⟨u, hu⟩
  have hmem : ∀ op', op' ∈ t.insert op (f u) ↔ op' ∈ t := by
    intro op'
    rw [AList.mem_insert]
    exact or_iff_right_of_imp fun h => h ▸ hop
  simp [reached, hop, hmem]

lemma updateRows_ok_iff : (updateRows f ops t).1 = .ok () ↔ ∀ op ∈ ops, op ∈ t := by
  induction ops generalizing t with
  | nil => simp [updateRows]
  | cons op ops ih =>
    unfold updateRows
    cases hu : t.lookup op with
    | none =>
      have hop : op ∉ t := AList.lookup_eq_none.mp hu
      simp [hop]
    | some u =>
      have hop : op ∈ t := Table.mem_iff.mpr ⟨u, hu⟩
      simp only [ih, AList.mem_insert, List.forall_mem_cons, hop, true_and]
      exact forall₂_congr fun op' _ => or_iff_right_of_imp fun h => h ▸ hop

lemma lookup_updateRows (hf : ∀ u, f (f u) = f u) (op : String) :
    (updateRows f ops t).2.lookup op =
      if op ∈ reached ops t then (t.lookup op).map f else t.lookup op := by
  induction ops generalizing t with
  | nil => simp [updateRows, reached]
  | cons op' ops ih =>
    unfold updateRows
    cases hu : t.lookup op' with
    | none =>
      have hop : op' ∉ t := AList.lookup_eq_none.mp hu
      simp [reached, hop]
    | some u =>
      rw [ih, reached_cons f hu]
      by_cases hop : op = op'
      · subst hop
        simp [hu, hf]
      · simp [hop, AList.lookup_insert_ne hop]

lemma updateRows_allOrNothing_iff (hf : ∀ u, f (f u) = f u) :
    AllOrNothing f ops t (updateRows f ops t) ↔
      (∀ op ∈ ops, op ∈ t) ∨ ∀ op ∈ reached ops t, ∀ u ∈ t.lookup op, f u = u := by
  unfold AllOrNothing
  rw [ne_eq, updateRows_ok_iff]
  by_cases h : ∀ op ∈ ops, op ∈ t
  · have hlookup : ∀ op, (updateRows f ops t).2.lookup op =
        if op ∈ ops then (t.lookup op).map f else t.lookup op := by
      intro op
      rw [lookup_updateRows hf, reached_eq h]
    exact iff_of_true (.inl ⟨h, h, hlookup⟩) (.inl h)
  · simp only [h, false_and, not_false_eq_true, true_and, false_or]
    refine forall_congr' fun op => ?_
    rw [lookup_updateRows hf]
    by_cases hop : op ∈ reached ops t
    · rw [if_pos hop, forall_prop_of_true hop]
      cases t.lookup op <;> simp
    · simp [hop]

end Loop

section Calls

variable {now : Int} {txHash : String} {t : Table String StampedUTXO} {ops : List String}

lemma checkFree_ok_mem (h : checkFree t ops = .ok ()) : ∀ op ∈ ops, op ∈ t := by
  induction ops with
  | nil => simp
  | cons op ops ih =>
    unfold checkFree at h
    cases hu : t.lookup op with
    | none => simp [hu] at h
    | some u =>
      have hop : op ∈ t := Table.mem_iff.mpr ⟨u, hu⟩
      rw [hu] at h
      dsimp only at h
      split at h
      · exact List.forall_mem_cons.mpr ⟨hop, ih h⟩
      · cases h

lemma lock_allOrNothing : AllOrNothing (StampedUTXO.lock now) ops t (lockUTXOs now ops t) := by
  unfold lockUTXOs
  cases h : checkFree t ops with
  | error err => exact .inr ⟨by simp, fun op => rfl⟩
  | ok r =>
    have hknown := checkFree_ok_mem h
    refine .inl ⟨rfl, hknown, fun op => ?_⟩
    change (updateRows _ ops t).2.lookup op = _
    rw [lookup_updateRows (f := StampedUTXO.lock now) (fun u => rfl), reached_eq hknown]

def MarkedAt (now : Int) (txHash : String) (u : StampedUTXO) : Prop :=
  u.lockState = .spent ∧ u.spentAt = some now ∧ u.txHash = txHash ∧ u.updatedAt = now

def FreedAt (now : Int) (u : StampedUTXO) : Prop :=
  u.lockState = .free ∧ u.spentAt = none ∧ u.lockedAt = none ∧ u.txHash = "" ∧ u.updatedAt = now

lemma markSpent_eq_self_iff {u : StampedUTXO} :
    u.markSpent now txHash = u ↔ MarkedAt now txHash u := by
  obtain ⟨⟨outpoint, walletID, value, lockState, hash, script, conf⟩, lockedAt, spentAt, updatedAt⟩ := u
  simp only [StampedUTXO.markSpent, MarkedAt, StampedUTXO.mk.injEq, UTXO.mk.injEq, true_and, and_true]
  tauto

lemma restore_eq_self_iff {u : StampedUTXO} : u.restore now = u ↔ FreedAt now u := by
  obtain ⟨⟨outpoint, walletID, value, lockState, hash, script, conf⟩, lockedAt, spentAt, updatedAt⟩ := u
  simp only [StampedUTXO.restore, FreedAt, StampedUTXO.mk.injEq, UTXO.mk.injEq, true_and, and_true]
  tauto

lemma mark_allOrNothing_iff :
    AllOrNothing (StampedUTXO.markSpent now txHash) ops t (markUTXOsSpent now ops txHash t) ↔
      (∀ op ∈ ops, op ∈ t) ∨ ∀ op ∈ reached ops t, ∀ u ∈ t.lookup op, MarkedAt now txHash u := by
  simp only [← markSpent_eq_self_iff]
  exact updateRows_allOrNothing_iff (f := StampedUTXO.markSpent now txHash) fun u => rfl

lemma restore_allOrNothing_iff :
    AllOrNothing (StampedUTXO.restore now) ops t (restoreUTXOs now ops t) ↔
      (∀ op ∈ ops, op ∈ t) ∨ ∀ op ∈ reached ops t, ∀ u ∈ t.lookup op, FreedAt now u := by
  simp only [← restore_eq_self_iff]
  exact updateRows_allOrNothing_iff (f := StampedUTXO.restore now) fun u => rfl

/-- For every table and every list of outpoints, locking is all or nothing. The two other calls are
exactly when every listed outpoint is known, or when the rows before the first unknown one already
are what the call would make of them. -/
theorem outputs_all_or_nothing_iff (now : Int) (txHash : String) (ops : List String)
    (t : Table String StampedUTXO) :
    AllOrNothing (StampedUTXO.lock now) ops t (lockUTXOs now ops t) ∧
    (AllOrNothing (StampedUTXO.markSpent now txHash) ops t (markUTXOsSpent now ops txHash t) ↔
      (∀ op ∈ ops, op ∈ t) ∨ ∀ op ∈ reached ops t, ∀ u ∈ t.lookup op, MarkedAt now txHash u) ∧
    (AllOrNothing (StampedUTXO.restore now) ops t (restoreUTXOs now ops t) ↔
      (∀ op ∈ ops, op ∈ t) ∨ ∀ op ∈ reached ops t, ∀ u ∈ t.lookup op, FreedAt now u) := by
  exact ⟨lock_allOrNothing, mark_allOrNothing_iff, restore_allOrNothing_iff⟩

end Calls

def lockedRow : StampedUTXO :=
  { outpoint := "a:0", walletID := .nil, value := "1", lockState := .locked, lockedAt := some 1,
    updatedAt := 1 }

def lockedTable : Table String StampedUTXO := (∅ : Table String StampedUTXO).insert "a:0" lockedRow

/-- Both calls fail at the unknown outpoint, and the row before it is spent or free. -/
theorem updates_kept_on_error :
    (markUTXOsSpent 2 ["a:0", "b:0"] "h" lockedTable).1 = .error ⟨"utxo not found: b:0", none⟩ ∧
    (markUTXOsSpent 2 ["a:0", "b:0"] "h" lockedTable).2.lookup "a:0" =
      some (lockedRow.markSpent 2 "h") ∧
    (restoreUTXOs 2 ["a:0", "b:0"] lockedTable).1 = .error ⟨"utxo not found: b:0", none⟩ ∧
    (restoreUTXOs 2 ["a:0", "b:0"] lockedTable).2.lookup "a:0" = some (lockedRow.restore 2) ∧
    ¬AllOrNothing (StampedUTXO.markSpent 2 "h") ["a:0", "b:0"] lockedTable
      (markUTXOsSpent 2 ["a:0", "b:0"] "h" lockedTable) ∧
    ¬AllOrNothing (StampedUTXO.restore 2) ["a:0", "b:0"] lockedTable
      (restoreUTXOs 2 ["a:0", "b:0"] lockedTable) := by
  have hunknown : ¬∀ op ∈ ["a:0", "b:0"], op ∈ lockedTable := by decide
  have hreached : "a:0" ∈ reached ["a:0", "b:0"] lockedTable := by decide
  have hrow : lockedTable.lookup "a:0" = some lockedRow := AList.lookup_insert _
  refine ⟨by rfl, by rfl, by rfl, by rfl, fun h => ?_, fun h => ?_⟩
  · have hdone := (mark_allOrNothing_iff.mp h).resolve_left hunknown _ hreached _ hrow
    exact absurd hdone.1 (by decide)
  · have hdone := (restore_allOrNothing_iff.mp h).resolve_left hunknown _ hreached _ hrow
    exact absurd hdone.1 (by decide)

end WalletManager.Proofs
