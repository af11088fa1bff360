import WalletManager.Storage.Memstore

/-!
# The times of the UTXO rows

Every change of a UTXO row also stamps it: `LockedAt`, `SpentAt` and `UpdatedAt`. No service reads
these back and `Store` leaves them out, but whether a failed call has changed the table depends on
them. Here are the rows with their times, the three operations that change them in place, and that
without the times they are the operations of `Store`. The clock is read once per call, as `now`.
-/

namespace WalletManager

structure StampedUTXO extends UTXO where
  lockedAt : Option Int := none
  spentAt : Option Int := none
  updatedAt : Int
  deriving DecidableEq

namespace StampedUTXO

def lock (now : Int) (u : StampedUTXO) : StampedUTXO :=
  { u with lockState := .locked, lockedAt := some now, updatedAt := now }

def markSpent (now : Int) (txHash : String) (u : StampedUTXO) : StampedUTXO :=
  { u with lockState := .spent, spentAt := some now, txHash := txHash, updatedAt := now }

def restore (now : Int) (u : StampedUTXO) : StampedUTXO :=
  { u with lockState := .free, spentAt := none, lockedAt := none, txHash := "", updatedAt := now }

end StampedUTXO

namespace StampedTable

def checkFree (t : Table String StampedUTXO) : List String → Except Error Unit
  | [] => .ok ()
  | op :: ops =>
    match t.lookup op with
    | none => .error ⟨"utxo not found: " ++ op, none⟩
    | some u =>
      if u.lockState = .free then checkFree t ops
      else .error ⟨"utxo not free: " ++ op ++ " state=" ++ u.lockState.string, none⟩

/-- The loop that changes the listed rows, for rows with and without times. -/
def updateRows {V : Type} (f : V → V) :
    List String → Table String V → Except Error Unit × Table String V
  | [], t => (.ok (), t)
  | op :: ops, t =>
    match t.lookup op with
    | none => (.error ⟨"utxo not found: " ++ op, none⟩, t)
    | some u => updateRows f ops (t.insert op (f u))

variable (now : Int) (ops : List String) (txHash : String) (t : Table String StampedUTXO)

def lockUTXOs : Except Error Unit × Table String StampedUTXO :=
  match checkFree t ops with
  | .error err => (.error err, t)
  | .ok () => (.ok (), (updateRows (StampedUTXO.lock now) ops t).2)

def markUTXOsSpent : Except Error Unit × Table String StampedUTXO :=
  updateRows (StampedUTXO.markSpent now txHash) ops t

def restoreUTXOs : Except Error Unit × Table String StampedUTXO :=
  updateRows (StampedUTXO.restore now) ops t

def Stamps (t : Table String StampedUTXO) (utxos : Table String UTXO) : Prop :=
  ∀ op, utxos.lookup op = (t.lookup op).map StampedUTXO.toUTXO

variable {now ops txHash t} {utxos : Table String UTXO} {f : StampedUTXO → StampedUTXO}
  {g : UTXO → UTXO}

lemma Stamps.insert (h : Stamps t utxos) (hfg : ∀ u, (f u).toUTXO = g u.toUTXO) (op : String)
    (u : StampedUTXO) : Stamps (t.insert op (f u)) (utxos.insert op (g u.toUTXO)) := by
  intro op'
  by_cases hop : op' = op
  · rw [hop, AList.lookup_insert, AList.lookup_insert, Option.map_some, hfg]
  · rw [AList.lookup_insert_ne hop, AList.lookup_insert_ne hop, h]

lemma checkFree_stamps (h : Stamps t utxos) : Store.checkFree utxos ops = checkFree t ops := by
  induction ops with
  | nil => rfl
  | cons op ops ih =>
    unfold Store.checkFree checkFree
    rw [h op, ih]
    cases t.lookup op <;> rfl

lemma updateEach_eq_updateRows : Store.updateEach g ops utxos = updateRows g ops utxos := by
  induction ops generalizing utxos with
  | nil => rfl
  | cons op ops ih =>
    unfold Store.updateEach updateRows
    cases utxos.lookup op with
    | none => rfl
    | some u => exact ih

lemma updateRows_stamps (h : Stamps t utxos) (hfg : ∀ u, (f u).toUTXO = g u.toUTXO) :
    (updateRows g ops utxos).1 = (updateRows f ops t).1 ∧
      Stamps (updateRows f ops t).2 (updateRows g ops utxos).2 := by
  induction ops generalizing t utxos with
  | nil => exact ⟨rfl, h⟩
  | cons op ops ih =>
    unfold updateRows
    rw [h op]
    cases t.lookup op with
    | none => exact ⟨rfl, h⟩
    | some u => exact ih (h.insert hfg op u)

variable {s : Store}

theorem stamped_operations (h : Stamps t s.utxos) :
    ((s.lockUTXOs ops).1 = (lockUTXOs now ops t).1 ∧
      Stamps (lockUTXOs now ops t).2 (s.lockUTXOs ops).2.utxos) ∧
    ((s.markUTXOsSpent ops txHash).1 = (markUTXOsSpent now ops txHash t).1 ∧
      Stamps (markUTXOsSpent now ops txHash t).2 (s.markUTXOsSpent ops txHash).2.utxos) ∧
    ((s.restoreUTXOs ops).1 = (restoreUTXOs now ops t).1 ∧
      Stamps (restoreUTXOs now ops t).2 (s.restoreUTXOs ops).2.utxos) := by
  unfold Store.lockUTXOs Store.markUTXOsSpent Store.restoreUTXOs lockUTXOs
  rw [checkFree_stamps h]
  simp only [updateEach_eq_updateRows]
  refine ⟨?_, updateRows_stamps h fun _ => rfl, updateRows_stamps h fun _ => rfl⟩
  cases checkFree t ops with
  | error err => exact ⟨rfl, h⟩
  | ok r => exact ⟨rfl, (updateRows_stamps h fun _ => rfl).2⟩

end StampedTable

end WalletManager
