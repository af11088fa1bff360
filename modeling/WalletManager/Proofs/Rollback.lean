import WalletManager.Proofs.Reference
import WalletManager.Storage.Transactions

/-!
# Failed transactions

A failed function leaves no trace in the memory store, however its transactions are nested, since only
the outermost one takes a snapshot and restores it. In the Postgres store the further transactions that
it has committed in between stay, and nothing else does.
-/

namespace WalletManager.Proofs

section Memory

variable {lib : Lib} {s s' : Store}

structure SameTx (s s' : Store) : Prop where
  depth : s'.depth = s.depth
  snapshot : s'.snapshot = s.snapshot

lemma SameTx.refl : SameTx s s := ⟨rfl, rfl⟩

lemma SameTx.trans {s'' : Store} (h : SameTx s s') (h' : SameTx s' s'') : SameTx s s'' :=
  ⟨h'.depth.trans h.depth, h'.snapshot.trans h.snapshot⟩

lemma handle_sameTx {c : StoreCall} (hc : c.isOperation = true) : SameTx s (s.handle lib c).2 := by
  cases c with
  | beginTx | commitTx | rollbackTx => cases hc
  | _ =>
    first
    | exact .refl
    | exact ⟨rfl, rfl⟩
    | (simp only [Store.handle, Store.createWallet, Store.updateWalletState, Store.insertAddress,
        Store.deprecateAddress, Store.incrementReceiveCount, Store.updateAddress, Store.recordBalanceEvent,
        Store.insertUTXO, Store.lockUTXOs, Store.rollbackPendingNonce, Store.createWithdrawal,
        Store.updateWithdrawalState, Store.updateWithdrawalNonce, Store.updateWithdrawalOutpoints,
        Store.updateWithdrawalSignedTx, Store.updateWithdrawal, Store.bindKeyMapping,
        Store.createFundingRequest, Store.updateFundingState, Store.appendAuditEvent,
        Store.markAuditDelivered]
       repeat' split
       all_goals exact ⟨rfl, rfl⟩)

lemma beginTx_nested (hs : 0 < s.depth) : s.beginTx.2 = { s with depth := s.depth + 1 } := by
  unfold Store.beginTx
  rw [if_neg (by omega)]

lemma rollbackTx_nested (hs : 1 < s.depth) : s.rollbackTx.2 = { s with depth := s.depth - 1 } := by
  unfold Store.rollbackTx
  rw [if_neg (by omega)]

lemma runMem_sameTx (fn : TxBody) (hs : 0 < s.depth) : SameTx s (fn.runMem lib s).2 := by
  induction fn generalizing s with
  | done r => exact .refl
  | op rq k ih =>
    have hop : SameTx s (s.handle lib rq.call).2 := handle_sameTx rq.operation
    exact hop.trans (ih _ (by rw [hop.depth]; exact hs))
  | inTx body k ihbody ihk =>
    unfold TxBody.runMem
    have hbody : SameTx { s with depth := s.depth + 1 } (body.runMem lib s.beginTx.2).2 := by
      rw [beginTx_nested hs]
      exact ihbody (Nat.succ_pos _)
    generalize body.runMem lib s.beginTx.2 = result at hbody ⊢
    obtain ⟨r, s₁⟩ := result
    have hdepth : s₁.depth = s.depth + 1 := hbody.depth
    cases r with
    | error err =>
      have hclosed : SameTx s s₁.rollbackTx.2 := by
        rw [rollbackTx_nested (by omega)]
        exact ⟨by rw [hdepth]; rfl, hbody.snapshot⟩
      exact hclosed.trans (ihk _ (by rw [hclosed.depth]; exact hs))
    | ok a =>
      have hclosed : SameTx s s₁.commitTx.2 := ⟨by simp only [Store.commitTx, hdepth]; rfl, hbody.snapshot⟩
      exact hclosed.trans (ihk _ (by rw [hclosed.depth]; exact hs))

lemma mem_inTx_failed {fn : TxBody} {err : Error} (hs : s.depth = 0)
    (hfail : (fn.runMem lib s.beginTx.2).1 = .error err) :
    (s.inTx lib fn).1 = .error err ∧ (s.inTx lib fn).2.toTables = s.toTables ∧
      (s.inTx lib fn).2.depth = 0 := by
  have hopened : s.beginTx.2 = { s with depth := 1, snapshot := s.toTables } := by
    unfold Store.beginTx
    rw [if_pos hs]
  have hsame : SameTx s.beginTx.2 (fn.runMem lib s.beginTx.2).2 :=
    runMem_sameTx fn (by rw [hopened]; exact Nat.one_pos)
  unfold Store.inTx TxBody.runMem
  generalize fn.runMem lib s.beginTx.2 = result at hfail hsame ⊢
  obtain ⟨r, s₁⟩ := result
  obtain rfl : r = .error err := hfail
  rw [hopened] at hsame
  have hclosed : s₁.rollbackTx.2 = { s₁ with toTables := s₁.snapshot, depth := 0 } := by
    unfold Store.rollbackTx
    rw [if_pos (le_of_eq hsame.depth)]
  dsimp only [TxBody.runMem]
  rw [hclosed]
  exact ⟨rfl, hsame.snapshot, rfl⟩

end Memory

section Postgres

variable {db : Database} {merge : PgStore → PgStore → PgStore → Except Error PgStore} {s : PgStore} {tx : PgTx}

/-- The committed state after each further transaction that the function has committed as it runs, be it
one of its own or one of an operation. -/
def innerCommits (db : Database) (merge : PgStore → PgStore → PgStore → Except Error PgStore) :
    TxBody → PgStore → PgTx → List PgStore
  | .done _, _, _ => []
  | .op rq k, s, tx =>
    let (r, s₁, tx₁) := s.handleIn db tx rq
    (if rq.call.opensTx then [s₁] else []) ++ innerCommits db merge (k r) s₁ tx₁
  | .inTx body k, s, tx =>
    let (r, s₁, tx₁) := body.runPg db merge s {}
    innerCommits db merge body s {} ++
      match r with
      | .error err => innerCommits db merge (k (.error err)) s₁ tx
      | .ok () =>
        match s₁.commit merge tx₁ with
        | .error err => innerCommits db merge (k (.error err)) s₁ tx
        | .ok s₂ => s₂ :: innerCommits db merge (k (.ok ())) s₂ tx

lemma handleIn_committed {rq : WalletManager.Request} (h : rq.call.opensTx = false) :
    (s.handleIn db tx rq).2.1 = s := by
  unfold PgStore.handleIn
  rw [h]
  simp only [Bool.false_eq_true, if_false]
  split <;> rfl

lemma getLastD_append {α : Type} (xs ys : List α) (a : α) :
    (xs ++ ys).getLastD a = ys.getLastD (xs.getLastD a) := by
  simp only [List.getLastD_eq_getLast?, List.getLast?_append]
  cases ys.getLast? <;> rfl

lemma runPg_committed (fn : TxBody) (s : PgStore) (tx : PgTx) :
    (fn.runPg db merge s tx).2.1 = (innerCommits db merge fn s tx).getLastD s := by
  induction fn generalizing s tx with
  | done r => rfl
  | op rq k ih =>
    unfold TxBody.runPg innerCommits
    rw [getLastD_append, ih]
    congr 1
    cases hopens : rq.call.opensTx with
    | true => rfl
    | false => exact handleIn_committed hopens
  | inTx body k ihbody ihk =>
    unfold TxBody.runPg innerCommits
    rw [getLastD_append, ← ihbody]
    generalize body.runPg db merge s {} = result
    obtain ⟨r, s₁, tx₁⟩ := result
    cases r with
    | error err => exact ihk _ _ _
    | ok a =>
      dsimp only
      cases s₁.commit merge tx₁ with
      | error err => exact ihk _ _ _
      | ok s₂ => exact (ihk _ _ _).trans (List.getLastD_cons ..).symm

lemma pg_inTx_failed {fn : TxBody} {err : Error} (hfail : (fn.runPg db merge s {}).1 = .error err) :
    s.inTx db merge fn = (.error err, (innerCommits db merge fn s {}).getLastD s) := by
  have hcommitted : (fn.runPg db merge s {}).2.1 = _ := runPg_committed fn s {}
  unfold PgStore.inTx TxBody.runPg
  generalize fn.runPg db merge s {} = result at hfail hcommitted ⊢
  obtain ⟨r, s₁, tx₁⟩ := result
  obtain rfl : r = .error err := hfail
  exact congrArg (Prod.mk _) hcommitted

end Postgres

/-- When the function passed to the outermost `InTx` fails, the memory store is as before, for every
nesting. The Postgres store is as before exactly if the further transactions that the function has
committed leave no change. -/
theorem failed_transaction_changes_nothing (fn : TxBody) (err : Error) :
    (∀ (lib : Lib) (s : Store), s.depth = 0 → (fn.runMem lib s.beginTx.2).1 = .error err →
      (s.inTx lib fn).1 = .error err ∧ (s.inTx lib fn).2.toTables = s.toTables ∧
        (s.inTx lib fn).2.depth = 0) ∧
    ∀ (db : Database) (merge : PgStore → PgStore → PgStore → Except Error PgStore) (s : PgStore),
      (fn.runPg db merge s {}).1 = .error err →
        (s.inTx db merge fn).1 = .error err ∧
        ((s.inTx db merge fn).2 = s ↔ (innerCommits db merge fn s {}).getLastD s = s) := by
  refine ⟨fun lib s hs hfail => mem_inTx_failed hs hfail, fun db merge s hfail => ?_⟩
  rw [pg_inTx_failed hfail]
  exact ⟨rfl, Iff.rfl⟩

def btcRow : UTXO := btcOutput outpointA "1"

def outputStore : PgStore := ((PgStore.createWallet {} btcWallet).2.insertUTXO referenceNumeric btcRow).2

def canceled : Error := ⟨"canceled", none⟩

def spendAndFail : TxBody :=
  .inTx (.op ⟨.listFreeUTXOs btcWallet.id, rfl, UUID.nil⟩ fun _ => .done (.ok ())) fun _ =>
    .op ⟨.markUTXOsSpent [outpointA] "tx", rfl, UUID.nil⟩ fun _ =>
      .op ⟨.upsertNonce ⟨btcWallet.id, "bitcoin", 4, 2, 1⟩, rfl, UUID.nil⟩ fun _ => .done (.error canceled)

def lastWriter (_ current _ : PgStore) : Except Error PgStore := .ok current

def memOutputs : Store := (Store.insertUTXO {} btcRow).2

theorem failed_transaction_changes_nothing_spend :
    (memOutputs.inTx referenceLib spendAndFail).2.utxos.lookup outpointA = some btcRow ∧
      (innerCommits referenceDatabase lastWriter spendAndFail outputStore {}).length = 1 ∧
      outputStore.inTx referenceDatabase lastWriter spendAndFail = (.error canceled, outputStore) := by
  have hall := failed_transaction_changes_nothing spendAndFail canceled
  refine ⟨?_, rfl, ?_⟩
  · have hmem := hall.1 referenceLib memOutputs rfl rfl
    rw [congrArg Tables.utxos hmem.2.1]
    decide +kernel
  · have hpg := hall.2 referenceDatabase lastWriter outputStore rfl
    exact Prod.ext hpg.1 (hpg.2.mpr rfl)

def lockAndFail : TxBody :=
  .op ⟨.lockUTXOs [outpointA], rfl, UUID.nil⟩ fun _ => .done (.error canceled)

def nestedSpend : TxBody :=
  .inTx (.op ⟨.markUTXOsSpent [outpointA] "tx", rfl, UUID.nil⟩ fun _ => .done (.ok ()))
    fun _ => .done (.error canceled)

def lockStates (s : PgStore) : List UTXOLockState := s.utxos.rows.map (fun row => row.utxo.lockState)

/-- In the Postgres store the lock and the nested transaction stay, although the outermost function has
failed. -/
theorem inner_transaction_survives :
    lockStates outputStore = [.free] ∧
    (outputStore.inTx referenceDatabase lastWriter lockAndFail).1 = .error canceled ∧
    lockStates (outputStore.inTx referenceDatabase lastWriter lockAndFail).2 = [.locked] ∧
    (outputStore.inTx referenceDatabase lastWriter nestedSpend).1 = .error canceled ∧
    lockStates (outputStore.inTx referenceDatabase lastWriter nestedSpend).2 = [.spent] := by
  decide +kernel

end WalletManager.Proofs
