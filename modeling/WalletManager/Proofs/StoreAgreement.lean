import WalletManager.Proofs.MatchedRequests

/-!
# The two stores give the same answers

Both stores start empty and get the same requests. While the requests bring what `storage.Store` asks for
(`Proper`) and touch none of the differences between the implementations (`Compatible`), the
stores agree, and so do their answers. The differences are of four kinds: updates of rows that do not
exist, duplicates that `postgres.go` reports without their sentinel, values that a column does not take or
does not return as they were, and what only `schema.sql` forbids.
-/

namespace WalletManager.Proofs

open Relational

section Answers

variable (lib : Lib)

/-- The results of a call are the same: rows up to times, the text of amounts and, in listings, their
order. -/
def SameResult : (c : StoreCall) → c.Result → c.Result → Prop
  | .getWallet _, x, y => x = y
  | .getActiveAddress _, x, y | .getAddress _, x, y => SameAddress x y
  | .listAddresses _, x, y => SameRows SameAddress x y
  | .nextAddressIndex _ _, x, y => x = y
  | .getBalance _ _, x, y => SameBalance lib x y
  | .listFreeUTXOs _, x, y => SameRows (SameUTXO lib) x y
  | .incrementPendingNonce _ _, x, y => x = y
  | .rollbackPendingNonce _ _ _, x, y => x = y
  | .getWithdrawal _, x, y => SameWithdrawal lib x y
  | .resolveActiveKey _, x, y => SameRows SameMapping x y
  | .listWallets _ _ _, x, y => SameRows Eq x y
  | .listBalances _, x, y => SameRows (SameBalance lib) x y
  | .getNonce _ _, x, y => x = y
  | .listWithdrawals _ _, x, y => SameRows (SameWithdrawal lib) x y
  | .getOpenFundingRequest _ _, x, y => SameFunding lib x y
  | .listFundingRequests _ _, x, y => SameRows (SameFunding lib) x y
  | .listUndeliveredAuditEvents _, x, y => SameRows Eq x y
  | .nextAuditSeq _, x, y => x = y
  -- The other calls return nothing but an error.
  | _, _, _ => True

def SameAnswer (db : Database) (m : Store) (p : PgStore) (rq : WalletManager.Request) : Prop :=
  SameOutcome (SameResult lib rq.call) (m.handle lib rq.call).1 (p.handle db rq).1

/-- New rows have fresh identities, and rows that refer to a wallet refer to a known one. -/
def Proper (_ : Store) (p : PgStore) (rq : WalletManager.Request) : Prop :=
  match rq.call with
  | .createWallet w => ∀ row ∈ p.wallets.rows, row.id ≠ w.id
  | .insertAddress a _ => (∀ row ∈ p.addresses.rows, row.id ≠ a.id) ∧ KnownWallet p a.walletID
  | .upsertBalance b => KnownWallet p b.walletID
  | .recordBalanceEvent _ => ∀ row ∈ p.balanceEvents.rows, row.id ≠ rq.rowID
  | .insertUTXO u => KnownWallet p u.walletID
  | .upsertNonce n => KnownWallet p n.walletID
  | .incrementPendingNonce walletID _ => KnownWallet p walletID
  | .createWithdrawal w => (∀ row ∈ p.withdrawals.rows, row.request.id ≠ w.id) ∧ KnownWallet p w.walletID
  | .bindKeyMapping n _ => KnownWallet p n.walletID
  | .rotateKeyMapping walletID _ _ _ => KnownWallet p walletID
  | .createFundingRequest f =>
    (∀ row ∈ p.fundingRequests.rows, row.request.id ≠ f.id) ∧ KnownWallet p f.walletID
  | .appendAuditEvent e => ∀ row ∈ p.auditOutbox.rows, row.id ≠ e.id
  | _ => True

/-- The request touches none of the differences between the stores. -/
def Compatible (db : Database) (m : Store) (p : PgStore) (rq : WalletManager.Request) : Prop :=
  match rq.call with
  | .createWallet w =>
    (∀ n, w.rotationDays = some n → Int4 n) ∧ (∀ n, w.rotationAfterReceives = some n → Int4 n) ∧
      ∀ row ∈ p.wallets.rows, (row.chain.string, row.keyID) ≠ (w.chain.string, w.keyID)
  | .updateWalletState id _ => id ∈ m.wallets
  | .insertAddress a _ =>
    Int4 a.index ∧ Int4 a.change ∧ Int4 a.receiveCount ∧
      (∀ row ∈ p.addresses.rows, (row.walletID, row.index, row.change) ≠ (a.walletID, a.index, a.change)) ∧
      ∀ row ∈ p.addresses.rows, (row.chain.string, row.address) ≠ (a.chain.string, a.address)
  | .deprecateAddress id => id ∈ m.addresses
  | .incrementReceiveCount id => ∃ a, m.addresses.lookup id = some a ∧ Int4 (a.receiveCount + 1)
  | .nextAddressIndex chain change =>
    Int4 change ∧ ∀ row ∈ p.addresses.rows, row.chain.string = chain → row.change = change →
      0 ≤ row.index ∧ row.index + 1 < 2 ^ 31
  | .upsertBalance b => Exact lib db b.confirmed ∧ Exact lib db b.pending ∧ Exact lib db b.locked
  | .recordBalanceEvent e => ∀ row ∈ p.balanceEvents.rows, row.event.key = e.key → row.event = e
  | .insertUTXO u => Exact lib db u.value ∧ Int4 u.confirmations
  | .lockUTXOs outpoints => outpoints.Nodup
  | .markUTXOsSpent outpoints _ | .restoreUTXOs outpoints => ∀ op ∈ outpoints, op ∈ m.utxos
  | .upsertNonce n => Int4 n.version
  | .incrementPendingNonce walletID chain =>
    ∀ n, m.nonces.lookup (nonceKey walletID chain) = some n → Int4 (n.version + 1)
  | .advanceBroadcastNonce walletID chain _ => nonceKey walletID chain ∈ m.nonces
  | .rollbackPendingNonce walletID chain target =>
    ∀ n, m.nonces.lookup (nonceKey walletID chain) = some n → n.pendingNonce ≠ target + 1
  | .createWithdrawal w =>
    p.txColumns = true ∧ Exact lib db w.amount ∧ w.reservedOutpoints ≠ [] ∧
      withdrawalDedupKey w.walletID w.toAddress w.amount w.asset ∉ m.inflightWithdrawals ∧
      ∀ w' ∈ values m.withdrawals, ¬Rivals lib w' w
  | .getWithdrawal _ | .listWithdrawals _ _ => p.txColumns = true
  | .updateWithdrawalState id state _ _ _ => ∃ w, m.withdrawals.lookup id = some w ∧
      ∀ w' ∈ values m.withdrawals, w'.id ≠ id → ¬Rivals lib { w with state := state } w'
  | .updateWithdrawalNonce id _ => id ∈ m.withdrawals
  | .updateWithdrawalOutpoints id outpoints => p.txColumns = true ∧ id ∈ m.withdrawals ∧ outpoints ≠ []
  | .updateWithdrawalSignedTx id _ => p.txColumns = true ∧ id ∈ m.withdrawals
  | .bindKeyMapping n _ => ∀ row ∈ p.keyMappings.rows, (row.walletID, row.keyID) ≠ (n.walletID, n.keyID)
  | .createFundingRequest f =>
    Exact lib db f.amount ∧ ∀ g ∈ values m.fundingReq, ¬Store.isOpen f.walletID f.asset g = true
  | .updateFundingState id state _ => ∃ f, m.fundingReq.lookup id = some f ∧
      (state = .requested → ∀ g ∈ values m.fundingReq, g.id ≠ id →
        ¬Store.isOpen f.walletID f.asset g = true)
  | .appendAuditEvent e => AuditColumns db e ∧ ∀ row ∈ p.auditOutbox.rows, row.eventID ≠ e.eventID
  | .listUndeliveredAuditEvents limit => ListableTo m.auditOutbox limit
  | .markAuditDelivered id => ∃ e ∈ m.auditOutbox, e.id = id ∧ Int4 (e.attempts + 1)
  | _ => True

end Answers

section Step

variable {lib : Lib} {db : Database} {m : Store} {p : PgStore} {rq : WalletManager.Request}

lemma matched_read {α β : Type} {R : α → β → Prop} {x : Except Error α} {y : Except Error β}
    (h : Agree lib db m p) (hxy : SameOutcome R x y) : Matched lib db R (x, m) (y, p) := ⟨hxy, h⟩

theorem handle_matched (hsort : LawfulSort lib) (hdb : LawfulDatabase lib db) (h : Agree lib db m p)
    (hproper : Proper m p rq) (hcompatible : Compatible lib db m p rq) :
    Matched lib db (SameResult lib rq.call) (m.handle lib rq.call) (p.handle db rq) := by
  obtain ⟨call, hoperation, rowID⟩ := rq
  cases call with
  | beginTx | commitTx | rollbackTx => cases hoperation
  | createWallet w =>
    obtain ⟨hdays, hreceives, hkey⟩ := hcompatible
    exact createWallet_matched h hproper hdays hreceives hkey
  | getWallet id => exact matched_read h (getWallet_matched h id)
  | updateWalletState id state =>
    obtain ⟨w, hw⟩ := Table.mem_iff.mp hcompatible
    exact updateWalletState_matched h hw state
  | insertAddress a now =>
    obtain ⟨hfresh, hknown⟩ := hproper
    obtain ⟨hindex, hchange, hcount, hslot, htext⟩ := hcompatible
    exact insertAddress_matched h now hfresh hknown hindex hchange hcount hslot htext
  | getActiveAddress walletID => exact matched_read h (getActiveAddress_matched h walletID)
  | listAddresses walletID => exact matched_read h (.ok (listAddresses_matched h hsort hdb walletID))
  | deprecateAddress id =>
    obtain ⟨a, ha⟩ := Table.mem_iff.mp hcompatible
    exact deprecateAddress_matched h ha
  | nextAddressIndex chain change =>
    have hindex := nextAddressIndex_matched h hcompatible.1 hcompatible.2
    refine matched_read h ?_
    rw [hindex]
    exact .ok rfl
  | incrementReceiveCount id =>
    obtain ⟨a, ha, hcount⟩ := hcompatible
    exact incrementReceiveCount_matched h ha hcount
  | upsertBalance b =>
    obtain ⟨hconfirmed, hpending, hlocked⟩ := hcompatible
    exact upsertBalance_matched h hdb hproper hconfirmed hpending hlocked
  | getBalance walletID asset => exact matched_read h (getBalance_matched h walletID asset)
  | recordBalanceEvent e => exact recordBalanceEvent_matched h ⟨rowID, e⟩ hproper hcompatible
  | insertUTXO u => exact insertUTXO_matched h hdb hproper hcompatible.1 hcompatible.2
  | listFreeUTXOs walletID => exact matched_read h (.ok (listFreeUTXOs_matched h hsort hdb walletID))
  | lockUTXOs outpoints => exact lockUTXOs_matched h hcompatible
  | markUTXOsSpent outpoints txHash => exact markUTXOsSpent_matched h hcompatible txHash
  | restoreUTXOs outpoints => exact restoreUTXOs_matched h hcompatible
  | incrementPendingNonce walletID chain => exact incrementPendingNonce_matched h hproper hcompatible
  | advanceBroadcastNonce walletID chain nonce =>
    obtain ⟨n, hn⟩ := Table.mem_iff.mp hcompatible
    exact advanceBroadcastNonce_matched h hn nonce
  | rollbackPendingNonce walletID chain target => exact rollbackPendingNonce_matched h hcompatible
  | createWithdrawal w =>
    obtain ⟨hfresh, hknown⟩ := hproper
    obtain ⟨hcolumns, hamount, houtpoints, hdedup, hrivals⟩ := hcompatible
    exact createWithdrawal_matched h hdb hfresh hknown hcolumns hamount houtpoints hdedup hrivals
  | getWithdrawal id => exact matched_read h (getWithdrawal_matched h hcompatible id)
  | updateWithdrawalState id state reason txHash policyDecisionID =>
    obtain ⟨w, hw, hrivals⟩ := hcompatible
    exact updateWithdrawalState_matched h hw hrivals reason txHash policyDecisionID
  | updateWithdrawalNonce id nonce =>
    obtain ⟨w, hw⟩ := Table.mem_iff.mp hcompatible
    exact updateWithdrawalNonce_matched h hw nonce
  | updateWithdrawalOutpoints id outpoints =>
    obtain ⟨hcolumns, hid, houtpoints⟩ := hcompatible
    obtain ⟨w, hw⟩ := Table.mem_iff.mp hid
    exact updateWithdrawalOutpoints_matched h hw hcolumns houtpoints
  | updateWithdrawalSignedTx id txBytes =>
    obtain ⟨hcolumns, hid⟩ := hcompatible
    obtain ⟨w, hw⟩ := Table.mem_iff.mp hid
    exact updateWithdrawalSignedTx_matched h hw hcolumns txBytes
  | bindKeyMapping n now => exact bindKeyMapping_matched h hproper hcompatible now
  | resolveActiveKey walletID => exact matched_read h (resolveActiveKey_matched h hsort hdb walletID)
  | rotateKeyMapping walletID newKeyID cooling now =>
    exact rotateKeyMapping_matched h hproper newKeyID cooling now
  | expireCooling now => exact expireCooling_matched h now
  | listWallets chain type state => exact matched_read h (.ok (listWallets_matched h hsort chain type state))
  | getAddress id => exact matched_read h (getAddress_matched h id)
  | listBalances walletID => exact matched_read h (.ok (listBalances_matched h hsort hdb walletID))
  | pruneUTXOs outpoints => exact pruneUTXOs_matched h outpoints
  | getNonce walletID chain => exact matched_read h (.ok (getNonce_matched h walletID chain).symm)
  | upsertNonce n => exact upsertNonce_matched h hproper hcompatible
  | listWithdrawals walletID state =>
    exact matched_read h (listWithdrawals_matched h hcompatible walletID state)
  | createFundingRequest f =>
    obtain ⟨hfresh, hknown⟩ := hproper
    obtain ⟨hamount, hopen⟩ := hcompatible
    exact createFundingRequest_matched h hdb hfresh hknown hamount hopen
  | getOpenFundingRequest walletID asset =>
    exact matched_read h (getOpenFundingRequest_matched h walletID asset)
  | listFundingRequests walletID state =>
    exact matched_read h (.ok (listFundingRequests_matched h walletID state))
  | updateFundingState id state treasuryBatchID =>
    obtain ⟨f, hf, hopen⟩ := hcompatible
    exact updateFundingState_matched h hf hopen treasuryBatchID
  | appendAuditEvent e => exact appendAuditEvent_matched h hproper hcompatible.1 hcompatible.2
  | listUndeliveredAuditEvents limit =>
    exact matched_read h (listUndeliveredAuditEvents_matched h hsort hdb hcompatible)
  | markAuditDelivered id =>
    obtain ⟨e, he, hid, hattempts⟩ := hcompatible
    exact markAuditDelivered_matched h he hid hattempts
  | nextAuditSeq walletID => exact nextAuditSeq_matched h walletID

end Step

/-- What holds of the two stores and the request at each place of a sequence, from empty stores on. -/
abbrev Alongside (lib : Lib) (db : Database) (txColumns : Bool)
    (P : Store → PgStore → WalletManager.Request → Prop) (rqs : List WalletManager.Request) : Prop :=
  Lockstep (fun (m : Store) rq => (m.handle lib rq.call).2) (fun (p : PgStore) rq => (p.handle db rq).2) P
    {} { txColumns := txColumns } rqs

theorem stores_answer_alike {lib : Lib} {db : Database} (hsort : LawfulSort lib) (hdb : LawfulDatabase lib db)
    (txColumns : Bool) {rqs : List WalletManager.Request} (hproper : Alongside lib db txColumns Proper rqs)
    (hcompatible : Alongside lib db txColumns (Compatible lib db) rqs) :
    Alongside lib db txColumns (SameAnswer lib db) rqs := by
  refine (hproper.and hcompatible).simulation (I := Agree lib db) ?_ (agree_empty lib db txColumns)
  rintro m p rq hagree ⟨hprop, hcomp⟩
  exact handle_matched hsort hdb hagree hprop hcomp

def heldTransfer (id : UUID) : WithdrawalRequest :=
  { id := id, walletID := evmWallet.id, toAddress := "to", asset := "ETH", amount := "1.5", state := .pending,
    reservedOutpoints := ["0:0"] }

def failedTransfer : List WalletManager.Request :=
  [⟨.createWallet evmWallet, rfl, UUID.nil⟩,
    ⟨.bindKeyMapping ⟨evmWallet.id, "key", 0, none, .current⟩ 1, rfl, UUID.nil⟩,
    ⟨.createWithdrawal (heldTransfer (UUID.ofByte 3)), rfl, UUID.nil⟩,
    ⟨.updateWithdrawalState (UUID.ofByte 3) .failed "policy" "" "", rfl, UUID.nil⟩,
    ⟨.createWithdrawal (heldTransfer (UUID.ofByte 4)), rfl, UUID.nil⟩,
    ⟨.rotateKeyMapping evmWallet.id "next" 10 2, rfl, UUID.nil⟩,
    ⟨.listWithdrawals UUID.nil "", rfl, UUID.nil⟩]

lemma failedTransfer_proper : Alongside referenceLib referenceDatabase true Proper failedTransfer := by
  unfold Alongside failedTransfer
  simp only [Lockstep, Proper, KnownWallet]
  decide +kernel

lemma heldTransfer_exact (id : UUID) : Exact referenceLib referenceDatabase (heldTransfer id).amount := by
  change Exact referenceLib referenceDatabase "1.5"
  exact ⟨3 / 2, by decide +kernel, by decide +kernel⟩

lemma not_rivals {lib : Lib} {w' : WithdrawalRequest} {l : List WithdrawalRequest}
    (h : ∀ w ∈ l, w.state.inFlight = false) : ∀ w ∈ l, ¬Rivals lib w w' := by
  intro w hw hrivals
  have hflight := hrivals.inFlight
  rw [h w hw] at hflight
  cases hflight

lemma failedTransfer_compatible : Alongside referenceLib referenceDatabase true
    (Compatible referenceLib referenceDatabase) failedTransfer := by
  unfold Alongside failedTransfer
  simp only [Lockstep, Compatible, and_true, true_and]
  refine ⟨?_, ?_, ?_, ?_, ?_, ?_⟩
  · exact ⟨nofun, nofun, by decide +kernel⟩
  · decide +kernel
  · refine ⟨?_, heldTransfer_exact _, ?_, ?_, not_rivals ?_⟩
    all_goals decide +kernel
  · refine ⟨heldTransfer (UUID.ofByte 3), by decide +kernel, ?_⟩
    intro w' hw' hne hrivals
    cases hrivals.inFlight
  · refine ⟨?_, heldTransfer_exact _, ?_, ?_, not_rivals ?_⟩
    all_goals decide +kernel
  · decide +kernel

/-- A transfer that fails is made once more, and both stores list the two requests. -/
theorem stores_answer_alike_failed : Alongside referenceLib referenceDatabase true
    (SameAnswer referenceLib referenceDatabase) failedTransfer :=
  stores_answer_alike referenceLib_sorts referenceDatabase_lawful true failedTransfer_proper
    failedTransfer_compatible

def repeatedTransfer : List WalletManager.Request :=
  [⟨.createWallet evmWallet, rfl, UUID.nil⟩,
    ⟨.createWithdrawal (heldTransfer (UUID.ofByte 3)), rfl, UUID.nil⟩,
    ⟨.createWithdrawal (heldTransfer (UUID.ofByte 4)), rfl, UUID.nil⟩]

def unknownWallet : List WalletManager.Request := [⟨.updateWalletState evmWallet.id .retired, rfl, UUID.nil⟩]

/-- Both stores refuse a second withdrawal in flight, but only one of them with `ErrDuplicateWithdrawal`; and
an update of a wallet that does not exist fails in one of them only. -/
theorem stores_answer_differently :
    (Alongside referenceLib referenceDatabase true Proper repeatedTransfer ∧
      ¬Alongside referenceLib referenceDatabase true (SameAnswer referenceLib referenceDatabase)
        repeatedTransfer) ∧
    Alongside referenceLib referenceDatabase true Proper unknownWallet ∧
      ¬Alongside referenceLib referenceDatabase true (SameAnswer referenceLib referenceDatabase)
        unknownWallet := by
  refine ⟨⟨?_, ?_⟩, ?_, ?_⟩
  · unfold Alongside repeatedTransfer
    simp only [Lockstep, Proper, KnownWallet]
    decide +kernel
  · rintro ⟨-, -, hanswer, -⟩
    have hfailure := SameOutcome.failure_eq hanswer
    revert hfailure
    decide +kernel
  · simp only [Alongside, unknownWallet, Lockstep, Proper, and_self]
  · rintro ⟨hanswer, -⟩
    have hfailure := SameOutcome.failure_eq hanswer
    revert hfailure
    decide +kernel

end WalletManager.Proofs
