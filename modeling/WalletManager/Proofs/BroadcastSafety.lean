import WalletManager.Proofs.NonceSafety

/-!
# Accepted transactions

Once the gateway has accepted a withdrawal's transaction, the withdrawal, its nonce and its
outputs must not be released. `Fail` alone does not look at the state it finds, so the
results hold for runs whose `Fail` calls keep away from accepted withdrawals.
-/

namespace WalletManager.Proofs

open Interaction Reservation

def isSent : WithdrawalState → Bool
  | .broadcast | .confirmed => true
  | _ => false

def broadcastNonce (s : Store) (k : String) : Int :=
  ((s.nonces.lookup k).map Nonce.broadcastNonce).getD 0

/-- The saga's operations without reorg callbacks, where `Fail` is called on no accepted
withdrawal and releases no nonce of another live one. -/
def GuardedFails (s : Store) : Op → Prop
  | .fail id _ => (∀ wr, s.withdrawals.lookup id = some wr → isSent wr.state = false) ∧
    ReleasesOwn s id
  | .onReorg _ _ => False
  | _ => True

lemma GuardedFails.ownFails {s : Store} {op : Op} (h : GuardedFails s op) : OwnFails s op := by
  cases op with
  | fail id reason => exact h.2
  | _ => exact h

section Rows

variable {s s' : Store} {id : UUID} {wr : WithdrawalRequest} {obs : List Obs} {op : Op}

structure SameClaim (wr wr' : WithdrawalRequest) : Prop where
  walletID : wr'.walletID = wr.walletID
  nonceValue : wr'.nonceValue = wr.nonceValue
  reservedOutpoints : wr'.reservedOutpoints = wr.reservedOutpoints

lemma Outcome.sent (h : Outcome s op obs s') (hok : GuardedFails s op)
    (hrow : s.withdrawals.lookup id = some wr) (hsent : isSent wr.state) :
    ∃ wr', s'.withdrawals.lookup id = some wr' ∧ isSent wr'.state ∧ SameClaim wr wr' := by
  have hkeep : ∀ {j wr₁} , RowSet s s' j wr₁ → id ≠ j →
      ∃ wr', s'.withdrawals.lookup id = some wr' ∧ isSent wr'.state ∧ SameClaim wr wr' := by
    intro j wr₁ hset hne
    exact ⟨wr, by rw [hset.others id hne, hrow], hsent, rfl, rfl, rfl⟩
  have hne : ∀ {j wr₁}, s.withdrawals.lookup j = some wr₁ → isSent wr₁.state = false → id ≠ j := by
    rintro j wr₁ hj hidle rfl
    rw [hrow] at hj
    cases hj
    rw [hsent] at hidle
    cases hidle
  cases h with
  | refused => exact ⟨wr, hrow, hsent, rfl, rfl, rfl⟩
  | @created j req state reason decisionID hcreate hstate =>
    refine hkeep ((created_rowSet hcreate).state _ _ _ _) ?_
    rintro rfl
    rw [created_absent hcreate] at hrow
    cases hrow
  | unfunded => exact ⟨wr, by simpa using hrow, hsent, rfl, rfl, rfl⟩
  | dropped hj hwl hw hres =>
    exact hkeep ((hres.rowSet hj).released _ _ _) (hne hj (by rw [hwl]; rfl))
  | unsigned hj hwl hw hres =>
    exact hkeep (((hres.rowSet hj).released _ _ _).state _ _ _ _) (hne hj (by rw [hwl]; rfl))
  | signed hj hwl hw hres =>
    exact hkeep (((hres.rowSet hj).update _).state _ _ _ _) (hne hj (by rw [hwl]; rfl))
  | rejected hj hsigned hw =>
    exact hkeep (((RowSet.refl hj).released _ _ _).state _ _ _ _) (hne hj (by rw [hsigned]; rfl))
  | accepted hj hsigned hw =>
    exact hkeep (((RowSet.refl hj).committed _ _ _).state _ _ _ _) (hne hj (by rw [hsigned]; rfl))
  | @confirmed j wr₁ txHash hj hbroadcast =>
    have hset := (RowSet.refl hj).state .confirmed "" txHash ""
    by_cases hid : id = j
    · subst hid
      rw [hrow] at hj
      cases hj
      exact ⟨_, hset.row, rfl, rfl, rfl, rfl⟩
    · exact hkeep hset hid
  | failed hj hw =>
    exact hkeep (((RowSet.refl hj).released _ _ _).state _ _ _ _) (hne hj (hok.1 _ hj))
  | restored => exact hok.elim
  | demoted => exact hok.elim

lemma Outcome.reserved_eq (h : Outcome s op obs s') {k : String} {n : Int}
    (hmem : Obs.reserved k n ∈ obs) : n = s.pendingNonce k := by
  have hres : ∀ {id wr w m ops wr₁ s₁}, Reserved s id wr w m ops wr₁ obs s₁ → n = s.pendingNonce k := by
    intro id wr w m ops wr₁ s₁ hres
    cases hres with
    | evm hevm hn =>
      simp only [List.mem_singleton, Obs.reserved.injEq] at hmem
      rw [hmem.2, hmem.1, hn]
    | bitcoin => cases hmem
    | plain => cases hmem
  cases h with
  | dropped _ _ _ h => exact hres h
  | unsigned _ _ _ h => exact hres h
  | signed _ _ _ h => exact hres h
  | accepted => simp at hmem
  | _ => cases hmem

end Rows

section Counter

variable {s s₁ s' : Store} {id : UUID} {wr wr₁ : WithdrawalRequest} {w : Wallet} {n : Int}
  {ops : List String} {obs : List Obs} {op : Op} (k : String)

lemma broadcastNonce_congr (h : s'.nonces = s.nonces) : broadcastNonce s' k = broadcastNonce s k := by
  unfold broadcastNonce
  rw [h]

lemma broadcastNonce_insert (s : Store) (row : Nonce) (k' : String) :
    broadcastNonce { s with nonces := s.nonces.insert k' row } k =
      if k = k' then row.broadcastNonce else broadcastNonce s k := by
  unfold broadcastNonce
  rw [lookup_insert_eq]
  by_cases h : k = k'
  · rw [if_pos h, if_pos h]
    rfl
  · rw [if_neg h, if_neg h]

lemma broadcastNonce_eq (s : Store) (walletID : UUID) (chain : String) :
    (s.nonceRow walletID chain).broadcastNonce = broadcastNonce s (nonceKey walletID chain) := by
  unfold Store.nonceRow broadcastNonce
  cases s.nonces.lookup (nonceKey walletID chain) <;> rfl

lemma incrementPendingNonce_broadcastNonce (s : Store) (walletID : UUID) (chain : String) :
    broadcastNonce (s.incrementPendingNonce walletID chain).2 k = broadcastNonce s k := by
  refine (broadcastNonce_insert k s _ _).trans ?_
  by_cases h : k = nonceKey walletID chain
  · rw [if_pos h, h, ← broadcastNonce_eq]
  · rw [if_neg h]

lemma rollbackPendingNonce_broadcastNonce (s : Store) (walletID : UUID) (chain : String) (n : Int) :
    broadcastNonce (s.rollbackPendingNonce walletID chain n).2 k = broadcastNonce s k := by
  unfold Store.rollbackPendingNonce
  cases hrow : s.nonces.lookup (nonceKey walletID chain) with
  | none => rfl
  | some row =>
    dsimp only
    split
    · refine (broadcastNonce_insert k s _ _).trans ?_
      by_cases h : k = nonceKey walletID chain
      · rw [if_pos h, h]
        unfold broadcastNonce
        rw [hrow]
        rfl
      · rw [if_neg h]
    · rfl

lemma advanceBroadcastNonce_broadcastNonce (s : Store) (walletID : UUID) (chain : String) (n : Int) :
    broadcastNonce (s.advanceBroadcastNonce walletID chain n).2 k =
      if k = nonceKey walletID chain then max (broadcastNonce s k) (n + 1) else broadcastNonce s k := by
  refine (broadcastNonce_insert k s _ _).trans ?_
  by_cases h : k = nonceKey walletID chain
  · rw [if_pos h, if_pos h, h, ← broadcastNonce_eq]
    split
    · rename_i hlt
      exact (max_eq_right hlt.le).symm
    · rename_i hlt
      exact (max_eq_left (not_lt.mp hlt)).symm
  · rw [if_neg h, if_neg h]

lemma released_broadcastNonce (s : Store) (w : Wallet) (n : Int) (ops : List String) :
    broadcastNonce (released s w n ops) k = broadcastNonce s k := by
  unfold released
  have hrestore : ∀ s₁ : Store, broadcastNonce
      (if ops.length > 0 then (s₁.restoreUTXOs ops).2 else s₁) k = broadcastNonce s₁ k := by
    intro s₁
    split <;> rfl
  rw [hrestore]
  split
  · exact rollbackPendingNonce_broadcastNonce k s _ _ _
  · rfl

lemma committed_broadcastNonce (s : Store) (wr : WithdrawalRequest) (w : Wallet) (txHash : String) :
    broadcastNonce (committed s wr w txHash) k = broadcastNonce s k ∨
      ∃ n, w.chain.isEVM ∧ wr.nonceValue = some n ∧ k = nonceKey wr.walletID w.chain.string ∧
        broadcastNonce (committed s wr w txHash) k = n + 1 := by
  obtain ⟨s₁, hnonces, hs₁ | ⟨n, hevm, hn, hs₁⟩⟩ := committed_nonces s wr w txHash
  · rw [hs₁]
    exact .inl (broadcastNonce_congr k hnonces)
  · rw [hs₁, ← broadcastNonce_congr k hnonces]
    rw [advanceBroadcastNonce_broadcastNonce]
    by_cases hk : k = nonceKey wr.walletID w.chain.string
    · rw [if_pos hk]
      rcases max_choice (broadcastNonce s₁ k) (n + 1) with h | h
      · exact .inl h
      · exact .inr ⟨n, hevm, hn, hk, h⟩
    · rw [if_neg hk]
      exact .inl rfl

lemma Reserved.broadcastNonce (h : Reserved s id wr w n ops wr₁ obs s₁) :
    broadcastNonce s₁ k = broadcastNonce s k := by
  cases h with
  | evm =>
    rw [Store.updateWithdrawalNonce, broadcastNonce_congr k (updateWithdrawal_nonces _ _ _),
      incrementPendingNonce_broadcastNonce]
  | bitcoin =>
    rw [Store.updateWithdrawalOutpoints, broadcastNonce_congr k (updateWithdrawal_nonces _ _ _),
      broadcastNonce_congr k (lockUTXOs_nonces _ _)]
  | plain => rfl

/-- The broadcast counter is zero or right above the nonce of an accepted withdrawal. -/
def Backed (s : Store) : Prop :=
  ∀ k, broadcastNonce s k ≤ 0 ∨
    ∃ id, (k, broadcastNonce s k - 1) ∈ s.held isSent (ownedNonces s.wallets) id

lemma Outcome.broadcastNonce (h : Outcome s op obs s') :
    broadcastNonce s' k = broadcastNonce s k ∨
      ∃ id, (k, broadcastNonce s' k - 1) ∈ s'.held isSent (ownedNonces s'.wallets) id := by
  have hwallets := h.wallets
  cases h with
  | refused => exact .inl rfl
  | created => exact .inl (broadcastNonce_congr k (by simp))
  | unfunded => exact .inl (rollbackPendingNonce_broadcastNonce k _ _ _ _)
  | dropped hrow hwl hw hres =>
    exact .inl ((released_broadcastNonce k _ _ _ _).trans (hres.broadcastNonce k))
  | unsigned hrow hwl hw hres =>
    rw [broadcastNonce_congr k (updateWithdrawalState_nonces _ _ _ _ _ _)]
    exact .inl ((released_broadcastNonce k _ _ _ _).trans (hres.broadcastNonce k))
  | signed hrow hwl hw hres =>
    refine .inl (Eq.trans ?_ (hres.broadcastNonce k))
    exact broadcastNonce_congr k (by simp [Store.updateWithdrawalSignedTx])
  | rejected | failed =>
    rw [broadcastNonce_congr k (updateWithdrawalState_nonces _ _ _ _ _ _)]
    exact .inl (released_broadcastNonce k _ _ _ _)
  | @accepted id wr w txHash hrow hsigned hw =>
    have hset := ((RowSet.refl hrow).committed wr w txHash).state .broadcast "" txHash ""
    rw [hwallets, broadcastNonce_congr k (updateWithdrawalState_nonces _ _ _ _ _ _)]
    rcases committed_broadcastNonce k s wr w txHash with h | ⟨n, hevm, hn, hk, h⟩
    · exact .inl h
    · refine .inr ⟨id, _, hset.row, rfl, ?_⟩
      refine (mem_ownedNonces hw).mpr ⟨hevm, hk, hn.trans ?_⟩
      rw [h]
      simp
  | confirmed => exact .inl (broadcastNonce_congr k (updateWithdrawalState_nonces _ _ _ _ _ _))
  | restored => exact .inl rfl
  | demoted => exact .inl (broadcastNonce_congr k (by simp))

lemma Outcome.backed (h : Outcome s op obs s') (hok : GuardedFails s op) (hb : Backed s) :
    Backed s' := by
  intro k
  rcases h.broadcastNonce k with heq | hnew
  · rw [heq]
    rcases hb k with hzero | ⟨id, wr, hrow, hsent, howned⟩
    · exact .inl hzero
    · obtain ⟨wr', hrow', hsent', hsame⟩ := h.sent hok hrow hsent
      obtain ⟨w, hw, hevm, hk, hn⟩ := howned
      refine .inr ⟨id, wr', hrow', hsent', w, ?_, hevm, ?_, ?_⟩
      · rw [h.wallets, hsame.walletID, hw]
      · rw [hsame.walletID, hk]
      · rw [hsame.nonceValue, hn]
  · exact .inr hnew

end Counter

section Runs

variable {svc : Service} {wallets : List Wallet} {utxos : List UTXO} {s : Store}
  {log : List (Entry Op Call Answer (Except Error Unit))}

def GatewayAccepted (tr : Trace) : Prop :=
  ∃ req resp, (⟨.ext (.broadcastTx req), .ok resp⟩ : Event Call Answer) ∈ tr

def ReturnedNonce (tr : Trace) (walletID : UUID) (chain : String) (n : Int) : Prop :=
  ∃ version, (⟨.store (.incrementPendingNonce walletID chain), .ok (n, version)⟩ :
    Event Call Answer) ∈ tr

lemma gatewayAccepted_iff {tr : Trace} : GatewayAccepted tr ↔ Obs.accepted ∈ tr.filterMap observe := by
  constructor
  · rintro ⟨req, resp, hmem⟩
    exact List.mem_filterMap.mpr ⟨_, hmem, rfl⟩
  · intro h
    obtain ⟨ev, hmem, hobs⟩ := List.mem_filterMap.mp h
    unfold observe at hobs
    split at hobs
    · exact ⟨_, _, hmem⟩
    · cases hobs
    · cases hobs

lemma ReturnedNonce.observed {tr : Trace} {walletID : UUID} {chain : String} {n : Int}
    (h : ReturnedNonce tr walletID chain n) :
    Obs.reserved (nonceKey walletID chain) n ∈ tr.filterMap observe := by
  obtain ⟨version, hmem⟩ := h
  exact List.mem_filterMap.mpr ⟨_, hmem, rfl⟩

lemma SagaInv.nonce_lt (hi : SagaInv s) {id : UUID} {wr : WithdrawalRequest} {w : Wallet} {n : Int}
    (hrow : s.withdrawals.lookup id = some wr) (hlive : wr.state.isLive)
    (hw : s.wallets.lookup wr.walletID = some w) (hevm : w.chain.isEVM)
    (hn : wr.nonceValue = some n) : n < s.pendingNonce (nonceKey wr.walletID w.chain.string) := by
  have hheld : (nonceKey wr.walletID w.chain.string, n) ∈ s.heldNonces id :=
    ⟨wr, hrow, hlive, (mem_ownedNonces hw).mpr ⟨hevm, rfl, hn⟩⟩
  have hfree := Set.disjoint_left.mp (hi.nonces.notFree id) hheld
  exact not_le.mp hfree

lemma isLive_of_isSent {state : WithdrawalState} (h : isSent state) : state.isLive := by
  cases state <;> first | rfl | cases h

lemma SagaInv.broadcast_le_pending (hi : SagaInv s) (hb : Backed s) (k : String) :
    broadcastNonce s k ≤ s.pendingNonce k := by
  rcases hb k with hzero | ⟨id, wr, hrow, hsent, w, hw, hevm, hk, hn⟩
  · exact hzero.trans (hi.counters.nonneg k)
  · have hlt := hi.nonce_lt hrow (isLive_of_isSent hsent) hw hevm hn
    dsimp only at hk hlt
    rw [← hk] at hlt
    omega

/-- From the moment of acceptance on: the withdrawal is in a sent state with the nonce and
the outputs it had, and its nonce has not been returned again. -/
structure Final (id : UUID) (wr₁ : WithdrawalRequest)
    (log : List (Entry Op Call Answer (Except Error Unit))) (s : Store) : Prop where
  row : ∃ wr, s.withdrawals.lookup id = some wr ∧ isSent wr.state ∧ SameClaim wr₁ wr
  nonce : ∀ w n, s.wallets.lookup wr₁.walletID = some w → w.chain.isEVM → wr₁.nonceValue = some n →
    ∀ e ∈ log, ¬ ReturnedNonce e.trace wr₁.walletID w.chain.string n

lemma Final.step {id : UUID} {wr₁ : WithdrawalRequest} {op : Op} {tr : Trace}
    {a : Except Error Unit} {s' : Store} (hf : Final id wr₁ log s) (hi : SagaInv s)
    (hok : GuardedFails s op) (he : Exec (memStep svc.lib) (op.proc svc) s tr a s') :
    Final id wr₁ (log ++ [⟨op, tr, a⟩]) s' := by
  have hout := op_outcome op tr a s' he
  obtain ⟨wr, hrow, hsent, hsame⟩ := hf.row
  constructor
  · obtain ⟨wr', hrow', hsent', hsame'⟩ := hout.sent hok hrow hsent
    exact ⟨wr', hrow', hsent', hsame'.walletID.trans hsame.walletID,
      hsame'.nonceValue.trans hsame.nonceValue,
      hsame'.reservedOutpoints.trans hsame.reservedOutpoints⟩
  · intro w n hw hevm hn e hmem
    rw [hout.wallets] at hw
    rcases List.mem_append.mp hmem with hmem | hmem
    · exact hf.nonce w n hw hevm hn e hmem
    · rw [List.mem_singleton.mp hmem]
      intro hret
      have heq := hout.reserved_eq hret.observed
      have hlt := hi.nonce_lt hrow (isLive_of_isSent hsent) (hsame.walletID ▸ hw) hevm
        (hsame.nonceValue.trans hn)
      rw [hsame.walletID] at hlt
      omega

/-- Acceptance is final: in every run whose `Fail` calls keep away from accepted withdrawals
and from reissued nonces, the broadcast counters stay at or below the pending ones, and after
an accepted broadcast the withdrawal never fails, its outputs are never free and its nonce is
never returned again. -/
theorem accepted_is_final (h : Runs (Op.proc svc) (memStep svc.lib) GuardedFails
      (Store.initial wallets utxos) log s) :
    (∀ k row, s.nonces.lookup k = some row → row.broadcastNonce ≤ row.pendingNonce) ∧
    ∀ id tr a s₁ log' s', Exec (memStep svc.lib) ((Op.broadcast id).proc svc) s tr a s₁ →
      GatewayAccepted tr → Runs (Op.proc svc) (memStep svc.lib) GuardedFails s₁ log' s' →
      ∃ wr₁ wr, s₁.withdrawals.lookup id = some wr₁ ∧ s'.withdrawals.lookup id = some wr ∧
        wr.state ≠ .failed ∧ wr.reservedOutpoints = wr₁.reservedOutpoints ∧
        (∀ op ∈ wr₁.reservedOutpoints, op ∉ s'.freeOutpoints) ∧
        ∀ w n, s'.wallets.lookup wr₁.walletID = some w → w.chain.isEVM → wr₁.nonceValue = some n →
          ∀ e ∈ log', ¬ ReturnedNonce e.trace wr₁.walletID w.chain.string n := by
  have hinv : SagaInv s ∧ Backed s := by
    refine Runs.invariant (I := fun _ s => SagaInv s ∧ Backed s) ?_ ?_ h
    · exact ⟨SagaInv.initial wallets utxos, fun _ => .inl le_rfl⟩
    · intro log s op tr a s' hi hok he
      have hout := op_outcome op tr a s' he
      exact ⟨SagaInv.step hout hok.ownFails hi.1, hout.backed hok hi.2⟩
  refine ⟨?_, ?_⟩
  · intro k row hrow
    have hle := hinv.1.broadcast_le_pending hinv.2 k
    unfold broadcastNonce Store.pendingNonce at hle
    rw [hrow] at hle
    exact hle
  · intro id tr a s₁ log' s' he hgw hpost
    have hout := op_outcome (.broadcast id) tr a s₁ he
    have hi₁ : SagaInv s₁ := SagaInv.step hout trivial hinv.1
    obtain ⟨wr₁, hrow₁, hsent₁⟩ : ∃ wr₁, s₁.withdrawals.lookup id = some wr₁ ∧ isSent wr₁.state := by
      have hobs := gatewayAccepted_iff.mp hgw
      generalize tr.filterMap observe = obs at hout hobs
      cases hout with
      | refused => cases hobs
      | rejected => cases hobs
      | @accepted _ wr w txHash hrow hsigned hw =>
        have hset := ((RowSet.refl hrow).committed wr w txHash).state .broadcast "" txHash ""
        exact ⟨_, hset.row, rfl⟩
    have hfinal : SagaInv s' ∧ Final id wr₁ log' s' := by
      refine Runs.invariant (I := fun log s => SagaInv s ∧ Final id wr₁ log s) ?_ ?_ hpost
      · exact ⟨hi₁, ⟨wr₁, hrow₁, hsent₁, rfl, rfl, rfl⟩, fun _ _ _ _ _ e he => nomatch he⟩
      · intro log s op tr a s' hi hok he
        exact ⟨SagaInv.step (op_outcome op tr a s' he) hok.ownFails hi.1, hi.2.step hi.1 hok he⟩
    obtain ⟨wr, hrow, hsent, hsame⟩ := hfinal.2.row
    refine ⟨wr₁, wr, hrow₁, hrow, ?_, hsame.reservedOutpoints, ?_, hfinal.2.nonce⟩
    · intro hfailed
      rw [hfailed] at hsent
      cases hsent
    · intro op hop
      rw [← hsame.reservedOutpoints] at hop
      have hheld : op ∈ s'.heldOutpoints id := ⟨wr, hrow, isLive_of_isSent hsent, hop⟩
      exact Set.disjoint_left.mp (hfinal.1.outpoints.notFree id) hheld

def signedRun := referenceRun agree (Store.initial [evmWallet] [])
  [.create (UUID.ofByte 10) (evmTransfer "1"), .constructAndSign (UUID.ofByte 10)]

def acceptedStep := referenceStep agree signedRun.2 (.broadcast (UUID.ofByte 10))

def laterOps : List Op :=
  [.confirm (UUID.ofByte 10) "txhash", .create (UUID.ofByte 11) (evmTransfer "2"),
    .constructAndSign (UUID.ofByte 11), .fail (UUID.ofByte 11) "cancelled",
    .create (UUID.ofByte 12) (evmTransfer "3"), .constructAndSign (UUID.ofByte 12)]

def confirmedRun := referenceRun agree acceptedStep.2.2 laterOps

lemma laterOps_guarded : GuardedFails (referenceRun agree acceptedStep.2.2 (laterOps.take 3)).2
    (.fail (UUID.ofByte 11) "cancelled") := by
  refine ⟨?_, releasesOwn_of_rows (by decide +kernel)⟩
  intro wr hrow
  have hclaim : claimOf (referenceRun agree acceptedStep.2.2 (laterOps.take 3)).2 (UUID.ofByte 11) =
      some (evmWallet.id, .signed, some 1, []) := by decide +kernel
  obtain ⟨wr', hrow', -, hstate, -⟩ := claimOf_eq hclaim
  cases hrow.symm.trans hrow'
  rw [hstate]
  rfl

lemma confirmedRun_runs : Runs (Op.proc referenceService) (memStep referenceService.lib) GuardedFails
    acceptedStep.2.2 confirmedRun.1 confirmedRun.2 := by
  apply runs_runAll_of (answering_memStep agree)
  intro i hi
  match i with
  | 0 | 1 | 2 | 4 | 5 => trivial
  | 3 => exact laterOps_guarded

theorem accepted_is_final_confirmed :
    ∃ wr, confirmedRun.2.withdrawals.lookup (UUID.ofByte 10) = some wr ∧ wr.state ≠ .failed := by
  have hpre : Runs (Op.proc referenceService) (memStep referenceService.lib) GuardedFails
      (Store.initial [evmWallet] []) signedRun.1 signedRun.2 :=
    referenceRun_runs agree GuardedFails _ _ (by simp [GuardedFails])
  have hstep : Exec (memStep referenceService.lib) ((Op.broadcast (UUID.ofByte 10)).proc referenceService)
      signedRun.2 acceptedStep.1 acceptedStep.2.1 acceptedStep.2.2 := by
    unfold acceptedStep
    exact referenceStep_exec agree signedRun.2 (.broadcast (UUID.ofByte 10))
  have hgw : GatewayAccepted acceptedStep.1 := gatewayAccepted_iff.mpr (by decide +kernel)
  obtain ⟨-, wr, -, hrow, hstate, -⟩ :=
    (accepted_is_final hpre).2 (UUID.ofByte 10) acceptedStep.1 acceptedStep.2.1 acceptedStep.2.2
      confirmedRun.1 confirmedRun.2 hstep hgw confirmedRun_runs
  exact ⟨wr, hrow, hstate⟩

def undoneRun := referenceRun agree (Store.initial [evmWallet] [])
  [.create (UUID.ofByte 10) (evmTransfer "1"), .constructAndSign (UUID.ofByte 10),
    .broadcast (UUID.ofByte 10), .fail (UUID.ofByte 10) "cancelled"]

/-- After acceptance and `Fail`: the withdrawal is failed, the broadcast counter is above the
pending one, and the next reservation returns the nonce of the accepted transaction. -/
theorem fail_undoes_acceptance :
    Runs (Op.proc referenceService) (memStep referenceService.lib) NoReorg
        (Store.initial [evmWallet] []) undoneRun.1 undoneRun.2 ∧
      (∃ e ∈ undoneRun.1, e.op = .broadcast (UUID.ofByte 10) ∧ GatewayAccepted e.trace) ∧
      claimOf undoneRun.2 (UUID.ofByte 10) = some (evmWallet.id, .failed, some 0, []) ∧
      (∃ row, undoneRun.2.nonces.lookup (nonceKey evmWallet.id "ethereum") = some row ∧
        row.broadcastNonce = 1 ∧ row.pendingNonce = 0) ∧
      (undoneRun.2.incrementPendingNonce evmWallet.id "ethereum").1 = .ok (0, 3) := by
  refine ⟨referenceRun_runs agree NoReorg _ _ (by simp [NoReorg]), ?_, by decide +kernel, ?_,
    by decide +kernel⟩
  · have hany : undoneRun.1.any (fun e => e.op = .broadcast (UUID.ofByte 10) ∧
        Obs.accepted ∈ e.trace.filterMap observe) := by decide +kernel
    obtain ⟨e, hmem, he⟩ := List.any_eq_true.mp hany
    obtain ⟨hop, hobs⟩ := of_decide_eq_true he
    exact ⟨e, hmem, hop, gatewayAccepted_iff.mpr hobs⟩
  · have hrow : (undoneRun.2.nonces.lookup (nonceKey evmWallet.id "ethereum")).map
        (fun row => (row.broadcastNonce, row.pendingNonce)) = some (1, 0) := by decide +kernel
    obtain ⟨row, hlookup, heq⟩ := Option.map_eq_some_iff.mp hrow
    exact ⟨row, hlookup, congrArg Prod.fst heq, congrArg Prod.snd heq⟩

end Runs

end WalletManager.Proofs
