import WalletManager.Proofs.Outcomes

/-!
# How store operations move the reservation view

For each store operation of the saga: which tables it leaves alone, and what it does to the
rows, the pending counters and the free outputs.
-/

namespace WalletManager.Proofs

open Interaction Reservation

section Lookup

variable {K V : Type} [DecidableEq K]

lemma lookup_insert_eq (t : Table K V) (k k' : K) (v : V) :
    (t.insert k v).lookup k' = if k' = k then some v else t.lookup k' := by
  by_cases h : k' = k
  · subst h
    rw [if_pos rfl, AList.lookup_insert]
  · rw [if_neg h, AList.lookup_insert_ne h]

lemma lookup_foldr_insert {key : V → K} {rows : List V} {k : K} {v : V}
    (h : (rows.foldr (fun v t => t.insert (key v) v) (∅ : Table K V)).lookup k = some v) :
    v ∈ rows ∧ key v = k := by
  induction rows with
  | nil => cases h
  | cons v₁ rows ih =>
    rw [List.foldr_cons, lookup_insert_eq] at h
    split at h
    · rename_i hk
      cases h
      exact ⟨List.mem_cons_self, hk.symm⟩
    · obtain ⟨hmem, hk⟩ := ih h
      exact ⟨List.mem_cons_of_mem _ hmem, hk⟩

lemma initial_wallets {wallets : List Wallet} {utxos : List UTXO} {id : UUID} {w : Wallet}
    (h : (Store.initial wallets utxos).wallets.lookup id = some w) : w ∈ wallets ∧ w.id = id :=
  lookup_foldr_insert h

lemma initial_utxos {wallets : List Wallet} {utxos : List UTXO} {op : String} {u : UTXO}
    (h : (Store.initial wallets utxos).utxos.lookup op = some u) : u ∈ utxos ∧ u.outpoint = op :=
  lookup_foldr_insert h

end Lookup

section Frames

variable (s : Store)

@[simp] lemma incrementPendingNonce_wallets (walletID : UUID) (chain : String) :
    (s.incrementPendingNonce walletID chain).2.wallets = s.wallets := rfl

@[simp] lemma incrementPendingNonce_utxos (walletID : UUID) (chain : String) :
    (s.incrementPendingNonce walletID chain).2.utxos = s.utxos := rfl

@[simp] lemma advanceBroadcastNonce_wallets (walletID : UUID) (chain : String) (n : Int) :
    (s.advanceBroadcastNonce walletID chain n).2.wallets = s.wallets := rfl

@[simp] lemma rollbackPendingNonce_wallets (walletID : UUID) (chain : String) (n : Int) :
    (s.rollbackPendingNonce walletID chain n).2.wallets = s.wallets := by
  unfold Store.rollbackPendingNonce
  grind

@[simp] lemma rollbackPendingNonce_withdrawals (walletID : UUID) (chain : String) (n : Int) :
    (s.rollbackPendingNonce walletID chain n).2.withdrawals = s.withdrawals := by
  unfold Store.rollbackPendingNonce
  grind

@[simp] lemma rollbackPendingNonce_utxos (walletID : UUID) (chain : String) (n : Int) :
    (s.rollbackPendingNonce walletID chain n).2.utxos = s.utxos := by
  unfold Store.rollbackPendingNonce
  grind

@[simp] lemma lockUTXOs_wallets (ops : List String) :
    (s.lockUTXOs ops).2.wallets = s.wallets := by
  unfold Store.lockUTXOs
  split <;> rfl

@[simp] lemma lockUTXOs_withdrawals (ops : List String) :
    (s.lockUTXOs ops).2.withdrawals = s.withdrawals := by
  unfold Store.lockUTXOs
  split <;> rfl

@[simp] lemma lockUTXOs_nonces (ops : List String) : (s.lockUTXOs ops).2.nonces = s.nonces := by
  unfold Store.lockUTXOs
  split <;> rfl

@[simp] lemma restoreUTXOs_wallets (ops : List String) :
    (s.restoreUTXOs ops).2.wallets = s.wallets := rfl

@[simp] lemma restoreUTXOs_nonces (ops : List String) :
    (s.restoreUTXOs ops).2.nonces = s.nonces := rfl

@[simp] lemma markUTXOsSpent_wallets (ops : List String) (txHash : String) :
    (s.markUTXOsSpent ops txHash).2.wallets = s.wallets := rfl

@[simp] lemma createWithdrawal_wallets (wr : WithdrawalRequest) :
    (s.createWithdrawal wr).2.wallets = s.wallets := by
  unfold Store.createWithdrawal
  grind

@[simp] lemma createWithdrawal_utxos (wr : WithdrawalRequest) :
    (s.createWithdrawal wr).2.utxos = s.utxos := by
  unfold Store.createWithdrawal
  grind

@[simp] lemma createWithdrawal_nonces (wr : WithdrawalRequest) :
    (s.createWithdrawal wr).2.nonces = s.nonces := by
  unfold Store.createWithdrawal
  grind

@[simp] lemma updateWithdrawal_wallets (id : UUID) (f : WithdrawalRequest → WithdrawalRequest) :
    (s.updateWithdrawal id f).2.wallets = s.wallets := by
  unfold Store.updateWithdrawal
  split <;> rfl

@[simp] lemma updateWithdrawal_utxos (id : UUID) (f : WithdrawalRequest → WithdrawalRequest) :
    (s.updateWithdrawal id f).2.utxos = s.utxos := by
  unfold Store.updateWithdrawal
  split <;> rfl

@[simp] lemma updateWithdrawal_nonces (id : UUID) (f : WithdrawalRequest → WithdrawalRequest) :
    (s.updateWithdrawal id f).2.nonces = s.nonces := by
  unfold Store.updateWithdrawal
  split <;> rfl

@[simp] lemma updateWithdrawalState_wallets (id : UUID) (state : WithdrawalState)
    (reason txHash decisionID : String) :
    (s.updateWithdrawalState id state reason txHash decisionID).2.wallets = s.wallets := by
  unfold Store.updateWithdrawalState
  split <;> rfl

@[simp] lemma updateWithdrawalState_utxos (id : UUID) (state : WithdrawalState)
    (reason txHash decisionID : String) :
    (s.updateWithdrawalState id state reason txHash decisionID).2.utxos = s.utxos := by
  unfold Store.updateWithdrawalState
  split <;> rfl

@[simp] lemma updateWithdrawalState_nonces (id : UUID) (state : WithdrawalState)
    (reason txHash decisionID : String) :
    (s.updateWithdrawalState id state reason txHash decisionID).2.nonces = s.nonces := by
  unfold Store.updateWithdrawalState
  split <;> rfl

lemma updateWithdrawal_lookup {s : Store} {id : UUID} {wr : WithdrawalRequest}
    (hrow : s.withdrawals.lookup id = some wr) (f : WithdrawalRequest → WithdrawalRequest) (j : UUID) :
    (s.updateWithdrawal id f).2.withdrawals.lookup j =
      if j = id then some (f wr) else s.withdrawals.lookup j := by
  rw [updateWithdrawal_ok hrow]
  exact lookup_insert_eq _ _ _ _

lemma updateWithdrawalState_lookup {s : Store} {id : UUID} {wr : WithdrawalRequest}
    (hrow : s.withdrawals.lookup id = some wr) (state : WithdrawalState)
    (reason txHash decisionID : String) (j : UUID) :
    (s.updateWithdrawalState id state reason txHash decisionID).2.withdrawals.lookup j =
      if j = id then some (Store.rowWithState wr state reason txHash decisionID)
      else s.withdrawals.lookup j := by
  unfold Store.updateWithdrawalState
  rw [hrow]
  exact lookup_insert_eq _ _ _ _

end Frames

section Nonces

variable (s : Store) (walletID : UUID) (chain : String) (n : Int) (k : String)

lemma pendingNonce_insert (row : Nonce) (k' : String) :
    ({ s with nonces := s.nonces.insert k' row } : Store).pendingNonce k =
      if k = k' then row.pendingNonce else s.pendingNonce k := by
  unfold Store.pendingNonce
  rw [lookup_insert_eq]
  by_cases h : k = k'
  · rw [if_pos h, if_pos h]
    rfl
  · rw [if_neg h, if_neg h]

lemma incrementPendingNonce_pendingNonce :
    (s.incrementPendingNonce walletID chain).2.pendingNonce k =
      if k = nonceKey walletID chain then s.pendingNonce k + 1 else s.pendingNonce k := by
  refine (pendingNonce_insert s k _ _).trans ?_
  by_cases h : k = nonceKey walletID chain
  · rw [if_pos h, if_pos h, h, ← pendingNonce_eq]
  · rw [if_neg h, if_neg h]

lemma advanceBroadcastNonce_pendingNonce :
    (s.advanceBroadcastNonce walletID chain n).2.pendingNonce k = s.pendingNonce k := by
  refine (pendingNonce_insert s k _ _).trans ?_
  by_cases h : k = nonceKey walletID chain
  · rw [if_pos h, h, ← pendingNonce_eq]
    split <;> rfl
  · rw [if_neg h]

lemma pendingNonce_of_notMem {s : Store} {k : String} (h : k ∉ s.nonces) : s.pendingNonce k = 0 := by
  unfold Store.pendingNonce
  rw [AList.lookup_eq_none.mpr h]
  rfl

lemma pendingNonce_of_lookup {s : Store} {k : String} {row : Nonce} (h : s.nonces.lookup k = some row) :
    s.pendingNonce k = row.pendingNonce := by
  unfold Store.pendingNonce
  rw [h]
  rfl

lemma rollbackPendingNonce_row :
    (s.rollbackPendingNonce walletID chain n).2.pendingNonce k =
      if k = nonceKey walletID chain ∧ k ∈ s.nonces ∧ s.pendingNonce k = n + 1 then n
      else s.pendingNonce k := by
  unfold Store.rollbackPendingNonce
  cases hrow : s.nonces.lookup (nonceKey walletID chain) with
  | none =>
    rw [if_neg]
    rintro ⟨rfl, hmem, -⟩
    exact AList.lookup_eq_none.mp hrow hmem
  | some row =>
    have hpending := pendingNonce_of_lookup hrow
    have hmem : nonceKey walletID chain ∈ s.nonces := Table.mem_iff.mpr ⟨row, hrow⟩
    dsimp only
    split
    · rename_i hnext
      refine (pendingNonce_insert s k _ _).trans ?_
      by_cases h : k = nonceKey walletID chain
      · subst h
        rw [if_pos rfl, if_pos ⟨rfl, hmem, hpending.trans hnext⟩]
      · rw [if_neg h, if_neg (fun hk => h hk.1)]
    · rename_i hnext
      rw [if_neg]
      rintro ⟨rfl, -, h⟩
      exact hnext (hpending.symm.trans h)

lemma rollbackPendingNonce_pendingNonce (hn : 0 ≤ n) :
    (s.rollbackPendingNonce walletID chain n).2.pendingNonce k =
      if k = nonceKey walletID chain ∧ s.pendingNonce k = n + 1 then n else s.pendingNonce k := by
  have hmem : s.pendingNonce k = n + 1 → k ∈ s.nonces := by
    intro h
    by_contra hmem
    rw [pendingNonce_of_notMem hmem] at h
    omega
  rw [rollbackPendingNonce_row]
  apply if_congr _ rfl rfl
  constructor
  · rintro ⟨hk, -, h⟩
    exact ⟨hk, h⟩
  · rintro ⟨hk, h⟩
    exact ⟨hk, hmem h, h⟩

end Nonces

section Outpoints

variable {f : UTXO → UTXO} {ops : List String} {utxos : Table String UTXO}

lemma updateEach_lookup {op : String} {u' : UTXO}
    (h : (Store.updateEach f ops utxos).2.lookup op = some u') :
    utxos.lookup op = some u' ∨ op ∈ ops ∧ ∃ u, u' = f u := by
  induction ops generalizing utxos with
  | nil => exact .inl h
  | cons op₁ ops ih =>
    unfold Store.updateEach at h
    split at h
    · exact .inl h
    · rename_i u hu
      rcases ih h with h | ⟨hmem, hu'⟩
      · rw [lookup_insert_eq] at h
        split at h
        · rename_i hop
          cases h
          exact .inr ⟨by simp [hop], u, rfl⟩
        · exact .inl h
      · exact .inr ⟨List.mem_cons_of_mem _ hmem, hu'⟩

lemma updateEach_lookup_of_mem (hall : ∀ op ∈ ops, op ∈ utxos) {op : String} (hop : op ∈ ops)
    {u' : UTXO} (h : (Store.updateEach f ops utxos).2.lookup op = some u') : ∃ u, u' = f u := by
  induction ops generalizing utxos with
  | nil => simp at hop
  | cons op₁ ops ih =>
    unfold Store.updateEach at h
    obtain ⟨u, hu⟩ := Table.mem_iff.mp (hall op₁ (by simp))
    rw [hu] at h
    dsimp only at h
    by_cases hmem : op ∈ ops
    · have hrest : ∀ op ∈ ops, op ∈ utxos.insert op₁ (f u) := by
        intro op hop
        exact (AList.mem_insert _).mpr (.inr (hall op (by simp [hop])))
      exact ih hrest hmem h
    · have hop₁ : op = op₁ := (List.mem_cons.mp hop).resolve_right hmem
      rcases updateEach_lookup h with h | ⟨-, hu'⟩
      · rw [hop₁, AList.lookup_insert] at h
        exact ⟨u, (Option.some.inj h).symm⟩
      · exact hu'

lemma checkFree_ok (h : Store.checkFree utxos ops = .ok ()) :
    ∀ op ∈ ops, ∃ u, utxos.lookup op = some u ∧ u.lockState = .free := by
  induction ops with
  | nil => simp
  | cons op₁ ops ih =>
    unfold Store.checkFree at h
    split at h
    · cases h
    · rename_i u hu
      split at h
      · rename_i hfree
        intro op hop
        rcases List.mem_cons.mp hop with rfl | hop
        · exact ⟨u, hu, hfree⟩
        · exact ih h op hop
      · cases h

variable (s : Store)

lemma restoreUTXOs_freeOutpoints (ops : List String) :
    (s.restoreUTXOs ops).2.freeOutpoints ⊆ s.freeOutpoints ∪ {op | op ∈ ops} := by
  rintro op ⟨u', hu', hfree⟩
  rcases updateEach_lookup hu' with h | ⟨hop, -⟩
  · exact .inl ⟨u', h, hfree⟩
  · exact .inr hop

lemma markUTXOsSpent_freeOutpoints (ops : List String) (txHash : String) :
    (s.markUTXOsSpent ops txHash).2.freeOutpoints ⊆ s.freeOutpoints := by
  rintro op ⟨u', hu', hfree⟩
  rcases updateEach_lookup hu' with h | ⟨-, u, rfl⟩
  · exact ⟨u', h, hfree⟩
  · cases hfree

variable {s}

lemma lockUTXOs_freeOutpoints (h : Store.checkFree s.utxos ops = .ok ()) :
    (s.lockUTXOs ops).2.freeOutpoints ⊆ s.freeOutpoints ∧
      Disjoint {op | op ∈ ops} (s.lockUTXOs ops).2.freeOutpoints := by
  have hutxos : (s.lockUTXOs ops).2.utxos =
      (Store.updateEach (fun u => { u with lockState := .locked }) ops s.utxos).2 := by
    rw [Store.lockUTXOs, h]
  constructor
  · rintro op ⟨u', hu', hfree⟩
    rw [hutxos] at hu'
    rcases updateEach_lookup hu' with h | ⟨-, u, rfl⟩
    · exact ⟨u', h, hfree⟩
    · cases hfree
  · rw [Set.disjoint_left]
    rintro op hop ⟨u', hu', hfree⟩
    rw [hutxos] at hu'
    have hall : ∀ op ∈ ops, op ∈ s.utxos := by
      intro op hop
      obtain ⟨u, hu, -⟩ := checkFree_ok h op hop
      exact Table.mem_iff.mpr ⟨u, hu⟩
    obtain ⟨u, rfl⟩ := updateEach_lookup_of_mem hall hop hu'
    cases hfree

end Outpoints

section Stages

variable {s : Store}

lemma pendingNonce_congr {s s' : Store} (h : s'.nonces = s.nonces) (k : String) :
    s'.pendingNonce k = s.pendingNonce k := by
  unfold Store.pendingNonce
  rw [h]

lemma freeNonces_congr {s s' : Store} (h : s'.nonces = s.nonces) : s'.freeNonces = s.freeNonces := by
  unfold Store.freeNonces
  simp only [pendingNonce_congr h]

lemma freeOutpoints_congr {s s' : Store} (h : s'.utxos = s.utxos) :
    s'.freeOutpoints = s.freeOutpoints := by
  unfold Store.freeOutpoints
  rw [h]

@[simp] lemma released_wallets (s : Store) (w : Wallet) (n : Int) (ops : List String) :
    (released s w n ops).wallets = s.wallets := by
  unfold released
  split <;> split <;> simp

lemma released_pendingNonce (s : Store) (w : Wallet) (n : Int) (ops : List String) (k : String) :
    (released s w n ops).pendingNonce k =
      if 0 ≤ n ∧ w.chain.isEVM ∧ k = nonceKey w.id w.chain.string ∧ s.pendingNonce k = n + 1
      then n else s.pendingNonce k := by
  have hrestore : ∀ s₁ : Store,
      (if ops.length > 0 then (s₁.restoreUTXOs ops).2 else s₁).pendingNonce k = s₁.pendingNonce k := by
    intro s₁
    split <;> rfl
  unfold released
  rw [hrestore]
  by_cases hn : 0 ≤ n ∧ w.chain.isEVM = true
  · rw [if_pos hn, rollbackPendingNonce_pendingNonce _ _ _ _ _ hn.1]
    simp [hn]
  · rw [if_neg hn, if_neg]
    exact fun h => hn ⟨h.1, h.2.1⟩

lemma released_freeOutpoints (s : Store) (w : Wallet) (n : Int) (ops : List String) :
    (released s w n ops).freeOutpoints ⊆ s.freeOutpoints ∪ {op | op ∈ ops} := by
  have hrestore : ∀ s₁ : Store, s₁.utxos = s.utxos →
      (if ops.length > 0 then (s₁.restoreUTXOs ops).2 else s₁).freeOutpoints ⊆
        s.freeOutpoints ∪ {op | op ∈ ops} := by
    intro s₁ hs₁
    rw [← freeOutpoints_congr hs₁]
    split
    · exact restoreUTXOs_freeOutpoints s₁ ops
    · exact Set.subset_union_left
  unfold released
  apply hrestore
  split <;> simp

@[simp] lemma committed_wallets (s : Store) (wr : WithdrawalRequest) (w : Wallet) (txHash : String) :
    (committed s wr w txHash).wallets = s.wallets := by
  unfold committed
  grind [advanceBroadcastNonce_wallets, markUTXOsSpent_wallets]

lemma committed_pendingNonce (s : Store) (wr : WithdrawalRequest) (w : Wallet) (txHash : String)
    (k : String) : (committed s wr w txHash).pendingNonce k = s.pendingNonce k := by
  have hspent : ∀ ops, (s.markUTXOsSpent ops txHash).2.pendingNonce k = s.pendingNonce k :=
    fun ops => pendingNonce_congr rfl k
  unfold committed
  grind [advanceBroadcastNonce_pendingNonce]

lemma committed_freeOutpoints (s : Store) (wr : WithdrawalRequest) (w : Wallet) (txHash : String) :
    (committed s wr w txHash).freeOutpoints ⊆ s.freeOutpoints := by
  have hspent := markUTXOsSpent_freeOutpoints s wr.reservedOutpoints txHash
  have hadvance : ∀ (s : Store) n, (s.advanceBroadcastNonce wr.walletID w.chain.string n).2.freeOutpoints =
      s.freeOutpoints := fun s n => freeOutpoints_congr rfl
  unfold committed
  grind

end Stages

end WalletManager.Proofs
