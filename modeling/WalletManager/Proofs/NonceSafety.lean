import WalletManager.Proofs.Reference
import WalletManager.Proofs.SagaSafety

/-!
# Nonces along runs of the saga

A live EVM withdrawal owns its nonce. The rollback of a nonce is keyed by its value only,
and `Fail` rolls back whatever nonce is on the row, so ownership survives a run exactly as
long as no `Fail` call releases a nonce that has been reissued to another withdrawal.
-/

namespace WalletManager.Proofs

open Interaction Reservation

/-- `Fail` on `id` does not release a nonce that another live withdrawal holds. -/
def ReleasesOwn (s : Store) (id : UUID) : Prop :=
  ∀ wr w n, s.withdrawals.lookup id = some wr → s.wallets.lookup wr.walletID = some w →
    w.chain.isEVM → wr.nonceValue = some n →
    s.pendingNonce (nonceKey wr.walletID w.chain.string) = n + 1 →
    ∀ j, j ≠ id → (nonceKey wr.walletID w.chain.string, n) ∉ s.heldNonces j

def KeyedWallets (s : Store) : Prop := ∀ id w, s.wallets.lookup id = some w → w.id = id

section Step

variable {s s₁ s' : Store} {id : UUID} {wr wr₁ : WithdrawalRequest} {w : Wallet} {n : Int}
  {ops : List String} {obs : List Obs} {op : Op}

lemma released_freeNonces (s : Store) (w : Wallet) (n : Int) (ops : List String) :
    (released s w n ops).freeNonces ⊆ s.freeNonces ∪ {r | 0 ≤ n ∧ w.chain.isEVM ∧
      s.pendingNonce (nonceKey w.id w.chain.string) = n + 1 ∧ r = (nonceKey w.id w.chain.string, n)} := by
  rintro ⟨k, m⟩ hfree
  change (released s w n ops).pendingNonce k ≤ m at hfree
  rw [released_pendingNonce] at hfree
  split at hfree
  · rename_i hrel
    obtain ⟨hn, hevm, rfl, hpending⟩ := hrel
    by_cases hm : m = n
    · exact .inr ⟨hn, hevm, hpending, by rw [hm]⟩
    · refine .inl (show s.pendingNonce (nonceKey w.id w.chain.string) ≤ m from ?_)
      omega
  · exact .inl hfree

lemma noncePtr_nonneg (h : 0 ≤ noncePtr wr) : wr.nonceValue = some (noncePtr wr) := by
  unfold noncePtr at h ⊢
  cases hn : wr.nonceValue with
  | none =>
    rw [hn] at h
    cases h
  | some n => rfl

lemma mem_ownedNonces {wallets : Table UUID Wallet} (hw : wallets.lookup wr.walletID = some w)
    {r : String × Int} : r ∈ ownedNonces wallets wr ↔ w.chain.isEVM ∧
      r.1 = nonceKey wr.walletID w.chain.string ∧ wr.nonceValue = some r.2 := by
  constructor
  · rintro ⟨w', hw', h⟩
    rw [hw] at hw'
    cases hw'
    exact h
  · exact fun h => ⟨w, hw, h⟩

lemma Reserved.ownedNonces (h : Reserved s id wr w n ops wr₁ obs s₁)
    (hw : s.wallets.lookup wr.walletID = some w) :
    ownedNonces s.wallets wr₁ ⊆ s.freeNonces ∧ Disjoint (ownedNonces s.wallets wr₁) s₁.freeNonces := by
  have hw₁ : s.wallets.lookup wr₁.walletID = some w := by rw [h.fields.2, hw]
  have hnone : w.chain.isEVM = false → WalletManager.ownedNonces s.wallets wr₁ = ∅ := by
    intro hevm
    ext r
    simp [mem_ownedNonces hw₁, hevm]
  cases h with
  | evm hevm hn =>
    constructor
    · intro r hr
      obtain ⟨-, hkey, hval⟩ := (mem_ownedNonces hw₁).mp hr
      change s.pendingNonce r.1 ≤ r.2
      rw [hkey, ← Option.some.inj hval, hn]
    · rw [Set.disjoint_left]
      intro r hr hfree
      obtain ⟨-, hkey, hval⟩ := (mem_ownedNonces hw₁).mp hr
      rw [Store.updateWithdrawalNonce, freeNonces_congr (updateWithdrawal_nonces _ _ _)] at hfree
      change Store.pendingNonce _ r.1 ≤ r.2 at hfree
      rw [incrementPendingNonce_pendingNonce, if_pos hkey, hkey, ← Option.some.inj hval, hn] at hfree
      change s.pendingNonce (nonceKey wr.walletID w.chain.string) + 1 ≤ _ at hfree
      omega
  | bitcoin hbtc hfree =>
    rw [hnone (by rw [hbtc]; rfl)]
    exact ⟨Set.empty_subset _, Set.empty_disjoint _⟩
  | plain hevm hbtc =>
    rw [hnone hevm]
    exact ⟨Set.empty_subset _, Set.empty_disjoint _⟩

/-- Every operation keeps the nonces of live withdrawals exclusively reserved, if a `Fail`
call releases no nonce of another withdrawal. -/
theorem nonces_step (h : Outcome s op obs s') (hkeyed : KeyedWallets s) (hc : Counters s)
    (hfail : ∀ id reason, op = .fail id reason → ReleasesOwn s id)
    (hx : Exclusive s.heldNonces s.freeNonces) : Exclusive s'.heldNonces s'.freeNonces := by
  have hsame : s'.heldNonces = s'.held WithdrawalState.isLive (ownedNonces s.wallets) := by
    rw [Store.heldNonces, h.wallets]
  rw [hsame]
  cases h with
  | refused => exact hx
  | created hok hstate =>
    refine ((created_rowSet hok).state _ _ _ _).exclusive_drop hx ?_ ?_
    · rcases hstate with rfl | rfl <;> rfl
    · exact (freeNonces_congr (by simp)).subset.trans Set.subset_union_left
  | unfunded hbtc =>
    rw [hc.unfunded _ hbtc]
    exact hx
  | @dropped id wr w n ops wr₁ obs s₁ hrow hwl hw hres =>
    refine ((hres.rowSet hrow).released w n ops).exclusive_drop hx ?_ ?_
    · rw [hres.fields.1, hwl]
      rfl
    · exact (Store.freeNonces_subset (hres.released_pendingNonce_le (hkeyed _ _ hw))).trans
        Set.subset_union_left
  | @unsigned id wr w n ops wr₁ obs s₁ reason hrow hwl hw hres =>
    refine (((hres.rowSet hrow).released w n ops).state _ _ _ _).exclusive_drop hx rfl ?_
    rw [freeNonces_congr (updateWithdrawalState_nonces _ _ _ _ _ _)]
    exact (Store.freeNonces_subset (hres.released_pendingNonce_le (hkeyed _ _ hw))).trans
      Set.subset_union_left
  | @signed id wr w n ops wr₁ obs s₁ txBytes hrow hwl hw hres =>
    obtain ⟨htake, hdisj⟩ := hres.ownedNonces hw
    have hset := (hres.rowSet hrow).update (fun w => { w with signedTxBytes := txBytes })
    have hfree : ((s₁.updateWithdrawalSignedTx id txBytes).2.updateWithdrawalState id .signed
        "" "" "").2.freeNonces = s₁.freeNonces :=
      freeNonces_congr (by simp [Store.updateWithdrawalSignedTx])
    refine (hset.state .signed "" "" "").exclusive_take hx htake ?_ ?_
    · exact hfree.subset.trans (Store.freeNonces_subset hres.pendingNonce_le)
    · exact hdisj.mono_right hfree.subset
  | @rejected id wr w hrow hsigned hw =>
    have hset := (RowSet.refl hrow).released w (noncePtr wr) wr.reservedOutpoints
    refine (hset.state _ _ _ _).exclusive_drop hx rfl ?_
    rw [freeNonces_congr (updateWithdrawalState_nonces _ _ _ _ _ _)]
    refine (released_freeNonces _ _ _ _).trans (Set.union_subset_union_right _ ?_)
    rintro r ⟨hn, hevm, -, rfl⟩
    rw [Store.held_of_row hrow, hkeyed _ _ hw, hsigned]
    exact ⟨rfl, (mem_ownedNonces hw).mpr ⟨hevm, rfl, noncePtr_nonneg hn⟩⟩
  | @accepted id wr w txHash hrow hsigned hw =>
    have hset := (RowSet.refl hrow).committed wr w txHash
    refine (hset.state _ _ _ _).exclusive_keep hx hrow (fun _ => by rw [hsigned]; rfl) rfl ?_
    rw [freeNonces_congr (updateWithdrawalState_nonces _ _ _ _ _ _)]
    exact Store.freeNonces_subset (fun k => (committed_pendingNonce s wr w txHash k).ge)
  | confirmed hrow hbroadcast =>
    refine ((RowSet.refl hrow).state _ _ _ _).exclusive_keep hx hrow
      (fun _ => by rw [hbroadcast]; rfl) rfl ?_
    exact (freeNonces_congr (by simp)).subset
  | @failed id wr w reason hrow hw =>
    have hset := (RowSet.refl hrow).released w (noncePtr wr) []
    have hfree := released_freeNonces s w (noncePtr wr) []
    rw [← freeNonces_congr (updateWithdrawalState_nonces _ id .failed reason "" "")] at hfree
    refine (hset.state _ _ _ _).exclusive_give hx rfl hfree ?_
    intro j hj
    rw [Set.disjoint_left]
    rintro r hheld ⟨hn, hevm, hpending, rfl⟩
    rw [hkeyed _ _ hw] at hheld hpending
    exact hfail id reason rfl wr w _ hrow hw hevm (noncePtr_nonneg hn) hpending j hj hheld
  | restored => exact exclusive_congr hx rfl (freeNonces_congr rfl).subset
  | demoted hrow hconfirmed =>
    refine (((RowSet.refl hrow).restored _).state _ _ _ _).exclusive_keep hx hrow
      (fun _ => by rw [hconfirmed]; rfl) rfl ?_
    exact (freeNonces_congr (by simp)).subset

end Step

section Runs

variable {s s' : Store} {obs : List Obs} {op : Op}

structure SagaInv (s : Store) : Prop where
  keyed : KeyedWallets s
  counters : Counters s
  rows : SoundRows s
  nonces : Exclusive s.heldNonces s.freeNonces
  outpoints : Exclusive s.heldOutpoints s.freeOutpoints

lemma initial_keyed (wallets : List Wallet) (utxos : List UTXO) :
    KeyedWallets (Store.initial wallets utxos) := by
  intro id w hw
  exact (initial_wallets hw).2

lemma initial_soundRows (wallets : List Wallet) (utxos : List UTXO) :
    SoundRows (Store.initial wallets utxos) := by
  intro id wr hwr
  cases hwr

lemma initial_held {ρ : Type} (live : WithdrawalState → Bool) (owned : WithdrawalRequest → Set ρ)
    (wallets : List Wallet) (utxos : List UTXO) (id : UUID) :
    (Store.initial wallets utxos).held live owned id = ∅ := by
  apply Set.eq_empty_of_forall_notMem
  rintro r ⟨wr, hwr, -⟩
  cases hwr

lemma initial_exclusive {ρ : Type} (live : WithdrawalState → Bool)
    (owned : WithdrawalRequest → Set ρ) (wallets : List Wallet) (utxos : List UTXO) (free : Set ρ) :
    Exclusive ((Store.initial wallets utxos).held live owned) free := by
  constructor
  · intro i j _
    rw [initial_held]
    exact Set.empty_disjoint _
  · intro i
    rw [initial_held]
    exact Set.empty_disjoint _

lemma SagaInv.initial (wallets : List Wallet) (utxos : List UTXO) :
    SagaInv (Store.initial wallets utxos) where
  keyed := initial_keyed wallets utxos
  counters := ⟨fun _ => rfl, fun _ => le_rfl⟩
  rows := initial_soundRows wallets utxos
  nonces := initial_exclusive _ _ _ _ _
  outpoints := initial_exclusive _ _ _ _ _

def NoReorg (_ : Store) : Op → Prop
  | .onReorg _ _ => False
  | _ => True

/-- The saga's operations without reorg callbacks, where each `Fail` call releases no nonce
of another live withdrawal. -/
def OwnFails (s : Store) : Op → Prop
  | .fail id _ => ReleasesOwn s id
  | .onReorg _ _ => False
  | _ => True

theorem SagaInv.step (h : Outcome s op obs s') (hok : OwnFails s op) (hi : SagaInv s) :
    SagaInv s' where
  keyed := by
    intro id w hw
    rw [h.wallets] at hw
    exact hi.keyed id w hw
  counters := h.counters hi.counters
  rows := h.soundRows hi.rows
  nonces := by
    refine nonces_step h hi.keyed hi.counters ?_ hi.nonces
    rintro id reason rfl
    exact hok
  outpoints := by
    refine outpoints_step liveness_isLive h ?_ hi.rows hi.outpoints
    rintro id ops rfl
    exact hok

variable {svc : Service} {wallets : List Wallet} {utxos : List UTXO}
  {log : List (Entry Op Call Answer (Except Error Unit))}

theorem sagaInv_runs (h : Runs (Op.proc svc) (memStep svc.lib) OwnFails
    (Store.initial wallets utxos) log s) : SagaInv s := by
  refine Runs.invariant (I := fun _ s => SagaInv s) (SagaInv.initial wallets utxos) ?_ h
  intro log s op tr a s' hi hok he
  exact SagaInv.step (op_outcome op tr a s' he) hok hi

theorem live_nonces_distinct (h : Runs (Op.proc svc) (memStep svc.lib) OwnFails
      (Store.initial wallets utxos) log s)
    {i j : UUID} (hij : i ≠ j) {a b : WithdrawalRequest} {w : Wallet}
    (ha : s.withdrawals.lookup i = some a) (hb : s.withdrawals.lookup j = some b)
    (hab : a.walletID = b.walletID) (hw : s.wallets.lookup a.walletID = some w)
    (hevm : w.chain.isEVM) (hlivea : a.state.isLive) (hliveb : b.state.isLive) :
    a.nonceValue ≠ b.nonceValue := by
  have hi := sagaInv_runs h
  obtain ⟨n, hn⟩ := (hi.rows i a ha).numbered w hw hevm hlivea
  intro heq
  have hmema : (nonceKey a.walletID w.chain.string, n) ∈ s.heldNonces i :=
    ⟨a, ha, hlivea, (mem_ownedNonces hw).mpr ⟨hevm, rfl, hn⟩⟩
  have hmemb : (nonceKey a.walletID w.chain.string, n) ∈ s.heldNonces j := by
    refine ⟨b, hb, hliveb, (mem_ownedNonces (hab ▸ hw)).mpr ⟨hevm, ?_, heq ▸ hn⟩⟩
    rw [hab]
  exact Set.disjoint_left.mp (hi.nonces.disjoint i j hij) hmema hmemb

lemma releasesOwn_of_rows {id : UUID}
    (h : ∀ e ∈ s.withdrawals.entries, e.1 ≠ id → e.2.state.isLive = true →
      some e.2.nonceValue ≠ (s.withdrawals.lookup id).map (·.nonceValue)) : ReleasesOwn s id := by
  rintro wr w n hrow - - hn - j hj ⟨wr', hrow', hlive, -, -, -, -, hn'⟩
  exact h ⟨j, wr'⟩ (AList.mem_lookup_iff.mp hrow') hj hlive (by simp [hrow, hn, hn'])

/-- The nonce that the call to `Fail` gives back is reserved again. -/
def pairRun := referenceRun agree (Store.initial [evmWallet] [])
  [.create (UUID.ofByte 10) (evmTransfer "1"), .constructAndSign (UUID.ofByte 10),
    .create (UUID.ofByte 11) (evmTransfer "2"), .constructAndSign (UUID.ofByte 11),
    .fail (UUID.ofByte 11) "cancelled",
    .create (UUID.ofByte 12) (evmTransfer "3"), .constructAndSign (UUID.ofByte 12)]

theorem live_nonces_distinct_pair :
    ∃ a b, Runs (Op.proc referenceService) (memStep referenceService.lib) OwnFails
        (Store.initial [evmWallet] []) pairRun.1 pairRun.2 ∧
      pairRun.2.withdrawals.lookup (UUID.ofByte 10) = some a ∧
      pairRun.2.withdrawals.lookup (UUID.ofByte 12) = some b ∧
      a.state.isLive ∧ b.state.isLive ∧ a.nonceValue ≠ b.nonceValue := by
  have hrun : Runs (Op.proc referenceService) (memStep referenceService.lib) OwnFails
      (Store.initial [evmWallet] []) pairRun.1 pairRun.2 := by
    apply runs_runAll_of (answering_memStep agree)
    intro i hi
    match i with
    | 0 | 1 | 2 | 3 | 5 | 6 => trivial
    | 4 => exact releasesOwn_of_rows (by decide +kernel)
  obtain ⟨hw, hclaima, hclaimb⟩ : pairRun.2.wallets.lookup evmWallet.id = some evmWallet ∧
      claimOf pairRun.2 (UUID.ofByte 10) = some (evmWallet.id, .signed, some 0, []) ∧
      claimOf pairRun.2 (UUID.ofByte 12) = some (evmWallet.id, .signed, some 1, []) := by
    decide +kernel
  obtain ⟨a, ha, hwa, hsa, -⟩ := claimOf_eq hclaima
  obtain ⟨b, hb, hwb, hsb, -⟩ := claimOf_eq hclaimb
  have hla : a.state.isLive := by rw [hsa]; rfl
  have hlb : b.state.isLive := by rw [hsb]; rfl
  refine ⟨a, b, hrun, ha, hb, hla, hlb, ?_⟩
  exact live_nonces_distinct hrun (by decide) ha hb (hwa.trans hwb.symm) (hwa ▸ hw) rfl hla hlb

def failTwiceRun := referenceRun agree (Store.initial [evmWallet] [])
  [.create (UUID.ofByte 10) (evmTransfer "1"), .constructAndSign (UUID.ofByte 10),
    .fail (UUID.ofByte 10) "cancelled",
    .create (UUID.ofByte 11) (evmTransfer "1"), .constructAndSign (UUID.ofByte 11),
    .fail (UUID.ofByte 10) "cancelled",
    .create (UUID.ofByte 12) (evmTransfer "2"), .constructAndSign (UUID.ofByte 12)]

theorem fail_twice_reissues_nonce :
    ∃ a b, Runs (Op.proc referenceService) (memStep referenceService.lib) NoReorg
        (Store.initial [evmWallet] []) failTwiceRun.1 failTwiceRun.2 ∧
      failTwiceRun.2.withdrawals.lookup (UUID.ofByte 11) = some a ∧
      failTwiceRun.2.withdrawals.lookup (UUID.ofByte 12) = some b ∧
      a.walletID = evmWallet.id ∧ b.walletID = evmWallet.id ∧
      a.state = .signed ∧ b.state = .signed ∧ a.nonceValue = some 0 ∧ b.nonceValue = some 0 := by
  obtain ⟨hclaima, hclaimb⟩ :
      claimOf failTwiceRun.2 (UUID.ofByte 11) = some (evmWallet.id, .signed, some 0, []) ∧
      claimOf failTwiceRun.2 (UUID.ofByte 12) = some (evmWallet.id, .signed, some 0, []) := by
    decide +kernel
  obtain ⟨a, ha, hwa, hsa, hna, -⟩ := claimOf_eq hclaima
  obtain ⟨b, hb, hwb, hsb, hnb, -⟩ := claimOf_eq hclaimb
  exact ⟨a, b, referenceRun_runs agree NoReorg _ _ (by simp [NoReorg]), ha, hb, hwa, hwb, hsa, hsb,
    hna, hnb⟩

end Runs

end WalletManager.Proofs
