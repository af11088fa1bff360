import WalletManager.Proofs.Keys
import WalletManager.Proofs.Views

/-!
# Reservations along runs of the saga

What an outcome does to the rows, to the nonces and to the outputs. The outputs of live
withdrawals stay exclusively reserved under every operation except reorg callbacks, and
the nonces do unless a `Fail` call releases a nonce of another withdrawal.
-/

namespace WalletManager.Proofs

open Interaction Reservation

structure RowSet (s s' : Store) (id : UUID) (wr : WithdrawalRequest) : Prop where
  others : ∀ j, j ≠ id → s'.withdrawals.lookup j = s.withdrawals.lookup j
  row : s'.withdrawals.lookup id = some wr

section Rows

variable {s s₁ s' : Store} {id : UUID} {wr wr₁ : WithdrawalRequest} {w : Wallet} {n : Int}
  {ops : List String} {obs : List Obs} {op : Op}

lemma RowSet.refl (hrow : s.withdrawals.lookup id = some wr) : RowSet s s id wr :=
  ⟨fun _ _ => rfl, hrow⟩

lemma RowSet.lookup_cases (h : RowSet s s' id wr) {j : UUID} {b : WithdrawalRequest}
    (hb : s'.withdrawals.lookup j = some b) :
    j = id ∧ b = wr ∨ j ≠ id ∧ s.withdrawals.lookup j = some b := by
  by_cases hj : j = id
  · rw [hj, h.row] at hb
    exact .inl ⟨hj, (Option.some.inj hb).symm⟩
  · rw [h.others j hj] at hb
    exact .inr ⟨hj, hb⟩

lemma RowSet.congr (h : RowSet s s₁ id wr) (hrows : s'.withdrawals = s₁.withdrawals) :
    RowSet s s' id wr := by
  constructor
  · intro j hj
    rw [hrows, h.others j hj]
  · rw [hrows, h.row]

lemma RowSet.update (h : RowSet s s₁ id wr) (f : WithdrawalRequest → WithdrawalRequest) :
    RowSet s (s₁.updateWithdrawal id f).2 id (f wr) := by
  constructor
  · intro j hj
    rw [updateWithdrawal_lookup h.row, if_neg hj, h.others j hj]
  · rw [updateWithdrawal_lookup h.row, if_pos rfl]

lemma RowSet.state (h : RowSet s s₁ id wr) (state : WithdrawalState)
    (reason txHash decisionID : String) :
    RowSet s (s₁.updateWithdrawalState id state reason txHash decisionID).2 id
      (Store.rowWithState wr state reason txHash decisionID) := by
  constructor
  · intro j hj
    rw [updateWithdrawalState_lookup h.row, if_neg hj, h.others j hj]
  · rw [updateWithdrawalState_lookup h.row, if_pos rfl]

lemma RowSet.released (h : RowSet s s₁ id wr) (w : Wallet) (n : Int) (ops : List String) :
    RowSet s (released s₁ w n ops) id wr :=
  h.congr (released_withdrawals s₁ w n ops)

lemma RowSet.committed (h : RowSet s s₁ id wr) (wr₀ : WithdrawalRequest) (w : Wallet)
    (txHash : String) : RowSet s (committed s₁ wr₀ w txHash) id wr :=
  h.congr (committed_withdrawals s₁ wr₀ w txHash)

lemma RowSet.restored (h : RowSet s s₁ id wr) (ops : List String) :
    RowSet s (s₁.restoreUTXOs ops).2 id wr :=
  h.congr rfl

lemma created_absent {req : CreateRequest} (h : (s.createWithdrawal (req.row id)).1 = .ok ()) :
    s.withdrawals.lookup id = none := by
  rcases createWithdrawal_cases s (req.row id) with ⟨err, herr⟩ | ⟨-, hnone, -⟩
  · rw [herr] at h
    cases h
  · exact hnone

lemma created_rowSet {req : CreateRequest} (h : (s.createWithdrawal (req.row id)).1 = .ok ()) :
    RowSet s (s.createWithdrawal (req.row id)).2 id (req.row id) := by
  rcases createWithdrawal_cases s (req.row id) with ⟨err, herr⟩ | ⟨-, -, hrows⟩
  · rw [herr] at h
    cases h
  · constructor
    · intro j hj
      rw [hrows]
      exact AList.lookup_insert_ne hj
    · rw [hrows]
      exact AList.lookup_insert _

lemma Reserved.rowSet (h : Reserved s id wr w n ops wr₁ obs s₁)
    (hrow : s.withdrawals.lookup id = some wr) : RowSet s s₁ id wr₁ := by
  cases h with
  | evm =>
    have hset : RowSet s (s.incrementPendingNonce wr.walletID w.chain.string).2 id wr :=
      (RowSet.refl hrow).congr rfl
    exact hset.update _
  | bitcoin =>
    have hset : RowSet s (s.lockUTXOs ops).2 id wr :=
      (RowSet.refl hrow).congr (lockUTXOs_withdrawals _ _)
    exact hset.update _
  | plain => exact RowSet.refl hrow

lemma Reserved.wallets (h : Reserved s id wr w n ops wr₁ obs s₁) : s₁.wallets = s.wallets := by
  cases h with
  | evm => simp [Store.updateWithdrawalNonce]
  | bitcoin => simp [Store.updateWithdrawalOutpoints]
  | plain => rfl

lemma Reserved.fields (h : Reserved s id wr w n ops wr₁ obs s₁) :
    wr₁.state = wr.state ∧ wr₁.walletID = wr.walletID := by
  cases h <;> exact ⟨rfl, rfl⟩

lemma Outcome.wallets (h : Outcome s op obs s') : s'.wallets = s.wallets := by
  cases h with
  | dropped hrow hwl hw hres => simp [hres.wallets]
  | unsigned hrow hwl hw hres => simp [hres.wallets]
  | signed hrow hwl hw hres => simp [hres.wallets, Store.updateWithdrawalSignedTx]
  | _ => simp

lemma Reserved.pendingNonce_le (h : Reserved s id wr w n ops wr₁ obs s₁) (k : String) :
    s.pendingNonce k ≤ s₁.pendingNonce k := by
  cases h with
  | evm hevm hn =>
    rw [Store.updateWithdrawalNonce, pendingNonce_congr (updateWithdrawal_nonces _ _ _),
      incrementPendingNonce_pendingNonce]
    split <;> omega
  | bitcoin =>
    rw [Store.updateWithdrawalOutpoints, pendingNonce_congr (updateWithdrawal_nonces _ _ _),
      pendingNonce_congr (lockUTXOs_nonces _ _)]
  | plain => rfl

lemma Reserved.released_pendingNonce_le (h : Reserved s id wr w n ops wr₁ obs s₁)
    (hw : w.id = wr.walletID) (k : String) :
    s.pendingNonce k ≤ (released s₁ w n ops).pendingNonce k := by
  have hle := h.pendingNonce_le k
  rw [released_pendingNonce]
  split
  · rename_i hrel
    cases h with
    | evm hevm hn => rw [hn, hrel.2.2.1, hw]
    | bitcoin => omega
    | plain => omega
  · exact hle

lemma Reserved.freeOutpoints_subset (h : Reserved s id wr w n ops wr₁ obs s₁) :
    s₁.freeOutpoints ⊆ s.freeOutpoints := by
  cases h with
  | evm => exact (freeOutpoints_congr (by simp [Store.updateWithdrawalNonce])).subset
  | bitcoin hbtc hfree =>
    rw [Store.updateWithdrawalOutpoints, freeOutpoints_congr (updateWithdrawal_utxos _ _ _)]
    exact (lockUTXOs_freeOutpoints hfree).1
  | plain => rfl

lemma Reserved.released_freeOutpoints_subset (h : Reserved s id wr w n ops wr₁ obs s₁) :
    (released s₁ w n ops).freeOutpoints ⊆ s.freeOutpoints := by
  refine (released_freeOutpoints s₁ w n ops).trans ?_
  apply Set.union_subset h.freeOutpoints_subset
  cases h with
  | evm => simp
  | bitcoin hbtc hfree => exact checkFree_ok hfree
  | plain => simp

end Rows

section Exclusive

variable {ρ : Type} {live : WithdrawalState → Bool} {owned : WithdrawalRequest → Set ρ}
  {s s' : Store} {id : UUID} {free free' : Set ρ}

lemma RowSet.exclusive_drop {wr' : WithdrawalRequest} (hset : RowSet s s' id wr')
    (h : Exclusive (s.held live owned) free) (hidle : live wr'.state = false)
    (hfree : free' ⊆ free ∪ s.held live owned id) : Exclusive (s'.held live owned) free' := by
  have hempty : s'.held live owned id = ∅ := by
    rw [Store.held_of_row hset.row, hidle]
    simp
  refine h.trade id (fun j hj => (Store.held_congr (hset.others j hj)).subset) ?_ hfree ?_
  · rw [hempty]
    exact Set.empty_subset _
  · rw [hempty]
    exact Set.empty_disjoint _

lemma RowSet.exclusive_give {wr' : WithdrawalRequest} (hset : RowSet s s' id wr')
    (h : Exclusive (s.held live owned) free) (hidle : live wr'.state = false) {given : Set ρ}
    (hfree : free' ⊆ free ∪ given) (hgiven : ∀ j, j ≠ id → Disjoint (s.held live owned j) given) :
    Exclusive (s'.held live owned) free' := by
  have hempty : s'.held live owned id = ∅ := by
    rw [Store.held_of_row hset.row, hidle]
    simp
  have hsub : ∀ j, s'.held live owned j ⊆ s.held live owned j := by
    intro j
    by_cases hj : j = id
    · rw [hj, hempty]
      exact Set.empty_subset _
    · exact (Store.held_congr (hset.others j hj)).subset
  refine h.give hsub hfree ?_
  intro j
  by_cases hj : j = id
  · rw [hj, hempty]
    exact Set.empty_disjoint _
  · exact (hgiven j hj).mono_left (hsub j)

lemma RowSet.exclusive_keep {wr wr' : WithdrawalRequest} (hset : RowSet s s' id wr')
    (h : Exclusive (s.held live owned) free) (hrow : s.withdrawals.lookup id = some wr)
    (hlive : live wr'.state → live wr.state) (howned : owned wr' = owned wr) (hfree : free' ⊆ free) :
    Exclusive (s'.held live owned) free' := by
  have hkeep : s'.held live owned id ⊆ s.held live owned id := by
    rw [Store.held_of_row hrow, Store.held_of_row hset.row, howned]
    exact fun r hr => ⟨hlive hr.1, hr.2⟩
  refine h.trade id (fun j hj => (Store.held_congr (hset.others j hj)).subset) ?_ ?_ ?_
  · exact hkeep.trans Set.subset_union_left
  · exact hfree.trans Set.subset_union_left
  · exact (h.notFree id).mono hkeep hfree

lemma RowSet.exclusive_take {wr' : WithdrawalRequest} (hset : RowSet s s' id wr')
    (h : Exclusive (s.held live owned) free) (htake : owned wr' ⊆ free) (hfree : free' ⊆ free)
    (hdisj : Disjoint (owned wr') free') : Exclusive (s'.held live owned) free' := by
  have hheld : s'.held live owned id ⊆ owned wr' := by
    rw [Store.held_of_row hset.row]
    exact fun r hr => hr.2
  refine h.trade id (fun j hj => (Store.held_congr (hset.others j hj)).subset) ?_ ?_ (hdisj.mono_left hheld)
  · exact (hheld.trans htake).trans Set.subset_union_right
  · exact hfree.trans Set.subset_union_left

lemma exclusive_congr (h : Exclusive (s.held live owned) free)
    (hrows : s'.withdrawals = s.withdrawals) (hfree : free' ⊆ free) :
    Exclusive (s'.held live owned) free' := by
  have hheld : ∀ j, s'.held live owned j = s.held live owned j :=
    fun j => Store.held_congr (by rw [hrows])
  refine h.give (fun j => (hheld j).subset) ?_ (fun j => Set.disjoint_empty _)
  exact hfree.trans Set.subset_union_left

end Exclusive

/-- The sets of states that the reservation argument works for: a withdrawal enters them by
being signed and leaves them by failing. -/
structure Liveness (live : WithdrawalState → Bool) : Prop where
  pending : live .pending = false
  whitelisted : live .whitelisted = false
  failed : live .failed = false
  signed : live .signed = true
  confirmed : live .confirmed → live .broadcast

lemma liveness_isLive : Liveness WithdrawalState.isLive := ⟨rfl, rfl, rfl, rfl, id⟩

lemma liveness_isInFlight : Liveness WithdrawalState.isInFlight :=
  ⟨rfl, rfl, rfl, rfl, fun h => nomatch h⟩

section SoundRows

variable {s s₁ s' : Store} {id : UUID} {wr wr₁ : WithdrawalRequest} {w : Wallet} {n : Int}
  {ops : List String} {obs : List Obs} {op : Op} {wallets : Table UUID Wallet}

/-- Only rows of Bitcoin wallets have outpoints, and live rows of EVM wallets have a nonce. -/
structure SoundRow (wallets : Table UUID Wallet) (wr : WithdrawalRequest) : Prop where
  plain : ∀ w, wallets.lookup wr.walletID = some w → w.chain ≠ .bitcoin → wr.reservedOutpoints = []
  numbered : ∀ w, wallets.lookup wr.walletID = some w → w.chain.isEVM → wr.state.isLive →
    ∃ n, wr.nonceValue = some n

def SoundRows (s : Store) : Prop :=
  ∀ id wr, s.withdrawals.lookup id = some wr → SoundRow s.wallets wr

lemma SoundRow.state (h : SoundRow wallets wr) {state : WithdrawalState}
    (hlive : state.isLive → wr.state.isLive) (reason txHash decisionID : String) :
    SoundRow wallets (Store.rowWithState wr state reason txHash decisionID) :=
  ⟨h.plain, fun w hw hevm hst => h.numbered w hw hevm (hlive hst)⟩

lemma SoundRow.fail (h : SoundRow wallets wr) (reason txHash decisionID : String) :
    SoundRow wallets (Store.rowWithState wr .failed reason txHash decisionID) :=
  h.state (by intro hlive; cases hlive) _ _ _

lemma isEVM_ne_bitcoin {c : Chain} (hevm : c.isEVM) : c ≠ .bitcoin := by
  rintro rfl
  cases hevm

lemma Reserved.soundRow (h : Reserved s id wr w n ops wr₁ obs s₁)
    (hw : wallets.lookup wr.walletID = some w) (hrow : SoundRow wallets wr) : SoundRow wallets wr₁ := by
  cases h with
  | evm hevm hn => exact ⟨hrow.plain, fun _ _ _ _ => ⟨n, rfl⟩⟩
  | bitcoin hbtc hfree =>
    refine ⟨?_, hrow.numbered⟩
    intro w' hw' hne
    rw [hw] at hw'
    cases hw'
    exact absurd hbtc hne
  | plain => exact hrow

lemma Reserved.soundRow_signed (h : Reserved s id wr w n ops wr₁ obs s₁)
    (hw : wallets.lookup wr.walletID = some w) (hrow : SoundRow wallets wr) (txBytes : Bytes) :
    SoundRow wallets (Store.rowWithState { wr₁ with signedTxBytes := txBytes } .signed "" "" "") := by
  refine ⟨(h.soundRow hw hrow).plain, ?_⟩
  intro w' hw' hevm' _
  have hww : some w' = some w := by
    rw [← hw, ← h.fields.2]
    exact hw'.symm
  cases hww
  cases h with
  | evm => exact ⟨n, rfl⟩
  | bitcoin hbtc => exact absurd hbtc (isEVM_ne_bitcoin hevm')
  | plain hevm =>
    rw [hevm] at hevm'
    cases hevm'

lemma RowSet.soundRows (h : RowSet s s' id wr) (hwallets : s'.wallets = s.wallets)
    (hrows : SoundRows s) (hrow : SoundRow s.wallets wr) : SoundRows s' := by
  intro j wr' hj
  rw [hwallets]
  rcases h.lookup_cases hj with ⟨-, rfl⟩ | ⟨-, hold⟩
  · exact hrow
  · exact hrows j wr' hold

lemma soundRows_congr (hrows : SoundRows s) (hwallets : s'.wallets = s.wallets)
    (hsame : s'.withdrawals = s.withdrawals) : SoundRows s' := by
  intro j wr hj
  rw [hwallets]
  rw [hsame] at hj
  exact hrows j wr hj

theorem Outcome.soundRows (h : Outcome s op obs s') (hrows : SoundRows s) : SoundRows s' := by
  have hwallets := h.wallets
  cases h with
  | refused => exact hrows
  | created hok hstate =>
    refine ((created_rowSet hok).state _ _ _ _).soundRows hwallets hrows ?_
    refine ⟨fun _ _ _ => rfl, ?_⟩
    intro w hw hevm hlive
    rcases hstate with rfl | rfl <;> cases hlive
  | unfunded => exact soundRows_congr hrows hwallets (by simp)
  | dropped hrow hwl hw hres =>
    exact ((hres.rowSet hrow).released _ _ _).soundRows hwallets hrows
      (hres.soundRow hw (hrows _ _ hrow))
  | unsigned hrow hwl hw hres =>
    exact (((hres.rowSet hrow).released _ _ _).state _ _ _ _).soundRows hwallets hrows
      ((hres.soundRow hw (hrows _ _ hrow)).fail _ _ _)
  | signed hrow hwl hw hres =>
    exact (((hres.rowSet hrow).update _).state _ _ _ _).soundRows hwallets hrows
      (hres.soundRow_signed hw (hrows _ _ hrow) _)
  | rejected hrow | failed hrow =>
    exact (((RowSet.refl hrow).released _ _ _).state _ _ _ _).soundRows hwallets hrows
      ((hrows _ _ hrow).fail _ _ _)
  | accepted hrow hsigned =>
    exact (((RowSet.refl hrow).committed _ _ _).state _ _ _ _).soundRows hwallets hrows
      ((hrows _ _ hrow).state (fun _ => by rw [hsigned]; rfl) _ _ _)
  | confirmed hrow hbroadcast =>
    exact ((RowSet.refl hrow).state _ _ _ _).soundRows hwallets hrows
      ((hrows _ _ hrow).state (fun _ => by rw [hbroadcast]; rfl) _ _ _)
  | restored => exact soundRows_congr hrows hwallets rfl
  | demoted hrow hconfirmed =>
    exact (((RowSet.refl hrow).restored _).state _ _ _ _).soundRows hwallets hrows
      ((hrows _ _ hrow).state (fun _ => by rw [hconfirmed]; rfl) _ _ _)

end SoundRows

section Outpoints

variable {s s₁ s' : Store} {id : UUID} {wr wr₁ : WithdrawalRequest} {w : Wallet} {n : Int}
  {ops : List String} {obs : List Obs} {op : Op} {live : WithdrawalState → Bool}

lemma Reserved.ownedOutpoints (h : Reserved s id wr w n ops wr₁ obs s₁)
    (hplain : w.chain ≠ .bitcoin → wr.reservedOutpoints = []) :
    ownedOutpoints wr₁ ⊆ s.freeOutpoints ∧ Disjoint (ownedOutpoints wr₁) s₁.freeOutpoints := by
  have hnone : w.chain ≠ .bitcoin → WalletManager.ownedOutpoints wr = ∅ := by
    intro hbtc
    simp [WalletManager.ownedOutpoints, hplain hbtc]
  cases h with
  | evm hevm hn =>
    have hbtc : w.chain ≠ .bitcoin := by
      intro hbtc
      rw [hbtc] at hevm
      cases hevm
    rw [show WalletManager.ownedOutpoints { wr with nonceValue := some n } = ∅ from hnone hbtc]
    exact ⟨Set.empty_subset _, Set.empty_disjoint _⟩
  | bitcoin hbtc hfree =>
    refine ⟨checkFree_ok hfree, ?_⟩
    rw [Store.updateWithdrawalOutpoints, freeOutpoints_congr (updateWithdrawal_utxos _ _ _)]
    exact (lockUTXOs_freeOutpoints hfree).2
  | plain hevm hbtc =>
    rw [hnone hbtc]
    exact ⟨Set.empty_subset _, Set.empty_disjoint _⟩

/-- Except for reorg callbacks, every operation keeps the outputs of live withdrawals
exclusively reserved. -/
theorem outpoints_step (hl : Liveness live) (h : Outcome s op obs s')
    (hop : ∀ id ops, op ≠ .onReorg id ops) (hrows : SoundRows s)
    (hx : Exclusive (s.held live ownedOutpoints) s.freeOutpoints) :
    Exclusive (s'.held live ownedOutpoints) s'.freeOutpoints := by
  cases h with
  | refused => exact hx
  | created hok hstate =>
    refine ((created_rowSet hok).state _ _ _ _).exclusive_drop hx ?_ ?_
    · rcases hstate with rfl | rfl
      · exact hl.whitelisted
      · exact hl.failed
    · exact (freeOutpoints_congr (by simp)).subset.trans Set.subset_union_left
  | unfunded => exact exclusive_congr hx (by simp) (freeOutpoints_congr (by simp)).subset
  | @dropped id wr w n ops wr₁ obs s₁ hrow hwl hw hres =>
    refine ((hres.rowSet hrow).released w n ops).exclusive_drop hx ?_ ?_
    · rw [hres.fields.1, hwl]
      exact hl.whitelisted
    · exact hres.released_freeOutpoints_subset.trans Set.subset_union_left
  | @unsigned id wr w n ops wr₁ obs s₁ reason hrow hwl hw hres =>
    have hset := (hres.rowSet hrow).released w n ops
    refine (hset.state _ _ _ _).exclusive_drop hx hl.failed ?_
    rw [freeOutpoints_congr (updateWithdrawalState_utxos _ _ _ _ _ _)]
    exact hres.released_freeOutpoints_subset.trans Set.subset_union_left
  | @signed id wr w n ops wr₁ obs s₁ txBytes hrow hwl hw hres =>
    obtain ⟨htake, hdisj⟩ := hres.ownedOutpoints ((hrows _ _ hrow).plain w hw)
    have hset := (hres.rowSet hrow).update (fun w => { w with signedTxBytes := txBytes })
    have hfree : ((s₁.updateWithdrawalSignedTx id txBytes).2.updateWithdrawalState id .signed
        "" "" "").2.freeOutpoints = s₁.freeOutpoints :=
      freeOutpoints_congr (by simp [Store.updateWithdrawalSignedTx])
    refine (hset.state .signed "" "" "").exclusive_take hx htake ?_ ?_
    · exact hfree.subset.trans hres.freeOutpoints_subset
    · exact hdisj.mono_right hfree.subset
  | @rejected id wr w hrow hsigned hw =>
    have hset := (RowSet.refl hrow).released w (noncePtr wr) wr.reservedOutpoints
    refine (hset.state _ _ _ _).exclusive_drop hx hl.failed ?_
    rw [freeOutpoints_congr (updateWithdrawalState_utxos _ _ _ _ _ _)]
    refine (released_freeOutpoints _ _ _ _).trans (Set.union_subset_union_right _ ?_)
    rw [Store.held_of_row hrow, hsigned]
    exact fun op hmem => ⟨hl.signed, hmem⟩
  | @accepted id wr w txHash hrow hsigned hw =>
    have hset := (RowSet.refl hrow).committed wr w txHash
    refine (hset.state _ _ _ _).exclusive_keep hx hrow ?_ rfl ?_
    · intro _
      rw [hsigned]
      exact hl.signed
    · rw [freeOutpoints_congr (updateWithdrawalState_utxos _ _ _ _ _ _)]
      exact committed_freeOutpoints _ _ _ _
  | confirmed hrow hbroadcast =>
    refine ((RowSet.refl hrow).state _ _ _ _).exclusive_keep hx hrow ?_ rfl ?_
    · intro hlive
      rw [hbroadcast]
      exact hl.confirmed hlive
    · rw [freeOutpoints_congr (updateWithdrawalState_utxos _ _ _ _ _ _)]
  | @failed id wr w reason hrow hw =>
    have hset := (RowSet.refl hrow).released w (noncePtr wr) []
    refine (hset.state _ _ _ _).exclusive_drop hx hl.failed ?_
    rw [freeOutpoints_congr (updateWithdrawalState_utxos _ _ _ _ _ _)]
    refine (released_freeOutpoints _ _ _ _).trans (Set.union_subset_union_right _ ?_)
    simp
  | restored => exact absurd rfl (hop _ _)
  | demoted => exact absurd rfl (hop _ _)

end Outpoints

section Nonces

variable {s s₁ s' : Store} {id : UUID} {wr wr₁ : WithdrawalRequest} {w : Wallet} {n : Int}
  {ops : List String} {obs : List Obs} {op : Op}

def Nonnegative (s : Store) : Prop := ∀ k, 0 ≤ s.pendingNonce k

lemma Nonnegative.congr (h : Nonnegative s) (hs : s'.nonces = s.nonces) : Nonnegative s' := by
  intro k
  rw [pendingNonce_congr hs]
  exact h k

lemma Nonnegative.increment (h : Nonnegative s) (walletID : UUID) (chain : String) :
    Nonnegative (s.incrementPendingNonce walletID chain).2 := by
  intro k
  have hk := h k
  rw [incrementPendingNonce_pendingNonce]
  split <;> omega

lemma Nonnegative.advance (h : Nonnegative s) (walletID : UUID) (chain : String) (n : Int) :
    Nonnegative (s.advanceBroadcastNonce walletID chain n).2 := by
  intro k
  rw [advanceBroadcastNonce_pendingNonce]
  exact h k

lemma Nonnegative.rollback (h : Nonnegative s) (walletID : UUID) (chain : String) (hn : 0 ≤ n) :
    Nonnegative (s.rollbackPendingNonce walletID chain n).2 := by
  intro k
  have hk := h k
  rw [rollbackPendingNonce_pendingNonce _ _ _ _ _ hn]
  split <;> omega

lemma restored_nonces (s : Store) (ops : List String) :
    (if ops.length > 0 then (s.restoreUTXOs ops).2 else s).nonces = s.nonces := by
  split <;> rfl

lemma Nonnegative.released (h : Nonnegative s) (w : Wallet) (n : Int) (ops : List String) :
    Nonnegative (released s w n ops) := by
  unfold Proofs.released
  apply Nonnegative.congr _ (restored_nonces _ ops)
  split
  · rename_i hn
    exact h.rollback w.id _ hn.1
  · exact h

lemma Nonnegative.committed (h : Nonnegative s) (wr : WithdrawalRequest) (w : Wallet)
    (txHash : String) : Nonnegative (committed s wr w txHash) := by
  intro k
  rw [committed_pendingNonce]
  exact h k

lemma Reserved.nonnegative (h : Reserved s id wr w n ops wr₁ obs s₁) (hs : Nonnegative s) :
    Nonnegative s₁ := by
  intro k
  exact (hs k).trans (h.pendingNonce_le k)

/-- Nonce counters exist for EVM chains only and never fall below zero. -/
structure Counters (s : Store) : Prop where
  bitcoin : ∀ walletID, s.nonces.lookup (nonceKey walletID Chain.bitcoin.string) = none
  nonneg : ∀ k, 0 ≤ s.pendingNonce k

lemma Counters.congr (h : Counters s) (hs : s'.nonces = s.nonces) : Counters s' := by
  refine ⟨?_, Nonnegative.congr h.nonneg hs⟩
  intro walletID
  rw [hs]
  exact h.bitcoin walletID

lemma Counters.increment (h : Counters s) (walletID : UUID) (hevm : w.chain.isEVM) :
    Counters (s.incrementPendingNonce walletID w.chain.string).2 := by
  refine ⟨?_, Nonnegative.increment h.nonneg _ _⟩
  intro walletID'
  exact (AList.lookup_insert_ne (nonceKey_bitcoin_ne hevm)).trans (h.bitcoin walletID')

lemma Counters.advance (h : Counters s) (walletID : UUID) (hevm : w.chain.isEVM) (n : Int) :
    Counters (s.advanceBroadcastNonce walletID w.chain.string n).2 := by
  refine ⟨?_, Nonnegative.advance h.nonneg _ _ _⟩
  intro walletID'
  exact (AList.lookup_insert_ne (nonceKey_bitcoin_ne hevm)).trans (h.bitcoin walletID')

lemma Counters.rollback (h : Counters s) (walletID : UUID) (hevm : w.chain.isEVM) (hn : 0 ≤ n) :
    Counters (s.rollbackPendingNonce walletID w.chain.string n).2 := by
  refine ⟨?_, Nonnegative.rollback h.nonneg _ _ hn⟩
  intro walletID'
  unfold Store.rollbackPendingNonce
  split
  · exact h.bitcoin walletID'
  · dsimp only
    split
    · exact (AList.lookup_insert_ne (nonceKey_bitcoin_ne hevm)).trans (h.bitcoin walletID')
    · exact h.bitcoin walletID'

lemma Counters.released (h : Counters s) (w : Wallet) (n : Int) (ops : List String) :
    Counters (released s w n ops) := by
  unfold Proofs.released
  apply Counters.congr _ (restored_nonces _ ops)
  split
  · rename_i hn
    exact h.rollback w.id hn.2 hn.1
  · exact h

lemma Counters.committed (h : Counters s) (wr : WithdrawalRequest) (w : Wallet) (txHash : String) :
    Counters (committed s wr w txHash) := by
  obtain ⟨s₁, hnonces, hs₁ | ⟨n, hevm, -, hs₁⟩⟩ := committed_nonces s wr w txHash
  · rw [hs₁]
    exact h.congr hnonces
  · rw [hs₁]
    exact (h.congr hnonces).advance _ hevm _

lemma Counters.unfunded (h : Counters s) (walletID : UUID) (hbtc : w.chain = .bitcoin) :
    (s.rollbackPendingNonce walletID w.chain.string (-1)).2 = s := by
  unfold Store.rollbackPendingNonce
  rw [hbtc, h.bitcoin walletID]

lemma Reserved.counters (h : Reserved s id wr w n ops wr₁ obs s₁) (hc : Counters s) : Counters s₁ := by
  cases h with
  | evm hevm hn => exact (hc.increment wr.walletID hevm).congr (updateWithdrawal_nonces _ _ _)
  | bitcoin =>
    exact (hc.congr (lockUTXOs_nonces _ _)).congr (updateWithdrawal_nonces _ _ _)
  | plain => exact hc

lemma Outcome.counters (h : Outcome s op obs s') (hc : Counters s) : Counters s' := by
  cases h with
  | refused => exact hc
  | created => exact hc.congr (by simp)
  | unfunded hbtc =>
    rw [hc.unfunded _ hbtc]
    exact hc
  | dropped hrow hwl hw hres => exact (hres.counters hc).released _ _ _
  | unsigned hrow hwl hw hres =>
    exact ((hres.counters hc).released _ _ _).congr (updateWithdrawalState_nonces _ _ _ _ _ _)
  | signed hrow hwl hw hres =>
    exact (hres.counters hc).congr (by simp [Store.updateWithdrawalSignedTx])
  | rejected | failed => exact (hc.released _ _ _).congr (updateWithdrawalState_nonces _ _ _ _ _ _)
  | accepted => exact (hc.committed _ _ _).congr (updateWithdrawalState_nonces _ _ _ _ _ _)
  | confirmed => exact hc.congr (updateWithdrawalState_nonces _ _ _ _ _ _)
  | restored => exact hc.congr rfl
  | demoted => exact hc.congr (by simp)

end Nonces

end WalletManager.Proofs
