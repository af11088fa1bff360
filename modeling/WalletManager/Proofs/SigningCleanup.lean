import WalletManager.Proofs.Locks

/-!
# A signing that fails leaves no reservation

Every error exit of `ConstructAndSign` after the reservation releases what was reserved: the
counter steps back from the nonce that it gave out, and the outputs are free again.
-/

namespace WalletManager.Proofs

open Interaction

section Release

variable {s s₁ : Store} {id : UUID} {wr wr₁ : WithdrawalRequest} {w : Wallet} {n : Int} {ops : List String}
  {obs : List Obs}

lemma Reserved.released_pendingNonce (h : Reserved s id wr w n ops wr₁ obs s₁) (hid : w.id = wr.walletID)
    (hs : Nonnegative s) (k : String) : (released s₁ w n ops).pendingNonce k = s.pendingNonce k := by
  rw [Proofs.released_pendingNonce]
  cases h with
  | evm hevm hn =>
    have hnext :
        ((s.incrementPendingNonce wr.walletID w.chain.string).2.updateWithdrawalNonce id n).2.pendingNonce k =
        if k = nonceKey wr.walletID w.chain.string then s.pendingNonce k + 1 else s.pendingNonce k := by
      rw [← incrementPendingNonce_pendingNonce]
      exact pendingNonce_congr (updateWithdrawal_nonces _ _ _) k
    rw [hnext, hid]
    by_cases hk : k = nonceKey wr.walletID w.chain.string
    · have hgiven : n = s.pendingNonce k := by rw [hn, hk]
      have hpos : 0 ≤ n := hgiven ▸ hs k
      rw [if_pos hk, if_pos ⟨hpos, hevm, hk, by rw [hgiven]⟩, hgiven]
    · rw [if_neg hk, if_neg (fun h => hk h.2.2.1)]
  | bitcoin hbtc hfree =>
    rw [if_neg (fun h => absurd h.1 (by decide))]
    exact (pendingNonce_congr (updateWithdrawal_nonces _ _ _) k).trans
      (pendingNonce_congr (lockUTXOs_nonces _ _) k)
  | plain => rw [if_neg (fun h => absurd h.1 (by decide))]

end Release

/-- An error of `ConstructAndSign` leaves the withdrawal whitelisted or failed, the counter of an EVM
wallet where it was, and every output locked, spent or free as it was. -/
theorem failed_signing_restores {svc : Service} {s s' : Store} {id : UUID} {wr : WithdrawalRequest} {tr : Trace}
    {err : Error} (hnonces : Nonnegative s) (hkeyed : KeyedWallets s)
    (hrow : s.withdrawals.lookup id = some wr) (hstate : wr.state = .whitelisted)
    (h : Exec (memStep svc.lib) (svc.constructAndSign id) s tr (.error err) s') :
    (∃ wr', s'.withdrawals.lookup id = some wr' ∧ (wr'.state = .whitelisted ∨ wr'.state = .failed)) ∧
    (∀ w, s.wallets.lookup wr.walletID = some w → w.chain.isEVM →
      s'.pendingNonce (nonceKey wr.walletID w.chain.string) =
        s.pendingNonce (nonceKey wr.walletID w.chain.string)) ∧
    ∀ op, lockOf s' op = lockOf s op := by
  rcases constructAndSign_saga id tr _ s' h with ⟨-, rfl⟩ | ⟨wr', w, hrow', -, hw, hbtc, -, -, rfl⟩ |
    ⟨wr', w, n, ops, wr₁, s₁, hrow', -, hw, hres, rfl | ⟨reason, rfl⟩ | ⟨txBytes, hok, -, -⟩⟩
  · exact ⟨⟨wr, hrow, .inl hstate⟩, fun _ _ _ => rfl, fun _ => rfl⟩
  · obtain rfl := Option.some.inj (hrow'.symm.trans hrow)
    refine ⟨⟨wr', by simpa using hrow, .inl hstate⟩, ?_, fun op => lockOf_congr (by simp) op⟩
    intro w' hw' hevm
    obtain rfl := Option.some.inj (hw'.symm.trans hw)
    exact absurd hbtc (isEVM_ne_bitcoin hevm)
  · obtain rfl := Option.some.inj (hrow'.symm.trans hrow)
    have hset := (hres.rowSet hrow).released w n ops
    refine ⟨⟨wr₁, hset.row, .inl (hres.fields.1.trans hstate)⟩, ?_, hres.released_lockOf⟩
    intro w' _ _
    exact hres.released_pendingNonce (hkeyed _ _ hw) hnonces _
  · obtain rfl := Option.some.inj (hrow'.symm.trans hrow)
    have hset := ((hres.rowSet hrow).released w n ops).state .failed reason "" ""
    refine ⟨⟨_, hset.row, .inr ?_⟩, ?_, ?_⟩
    · simp [Store.rowWithState]
    · intro w' _ _
      rw [pendingNonce_congr (updateWithdrawalState_nonces _ _ _ _ _ _)]
      exact hres.released_pendingNonce (hkeyed _ _ hw) hnonces _
    · intro op
      rw [stated_lockOf]
      exact hres.released_lockOf op
  · cases hok

def signable : WithdrawalRequest := { (btcTransfer "1000").row (UUID.ofByte 10) with state := .whitelisted }

def signableStore : Store :=
  { Store.initial [btcWallet] [btcOutput outpointA "1000"] with
    withdrawals := (∅ : Table UUID WithdrawalRequest).insert (UUID.ofByte 10) signable }

def refusing : (c : ExtCall) → c.Answer
  | .sign _ => .error ⟨"signer unavailable", none⟩
  | c => agree c

def refusedSigning : Trace × Except Error Unit × Store :=
  referenceStep refusing signableStore (.constructAndSign (UUID.ofByte 10))

theorem failed_signing_restores_outputs :
    (∃ wr', refusedSigning.2.2.withdrawals.lookup (UUID.ofByte 10) = some wr' ∧
      (wr'.state = .whitelisted ∨ wr'.state = .failed)) ∧
    lockOf refusedSigning.2.2 outpointA = some .free := by
  have hexec := referenceStep_exec refusing signableStore (.constructAndSign (UUID.ofByte 10))
  have herr : (referenceStep refusing signableStore (.constructAndSign (UUID.ofByte 10))).2.1 =
      .error ⟨"sign: signer unavailable", none⟩ := by decide +kernel
  rw [herr] at hexec
  have hnonces : Nonnegative signableStore := fun _ => le_rfl
  have hkeyed : KeyedWallets signableStore := initial_keyed [btcWallet] [btcOutput outpointA "1000"]
  have hwithdrawal : signableStore.withdrawals.lookup (UUID.ofByte 10) = some signable := by decide +kernel
  obtain ⟨hrow, -, hlocks⟩ := failed_signing_restores hnonces hkeyed hwithdrawal rfl hexec
  exact ⟨hrow, (hlocks outpointA).trans (by decide +kernel)⟩

end WalletManager.Proofs
