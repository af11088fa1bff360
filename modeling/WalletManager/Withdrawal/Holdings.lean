import WalletManager.Interaction.Reservation
import WalletManager.Withdrawal.Service

/-!
# What a withdrawal holds

The reservation view of a store: a withdrawal whose state is live holds the nonce and the
outpoints on its row, nonces from the pending counter on are free, and so are the outputs
with lock state `FREE`.
-/

namespace WalletManager

open Interaction Reservation

namespace WithdrawalState

def isLive : WithdrawalState → Bool
  | signed | broadcast | confirmed => true
  | _ => false

def isInFlight : WithdrawalState → Bool
  | signed | broadcast => true
  | _ => false

end WithdrawalState

/-- The nonces on a row, by the key of their counter; only EVM wallets have any. -/
def ownedNonces (wallets : Table UUID Wallet) (wr : WithdrawalRequest) : Set (String × Int) :=
  {r | ∃ w, wallets.lookup wr.walletID = some w ∧ w.chain.isEVM ∧
    r.1 = nonceKey wr.walletID w.chain.string ∧ wr.nonceValue = some r.2}

def ownedOutpoints (wr : WithdrawalRequest) : Set String := {op | op ∈ wr.reservedOutpoints}

namespace Store

/-- What the withdrawal `id` holds of the resources that rows own, while it is in one of
the states `live`. -/
def held {ρ : Type} (s : Store) (live : WithdrawalState → Bool)
    (owned : WithdrawalRequest → Set ρ) (id : UUID) : Set ρ :=
  {r | ∃ wr, s.withdrawals.lookup id = some wr ∧ live wr.state ∧ r ∈ owned wr}

def heldNonces (s : Store) : UUID → Set (String × Int) :=
  s.held WithdrawalState.isLive (ownedNonces s.wallets)

def heldOutpoints (s : Store) : UUID → Set String := s.held WithdrawalState.isLive ownedOutpoints

def pendingNonce (s : Store) (key : String) : Int :=
  ((s.nonces.lookup key).map Nonce.pendingNonce).getD 0

def freeNonces (s : Store) : Set (String × Int) := {r | s.pendingNonce r.1 ≤ r.2}

def freeOutpoints (s : Store) : Set String :=
  {op | ∃ u, s.utxos.lookup op = some u ∧ u.lockState = .free}

/-- The store before any withdrawal: the given wallets and outputs, each under its own key. -/
def initial (wallets : List Wallet) (utxos : List UTXO) : Store where
  wallets := wallets.foldr (fun w t => t.insert w.id w) ∅
  utxos := utxos.foldr (fun u t => t.insert u.outpoint u) ∅

section Rows

variable {ρ : Type} {live : WithdrawalState → Bool} {owned : WithdrawalRequest → Set ρ}

lemma held_congr {s s' : Store} {id : UUID}
    (h : s'.withdrawals.lookup id = s.withdrawals.lookup id) :
    s'.held live owned id = s.held live owned id := by
  simp only [held, h]

lemma held_of_row {s : Store} {id : UUID} {wr : WithdrawalRequest}
    (h : s.withdrawals.lookup id = some wr) :
    s.held live owned id = {r | live wr.state ∧ r ∈ owned wr} := by
  simp [held, h]

end Rows

lemma freeNonces_subset {s s' : Store} (h : ∀ k, s.pendingNonce k ≤ s'.pendingNonce k) :
    s'.freeNonces ⊆ s.freeNonces :=
  fun r hr => (h r.1).trans hr

end Store

end WalletManager
