import WalletManager.Storage.Calls
import Mathlib.Algebra.Order.Ring.Rat

/-!
# Nonce and UTXO services

The spend-path resources of a withdrawal: EVM nonces, reserved under a lock, and Bitcoin
outputs, selected greedily and locked.
-/

namespace WalletManager

open Interaction

/-- The loop of `ReserveNonce` with the attempts that are left; a contended lock is retried. -/
def reserveNonceLoop (walletID : UUID) (chain lockName : String) : Nat → Proc (Except Error Int)
  | 0 => return .error ⟨"nonce lock contention for " ++ walletID.string ++ "/" ++ chain, none⟩
  | n + 1 => do
    match ← ext (.acquire lockName 5) with
    | .error err => return .error (err.wrap "acquire nonce lock")
    | .ok (token, ok) =>
      if ok then
        let r ← store (.incrementPendingNonce walletID chain)
        let _ ← ext (.release lockName token)
        match r with
        | .error err => return .error (err.wrap "increment pending nonce")
        | .ok (val, _) => return .ok val
      else reserveNonceLoop walletID chain lockName n

def reserveNonce (walletID : UUID) (chain : String) : Proc (Except Error Int) :=
  reserveNonceLoop walletID chain ("nonce:lock:" ++ walletID.string ++ ":" ++ chain) 50

def commitNonce (walletID : UUID) (chain : String) (nonce : Int) : Proc (Except Error Unit) :=
  store (.advanceBroadcastNonce walletID chain nonce)

def rollbackNonce (walletID : UUID) (chain : String) (nonce : Int) : Proc (Except Error Unit) := do
  match ← store (.rollbackPendingNonce walletID chain nonce) with
  | .error err => return .error err
  | .ok _ => return .ok ()

inductive NonceOp
  | reserve (walletID : UUID) (chain : String)
  | commit (walletID : UUID) (chain : String) (nonce : Int)
  | rollback (walletID : UUID) (chain : String) (nonce : Int)
  deriving DecidableEq

def NonceOp.key : NonceOp → String
  | reserve walletID chain | commit walletID chain _ | rollback walletID chain _ =>
    nonceKey walletID chain

/-- The procedure of an operation; only a reservation returns a nonce. -/
def NonceOp.proc : NonceOp → Proc (Except Error (Option Int))
  | reserve walletID chain => do return (← reserveNonce walletID chain).map some
  | commit walletID chain nonce => do return (← commitNonce walletID chain nonce).map (fun _ => none)
  | rollback walletID chain nonce => do
    return (← rollbackNonce walletID chain nonce).map (fun _ => none)

/-- The value of a decimal text, and zero for an empty or invalid one. -/
def parseDec (lib : Lib) (s : String) : ℚ :=
  if s = "" then 0
  else match lib.newFromString s with
    | .error _ => 0
    | .ok d => d

/-- The selection loop: outputs are taken until their total reaches the amount. -/
def selectLoop (lib : Lib) (amount : ℚ) : List UTXO → List String → ℚ → List String × ℚ
  | [], selected, total => (selected, total)
  | u :: free, selected, total =>
    if amount ≤ total then (selected, total)
    else selectLoop lib amount free (selected ++ [u.outpoint]) (total + parseDec lib u.value)

def selectForAmount (lib : Lib) (walletID : UUID) (amount : ℚ) :
    Proc (Except Error (List String × ℚ)) := do
  match ← store (.listFreeUTXOs walletID) with
  | .error err => return .error err
  | .ok free =>
    let free := lib.sortSlice (fun a b => decide (parseDec lib b.value < parseDec lib a.value)) free
    let (selected, total) := selectLoop lib amount free [] 0
    if total < amount then
      return .error ⟨"insufficient funds: need " ++ lib.decimalString amount ++ " have " ++
        lib.decimalString total, none⟩
    else
      match ← store (.lockUTXOs selected) with
      | .error err => return .error (err.wrap "lock utxos")
      | .ok () => return .ok (selected, total)

def unlock (outpoints : List String) : Proc (Except Error Unit) := store (.restoreUTXOs outpoints)

def markSpent (outpoints : List String) (txHash : String) : Proc (Except Error Unit) :=
  store (.markUTXOsSpent outpoints txHash)

def restoreOnReorg (outpoints : List String) : Proc (Except Error Unit) :=
  store (.restoreUTXOs outpoints)

end WalletManager
