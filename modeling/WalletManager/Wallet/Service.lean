import WalletManager.KeyMapping.Service
import WalletManager.Withdrawal.Service

/-!
# The wallet service

Creation, lookup and state changes of wallets, and two sets of operations over it: those that
provision a wallet (its creation and the key-mapping service) and those that decide whether it
spends (its creation and state changes and the withdrawal service).
-/

namespace WalletManager

open Interaction

/-- `wallet.CreateRequest`; the type is a text until it has been checked. -/
structure CreateWalletRequest where
  chain : Chain
  type : String
  label : String
  keyID : String
  deriving DecidableEq

def validChain : Chain → Bool
  | .other _ => false
  | _ => true

def walletType (t : String) : Option WalletType :=
  if t = "HOT" then some .hot
  else if t = "WARM" then some .warm
  else if t = "COLD" then some .cold
  else none

def walletState (t : String) : Option WalletState :=
  if t = "ACTIVE" then some .active
  else if t = "PAUSED" then some .paused
  else if t = "RETIRED" then some .retired
  else none

/-- The key of a new wallet, with a fresh identifier where the request names none. -/
def CreateWalletRequest.boundKeyID (req : CreateWalletRequest) (fresh : UUID) : String :=
  if req.keyID = "" then "pending:" ++ fresh.string else req.keyID

structure WalletService where
  lib : Lib
  hasAudit : Bool := false

namespace WalletService

/-- `wallet.Service.Create`, with the new identifiers as arguments. -/
def create (svc : WalletService) (id fresh : UUID) (req : CreateWalletRequest) :
    Proc (Except Error Wallet) := do
  if validChain req.chain = false then
    return .error ⟨"unsupported chain " ++ svc.lib.quote req.chain.string, none⟩
  else match walletType req.type with
    | none => return .error ⟨"unsupported wallet type " ++ svc.lib.quote req.type, none⟩
    | some type =>
      if req.label = "" then return .error ⟨"label is required", none⟩
      else
        let w : Wallet :=
          { id := id
            chain := req.chain
            type := type
            state := .active
            keyID := req.boundKeyID fresh
            label := req.label
            custodianRef := "mpc" }
        match ← store (.createWallet w) with
        | .error err => return .error (err.wrap "create wallet")
        | .ok () =>
          if svc.hasAudit then
            let _ ← ext (.emit ⟨"wallet.created", w.id, [("chain", .text w.chain.string),
              ("type", .text req.type), ("label", .text req.label), ("key_id", .text w.keyID)]⟩)
          return .ok w

def get (id : UUID) : Proc (Except Error Wallet) := store (.getWallet id)

def setState (svc : WalletService) (id : UUID) (state : String) : Proc (Except Error Unit) := do
  match walletState state with
  | none => return .error ⟨"invalid state " ++ svc.lib.quote state, none⟩
  | some next =>
    match ← store (.getWallet id) with
    | .error err => return .error err
    | .ok w =>
      if w.state = .retired ∧ next ≠ .retired then
        return .error ⟨"cannot un-retire a wallet", none⟩
      else match ← store (.updateWalletState id next) with
        | .error err => return .error err
        | .ok () =>
          if svc.hasAudit then
            let _ ← ext (.emit ⟨"wallet.state_changed", id,
              [("from", .text w.state.string), ("to", .text state)]⟩)
          return .ok ()

end WalletService

structure Provisioning where
  wallets : WalletService
  keys : KeyMappingService

inductive ProvisionOp
  | createWallet (id fresh : UUID) (req : CreateWalletRequest)
  | bind (walletID : UUID) (keyID : String) (now : Int)
  | rotate (walletID : UUID) (newKeyID : String) (now : Int)
  | expireCooling (now : Int)
  deriving DecidableEq

def ProvisionOp.proc (svc : Provisioning) : ProvisionOp → Proc (Except Error Unit)
  | createWallet id fresh req => do
    match ← svc.wallets.create id fresh req with
    | .error err => return .error err
    | .ok _ => return .ok ()
  | bind walletID keyID now => KeyMappingService.bind walletID keyID now
  | rotate walletID newKeyID now => svc.keys.rotate walletID newKeyID now
  | expireCooling now => KeyMappingService.expireCooling now

structure Custody where
  wallets : WalletService
  withdrawals : Service

inductive CustodyOp
  | createWallet (id fresh : UUID) (req : CreateWalletRequest)
  | setState (id : UUID) (state : String)
  | withdrawal (op : Op)
  deriving DecidableEq

def CustodyOp.proc (svc : Custody) : CustodyOp → Proc (Except Error Unit)
  | createWallet id fresh req => do return (← svc.wallets.create id fresh req).map (fun _ => ())
  | setState id state => svc.wallets.setState id state
  | withdrawal op => op.proc svc.withdrawals

end WalletManager
