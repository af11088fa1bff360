import WalletManager.Balance.Service
import WalletManager.Funding.Service
import WalletManager.Wallet.Rotation

/-!
# The services together

The services as `main` wires them. A confirmed decrease of a balance triggers an evaluation by
the funding service, which `main` starts in a goroutine: it is an operation of its own here, and
other operations may come between the two.
-/

namespace WalletManager

open Interaction

structure Manager (F : Type) : Type 1 where
  wallets : WalletService
  rotation : RotationPolicy
  withdrawals : Service
  balances : BalanceService
  funding : FundingService F

inductive ManagerOp
  | createWallet (id fresh : UUID) (req : CreateWalletRequest)
  | setState (id : UUID) (state : String)
  | deriveAddress (walletID : UUID) (force : Bool) (fresh : Fresh)
  | createWithdrawal (id : UUID) (req : CreateRequest)
  | confirm (ev : ConfirmationEvent)
  | evaluate (id walletID : UUID) (asset : String)
  | manualRequest (id walletID : UUID) (asset amount reason : String)
  deriving DecidableEq

def ManagerOp.proc {F : Type} (m : Manager F) : ManagerOp → Proc (Except Error Unit)
  | createWallet id fresh req => do return (← m.wallets.create id fresh req).map (fun _ => ())
  | setState id state => m.wallets.setState id state
  | deriveAddress walletID force fresh => do
    return (← m.rotation.deriveAddress walletID force fresh).map (fun _ => ())
  | createWithdrawal id req => do return (← m.withdrawals.create id req).map (fun _ => ())
  | confirm ev => m.balances.applyConfirmationEvent ev
  | evaluate id walletID asset => m.funding.evaluateAndRequest id walletID asset
  | manualRequest id walletID asset amount reason =>
    m.funding.manualRequest id walletID asset amount reason

structure AuditedServices (F : Type) : Type 1 where
  wallets : WalletService
  rotation : RotationPolicy
  withdrawals : Service
  funding : FundingService F
  keys : KeyMappingService

inductive AuditedOp
  | createWallet (id fresh : UUID) (req : CreateWalletRequest)
  | setState (id : UUID) (state : String)
  | deriveAddress (walletID : UUID) (force : Bool) (fresh : Fresh)
  | withdrawal (op : Op)
  | funding (op : FundingOp)
  | bind (walletID : UUID) (keyID : String) (now : Int)
  | rotate (walletID : UUID) (newKeyID : String) (now : Int)
  deriving DecidableEq

def AuditedOp.proc {F : Type} (svc : AuditedServices F) : AuditedOp → Proc (Except Error Unit)
  | createWallet id fresh req => do return (← svc.wallets.create id fresh req).map (fun _ => ())
  | setState id state => svc.wallets.setState id state
  | deriveAddress walletID force fresh => do
    return (← svc.rotation.deriveAddress walletID force fresh).map (fun _ => ())
  | withdrawal op => op.proc svc.withdrawals
  | funding op => op.proc svc.funding
  | bind walletID keyID now => KeyMappingService.bind walletID keyID now
  | rotate walletID newKeyID now => svc.keys.rotate walletID newKeyID now

end WalletManager
