import WalletManager.Withdrawal.Reserve

/-!
# Treasury funding

`funding.Service`: a hot wallet whose confirmed balance is below the threshold asks the treasury
for funds, an operator may ask for any wallet, and the treasury's callbacks move a request on.
-/

namespace WalletManager

open Interaction

/-- The `float64` values of the threshold check. -/
structure FloatOps (F : Type) where
  /-- `Decimal.InexactFloat64` -/
  inexactFloat64 : ℚ → F
  ge : F → F → Bool
  sub : F → F → F
  toInt64 : F → Int

structure FundingService (F : Type) where
  lib : Lib
  floats : FloatOps F
  hotWalletMinBalanceUSD : F
  hasTreasury : Bool := true
  hasAudit : Bool := false

namespace FundingService

variable {F : Type} (svc : FundingService F)

def idempotencyKey (walletID : UUID) (asset : String) (id : UUID) : String :=
  "fr:" ++ walletID.string ++ ":" ++ asset ++ ":" ++ id.string

/-- The new identifier is an argument. -/
def createRequest (id : UUID) (w : Wallet) (asset amount reason : String) :
    Proc (Except Error Unit) := do
  let fr : FundingRequest :=
    { id := id, walletID := w.id, asset := asset, amount := amount, state := .requested,
      reason := reason }
  match ← store (.createFundingRequest fr) with
  | .error err => return .error err
  | .ok () =>
    if svc.hasTreasury then
      match ← ext (.requestFunding
          ⟨id, w.id, asset, amount, idempotencyKey w.id asset id, reason⟩) with
      -- The row stays as it is, in state REQUESTED.
      | .error err => return .error (err.wrap "treasury request")
      | .ok () => audit
    else audit
where
  audit : Proc (Except Error Unit) := do
    if svc.hasAudit then
      let _ ← ext (.emit ⟨"wallet.funding.requested", w.id, [("asset", .text asset),
        ("amount", .text amount), ("reason", .text reason), ("id", .text id.string)]⟩)
    return .ok ()

/-- The confirmed balance has not dropped below the threshold. -/
def funded (confirmed : ℚ) : Bool :=
  svc.floats.ge (svc.floats.inexactFloat64 confirmed) svc.hotWalletMinBalanceUSD

def missingAmount (confirmed : ℚ) : String :=
  toString (svc.floats.toInt64
    (svc.floats.sub svc.hotWalletMinBalanceUSD (svc.floats.inexactFloat64 confirmed)))

/-- A missing balance row counts as zero. -/
def evaluateAndRequest (id walletID : UUID) (asset : String) : Proc (Except Error Unit) := do
  match ← store (.getWallet walletID) with
  | .error err => return .error err
  | .ok w =>
    match ← store (.getBalance walletID asset) with
    | .error err => if err.is = some .errNoRows then evaluate w 0 else return .error err
    | .ok bal => evaluate w (parseDec svc.lib bal.confirmed)
where
  evaluate (w : Wallet) (confirmed : ℚ) : Proc (Except Error Unit) := do
    if w.type ≠ .hot then return .ok ()
    else if svc.funded confirmed then return .ok ()
    else match ← store (.getOpenFundingRequest walletID asset) with
      | .ok _ => return .ok ()
      | .error err =>
        if err.is = some .errNoRows then
          svc.createRequest id w asset (svc.missingAmount confirmed) "auto:below_threshold"
        else return .error err

def manualRequest (id walletID : UUID) (asset amount reason : String) :
    Proc (Except Error Unit) := do
  match ← store (.getWallet walletID) with
  | .error err => return .error err
  | .ok w =>
    if w.state = .retired then return .error errWalletRetired
    else match ← store (.getOpenFundingRequest walletID asset) with
      | .ok _ => return .error errDuplicateFunding
      | .error err =>
        if err.is = some .errNoRows then svc.createRequest id w asset amount reason
        else return .error err

def markApproved (id : UUID) (treasuryBatchID : String) : Proc (Except Error Unit) :=
  store (.updateFundingState id .approved treasuryBatchID)

def markSettled (id : UUID) : Proc (Except Error Unit) :=
  store (.updateFundingState id .settled "")

/-- The reason is dropped. -/
def markRejected (id : UUID) (_reason : String) : Proc (Except Error Unit) :=
  store (.updateFundingState id .rejected "")

end FundingService

inductive Callback
  | approved (id : UUID) (treasuryBatchID : String)
  | settled (id : UUID)
  | rejected (id : UUID) (reason : String)
  deriving DecidableEq

def Callback.id : Callback → UUID
  | approved id _ | settled id | rejected id _ => id

def Callback.state : Callback → FundingState
  | approved _ _ => .approved
  | settled _ => .settled
  | rejected _ _ => .rejected

def Callback.proc : Callback → Proc (Except Error Unit)
  | approved id treasuryBatchID => FundingService.markApproved id treasuryBatchID
  | settled id => FundingService.markSettled id
  | rejected id reason => FundingService.markRejected id reason

/-- The operations of the funding service; those that may create a request are given its
identifier. -/
inductive FundingOp
  | evaluate (id walletID : UUID) (asset : String)
  | manual (id walletID : UUID) (asset amount reason : String)
  | callback (c : Callback)
  deriving DecidableEq

def FundingOp.newID : FundingOp → Option UUID
  | evaluate id _ _ | manual id _ _ _ _ => some id
  | callback _ => none

def FundingOp.proc {F : Type} (svc : FundingService F) : FundingOp → Proc (Except Error Unit)
  | evaluate id walletID asset => svc.evaluateAndRequest id walletID asset
  | manual id walletID asset amount reason => svc.manualRequest id walletID asset amount reason
  | callback c => c.proc

end WalletManager
