import WalletManager.Withdrawal.Reserve

/-!
# Balance tracking

`balance.Service`: confirmation events credit a wallet's balance once per event identity,
to the confirmed or the pending part depending on the depth, and reorg events demote it.
-/

namespace WalletManager

open Interaction

structure ConfirmationEvent where
  walletID : UUID
  asset : String
  amount : String
  confirmations : Int
  blockHeight : Int
  eventID : String
  isFinalized : Bool
  chain : Chain
  deriving DecidableEq

/-- The identity of a confirmation event, which deduplicates its deliveries. -/
def ConfirmationEvent.balanceEvent (ev : ConfirmationEvent) : BalanceEvent :=
  ⟨ev.walletID, ev.asset, ev.blockHeight, ev.eventID⟩

structure ReorgEvent where
  walletID : UUID
  asset : String
  blockHeight : Int
  eventID : String
  outpoints : List String
  deriving DecidableEq

structure BalanceService where
  lib : Lib
  config : Config
  hasAudit : Bool := false
  hasUTXORestore : Bool := false
  hasOnConfirmedDecrease : Bool := false

def formatDec (lib : Lib) (n : ℚ) : String := lib.decimalString n

def max64 (a b : Int) : Int := if a > b then a else b

namespace BalanceService

variable (svc : BalanceService)

def threshold : Chain → Int
  | .bitcoin => svc.config.confirmationsBTC
  | .solana => 1
  | _ => svc.config.confirmationsEVM

def isConfirmed (ev : ConfirmationEvent) : Bool :=
  if ev.chain = .solana then ev.isFinalized else ev.confirmations ≥ svc.threshold ev.chain

/-- The row that an event makes of the current one. -/
def creditedRow (ev : ConfirmationEvent) (cur : Balance) : Balance :=
  let confirmed := parseDec svc.lib cur.confirmed
  let pending := parseDec svc.lib cur.pending
  let amount := parseDec svc.lib ev.amount
  let (confirmed, pending) :=
    if svc.isConfirmed ev then (confirmed + amount, pending) else (confirmed, pending + amount)
  { walletID := ev.walletID
    asset := ev.asset
    confirmed := formatDec svc.lib confirmed
    pending := formatDec svc.lib pending
    locked := cur.locked
    lastBlockSeen := max64 cur.lastBlockSeen ev.blockHeight }

/-- The read-modify-write of `ApplyConfirmationEvent`; a missing row counts as an empty one. -/
def credit (ev : ConfirmationEvent) : Proc (Except Error Unit) := do
  match ← store (.getBalance ev.walletID ev.asset) with
  | .error err =>
    if err.is = some .errNoRows then write { walletID := ev.walletID, asset := ev.asset }
    else return .error err
  | .ok cur => write cur
where
  write (cur : Balance) : Proc (Except Error Unit) := do
    let upd := svc.creditedRow ev cur
    match ← store (.upsertBalance upd) with
    | .error err => return .error err
    | .ok () =>
      if svc.hasAudit then
        let _ ← ext (.emit ⟨"wallet.balance.updated", ev.walletID, [("asset", .text ev.asset),
          ("confirmed", .text upd.confirmed), ("pending", .text upd.pending),
          ("block_height", .int ev.blockHeight), ("confirmations", .int ev.confirmations)]⟩)
      return .ok ()

def applyConfirmationEvent (ev : ConfirmationEvent) : Proc (Except Error Unit) := do
  match ← store (.recordBalanceEvent ev.balanceEvent) with
  | .error err => if err.is = some .errDuplicateEvent then return .ok () else return .error err
  | .ok () =>
    match ← inTx (svc.credit ev) with
    | .error err => return .error err
    | .ok () =>
      if svc.hasOnConfirmedDecrease ∧ svc.isConfirmed ev ∧ parseDec svc.lib ev.amount < 0 then
        let _ ← ext (.onConfirmedDecrease ev.walletID ev.asset)
      return .ok ()

def demotedRow (ev : ReorgEvent) (cur : Balance) : Balance where
  walletID := ev.walletID
  asset := ev.asset
  confirmed := formatDec svc.lib 0
  pending := formatDec svc.lib (parseDec svc.lib cur.pending + parseDec svc.lib cur.confirmed)
  locked := cur.locked
  lastBlockSeen := cur.lastBlockSeen

def demote (ev : ReorgEvent) : Proc (Except Error Unit) := do
  match ← store (.getBalance ev.walletID ev.asset) with
  | .error err => if err.is = some .errNoRows then return .ok () else return .error err
  | .ok cur => store (.upsertBalance (svc.demotedRow ev cur))

def applyReorgEvent (ev : ReorgEvent) : Proc (Except Error Unit) := do
  match ← inTx (svc.demote ev) with
  | .error err => return .error err
  | .ok () =>
    if svc.hasUTXORestore ∧ ev.outpoints.length > 0 then
      match ← restoreOnReorg ev.outpoints with
      | .error err => return .error (err.wrap "restore utxos")
      | .ok () => audit ev
    else audit ev
where
  audit (ev : ReorgEvent) : Proc (Except Error Unit) := do
    if svc.hasAudit then
      let _ ← ext (.emit ⟨"wallet.balance.updated", ev.walletID, [("asset", .text ev.asset),
        ("reorg", .bool true), ("block_height", .int ev.blockHeight)]⟩)
    return .ok ()

/-- The update shared by `AddLocked` and `ReleaseLocked`. -/
def relock (walletID : UUID) (asset : String) (locked : ℚ → ℚ) : Proc (Except Error Unit) := do
  match ← store (.getBalance walletID asset) with
  | .error err => return .error err
  | .ok cur => store (.upsertBalance
      { cur with
        walletID := walletID
        asset := asset
        locked := formatDec svc.lib (locked (parseDec svc.lib cur.locked)) })

def addLocked (walletID : UUID) (asset amount : String) : Proc (Except Error Unit) :=
  inTx (svc.relock walletID asset (fun locked => locked + parseDec svc.lib amount))

def releaseLocked (walletID : UUID) (asset amount : String) : Proc (Except Error Unit) :=
  inTx (svc.relock walletID asset (fun locked =>
    let locked := locked - parseDec svc.lib amount
    if locked < 0 then 0 else locked))

end BalanceService

inductive BalanceOp
  | confirm (ev : ConfirmationEvent)
  | reorg (ev : ReorgEvent)
  | addLocked (walletID : UUID) (asset amount : String)
  | releaseLocked (walletID : UUID) (asset amount : String)
  deriving DecidableEq

def BalanceOp.asset : BalanceOp → String
  | confirm ev => ev.asset
  | reorg ev => ev.asset
  | addLocked _ asset _ | releaseLocked _ asset _ => asset

def BalanceOp.proc (svc : BalanceService) : BalanceOp → Proc (Except Error Unit)
  | confirm ev => svc.applyConfirmationEvent ev
  | reorg ev => svc.applyReorgEvent ev
  | addLocked walletID asset amount => svc.addLocked walletID asset amount
  | releaseLocked walletID asset amount => svc.releaseLocked walletID asset amount

end WalletManager
