import WalletManager.Deriver.Registry
import WalletManager.Wallet.Service

/-!
# Rotation of receive addresses

`wallet.RotationPolicy` and `DeriveAddress`. The address to retire is read before the wallet's
lock is taken; only the first derivation of a wallet reads it again under the lock.
-/

namespace WalletManager

open Interaction

structure RotationPolicy : Type 1 where
  derivers : Registry
  config : Config
  hasAudit : Bool := false

/-- What a call draws from outside: the new address's identifier, the clock that `shouldRotate`
compares with, and the clock at the creation of the address. -/
structure Fresh where
  addrID : UUID
  since : Int
  now : Int
  deriving DecidableEq

/-- `Time.Sub`, which saturates at the range of a `Duration`. -/
def timeSub (t u : Int) : Int := max (-2 ^ 63) (min (t - u) (2 ^ 63 - 1))

def errRotationInProgress : Error := ⟨"rotation already in progress", none⟩

namespace RotationPolicy

variable (p : RotationPolicy)

def shouldRotate (w : Wallet) (a : Address) (now : Int) : Bool :=
  let days := w.rotationDays.getD p.config.defaultRotationDays
  if days > 0 ∧ timeSub now a.createdAt > wrapInt64 (days * 24 * 3600000000000) then true
  else match w.rotationAfterReceives with
    | some n => a.receiveCount ≥ n
    | none => false

def lockName (w : Wallet) : String := "addr:" ++ w.id.string

def newAddress (w : Wallet) (fresh : Fresh) (res : DeriveResult) : Address where
  id := fresh.addrID
  walletID := w.id
  chain := w.chain
  address := res.address
  derivationPath := res.derivationPath
  index := res.index
  change := res.change
  state := .active
  createdAt := fresh.now

def deriveNew (w : Wallet) (fresh : Fresh) : Proc (Except Error Address) := do
  match p.derivers.forChain w.chain with
  | .error err => return .error err
  | .ok deriveAt =>
    match ← store (.nextAddressIndex w.chain.string 0) with
    | .error err => return .error (err.wrap "next index")
    | .ok idx =>
      -- A Solana wallet has a single address, at index 0; its first row is retired.
      if w.chain = .solana then
        let addrs := match ← store (.listAddresses w.id) with
          | .error _ => []
          | .ok addrs => addrs
        match addrs with
        | [] => insert deriveAt idx
        | a :: _ =>
          match ← store (.deprecateAddress a.id) with
          | .error err => return .error err
          | .ok () => insert deriveAt idx
      else insert deriveAt idx
where
  insert (deriveAt : Deriver) (idx : Int) : Proc (Except Error Address) := do
    match ← deriveAt w.id w.chain idx 0 with
    | .error err => return .error (err.wrap "derive")
    | .ok res =>
      let addr := newAddress w fresh res
      match ← store (.insertAddress addr fresh.now) with
      | .error err => return .error (err.wrap "insert address")
      | .ok () =>
        if p.hasAudit then
          let _ ← ext (.emit ⟨"wallet.address.derived", w.id, [("address", .text addr.address),
            ("index", .int addr.index), ("path", .text addr.derivationPath)]⟩)
        return .ok addr

/-- The lock around a rotation; its release is deferred, so it comes last. -/
def underLock (w : Wallet) (body : Proc (Except Error Address)) : Proc (Except Error Address) := do
  match ← ext (.acquire (lockName w) 10) with
  | .error err => return .error (err.wrap "acquire rotation lock")
  | .ok (token, ok) =>
    if ok = false then return .error errRotationInProgress
    else
      let r ← body
      let _ ← ext (.release (lockName w) token)
      return r

def rotate (w : Wallet) (old : Address) (fresh : Fresh) : Proc (Except Error Address) :=
  underLock w do
    match ← store (.deprecateAddress old.id) with
    | .error err => return .error (err.wrap "deprecate old address")
    | .ok () =>
      match ← p.deriveNew w fresh with
      | .error err => return .error err
      | .ok addr =>
        if p.hasAudit then
          let _ ← ext (.emit ⟨"wallet.address.rotated", w.id, [("old_address", .text old.address),
            ("new_address", .text addr.address), ("index", .int addr.index)]⟩)
        return .ok addr

/-- The retries of `deriveNewLocked`; the argument counts those that are left. -/
def deriveNewLoop (w : Wallet) (fresh : Fresh) : Nat → Proc (Except Error Address)
  | 0 => return .error errRotationInProgress
  | retries + 1 => do
    match ← ext (.acquire (lockName w) 10) with
    | .error err => return .error (err.wrap "acquire rotation lock")
    | .ok (token, ok) =>
      if ok = false then
        match ← store (.getActiveAddress w.id) with
        | .ok active => return .ok active
        | .error err => if err.is = some .errNoRows then deriveNewLoop w fresh retries else return .error err
      else
        match ← store (.getActiveAddress w.id) with
        | .ok active =>
          let _ ← ext (.release (lockName w) token)
          return .ok active
        | .error err =>
          if err.is = some .errNoRows then
            let r ← p.deriveNew w fresh
            let _ ← ext (.release (lockName w) token)
            return r
          else
            let _ ← ext (.release (lockName w) token)
            return .error err

def deriveNewLocked (w : Wallet) (fresh : Fresh) : Proc (Except Error Address) :=
  p.deriveNewLoop w fresh 20

def currentOrRotate (walletID : UUID) (fresh : Fresh) : Proc (Except Error Address) := do
  match ← store (.getWallet walletID) with
  | .error err => return .error err
  | .ok w =>
    if w.state = .retired then return .error errWalletRetired
    else match ← store (.getActiveAddress walletID) with
      | .error err =>
        if err.is = some .errNoRows then p.deriveNewLocked w fresh else return .error err
      | .ok active =>
        if p.shouldRotate w active fresh.since then p.rotate w active fresh else return .ok active

def forceRotate (walletID : UUID) (fresh : Fresh) : Proc (Except Error Address) := do
  match ← store (.getWallet walletID) with
  | .error err => return .error err
  | .ok w =>
    if w.state = .retired then return .error errWalletRetired
    else match ← store (.getActiveAddress walletID) with
      | .error err =>
        if err.is = some .errNoRows then underLock w (p.deriveNew w fresh) else return .error err
      | .ok active => p.rotate w active fresh

/-- `wallet.Service.DeriveAddress` -/
def deriveAddress (walletID : UUID) (force : Bool) (fresh : Fresh) : Proc (Except Error Address) :=
  if force then p.forceRotate walletID fresh else p.currentOrRotate walletID fresh

end RotationPolicy

structure Addressing : Type 1 where
  wallets : WalletService
  rotation : RotationPolicy

inductive AddressOp
  | derive (walletID : UUID) (force : Bool) (fresh : Fresh)
  | receive (id : UUID)
  | setState (walletID : UUID) (state : String)
  deriving DecidableEq

/-- The procedure of an operation; only a derivation returns an address. -/
def AddressOp.proc (svc : Addressing) : AddressOp → Proc (Except Error (Option Address))
  | derive walletID force fresh => do
    return (← svc.rotation.deriveAddress walletID force fresh).map some
  | receive id => do return (← store (.incrementReceiveCount id)).map (fun _ => none)
  | setState walletID state => do return (← svc.wallets.setState walletID state).map (fun _ => none)

end WalletManager
