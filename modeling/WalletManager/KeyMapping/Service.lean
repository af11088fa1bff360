import WalletManager.Storage.Calls

/-!
# The key-mapping service

Which MPC keys a wallet may sign with. A rotation makes another key current and lets the
former one cool for a period; `ExpireCooling` retires the keys whose period is over. The
operations get the reading of the clock as an argument.
-/

namespace WalletManager

open Interaction

structure KeyMappingService where
  keyCoolingPeriod : Int
  /-- `time.Duration.String` -/
  durationString : Int → String
  hasAudit : Bool := false

/-- `keymapping.Service.Bind` -/
def KeyMappingService.bind (walletID : UUID) (keyID : String) (now : Int) :
    Proc (Except Error Unit) :=
  store (.bindKeyMapping ⟨walletID, keyID, now, none, .current⟩ now)

/-- `keymapping.Service.Rotate` -/
def KeyMappingService.rotate (svc : KeyMappingService) (walletID : UUID) (newKeyID : String)
    (now : Int) : Proc (Except Error Unit) := do
  match ← store (.rotateKeyMapping walletID newKeyID svc.keyCoolingPeriod now) with
  | .error err => return .error err
  | .ok () =>
    if svc.hasAudit then
      let _ ← ext (.emit ⟨"key.rotated", walletID, [("new_key_id", .text newKeyID),
        ("cooling_period", .text (svc.durationString svc.keyCoolingPeriod))]⟩)
    return .ok ()

/-- `keymapping.Service.ResolveActive` -/
def resolveActive (walletID : UUID) : Proc (Except Error (List KeyMapping)) := do
  match ← store (.resolveActiveKey walletID) with
  | .error err =>
    if err.is = some .errNoRows then
      return .error (err.wrap ("no active key for wallet " ++ walletID.string))
    else return .error err
  | .ok mappings => return .ok mappings

/-- `keymapping.Service.ResolveActiveKeyID` -/
def resolveActiveKeyID (walletID : UUID) : Proc (Except Error String) := do
  match ← resolveActive walletID with
  | .error err => return .error err
  | .ok [] => return .error ⟨"no active key for wallet " ++ walletID.string, none⟩
  | .ok (m :: _) => return .ok m.keyID

/-- `keymapping.Service.ExpireCooling` -/
def KeyMappingService.expireCooling (now : Int) : Proc (Except Error Unit) :=
  store (.expireCooling now)

end WalletManager
