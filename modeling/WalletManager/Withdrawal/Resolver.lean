import WalletManager.Deriver.Registry
import WalletManager.Withdrawal.TxBuilder

/-!
# The key resolver

`withdrawal.DeriverKeyResolver` finds the key material of a wallet through its active address: the
public key at the address's derivation path for Bitcoin, the address itself for Solana. A wallet
without an active address has zero keys, for which the builder takes a placeholder.
-/

namespace WalletManager

open Interaction

/-- The change chain and the index of a path. -/
def parseBTCPath (lib : Lib) (path : String) : Except Error (Int × Int) :=
  match ((trimSpace path).toList.splitOn '/').map String.ofList with
  | ["m", _, _, _, change, index] => do
    let change ← (atoi lib change).mapError (Error.wrap "parse change")
    let index ← (atoi lib index).mapError (Error.wrap "parse index")
    return (change, index)
  | _ => .error ⟨"expected m/84'/0'/0'/<change>/<index>, got " ++ lib.quote path, none⟩

def BTCDeriver.pubKeyHashFor (keys : KeyLib) (d : BTCDeriver) (change index : Int) : Except Error BTCKeys := do
  let compressed ← d.deriveChildPubKey keys index change
  return ⟨copyArray 20 (keys.hash160 compressed), some compressed⟩

def Registry.btcPubKeyHashFor (r : Registry) (path : String) : Except Error BTCKeys := do
  let (change, index) ← (parseBTCPath r.lib path).mapError
    (Error.wrap ("parse btc derivation path " ++ r.lib.quote path))
  r.btc.pubKeyHashFor r.keys change index

structure DeriverKeyResolver : Type 1 where
  /-- The registry, which may be nil. -/
  derivers : Option Registry

namespace DeriverKeyResolver

variable (r : DeriverKeyResolver)

def noBTCKeys : BTCKeys := ⟨Vector.replicate 20 0, none⟩

def noSolanaKeys : SolanaKeys := ⟨Vector.replicate 32 0⟩

def btcPubKeyHash (walletID : UUID) : Proc (Except Error BTCKeys) :=
  match r.derivers with
  | none => return .ok noBTCKeys
  | some derivers => do
    match ← store (.getActiveAddress walletID) with
    | .error _ => return .ok noBTCKeys
    | .ok addr =>
      if addr.derivationPath = "" then return .ok noBTCKeys
      else return (derivers.btcPubKeyHashFor addr.derivationPath).mapError (Error.wrap
        ("derive btc pubkey hash for wallet " ++ walletID.string ++ " at " ++ addr.derivationPath))

def solanaFrom (_ : DeriverKeyResolver) (lib : Lib) (walletID : UUID) : Proc (Except Error SolanaKeys) := do
  match ← store (.getActiveAddress walletID) with
  | .error _ => return .ok noSolanaKeys
  | .ok addr =>
    if addr.address = "" then return .ok noSolanaKeys
    else
      let decoded := lib.base58Decode addr.address
      if decoded.length ≠ 32 then
        return .error ⟨"solana: wallet " ++ walletID.string ++ " active address " ++ lib.quote addr.address ++
          " decodes to " ++ decoded.length.repr ++ " bytes, want 32", none⟩
      else return .ok ⟨copyArray 32 decoded⟩

end DeriverKeyResolver

/-- The store and the other parties of `step`, where the resolver answers for the key material. -/
def wiredStep (lib : Lib) (step : Store → (c : Call) → Answer c → Store → Prop) (r : DeriverKeyResolver)
    (s : Store) : (c : Call) → Answer c → Store → Prop
  | .ext (.btcPubKeyHash walletID), keys, s' => ∃ tr, Exec step (r.btcPubKeyHash walletID) s tr keys s'
  | .ext (.solanaFrom walletID), keys, s' => ∃ tr, Exec step (r.solanaFrom lib walletID) s tr keys s'
  | c, a, s' => step s c a s'

end WalletManager
