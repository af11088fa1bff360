import WalletManager.Deriver.Secp
import WalletManager.Storage.Calls

/-!
# Address derivation

The derivers of package `deriver`: each checks its arguments, asks the cache, and derives the
address from its public key where the cache does not have it.
-/

namespace WalletManager

open Interaction

/-- What the derivers take from the packages for hierarchical keys and Bitcoin addresses. -/
structure KeyLib : Type 1 where
  /-- `hdkeychain.ExtendedKey` -/
  Key : Type
  /-- `hdkeychain.NewKeyFromString` -/
  newKeyFromString : String → Except Error Key
  /-- `ExtendedKey.Derive` -/
  deriveKey : Key → Nat → Except Error Key
  /-- `btcec.ParsePubKey` -/
  parsePubKey : Bytes → Except Error PubKey
  /-- `ExtendedKey.ECPubKey`, compressed. -/
  ecPubKey : Key → Except Error (CompressedKey parsePubKey)
  /-- `btcutil.Hash160` -/
  hash160 : Bytes → Bytes
  /-- `bech32.ConvertBits` from groups of eight bits to groups of five, padded. -/
  convertBits : Bytes → Except Error Bytes
  /-- `bech32.Encode` -/
  bech32Encode : String → Bytes → Except Error String

/-- `deriver.Result` -/
structure DeriveResult where
  address : String
  derivationPath : String
  index : Int
  change : Int
  deriving DecidableEq

def nonHardened (n : Int) : Except Error Nat :=
  if n < 0 ∨ n ≥ 0x80000000 then
    .error ⟨"derivation index " ++ toString n ++ " out of non-hardened range", none⟩
  else .ok n.toNat

/-- The value of a cache hit; an error of the cache counts as a miss. -/
def cacheHit : Except Error (String × Bool) → Option String
  | .ok (v, true) => some v
  | _ => none

/-- The part that the derivers share: a cached address, or a derived one that is then cached. -/
def deriveCached (cacheKey : String) (uncached : Except Error String) (make : String → DeriveResult) :
    Proc (Except Error DeriveResult) := do
  match cacheHit (← ext (.cacheGet cacheKey)) with
  | some v => return .ok (make v)
  | none =>
    match uncached with
    | .error err => return .error err
    | .ok addr =>
      let _ ← ext (.cacheSet cacheKey addr)
      return .ok (make addr)

structure EVMDeriver where
  xpub : String

namespace EVMDeriver

variable (lib : Lib) (keys : KeyLib) (d : EVMDeriver)

def deriveUncached (index : Int) : Except Error String := do
  let acc ← (keys.newKeyFromString d.xpub).mapError (Error.wrap "parse xpub")
  let external ← (keys.deriveKey acc 0).mapError (Error.wrap "derive external chain")
  let childIdx ← nonHardened index
  let child ← (keys.deriveKey external childIdx).mapError
    (Error.wrap ("derive index " ++ toString index))
  let pub ← (keys.ecPubKey child).mapError (Error.wrap "ec pubkey")
  return pub.evmAddress lib

def cacheKey (index : Int) : String := "deriv:evm:" ++ d.xpub ++ ":" ++ toString index

def deriveAt (_ : UUID) (chain : Chain) (index change : Int) : Proc (Except Error DeriveResult) :=
  if chain.isEVM = false then
    return .error ⟨"non-EVM chain " ++ lib.quote chain.string ++ " passed to EVMDeriver", none⟩
  else if change ≠ 0 then return .error ⟨"EVM change chain must be 0", none⟩
  else if index < 0 then return .error ⟨"EVM index must be >= 0", none⟩
  else deriveCached (d.cacheKey index) (d.deriveUncached lib keys index)
    (fun addr => ⟨addr, "m/44'/60'/0'/0/" ++ toString index, index, change⟩)

end EVMDeriver

structure BTCDeriver where
  xpub : String

namespace BTCDeriver

variable (lib : Lib) (keys : KeyLib) (d : BTCDeriver)

def deriveChildPubKey (index change : Int) : Except Error Bytes := do
  let acc ← (keys.newKeyFromString d.xpub).mapError (Error.wrap "parse xpub")
  let changeIdx ← nonHardened change
  let changeBranch ← (keys.deriveKey acc changeIdx).mapError
    (Error.wrap ("derive change chain " ++ toString change))
  let childIdx ← nonHardened index
  let child ← (keys.deriveKey changeBranch childIdx).mapError
    (Error.wrap ("derive index " ++ toString index))
  let pub ← (keys.ecPubKey child).mapError (Error.wrap "ec pubkey")
  return pub.1

def bech32Address (hrp : String) (witness : Bytes) : Except Error String := do
  let conv ← keys.convertBits (witness.drop 1)
  keys.bech32Encode hrp (witness.take 1 ++ conv)

def deriveUncached (index change : Int) : Except Error String := do
  let pub ← d.deriveChildPubKey keys index change
  bech32Address keys "bc" (0x00 :: keys.hash160 pub)

def cacheKey (index change : Int) : String :=
  "deriv:btc:" ++ d.xpub ++ ":" ++ toString change ++ ":" ++ toString index

def deriveAt (_ : UUID) (chain : Chain) (index change : Int) : Proc (Except Error DeriveResult) :=
  if chain ≠ .bitcoin then
    return .error ⟨"non-BTC chain " ++ lib.quote chain.string ++ " passed to BTCDeriver", none⟩
  else if change ≠ 0 ∧ change ≠ 1 then return .error ⟨"BTC change chain must be 0 or 1", none⟩
  else if index < 0 then return .error ⟨"BTC index must be >= 0", none⟩
  else deriveCached (d.cacheKey index change) (d.deriveUncached keys index change)
    (fun addr => ⟨addr, "m/84'/0'/0'/" ++ toString change ++ "/" ++ toString index, index, change⟩)

end BTCDeriver

structure SolanaDeriver where
  pubkeyBase58 : String

namespace SolanaDeriver

/-- The index and the change chain are ignored. -/
def deriveAt (lib : Lib) (d : SolanaDeriver) (_ : UUID) (chain : Chain) (_ _ : Int) :
    Proc (Except Error DeriveResult) :=
  if chain ≠ .solana then
    return .error ⟨"non-Solana chain " ++ lib.quote chain.string ++ " passed to SolanaDeriver", none⟩
  else deriveCached ("deriv:sol:" ++ d.pubkeyBase58) (.ok d.pubkeyBase58)
    (fun addr => ⟨addr, "m/44'/501'/0'/0'", 0, 0⟩)

end SolanaDeriver

structure Registry : Type 1 where
  lib : Lib
  keys : KeyLib
  evm : EVMDeriver
  solana : SolanaDeriver
  btc : BTCDeriver

abbrev Deriver := UUID → Chain → Int → Int → Proc (Except Error DeriveResult)

/-- `Registry.For` -/
def Registry.forChain (r : Registry) (chain : Chain) : Except Error Deriver :=
  if chain.isEVM then .ok (r.evm.deriveAt r.lib r.keys)
  else if chain = .solana then .ok (r.solana.deriveAt r.lib)
  else if chain = .bitcoin then .ok (r.btc.deriveAt r.lib r.keys)
  else .error ⟨"no deriver for chain " ++ r.lib.quote chain.string, none⟩

end WalletManager
