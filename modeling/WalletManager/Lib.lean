import WalletManager.Domain
import Mathlib.Algebra.Group.Int.Defs
import Mathlib.Algebra.Group.Nat.Defs
import Mathlib.Data.Rat.Defs

/-!
# Imported packages

What the service takes from packages outside the repository, as parameters: sorting,
decimal numbers, hashes, and the Bitcoin and Solana codecs. A decimal is represented by
the rational number it denotes. Results that rely on documented behaviour of one of these
functions state it as a hypothesis.
-/

namespace WalletManager

structure OutPoint where
  hash : Bytes
  index : Nat
  deriving DecidableEq

structure TxIn where
  previousOutPoint : OutPoint
  sequence : Nat
  witness : List Bytes := []
  deriving DecidableEq

/-- `wire.TxOut`, with its value in satoshis. -/
structure TxOut where
  value : Int
  pkScript : Bytes
  deriving DecidableEq

structure MsgTx where
  version : Int
  txIn : List TxIn
  txOut : List TxOut
  deriving DecidableEq

structure Lib : Type 1 where
  /-- `strconv.Quote`, which is also the `%q` verb on a string. -/
  quote : String → String
  /-- `sort.Slice`: sorts by the given order, in an unspecified order among equal elements. -/
  sortSlice : {α : Type} → (α → α → Bool) → List α → List α
  /-- `decimal.NewFromString` -/
  newFromString : String → Except Error ℚ
  /-- `Decimal.String` -/
  decimalString : ℚ → String
  /-- `sha3.NewLegacyKeccak256` over the whole input. -/
  keccak256 : Bytes → Bytes
  /-- `sha256.Sum256` -/
  sha256 : Bytes → Bytes
  /-- `base58.Decode` -/
  base58Decode : String → Bytes
  /-- `btcutil.DecodeAddress` followed by `txscript.PayToAddrScript`, on mainnet. -/
  addrScript : String → Except Error Bytes
  /-- The P2WPKH script of a 20-byte public key hash. -/
  p2wpkhScript : Bytes → Bytes
  /-- `chainhash.NewHashFromStr` -/
  newHashFromStr : String → Except Error Bytes
  /-- `txscript.CalcWitnessSigHash` with `SigHashAll`, over the registered previous outputs. -/
  calcWitnessSigHash : Bytes → List (OutPoint × TxOut) → MsgTx → Nat → Int → Except Error Bytes
  /-- `MsgTx.Serialize` -/
  serialize : MsgTx → Except Error Bytes

/-- The value of a two's complement 64-bit word congruent to `n`. -/
def wrapInt64 (n : Int) : Int := (n + 2 ^ 63) % 2 ^ 64 - 2 ^ 63

/-- `Decimal.IntPart`: the integer part, truncated toward zero and reduced to an `int64`. -/
def intPart (q : ℚ) : Int := wrapInt64 (q.num.tdiv q.den)

end WalletManager
