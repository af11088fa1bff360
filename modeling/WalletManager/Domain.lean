import Mathlib.Data.List.AList
import Mathlib.Tactic.Common

/-!
# Domain types

The identifiers, enumerations and records that the storage layer and the services share.
Times are in nanoseconds since Go's zero time; those that no operation reads back are left out.
-/

namespace WalletManager

inductive Sentinel
  | errNoRows
  | errDuplicateEvent
  | errDuplicateWithdrawal
  | errDuplicateFunding
  | errDuplicateAudit
  | errWalletRetired
  | errNoSolanaRPC
  deriving DecidableEq, Repr

/-- An error value: its text and the sentinel it wraps, if any. -/
structure Error where
  message : String
  is : Option Sentinel := none
  deriving DecidableEq, Repr

/-- `fmt.Errorf("context: %w", err)`: the text is extended, the sentinel stays wrapped. -/
def Error.wrap (context : String) (err : Error) : Error :=
  ⟨context ++ ": " ++ err.message, err.is⟩

def errNoRows : Error := ⟨"sql: no rows in result set", some .errNoRows⟩
def errDuplicateEvent : Error := ⟨"duplicate balance event", some .errDuplicateEvent⟩
def errDuplicateWithdrawal : Error := ⟨"duplicate in-flight withdrawal", some .errDuplicateWithdrawal⟩
def errDuplicateFunding : Error := ⟨"duplicate open funding request", some .errDuplicateFunding⟩
def errDuplicateAudit : Error := ⟨"duplicate audit event", some .errDuplicateAudit⟩
def errWalletRetired : Error := ⟨"wallet is retired", some .errWalletRetired⟩
def errNoSolanaRPC : Error := ⟨"solana: no RPC URL configured", some .errNoSolanaRPC⟩

abbrev Bytes := List UInt8

def utf8 (s : String) : Bytes := s.toUTF8.data.toList

structure UUID where
  bytes : Bytes
  length_eq : bytes.length = 16
  deriving DecidableEq

/-- `uuid.Nil` -/
def UUID.nil : UUID := ⟨List.replicate 16 0, rfl⟩

def UUID.ofByte (n : UInt8) : UUID := ⟨List.replicate 15 0 ++ [n], rfl⟩

def hexDigit (n : Nat) : Char :=
  if n < 10 then Char.ofNat (48 + n) else Char.ofNat (87 + n)

def hexByte (b : UInt8) : List Char := [hexDigit (b.toNat / 16), hexDigit (b.toNat % 16)]

/-- The canonical text of an identifier, 8-4-4-4-12 hexadecimal digits. -/
def UUID.string (u : UUID) : String :=
  let h := u.bytes.flatMap hexByte
  String.ofList (h.take 8 ++ '-' :: (h.drop 8).take 4 ++ '-' :: (h.drop 12).take 4 ++
    '-' :: (h.drop 16).take 4 ++ '-' :: h.drop 20)

/-- Blockchain identifiers; `other` is any name the service does not know. -/
inductive Chain
  | ethereum
  | polygon
  | arbitrum
  | base
  | optimism
  | solana
  | bitcoin
  | other (name : String)
  deriving DecidableEq, Repr

namespace Chain

def string : Chain → String
  | ethereum => "ethereum"
  | polygon => "polygon"
  | arbitrum => "arbitrum"
  | base => "base"
  | optimism => "optimism"
  | solana => "solana"
  | bitcoin => "bitcoin"
  | other name => name

def isEVM : Chain → Bool
  | ethereum | polygon | arbitrum | base | optimism => true
  | _ => false

end Chain

inductive WalletType
  | hot
  | warm
  | cold
  deriving DecidableEq, Repr

def WalletType.string : WalletType → String
  | hot => "HOT"
  | warm => "WARM"
  | cold => "COLD"

inductive WalletState
  | active
  | paused
  | retired
  deriving DecidableEq, Repr

def WalletState.string : WalletState → String
  | active => "ACTIVE"
  | paused => "PAUSED"
  | retired => "RETIRED"

inductive AddressState
  | active
  | deprecated
  deriving DecidableEq, Repr

structure Wallet where
  id : UUID
  chain : Chain
  type : WalletType
  state : WalletState
  keyID : String
  rotationDays : Option Int := none
  rotationAfterReceives : Option Int := none
  label : String := ""
  custodianRef : String := ""
  deriving DecidableEq

structure Address where
  id : UUID
  walletID : UUID
  chain : Chain
  address : String
  derivationPath : String
  index : Int
  change : Int
  state : AddressState
  receiveCount : Int := 0
  createdAt : Int
  deriving DecidableEq

structure Config where
  confirmationsEVM : Int
  confirmationsBTC : Int
  defaultRotationDays : Int
  deriving DecidableEq, Repr

abbrev Table (K V : Type) := AList (fun _ : K => V)

lemma Table.mem_iff {K V : Type} [DecidableEq K] {t : Table K V} {k : K} :
    k ∈ t ↔ ∃ v, t.lookup k = some v := by
  rw [← AList.lookup_isSome, Option.isSome_iff_exists]

end WalletManager
