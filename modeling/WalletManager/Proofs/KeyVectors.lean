import WalletManager.Deriver.Registry
import WalletManager.Numeric.BigEndian
import WalletManager.Proofs.Reference

/-!
# Keys and addresses of the derivers' tests

A key library that knows the extended keys with which the repository tests its derivers: some of their
children, with the hashes and addresses of these.
-/

namespace WalletManager.Proofs

def Secp.compressed (pk : PubKey) : Bytes := UInt8.ofNat (2 + pk.y % 2) :: BigEndian.padded 32 pk.x

open Secp

def unitKey : PubKey := ⟨1, 0x4218f20ae6c646b363db68605822fb14264ca8d2587fdd6fbc750d587e76a7ee⟩

def generatorKey : PubKey where
  x := 0x79be667ef9dcbbac55a06295ce870b07029bfcdb2dce28d959f2815b16f81798
  y := 0x483ada7726a3c4655da4fbfc0e1108a8fd17b448a68554199c47d08ffb10d4b8

def evmXpub : String :=
  "xpub6CeDpm2b5qtk96oy8yvM572W6cLZSvU5vnpKmKPypbfFwXo86SyT7VtfwWtMZAgZ5eKVMU9NnULt91HBFw9j62wJrcoc1ZRWiNvoorwBRXL"

def btcXpub : String :=
  "xpub6C1HVMz946r433QEjZGpYYWYcspxXXBPys5PBGkmQboRXE6RLfFiStEkKbWKCZaPgDrzZh9nUEunxuiuy6MNdw23du2Ek7GoKYMJVH8eK5E"

def keyTable : List ((String × List ℕ) × PubKey) := [
  ((evmXpub, [0, 0]), ⟨0x844a5d329470697de9926c9c98839ea33b6dd9507a896194ae2b91d71faa16d6,
    0x4b9c486b7a6395543027bc6e8c99e1967fb41718e1ab1ef66585c5c55470ca1d⟩),
  ((evmXpub, [0, 1]), ⟨0x170acbbcb89dd0e364ce51c96770fa24d7be16e486183c390f9d0bcb520df8e6,
    0xc492b81d94df540ce7e7104493f38ae0956eb30e252a5280c05b034c584fc5cf⟩),
  ((btcXpub, [0, 0]), ⟨0xce3088b423b443a7dd03ffc917961c43df41b50a5627e1af31a2fd65c57be50a,
    0x1a1621fe490b303224796110d94cd5487f9449a71dd5478ecdc4af9ef502cf9c⟩),
  ((btcXpub, [0, 5]), ⟨0x7467517415cd9bebf7417377925c4cac0bddebd69e195a26d6c15728dac4d76c,
    0x8b8221204c5d709a70d6111881659c0e5b1437167b6914402a7521206e6953e5⟩)]

def evmFirst : String := "0x022b971dFF0C43305e691DEd7a14367AF19D6407"

def evmSecond : String := "0xbb7A182240010703dc81D6b1EFf630CA02a169FD"

def parseKnown (b : Bytes) : Except Error PubKey :=
  match (unitKey :: generatorKey :: keyTable.map Prod.snd).find? (fun pk => compressed pk = b) with
  | some pk => .ok pk
  | none => .error ⟨"malformed public key", none⟩

def knownKey (pk : PubKey) : Except Error (CompressedKey parseKnown) :=
  if h : (compressed pk).length = 33 ∧ (parseKnown (compressed pk)).toBool = true then .ok ⟨_, h⟩
  else .error ⟨"malformed public key", none⟩

def programTable : List (ℕ × String) := [
  (0x0f0d117a87e7e06468b90afbdb72c3ef66072da6, "bc1qpux3z758ulsxg69eptaakukraanqwtdxe5yy4c"),
  (0x35d98b00b5227268bb8911ae690581c1c51b8c30, "bc1qxhvckq94yfex3wufzxhxjpvpc8z3hrpst5xl98")]

def programBytes (n : ℕ) : Bytes := (littleEndian 20 n).reverse

def knownHash160 (b : Bytes) : Bytes :=
  programBytes (([(0x02ce3088b423b443a7dd03ffc917961c43df41b50a5627e1af31a2fd65c57be50a,
      0x0f0d117a87e7e06468b90afbdb72c3ef66072da6),
    (0x037467517415cd9bebf7417377925c4cac0bddebd69e195a26d6c15728dac4d76c,
      0x35d98b00b5227268bb8911ae690581c1c51b8c30)].lookup (bigIntSetBytes b).toNat).getD 0)

def fiveBits (n : ℕ) : Bytes := (List.range 32).reverse.map (fun i => UInt8.ofNat (n / 32 ^ i % 32))

def knownBits (b : Bytes) : Except Error Bytes :=
  match programTable.find? (fun e => programBytes e.1 = b) with
  | some e => .ok (fiveBits e.1)
  | none => .error ⟨"not tabulated", none⟩

def knownAddress (hrp : String) (data : Bytes) : Except Error String :=
  match programTable.find? (fun e => hrp = "bc" ∧ 0x00 :: fiveBits e.1 = data) with
  | some e => .ok e.2
  | none => .error ⟨"not tabulated", none⟩

def keyAt (other : Except Error (CompressedKey parseKnown)) (key : String × List ℕ) :
    Except Error (CompressedKey parseKnown) :=
  match keyTable.lookup key with
  | some pk => knownKey pk
  | none => other

def keysWith (other : Except Error (CompressedKey parseKnown)) : KeyLib where
  Key := String × List ℕ
  newKeyFromString text :=
    if text = evmXpub ∨ text = btcXpub then .ok (text, [])
    else .error ⟨"the provided serialized extended key length is invalid", none⟩
  deriveKey key n := .ok (key.1, key.2 ++ [n])
  parsePubKey := parseKnown
  ecPubKey := keyAt other
  hash160 := knownHash160
  convertBits := knownBits
  bech32Encode := knownAddress

def referenceKeys : KeyLib := keysWith (knownKey generatorKey)

def referenceRegistry : Registry := ⟨referenceLib, referenceKeys, ⟨evmXpub⟩, ⟨"sol"⟩, ⟨btcXpub⟩⟩

def knownProgram (addr : String) : Option Bytes :=
  (programTable.find? (fun e => e.2 = addr)).map (fun e => programBytes e.1)

lemma keysWith_evm (other : Except Error (CompressedKey parseKnown)) {n : Int} (hn : 0 ≤ n)
    (hrange : n < 2 ^ 31) : EVMDeriver.deriveUncached referenceLib (keysWith other) ⟨evmXpub⟩ n =
      ((keyAt other (evmXpub, [0, n.toNat])).mapError (Error.wrap "ec pubkey")).map
        (CompressedKey.evmAddress referenceLib) := by
  have hacc : (keysWith other).newKeyFromString evmXpub = .ok (evmXpub, []) := by
    simp [keysWith]
  have hindex : nonHardened n = .ok n.toNat := if_neg (by omega)
  unfold EVMDeriver.deriveUncached
  dsimp only
  rw [hacc, hindex]
  rfl

lemma knownKey_ok {pk : PubKey} (h : pk ∈ generatorKey :: keyTable.map Prod.snd) :
    ∃ pub, knownKey pk = .ok pub := by
  have hall : ∀ pk ∈ generatorKey :: keyTable.map Prod.snd, (knownKey pk).toBool = true := by decide +kernel
  exact exists_ok_of_toBool (hall pk h)

lemma keyAt_generator (key : String × List ℕ) : ∃ pub, keyAt (knownKey generatorKey) key = .ok pub := by
  unfold keyAt
  split
  · rename_i pk hpk
    obtain ⟨l₁, l₂, heq, -⟩ := List.lookup_eq_some_iff.mp hpk
    refine knownKey_ok (List.mem_cons_of_mem _ (List.mem_map.mpr ⟨(key, pk), ?_, rfl⟩))
    simp [heq]
  · exact knownKey_ok List.mem_cons_self

end WalletManager.Proofs
