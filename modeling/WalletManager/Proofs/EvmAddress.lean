import WalletManager.Proofs.EvmEncoding
import WalletManager.Proofs.KeyVectors

/-!
# The key behind an EVM address

The deriver copies the coordinates of a public key to the front of their slots. A coordinate
with fewer than 32 bytes is thereby shifted, and the address is that of other bytes.
-/

namespace WalletManager.Proofs

namespace Secp

def fieldPrime : ℕ := 2 ^ 256 - 2 ^ 32 - 977

def OnCurve (pk : PubKey) : Prop :=
  pk.x < fieldPrime ∧ pk.y < fieldPrime ∧ pk.y ^ 2 % fieldPrime = (pk.x ^ 3 + 7) % fieldPrime
  deriving Decidable

def uncompressed (pk : PubKey) : Bytes := 0x04 :: (BigEndian.padded 32 pk.x ++ BigEndian.padded 32 pk.y)

/-- A coordinate that takes all 32 bytes of its slot, or none. -/
def FillsSlot (n : ℕ) : Prop := n = 0 ∨ 2 ^ 248 ≤ n
  deriving Decidable

end Secp

open Secp

section Slots

variable {n : ℕ}

lemma copyArray_toList {b : Bytes} (h : b.length ≤ n) :
    (copyArray n b).toList = b ++ List.replicate (n - b.length) 0 := by
  apply List.ext_getElem
  · simp
    omega
  · intro i _ _
    by_cases hi : i < b.length
    · simp [copyArray, List.getElem_append_left hi, hi]
    · simp [copyArray, List.getElem_append_right (not_lt.mp hi), hi]

lemma copyArray_eq_padded (h : n < 2 ^ 256) :
    (copyArray 32 (bigIntBytes n)).toList = BigEndian.padded 32 n ↔ FillsSlot n := by
  have hlen : (BigEndian.bytes n).length ≤ 32 := BigEndian.length_bytes_le h
  rw [bigIntBytes_eq, Int.natAbs_natCast, copyArray_toList hlen]
  exact BigEndian.append_zeros_eq_padded h

end Slots

lemma decompressSecp256k1_ok {parsePubKey : Bytes → Except Error PubKey} {key : Bytes} {pk : PubKey}
    (hlen : key.length = 33) (hparse : parsePubKey key = .ok pk) :
    decompressSecp256k1 parsePubKey key = .ok (0x04 :: ((copyArray 32 (bigIntBytes pk.x)).toList ++
      (copyArray 32 (bigIntBytes pk.y)).toList)) := by
  rw [decompressSecp256k1, if_neg (not_not.mpr hlen), hparse]
  rfl

/-- The key is decompressed to its standard form exactly when both coordinates fill their slots,
and then the address is made of the last 20 bytes of that form's hash. -/
theorem address_of_standard_key (lib : Lib) {parsePubKey : Bytes → Except Error PubKey} {key : Bytes}
    {pk : PubKey} (hlen : key.length = 33) (hparse : parsePubKey key = .ok pk) (hx : pk.x < 2 ^ 256)
    (hy : pk.y < 2 ^ 256) :
    (decompressSecp256k1 parsePubKey key = .ok (uncompressed pk) ↔ FillsSlot pk.x ∧ FillsSlot pk.y) ∧
    (FillsSlot pk.x → FillsSlot pk.y → evmAddressFromCompressedPubkey lib parsePubKey key =
      some (String.ofList (eip55Checksum lib
        (hexEncode ((lib.keccak256 ((uncompressed pk).drop 1)).drop 12))))) := by
  have hstandard : decompressSecp256k1 parsePubKey key = .ok (uncompressed pk) ↔
      FillsSlot pk.x ∧ FillsSlot pk.y := by
    rw [decompressSecp256k1_ok hlen hparse, uncompressed, Except.ok.injEq, List.cons.injEq,
      and_iff_right rfl, ← copyArray_eq_padded hx, ← copyArray_eq_padded hy]
    constructor
    · intro heq
      refine List.append_inj heq ?_
      rw [Vector.length_toList, BigEndian.length_padded hx]
    · rintro ⟨hxs, hys⟩
      rw [hxs, hys]
  refine ⟨hstandard, fun hxs hys => ?_⟩
  rw [evmAddressFromCompressedPubkey, if_neg (not_not.mpr hlen), hstandard.mpr ⟨hxs, hys⟩]

theorem address_of_standard_key_generator : OnCurve generatorKey ∧
    decompressSecp256k1 parseKnown (compressed generatorKey) = .ok (uncompressed generatorKey) ∧
    evmAddressFromCompressedPubkey referenceLib parseKnown (compressed generatorKey) =
      some "0x7E5F4552091A69125d5DfCb7b8C2659029395Bdf" := by
  have hx : FillsSlot generatorKey.x := by decide +kernel
  have hy : FillsSlot generatorKey.y := by decide +kernel
  obtain ⟨hform, haddress⟩ := address_of_standard_key referenceLib
    (by decide +kernel : (compressed generatorKey).length = 33)
    (by decide +kernel : parseKnown (compressed generatorKey) = .ok generatorKey)
    (by decide +kernel) (by decide +kernel)
  refine ⟨by decide +kernel, hform.mpr ⟨hx, hy⟩, ?_⟩
  rw [haddress hx hy]
  decide +kernel

/-- The one byte of `x` stands at the front of its slot. -/
theorem short_coordinate_shifted : OnCurve unitKey ∧
    parseKnown (compressed unitKey) = .ok unitKey ∧
    decompressSecp256k1 parseKnown (compressed unitKey) =
      .ok (0x04 :: ((1 :: List.replicate 31 0) ++ BigEndian.padded 32 unitKey.y)) ∧
    decompressSecp256k1 parseKnown (compressed unitKey) ≠ .ok (uncompressed unitKey) := by
  refine ⟨?_, ?_, ?_, ?_⟩ <;> decide +kernel

end WalletManager.Proofs
