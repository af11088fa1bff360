import WalletManager.Numbers

/-!
# EVM addresses

The address of a compressed secp256k1 public key: the key is decompressed, hashed without its
first byte, and the last 20 bytes of the hash are written with the EIP-55 checksum.
-/

namespace WalletManager

/-- `btcec.PublicKey`, as its affine coordinates. -/
structure PubKey where
  x : Nat
  y : Nat
  deriving DecidableEq

/-- Decompression, where `parsePubKey` is `btcec.ParsePubKey`. -/
def decompressSecp256k1 (parsePubKey : Bytes → Except Error PubKey) (compressed : Bytes) :
    Except Error Bytes :=
  if compressed.length ≠ 33 then
    .error ⟨"invalid compressed pubkey length " ++ compressed.length.repr, none⟩
  else match parsePubKey compressed with
    | .error err => .error (err.wrap "parse pubkey")
    | .ok pk => .ok (0x04 :: (copyArray 32 (bigIntBytes pk.x)).toList ++
        (copyArray 32 (bigIntBytes pk.y)).toList)

/-- `hex.EncodeToString` -/
def hexEncode (b : Bytes) : List Char := b.flatMap hexByte

def eip55Checksum (lib : Lib) (addrLower : List Char) : List Char :=
  let addrLower := (match addrLower with
    | '0' :: 'x' :: cs => cs
    | cs => cs).map Char.toLower
  let hh := hexEncode (lib.keccak256 (utf8 (String.ofList addrLower)))
  -- a letter becomes a capital where the digit of the hash is at least 8
  '0' :: 'x' :: addrLower.mapIdx (fun i c =>
    if c.isDigit then c
    else if hh.getD i '0' ≥ '8' then Char.ofNat (c.toNat - 32)
    else c)

/-- The address of a compressed public key; `none` is a panic. -/
def evmAddressFromCompressedPubkey (lib : Lib) (parsePubKey : Bytes → Except Error PubKey)
    (compressed : Bytes) : Option String :=
  if compressed.length ≠ 33 then none
  else match decompressSecp256k1 parsePubKey compressed with
    | .error _ => none
    | .ok pub =>
      let digest := lib.keccak256 (pub.drop 1)
      some (String.ofList (eip55Checksum lib (hexEncode (digest.drop 12))))

/-- A compressed public key that `parsePubKey` accepts. -/
def CompressedKey (parsePubKey : Bytes → Except Error PubKey) : Type :=
  {b : Bytes // b.length = 33 ∧ (parsePubKey b).toBool = true}

lemma evmAddressFromCompressedPubkey_isSome (lib : Lib) {parsePubKey : Bytes → Except Error PubKey}
    (pub : CompressedKey parsePubKey) : (evmAddressFromCompressedPubkey lib parsePubKey pub.1).isSome := by
  obtain ⟨b, hlen, hparse⟩ := pub
  obtain ⟨pk, hpk⟩ : ∃ pk, parsePubKey b = .ok pk := by
    cases h : parsePubKey b with
    | error err =>
      rw [h] at hparse
      cases hparse
    | ok pk => exact ⟨pk, rfl⟩
  simp [evmAddressFromCompressedPubkey, decompressSecp256k1, hlen, hpk]

/-- The address of a key that the derivers get from `ECPubKey`, for which there is no panic. -/
def CompressedKey.evmAddress (lib : Lib) {parsePubKey : Bytes → Except Error PubKey}
    (pub : CompressedKey parsePubKey) : String :=
  (evmAddressFromCompressedPubkey lib parsePubKey pub.1).get (evmAddressFromCompressedPubkey_isSome lib pub)

end WalletManager
