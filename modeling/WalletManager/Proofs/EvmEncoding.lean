import WalletManager.Codec.Rlp
import WalletManager.Withdrawal.TxBuilder

/-!
# The encoding of signed EVM transactions

The encoder of the transaction builder writes the recursive length prefix encoding of a flat list in
its canonical form, so a signed legacy transaction reads back field by field.
-/

namespace WalletManager.Proofs

section Numbers

lemma bigEndian_eq {fuel n : ℕ} (h : n < 256 ^ fuel) : bigEndian fuel n = BigEndian.bytes n := by
  induction fuel generalizing n with
  | zero =>
    obtain rfl : n = 0 := by simpa using h
    rfl
  | succ fuel ih =>
    rw [bigEndian]
    split
    · rename_i hn
      rw [hn, BigEndian.bytes_zero]
    · rename_i hn
      have hdiv : n / 256 < 256 ^ fuel := Nat.div_lt_of_lt_mul (by rwa [Nat.pow_succ'] at h)
      have hmod : UInt8.ofNat (n % 256) = UInt8.ofNat n := by
        apply UInt8.toNat_inj.mp
        simp
      rw [ih hdiv, BigEndian.bytes_of_pos (Nat.pos_of_ne_zero hn), hmod]

lemma bigUint_eq {n : ℕ} (h : n < 2 ^ 64) : bigUint n = BigEndian.bytes n :=
  bigEndian_eq h

lemma bigIntBytes_eq (n : Int) : bigIntBytes n = BigEndian.bytes n.natAbs := by
  refine bigEndian_eq ?_
  have hlog : n.natAbs < 2 ^ (n.natAbs.log2 + 1) := Nat.lt_log2_self
  have hpow : 2 ^ (n.natAbs.log2 + 1) ≤ 256 ^ (n.natAbs.log2 / 8 + 1) := by
    rw [show 256 = 2 ^ 8 by rfl, ← pow_mul]
    exact Nat.pow_le_pow_right (by decide) (by omega)
  omega

end Numbers

section Lists

lemma rlpEncodeLenPrefix_append (offset : ℕ) {b : Bytes} (h : b.length < 2 ^ 64) :
    rlpEncodeLenPrefix b.length (UInt8.ofNat offset) (UInt8.ofNat (offset + 55)) ++ b =
      Rlp.frame offset b := by
  unfold rlpEncodeLenPrefix Rlp.frame
  split
  · rw [Nat.add_comm offset, UInt8.ofNat_add]
    rfl
  · dsimp only
    rw [bigUint_eq h, UInt8.ofNat_add (offset + 55)]
    rfl

lemma rlpEncodeItem_eq {b : Bytes} (h : b.length < 2 ^ 64) : rlpEncodeItem b = Rlp.encodeStr b := by
  have hbyte : (b.length = 1 ∧ b.all (· < 0x80)) ↔ Rlp.isByte b := by
    rcases b with _ | ⟨x, _ | ⟨y, b⟩⟩
    · simp [Rlp.isByte]
    · simp [Rlp.isByte, UInt8.lt_iff_toNat_lt]
    · simp [Rlp.isByte]
  unfold rlpEncodeItem Rlp.encodeStr
  simp only [hbyte]
  split
  · rfl
  · exact rlpEncodeLenPrefix_append 128 h

lemma length_rlpEncodeItem (b : Bytes) : b.length ≤ (rlpEncodeItem b).length := by
  unfold rlpEncodeItem
  split
  · exact le_rfl
  · simp

lemma flatMap_rlpEncodeItem {elems : List Bytes} (h : (elems.flatMap rlpEncodeItem).length < 2 ^ 64) :
    elems.flatMap rlpEncodeItem = Rlp.encodeAll (elems.map .str) := by
  induction elems with
  | nil => rfl
  | cons b elems ih =>
    rw [List.flatMap_cons, List.length_append] at h
    have hlen := length_rlpEncodeItem b
    rw [List.flatMap_cons, rlpEncodeItem_eq (by omega), ih (by omega)]
    rfl

theorem evmEncodeList_eq {elems : List Bytes} (h : (evmEncodeList elems).length < 2 ^ 64) :
    evmEncodeList elems = (Rlp.Item.list (elems.map .str)).encode := by
  unfold evmEncodeList at h ⊢
  rw [List.length_append] at h
  have hinner : (elems.flatMap rlpEncodeItem).length < 2 ^ 64 := by omega
  rw [Rlp.Item.encode, ← flatMap_rlpEncodeItem hinner]
  exact rlpEncodeLenPrefix_append 192 hinner

theorem decode_evmEncodeList {elems : List Bytes} (h : (evmEncodeList elems).length < 2 ^ 64) :
    Rlp.decode (evmEncodeList elems) = some (.list (elems.map .str)) := by
  have hsize := h
  rw [evmEncodeList_eq h] at hsize ⊢
  exact Rlp.decode_encode _ hsize

lemma length_lt_of_mem {elems : List Bytes} (h : (evmEncodeList elems).length < 2 ^ 64) {b : Bytes}
    (hb : b ∈ elems) : b.length < 2 ^ 64 := by
  have hitem : (rlpEncodeItem b).length ≤ (elems.flatMap rlpEncodeItem).length :=
    (List.sublist_flatten_of_mem (List.mem_map_of_mem hb)).length_le
  have hlen := length_rlpEncodeItem b
  have hlist : (elems.flatMap rlpEncodeItem).length ≤ (evmEncodeList elems).length := by
    unfold evmEncodeList
    simp
  omega

/-- The decoder reads the whole encoding back as the encoded strings, so no other strings have it.
The length of the list and that of every string that is not a small byte are written in the only
form of least length. -/
theorem evmEncodeList_canonical {elems : List Bytes} (h : (evmEncodeList elems).length < 2 ^ 64) :
    Rlp.decode (evmEncodeList elems) = some (.list (elems.map .str)) ∧
    (∀ elems', evmEncodeList elems' = evmEncodeList elems → elems' = elems) ∧
    (∃ header, Rlp.MinimalHeader 192 (elems.flatMap rlpEncodeItem).length header ∧
      evmEncodeList elems = header ++ elems.flatMap rlpEncodeItem) ∧
    ∀ b ∈ elems, (Rlp.isByte b ∧ rlpEncodeItem b = b) ∨
      ∃ header, Rlp.MinimalHeader 128 b.length header ∧ rlpEncodeItem b = header ++ b := by
  refine ⟨decode_evmEncodeList h, ?_, ?_, ?_⟩
  · intro elems' heq
    have hread := decode_evmEncodeList (heq ▸ h : (evmEncodeList elems').length < 2 ^ 64)
    rw [heq, decode_evmEncodeList h, Option.some.injEq, Rlp.Item.list.injEq] at hread
    exact (List.map_injective_iff.mpr (fun _ _ => Rlp.Item.str.inj) hread).symm
  · have hinner : (elems.flatMap rlpEncodeItem).length < 2 ^ 64 := by
      unfold evmEncodeList at h
      rw [List.length_append] at h
      omega
    obtain ⟨header, hheader, hframe⟩ := Rlp.frame_minimal 192 hinner
    exact ⟨header, hheader, (rlpEncodeLenPrefix_append 192 hinner).trans hframe⟩
  · intro b hb
    have hlen := length_lt_of_mem h hb
    rw [rlpEncodeItem_eq hlen]
    unfold Rlp.encodeStr
    split
    · rename_i hbyte
      exact .inl ⟨hbyte, rfl⟩
    · exact .inr (Rlp.frame_minimal 128 hlen)

/-- An empty string, one of a single small byte, and one whose length needs a byte of its own. -/
theorem evmEncodeList_canonical_mixed :
    evmEncodeList [[], [5], List.replicate 56 1] = [248, 60, 128, 5, 184, 56] ++ List.replicate 56 1 ∧
    Rlp.decode (evmEncodeList [[], [5], List.replicate 56 1]) =
      some (.list [.str [], .str [5], .str (List.replicate 56 1)]) := by
  have hbytes : evmEncodeList [[], [5], List.replicate 56 1] =
      [248, 60, 128, 5, 184, 56] ++ List.replicate 56 1 := by decide
  exact ⟨hbytes, (evmEncodeList_canonical (by rw [hbytes]; decide)).1⟩

end Lists

structure LegacyTx where
  nonce : ℕ
  gasPrice : ℕ
  gasLimit : ℕ
  target : Bytes
  value : ℕ
  data : Bytes
  v : ℕ
  r : ℕ
  s : ℕ
  deriving DecidableEq

def readNumber (b : Bytes) : Option ℕ :=
  if b.head? = some 0 then none else some (BigEndian.value b)

def decodeLegacyTx (b : Bytes) : Option LegacyTx :=
  match Rlp.decode b with
  | some (.list [.str nonce, .str gasPrice, .str gasLimit, .str target, .str value, .str data,
      .str v, .str r, .str s]) => do
    return ⟨← readNumber nonce, ← readNumber gasPrice, ← readNumber gasLimit, target,
      ← readNumber value, data, ← readNumber v, ← readNumber r, ← readNumber s⟩
  | _ => none

@[simp]
lemma readNumber_bytes (n : ℕ) : readNumber (BigEndian.bytes n) = some n := by
  rw [readNumber, if_neg (BigEndian.head_bytes n), BigEndian.value_bytes]

theorem decodeLegacyTx_evmEncodeSignedTx {tx : EVMLegacyTx} {r s v : Int} (hnonce : tx.nonce < 2 ^ 64)
    (hgas : tx.gasLimit < 2 ^ 64) (hlen : (evmEncodeSignedTx tx r s v).length < 2 ^ 64) :
    decodeLegacyTx (evmEncodeSignedTx tx r s v) = some ⟨tx.nonce, tx.gasPrice.natAbs, tx.gasLimit,
      tx.target, tx.value.natAbs, tx.data, v.natAbs, r.natAbs, s.natAbs⟩ := by
  unfold evmEncodeSignedTx at hlen ⊢
  rw [decodeLegacyTx, decode_evmEncodeList hlen]
  simp [EVMLegacyTx.elems, bigUint_eq hnonce, bigUint_eq hgas, bigIntBytes_eq]

section Recovery

/-- The recovery id of a compact signature. Its header counts from 27, or from 31 for a compressed key. -/
def recoveryID (sig : Bytes) : ℕ := ((sig.headD 0).toNat - 27) % 4

/-- How EIP-155 reads the field `v` of a signed transaction: the chain and the recovery id. -/
def eip155 (v : Int) : Int × Int := ((v - 35) / 2, (v - 35) % 2)

lemma evmSigFromMPC_ok {sig : Bytes} {c r s v : Int} (h : evmSigFromMPC sig c = .ok (r, s, v)) :
    27 ≤ (sig.headD 0).toNat ∧ (sig.headD 0).toNat ≤ 34 ∧ v = c * 2 + (35 + recoveryID sig) := by
  unfold evmSigFromMPC at h
  split at h
  · cases h
  dsimp only at h
  split at h
  · cases h
  rename_i hheader
  rw [not_or, UInt8.not_lt, gt_iff_lt, UInt8.not_lt, UInt8.le_iff_toNat_le, UInt8.le_iff_toNat_le] at hheader
  obtain ⟨hlow, hhigh⟩ := hheader
  change 27 ≤ _ at hlow
  change _ ≤ 34 at hhigh
  simp only [Except.ok.injEq, Prod.mk.injEq] at h
  refine ⟨hlow, hhigh, ?_⟩
  rw [← h.2.2, recoveryID]
  split <;> omega

/-- The field `v` names the chain that the signature is made for and its recovery id, exactly for the
headers with a recovery id of 0 or 1. -/
theorem eip155_reads_chain_iff {sig : Bytes} {c : Int} (hlen : sig.length = 65) :
    (∀ r s v, evmSigFromMPC sig c = .ok (r, s, v) → eip155 v = (c, (recoveryID sig : Int))) ↔
      sig.headD 0 ∉ ([29, 30, 33, 34] : List UInt8) := by
  have hheaders : ∀ header ∈ ([29, 30, 33, 34] : List UInt8),
      ¬(header < 27 ∨ header > 34) ∧ 2 ≤ (header.toNat - 27) % 4 := by
    intro header hmem
    simp only [List.mem_cons, List.not_mem_nil, or_false] at hmem
    rcases hmem with rfl | rfl | rfl | rfl <;> decide
  constructor
  · intro hread hmem
    obtain ⟨hvalid, hid⟩ := hheaders _ hmem
    obtain ⟨r, s, v, hsig⟩ : ∃ r s v, evmSigFromMPC sig c = .ok (r, s, v) := by
      unfold evmSigFromMPC
      rw [if_neg (not_not.mpr hlen)]
      dsimp only
      rw [if_neg hvalid]
      exact ⟨_, _, _, rfl⟩
    have heq := hread r s v hsig
    obtain ⟨-, -, rfl⟩ := evmSigFromMPC_ok hsig
    change 2 ≤ recoveryID sig at hid
    rw [eip155, Prod.mk.injEq] at heq
    omega
  · intro hmem r s v hsig
    obtain ⟨hlow, hhigh, rfl⟩ := evmSigFromMPC_ok hsig
    have hid : recoveryID sig < 2 := by
      simp only [List.mem_cons, List.not_mem_nil, or_false, not_or, ← UInt8.toNat_inj,
        UInt8.reduceToNat] at hmem
      unfold recoveryID
      omega
    rw [eip155, Prod.mk.injEq]
    omega

/-- The header 28 stands for the recovery id 1. -/
theorem eip155_reads_chain_odd : ∃ r s v, evmSigFromMPC (28 :: List.replicate 64 1) 137 = .ok (r, s, v) ∧
    recoveryID (28 :: List.replicate 64 1) = 1 ∧ eip155 v = (137, 1) := by
  have hlen : ((28 : UInt8) :: List.replicate 64 1).length = 65 := by decide
  exact ⟨_, _, _, rfl, rfl, (eip155_reads_chain_iff hlen).mpr (by decide) _ _ _ rfl⟩

/-- A signature for chain 1 with the recovery id 2 is read as one for chain 2. -/
theorem other_chain_read : ∃ r s v, evmSigFromMPC (29 :: List.replicate 64 1) 1 = .ok (r, s, v) ∧
    recoveryID (29 :: List.replicate 64 1) = 2 ∧ eip155 v = (2, 0) :=
  ⟨_, _, _, rfl, rfl, rfl⟩

end Recovery

end WalletManager.Proofs
