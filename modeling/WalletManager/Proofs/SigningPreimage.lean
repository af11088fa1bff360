import WalletManager.Proofs.BuiltTransactions
import WalletManager.Proofs.EvmEncoding
import WalletManager.Proofs.Reference

/-!
# What an EVM signature commits to

Equal signing preimages come from transactions with the same nonce, destination and absolute
value. The chain of the wallet and the asset of the withdrawal are not part of the preimage, a
negative amount has the bytes of its absolute value, and a negative nonce those of zero.
-/

namespace WalletManager.Proofs

section Encoding

lemma bigEndian_length_mono (fuel : ℕ) {n m : ℕ} (h : n ≤ m) :
    (bigEndian fuel n).length ≤ (bigEndian fuel m).length := by
  induction fuel generalizing n m with
  | zero => simp [bigEndian]
  | succ fuel ih =>
    by_cases hn : n = 0
    · simp [bigEndian, hn]
    · have hm : m ≠ 0 := by omega
      have hdiv := ih (Nat.div_le_div_right h : n / 256 ≤ m / 256)
      simp only [bigEndian, if_neg hn, if_neg hm, List.length_append, List.length_singleton]
      omega

lemma rlpEncodeLenPrefix_length_mono (offset longOffset : UInt8) {n m : ℕ} (h : n ≤ m) :
    (rlpEncodeLenPrefix n offset longOffset).length ≤ (rlpEncodeLenPrefix m offset longOffset).length := by
  have hlen : (bigUint n).length ≤ (bigUint m).length := bigEndian_length_mono 8 h
  unfold rlpEncodeLenPrefix
  split
  · split <;> simp
  · rw [if_neg (by omega)]
    simpa using hlen

lemma rlpEncodeLenPrefix_append_inj {offset longOffset : UInt8} {b b' : Bytes}
    (h : rlpEncodeLenPrefix b.length offset longOffset ++ b =
      rlpEncodeLenPrefix b'.length offset longOffset ++ b') : b = b' := by
  have hsize := congrArg List.length h
  rw [List.length_append, List.length_append] at hsize
  have hlen : b.length = b'.length := by
    rcases le_total b.length b'.length with hle | hle
    · have hmono := rlpEncodeLenPrefix_length_mono offset longOffset hle
      omega
    · have hmono := rlpEncodeLenPrefix_length_mono offset longOffset hle
      omega
  rw [hlen] at h
  exact List.append_cancel_left h

lemma rlpEncodeLenPrefix_length_pos (n : ℕ) (offset longOffset : UInt8) :
    0 < (rlpEncodeLenPrefix n offset longOffset).length := by
  unfold rlpEncodeLenPrefix
  split <;> simp

lemma framed_ne_byte {b b' : Bytes} (hb : b.length = 1 ∧ b.all (· < 0x80)) :
    b ≠ rlpEncodeLenPrefix b'.length 0x80 0xb7 ++ b' := by
  rintro rfl
  have hpos := rlpEncodeLenPrefix_length_pos b'.length 0x80 0xb7
  have hlen := hb.1
  rw [List.length_append] at hlen
  obtain rfl : b' = [] := List.length_eq_zero_iff.mp (by omega)
  exact absurd hb.2 (by decide)

lemma rlpEncodeItem_injective : Function.Injective rlpEncodeItem := by
  intro b b' h
  unfold rlpEncodeItem at h
  split at h
  · rename_i hb
    split at h
    · exact h
    · exact absurd h (framed_ne_byte hb)
  · split at h
    · rename_i hb'
      exact absurd h.symm (framed_ne_byte hb')
    · exact rlpEncodeLenPrefix_append_inj h

lemma rlpEncodeItem_append_inj {b b' rest rest' : Bytes} (hb : b.length < 2 ^ 64)
    (hb' : b'.length < 2 ^ 64) (h : rlpEncodeItem b ++ rest = rlpEncodeItem b' ++ rest') :
    b = b' ∧ rest = rest' := by
  rw [rlpEncodeItem_eq hb, rlpEncodeItem_eq hb'] at h
  have hread : Rlp.takeFrame (Rlp.encodeStr b ++ rest) = some (.str b, rest) := Rlp.takeFrame_str b hb
  rw [h, Rlp.takeFrame_str b' hb'] at hread
  cases hread
  exact ⟨rfl, rfl⟩

lemma bigUint_inj {n m : ℕ} (hn : n < 2 ^ 64) (hm : m < 2 ^ 64) (h : bigUint n = bigUint m) : n = m := by
  rw [bigUint_eq hn, bigUint_eq hm] at h
  rw [← BigEndian.value_bytes n, h, BigEndian.value_bytes]

lemma bigIntBytes_inj {n m : Int} (h : bigIntBytes n = bigIntBytes m) : n.natAbs = m.natAbs := by
  rw [bigIntBytes_eq, bigIntBytes_eq] at h
  rw [← BigEndian.value_bytes n.natAbs, h, BigEndian.value_bytes]

lemma bigUint_length (n : ℕ) (h : n < 2 ^ 64) : (bigUint n).length < 2 ^ 64 := by
  rw [bigUint_eq h]
  exact (BigEndian.length_bytes_le h : _ ≤ 8).trans_lt (by decide)

theorem evmEncodeLegacyForSigning_inj {gasPrice chainID value value' : Int} {gasLimit nonce nonce' : ℕ}
    {target target' data : Bytes} (hnonce : nonce < 2 ^ 64) (hnonce' : nonce' < 2 ^ 64)
    (htarget : target.length = 20) (htarget' : target'.length = 20)
    (h : evmEncodeLegacyForSigning ⟨nonce, gasPrice, gasLimit, target, value, data⟩ chainID =
      evmEncodeLegacyForSigning ⟨nonce', gasPrice, gasLimit, target', value', data⟩ chainID) :
    nonce = nonce' ∧ target = target' ∧ value.natAbs = value'.natAbs := by
  have hinner := rlpEncodeLenPrefix_append_inj h
  simp only [EVMLegacyTx.elems, List.cons_append, List.nil_append, List.flatMap_cons] at hinner
  obtain ⟨hfirst, hrest⟩ := rlpEncodeItem_append_inj (bigUint_length nonce hnonce)
    (bigUint_length nonce' hnonce') hinner
  -- the gas price and the gas limit are the same
  obtain ⟨heq, htail⟩ := rlpEncodeItem_append_inj (by omega) (by omega)
    (List.append_cancel_left (List.append_cancel_left hrest))
  have hvalue := rlpEncodeItem_injective (List.append_cancel_right htail)
  exact ⟨bigUint_inj hnonce hnonce' hfirst, heq, bigIntBytes_inj hvalue⟩

end Encoding

structure EVMInput where
  wallet : Wallet
  request : WithdrawalRequest
  nonce : Int
  int64 : -2 ^ 63 ≤ nonce ∧ nonce < 2 ^ 63

namespace EVMInput

variable (lib : Lib) (evm : EVMParams) (i : EVMInput)

def build : Except Error UnsignedTx := buildEVMUnsignedTx lib evm i.wallet i.request i.nonce

def preimage : Option Bytes := do
  let target ← (parseEVMAddress lib i.request.toAddress).toOption
  let value ← bigIntSetString i.request.amount
  return evmEncodeLegacyForSigning ⟨i.nonce.toNat, evm.gasPrice, evmGasLimit, target, value, []⟩ evm.chainID

/-- The input transfers the asset on the chain, and neither nonce nor amount is negative. -/
structure Transfers (chain : Chain) (asset : String) : Prop where
  chain : i.wallet.chain = chain
  asset : i.request.asset = asset
  nonce : 0 ≤ i.nonce
  amount : ∀ n, bigIntSetString i.request.amount = some n → 0 ≤ n

structure Agree (i j : EVMInput) : Prop where
  chain : i.wallet.chain = j.wallet.chain
  asset : i.request.asset = j.request.asset
  nonce : i.nonce = j.nonce
  target : parseEVMAddress lib i.request.toAddress = parseEVMAddress lib j.request.toAddress
  amount : bigIntSetString i.request.amount = bigIntSetString j.request.amount

end EVMInput

section Binding

variable {lib : Lib} {evm : EVMParams} {i j : EVMInput} {unsigned unsigned' : UnsignedTx}

lemma build_preimage (h : i.build lib evm = .ok unsigned) :
    ∃ target value, parseEVMAddress lib i.request.toAddress = .ok target ∧
      bigIntSetString i.request.amount = some value ∧
      i.preimage lib evm = some (evmEncodeLegacyForSigning
        ⟨i.nonce.toNat, evm.gasPrice, evmGasLimit, target, value, []⟩ evm.chainID) := by
  obtain ⟨tx, htx⟩ := buildEVMUnsignedTx_ok h
  refine ⟨tx.target, tx.value, htx.target, htx.value, ?_⟩
  rw [EVMInput.preimage, htx.target, htx.value]
  rfl

theorem payload_hashes_preimage (h : i.build lib evm = .ok unsigned) :
    (i.preimage lib evm).map lib.keccak256 = some unsigned.payload := by
  obtain ⟨tx, htx⟩ := buildEVMUnsignedTx_ok h
  rw [htx.payload, EVMInput.preimage, htx.target, htx.value, htx.parts]
  rfl

theorem preimage_determines (hi : i.build lib evm = .ok unsigned) (hj : j.build lib evm = .ok unsigned')
    (h : i.preimage lib evm = j.preimage lib evm) :
    i.nonce.toNat = j.nonce.toNat ∧
    parseEVMAddress lib i.request.toAddress = parseEVMAddress lib j.request.toAddress ∧
    (bigIntSetString i.request.amount).map Int.natAbs = (bigIntSetString j.request.amount).map Int.natAbs := by
  obtain ⟨target, value, htarget, hvalue, hpre⟩ := build_preimage hi
  obtain ⟨target', value', htarget', hvalue', hpre'⟩ := build_preimage hj
  rw [hpre, hpre', Option.some.injEq] at h
  have hint := i.int64
  have hint' := j.int64
  obtain ⟨hnonce, hto, habs⟩ := evmEncodeLegacyForSigning_inj (by omega) (by omega)
    (parseEVMAddress_length htarget) (parseEVMAddress_length htarget') h
  refine ⟨hnonce, ?_, ?_⟩
  · rw [htarget, htarget', hto]
  · rw [hvalue, hvalue', Option.map_some, Option.map_some, habs]

/-- Within the transfers of one asset on one chain, the preimage determines the transfer. -/
theorem preimage_binds_transfer {chain : Chain} {asset : String} (hi : i.build lib evm = .ok unsigned)
    (hj : j.build lib evm = .ok unsigned') (hki : i.Transfers chain asset) (hkj : j.Transfers chain asset)
    (h : i.preimage lib evm = j.preimage lib evm) : EVMInput.Agree lib i j := by
  obtain ⟨hnonce, hto, habs⟩ := preimage_determines hi hj h
  have hn := hki.nonce
  have hn' := hkj.nonce
  refine ⟨hki.chain.trans hkj.chain.symm, hki.asset.trans hkj.asset.symm, by omega, hto, ?_⟩
  obtain ⟨_, value, -, hvalue, -⟩ := build_preimage hi
  obtain ⟨_, value', -, hvalue', -⟩ := build_preimage hj
  rw [hvalue, hvalue', Option.map_some, Option.map_some, Option.some.injEq] at habs
  have hv := hki.amount value hvalue
  have hv' := hkj.amount value' hvalue'
  rw [hvalue, hvalue', show value = value' by omega]

end Binding

def bindingRequest (target asset amount : String) : WithdrawalRequest :=
  (⟨evmWallet.id, target, asset, amount⟩ : CreateRequest).row (UUID.ofByte 3)

def etherInput : EVMInput :=
  ⟨evmWallet, bindingRequest "0x00000000000000000000000000000000000000aa" "ETH" "5", 0, by decide⟩

def etherInputRespelled : EVMInput :=
  ⟨evmWallet, bindingRequest " 0x00000000000000000000000000000000000000AA" "ETH" "+05", 0, by decide⟩

def tokenInput : EVMInput where
  wallet := { evmWallet with chain := .polygon }
  request := bindingRequest "0x00000000000000000000000000000000000000aa" "USDC" "-5"
  nonce := -1
  int64 := by decide

theorem preimage_binds_transfer_respelled : EVMInput.Agree referenceLib etherInput etherInputRespelled := by
  obtain ⟨unsigned, hi⟩ := exists_ok_of_toBool
    (by decide +kernel : (etherInput.build referenceLib {}).toBool = true)
  obtain ⟨unsigned', hj⟩ := exists_ok_of_toBool
    (by decide +kernel : (etherInputRespelled.build referenceLib {}).toBool = true)
  have hki : etherInput.Transfers .ethereum "ETH" := ⟨rfl, rfl, by decide, by
    intro n hn
    rw [show bigIntSetString etherInput.request.amount = some 5 by decide +kernel] at hn
    cases hn
    decide⟩
  have hkj : etherInputRespelled.Transfers .ethereum "ETH" := ⟨rfl, rfl, by decide, by
    intro n hn
    rw [show bigIntSetString etherInputRespelled.request.amount = some 5 by decide +kernel] at hn
    cases hn
    decide⟩
  exact preimage_binds_transfer hi hj hki hkj (by decide +kernel)

theorem preimage_of_other_transfer :
    (etherInput.build referenceLib {}).toBool ∧ (tokenInput.build referenceLib {}).toBool ∧
    (etherInput.preimage referenceLib {}).isSome ∧
    etherInput.preimage referenceLib {} = tokenInput.preimage referenceLib {} ∧
    etherInput.wallet.chain ≠ tokenInput.wallet.chain ∧
    etherInput.request.asset ≠ tokenInput.request.asset ∧
    etherInput.nonce ≠ tokenInput.nonce ∧
    bigIntSetString etherInput.request.amount ≠ bigIntSetString tokenInput.request.amount := by
  decide +kernel

end WalletManager.Proofs
