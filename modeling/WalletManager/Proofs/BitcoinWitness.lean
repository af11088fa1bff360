import WalletManager.Codec.Der
import WalletManager.Proofs.BuiltTransactions
import WalletManager.Proofs.SpentValues

/-!
# The witnesses of Bitcoin transactions

An input that spends a P2WPKH output carries the DER encoding of its signature with the byte of the
signature hash type behind it, and the public key. The assembled transaction carries the two numbers
of the signature as they come from the signer instead, 32 bytes each, and this is the DER encoding
of no signature.
-/

namespace WalletManager.Proofs

def chunkR (signature : Bytes) (i : ℕ) : ℕ := BigEndian.value ((chunk signature i).take 32)

def chunkS (signature : Bytes) (i : ℕ) : ℕ := BigEndian.value ((chunk signature i).drop 32)

def p2wpkhWitness (r s : ℕ) (pub : Bytes) : List Bytes := [Der.signature r s ++ [sigHashAll], pub]

/-- The signed transaction has the inputs, outputs, version and sequence numbers of the unsigned one. -/
structure OnlyWitnesses (tx signed : MsgTx) : Prop where
  version : signed.version = tx.version
  outputs : signed.txOut = tx.txOut
  inputs : signed.txIn.map (fun txIn => (txIn.previousOutPoint, txIn.sequence)) =
    tx.txIn.map (fun txIn => (txIn.previousOutPoint, txIn.sequence))

lemma withWitnesses_onlyWitnesses (tx : MsgTx) (witness : ℕ → List Bytes) :
    OnlyWitnesses tx (withWitnesses tx witness) :=
  ⟨rfl, rfl, withWitnesses_txIn tx witness (fun _ _ => rfl)⟩

lemma length_chunk {signature : Bytes} {n i : ℕ} (hlen : 64 * n ≤ signature.length) (hi : i < n) :
    (chunk signature i).length = 64 := by
  rw [chunk, List.length_take, List.length_drop]
  omega

lemma rawWitness_ne {signature pub : Bytes} {i : ℕ} (hlen : (chunk signature i).length = 64) :
    rawWitness signature pub i ≠ p2wpkhWitness (chunkR signature i) (chunkS signature i) pub := by
  intro heq
  have hfirst : chunk signature i ++ [sigHashAll] =
      Der.signature (chunkR signature i) (chunkS signature i) ++ [sigHashAll] := (List.cons.inj heq).1
  exact Der.raw_ne_signature hlen (List.append_cancel_right hfirst)

lemma withWitnesses_witness {tx : MsgTx} {witness : ℕ → List Bytes} {i : ℕ} (hi : i < tx.txIn.length) :
    (withWitnesses tx witness).txIn[i]?.map TxIn.witness = some (witness i) := by
  rw [withWitnesses, List.getElem?_mapIdx, List.getElem?_eq_getElem hi]
  rfl

/-- A signature that is long enough is put into the unsigned transaction without other changes, and at no
input the witness is the one that P2WPKH asks for, whatever the numbers of the signature are. -/
theorem witness_never_der {lib : Lib} {wr : WithdrawalRequest} {ops : List String} {opts : BuildOpts}
    {unsigned : UnsignedTx} {signature : Bytes} (hbuild : buildBTCUnsignedTx lib wr ops opts = .ok unsigned)
    (hlen : 64 * ops.length ≤ signature.length) :
    ∃ prevs amount script signed, BTCParts lib wr ops opts unsigned prevs amount script ∧
      unsigned.assemble signature = (lib.serialize signed).mapError (Error.wrap "btc serialize") ∧
      OnlyWitnesses (unsignedMsgTx prevs amount script) signed ∧ signed.txIn.length = ops.length ∧
      ∀ i < ops.length, signed.txIn[i]?.map TxIn.witness = some (rawWitness signature (witnessPub opts) i) ∧
        signed.txIn[i]?.map TxIn.witness ≠
          some (p2wpkhWitness (chunkR signature i) (chunkS signature i) (witnessPub opts)) := by
  obtain ⟨prevs, amount, script, hparts⟩ := buildBTCUnsignedTx_parts hbuild
  have hprevs : prevs.length = ops.length := by
    rw [(parseOutpoints_ok hparts.inputs).2, List.length_map]
  have hcount : (unsignedMsgTx prevs amount script).txIn.length = ops.length := by
    rw [unsignedMsgTx, List.length_map, hprevs]
  refine ⟨prevs, amount, script, withWitnesses (unsignedMsgTx prevs amount script)
    (rawWitness signature (witnessPub opts)), hparts, ?_, withWitnesses_onlyWitnesses _ _, ?_, ?_⟩
  · rw [hparts.assemble, if_neg (by omega)]
  · rw [withWitnesses, List.length_mapIdx, hcount]
  · intro i hi
    rw [withWitnesses_witness (by omega)]
    refine ⟨rfl, fun heq => ?_⟩
    exact rawWitness_ne (length_chunk hlen hi) (Option.some.inj heq)

def onesSignature : Bytes := List.replicate 64 1

theorem witness_never_der_pair : ∃ unsigned,
    buildBTCUnsignedTx referenceLib spendRequest [outpointA, outpointB] {} = .ok unsigned ∧
    ∃ prevs amount script signed,
      BTCParts referenceLib spendRequest [outpointA, outpointB] {} unsigned prevs amount script ∧
      unsigned.assemble (onesSignature ++ onesSignature) = .ok (referenceSerialize signed) ∧
      OnlyWitnesses (unsignedMsgTx prevs amount script) signed ∧ signed.txIn.length = 2 ∧
      ∀ i < 2, signed.txIn[i]?.map TxIn.witness ≠
        some (p2wpkhWitness (chunkR (onesSignature ++ onesSignature) i)
          (chunkS (onesSignature ++ onesSignature) i) (witnessPub {})) := by
  obtain ⟨unsigned, hbuild⟩ := spendRequest_builds_pair
  obtain ⟨prevs, amount, script, signed, hparts, hassemble, honly, hcount, hwitness⟩ :=
    witness_never_der hbuild
      (by simp [onesSignature] : 64 * [outpointA, outpointB].length ≤ (onesSignature ++ onesSignature).length)
  exact ⟨unsigned, hbuild, prevs, amount, script, signed, hparts, hassemble, honly, hcount,
    fun i hi => (hwitness i hi).2⟩

/-- A payment with one input: the signed transaction carries 64 bytes for the signature of two positive
numbers, and these are not its DER encoding. -/
theorem raw_signature_serialized : ∃ unsigned prevs amount script,
    buildBTCUnsignedTx referenceLib spendRequest [outpointA] {} = .ok unsigned ∧
    BTCParts referenceLib spendRequest [outpointA] {} unsigned prevs amount script ∧
    0 < chunkR onesSignature 0 ∧ 0 < chunkS onesSignature 0 ∧
    unsigned.assemble onesSignature = .ok (referenceSerialize
      (withWitnesses (unsignedMsgTx prevs amount script) (rawWitness onesSignature (witnessPub {})))) ∧
    rawWitness onesSignature (witnessPub {}) 0 = [List.replicate 64 1 ++ [1], List.replicate 33 0] ∧
    rawWitness onesSignature (witnessPub {}) 0 ≠
      p2wpkhWitness (chunkR onesSignature 0) (chunkS onesSignature 0) (witnessPub {}) := by
  obtain ⟨unsigned, hbuild⟩ := spendRequest_builds
  obtain ⟨prevs, amount, script, hparts⟩ := buildBTCUnsignedTx_parts hbuild
  have hprevs : prevs.length = 1 := by
    rw [(parseOutpoints_ok hparts.inputs).2]
    rfl
  have hassemble := hparts.assemble onesSignature
  rw [hprevs, if_neg (by decide)] at hassemble
  exact ⟨unsigned, prevs, amount, script, hbuild, hparts, by decide, by decide, hassemble, by decide,
    rawWitness_ne (by decide)⟩

end WalletManager.Proofs
