import WalletManager.Withdrawal.TxBuilder
import Mathlib.Data.Rat.Floor

/-!
# What the builders build

An unsigned transaction is a payload and a function that assembles the signed bytes. This file
says, once for each chain, which transaction stands behind the two.
-/

namespace WalletManager.Proofs

open Interaction

section Parts

lemma hexPairs_length {b out : Bytes} (h : hexPairs b = some out) : out.length = b.length / 2 := by
  fun_induction hexPairs b generalizing out with
  | case1 hi lo rest ih =>
    simp only [Option.bind_eq_bind, Option.bind_eq_some_iff, Option.pure_def, Option.some.injEq] at h
    obtain ⟨_, -, _, -, tail, htail, rfl⟩ := h
    simp only [List.length_cons, ih htail]
    omega
  | case2 b hb =>
    cases h
    rcases b with _ | ⟨x, _ | ⟨y, b⟩⟩
    · simp
    · simp
    · exact absurd rfl (hb x y b)

lemma parseEVMAddress_length {lib : Lib} {text : String} {target : Bytes}
    (h : parseEVMAddress lib text = .ok target) : target.length = 20 := by
  unfold parseEVMAddress at h
  dsimp only at h
  split at h
  · cases h
  rename_i hform
  split at h
  · cases h
  rename_i out hout
  cases h
  have hlen := hexPairs_length hout
  simp only [not_or, Decidable.not_not] at hform
  rw [List.length_drop, hform.2] at hlen
  exact hlen

lemma intPart_natCast {n : ℕ} (h : n < 2 ^ 63) : intPart (n : ℚ) = n := by
  simp only [intPart, wrapInt64, Rat.num_natCast, Rat.den_natCast]
  simp
  omega

lemma intPart_lt (q : ℚ) : intPart q < 2 ^ 63 := by
  unfold intPart wrapInt64
  omega

lemma intPart_le {q : ℚ} (hq : 0 < q) (h : 0 ≤ intPart q) : (intPart q : ℚ) ≤ q := by
  have hwhole : q.num.tdiv q.den = ⌊q⌋ := by
    rw [Rat.floor_def', Int.tdiv_eq_ediv_of_nonneg (Rat.num_pos.mpr hq).le]
  have hfloor : 0 ≤ ⌊q⌋ := Int.floor_nonneg.mpr hq.le
  have hle : intPart q ≤ ⌊q⌋ := by
    unfold intPart wrapInt64 at h ⊢
    omega
  exact (Int.cast_le.mpr hle).trans (Int.floor_le q)

lemma parseUint_digits {lib : Lib} {text : String} {bits n : ℕ} (h : parseUint lib text bits = .ok n) :
    decimalDigits text.toList = some n := by
  unfold parseUint at h
  split at h
  · cases h
  rename_i m hdigits
  split at h
  · cases h
    exact hdigits
  · cases h

def outpointOf (lib : Lib) (s : String) : OutPoint := (parseOutpoint lib s).toOption.getD ⟨[], 0⟩

lemma parseOutpoints_ok {lib : Lib} {ops : List String} {outs : List OutPoint}
    (h : parseOutpoints lib ops = .ok outs) :
    (∀ s ∈ ops, parseOutpoint lib s = .ok (outpointOf lib s)) ∧ outs = ops.map (outpointOf lib) := by
  induction ops generalizing outs with
  | nil =>
    cases h
    exact ⟨by simp, rfl⟩
  | cons s ops ih =>
    unfold parseOutpoints at h
    split at h
    · cases h
    rename_i op hop
    cases hrest : parseOutpoints lib ops with
    | error err =>
      rw [hrest] at h
      cases h
    | ok rest =>
      rw [hrest] at h
      cases h
      obtain ⟨hall, rfl⟩ := ih hrest
      have hs : outpointOf lib s = op := by rw [outpointOf, hop]; rfl
      exact ⟨List.forall_mem_cons.mpr ⟨by rw [hs, hop], hall⟩, by rw [List.map_cons, hs]⟩

end Parts

section Builders

variable (lib : Lib) (wr : WithdrawalRequest)

structure BuildsEVM (evm : EVMParams) (nonce : Int) (unsigned : UnsignedTx) (tx : EVMLegacyTx) : Prop where
  target : parseEVMAddress lib wr.toAddress = .ok tx.target
  value : bigIntSetString wr.amount = some tx.value
  parts : tx = ⟨nonce.toNat, evm.gasPrice, evmGasLimit, tx.target, tx.value, []⟩
  payload : unsigned.payload = lib.keccak256 (evmEncodeLegacyForSigning tx evm.chainID)
  assembled : ∀ signature txBytes, unsigned.assemble signature = .ok txBytes →
    ∃ r s v, evmSigFromMPC signature evm.chainID = .ok (r, s, v) ∧ txBytes = evmEncodeSignedTx tx r s v

/-- The amount that the Bitcoin builder signs each input for. -/
def perInputAmount (amount : ℚ) (ops : List String) : Int := (intPart amount).tdiv ops.length

/-- The transaction that the Bitcoin builder signs: it spends the outpoints and has one output. -/
def unsignedMsgTx (prevs : List OutPoint) (amount : ℚ) (script : Bytes) : MsgTx :=
  ⟨2, prevs.map (fun op => { previousOutPoint := op, sequence := 0xfffffffd }), [⟨intPart amount, script⟩]⟩

def withWitnesses (tx : MsgTx) (witness : ℕ → List Bytes) : MsgTx :=
  { tx with txIn := tx.txIn.mapIdx (fun i txIn => { txIn with witness := witness i }) }

def chunk (signature : Bytes) (i : ℕ) : Bytes := (signature.drop (i * 64)).take 64

def rawWitness (signature pub : Bytes) (i : ℕ) : List Bytes := [chunk signature i ++ [sigHashAll], pub]

def witnessPub (opts : BuildOpts) : Bytes := opts.btc.compressedPubKey.getD (List.replicate 33 0)

/-- What the Bitcoin builder puts together: the inputs and the payment are read from the request, every
input is signed for its share, and a signature that is long enough becomes the witnesses. -/
structure BTCParts (ops : List String) (opts : BuildOpts) (unsigned : UnsignedTx) (prevs : List OutPoint)
    (amount : ℚ) (script : Bytes) : Prop where
  funded : ops ≠ []
  inputs : parseOutpoints lib ops = .ok prevs
  parsed : lib.newFromString wr.amount = .ok amount
  target : lib.addrScript wr.toAddress = .ok script
  payload : sigHashes lib (lib.p2wpkhScript opts.btc.pubKeyHash.toList)
    (prevs.map (fun op => (op, ⟨perInputAmount amount ops, lib.p2wpkhScript opts.btc.pubKeyHash.toList⟩)))
    (unsignedMsgTx prevs amount script) (perInputAmount amount ops) 0
    (unsignedMsgTx prevs amount script).txIn = .ok unsigned.payload
  assemble : ∀ signature, unsigned.assemble signature =
    if signature.length < 64 * prevs.length then
      .error ⟨"btc: signature too short (" ++ signature.length.repr ++ " bytes for " ++
        prevs.length.repr ++ " inputs)", none⟩
    else (lib.serialize (withWitnesses (unsignedMsgTx prevs amount script)
      (rawWitness signature (witnessPub opts)))).mapError (Error.wrap "btc serialize")

/-- The transaction whose inputs a Bitcoin payload signs, each for the same amount, and that the
signed bytes serialize with witnesses. -/
structure BuildsBTC (ops : List String) (opts : BuildOpts) (unsigned : UnsignedTx) (amount : ℚ)
    (tx : MsgTx) : Prop where
  funded : ops ≠ []
  parsed : lib.newFromString wr.amount = .ok amount
  inputs : parseOutpoints lib ops = .ok (tx.txIn.map TxIn.previousOutPoint)
  output : ∃ script, lib.addrScript wr.toAddress = .ok script ∧ tx.txOut = [⟨intPart amount, script⟩]
  payload : sigHashes lib (lib.p2wpkhScript opts.btc.pubKeyHash.toList)
    (tx.txIn.map (fun txIn => (txIn.previousOutPoint,
      ⟨perInputAmount amount ops, lib.p2wpkhScript opts.btc.pubKeyHash.toList⟩))) tx
    (perInputAmount amount ops) 0 tx.txIn = .ok unsigned.payload
  assembled : ∀ signature txBytes, unsigned.assemble signature = .ok txBytes →
    ∃ signed, lib.serialize signed = .ok txBytes ∧ signed.txOut = tx.txOut ∧
      signed.txIn.map TxIn.previousOutPoint = tx.txIn.map TxIn.previousOutPoint

structure BuildsSolana (unsigned : UnsignedTx) (lamports : ℕ) : Prop where
  parsed : parseUint lib wr.amount 64 = .ok lamports
  payload : ∃ sender target blockhash, decodeSolanaPubkey lib wr.toAddress = .ok target ∧
    unsigned.payload = buildSolanaMessage sender target lamports blockhash
  assembled : ∀ signature txBytes, unsigned.assemble signature = .ok txBytes →
    txBytes = buildSolanaTransaction unsigned.payload [signature]

end Builders

section Specs

variable {lib : Lib} {wr : WithdrawalRequest} {unsigned : UnsignedTx}

lemma buildEVMUnsignedTx_ok {evm : EVMParams} {w : Wallet} {n : Int}
    (h : buildEVMUnsignedTx lib evm w wr n = .ok unsigned) : ∃ tx, BuildsEVM lib wr evm n unsigned tx := by
  unfold buildEVMUnsignedTx at h
  split at h
  · cases h
  rename_i target htarget
  split at h
  · cases h
  rename_i value hvalue
  cases h
  refine ⟨⟨n.toNat, evm.gasPrice, evmGasLimit, target, value, []⟩, htarget, hvalue, rfl, rfl, ?_⟩
  intro signature txBytes hsign
  dsimp only at hsign
  split at hsign
  · cases hsign
  rename_i r s v hsig
  cases hsign
  exact ⟨r, s, v, hsig, rfl⟩

lemma buildBTCUnsignedTx_parts {ops : List String} {opts : BuildOpts}
    (h : buildBTCUnsignedTx lib wr ops opts = .ok unsigned) :
    ∃ prevs amount script, BTCParts lib wr ops opts unsigned prevs amount script := by
  unfold buildBTCUnsignedTx at h
  split at h
  · cases h
  rename_i hops
  split at h
  · cases h
  rename_i amount hamount
  dsimp only at h
  split at h
  · cases h
  rename_i script hscript
  split at h
  · cases h
  rename_i prevs hprevs
  split at h
  · cases h
  rename_i payload hpayload
  cases h
  refine ⟨prevs, amount, script, ?_, hprevs, hamount, hscript, hpayload, ?_⟩
  · rintro rfl
    exact hops rfl
  · intro signature
    dsimp only
    rw [List.length_map]
    split
    · rfl
    · unfold withWitnesses unsignedMsgTx rawWitness chunk witnessPub
      dsimp only
      split
      · rename_i hserialize
        rw [hserialize]
        rfl
      · rename_i hserialize
        rw [hserialize]
        rfl

lemma withWitnesses_txIn {α : Type} (tx : MsgTx) (witness : ℕ → List Bytes) {f : TxIn → α}
    (hf : ∀ txIn w, f { txIn with witness := w } = f txIn) :
    (withWitnesses tx witness).txIn.map f = tx.txIn.map f := by
  apply List.ext_getElem
  · simp [withWitnesses]
  · intro i hi hi'
    simp [withWitnesses, hf]

lemma unsignedMsgTx_previousOutPoints (prevs : List OutPoint) (amount : ℚ) (script : Bytes) :
    (unsignedMsgTx prevs amount script).txIn.map TxIn.previousOutPoint = prevs := by
  rw [unsignedMsgTx, List.map_map]
  exact List.map_id prevs

lemma buildBTCUnsignedTx_ok {ops : List String} {opts : BuildOpts}
    (h : buildBTCUnsignedTx lib wr ops opts = .ok unsigned) :
    ∃ amount tx, BuildsBTC lib wr ops opts unsigned amount tx := by
  obtain ⟨prevs, amount, script, hparts⟩ := buildBTCUnsignedTx_parts h
  refine ⟨amount, unsignedMsgTx prevs amount script, hparts.funded, hparts.parsed, ?_,
    ⟨script, hparts.target, rfl⟩, ?_, ?_⟩
  · rw [unsignedMsgTx_previousOutPoints, hparts.inputs]
  · rw [unsignedMsgTx, List.map_map]
    exact hparts.payload
  · intro signature txBytes hsign
    rw [hparts.assemble] at hsign
    split at hsign
    · cases hsign
    cases hserialize : lib.serialize (withWitnesses (unsignedMsgTx prevs amount script)
        (rawWitness signature (witnessPub opts))) with
    | error err =>
      rw [hserialize] at hsign
      cases hsign
    | ok buf =>
      rw [hserialize] at hsign
      cases hsign
      exact ⟨_, hserialize, rfl, withWitnesses_txIn _ _ (fun _ _ => rfl)⟩

lemma buildSolanaUnsignedTx_ok (opts : BuildOpts) : (buildSolanaUnsignedTx lib wr opts).Returns
    (fun r => ∀ unsigned, r = .ok unsigned → ∃ lamports, BuildsSolana lib wr unsigned lamports) := by
  unfold buildSolanaUnsignedTx
  dsimp only
  split
  · rintro unsigned ⟨⟩
  rename_i target htarget
  split
  · rintro unsigned ⟨⟩
  rename_i lamports hlamports
  apply Prog.Returns.bind
  rintro (err | blockhash)
  · rintro unsigned ⟨⟩
  · rintro unsigned ⟨⟩
    refine ⟨lamports, hlamports, ⟨_, target, _, htarget, rfl⟩, ?_⟩
    intro signature txBytes hsign
    dsimp only at hsign
    split at hsign
    · cases hsign
    · cases hsign
      rfl

end Specs

end WalletManager.Proofs
