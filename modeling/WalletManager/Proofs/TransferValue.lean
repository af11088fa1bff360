import WalletManager.Proofs.AmountRoundTrip
import WalletManager.Proofs.BuiltTransactions
import WalletManager.Proofs.EvmEncoding

/-!
# The value of a built transaction

The three builders read the amount of a withdrawal in three ways. An EVM transaction carries its
absolute value, a Bitcoin transaction its integer part as a 64-bit word, and a Solana message the
amount itself.
-/

namespace WalletManager.Proofs

open Interaction

/-- What is assumed of `decimal.NewFromString` on texts of integers. -/
def ReadsIntegers (lib : Lib) : Prop :=
  ∀ text (n : Int), bigIntSetString text = some n → lib.newFromString text = .ok (n : ℚ)

section Value

variable (lib : Lib) (evm : EVMParams) (w : Wallet) (wr : WithdrawalRequest) (n : Int)
  (ops : List String) (opts : BuildOpts)

/-- The value that a built transaction transfers: the number in the value field, the sum of the
outputs, or the lamports. -/
inductive Transferred (unsigned : UnsignedTx) : ℚ → Prop
  | evm {tx : EVMLegacyTx} : w.chain.isEVM → BuildsEVM lib wr evm n unsigned tx →
    Transferred unsigned (BigEndian.value (bigIntBytes tx.value) : ℕ)
  | bitcoin {amount : ℚ} {tx : MsgTx} : w.chain = .bitcoin → BuildsBTC lib wr ops opts unsigned amount tx →
    Transferred unsigned (tx.txOut.map TxOut.value).sum
  | solana {lamports : ℕ} : w.chain = .solana → BuildsSolana lib wr unsigned lamports →
    Transferred unsigned lamports

structure Unaltered : Prop where
  evm : w.chain.isEVM → ∀ m, bigIntSetString wr.amount = some m → 0 ≤ m
  bitcoin : w.chain = .bitcoin → ∀ q, lib.newFromString wr.amount = .ok q → ∃ m : ℕ, m < 2 ^ 63 ∧ q = m

end Value

section Amounts

variable {lib : Lib} {evm : EVMParams} {w : Wallet} {wr : WithdrawalRequest} {n : Int}
  {ops : List String} {opts : BuildOpts} {unsigned : UnsignedTx} {v : ℚ}

lemma Transferred.amount (h : Transferred lib evm w wr n ops opts unsigned v) :
    (w.chain.isEVM ∧ ∃ m, bigIntSetString wr.amount = some m ∧ v = m.natAbs) ∨
    (w.chain = .bitcoin ∧ ∃ q, lib.newFromString wr.amount = .ok q ∧ v = intPart q) ∨
    (w.chain = .solana ∧ ∃ m, parseUint lib wr.amount 64 = .ok m ∧ v = m) := by
  cases h with
  | @evm tx hevm htx =>
    refine .inl ⟨hevm, tx.value, htx.value, ?_⟩
    rw [bigIntBytes_eq, BigEndian.value_bytes]
  | @bitcoin q tx hbtc htx =>
    obtain ⟨script, -, hout⟩ := htx.output
    refine .inr (.inl ⟨hbtc, q, htx.parsed, ?_⟩)
    simp [hout]
  | @solana m hsol htx => exact .inr (.inr ⟨hsol, m, htx.parsed, rfl⟩)

lemma Transferred.denoted (hints : ReadsIntegers lib) (hamount : Unaltered lib w wr)
    (h : Transferred lib evm w wr n ops opts unsigned v) : lib.newFromString wr.amount = .ok v := by
  rcases h.amount with ⟨hevm, m, hm, rfl⟩ | ⟨hbtc, q, hq, rfl⟩ | ⟨-, m, hm, rfl⟩
  · have hnonneg := hamount.evm hevm m hm
    rw [hints _ m hm]
    lift m to ℕ using hnonneg
    simp
  · obtain ⟨m, hlt, rfl⟩ := hamount.bitcoin hbtc q hq
    rw [hq, intPart_natCast hlt]
    simp
  · rw [hints _ m (bigIntSetString_digits (parseUint_digits hm))]
    simp

lemma Transferred.nonneg (hamount : Unaltered lib w wr) (h : Transferred lib evm w wr n ops opts unsigned v) :
    0 ≤ v := by
  rcases h.amount with ⟨-, m, -, rfl⟩ | ⟨hbtc, q, hq, rfl⟩ | ⟨-, m, -, rfl⟩
  · exact Nat.cast_nonneg _
  · obtain ⟨m, hlt, rfl⟩ := hamount.bitcoin hbtc q hq
    rw [intPart_natCast hlt]
    simp
  · exact Nat.cast_nonneg _

lemma buildUnsignedTx_transfers (lib : Lib) (evm : EVMParams) (w : Wallet) (wr : WithdrawalRequest)
    (n : Int) (ops : List String) (opts : BuildOpts) : (buildUnsignedTx lib evm w wr n ops opts).Returns
    (fun r => ∀ unsigned, r = .ok unsigned → ∃ v, Transferred lib evm w wr n ops opts unsigned v) := by
  unfold buildUnsignedTx
  split
  · rename_i hevm
    intro unsigned h
    obtain ⟨tx, htx⟩ := buildEVMUnsignedTx_ok h
    exact ⟨_, .evm hevm htx⟩
  split
  · rename_i hbtc
    intro unsigned h
    obtain ⟨amount, tx, htx⟩ := buildBTCUnsignedTx_ok h
    exact ⟨_, .bitcoin hbtc htx⟩
  split
  · rename_i hsol
    apply Prog.Returns.mono _ (buildSolanaUnsignedTx_ok opts)
    intro r hr unsigned h
    obtain ⟨m, hm⟩ := hr unsigned h
    exact ⟨_, .solana hsol hm⟩
  · rintro unsigned ⟨⟩

lemma unaltered_of_denoted (hints : ReadsIntegers lib) (hv : Transferred lib evm w wr n ops opts unsigned v)
    (hamount : lib.newFromString wr.amount = .ok v) (hnonneg : 0 ≤ v) : Unaltered lib w wr := by
  constructor
  · intro hevm m hm
    rw [hints _ m hm] at hamount
    rw [← Except.ok.inj hamount] at hnonneg
    exact_mod_cast hnonneg
  · intro hbtc q hq
    obtain rfl : q = v := Except.ok.inj (hq.symm.trans hamount)
    rcases hv.amount with ⟨hevm, -⟩ | ⟨-, q', hq', hpart⟩ | ⟨hsol, -⟩
    · rw [hbtc] at hevm
      cases hevm
    · obtain rfl : q = q' := Except.ok.inj (hq.symm.trans hq')
      rw [hpart] at hnonneg ⊢
      obtain ⟨m, hm⟩ := Int.eq_ofNat_of_zero_le (by exact_mod_cast hnonneg : 0 ≤ intPart q)
      have hrange := intPart_lt q
      rw [hm] at hrange ⊢
      exact ⟨m, by exact_mod_cast hrange, by simp⟩
    · rw [hbtc] at hsol
      cases hsol

/-- A transaction that is built has a value, and this is the number that the amount denotes, which is
not negative, exactly where the builder of the chain does not alter it. -/
theorem transferred_is_amount {σ : Type} {step : σ → (c : Call) → Answer c → σ → Prop} {s s' : σ} {tr : Trace}
    (hints : ReadsIntegers lib)
    (h : Exec step (buildUnsignedTx lib evm w wr n ops opts) s tr (.ok unsigned) s') :
    (∃ v, Transferred lib evm w wr n ops opts unsigned v) ∧
    ((∀ v, Transferred lib evm w wr n ops opts unsigned v → lib.newFromString wr.amount = .ok v ∧ 0 ≤ v) ↔
      Unaltered lib w wr) := by
  have hvalue := h.returns (buildUnsignedTx_transfers lib evm w wr n ops opts) unsigned rfl
  refine ⟨hvalue, ?_, ?_⟩
  · intro hall
    obtain ⟨v, hv⟩ := hvalue
    exact unaltered_of_denoted hints hv (hall v hv).1 (hall v hv).2
  · intro hamount v hv
    exact ⟨hv.denoted hints hamount, hv.nonneg hamount⟩

end Amounts

section ByChain

variable {lib : Lib} {evm : EVMParams} {w : Wallet} {wr : WithdrawalRequest} {n : Int}
  {ops : List String} {opts : BuildOpts} {unsigned : UnsignedTx}

lemma transferred_evm (hevm : w.chain.isEVM) (h : buildEVMUnsignedTx lib evm w wr n = .ok unsigned) {m : Int}
    (hm : bigIntSetString wr.amount = some m) :
    Transferred lib evm w wr n ops opts unsigned (m.natAbs : ℕ) := by
  obtain ⟨tx, htx⟩ := buildEVMUnsignedTx_ok h
  have hvalue := htx.value
  rw [hm, Option.some.injEq] at hvalue
  have hv : Transferred lib evm w wr n ops opts unsigned (BigEndian.value (bigIntBytes tx.value) : ℕ) :=
    .evm hevm htx
  rwa [← hvalue, bigIntBytes_eq, BigEndian.value_bytes] at hv

lemma transferred_bitcoin (hbtc : w.chain = .bitcoin) (h : buildBTCUnsignedTx lib wr ops opts = .ok unsigned)
    {q : ℚ} (hq : lib.newFromString wr.amount = .ok q) :
    Transferred lib evm w wr n ops opts unsigned (intPart q) := by
  obtain ⟨amount, tx, htx⟩ := buildBTCUnsignedTx_ok h
  have hamount := htx.parsed
  rw [hq, Except.ok.injEq] at hamount
  obtain ⟨script, -, hout⟩ := htx.output
  have hv : Transferred lib evm w wr n ops opts unsigned (tx.txOut.map TxOut.value).sum := .bitcoin hbtc htx
  rw [hout, ← hamount] at hv
  simpa using hv

end ByChain

theorem referenceLib_readsIntegers : ReadsIntegers referenceLib := by
  have hdigits : ∀ {cs : List Char} {m : ℕ}, decimalDigits cs = some m →
      DecimalText.parseUnsigned cs = some (m : ℚ) := by
    intro cs m h
    unfold decimalDigits at h
    split at h
    · rename_i hcs
      cases h
      exact DecimalText.parseUnsigned_digits hcs.1 hcs.2
    · cases h
  intro text n h
  have hparse : DecimalText.parse text = some (n : ℚ) := by
    unfold bigIntSetString at h
    split at h
    · rename_i cs hcs
      obtain ⟨m, hm, rfl⟩ := Option.map_eq_some_iff.mp h
      rw [DecimalText.parse, hcs]
      simp [hdigits hm]
    · rename_i cs hcs
      obtain ⟨m, hm, rfl⟩ := Option.map_eq_some_iff.mp h
      rw [DecimalText.parse, hcs]
      simp [hdigits hm]
    · obtain ⟨m, hm, rfl⟩ := Option.map_eq_some_iff.mp h
      rw [DecimalText.parse]
      simp [hdigits hm]
  change referenceNewFromString text = _
  rw [referenceNewFromString, hparse]

theorem transferred_is_amount_bitcoin : ∃ unsigned,
    buildBTCUnsignedTx referenceLib ((btcTransfer "1000").row (UUID.ofByte 3)) [outpointA] {} = .ok unsigned ∧
    Transferred referenceLib {} btcWallet ((btcTransfer "1000").row (UUID.ofByte 3)) (-1) [outpointA] {}
      unsigned 1000 := by
  obtain ⟨unsigned, hbuild⟩ := exists_ok_of_toBool (by decide +kernel :
    (buildBTCUnsignedTx referenceLib ((btcTransfer "1000").row (UUID.ofByte 3)) [outpointA] {}).toBool = true)
  have hq : referenceLib.newFromString "1000" = .ok ((1000 : ℕ) : ℚ) := by decide +kernel
  have hexec : Exec (memStep referenceLib) (buildUnsignedTx referenceLib {} btcWallet
      ((btcTransfer "1000").row (UUID.ofByte 3)) (-1) [outpointA] {}) {} [] (.ok unsigned) {} :=
    ⟨rfl, hbuild.symm, rfl⟩
  obtain ⟨⟨v, hv⟩, hiff⟩ := transferred_is_amount referenceLib_readsIntegers hexec
  have hamount := (hiff.mpr ⟨fun h => absurd h (by decide), fun _ q h => ⟨1000, by decide, by
    change referenceLib.newFromString "1000" = .ok q at h
    rw [hq] at h
    exact (Except.ok.inj h).symm⟩⟩ v hv).1
  change referenceLib.newFromString "1000" = .ok v at hamount
  rw [hq] at hamount
  obtain rfl := Except.ok.inj hamount
  exact ⟨unsigned, hbuild, hv⟩

def negativeTransfer : WithdrawalRequest := (evmTransfer "-5").row (UUID.ofByte 3)

def fractionTransfer : WithdrawalRequest := (btcTransfer "1000.5").row (UUID.ofByte 3)

def largeTransfer : WithdrawalRequest := (btcTransfer "18446744073709552616").row (UUID.ofByte 3)

/-- A negative amount loses its sign, a fraction is cut off, and a large amount is reduced. -/
theorem amounts_altered :
    (∃ unsigned, buildEVMUnsignedTx referenceLib {} evmWallet negativeTransfer 0 = .ok unsigned ∧
      referenceLib.newFromString negativeTransfer.amount = .ok (-5) ∧
      Transferred referenceLib {} evmWallet negativeTransfer 0 [] {} unsigned 5) ∧
    (∃ unsigned, buildBTCUnsignedTx referenceLib fractionTransfer [outpointA] {} = .ok unsigned ∧
      referenceLib.newFromString fractionTransfer.amount = .ok (2001 / 2) ∧
      Transferred referenceLib {} btcWallet fractionTransfer (-1) [outpointA] {} unsigned 1000) ∧
    (∃ unsigned, buildBTCUnsignedTx referenceLib largeTransfer [outpointA] {} = .ok unsigned ∧
      referenceLib.newFromString largeTransfer.amount = .ok 18446744073709552616 ∧
      Transferred referenceLib {} btcWallet largeTransfer (-1) [outpointA] {} unsigned 1000) := by
  refine ⟨?_, ?_, ?_⟩
  · obtain ⟨unsigned, hbuild⟩ := exists_ok_of_toBool (by decide +kernel :
      (buildEVMUnsignedTx referenceLib {} evmWallet negativeTransfer 0).toBool = true)
    have hm : bigIntSetString negativeTransfer.amount = some (-5) := by decide +kernel
    exact ⟨unsigned, hbuild, by decide +kernel, transferred_evm rfl hbuild hm⟩
  · obtain ⟨unsigned, hbuild⟩ := exists_ok_of_toBool (by decide +kernel :
      (buildBTCUnsignedTx referenceLib fractionTransfer [outpointA] {}).toBool = true)
    have hq : referenceLib.newFromString fractionTransfer.amount = .ok (2001 / 2) := by decide +kernel
    have hpart : intPart (2001 / 2) = 1000 := by decide +kernel
    have hv : Transferred referenceLib {} btcWallet fractionTransfer (-1) [outpointA] {} unsigned
        (intPart (2001 / 2)) := transferred_bitcoin rfl hbuild hq
    rw [hpart] at hv
    exact ⟨unsigned, hbuild, hq, hv⟩
  · obtain ⟨unsigned, hbuild⟩ := exists_ok_of_toBool (by decide +kernel :
      (buildBTCUnsignedTx referenceLib largeTransfer [outpointA] {}).toBool = true)
    have hq : referenceLib.newFromString largeTransfer.amount = .ok 18446744073709552616 := by decide +kernel
    have hpart : intPart 18446744073709552616 = 1000 := by decide +kernel
    have hv : Transferred referenceLib {} btcWallet largeTransfer (-1) [outpointA] {} unsigned
        (intPart 18446744073709552616) := transferred_bitcoin rfl hbuild hq
    rw [hpart] at hv
    exact ⟨unsigned, hbuild, hq, hv⟩

end WalletManager.Proofs
