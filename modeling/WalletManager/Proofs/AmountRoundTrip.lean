import WalletManager.Proofs.Reference

/-!
# Amounts through the Postgres store

The text that a `NUMERIC(38,18)` column returns has a decimal point. The builders for EVM
chains and Solana read whole numbers only, so they refuse every amount that was stored.
-/

namespace WalletManager.Proofs

open Interaction Relational

section RoundTrip

variable {lib : Lib} {numeric : Numeric} {s s' : PgStore} {w : WithdrawalRequest}

lemma decimalDigits_point {cs : List Char} (h : '.' ∈ cs) : decimalDigits cs = none := by
  unfold decimalDigits
  rw [if_neg]
  rintro ⟨-, hall⟩
  exact absurd (List.all_eq_true.mp hall '.' h) (by decide)

lemma bigIntSetString_point {text : String} (h : '.' ∈ text.toList) : bigIntSetString text = none := by
  unfold bigIntSetString
  split
  · rename_i cs hcs
    rw [hcs] at h
    rw [decimalDigits_point ((List.mem_cons.mp h).resolve_left (by decide)), Option.map_none]
  · rename_i cs hcs
    rw [hcs] at h
    rw [decimalDigits_point ((List.mem_cons.mp h).resolve_left (by decide)), Option.map_none]
  · rw [decimalDigits_point h, Option.map_none]

lemma bigIntSetString_digits {text : String} {n : Nat} (h : decimalDigits text.toList = some n) :
    bigIntSetString text = some (n : Int) := by
  have hdigit : ∀ c ∈ text.toList, c.isDigit := by
    unfold decimalDigits at h
    split at h
    · rename_i hall
      exact List.all_eq_true.mp hall.2
    · cases h
  unfold bigIntSetString
  split
  · rename_i cs hcs
    exact absurd (hdigit '-' (by simp [hcs])) (by decide)
  · rename_i cs hcs
    exact absurd (hdigit '+' (by simp [hcs])) (by decide)
  · rw [h, Option.map_some]

lemma parseUint_point (lib : Lib) {text : String} (h : '.' ∈ text.toList) (bits : Nat) :
    ∃ err, parseUint lib text bits = .error err := by
  unfold parseUint
  rw [decimalDigits_point h]
  exact ⟨_, rfl⟩

lemma buildEVMUnsignedTx_point (lib : Lib) (evm : EVMParams) (wallet : Wallet)
    (h : '.' ∈ w.amount.toList) (nonce : Int) :
    ∃ err, buildEVMUnsignedTx lib evm wallet w nonce = .error err := by
  unfold buildEVMUnsignedTx
  rw [bigIntSetString_point h]
  split <;> exact ⟨_, rfl⟩

lemma buildSolanaUnsignedTx_point (lib : Lib) (h : '.' ∈ w.amount.toList) (opts : BuildOpts) :
    ∃ err, buildSolanaUnsignedTx lib w opts = .ret (.error err) := by
  obtain ⟨err, herr⟩ := parseUint_point lib h 64
  unfold buildSolanaUnsignedTx
  rw [herr]
  dsimp only
  cases decodeSolanaPubkey lib w.toAddress <;> exact ⟨_, rfl⟩

lemma except_bind_ok {α β : Type} {x : Except Error α} {f : α → Except Error β} {b : β}
    (h : x >>= f = .ok b) : ∃ a, x = .ok a ∧ f a = .ok b := by
  cases x with
  | error err => cases h
  | ok a => exact ⟨a, rfl, h⟩

lemma exec_ok {stmt : Except Error PgStore} (h : s.exec stmt = (.ok (), s')) : stmt = .ok s' := by
  cases stmt with
  | error err => cases h
  | ok s₁ => exact congrArg Except.ok (congrArg Prod.snd h)

lemma getWithdrawal_of_created (h : s.createWithdrawal numeric w = (.ok (), s')) :
    ∃ amount, numeric.input w.amount = .ok amount ∧
      s'.getWithdrawal numeric w.id = .ok { w with amount := numeric.output amount } := by
  obtain ⟨_, hcolumns, h⟩ := except_bind_ok (exec_ok h)
  obtain ⟨amount, hamount, h⟩ := except_bind_ok h
  obtain ⟨-, -, h⟩ := except_bind_ok h
  obtain ⟨withdrawals, hinsert, h⟩ := except_bind_ok h
  obtain ⟨-, -, h⟩ := except_bind_ok h
  cases h
  refine ⟨amount, hamount, ?_⟩
  rcases IndexedTable.insert_cases s.withdrawals ⟨w, amount⟩ with ⟨t, hok, hrows, hfresh⟩ | ⟨name, herr, -⟩
  · obtain rfl : t = withdrawals := by
      rw [hok] at hinsert
      exact Except.ok.inj hinsert
    have hnew : ∀ row ∈ s.withdrawals.rows, ¬row.request.id = w.id := by
      intro row hrow hid
      exact hfresh _ List.mem_cons_self row hrow ⟨nofun, congrArg some hid⟩
    have hfind : t.rows.find? (fun row => row.request.id = w.id) = some ⟨w, amount⟩ := by
      rw [hrows, List.find?_append, List.find?_eq_none.mpr (by simpa using hnew)]
      simp
    unfold PgStore.getWithdrawal
    rw [show ({ s with withdrawals := t } : PgStore).needsTxColumns = .ok _ from hcolumns]
    simp only [hfind]
    rfl
  · rw [herr] at hinsert
    cases hinsert

/-- No whole amount survives the store: the text that was written is accepted with its value,
and the text that is read back is refused for every wallet. -/
theorem stored_amount_refused (lib : Lib) (evm : EVMParams)
    (hnumeric : ∀ q, ∃ whole frac, (numeric.output q).toList = whole ++ '.' :: frac ∧ frac.length = 18)
    {n : Nat} (hamount : decimalDigits w.amount.toList = some n) (hlt : n < 2 ^ 64)
    (hcreate : s.createWithdrawal numeric w = (.ok (), s')) :
    bigIntSetString w.amount = some (n : Int) ∧ parseUint lib w.amount 64 = .ok n ∧
    ∃ w', s'.getWithdrawal numeric w.id = .ok w' ∧
      (∀ wallet nonce, wallet.chain.isEVM →
        ∃ err, buildEVMUnsignedTx lib evm wallet w' nonce = .error err) ∧
      (∀ opts, ∃ err, buildSolanaUnsignedTx lib w' opts = .ret (.error err)) := by
  refine ⟨bigIntSetString_digits hamount, ?_, ?_⟩
  · rw [parseUint, hamount]
    exact if_pos hlt
  · obtain ⟨amount, -, hget⟩ := getWithdrawal_of_created hcreate
    have hpoint : '.' ∈ (numeric.output amount).toList := by
      obtain ⟨whole, frac, htext, -⟩ := hnumeric amount
      rw [htext]
      simp
    refine ⟨_, hget, ?_, ?_⟩
    · intro wallet nonce _
      exact buildEVMUnsignedTx_point lib evm wallet hpoint nonce
    · exact buildSolanaUnsignedTx_point lib hpoint

def storedTransfer : WithdrawalRequest :=
  { id := UUID.ofByte 10, walletID := evmWallet.id,
    toAddress := "0x00000000000000000000000000000000000000aa", asset := "ETH",
    amount := "1000000", state := .pending, reservedOutpoints := ["0:0"] }

def pgCreated (w : WithdrawalRequest) : Except Error Unit × PgStore :=
  PgStore.createWithdrawal referenceNumeric (PgStore.createWallet {} evmWallet).2 w

theorem stored_amount_refused_evm :
    ∃ w', (pgCreated storedTransfer).2.getWithdrawal referenceNumeric storedTransfer.id = .ok w' ∧
      ∃ err, buildEVMUnsignedTx referenceLib {} evmWallet w' 0 = .error err := by
  have hstored : (pgCreated storedTransfer).1 = .ok () := by decide +kernel
  have hcreate : pgCreated storedTransfer = (.ok (), (pgCreated storedTransfer).2) :=
    Prod.ext hstored rfl
  have hdigits : decimalDigits storedTransfer.amount.toList = some 1000000 := by decide +kernel
  have hnumeric : ∀ q, ∃ whole frac,
      (referenceNumeric.output q).toList = whole ++ '.' :: frac ∧ frac.length = 18 := by
    intro q
    exact DecimalText.fixed_point (by decide) _
  generalize (pgCreated storedTransfer).2 = s' at hcreate ⊢
  obtain ⟨-, -, w', hget, hevm, -⟩ :=
    stored_amount_refused referenceLib {} hnumeric hdigits (by decide) hcreate
  exact ⟨w', hget, hevm evmWallet 0 (by decide)⟩

/-- The amount is written without a fraction and comes back with one; the builder accepts the
first text and refuses the second. -/
theorem stored_amount_text :
    (pgCreated storedTransfer).1 = .ok () ∧
      ((pgCreated storedTransfer).2.getWithdrawal referenceNumeric storedTransfer.id).toOption.map
        WithdrawalRequest.amount = some "1000000.000000000000000000" ∧
      (buildEVMUnsignedTx referenceLib {} evmWallet storedTransfer 0).toBool = true ∧
      (buildEVMUnsignedTx referenceLib {} evmWallet
        { storedTransfer with amount := "1000000.000000000000000000" } 0).toBool = false ∧
      parseUint referenceLib "1000000" 64 = .ok 1000000 ∧
      parseUint referenceLib "1000000.000000000000000000" 64 =
        .error ⟨"strconv.ParseUint: parsing \"1000000.000000000000000000\": invalid syntax", none⟩ := by
  decide +kernel

end RoundTrip

end WalletManager.Proofs
