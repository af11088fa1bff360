import WalletManager.Proofs.BuiltTransactions
import WalletManager.Proofs.Outcomes
import WalletManager.Proofs.Reference
import WalletManager.Proofs.Views
import Mathlib.Algebra.Order.Archimedean.Basic
import Mathlib.Tactic.Linarith

/-!
# The values of the spent outputs

The selection takes the free outputs of a wallet, largest first, until they reach the amount. The
builder gets their outpoints and not their values: it pays the amount to one output and signs every
input for the same share of it.
-/

namespace WalletManager.Proofs

open Interaction

section Values

variable (lib : Lib) (s : Store)

def selectionOrder (walletID : UUID) : List UTXO :=
  lib.sortSlice (fun a b => decide (parseDec lib b.value < parseDec lib a.value)) (s.listFreeUTXOs lib walletID)

def worth (u : UTXO) : ℚ := parseDec lib u.value

def storedValue (op : String) : ℚ := ((s.utxos.lookup op).map (worth lib)).getD 0

/-- What a transaction leaves to the miners: the stored values of what it spends, without its outputs. -/
def minerFee (ops : List String) (tx : MsgTx) : ℚ :=
  (ops.map (storedValue lib s)).sum - (tx.txOut.map TxOut.value).sum

end Values

section Selection

lemma selectLoop_spec (lib : Lib) (amount : ℚ) (free : List UTXO) (selected : List String) (total : ℚ) :
    ∃ k ≤ free.length, selectLoop lib amount free selected total =
        (selected ++ (free.take k).map UTXO.outpoint, total + ((free.take k).map (worth lib)).sum) ∧
      (k < free.length → amount ≤ total + ((free.take k).map (worth lib)).sum) ∧
      ∀ i < k, total + ((free.take i).map (worth lib)).sum < amount := by
  induction free generalizing selected total with
  | nil => exact ⟨0, le_rfl, by simp [selectLoop], by simp, by simp⟩
  | cons u free ih =>
    rw [selectLoop]
    split
    · rename_i hle
      exact ⟨0, by simp, by simp, by simpa using hle, by simp⟩
    · rename_i hlt
      obtain ⟨k, hk, heq, hreach, hbefore⟩ := ih (selected ++ [u.outpoint]) (total + worth lib u)
      refine ⟨k + 1, by simpa using hk, ?_, ?_, ?_⟩
      · rw [show parseDec lib u.value = worth lib u from rfl, heq]
        simp [add_assoc]
      · intro h
        have hreach := hreach (by simpa using h)
        simpa [add_assoc] using hreach
      · intro i hi
        cases i with
        | zero => simpa using hlt
        | succ i =>
          have hi := hbefore i (by omega)
          simpa [add_assoc] using hi

variable {lib : Lib} {s s' : Store} {walletID : UUID} {amount total : ℚ} {ops : List String} {tr : Trace}

lemma selectForAmount_ok
    (h : Exec (memStep lib) (selectForAmount lib walletID amount) s tr (.ok (ops, total)) s') :
    ∃ k ≤ (selectionOrder lib s walletID).length,
      ops = ((selectionOrder lib s walletID).take k).map UTXO.outpoint ∧
      total = (((selectionOrder lib s walletID).take k).map (worth lib)).sum ∧ amount ≤ total ∧
      ∀ i < k, (((selectionOrder lib s walletID).take i).map (worth lib)).sum < amount := by
  obtain ⟨r, s₁, tr₁, hread, h, -⟩ := h
  obtain rfl : r = .ok (s.listFreeUTXOs lib walletID) := congrArg Prod.fst hread
  obtain ⟨k, hk, heq, -, hbefore⟩ := selectLoop_spec lib amount (selectionOrder lib s walletID) [] 0
  dsimp only [Prog.bind] at h
  rw [← selectionOrder, heq] at h
  dsimp only at h
  rw [List.nil_append, zero_add] at h
  simp only [zero_add] at hbefore
  split at h
  · obtain ⟨-, hr, -⟩ := h
    cases hr
  rename_i hreach
  obtain ⟨r, s₂, tr₂, -, h, -⟩ := h
  cases r with
  | error err =>
    obtain ⟨-, hr, -⟩ := h
    cases hr
  | ok _ =>
    obtain ⟨-, hr, -⟩ := h
    cases hr
    exact ⟨k, hk, rfl, rfl, not_lt.mp hreach, hbefore⟩

lemma lookup_selected (hsort : LawfulSort lib) (hkeys : ∀ op u, s.utxos.lookup op = some u → u.outpoint = op)
    {u : UTXO} (hu : u ∈ selectionOrder lib s walletID) : s.utxos.lookup u.outpoint = some u := by
  have hrow : u ∈ s.utxos.entries.map Sigma.snd := by
    have hlisted := (hsort.perm _ _).mem_iff.mp hu
    exact (List.mem_filter.mp ((hsort.perm _ _).mem_iff.mp hlisted)).1
  obtain ⟨⟨op, u'⟩, hentry, rfl⟩ := List.mem_map.mp hrow
  have hlookup : s.utxos.lookup op = some u' := AList.mem_lookup_iff.mpr hentry
  rwa [hkeys op u' hlookup]

lemma sum_storedValue (hsort : LawfulSort lib) (hkeys : ∀ op u, s.utxos.lookup op = some u → u.outpoint = op)
    (k : ℕ) : ((((selectionOrder lib s walletID).take k).map UTXO.outpoint).map (storedValue lib s)).sum =
      (((selectionOrder lib s walletID).take k).map (worth lib)).sum := by
  rw [List.map_map]
  congr 1
  refine List.map_congr_left (fun u hu => ?_)
  rw [Function.comp_apply, storedValue, lookup_selected hsort hkeys (List.mem_of_mem_take hu)]
  rfl

end Selection

section Fee

variable {lib : Lib} {s s' : Store} {walletID : UUID} {wr : WithdrawalRequest} {total : ℚ} {ops : List String}
  {opts : BuildOpts} {unsigned : UnsignedTx} {tr : Trace}

/-- The free outputs of the wallet, largest first, reach the amount exactly. -/
structure PaidExactly (lib : Lib) (s : Store) (walletID : UUID) (m : ℕ) : Prop where
  range : m < 2 ^ 63
  nonneg : ∀ u ∈ selectionOrder lib s walletID, 0 ≤ worth lib u
  reached : ∃ k, (((selectionOrder lib s walletID).take k).map (worth lib)).sum = m

lemma PaidExactly.total_eq {m : ℕ} (h : PaidExactly lib s walletID m)
    (hselect : Exec (memStep lib) (selectForAmount lib walletID m) s tr (.ok (ops, total)) s') : total = m := by
  obtain ⟨k, -, -, rfl, hreach, hbefore⟩ := selectForAmount_ok hselect
  obtain ⟨j, hj⟩ := h.reached
  have hkj : k ≤ j := by
    by_contra hlt
    have hsum := hbefore j (not_le.mp hlt)
    rw [hj] at hsum
    exact lt_irrefl _ hsum
  refine le_antisymm ?_ hreach
  rw [← hj]
  refine List.Sublist.sum_le_sum (((List.take_prefix_take_left hkj)).sublist.map _) ?_
  intro q hq
  obtain ⟨u, hu, rfl⟩ := List.mem_map.mp hq
  exact h.nonneg u (List.mem_of_mem_take hu)

theorem minerFee_eq_surplus (hsort : LawfulSort lib)
    (hkeys : ∀ op u, s.utxos.lookup op = some u → u.outpoint = op) {amount : ℚ} {tx : MsgTx}
    (hselect : Exec (memStep lib) (selectForAmount lib walletID amount) s tr (.ok (ops, total)) s')
    (htx : BuildsBTC lib wr ops opts unsigned amount tx) :
    minerFee lib s ops tx = total - intPart amount := by
  obtain ⟨k, -, rfl, rfl, -, -⟩ := selectForAmount_ok hselect
  obtain ⟨script, -, hout⟩ := htx.output
  rw [minerFee, sum_storedValue hsort hkeys, hout]
  simp

/-- An amount that the outputs reach exactly is paid without a fee. -/
theorem exact_payment_without_fee (hsort : LawfulSort lib)
    (hkeys : ∀ op u, s.utxos.lookup op = some u → u.outpoint = op) {m : ℕ}
    (hamount : lib.newFromString wr.amount = .ok (m : ℚ))
    (hselect : Exec (memStep lib) (selectForAmount lib walletID m) s tr (.ok (ops, total)) s')
    (hbuild : buildBTCUnsignedTx lib wr ops opts = .ok unsigned) (hpaid : PaidExactly lib s walletID m) :
    ∃ tx, BuildsBTC lib wr ops opts unsigned m tx ∧ minerFee lib s ops tx = 0 := by
  obtain ⟨q, tx, htx⟩ := buildBTCUnsignedTx_ok hbuild
  obtain rfl : q = m := Except.ok.inj (htx.parsed.symm.trans hamount)
  refine ⟨tx, htx, ?_⟩
  rw [minerFee_eq_surplus hsort hkeys hselect htx, hpaid.total_eq hselect, intPart_natCast hpaid.range]
  simp

end Fee

section Amounts

variable {lib : Lib} {s s' : Store} {walletID : UUID} {wr : WithdrawalRequest} {amount total : ℚ}
  {ops : List String} {opts : BuildOpts} {unsigned : UnsignedTx} {tr : Trace}

/-- The amount is a multiple of a value that so many of the largest outputs have. -/
def PaidEvenly (lib : Lib) (s : Store) (walletID : UUID) (amount : ℚ) : Prop :=
  ∃ v k : ℕ, k ≤ (selectionOrder lib s walletID).length ∧
    (∀ u ∈ (selectionOrder lib s walletID).take k, worth lib u = v) ∧ amount = (k * v : ℕ) ∧ k * v < 2 ^ 63

lemma sum_worth_take {free : List UTXO} {v k i : ℕ} (hk : k ≤ free.length)
    (hv : ∀ u ∈ free.take k, worth lib u = v) (hi : i ≤ k) :
    ((free.take i).map (worth lib)).sum = (i * v : ℕ) := by
  have hall : (free.take i).map (worth lib) = List.replicate i (v : ℚ) := by
    rw [List.eq_replicate_iff]
    refine ⟨?_, ?_⟩
    · rw [List.length_map, List.length_take]
      omega
    · intro q hq
      obtain ⟨u, hu, rfl⟩ := List.mem_map.mp hq
      exact hv u ((List.take_prefix_take_left hi).sublist.subset hu)
  rw [hall, List.sum_replicate, nsmul_eq_mul]
  push_cast
  rfl

lemma perInputAmount_eq {k v : ℕ} (hrange : k * v < 2 ^ 63) (hops : ops ≠ []) (heq : k * v = ops.length * v) :
    perInputAmount (k * v : ℕ) ops = v := by
  have hpos : (ops.length : Int) ≠ 0 := by
    simpa using hops
  rw [perInputAmount, intPart_natCast hrange, heq]
  push_cast
  exact Int.mul_tdiv_cancel_left _ hpos

lemma share_exact {q : ℚ} {j : ℕ} (hpos : 0 < q) (hle : q ≤ (j * (intPart q).tdiv j : Int)) :
    ∃ v : ℕ, (intPart q).tdiv j = v ∧ q = (j * v : ℕ) ∧ j * v < 2 ^ 63 := by
  have hnonneg : 0 ≤ intPart q := by
    by_contra hneg
    have hshare : (intPart q).tdiv j ≤ 0 := by
      rw [← neg_neg (intPart q), Int.neg_tdiv]
      have := Int.tdiv_nonneg (show 0 ≤ -intPart q by omega) (Int.natCast_nonneg j)
      omega
    have hprod : ((j * (intPart q).tdiv j : Int) : ℚ) ≤ 0 := by
      exact_mod_cast mul_nonpos_of_nonneg_of_nonpos (Int.natCast_nonneg j) hshare
    linarith
  obtain ⟨m, hm⟩ := Int.eq_ofNat_of_zero_le hnonneg
  have hword := intPart_le hpos hnonneg
  have hrange := intPart_lt q
  rw [hm] at hle hword hrange ⊢
  rw [← Int.ofNat_tdiv] at hle ⊢
  have hdiv : ((j * (m / j) : ℕ) : ℚ) ≤ m := Nat.cast_le.mpr (Nat.mul_div_le m j)
  have hle : q ≤ (j * (m / j) : ℕ) := by exact_mod_cast hle
  have hword : (m : ℚ) ≤ q := by exact_mod_cast hword
  refine ⟨m / j, rfl, by linarith, ?_⟩
  have := Nat.mul_div_le m j
  omega

lemma paidEvenly_of_values (hsort : LawfulSort lib)
    (hkeys : ∀ op u, s.utxos.lookup op = some u → u.outpoint = op)
    (hselect : Exec (memStep lib) (selectForAmount lib walletID amount) s tr (.ok (ops, total)) s')
    (hops : ops ≠ [])
    (hvalues : ∀ op ∈ ops, ∃ u, s.utxos.lookup op = some u ∧ worth lib u = perInputAmount amount ops) :
    PaidEvenly lib s walletID amount := by
  obtain ⟨j, hj, rfl, rfl, hreach, hbefore⟩ := selectForAmount_ok hselect
  have hlen : (((selectionOrder lib s walletID).take j).map UTXO.outpoint).length = j := by
    rw [List.length_map, List.length_take]
    omega
  have hpos : 0 < amount := by
    have hj : 0 < j := by
      rw [← hlen]
      exact List.length_pos_iff.mpr hops
    simpa using hbefore 0 hj
  unfold perInputAmount at hvalues
  rw [hlen] at hvalues
  have hworth : ∀ u ∈ (selectionOrder lib s walletID).take j,
      worth lib u = ((intPart amount).tdiv j : Int) := by
    intro u hu
    obtain ⟨u', hu', hv⟩ := hvalues u.outpoint (List.mem_map_of_mem hu)
    rw [lookup_selected hsort hkeys (List.mem_of_mem_take hu), Option.some.injEq] at hu'
    rwa [hu']
  have hsum : (((selectionOrder lib s walletID).take j).map (worth lib)).sum =
      (j * (intPart amount).tdiv j : Int) := by
    rw [List.map_congr_left hworth, List.map_const', List.sum_replicate, nsmul_eq_mul, List.length_take,
      min_eq_left hj]
    push_cast
    rfl
  rw [hsum] at hreach
  obtain ⟨v, hv, hamount, hrange⟩ := share_exact hpos hreach
  rw [hv] at hworth
  exact ⟨v, j, hj, by exact_mod_cast hworth, hamount, hrange⟩

/-- Every input is signed for the stored value of the output that it spends exactly where the amount
is shared evenly. -/
theorem inputs_signed_for_values (hsort : LawfulSort lib)
    (hkeys : ∀ op u, s.utxos.lookup op = some u → u.outpoint = op)
    (hamount : lib.newFromString wr.amount = .ok amount)
    (hselect : Exec (memStep lib) (selectForAmount lib walletID amount) s tr (.ok (ops, total)) s')
    (hbuild : buildBTCUnsignedTx lib wr ops opts = .ok unsigned) :
    ∃ tx, BuildsBTC lib wr ops opts unsigned amount tx ∧
      ((∀ op ∈ ops, ∃ u, s.utxos.lookup op = some u ∧ worth lib u = perInputAmount amount ops) ↔
        PaidEvenly lib s walletID amount) := by
  obtain ⟨q, tx, htx⟩ := buildBTCUnsignedTx_ok hbuild
  obtain rfl : q = amount := Except.ok.inj (htx.parsed.symm.trans hamount)
  refine ⟨tx, htx, paidEvenly_of_values hsort hkeys hselect htx.funded, ?_⟩
  rintro ⟨v, k, hk, hv, rfl, hrange⟩
  obtain ⟨j, hj, rfl, rfl, hreach, hbefore⟩ := selectForAmount_ok hselect
  -- the selection stops after as many outputs as the amount is a multiple of their value
  have hjk : j ≤ k := by
    by_contra hlt
    have hsum := hbefore k (not_le.mp hlt)
    rw [sum_worth_take hk hv le_rfl] at hsum
    exact lt_irrefl _ hsum
  rw [sum_worth_take hk hv hjk, Nat.cast_le] at hreach
  have hlen : (((selectionOrder lib s walletID).take j).map UTXO.outpoint).length = j := by
    rw [List.length_map, List.length_take]
    omega
  have heq : k * v = j * v := le_antisymm hreach (Nat.mul_le_mul_right v hjk)
  intro op hop
  obtain ⟨u, hu, rfl⟩ := List.mem_map.mp hop
  refine ⟨u, lookup_selected hsort hkeys (List.mem_of_mem_take hu), ?_⟩
  rw [perInputAmount_eq hrange htx.funded (by rw [hlen, heq])]
  exact hv u ((List.take_prefix_take_left hjk).sublist.subset hu)

end Amounts

def oneOutput (value : String) : Store := Store.initial [btcWallet] [btcOutput outpointA value]

def mixedOutputs (a b : String) : Store :=
  Store.initial [btcWallet] [btcOutput outpointC "300", btcOutput outpointA a, btcOutput outpointB b,
    { btcOutput outpointD "900" with lockState := .locked }]

def spendRequest : WithdrawalRequest := (btcTransfer "1000").row (UUID.ofByte 3)

lemma initial_keys {wallets : List Wallet} {utxos : List UTXO} (op : String) (u : UTXO)
    (h : (Store.initial wallets utxos).utxos.lookup op = some u) : u.outpoint = op := (initial_utxos h).2

def selectIn (s : Store) (amount : ℕ) : Trace × Except Error (List String × ℚ) × Store :=
  (selectForAmount referenceLib btcWallet.id amount).run (answering agree) s

lemma selectIn_exec {s : Store} {amount : ℕ} {r : Except Error (List String × ℚ)}
    (h : (selectIn s amount).2.1 = r) :
    Exec (memStep referenceLib) (selectForAmount referenceLib btcWallet.id amount) s (selectIn s amount).1 r
      (selectIn s amount).2.2 := by
  subst h
  exact Prog.run_exec (answering_memStep agree) _ _

def selectOne (value : String) : Trace × Except Error (List String × ℚ) × Store :=
  selectIn (oneOutput value) 1000

lemma selectOne_result {value : String} {q : ℚ} (hq : parseDec referenceLib value = q) (hle : 1000 ≤ q) :
    (selectOne value).2.1 = .ok ([outpointA], q) := by
  have hloop : selectLoop referenceLib (1000 : ℕ) [btcOutput outpointA value] [] 0 = ([outpointA], q) := by
    simp [selectLoop, btcOutput, hq]
  have hlist : (oneOutput value).listFreeUTXOs referenceLib btcWallet.id = [btcOutput outpointA value] := rfl
  have hsort : referenceLib.sortSlice (fun a b => decide (parseDec referenceLib b.value <
      parseDec referenceLib a.value)) [btcOutput outpointA value] = [btcOutput outpointA value] := rfl
  have hfree : Store.checkFree (oneOutput value).utxos [outpointA] = .ok () := rfl
  have hreach : ¬ q < ((1000 : ℕ) : ℚ) := not_lt.mpr (by simpa using hle)
  unfold selectOne selectIn selectForAmount
  simp only [Prog.run, store, bind, Prog.bind, answering, Store.handle, hlist, hsort, hloop,
    if_neg hreach, Store.lockUTXOs, hfree, pure]

lemma spendRequest_amount : referenceLib.newFromString spendRequest.amount = .ok ((1000 : ℕ) : ℚ) := by
  decide +kernel

lemma spendRequest_builds : ∃ unsigned,
    buildBTCUnsignedTx referenceLib spendRequest [outpointA] {} = .ok unsigned :=
  exists_ok_of_toBool (by decide +kernel)

lemma spendRequest_builds_pair : ∃ unsigned,
    buildBTCUnsignedTx referenceLib spendRequest [outpointA, outpointB] {} = .ok unsigned :=
  exists_ok_of_toBool (by decide +kernel)

theorem exact_payment_without_fee_pair : ∃ unsigned tx,
    buildBTCUnsignedTx referenceLib spendRequest [outpointA, outpointB] {} = .ok unsigned ∧
    BuildsBTC referenceLib spendRequest [outpointA, outpointB] {} unsigned (1000 : ℕ) tx ∧
    minerFee referenceLib (mixedOutputs "600" "400") [outpointA, outpointB] tx = 0 := by
  obtain ⟨unsigned, hbuild⟩ := spendRequest_builds_pair
  obtain ⟨hselect, hworth⟩ :
      (selectIn (mixedOutputs "600" "400") 1000).2.1 = .ok ([outpointA, outpointB], 1000) ∧
      (selectionOrder referenceLib (mixedOutputs "600" "400") btcWallet.id).map (worth referenceLib) =
        [600, 400, 300] := by
    decide +kernel
  have hpaid : PaidExactly referenceLib (mixedOutputs "600" "400") btcWallet.id 1000 := by
    refine ⟨by decide, ?_, 2, ?_⟩
    · intro u hu
      have hmem := List.mem_map_of_mem (f := worth referenceLib) hu
      rw [hworth] at hmem
      simp only [List.mem_cons, List.not_mem_nil, or_false] at hmem
      rcases hmem with h | h | h <;> rw [h] <;> norm_num
    · rw [List.map_take, hworth]
      norm_num
  obtain ⟨tx, htx, hfee⟩ := exact_payment_without_fee referenceLib_sorts initial_keys spendRequest_amount
    (selectIn_exec hselect) hbuild hpaid
  exact ⟨unsigned, tx, hbuild, htx, hfee⟩

theorem inputs_signed_for_values_pair : ∃ unsigned tx,
    buildBTCUnsignedTx referenceLib spendRequest [outpointA, outpointB] {} = .ok unsigned ∧
    BuildsBTC referenceLib spendRequest [outpointA, outpointB] {} unsigned (1000 : ℕ) tx ∧
    ∀ op ∈ [outpointA, outpointB], ∃ u, (mixedOutputs "500" "500").utxos.lookup op = some u ∧
      worth referenceLib u = perInputAmount (1000 : ℕ) [outpointA, outpointB] := by
  obtain ⟨unsigned, hbuild⟩ := spendRequest_builds_pair
  obtain ⟨hselect, hworth⟩ :
      (selectIn (mixedOutputs "500" "500") 1000).2.1 = .ok ([outpointA, outpointB], 1000) ∧
      (selectionOrder referenceLib (mixedOutputs "500" "500") btcWallet.id).map (worth referenceLib) =
        [500, 500, 300] := by
    decide +kernel
  have hpaid : PaidEvenly referenceLib (mixedOutputs "500" "500") btcWallet.id (1000 : ℕ) := by
    refine ⟨500, 2, ?_, ?_, by norm_num, by decide⟩
    · have hlen := congrArg List.length hworth
      rw [List.length_map] at hlen
      rw [hlen]
      decide
    · intro u hu
      have hmem := List.mem_map_of_mem (f := worth referenceLib) hu
      rw [List.map_take, hworth] at hmem
      simpa using hmem
  obtain ⟨tx, htx, hvalues⟩ := inputs_signed_for_values referenceLib_sorts initial_keys spendRequest_amount
    (selectIn_exec hselect) hbuild
  exact ⟨unsigned, tx, hbuild, htx, hvalues.mpr hpaid⟩

/-- An output of 2000 satoshis that pays 1000 is signed for 1000. -/
theorem input_signed_for_other_value : ∃ unsigned tx u,
    (selectOne "2000").2.1 = .ok ([outpointA], 2000) ∧
    buildBTCUnsignedTx referenceLib spendRequest [outpointA] {} = .ok unsigned ∧
    BuildsBTC referenceLib spendRequest [outpointA] {} unsigned (1000 : ℕ) tx ∧
    (oneOutput "2000").utxos.lookup outpointA = some u ∧
    worth referenceLib u ≠ perInputAmount (1000 : ℕ) [outpointA] := by
  obtain ⟨unsigned, hbuild⟩ := spendRequest_builds
  obtain ⟨q, tx, htx⟩ := buildBTCUnsignedTx_ok hbuild
  obtain rfl : q = (1000 : ℕ) := Except.ok.inj (htx.parsed.symm.trans spendRequest_amount)
  exact ⟨unsigned, tx, btcOutput outpointA "2000", by decide +kernel, hbuild, htx, by decide +kernel,
    by decide +kernel⟩

/-- No bound in the number of inputs and outputs holds for the fee. -/
theorem fee_without_bound : ¬∃ bound : ℕ → ℕ → ℚ, ∀ value unsigned tx total,
    (selectOne value).2.1 = .ok ([outpointA], total) →
    buildBTCUnsignedTx referenceLib spendRequest [outpointA] {} = .ok unsigned →
    BuildsBTC referenceLib spendRequest [outpointA] {} unsigned (1000 : ℕ) tx →
    minerFee referenceLib (oneOutput value) [outpointA] tx ≤ bound tx.txIn.length tx.txOut.length := by
  rintro ⟨bound, hbound⟩
  obtain ⟨unsigned, hbuild⟩ := spendRequest_builds
  obtain ⟨q, tx, htx⟩ := buildBTCUnsignedTx_ok hbuild
  obtain rfl : q = (1000 : ℕ) := Except.ok.inj (htx.parsed.symm.trans spendRequest_amount)
  obtain ⟨n, hn⟩ := exists_nat_gt (bound tx.txIn.length tx.txOut.length)
  have hworth : parseDec referenceLib (referenceLib.decimalString ((n + 1000 : ℕ) : ℚ)) = ((n + 1000 : ℕ) : ℚ) :=
    parseDec_decimalString referenceLib_lawful ⟨(n + 1000 : ℕ), 0, by simp⟩
  have hselected : (selectOne (referenceLib.decimalString ((n + 1000 : ℕ) : ℚ))).2.1 =
      .ok ([outpointA], ((n + 1000 : ℕ) : ℚ)) := by
    refine selectOne_result hworth ?_
    push_cast
    have hn : (0 : ℚ) ≤ n := n.cast_nonneg
    linarith
  have hfee := hbound _ unsigned tx _ hselected hbuild htx
  rw [minerFee_eq_surplus (s := oneOutput _) referenceLib_sorts initial_keys (selectIn_exec hselected) htx,
    intPart_natCast (by decide)] at hfee
  push_cast at hfee
  linarith

end WalletManager.Proofs
