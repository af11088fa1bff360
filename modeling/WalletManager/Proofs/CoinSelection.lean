import WalletManager.Allocation.LargestFirst
import WalletManager.Proofs.OutputUpdates
import WalletManager.Proofs.Rollback
import WalletManager.Proofs.SpentValues

/-!
# The selection of outputs

`SelectForAmount` takes the largest free outputs of the wallet until they reach the amount. It fails
only where all of them together do not, and otherwise no selection has fewer outputs. How the sort
orders outputs of the same value does not matter.
-/

namespace WalletManager.Proofs

open Interaction Allocation

section Keyed

def KeyedOutputs (utxos : Table String UTXO) : Prop := ∀ op u, utxos.lookup op = some u → u.outpoint = op

variable {lib : Lib} {s s' : Store} {utxos : Table String UTXO}

lemma KeyedOutputs.insert (h : KeyedOutputs utxos) {op : String} {u : UTXO} (hu : u.outpoint = op) :
    KeyedOutputs (utxos.insert op u) := by
  intro op' u' hu'
  rw [lookup_insert_eq] at hu'
  split at hu'
  · rename_i hop
    rw [← Option.some.inj hu', hop, hu]
  · exact h op' u' hu'

lemma KeyedOutputs.updateEach (h : KeyedOutputs utxos) {f : UTXO → UTXO}
    (hf : ∀ u, (f u).outpoint = u.outpoint) (ops : List String) :
    KeyedOutputs (Store.updateEach f ops utxos).2 := by
  induction ops generalizing utxos with
  | nil => exact h
  | cons op ops ih =>
    unfold Store.updateEach
    cases hu : utxos.lookup op with
    | none => exact h
    | some u => exact ih (h.insert ((hf u).trans (h op u hu)))

lemma KeyedOutputs.prune (h : KeyedOutputs utxos) (ops : List String) :
    KeyedOutputs (ops.foldl (fun utxos op => utxos.erase op) utxos) := by
  induction ops generalizing utxos with
  | nil => exact h
  | cons op ops ih =>
    refine ih fun op' u hu => ?_
    by_cases hop : op' = op
    · rw [hop, AList.lookup_erase] at hu
      cases hu
    · rw [AList.lookup_erase_ne hop] at hu
      exact h op' u hu

lemma handle_keyedOutputs {c : StoreCall} (hc : c.isOperation = true) (h : KeyedOutputs s.utxos) :
    KeyedOutputs (s.handle lib c).2.utxos := by
  cases c with
  | beginTx | commitTx | rollbackTx => cases hc
  | insertUTXO u =>
    simp only [Store.handle, Store.insertUTXO]
    split
    · exact h
    · exact h.insert rfl
  | lockUTXOs ops =>
    simp only [Store.handle, Store.lockUTXOs]
    split
    · exact h
    · refine h.updateEach ?_ ops
      exact fun u => rfl
  | markUTXOsSpent ops txHash =>
    refine h.updateEach ?_ ops
    exact fun u => rfl
  | restoreUTXOs ops =>
    refine h.updateEach ?_ ops
    exact fun u => rfl
  | pruneUTXOs ops => exact h.prune ops
  | _ =>
    first
    | exact h
    | (simp only [Store.handle, Store.createWallet, Store.updateWalletState, Store.insertAddress,
        Store.deprecateAddress, Store.incrementReceiveCount, Store.updateAddress, Store.recordBalanceEvent,
        Store.rollbackPendingNonce, Store.createWithdrawal,
        Store.updateWithdrawalState, Store.updateWithdrawalNonce, Store.updateWithdrawalOutpoints,
        Store.updateWithdrawalSignedTx, Store.updateWithdrawal, Store.bindKeyMapping,
        Store.createFundingRequest, Store.updateFundingState, Store.appendAuditEvent,
        Store.markAuditDelivered]
       repeat' split
       all_goals exact h)

theorem keyedOutputs_step {c : Call} {r : Answer c}
    (h : KeyedOutputs s.utxos ∧ KeyedOutputs s.snapshot.utxos) (hs : memStep lib s c r s') :
    KeyedOutputs s'.utxos ∧ KeyedOutputs s'.snapshot.utxos := by
  cases c with
  | ext c =>
    obtain rfl : s' = s := hs
    exact h
  | store c =>
    obtain rfl : s' = (s.handle lib c).2 := congrArg Prod.snd hs
    cases hc : c.isOperation with
    | true => exact ⟨handle_keyedOutputs hc h.1, by rw [(handle_sameTx hc).snapshot]; exact h.2⟩
    | false =>
      cases c with
      | beginTx =>
        simp only [Store.handle, Store.beginTx]
        split
        · exact ⟨h.1, h.1⟩
        · exact h
      | commitTx => exact h
      | rollbackTx =>
        simp only [Store.handle, Store.rollbackTx]
        split
        · exact ⟨h.2, h.2⟩
        · exact h
      | _ => cases hc

theorem keyedOutputs_exec {α : Type} {p : Proc α} {tr : Trace} {a : α}
    (h : KeyedOutputs s.utxos ∧ KeyedOutputs s.snapshot.utxos) (hp : Exec (memStep lib) p s tr a s') :
    KeyedOutputs s'.utxos ∧ KeyedOutputs s'.snapshot.utxos := by
  induction p generalizing s tr with
  | ret b =>
    obtain ⟨-, -, rfl⟩ := hp
    exact h
  | call c k ih =>
    obtain ⟨r, s₁, tr₁, hs, hp, -⟩ := hp
    exact ih r (keyedOutputs_step h hs) hp

end Keyed

section Candidates

/-- `sort.Slice` by a strict weak order: no element stands before a lesser one. -/
def SortsWeakOrders (lib : Lib) : Prop :=
  ∀ {α : Type} (less : α → α → Bool), (∀ a b, less a b = false ∨ less b a = false) →
    (∀ a b c, less b a = false → less c b = false → less c a = false) →
    ∀ l, (lib.sortSlice less l).Pairwise (fun a b => less b a = false)

def walletFree (s : Store) (walletID : UUID) : Finset String :=
  s.utxos.keys.toFinset.filter
    (fun op => (s.utxos.lookup op).any (fun u => u.walletID = walletID ∧ u.lockState = .free))

def candidates (lib : Lib) (s : Store) (walletID : UUID) : List String :=
  (selectionOrder lib s walletID).map UTXO.outpoint

variable {lib : Lib} {s : Store} {walletID : UUID}

lemma mem_walletFree {op : String} : op ∈ walletFree s walletID ↔
    ∃ u, s.utxos.lookup op = some u ∧ u.walletID = walletID ∧ u.lockState = .free := by
  have hkeys : ∀ u, s.utxos.lookup op = some u → op ∈ s.utxos.keys := fun u hu => Table.mem_iff.mpr ⟨u, hu⟩
  simp only [walletFree, Finset.mem_filter, List.mem_toFinset, Option.any_eq_true, decide_eq_true_eq]
  exact ⟨fun h => h.2, fun ⟨u, hu, h⟩ => ⟨hkeys u hu, u, hu, h⟩⟩

lemma selectionOrder_perm (hsort : LawfulSort lib) :
    (selectionOrder lib s walletID).Perm ((s.utxos.entries.map Sigma.snd).filter
      (fun u => u.walletID = walletID ∧ u.lockState = .free)) :=
  (hsort.perm _ _).trans (hsort.perm _ _)

lemma mem_candidates (hsort : LawfulSort lib) (hkeyed : KeyedOutputs s.utxos) {op : String} :
    op ∈ candidates lib s walletID ↔ op ∈ walletFree s walletID := by
  rw [mem_walletFree]
  constructor
  · intro h
    obtain ⟨u, hu, rfl⟩ := List.mem_map.mp h
    have hfree := (List.mem_filter.mp ((selectionOrder_perm hsort).mem_iff.mp hu)).2
    exact ⟨u, lookup_selected hsort hkeyed hu, by simpa using hfree⟩
  · rintro ⟨u, hu, hfree⟩
    have hrow : u ∈ s.utxos.entries.map Sigma.snd :=
      List.mem_map.mpr ⟨⟨op, u⟩, AList.mem_lookup_iff.mp hu, rfl⟩
    have hlisted : u ∈ selectionOrder lib s walletID :=
      (selectionOrder_perm hsort).mem_iff.mpr (List.mem_filter.mpr ⟨hrow, decide_eq_true hfree⟩)
    exact List.mem_map.mpr ⟨u, hlisted, hkeyed op u hu⟩

lemma candidates_take_free (hsort : LawfulSort lib) (hkeyed : KeyedOutputs s.utxos) (walletID : UUID) (k : ℕ) :
    ∀ op ∈ (candidates lib s walletID).take k, ∃ u, s.utxos.lookup op = some u ∧ u.lockState = .free := by
  intro op hop
  obtain ⟨u, hu, -, hfree⟩ := mem_walletFree.mp ((mem_candidates hsort hkeyed).mp (List.mem_of_mem_take hop))
  exact ⟨u, hu, hfree⟩

lemma candidates_nodup (hsort : LawfulSort lib) (hkeyed : KeyedOutputs s.utxos) :
    (candidates lib s walletID).Nodup := by
  have hkeys : (s.utxos.entries.map Sigma.snd).map UTXO.outpoint = s.utxos.keys := by
    rw [List.map_map]
    exact List.map_congr_left fun e he => hkeyed e.1 e.2 (AList.mem_lookup_iff.mpr he)
  have hsub := (List.filter_sublist (p := fun u : UTXO => u.walletID = walletID ∧ u.lockState = .free)
    (l := s.utxos.entries.map Sigma.snd)).map UTXO.outpoint
  rw [hkeys] at hsub
  exact (((selectionOrder_perm hsort).map UTXO.outpoint).nodup_iff).mpr (s.utxos.keys_nodup.sublist hsub)

lemma candidates_largestFirst (hsort : LawfulSort lib) (hweak : SortsWeakOrders lib)
    (hkeyed : KeyedOutputs s.utxos) :
    LargestFirst (storedValue lib s) (candidates lib s walletID) := by
  have hsorted : (selectionOrder lib s walletID).Pairwise (fun a b => worth lib b ≤ worth lib a) := by
    refine (hweak _ ?_ ?_ (s.listFreeUTXOs lib walletID)).imp ?_
    · intro a b
      simpa using le_total (parseDec lib a.value) (parseDec lib b.value)
    · intro a b c hab hbc
      simp only [decide_eq_false_iff_not, not_lt] at hab hbc ⊢
      exact hbc.trans hab
    · intro a b hab
      exact not_lt.mp (of_decide_eq_false hab)
  refine List.pairwise_map.mpr (hsorted.imp_of_mem ?_)
  intro a b ha hb hab
  simpa [storedValue, lookup_selected hsort hkeyed ha, lookup_selected hsort hkeyed hb] using hab

lemma sum_candidates (hsort : LawfulSort lib) (hkeyed : KeyedOutputs s.utxos) :
    ((candidates lib s walletID).map (storedValue lib s)).sum =
      ∑ op ∈ walletFree s walletID, storedValue lib s op := by
  have hset : (candidates lib s walletID).toFinset = walletFree s walletID := by
    ext op
    rw [List.mem_toFinset, mem_candidates hsort hkeyed]
  rw [← hset, List.sum_toFinset _ (candidates_nodup hsort hkeyed)]

end Candidates

def memEnv (lib : Lib) (s : Store) : (c : Call) → Answer c × Store
  | .store c => s.handle lib c
  | .ext c => (agree c, s)

lemma memEnv_memStep (lib : Lib) (s : Store) (c : Call) :
    memStep lib s c (memEnv lib s c).1 (memEnv lib s c).2 := by
  cases c <;> rfl

section Selecting

variable {lib : Lib} {s s' : Store} {walletID : UUID} {amount total : ℚ} {ops : List String} {tr : Trace}
  {r : Except Error (List String × ℚ)}

lemma checkFree_of_free {utxos : Table String UTXO}
    (h : ∀ op ∈ ops, ∃ u, utxos.lookup op = some u ∧ u.lockState = .free) :
    Store.checkFree utxos ops = .ok () := by
  induction ops with
  | nil => rfl
  | cons op ops ih =>
    obtain ⟨u, hu, hfree⟩ := h op (by simp)
    rw [Store.checkFree, hu]
    dsimp only
    rw [if_pos hfree, ih fun op' hop' => h op' (by simp [hop'])]

lemma lockUTXOs_of_free (h : ∀ op ∈ ops, ∃ u, s.utxos.lookup op = some u ∧ u.lockState = .free) :
    (s.lockUTXOs ops).1 = .ok () ∧
    (s.lockUTXOs ops).2 = { s with utxos := (s.lockUTXOs ops).2.utxos } ∧
    ∀ op, (s.lockUTXOs ops).2.utxos.lookup op =
      if op ∈ ops then (s.utxos.lookup op).map (fun u => { u with lockState := .locked })
      else s.utxos.lookup op := by
  have hknown : ∀ op ∈ ops, op ∈ s.utxos := by
    intro op hop
    obtain ⟨u, hu, -⟩ := h op hop
    exact Table.mem_iff.mpr ⟨u, hu⟩
  unfold Store.lockUTXOs
  rw [checkFree_of_free h]
  refine ⟨rfl, rfl, fun op => ?_⟩
  dsimp only
  rw [StampedTable.updateEach_eq_updateRows, lookup_updateRows, reached_eq hknown]
  exact fun u => rfl

lemma selectForAmount_cases (hsort : LawfulSort lib) (hkeyed : KeyedOutputs s.utxos)
    (h : Exec (memStep lib) (selectForAmount lib walletID amount) s tr r s') :
    ∃ k ≤ (candidates lib s walletID).length,
      (∀ i < k, (((candidates lib s walletID).take i).map (storedValue lib s)).sum < amount) ∧
      (k = (candidates lib s walletID).length ∧
          (((candidates lib s walletID).take k).map (storedValue lib s)).sum < amount ∧
          (∃ err, r = .error err) ∧ s' = s ∨
        amount ≤ (((candidates lib s walletID).take k).map (storedValue lib s)).sum ∧
          r = .ok ((candidates lib s walletID).take k,
            (((candidates lib s walletID).take k).map (storedValue lib s)).sum) ∧
          s' = (s.lockUTXOs ((candidates lib s walletID).take k)).2) := by
  obtain ⟨r₁, s₁, tr₁, hread, h, -⟩ := h
  obtain ⟨rfl, rfl⟩ : r₁ = .ok (s.listFreeUTXOs lib walletID) ∧ s₁ = s :=
    ⟨congrArg Prod.fst hread, congrArg Prod.snd hread⟩
  obtain ⟨k, hk, heq, hreach, hbefore⟩ :=
    selectLoop_spec lib amount (selectionOrder lib s₁ walletID) [] 0
  have hsum : ∀ i, (((candidates lib s₁ walletID).take i).map (storedValue lib s₁)).sum =
      (((selectionOrder lib s₁ walletID).take i).map (worth lib)).sum := by
    intro i
    rw [candidates, ← List.map_take, sum_storedValue hsort hkeyed]
  have hloop : selectLoop lib amount (selectionOrder lib s₁ walletID) [] 0 =
      ((candidates lib s₁ walletID).take k,
        (((candidates lib s₁ walletID).take k).map (storedValue lib s₁)).sum) := by
    rw [heq, hsum, List.nil_append, zero_add, candidates, List.map_take]
  dsimp only [Prog.bind] at h
  rw [← selectionOrder, hloop] at h
  dsimp only at h
  simp only [zero_add, ← hsum] at hreach hbefore
  have hlength : (candidates lib s₁ walletID).length = (selectionOrder lib s₁ walletID).length :=
    List.length_map _
  rw [← hlength] at hk hreach
  refine ⟨k, hk, hbefore, ?_⟩
  split at h
  · rename_i hless
    obtain ⟨-, rfl, rfl⟩ := h
    have hall : k = (candidates lib s' walletID).length := by
      by_contra hne
      exact absurd (hreach (by omega)) (not_le.mpr hless)
    exact .inl ⟨hall, hless, ⟨_, rfl⟩, rfl⟩
  · rename_i hreached
    have hlocks := lockUTXOs_of_free (candidates_take_free hsort hkeyed walletID k)
    obtain ⟨r₂, s₂, tr₂, hlock, h, -⟩ := h
    obtain ⟨rfl, rfl⟩ : r₂ = (s₁.lockUTXOs ((candidates lib s₁ walletID).take k)).1 ∧
        s₂ = (s₁.lockUTXOs ((candidates lib s₁ walletID).take k)).2 :=
      ⟨congrArg Prod.fst hlock, congrArg Prod.snd hlock⟩
    rw [hlocks.1] at h
    obtain ⟨-, rfl, rfl⟩ := h
    exact .inr ⟨not_lt.mp hreached, rfl, rfl⟩

/-- A selection of free outpoints of the wallet that reaches the amount, with as few of them as can
be, and the store in which exactly they are locked. -/
structure Selects (lib : Lib) (s : Store) (walletID : UUID) (amount : ℚ) (ops : List String) (total : ℚ)
    (s' : Store) : Prop where
  nodup : ops.Nodup
  free : ∀ op ∈ ops, op ∈ walletFree s walletID
  total_eq : total = (ops.map (storedValue lib s)).sum
  reaches : amount ≤ total
  fewest : ∀ S ⊆ walletFree s walletID, amount ≤ ∑ op ∈ S, storedValue lib s op → ops.length ≤ S.card
  last_needed : (ops.dropLast.map (storedValue lib s)).sum < amount
  locked : ∀ op, s'.utxos.lookup op =
    if op ∈ ops then (s.utxos.lookup op).map (fun u => { u with lockState := .locked })
    else s.utxos.lookup op
  others : s' = { s with utxos := s'.utxos }

lemma selects_take (hsort : LawfulSort lib) (hweak : SortsWeakOrders lib) (hkeyed : KeyedOutputs s.utxos)
    (hamount : 0 < amount) {k : ℕ} (hk : k ≤ (candidates lib s walletID).length)
    (hbefore : ∀ i < k, (((candidates lib s walletID).take i).map (storedValue lib s)).sum < amount)
    (hreach : amount ≤ (((candidates lib s walletID).take k).map (storedValue lib s)).sum) :
    Selects lib s walletID amount ((candidates lib s walletID).take k)
      (((candidates lib s walletID).take k).map (storedValue lib s)).sum
      (s.lockUTXOs ((candidates lib s walletID).take k)).2 := by
  have hfree : ∀ op ∈ (candidates lib s walletID).take k, op ∈ walletFree s walletID :=
    fun op hop => (mem_candidates hsort hkeyed).mp (List.mem_of_mem_take hop)
  have hlock := lockUTXOs_of_free (candidates_take_free hsort hkeyed walletID k)
  have hlength : ((candidates lib s walletID).take k).length = k := List.length_take_of_le hk
  have hpos : 0 < k := by
    by_contra h0
    obtain rfl : k = 0 := by omega
    exact absurd hreach (not_le.mpr (by simpa using hamount))
  refine ⟨(candidates_nodup hsort hkeyed).sublist (List.take_sublist _ _), hfree, rfl, hreach, ?_, ?_,
    hlock.2.2, hlock.2.1⟩
  · intro S hS hSreach
    rw [hlength]
    exact (candidates_largestFirst hsort hweak hkeyed).le_card hbefore
      (fun op hop => (mem_candidates hsort hkeyed).mpr (hS hop)) hSreach
  · rw [List.dropLast_eq_take, hlength, List.take_take, min_eq_left (by omega)]
    exact hbefore (k - 1) (by omega)

/-- For any free outputs with values that are not negative and any positive amount: the selection
fails exactly where the values of all of them do not reach the amount, and then leaves the store as it
was. Otherwise it locks a selection of the fewest possible. -/
theorem selectForAmount_fewest (hsort : LawfulSort lib) (hweak : SortsWeakOrders lib)
    (hkeyed : KeyedOutputs s.utxos) (hnonneg : ∀ op ∈ walletFree s walletID, 0 ≤ storedValue lib s op)
    (hamount : 0 < amount) :
    (∃ tr r s', Exec (memStep lib) (selectForAmount lib walletID amount) s tr r s') ∧
    ∀ tr r s', Exec (memStep lib) (selectForAmount lib walletID amount) s tr r s' →
      ((∃ err, r = .error err) ↔ ∑ op ∈ walletFree s walletID, storedValue lib s op < amount) ∧
      (∀ err, r = .error err → s' = s) ∧
      ∀ ops total, r = .ok (ops, total) → Selects lib s walletID amount ops total s' := by
  refine ⟨⟨_, _, _, Prog.run_exec (memEnv_memStep lib) _ _⟩, ?_⟩
  intro tr r s' h
  obtain ⟨k, hk, hbefore, hend⟩ := selectForAmount_cases hsort hkeyed h
  rw [← sum_candidates hsort hkeyed]
  rcases hend with ⟨hall, hless, ⟨err, rfl⟩, rfl⟩ | ⟨hreach, rfl, rfl⟩
  · rw [hall, List.take_length] at hless
    exact ⟨iff_of_true ⟨err, rfl⟩ hless, fun _ _ => rfl, fun _ _ hr => by cases hr⟩
  · have hle : (((candidates lib s walletID).take k).map (storedValue lib s)).sum ≤
        ((candidates lib s walletID).map (storedValue lib s)).sum := by
      refine List.Sublist.sum_le_sum ((List.take_sublist _ _).map _) ?_
      intro q hq
      obtain ⟨op, hop, rfl⟩ := List.mem_map.mp hq
      exact hnonneg op ((mem_candidates hsort hkeyed).mp hop)
    refine ⟨iff_of_false (by simp) (not_lt.mpr (hreach.trans hle)), fun _ hr => (by cases hr), ?_⟩
    intro ops total hr
    cases hr
    exact selects_take hsort hweak hkeyed hamount hk hbefore hreach

end Selecting

lemma referenceLib_sortsWeakOrders : SortsWeakOrders referenceLib := by
  intro α less htotal htrans l
  have : Std.Total (fun a b : α => less b a = false) := ⟨fun a b => htotal b a⟩
  have : IsTrans α (fun a b : α => less b a = false) := ⟨htrans⟩
  exact List.pairwise_insertionSort (fun a b => less b a = false) l

/-- Two of three free outputs have the same value and reach the amount; with the third one they do not
reach twice as much. -/
theorem selectForAmount_fewest_tied :
    (selectIn (mixedOutputs "500" "500") 1000).2.1 = .ok ([outpointA, outpointB], 1000) ∧
    Selects referenceLib (mixedOutputs "500" "500") btcWallet.id (1000 : ℕ) [outpointA, outpointB] 1000
      (selectIn (mixedOutputs "500" "500") 1000).2.2 ∧
    (∃ err, (selectIn (mixedOutputs "500" "500") 2000).2.1 = .error err) ∧
    (selectIn (mixedOutputs "500" "500") 2000).2.2 = mixedOutputs "500" "500" := by
  obtain ⟨hselect, hall, hsum⟩ :
      (selectIn (mixedOutputs "500" "500") 1000).2.1 = .ok ([outpointA, outpointB], 1000) ∧
      (∀ op ∈ walletFree (mixedOutputs "500" "500") btcWallet.id,
        0 ≤ storedValue referenceLib (mixedOutputs "500" "500") op) ∧
      ∑ op ∈ walletFree (mixedOutputs "500" "500") btcWallet.id,
        storedValue referenceLib (mixedOutputs "500" "500") op < (2000 : ℕ) := by
    decide +kernel
  have hfewest := selectForAmount_fewest referenceLib_sorts referenceLib_sortsWeakOrders initial_keys hall
    (show (0 : ℚ) < (1000 : ℕ) by norm_num)
  have hfails := selectForAmount_fewest referenceLib_sorts referenceLib_sortsWeakOrders initial_keys hall
    (show (0 : ℚ) < (2000 : ℕ) by norm_num)
  obtain ⟨hiff, hsame, -⟩ := hfails.2 _ _ _ (selectIn_exec rfl)
  obtain ⟨err, herr⟩ := hiff.mpr hsum
  exact ⟨hselect, (hfewest.2 _ _ _ (selectIn_exec hselect)).2.2 _ _ rfl, ⟨err, herr⟩, hsame err herr⟩

end WalletManager.Proofs
