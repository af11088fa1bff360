import WalletManager.Proofs.KeyRotation
import WalletManager.Proofs.MatchedOperations

/-!
# Withdrawals, keys, funding and audit in both stores

The remaining operations of `storage.Store` side by side. A row of these tables changes its state, which
can bring it into a unique index or take it out of one.
-/

namespace WalletManager.Proofs

open Relational

variable {lib : Lib} {db : Database} {m : Store} {p : PgStore}

lemma coalesce_eq (new old : String) : coalesce new old = Store.orKeep new old := by
  unfold coalesce Store.orKeep
  split <;> simp_all

/-! ## Withdrawals -/

section Withdrawals

variable {id : UUID} {w : WithdrawalRequest}

structure Rivals (lib : Lib) (w w' : WithdrawalRequest) : Prop where
  inFlight : w.state.inFlight = true
  inFlight' : w'.state.inFlight = true
  walletID : w.walletID = w'.walletID
  toAddress : w.toAddress = w'.toAddress
  asset : w.asset = w'.asset
  amount : SameNumber lib w.amount w'.amount

abbrev inFlightIndex : UniqueIndex WithdrawalRow :=
  .filtered "withdrawal_inflight_dedup" (fun w => w.request.state.inFlight)
    (fun w => (w.request.walletID, w.request.toAddress, w.amount, w.request.asset))

lemma rivals_iff {w w' : WithdrawalRequest} {row row' : WithdrawalRow} (h : WithdrawalAs lib db w row)
    (h' : WithdrawalAs lib db w' row') : inFlightIndex.Collide row row' ↔ Rivals lib w w' := by
  obtain ⟨rfl, hamount⟩ := h
  obtain ⟨rfl, hamount'⟩ := h'
  rw [UniqueIndex.filtered_collide]
  constructor
  · rintro ⟨hflight, hflight', hkey⟩
    simp only [Prod.mk.injEq] at hkey
    obtain ⟨hwallet, hto, hnumber, hasset⟩ := hkey
    refine ⟨hflight, hflight', hwallet, hto, hasset, row.amount, hamount.written, ?_⟩
    rw [hamount'.written, hnumber]
  · rintro ⟨hflight, hflight', hwallet, hto, hasset, q, hq, hq'⟩
    have hnumber : row.amount = row'.amount := by
      rw [hamount.written] at hq
      rw [hamount'.written] at hq'
      exact (Except.ok.inj hq).trans (Except.ok.inj hq').symm
    exact ⟨hflight, hflight', by rw [hwallet, hto, hnumber, hasset]⟩

lemma withdrawal_at (id : UUID) :
    ∀ v r, WithdrawalAs lib db v r → (v.id = id ↔ decide (r.request.id = id) = true) := by
  rintro v r hvr
  rw [hvr.request]
  exact decide_eq_true_iff.symm

lemma needsTxColumns_ok (h : p.txColumns = true) : p.needsTxColumns = .ok () := if_pos h

lemma outpointArray_ok {outpoints : List String} (h : outpoints ≠ []) : outpointArray outpoints = .ok () :=
  if_neg h

lemma createWithdrawal_matched (h : Agree lib db m p) (hdb : LawfulDatabase lib db)
    (hfresh : ∀ row ∈ p.withdrawals.rows, row.request.id ≠ w.id) (hknown : KnownWallet p w.walletID)
    (hcolumns : p.txColumns = true) (hamount : Exact lib db w.amount) (houtpoints : w.reservedOutpoints ≠ [])
    (hdedup : withdrawalDedupKey w.walletID w.toAddress w.amount w.asset ∉ m.inflightWithdrawals)
    (hrivals : ∀ w' ∈ values m.withdrawals, ¬Rivals lib w' w) :
    Matched lib db Done (m.createWithdrawal w) (p.createWithdrawal db.numeric w) := by
  obtain ⟨amount, hin, hholds⟩ := hamount.holds hdb
  have hrow : WithdrawalAs lib db w ⟨w, amount⟩ := ⟨rfl, hholds⟩
  have hnew : m.withdrawals.lookup w.id = none := by
    refine h.withdrawals.lookup_eq_none (fun v r hr hvr => ?_)
    rw [← hvr.request]
    exact hfresh r hr
  obtain ⟨t, hinsert, hrows⟩ := IndexedTable.insert_ok p.withdrawals ⟨w, amount⟩ (by
    simp only [List.forall_mem_cons, UniqueIndex.total_collide]
    refine ⟨hfresh, fun r hr hcollide => ?_, List.forall_mem_nil _⟩
    obtain ⟨w', hw', hvr⟩ := h.withdrawals.same.exists_left hr
    exact hrivals w' hw' ((rivals_iff hvr hrow).mp hcollide))
  have hpg : p.createWithdrawal db.numeric w = (.ok (), { p with withdrawals := t }) := by
    refine exec_of_ok ?_
    rw [needsTxColumns_ok hcolumns, hin, outpointArray_ok houtpoints]
    dsimp only [bind, Except.bind]
    rw [hinsert, references_ok hknown]
    rfl
  have hmem : (m.createWithdrawal w).1 = .ok () ∧ (m.createWithdrawal w).2 = { m with
      inflightWithdrawals :=
        insert (withdrawalDedupKey w.walletID w.toAddress w.amount w.asset) m.inflightWithdrawals
      withdrawals := m.withdrawals.insert w.id w } := by
    unfold Store.createWithdrawal
    rw [if_neg (AList.lookup_eq_none.mp hnew)]
    dsimp only
    rw [if_neg hdedup]
    exact ⟨rfl, rfl⟩
  unfold Matched
  rw [hpg, hmem.1, hmem.2]
  exact ⟨.ok trivial, { h with withdrawals := hrows ▸ h.withdrawals.insert_new hnew rfl hrow }⟩

lemma getWithdrawal_matched (h : Agree lib db m p) (hcolumns : p.txColumns = true) (id : UUID) :
    SameOutcome (SameWithdrawal lib) (m.getWithdrawal id) (p.getWithdrawal db.numeric id) := by
  have hfind := rel_map_right (g := PgStore.scanWithdrawal db.numeric)
    (h.withdrawals.lookup (withdrawal_at id)) (fun _ _ hvr => hvr.read)
  unfold PgStore.getWithdrawal
  rw [needsTxColumns_ok hcolumns]
  refine sameOutcome_row hfind ?_ ?_
  · intro w hw
    unfold Store.getWithdrawal
    rw [hw]
  · intro hnone
    unfold Store.getWithdrawal
    rw [hnone]
    exact ⟨_, rfl, rfl⟩

lemma listWithdrawals_matched (h : Agree lib db m p) (hcolumns : p.txColumns = true) (walletID : UUID)
    (state : String) : SameOutcome (SameRows (SameWithdrawal lib))
      (.ok (m.listWithdrawals walletID state)) (p.listWithdrawals db.numeric walletID state) := by
  have hrows := (h.withdrawals.same.filter (p := fun w => (walletID = UUID.nil ∨ w.walletID = walletID) ∧
      Store.matchesFilter state w.state.string) (q := fun row =>
      (walletID = UUID.nil ∨ row.request.walletID = walletID) ∧
        (state = "" ∨ row.request.state.string = state)) (by
    rintro v r hvr
    rw [hvr.request]
    simp [Store.matchesFilter])).map (S := SameWithdrawal lib) (f := fun w => w) (fun _ _ hvr => hvr.read)
  rw [List.map_id'] at hrows
  unfold PgStore.listWithdrawals
  rw [needsTxColumns_ok hcolumns]
  exact .ok hrows

lemma Agree.not_rivals (h : Agree lib db m p) {w w' : WithdrawalRequest} (hw : w ∈ values m.withdrawals)
    (hw' : w' ∈ values m.withdrawals) (hne : w.id ≠ w'.id) : ¬Rivals lib w w' := by
  intro hrivals
  obtain ⟨row, hrow, has⟩ := h.withdrawals.same.exists_right hw
  obtain ⟨row', hrow', has'⟩ := h.withdrawals.same.exists_right hw'
  have heq := (p.withdrawals.unique inFlightIndex (by simp)).eq_of_collide hrow hrow'
    ((rivals_iff has has').mpr hrivals)
  rw [← has.request, ← has'.request, heq] at hne
  exact hne rfl

lemma updateWithdrawal_matched (h : Agree lib db m p) (hw : m.withdrawals.lookup id = some w)
    {f : WithdrawalRequest → WithdrawalRequest} (hid : ∀ w, (f w).id = w.id)
    (hamount : ∀ w, (f w).amount = w.amount)
    (hrivals : ∀ w' ∈ values m.withdrawals, w'.id ≠ id → ¬Rivals lib (f w) w') :
    ∃ t, p.updateWithdrawal id f = .ok { p with withdrawals := t } ∧
      Represents WithdrawalRequest.id (WithdrawalAs lib db) (m.withdrawals.insert id (f w)) t.rows := by
  have hkeep : ∀ v r, WithdrawalAs lib db v r → WithdrawalAs lib db (f v) { r with request := f r.request } :=
    fun v r hvr => ⟨congrArg f hvr.request, by rw [hamount]; exact hvr.amount⟩
  have hone : p.withdrawals.rows.Pairwise
      (fun a b => ¬(decide (a.request.id = id) = true ∧ decide (b.request.id = id) = true)) := by
    refine (p.withdrawals.unique _ List.mem_cons_self).imp (fun {a b} hab hboth => hab ?_)
    rw [UniqueIndex.total_collide, of_decide_eq_true hboth.1, of_decide_eq_true hboth.2]
  obtain ⟨t, hupdate, hrows⟩ := IndexedTable.update_ok (t := p.withdrawals)
    (p := fun row => row.request.id = id) (f := fun row => { row with request := f row.request }) (by
      intro ix hix
      refine (p.withdrawals.unique ix hix).map_one hone (fun a ha hpa b hb hpb => ?_)
      simp only [List.mem_cons, List.not_mem_nil, or_false] at hix
      rcases hix with rfl | rfl
      · rw [UniqueIndex.total_collide, hid, of_decide_eq_true hpa]
        exact fun hidb => hpb (decide_eq_true hidb.symm)
      · obtain ⟨w', hw', has'⟩ := h.withdrawals.same.exists_left hb
        have has := hkeep w a (h.withdrawals.row_of_key hw (withdrawal_at id) a ha hpa)
        rw [rivals_iff has has']
        refine hrivals w' hw' (fun hidw => hpb ?_)
        exact (withdrawal_at id w' b has').mp hidw)
  refine ⟨t, ?_, ?_⟩
  · unfold PgStore.updateWithdrawal
    rw [hupdate]
    rfl
  · rw [hrows]
    exact h.withdrawals.update hw ((hid w).trans (h.withdrawals.keyed id w hw)) (withdrawal_at id)
      (fun r _ hvr => hkeep w r hvr)

lemma updateWithdrawalState_matched (h : Agree lib db m p) (hw : m.withdrawals.lookup id = some w)
    {state : WithdrawalState}
    (hrivals : ∀ w' ∈ values m.withdrawals, w'.id ≠ id → ¬Rivals lib { w with state := state } w')
    (reason txHash policyDecisionID : String) :
    Matched lib db Done (m.updateWithdrawalState id state reason txHash policyDecisionID)
      (p.updateWithdrawalState id state reason txHash policyDecisionID) := by
  obtain ⟨t, hpg, hsame⟩ := updateWithdrawal_matched h hw
    (f := fun w => Store.rowWithState w state reason txHash policyDecisionID) (fun _ => rfl) (fun _ => rfl) (by
      rintro w' hw' hne ⟨hflight, hflight', hwallet, hto, hasset, hnumber⟩
      exact hrivals w' hw' hne ⟨hflight, hflight', hwallet, hto, hasset, hnumber⟩)
  have hstmt : p.updateWithdrawalState id state reason txHash policyDecisionID = p.exec
      (p.updateWithdrawal id (fun w => Store.rowWithState w state reason txHash policyDecisionID)) := by
    unfold PgStore.updateWithdrawalState
    simp only [coalesce_eq]
    rfl
  unfold Store.updateWithdrawalState
  rw [hstmt, exec_of_ok hpg, hw]
  exact ⟨.ok trivial, { h with withdrawals := hsame }⟩

lemma updateWithdrawal_kept (h : Agree lib db m p) (hw : m.withdrawals.lookup id = some w)
    {f : WithdrawalRequest → WithdrawalRequest} (hid : ∀ w, (f w).id = w.id)
    (hamount : ∀ w, (f w).amount = w.amount) (hstate : ∀ w, (f w).state = w.state)
    (hkey : ∀ w, ((f w).walletID, (f w).toAddress, (f w).asset) = (w.walletID, w.toAddress, w.asset)) :
    Matched lib db Done (m.updateWithdrawal id f) (p.exec (p.updateWithdrawal id f)) := by
  obtain ⟨t, hpg, hsame⟩ := updateWithdrawal_matched h hw hid hamount (by
    rintro w' hw' hne ⟨hflight, hflight', hwallet, hto, hasset, hnumber⟩
    have hkeys := hkey w
    simp only [Prod.mk.injEq] at hkeys
    rw [hstate] at hflight
    rw [hkeys.1] at hwallet
    rw [hkeys.2.1] at hto
    rw [hkeys.2.2] at hasset
    rw [hamount] at hnumber
    refine h.not_rivals (Represents.mem_of_lookup hw) hw' ?_
      ⟨hflight, hflight', hwallet, hto, hasset, hnumber⟩
    rw [h.withdrawals.keyed id w hw]
    exact Ne.symm hne)
  have hmem : m.updateWithdrawal id f = (.ok (), { m with withdrawals := m.withdrawals.insert id (f w) }) := by
    unfold Store.updateWithdrawal
    rw [hw]
  rw [hmem, exec_of_ok hpg]
  exact ⟨.ok trivial, { h with withdrawals := hsame }⟩

lemma updateWithdrawalNonce_matched (h : Agree lib db m p) (hw : m.withdrawals.lookup id = some w)
    (nonce : Int) :
    Matched lib db Done (m.updateWithdrawalNonce id nonce) (p.updateWithdrawalNonce id nonce) :=
  updateWithdrawal_kept h hw (fun _ => rfl) (fun _ => rfl) (fun _ => rfl) (fun _ => rfl)

lemma updateWithdrawalOutpoints_matched (h : Agree lib db m p) (hw : m.withdrawals.lookup id = some w)
    (hcolumns : p.txColumns = true) {outpoints : List String} (houtpoints : outpoints ≠ []) :
    Matched lib db Done (m.updateWithdrawalOutpoints id outpoints)
      (p.updateWithdrawalOutpoints id outpoints) := by
  have hstmt : p.updateWithdrawalOutpoints id outpoints =
      p.exec (p.updateWithdrawal id (fun w => { w with reservedOutpoints := outpoints })) := by
    unfold PgStore.updateWithdrawalOutpoints
    rw [needsTxColumns_ok hcolumns, outpointArray_ok houtpoints]
    split <;> rfl
  rw [hstmt]
  exact updateWithdrawal_kept h hw (fun _ => rfl) (fun _ => rfl) (fun _ => rfl) (fun _ => rfl)

lemma updateWithdrawalSignedTx_matched (h : Agree lib db m p) (hw : m.withdrawals.lookup id = some w)
    (hcolumns : p.txColumns = true) (txBytes : Bytes) :
    Matched lib db Done (m.updateWithdrawalSignedTx id txBytes) (p.updateWithdrawalSignedTx id txBytes) := by
  have hstmt : p.updateWithdrawalSignedTx id txBytes =
      p.exec (p.updateWithdrawal id (fun w => { w with signedTxBytes := txBytes })) := by
    unfold PgStore.updateWithdrawalSignedTx
    rw [needsTxColumns_ok hcolumns]
    rfl
  rw [hstmt]
  exact updateWithdrawal_kept h hw (fun _ => rfl) (fun _ => rfl) (fun _ => rfl) (fun _ => rfl)

end Withdrawals

/-! ## Key mappings -/

section KeyMappings

variable {walletID : UUID} {n n' : KeyMapping}

abbrev mappingsOf (walletID : UUID) (rows : List KeyMapping) : List KeyMapping :=
  rows.filter (fun n => n.walletID = walletID)

lemma mappingsOf_map {g : KeyMapping → KeyMapping} (hg : ∀ n, (g n).walletID = n.walletID)
    (rows : List KeyMapping) : mappingsOf walletID (rows.map g) = (mappingsOf walletID rows).map g := by
  unfold mappingsOf
  rw [List.filter_map]
  congr 1
  refine List.filter_congr (fun n _ => ?_)
  rw [Function.comp_apply, hg]

lemma mappingsOf_other {q : KeyMapping → Bool} {g : KeyMapping → KeyMapping} {walletID' : UUID}
    (hne : walletID' ≠ walletID) (hq : ∀ n, q n = true → n.walletID = walletID)
    (hg : ∀ n, (g n).walletID = n.walletID) (rows : List KeyMapping) :
    mappingsOf walletID' (rows.map (fun n => if q n then g n else n)) = mappingsOf walletID' rows := by
  rw [mappingsOf_map (fun n => by split <;> simp [hg])]
  calc _ = (mappingsOf walletID' rows).map (fun n => n) := by
        refine List.map_congr_left (fun n hn => if_neg (fun hqn => hne ?_))
        rw [← hq n hqn]
        exact (of_decide_eq_true (List.mem_filter.mp hn).2).symm
    _ = mappingsOf walletID' rows := List.map_id' _

lemma mappingsOf_concat (rows : List KeyMapping) :
    mappingsOf walletID (rows ++ [n]) =
      if n.walletID = walletID then mappingsOf walletID rows ++ [n] else mappingsOf walletID rows := by
  unfold mappingsOf
  rw [List.filter_append]
  by_cases hn : n.walletID = walletID <;> simp [hn]

lemma bindKeyMapping_matched (h : Agree lib db m p) (hknown : KnownWallet p n.walletID)
    (hkey : ∀ r ∈ p.keyMappings.rows, (r.walletID, r.keyID) ≠ (n.walletID, n.keyID)) (now : Int) :
    Matched lib db Done (m.bindKeyMapping n now) (p.bindKeyMapping n) := by
  by_cases hcurrent : (m.mappings n.walletID).any
      (fun ex => ex.rotationState = .current ∧ n.rotationState = .current) = true
  · -- The wallet has a current mapping: the loop of one store and the index of the other refuse.
    have hmem : m.bindKeyMapping n now = (.error ⟨"current key mapping already exists", none⟩, m) :=
      if_pos hcurrent
    obtain ⟨ex, hex, hboth⟩ := List.any_eq_true.mp hcurrent
    obtain ⟨r, hr, hsame⟩ := (h.mappings n.walletID).exists_right hex
    obtain ⟨hr, hwallet⟩ := List.mem_filter.mp hr
    obtain ⟨hexState, hstate⟩ := of_decide_eq_true hboth
    rw [hsame.rotationState] at hexState
    rcases IndexedTable.insert_cases p.keyMappings n with ⟨t, -, -, hfree⟩ | ⟨name, hinsert, -⟩
    · refine absurd ?_ (hfree _ (List.mem_cons_of_mem _ List.mem_cons_self) r hr)
      rw [UniqueIndex.filtered_collide]
      exact ⟨decide_eq_true hexState, decide_eq_true hstate, of_decide_eq_true hwallet⟩
    · have hpg : p.bindKeyMapping n = (.error (uniqueViolation name), p) := by
        refine exec_of_error ?_
        rw [hinsert]
        rfl
      rw [hmem, hpg]
      exact ⟨.error rfl, h⟩
  · obtain ⟨t, hinsert, hrows⟩ := IndexedTable.insert_ok p.keyMappings n (by
      simp only [List.forall_mem_cons, UniqueIndex.total_collide, UniqueIndex.filtered_collide]
      refine ⟨hkey, fun r hr ⟨hrState, hstate, hwallet⟩ => hcurrent ?_, List.forall_mem_nil _⟩
      obtain ⟨ex, hex, hsame⟩ := (h.mappings n.walletID).exists_left
        (List.mem_filter.mpr ⟨hr, decide_eq_true hwallet⟩)
      refine List.any_eq_true.mpr ⟨ex, hex, decide_eq_true ⟨?_, of_decide_eq_true hstate⟩⟩
      rw [hsame.rotationState]
      exact of_decide_eq_true hrState)
    have hpg : p.bindKeyMapping n = (.ok (), { p with keyMappings := t }) := by
      refine exec_of_ok ?_
      rw [hinsert, references_ok hknown]
      rfl
    unfold Store.bindKeyMapping
    rw [if_neg hcurrent, hpg]
    refine ⟨.ok trivial, { h with mappings := fun walletID => ?_ }⟩
    rw [mappings_insert, hrows]
    change SameRows SameMapping _ (mappingsOf walletID (p.keyMappings.rows ++ [n]))
    rw [mappingsOf_concat]
    by_cases hwallet : walletID = n.walletID
    · rw [if_pos hwallet, if_pos hwallet.symm, hwallet]
      refine (h.mappings n.walletID).concat ?_
      unfold SameMapping
      split <;> rfl
    · rw [if_neg hwallet, if_neg (Ne.symm hwallet)]
      exact h.mappings walletID

lemma resolveActiveKey_matched (h : Agree lib db m p) (hsort : LawfulSort lib) (hdb : LawfulDatabase lib db)
    (walletID : UUID) :
    SameOutcome (SameRows SameMapping) (m.resolveActiveKey lib walletID) (p.resolveActiveKey db walletID) := by
  let live : KeyMapping → Bool := fun n => n.rotationState = .current ∨ n.rotationState = .cooling
  let rows := p.keyMappings.rows.filter (fun n => n.walletID = walletID ∧
    (n.rotationState = .current ∨ n.rotationState = .cooling))
  have hsame : SameRows SameMapping ((m.mappings walletID).filter live) rows := by
    have hrows : rows = (mappingsOf walletID p.keyMappings.rows).filter live := by
      unfold mappingsOf
      rw [List.filter_filter]
      refine List.filter_congr (fun n _ => ?_)
      dsimp only [live]
      rw [← Bool.decide_and, decide_eq_decide]
      exact and_comm
    rw [hrows]
    refine (h.mappings walletID).filter (fun v r hvr => ?_)
    dsimp only [live]
    rw [hvr.rotationState]
  have hperm : (db.orderBy (fun a b => decide (a.activeFrom < b.activeFrom)) rows).Perm rows := hdb.perm _ _
  have hmem : m.resolveActiveKey lib walletID =
      if (m.mappings walletID).filter live = [] then .error (errNoRows.wrap "no active key mapping")
      else .ok (lib.sortSlice (fun a b => decide (a.activeFrom < b.activeFrom))
        ((m.mappings walletID).filter live)) := rfl
  have hpg : p.resolveActiveKey db walletID =
      if db.orderBy (fun a b => decide (a.activeFrom < b.activeFrom)) rows = [] then .error errNoRows
      else .ok (db.orderBy (fun a b => decide (a.activeFrom < b.activeFrom)) rows) := rfl
  rw [hmem, hpg]
  by_cases hnone : (m.mappings walletID).filter live = []
  · have hempty : db.orderBy (fun a b => decide (a.activeFrom < b.activeFrom)) rows = [] := by
      refine List.length_eq_zero_iff.mp ?_
      rw [hperm.length_eq, ← hsame.length_eq, hnone, List.length_nil]
    rw [if_pos hnone, if_pos hempty]
    exact .error rfl
  · have hfull : db.orderBy (fun a b => decide (a.activeFrom < b.activeFrom)) rows ≠ [] := by
      refine fun hempty => hnone (List.length_eq_zero_iff.mp ?_)
      rw [hsame.length_eq, ← hperm.length_eq, hempty, List.length_nil]
    rw [if_neg hnone, if_neg hfull]
    exact .ok ((hsame.perm_left (hsort.perm _ _)).perm_right hperm.symm)

lemma demoted_matched (h : Agree lib db m p) (walletID : UUID) (till : Int) :
    ∃ cooled, p.keyMappings.update (fun n => n.walletID = walletID ∧ n.rotationState = .current)
        (fun n => { n with rotationState := .cooling, activeTo := some till }) = .ok cooled ∧
      SameRows SameMapping ((m.mappings walletID).map (Store.demote till)) (mappingsOf walletID cooled.rows) ∧
      (∀ walletID' ≠ walletID, mappingsOf walletID' cooled.rows = mappingsOf walletID' p.keyMappings.rows) ∧
      ∀ n ∈ cooled.rows, n.walletID = walletID → n.rotationState ≠ .current := by
  obtain ⟨cooled, hupdate, hrows⟩ := IndexedTable.update_ok_of_keys (t := p.keyMappings)
    (p := fun n => n.walletID = walletID ∧ n.rotationState = .current)
    (f := fun n => { n with rotationState := .cooling, activeTo := some till })
    (by simp [UniqueIndex.total, UniqueIndex.filtered])
  refine ⟨cooled, hupdate, ?_, ?_, ?_⟩
  · rw [hrows, mappingsOf_map (fun n => by split <;> rfl)]
    refine (h.mappings walletID).map_mem (fun v _ r hr hvr => ?_)
    have hwallet := of_decide_eq_true (List.mem_filter.mp hr).2
    unfold Store.demote
    by_cases hcurrent : v.rotationState = .current
    · rw [if_pos hcurrent, if_pos (decide_eq_true ⟨hwallet, hvr.rotationState ▸ hcurrent⟩)]
      rw [hvr]
      rfl
    · rw [if_neg hcurrent, if_neg (fun hd => hcurrent (hvr.rotationState ▸ (of_decide_eq_true hd).2))]
      exact hvr
  · intro walletID' hne
    rw [hrows]
    refine mappingsOf_other hne ?_ ?_ _
    · intro n hn
      exact (of_decide_eq_true hn).1
    · intro n
      rfl
  · intro n hn hwallet
    rw [hrows] at hn
    obtain ⟨r, -, rfl⟩ := List.mem_map.mp hn
    split at hwallet <;> rename_i hr
    · rw [if_pos hr]
      intro hcurrent
      cases hcurrent
    · rw [if_neg hr]
      exact fun hcurrent => hr (decide_eq_true ⟨hwallet, hcurrent⟩)

lemma isKeyMapping_iff {k : String} :
    PgStore.isKeyMapping walletID k n = true ↔ n.walletID = walletID ∧ n.keyID = k := decide_eq_true_iff

lemma promoted_matched {ms : List KeyMapping} {t : IndexedTable keyMappingIndexes}
    (hsame : SameRows SameMapping ms (mappingsOf walletID t.rows))
    (hcooled : ∀ n ∈ t.rows, n.walletID = walletID → n.rotationState ≠ .current) (k : String) (now : Int) :
    ∃ t', t.upsert (PgStore.isKeyMapping walletID k)
        (fun n => { n with rotationState := .current, activeFrom := now, activeTo := none })
        ⟨walletID, k, now, none, .current⟩ = .ok t' ∧
      SameRows SameMapping ((Store.promote k now ms).getD (ms ++ [⟨walletID, k, now, none, .current⟩]))
        (mappingsOf walletID t'.rows) ∧
      ∀ walletID' ≠ walletID, mappingsOf walletID' t'.rows = mappingsOf walletID' t.rows := by
  have hfound : Store.promote k now ms = none ↔ ¬t.rows.any (PgStore.isKeyMapping walletID k) = true := by
    rw [promote_eq_none, List.any_eq_true]
    constructor
    · rintro hms ⟨r, hr, hk⟩
      obtain ⟨hwallet, hkey⟩ := isKeyMapping_iff.mp hk
      obtain ⟨v, hv, hvr⟩ := hsame.exists_left (List.mem_filter.mpr ⟨hr, decide_eq_true hwallet⟩)
      exact hms v hv (hvr.keyID.trans hkey)
    · intro hnone v hv hk
      obtain ⟨r, hr, hvr⟩ := hsame.exists_right hv
      obtain ⟨hr, hwallet⟩ := List.mem_filter.mp hr
      exact hnone ⟨r, hr, isKeyMapping_iff.mpr ⟨of_decide_eq_true hwallet, hvr.keyID ▸ hk⟩⟩
  unfold IndexedTable.upsert
  cases hpromote : Store.promote k now ms with
  | none =>
    have hnone := hfound.mp hpromote
    obtain ⟨t', hinsert, hrows⟩ := IndexedTable.insert_ok t ⟨walletID, k, now, none, .current⟩ (by
      simp only [List.forall_mem_cons, UniqueIndex.total_collide, UniqueIndex.filtered_collide]
      refine ⟨fun r hr hkey => hnone ?_, fun r hr ⟨hstate, _, hwallet⟩ => ?_, List.forall_mem_nil _⟩
      · simp only [Prod.mk.injEq] at hkey
        exact List.any_eq_true.mpr ⟨r, hr, isKeyMapping_iff.mpr hkey⟩
      · exact hcooled r hr hwallet (of_decide_eq_true hstate))
    rw [if_neg hnone]
    refine ⟨t', hinsert, ?_, ?_⟩
    · rw [hrows, mappingsOf_concat, if_pos rfl]
      exact hsame.concat rfl
    · intro walletID' hne
      rw [hrows, mappingsOf_concat, if_neg (Ne.symm hne)]
  | some ms' =>
    have hsome : t.rows.any (PgStore.isKeyMapping walletID k) = true := by
      by_contra hnone
      rw [hfound.mpr hnone] at hpromote
      cases hpromote
    have hdistinct := t.unique _ List.mem_cons_self
    have hone : t.rows.Pairwise (fun a b => ¬(PgStore.isKeyMapping walletID k a = true ∧
        PgStore.isKeyMapping walletID k b = true)) := by
      refine hdistinct.imp (fun {a b} hab hboth => hab ?_)
      obtain ⟨ha, hka⟩ := isKeyMapping_iff.mp hboth.1
      obtain ⟨hb, hkb⟩ := isKeyMapping_iff.mp hboth.2
      rw [UniqueIndex.total_collide, ha, hb, hka, hkb]
    obtain ⟨t', hupdate, hrows⟩ := IndexedTable.update_ok (t := t) (p := PgStore.isKeyMapping walletID k)
      (f := fun n => { n with rotationState := .current, activeFrom := now, activeTo := none }) (by
        intro ix hix
        refine (t.unique ix hix).map_one hone (fun a _ ha b hb hnb => ?_)
        simp only [List.mem_cons, List.not_mem_nil, or_false] at hix
        rcases hix with rfl | rfl
        · rw [UniqueIndex.total_collide, Prod.mk.injEq]
          rintro ⟨hwallet, hkey⟩
          obtain ⟨hwa, hka⟩ := isKeyMapping_iff.mp ha
          exact hnb (isKeyMapping_iff.mpr ⟨hwallet.symm.trans hwa, hkey.symm.trans hka⟩)
        · rw [UniqueIndex.filtered_collide]
          rintro ⟨-, hstate, hwallet⟩
          have hwa := (isKeyMapping_iff.mp ha).1
          exact hcooled b hb (hwallet.symm.trans hwa) (of_decide_eq_true hstate))
    have honeKey : ms.Pairwise (fun a b => ¬(a.keyID = k ∧ b.keyID = k)) := by
      have hrowsOne : (mappingsOf walletID t.rows).Pairwise (fun a b => ¬(a.keyID = k ∧ b.keyID = k)) := by
        refine (hone.filter _).imp_of_mem (fun {a b} ha hb hab hboth => hab ?_)
        exact ⟨isKeyMapping_iff.mpr ⟨of_decide_eq_true (List.mem_filter.mp ha).2, hboth.1⟩,
          isKeyMapping_iff.mpr ⟨of_decide_eq_true (List.mem_filter.mp hb).2, hboth.2⟩⟩
      refine hsame.pairwise hrowsOne (fun a a' hnot hboth => hnot hboth.symm) ?_
      intro a b a' b' hab hab' hnot
      rwa [hab.keyID, hab'.keyID]
    obtain rfl := first_eq_map (Store.promote k now) rfl (fun _ _ => rfl) honeKey hpromote
    rw [if_pos hsome]
    refine ⟨t', hupdate, ?_, ?_⟩
    · rw [hrows, mappingsOf_map (fun n => by split <;> rfl)]
      refine hsame.map_mem (fun v _ r hr hvr => ?_)
      have hwallet := of_decide_eq_true (List.mem_filter.mp hr).2
      by_cases hk : v.keyID = k
      · rw [if_pos hk, if_pos (isKeyMapping_iff.mpr ⟨hwallet, hvr.keyID ▸ hk⟩)]
        rw [hvr]
        rfl
      · rw [if_neg hk, if_neg (fun hd => hk (hvr.keyID.trans (isKeyMapping_iff.mp hd).2))]
        exact hvr
    · intro walletID' hne
      rw [hrows]
      refine mappingsOf_other hne ?_ ?_ _
      · intro n hn
        exact (isKeyMapping_iff.mp hn).1
      · intro n
        rfl

lemma rotateKeyMapping_matched (h : Agree lib db m p) (hknown : KnownWallet p walletID) (k : String)
    (cooling now : Int) :
    Matched lib db Done (m.rotateKeyMapping walletID k cooling now)
      (p.rotateKeyMapping walletID k cooling now) := by
  obtain ⟨cooled, hupdate, hcooled, hothers, hnone⟩ := demoted_matched h walletID (now + cooling)
  obtain ⟨t, hupsert, hsame, hothers'⟩ := promoted_matched hcooled hnone k now
  have hpg : p.rotateKeyMapping walletID k cooling now = (.ok (), { p with keyMappings := t }) := by
    refine exec_of_ok ?_
    rw [hupdate]
    dsimp only [unique, bind, Except.bind]
    rw [hupsert, references_ok hknown]
    dsimp only
    split <;> rfl
  unfold Store.rotateKeyMapping
  rw [hpg]
  refine ⟨.ok trivial, { h with mappings := fun walletID' => ?_ }⟩
  rw [mappings_insert]
  by_cases hwallet : walletID' = walletID
  · rw [if_pos hwallet, hwallet]
    exact hsame
  · rw [if_neg hwallet]
    change SameRows SameMapping _ (mappingsOf walletID' t.rows)
    rw [hothers' walletID' hwallet, hothers walletID' hwallet]
    exact h.mappings walletID'

lemma expireCooling_matched (h : Agree lib db m p) (now : Int) :
    Matched lib db Done (m.expireCooling now) (p.expireCooling now) := by
  obtain ⟨t, hupdate, hrows⟩ := IndexedTable.update_ok_of_keys (t := p.keyMappings)
    (p := fun n => n.rotationState = .cooling ∧ n.activeTo.any (· < now))
    (f := fun n => { n with rotationState := .retired }) (by simp [UniqueIndex.total, UniqueIndex.filtered])
  have hpg : p.expireCooling now = (.ok (), { p with keyMappings := t }) := by
    refine exec_of_ok ?_
    rw [hupdate]
    rfl
  rw [hpg]
  refine ⟨.ok trivial, { h with mappings := fun walletID => ?_ }⟩
  rw [mappings_expireCooling, hrows]
  change SameRows SameMapping _ (mappingsOf walletID (List.map _ _))
  rw [mappingsOf_map (fun n => by split <;> rfl)]
  refine (h.mappings walletID).map (fun v r hvr => ?_)
  unfold Store.retire
  by_cases hover : v.rotationState = .cooling ∧ v.activeTo.any (· < now)
  · have hover' := hover
    rw [hvr.rotationState, hvr.activeTo] at hover'
    rw [if_pos hover, if_pos (decide_eq_true hover'), hvr]
    rfl
  · have hover' := hover
    rw [hvr.rotationState, hvr.activeTo] at hover'
    rw [if_neg hover, if_neg (fun hd => hover' (of_decide_eq_true hd))]
    exact hvr

end KeyMappings

/-! ## Funding requests -/

section Funding

variable {id walletID : UUID} {asset : String} {f : FundingRequest}

lemma funding_at (id : UUID) :
    ∀ v r, FundingAs lib db v r → (v.id = id ↔ decide (r.request.id = id) = true) := by
  rintro v r hvr
  rw [hvr.request]
  exact decide_eq_true_iff.symm

lemma isOpen_iff : Store.isOpen walletID asset f = true ↔
    f.walletID = walletID ∧ f.asset = asset ∧ f.state = .requested := decide_eq_true_iff

lemma createFundingRequest_matched (h : Agree lib db m p) (hdb : LawfulDatabase lib db)
    (hfresh : ∀ row ∈ p.fundingRequests.rows, row.request.id ≠ f.id) (hknown : KnownWallet p f.walletID)
    (hamount : Exact lib db f.amount)
    (hopen : ∀ g ∈ values m.fundingReq, ¬Store.isOpen f.walletID f.asset g = true) :
    Matched lib db Done (m.createFundingRequest f) (p.createFundingRequest db.numeric f) := by
  obtain ⟨amount, hin, hholds⟩ := hamount.holds hdb
  have hnew : m.fundingReq.lookup f.id = none := by
    refine h.funding.lookup_eq_none (fun v r hr hvr => ?_)
    rw [← hvr.request]
    exact hfresh r hr
  obtain ⟨t, hinsert, hrows⟩ := IndexedTable.insert_ok p.fundingRequests ⟨f, amount⟩ (by
    simp only [List.forall_mem_cons, UniqueIndex.total_collide, UniqueIndex.filtered_collide]
    refine ⟨hfresh, fun r hr ⟨hstate, _, hkey⟩ => ?_, List.forall_mem_nil _⟩
    obtain ⟨g, hg, hgr⟩ := h.funding.same.exists_left hr
    rw [Prod.mk.injEq] at hkey
    refine hopen g hg (isOpen_iff.mpr ?_)
    rw [← hgr.request]
    exact ⟨hkey.1, hkey.2, of_decide_eq_true hstate⟩)
  have hmem : m.createFundingRequest f = (.ok (), { m with fundingReq := m.fundingReq.insert f.id f }) := by
    refine if_neg (fun hany => ?_)
    obtain ⟨g, hg, hgopen⟩ := List.any_eq_true.mp hany
    exact hopen g hg hgopen
  have hpg : p.createFundingRequest db.numeric f = (.ok (), { p with fundingRequests := t }) := by
    refine exec_of_ok ?_
    rw [hin]
    dsimp only [bind, Except.bind]
    rw [hinsert, references_ok hknown]
    rfl
  rw [hmem, hpg]
  exact ⟨.ok trivial, { h with funding := hrows ▸ h.funding.insert_new hnew rfl ⟨rfl, hholds⟩ }⟩

lemma Agree.one_open (h : Agree lib db m p) (walletID : UUID) (asset : String) :
    (values m.fundingReq).Pairwise
      (fun f g => ¬(Store.isOpen walletID asset f = true ∧ Store.isOpen walletID asset g = true)) := by
  have hindex := p.fundingRequests.unique _ (List.mem_cons_of_mem _ List.mem_cons_self)
  refine h.funding.same.pairwise hindex (fun f g hnot hboth => hnot hboth.symm) ?_
  rintro f r g r' hfr hgr hcollide ⟨hf, hg⟩
  obtain ⟨hwallet, hasset, hstate⟩ := isOpen_iff.mp hf
  obtain ⟨hwallet', hasset', hstate'⟩ := isOpen_iff.mp hg
  refine hcollide (UniqueIndex.filtered_collide.mpr ?_)
  rw [hfr.request, hgr.request, hwallet, hasset, hwallet', hasset']
  exact ⟨decide_eq_true hstate, decide_eq_true hstate', rfl⟩

lemma getOpenFundingRequest_matched (h : Agree lib db m p) (walletID : UUID) (asset : String) :
    SameOutcome (SameFunding lib) (m.getOpenFundingRequest walletID asset)
      (p.getOpenFundingRequest db.numeric walletID asset) := by
  have hfind := h.funding.same.find? (q := fun row => row.request.walletID = walletID ∧
    row.request.asset = asset ∧ row.request.state = .requested) (by
      rintro v r hvr
      rw [hvr.request]
      rfl) (h.one_open walletID asset)
  have hrows : Store.rows m.fundingReq = values m.fundingReq := rfl
  refine sameOutcome_row (rel_map_right hfind (fun _ _ hvr => hvr.read)) ?_ ?_
  · intro f hf
    rw [Store.getOpenFundingRequest, hrows, hf]
  · intro hnone
    rw [Store.getOpenFundingRequest, hrows, hnone]
    exact ⟨_, rfl, rfl⟩

lemma listFundingRequests_matched (h : Agree lib db m p) (walletID : UUID) (state : String) :
    SameRows (SameFunding lib) (m.listFundingRequests walletID state)
      (p.listFundingRequests db.numeric walletID state) := by
  have hrows := (h.funding.same.filter (p := fun f => (walletID = UUID.nil ∨ f.walletID = walletID) ∧
      Store.matchesFilter state f.state.string) (q := fun row =>
      (walletID = UUID.nil ∨ row.request.walletID = walletID) ∧
        (state = "" ∨ row.request.state.string = state)) (by
    rintro v r hvr
    rw [hvr.request]
    simp [Store.matchesFilter])).map (S := SameFunding lib) (f := fun f => f) (fun _ _ hvr => hvr.read)
  rwa [List.map_id'] at hrows

lemma updateFundingState_matched (h : Agree lib db m p) (hf : m.fundingReq.lookup id = some f)
    {state : FundingState} (hopen : state = .requested → ∀ g ∈ values m.fundingReq, g.id ≠ id →
      ¬Store.isOpen f.walletID f.asset g = true) (treasuryBatchID : String) :
    Matched lib db Done (m.updateFundingState id state treasuryBatchID)
      (p.updateFundingState id state treasuryBatchID) := by
  let change : FundingRequest → FundingRequest := fun f =>
    { f with state := state, treasuryBatchID := Store.orKeep treasuryBatchID f.treasuryBatchID }
  have hone : p.fundingRequests.rows.Pairwise
      (fun a b => ¬(decide (a.request.id = id) = true ∧ decide (b.request.id = id) = true)) := by
    refine (p.fundingRequests.unique _ List.mem_cons_self).imp (fun {a b} hab hboth => hab ?_)
    rw [UniqueIndex.total_collide, of_decide_eq_true hboth.1, of_decide_eq_true hboth.2]
  obtain ⟨t, hupdate, hrows⟩ := IndexedTable.update_ok (t := p.fundingRequests)
    (p := fun row => row.request.id = id) (f := fun row => { row with request := change row.request }) (by
      intro ix hix
      refine (p.fundingRequests.unique ix hix).map_one hone (fun a ha hpa b hb hpb => ?_)
      have hida := of_decide_eq_true hpa
      simp only [List.mem_cons, List.not_mem_nil, or_false] at hix
      rcases hix with rfl | rfl
      · rw [UniqueIndex.total_collide]
        exact fun hidb => hpb (decide_eq_true (hidb.symm.trans hida))
      · rw [UniqueIndex.filtered_collide]
        rintro ⟨hstate, hstateb, hkey⟩
        obtain ⟨g, hg, hgb⟩ := h.funding.same.exists_left hb
        rw [← (h.funding.row_of_key hf (funding_at id) a ha hpa).request] at hopen
        rw [Prod.mk.injEq] at hkey
        refine hopen (of_decide_eq_true hstate) g hg (fun hidg => hpb ?_) (isOpen_iff.mpr ?_)
        · exact (funding_at id g b hgb).mp hidg
        · rw [← hgb.request]
          exact ⟨hkey.1.symm, hkey.2.symm, of_decide_eq_true hstateb⟩)
  have hmem : m.updateFundingState id state treasuryBatchID =
      (.ok (), { m with fundingReq := m.fundingReq.insert id (change f) }) := by
    unfold Store.updateFundingState
    rw [hf]
  have hpg : p.updateFundingState id state treasuryBatchID = (.ok (), { p with fundingRequests := t }) := by
    refine exec_of_ok ?_
    simp only [coalesce_eq]
    rw [hupdate]
    rfl
  rw [hmem, hpg]
  refine ⟨.ok trivial, { h with funding := ?_ }⟩
  rw [hrows]
  refine h.funding.update hf (show (change f).id = id from h.funding.keyed id f hf) (funding_at id)
    (fun r _ hvr => ?_)
  exact ⟨congrArg change hvr.request, hvr.amount⟩

end Funding

/-! ## The audit outbox -/

section Audit

variable {id : UUID} {e : AuditOutboxEvent}

structure AuditColumns (db : Database) (e : AuditOutboxEvent) : Prop where
  payload : db.jsonb e.payload = .ok e.payload
  delivered : e.delivered = false
  attempts : e.attempts = 0

lemma appendAuditEvent_matched (h : Agree lib db m p) (hfresh : ∀ row ∈ p.auditOutbox.rows, row.id ≠ e.id)
    (hcolumns : AuditColumns db e) (heventID : ∀ row ∈ p.auditOutbox.rows, row.eventID ≠ e.eventID) :
    Matched lib db Done (m.appendAuditEvent e) (p.appendAuditEvent db e) := by
  have hstored : { e with payload := e.payload, delivered := false, attempts := 0 } = e := by
    rw [← hcolumns.delivered, ← hcolumns.attempts]
  obtain ⟨t, hinsert, hrows⟩ := IndexedTable.insert_ok p.auditOutbox e (by
    simp only [List.forall_mem_cons, UniqueIndex.total_collide]
    exact ⟨hfresh, heventID, List.forall_mem_nil _⟩)
  have hmem : m.appendAuditEvent e = (.ok (), { m with auditOutbox := m.auditOutbox ++ [e] }) := by
    refine if_neg (fun hany => ?_)
    obtain ⟨row, hrow, hid⟩ := List.any_eq_true.mp hany
    obtain ⟨row', hrow', rfl⟩ := h.outbox.exists_right hrow
    exact heventID row hrow' (of_decide_eq_true hid)
  have hpg : p.appendAuditEvent db e = (.ok (), { p with auditOutbox := t }) := by
    refine exec_of_ok ?_
    rw [hcolumns.payload]
    dsimp only [bind, Except.bind]
    rw [hstored, hinsert]
    rfl
  rw [hmem, hpg]
  exact ⟨.ok trivial, { h with outbox := hrows ▸ h.outbox.concat rfl }⟩

abbrev undelivered (outbox : List AuditOutboxEvent) : List AuditOutboxEvent :=
  outbox.filter (fun e => !e.delivered)

/-- The limit cuts the listing off at no tie. -/
structure ListableTo (outbox : List AuditOutboxEvent) (limit : Int) : Prop where
  pos : 0 < limit
  ties : (undelivered outbox).length ≤ limit.toNat ∨
    ∀ e ∈ undelivered outbox, ∀ e' ∈ undelivered outbox, e.seq = e'.seq → e = e'

lemma listUndeliveredAuditEvents_matched (h : Agree lib db m p) (hsort : LawfulSort lib)
    (hdb : LawfulDatabase lib db) {limit : Int} (hlimit : ListableTo m.auditOutbox limit) :
    SameOutcome (SameRows Eq) (.ok (m.listUndeliveredAuditEvents lib limit))
      (p.listUndeliveredAuditEvents db limit) := by
  let out := lib.sortSlice (fun a b => decide (a.seq < b.seq)) (undelivered m.auditOutbox)
  let out' := db.orderBy (fun a b => decide (a.seq < b.seq)) (undelivered p.auditOutbox.rows)
  have hmem : m.listUndeliveredAuditEvents lib limit = out.take limit.toNat := by
    unfold Store.listUndeliveredAuditEvents
    dsimp only
    split
    · rfl
    · rename_i hshort
      refine (List.take_of_length_le ?_).symm
      have hpos := hlimit.pos
      simp only [hpos, true_and, not_lt] at hshort
      exact Int.le_toNat hpos.le |>.mpr hshort
  have hpg : p.listUndeliveredAuditEvents db limit = .ok (out'.take limit.toNat) :=
    if_neg (not_lt.mpr hlimit.pos.le)
  have hperm : out.Perm (undelivered m.auditOutbox) := hsort.perm _ _
  have hperm' : out'.Perm (undelivered p.auditOutbox.rows) := hdb.perm _ _
  have hsame : SameRows Eq out out' := by
    refine SameRows.perm_right (SameRows.perm_left (h.outbox.filter ?_) hperm) hperm'.symm
    rintro a b rfl
    rfl
  rw [hmem, hpg]
  refine .ok ?_
  rcases hlimit.ties with hshort | hties
  · rw [List.take_of_length_le (by rwa [hperm.length_eq]),
      List.take_of_length_le (by rwa [← hsame.length_eq, hperm.length_eq])]
    exact hsame
  · have hforall := hsame.forall₂ AuditOutboxEvent.seq AuditOutboxEvent.seq
      (fun a b hab => congrArg _ hab) (hsort.sorted _ _) (hdb.sorted _ _)
      (fun a ha a' ha' => hties a (hperm.mem_iff.mp ha) a' (hperm.mem_iff.mp ha'))
    exact ⟨_, .refl _, List.forall₂_take _ hforall⟩

lemma markAuditDelivered_matched (h : Agree lib db m p) (he : e ∈ m.auditOutbox) (hid : e.id = id)
    (hattempts : Int4 (e.attempts + 1)) :
    Matched lib db Done (m.markAuditDelivered id) (p.markAuditDelivered id) := by
  have hone : p.auditOutbox.rows.Pairwise (fun a b => ¬(a.id = id ∧ b.id = id)) := by
    refine (p.auditOutbox.unique _ List.mem_cons_self).imp (fun {a b} hab hboth => hab ?_)
    rw [UniqueIndex.total_collide, hboth.1, hboth.2]
  have hone' : m.auditOutbox.Pairwise (fun a b => ¬(a.id = id ∧ b.id = id)) := by
    refine h.outbox.pairwise hone (fun a b hnot hboth => hnot hboth.symm) ?_
    rintro a _ b _ rfl rfl hnot
    exact hnot
  obtain ⟨t, hupdate, hrows⟩ := IndexedTable.update_ok_of_keys (t := p.auditOutbox)
    (p := fun e => e.id = id) (f := fun e => { e with delivered := true, attempts := e.attempts + 1 })
    (by simp [UniqueIndex.total])
  have hfits : (p.auditOutbox.rows.filter (fun e => e.id = id)).forM (fun e => int4 (e.attempts + 1)) =
      .ok () := by
    refine forM_ok (fun row hrow => int4_ok ?_)
    obtain ⟨hrow, hrowID⟩ := List.mem_filter.mp hrow
    obtain ⟨_, he', rfl⟩ := h.outbox.exists_right he
    have hrowe := (p.auditOutbox.unique _ List.mem_cons_self).eq_of_collide hrow he'
      (UniqueIndex.total_collide.mpr ((of_decide_eq_true hrowID).trans hid.symm))
    rwa [hrowe]
  have hpg : p.markAuditDelivered id = (.ok (), { p with auditOutbox := t }) := by
    refine exec_of_ok ?_
    rw [hfits]
    dsimp only [bind, Except.bind]
    rw [hupdate]
    rfl
  cases hdeliver : Store.deliver id m.auditOutbox with
  | none => exact absurd hid ((first_eq_none (Store.deliver id) rfl (fun _ _ => rfl)).mp hdeliver e he)
  | some outbox =>
    obtain rfl := first_eq_map (Store.deliver id) rfl (fun _ _ => rfl) hone' hdeliver
    unfold Store.markAuditDelivered
    rw [hpg, hdeliver]
    refine ⟨.ok trivial, { h with outbox := ?_ }⟩
    rw [hrows]
    refine h.outbox.map ?_
    rintro a _ rfl
    simp only [decide_eq_true_iff]

lemma auditSeq_upsert (t : IndexedTable auditSeqIndexes) (walletID : UUID) :
    ∃ t', t.upsert (fun row => row.walletID = walletID) (fun row => { row with seq := row.seq + 1 })
        ⟨walletID, 1⟩ = .ok t' ∧
      ∀ walletID', (t'.rows.find? (fun row => row.walletID = walletID')).map AuditSeqRow.seq =
        if walletID' = walletID then
          some (((t.rows.find? (fun row => row.walletID = walletID)).map AuditSeqRow.seq).getD 0 + 1)
        else (t.rows.find? (fun row => row.walletID = walletID')).map AuditSeqRow.seq := by
  unfold IndexedTable.upsert
  cases hfind : t.rows.find? (fun row => row.walletID = walletID) with
  | none =>
    have hnone := List.find?_eq_none.mp hfind
    have hany : ¬t.rows.any (fun row => row.walletID = walletID) = true := by
      rw [List.any_eq_true]
      rintro ⟨row, hrow, hid⟩
      exact hnone row hrow hid
    obtain ⟨t', hinsert, hrows⟩ := IndexedTable.insert_ok t ⟨walletID, 1⟩ (by
      simp only [List.forall_mem_cons, UniqueIndex.total_collide]
      exact ⟨fun row hrow hid => hnone row hrow (decide_eq_true hid), List.forall_mem_nil _⟩)
    rw [if_neg hany]
    refine ⟨t', hinsert, fun walletID' => ?_⟩
    rw [hrows, List.find?_append]
    by_cases hwallet : walletID' = walletID
    · rw [if_pos hwallet, hwallet, hfind]
      simp
    · rw [if_neg hwallet]
      simp [Ne.symm hwallet]
  | some row =>
    have hid := List.find?_some hfind
    have hany : t.rows.any (fun row => row.walletID = walletID) = true :=
      List.any_eq_true.mpr ⟨row, List.mem_of_find?_eq_some hfind, hid⟩
    obtain ⟨t', hupdate, hrows⟩ := IndexedTable.update_ok_of_keys (t := t)
      (p := fun row => row.walletID = walletID) (f := fun row => { row with seq := row.seq + 1 })
      (by simp [UniqueIndex.total])
    rw [if_pos hany]
    refine ⟨t', hupdate, fun walletID' => ?_⟩
    have hkeeps : ((fun row : AuditSeqRow => decide (row.walletID = walletID')) ∘
        fun row => if decide (row.walletID = walletID) = true then { row with seq := row.seq + 1 } else row) =
        fun row => decide (row.walletID = walletID') := by
      funext row
      rw [Function.comp_apply]
      split <;> rfl
    rw [hrows, List.find?_map, hkeeps]
    by_cases hwallet : walletID' = walletID
    · rw [if_pos hwallet, hwallet, hfind, Option.map_some, if_pos hid]
      rfl
    · rw [if_neg hwallet, Option.map_map]
      refine Option.map_congr (fun row hrow => ?_)
      have hid' := List.find?_some hrow
      rw [decide_eq_true_iff] at hid'
      rw [Function.comp_apply, if_neg (fun hd => hwallet (hid'.symm.trans (of_decide_eq_true hd)))]

lemma nextAuditSeq_matched (h : Agree lib db m p) (walletID : UUID) :
    Matched lib db Eq (m.nextAuditSeq walletID) (p.nextAuditSeq walletID) := by
  obtain ⟨t, hupsert, hseqs⟩ := auditSeq_upsert p.auditSeq walletID
  have hpg : p.nextAuditSeq walletID =
      (.ok (((p.auditSeq.rows.find? (fun row => row.walletID = walletID)).map AuditSeqRow.seq).getD 0 + 1),
        { p with auditSeq := t }) := by
    unfold PgStore.nextAuditSeq
    rw [hupsert]
    cases p.auditSeq.rows.find? (fun row => row.walletID = walletID) <;> rfl
  unfold Store.nextAuditSeq
  rw [hpg, h.seqs walletID]
  refine ⟨.ok rfl, { h with seqs := fun walletID' => ?_ }⟩
  dsimp only
  rw [lookup_insert_eq, hseqs walletID', h.seqs walletID']

end Audit

end WalletManager.Proofs
