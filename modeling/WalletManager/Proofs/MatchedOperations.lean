import WalletManager.Proofs.AddressTable
import WalletManager.Proofs.SameStore

/-!
# The operations of both stores side by side

One lemma for each operation of `storage.Store`: on agreeing stores the two calls have the same outcome
and leave agreeing stores. Its hypotheses are what the two implementations do not treat alike.
-/

namespace WalletManager.Proofs

open Relational

variable {lib : Lib} {db : Database} {m : Store} {p : PgStore}

def Matched {α β : Type} (lib : Lib) (db : Database) (R : α → β → Prop) (x : Except Error α × Store)
    (y : Except Error β × PgStore) : Prop :=
  SameOutcome R x.1 y.1 ∧ Agree lib db x.2 y.2

abbrev Done (_ _ : Unit) : Prop := True

lemma exec_of_ok {stmt : Except Error PgStore} {p' : PgStore} (h : stmt = .ok p') :
    p.exec stmt = (.ok (), p') := by
  rw [h]
  rfl

lemma exec_of_error {stmt : Except Error PgStore} {err : Error} (h : stmt = .error err) :
    p.exec stmt = (.error err, p) := by
  rw [h]
  rfl

def Int4 (n : Int) : Prop := -2 ^ 31 ≤ n ∧ n < 2 ^ 31

lemma int4_ok {n : Int} (h : Int4 n) : int4 n = .ok () := if_pos h

lemma nullableInt4_ok {n : Option Int} (h : ∀ k, n = some k → Int4 k) : nullableInt4 n = .ok () := by
  cases n with
  | none => rfl
  | some k => exact int4_ok (h k rfl)

def KnownWallet (p : PgStore) (walletID : UUID) : Prop := ∃ w ∈ p.wallets.rows, w.id = walletID

lemma references_ok {walletID : UUID} (h : KnownWallet p walletID) (table : String) :
    p.references table walletID = .ok () := by
  obtain ⟨w, hw, hid⟩ := h
  exact if_pos (List.any_eq_true.mpr ⟨w, hw, decide_eq_true hid⟩)

def Exact (lib : Lib) (db : Database) (text : String) : Prop :=
  ∃ q, db.numeric.input text = .ok q ∧ lib.newFromString text = .ok q

lemma Exact.holds (hdb : LawfulDatabase lib db) {text : String} (h : Exact lib db text) :
    ∃ q, db.numeric.input text = .ok q ∧ HoldsNumber lib db text q := by
  obtain ⟨q, hin, hq⟩ := h
  exact ⟨q, hin, hq, hdb.numeric text q hin⟩

/-! ## Wallets -/

section Wallets

lemma wallet_at (id : UUID) : ∀ v r : Wallet, v = r → (v.id = id ↔ decide (r.id = id) = true) := by
  rintro v r rfl
  exact decide_eq_true_iff.symm

lemma createWallet_matched (h : Agree lib db m p) {w : Wallet} (hfresh : ∀ w' ∈ p.wallets.rows, w'.id ≠ w.id)
    (hdays : ∀ n, w.rotationDays = some n → Int4 n) (hreceives : ∀ n, w.rotationAfterReceives = some n → Int4 n)
    (hkey : ∀ w' ∈ p.wallets.rows, (w'.chain.string, w'.keyID) ≠ (w.chain.string, w.keyID)) :
    Matched lib db Done (m.createWallet w) (p.createWallet w) := by
  have hnew : m.wallets.lookup w.id = none := by
    refine h.wallets.lookup_eq_none ?_
    rintro v r hr rfl
    exact hfresh v hr
  have hmem : m.createWallet w = (.ok (), { m with wallets := m.wallets.insert w.id w }) :=
    if_neg (AList.lookup_eq_none.mp hnew)
  obtain ⟨t, hinsert, hrows⟩ : ∃ t, p.wallets.insert w = .ok t ∧ t.rows = p.wallets.rows ++ [w] := by
    refine IndexedTable.insert_ok _ _ ?_
    simp only [List.forall_mem_cons, UniqueIndex.total_collide]
    exact ⟨hfresh, hkey, List.forall_mem_nil _⟩
  have hpg : p.createWallet w = (.ok (), { p with wallets := t }) := by
    refine exec_of_ok ?_
    rw [nullableInt4_ok hdays, nullableInt4_ok hreceives, hinsert]
    rfl
  rw [hmem, hpg]
  exact ⟨.ok trivial, { h with wallets := hrows ▸ h.wallets.insert_new hnew rfl rfl }⟩

lemma getWallet_matched (h : Agree lib db m p) (id : UUID) :
    SameOutcome Eq (m.getWallet id) (p.getWallet id) := by
  refine sameOutcome_row (h.wallets.lookup (wallet_at id)) ?_ ?_
  · intro w hw
    unfold Store.getWallet
    rw [hw]
  · intro hnone
    unfold Store.getWallet
    rw [hnone]
    exact ⟨_, rfl, rfl⟩

lemma updateWalletState_matched (h : Agree lib db m p) {id : UUID} {w : Wallet}
    (hw : m.wallets.lookup id = some w) (state : WalletState) :
    Matched lib db Done (m.updateWalletState id state) (p.updateWalletState id state) := by
  have hmem : m.updateWalletState id state =
      (.ok (), { m with wallets := m.wallets.insert id { w with state := state } }) := by
    unfold Store.updateWalletState
    rw [hw]
  obtain ⟨t, hupdate, hrows⟩ := IndexedTable.update_ok_of_keys (t := p.wallets)
    (p := fun w => w.id = id) (f := fun w => { w with state := state }) (by simp [UniqueIndex.total])
  have hpg : p.updateWalletState id state = (.ok (), { p with wallets := t }) := by
    refine exec_of_ok ?_
    rw [hupdate]
    rfl
  rw [hmem, hpg]
  refine ⟨.ok trivial, { h with wallets := ?_ }⟩
  rw [hrows]
  refine h.wallets.update hw (show ({ w with state := state } : Wallet).id = id from ?_) (wallet_at id) ?_
  · exact h.wallets.keyed id w hw
  · rintro r - rfl
    rfl

lemma listWallets_matched (h : Agree lib db m p) (hsort : LawfulSort lib) (chain type state : String) :
    SameRows Eq (m.listWallets lib chain type state) (p.listWallets chain type state) := by
  refine SameRows.perm_left ?_ (hsort.perm _ _)
  refine h.wallets.same.filter ?_
  rintro v r rfl
  simp [Store.matchesFilter]

end Wallets

/-! ## Addresses -/

section Addresses

lemma address_at (id : UUID) : ∀ v r, SameAddress v r → (v.id = id ↔ decide (r.id = id) = true) := by
  rintro v r hvr
  rw [hvr]
  exact decide_eq_true_iff.symm

def isActive (walletID : UUID) (a : Address) : Bool := a.walletID = walletID ∧ a.state = .active

lemma isActive_same (walletID : UUID) : ∀ v r, SameAddress v r → isActive walletID v = isActive walletID r := by
  rintro v r hvr
  rw [hvr]
  rfl

lemma Agree.one_active (h : Agree lib db m p) (walletID : UUID) :
    m.addressRows.Pairwise (fun a a' => ¬(isActive walletID a ∧ isActive walletID a')) := by
  have hindex := p.addresses.unique (.filtered "addresses_one_active_per_wallet" (fun a => a.state = .active)
    Address.walletID) (by simp)
  refine h.addresses.same.pairwise hindex (fun _ _ hne hboth => hne hboth.symm) ?_
  rintro a b a' b' hab hab' hne ⟨ha, ha'⟩
  rw [isActive_same walletID a b hab] at ha
  rw [isActive_same walletID a' b' hab'] at ha'
  obtain ⟨hwallet, hactive⟩ := of_decide_eq_true ha
  obtain ⟨hwallet', hactive'⟩ := of_decide_eq_true ha'
  exact hne (UniqueIndex.filtered_collide.mpr
    ⟨decide_eq_true hactive, decide_eq_true hactive', hwallet.trans hwallet'.symm⟩)

lemma insertAddress_matched (h : Agree lib db m p) {a : Address} (now : Int)
    (hfresh : ∀ b ∈ p.addresses.rows, b.id ≠ a.id) (hknown : KnownWallet p a.walletID)
    (hindex : Int4 a.index) (hchange : Int4 a.change) (hcount : Int4 a.receiveCount)
    (hslot : ∀ b ∈ p.addresses.rows, (b.walletID, b.index, b.change) ≠ (a.walletID, a.index, a.change))
    (htext : ∀ b ∈ p.addresses.rows, (b.chain.string, b.address) ≠ (a.chain.string, a.address)) :
    Matched lib db Done (m.insertAddress a now) (p.insertAddress a) := by
  have hnew : m.addresses.lookup a.id = none := by
    refine h.addresses.lookup_eq_none ?_
    intro v r hr hvr
    rw [Ne, address_at a.id v r hvr, decide_eq_true_iff]
    exact hfresh r hr
  have hrows : a.state = .active ∧ m.addressRows.any (fun ex => ex.walletID = a.walletID ∧ ex.state = .active) ↔
      ∃ b ∈ p.addresses.rows, b.state = .active ∧ a.state = .active ∧ b.walletID = a.walletID := by
    constructor
    · rintro ⟨hactive, hany⟩
      obtain ⟨v, hv, hisActive⟩ := List.any_eq_true.mp hany
      obtain ⟨b, hb, hvb⟩ := h.addresses.same.exists_right hv
      have hb' := of_decide_eq_true ((isActive_same a.walletID v b hvb).symm.trans hisActive)
      exact ⟨b, hb, hb'.2, hactive, hb'.1⟩
    · rintro ⟨b, hb, hactive, hactive', hwallet⟩
      obtain ⟨v, hv, hvb⟩ := h.addresses.same.exists_left hb
      refine ⟨hactive', List.any_eq_true.mpr ⟨v, hv, ?_⟩⟩
      exact (isActive_same a.walletID v b hvb).trans (decide_eq_true ⟨hwallet, hactive⟩)
  rcases IndexedTable.insert_cases p.addresses a with ⟨t, hinsert, ht, hfree⟩ | ⟨name, hinsert, hcollide⟩
  · have hfree' : ¬∃ b ∈ p.addresses.rows, b.state = .active ∧ a.state = .active ∧ b.walletID = a.walletID := by
      rintro ⟨b, hb, hactive, hactive', hwallet⟩
      refine hfree (.filtered "addresses_one_active_per_wallet" (fun a => a.state = .active) Address.walletID)
        (by simp) b hb (UniqueIndex.filtered_collide.mpr ?_)
      exact ⟨decide_eq_true hactive, decide_eq_true hactive', hwallet⟩
    let cp := if a.createdAt = 0 then { a with createdAt := now } else a
    have hmem : m.insertAddress a now = (.ok (), { m with addresses := m.addresses.insert a.id cp }) := by
      unfold Store.insertAddress
      rw [if_neg (AList.lookup_eq_none.mp hnew), if_neg (hrows.not.mpr hfree')]
    have hpg : p.insertAddress a = (.ok (), { p with addresses := t }) := by
      refine exec_of_ok ?_
      rw [int4_ok hindex, int4_ok hchange, int4_ok hcount, hinsert, references_ok hknown]
      rfl
    rw [hmem, hpg]
    refine ⟨.ok trivial, { h with addresses := ?_ }⟩
    rw [ht]
    refine h.addresses.insert_new hnew ?_ ?_
    · dsimp only [cp]
      split <;> rfl
    · dsimp only [cp, SameAddress]
      split <;> rfl
  · have hconflict : ∃ b ∈ p.addresses.rows, b.state = .active ∧ a.state = .active ∧ b.walletID = a.walletID := by
      obtain ⟨ix, hix, b, hb, hix'⟩ := hcollide
      simp only [List.mem_cons, List.not_mem_nil, or_false] at hix
      rcases hix with rfl | rfl | rfl | rfl
      · exact absurd (UniqueIndex.total_collide.mp hix') (hfresh b hb)
      · exact absurd (UniqueIndex.total_collide.mp hix') (hslot b hb)
      · exact absurd (UniqueIndex.total_collide.mp hix') (htext b hb)
      · obtain ⟨hactive, hactive', hwallet⟩ := UniqueIndex.filtered_collide.mp hix'
        exact ⟨b, hb, of_decide_eq_true hactive, of_decide_eq_true hactive', hwallet⟩
    have hmem : m.insertAddress a now = (.error ⟨"active address already exists for wallet", none⟩, m) := by
      unfold Store.insertAddress
      rw [if_neg (AList.lookup_eq_none.mp hnew), if_pos (hrows.mpr hconflict)]
    have hpg : p.insertAddress a = (.error (uniqueViolation name), p) := by
      refine exec_of_error ?_
      rw [int4_ok hindex, int4_ok hchange, int4_ok hcount, hinsert]
      rfl
    rw [hmem, hpg]
    exact ⟨.error rfl, h⟩

lemma getActiveAddress_matched (h : Agree lib db m p) (walletID : UUID) :
    SameOutcome SameAddress (m.getActiveAddress walletID) (p.getActiveAddress walletID) := by
  have hfind := h.addresses.same.find? (isActive_same walletID) (h.one_active walletID)
  have hrows : m.addressRows.find? (fun a => a.walletID = walletID ∧ a.state = .active) =
      (values m.addresses).find? (isActive walletID) := rfl
  refine sameOutcome_row hfind ?_ ?_
  · intro a ha
    rw [Store.getActiveAddress, hrows, ha]
  · intro hnone
    rw [Store.getActiveAddress, hrows, hnone]
    exact ⟨_, rfl, rfl⟩

lemma getAddress_matched (h : Agree lib db m p) (id : UUID) :
    SameOutcome SameAddress (m.getAddress id) (p.getAddress id) := by
  refine sameOutcome_row (h.addresses.lookup (address_at id)) ?_ ?_
  · intro a ha
    unfold Store.getAddress
    rw [ha]
  · intro hnone
    unfold Store.getAddress
    rw [hnone]
    exact ⟨_, rfl, rfl⟩

lemma listAddresses_matched (h : Agree lib db m p) (hsort : LawfulSort lib) (hdb : LawfulDatabase lib db)
    (walletID : UUID) : SameRows SameAddress (m.listAddresses lib walletID) (p.listAddresses db walletID) := by
  refine SameRows.perm_left ?_ (hsort.perm _ _)
  refine SameRows.perm_right ?_ (hdb.perm _ _).symm
  refine h.addresses.same.filter ?_
  rintro v r hvr
  rw [hvr]

lemma updateAddress_matched (h : Agree lib db m p) {id : UUID} {a : Address}
    (ha : m.addresses.lookup id = some a) {f : Address → Address} {stmt : Except Error PgStore}
    (hstmt : ∀ t : IndexedTable addressIndexes, p.addresses.update (fun b => b.id = id) f = .ok t →
      stmt = .ok { p with addresses := t })
    (hid : ∀ b, (f b).id = b.id) (hslot : ∀ b, ((f b).walletID, (f b).index, (f b).change) =
      (b.walletID, b.index, b.change)) (htext : ∀ b, ((f b).chain.string, (f b).address) =
      (b.chain.string, b.address)) (hstate : ∀ b, (f b).state = .active → b.state = .active)
    (hsame : ∀ v r, SameAddress v r → SameAddress (f v) (f r)) :
    Matched lib db Done (m.updateAddress id f) (p.exec stmt) := by
  have hmem : m.updateAddress id f = (.ok (), { m with addresses := m.addresses.insert id (f a) }) := by
    unfold Store.updateAddress
    rw [ha]
  obtain ⟨t, hupdate, hrows⟩ := IndexedTable.update_ok_of_keys (t := p.addresses)
    (p := fun b => b.id = id) (f := f) (by
      simp only [List.forall_mem_cons, UniqueIndex.total, UniqueIndex.filtered]
      refine ⟨fun r _ _ => ?_, fun r _ _ => ?_, fun r _ _ => ?_, fun r _ _ => ?_, List.forall_mem_nil _⟩
      · exact .inr (congrArg some (hid r))
      · exact .inr (congrArg some (hslot r))
      · exact .inr (congrArg some (htext r))
      · by_cases hactive : (f r).state = .active
        · right
          rw [if_pos (decide_eq_true hactive), if_pos (decide_eq_true (hstate r hactive))]
          exact congrArg some (congrArg Prod.fst (hslot r))
        · exact .inl (if_neg (by simpa using hactive)))
  rw [hmem, exec_of_ok (hstmt t hupdate)]
  refine ⟨.ok trivial, { h with addresses := ?_ }⟩
  rw [hrows]
  refine h.addresses.update ha ?_ (address_at id) (fun r _ => hsame a r)
  exact (hid a).trans (h.addresses.keyed id a ha)

lemma deprecateAddress_matched (h : Agree lib db m p) {id : UUID} {a : Address}
    (ha : m.addresses.lookup id = some a) :
    Matched lib db Done (m.deprecateAddress id) (p.deprecateAddress id) := by
  refine updateAddress_matched h ha ?_ (fun _ => rfl) (fun _ => rfl) (fun _ => rfl) nofun ?_
  · intro t hupdate
    rw [hupdate]
    rfl
  · rintro v r hvr
    rw [hvr]
    rfl

lemma forM_ok {α : Type} {l : List α} {f : α → Except Error Unit} (hf : ∀ a ∈ l, f a = .ok ()) :
    l.forM f = .ok () := by
  induction l with
  | nil => rfl
  | cons a l ih =>
    change (f a >>= fun _ => l.forM f) = .ok ()
    rw [hf a List.mem_cons_self]
    exact ih (fun b hb => hf b (List.mem_cons_of_mem _ hb))

lemma incrementReceiveCount_matched (h : Agree lib db m p) {id : UUID} {a : Address}
    (ha : m.addresses.lookup id = some a) (hcount : Int4 (a.receiveCount + 1)) :
    Matched lib db Done (m.incrementReceiveCount id) (p.incrementReceiveCount id) := by
  refine updateAddress_matched h ha ?_ (fun _ => rfl) (fun _ => rfl) (fun _ => rfl) (fun _ hb => hb) ?_
  · intro t hupdate
    rw [forM_ok, hupdate]
    · rfl
    · intro b hb
      obtain ⟨hb, hid⟩ := List.mem_filter.mp hb
      rw [h.addresses.row_of_key ha (address_at id) b hb hid]
      exact int4_ok hcount
  · rintro v r hvr
    rw [hvr]
    rfl

lemma nextAddressIndex_matched (h : Agree lib db m p) {chain : String} {change : Int} (hchange : Int4 change)
    (hrange : ∀ a ∈ p.addresses.rows, a.chain.string = chain → a.change = change →
      0 ≤ a.index ∧ a.index + 1 < 2 ^ 31) :
    p.nextAddressIndex chain change = .ok (m.nextAddressIndex chain change) := by
  let counts : Address → Bool := fun a => a.chain.string = chain ∧ a.change = change
  -- the rows that count have the same indexes in both stores
  have hright : ∀ id a, m.addresses.lookup id = some a → CountsFor chain change a →
      ∃ b ∈ p.addresses.rows.filter counts, b.index = a.index := by
    intro id a ha hcounts
    obtain ⟨b, hb, hab⟩ := h.addresses.same.exists_right (Represents.mem_of_lookup ha)
    refine ⟨b, List.mem_filter.mpr ⟨hb, ?_⟩, by rw [hab]⟩
    rw [hab]
    exact decide_eq_true hcounts
  have hleft : ∀ b ∈ p.addresses.rows.filter counts, b.index < m.nextAddressIndex chain change := by
    intro b hb
    obtain ⟨hb, hcounts⟩ := List.mem_filter.mp hb
    obtain ⟨a, ha, hab⟩ := h.addresses.same.exists_left hb
    obtain ⟨hchain, hchange⟩ := of_decide_eq_true hcounts
    have hcounts' : CountsFor chain change a := by
      rw [hab] at hchain hchange
      exact ⟨hchain, hchange⟩
    have hlt := lt_nextAddressIndex (h.addresses.lookup_of_mem ha) hcounts'
    rwa [hab]
  have hindex : ((p.addresses.rows.filter counts).map Address.index).max?.getD (-1) + 1 =
      m.nextAddressIndex chain change := by
    cases hmax : ((p.addresses.rows.filter counts).map Address.index).max? with
    | none =>
      have hnil := List.map_eq_nil_iff.mp (List.max?_eq_none_iff.mp hmax)
      refine le_antisymm (nextAddressIndex_nonneg m chain change) (nextAddressIndex_le (le_refl 0) ?_)
      intro id a ha hcounts
      obtain ⟨b, hb, -⟩ := hright id a ha hcounts
      rw [hnil] at hb
      cases hb
    | some top =>
      obtain ⟨htop, hle⟩ := List.max?_eq_some_iff.mp hmax
      obtain ⟨b, hb, rfl⟩ := List.mem_map.mp htop
      obtain ⟨hrow, hcounts⟩ := List.mem_filter.mp hb
      obtain ⟨hchain, hchange⟩ := of_decide_eq_true hcounts
      have hnonneg := (hrange b hrow hchain hchange).1
      refine le_antisymm (hleft b hb) (nextAddressIndex_le (by simp only [Option.getD_some]; omega) ?_)
      intro id a ha hcounts
      obtain ⟨b', hb', hab'⟩ := hright id a ha hcounts
      have hbound := hle _ (List.mem_map_of_mem hb')
      simp only [Option.getD_some]
      omega
  have hfits : Int4 (m.nextAddressIndex chain change) := by
    have hnonneg := nextAddressIndex_nonneg m chain change
    refine ⟨by omega, lt_of_le_of_lt (nextAddressIndex_le (n := 2 ^ 31 - 1) (by omega) ?_) (by omega)⟩
    intro id a ha hcounts
    obtain ⟨b, hb, hba⟩ := hright id a ha hcounts
    obtain ⟨hrow, hcounts⟩ := List.mem_filter.mp hb
    obtain ⟨hchain, hchange⟩ := of_decide_eq_true hcounts
    have hbound := (hrange b hrow hchain hchange).2
    omega
  unfold PgStore.nextAddressIndex
  rw [int4_ok hchange]
  dsimp only [bind, Except.bind]
  rw [show ((p.addresses.rows.filter _).map Address.index).max?.getD (-1) + 1 = _ from hindex,
    int4_ok hfits]
  rfl

end Addresses

/-! ## Balances and balance events -/

section Balances

lemma balance_at (walletID : UUID) (asset : String) : ∀ v r, BalanceAs lib db v r →
    (balanceKey v.walletID v.asset = balanceKey walletID asset ↔ PgStore.isBalance walletID asset r = true) := by
  rintro v r hvr
  obtain rfl := hvr.balance
  rw [PgStore.isBalance, decide_eq_true_iff]
  constructor
  · exact balanceKey_inj
  · rintro ⟨rfl, rfl⟩
    rfl

lemma upsertBalance_matched (h : Agree lib db m p) (hdb : LawfulDatabase lib db) {b : Balance}
    (hknown : KnownWallet p b.walletID) (hconfirmed : Exact lib db b.confirmed)
    (hpending : Exact lib db b.pending) (hlocked : Exact lib db b.locked) :
    Matched lib db Done (m.upsertBalance b) (p.upsertBalance db.numeric b) := by
  obtain ⟨confirmed, hcin, hc⟩ := hconfirmed.holds hdb
  obtain ⟨pending, hpin, hp⟩ := hpending.holds hdb
  obtain ⟨locked, hlin, hl⟩ := hlocked.holds hdb
  let row : BalanceRow := ⟨b, confirmed, pending, locked⟩
  have hrow : BalanceAs lib db b row := ⟨rfl, hc, hp, hl⟩
  obtain ⟨t, hupsert, hbalances⟩ : ∃ t,
      p.balances.upsert (PgStore.isBalance b.walletID b.asset) (fun _ => row) row = .ok t ∧
      Represents (fun b => balanceKey b.walletID b.asset) (BalanceAs lib db)
        (m.balances.insert (balanceKey b.walletID b.asset) b) t.rows := by
    unfold IndexedTable.upsert
    cases hk : m.balances.lookup (balanceKey b.walletID b.asset) with
    | none =>
      have hno := h.balances.no_row hk (balance_at b.walletID b.asset)
      rw [if_neg (by simpa using hno)]
      obtain ⟨t, hinsert, hrows⟩ := IndexedTable.insert_ok p.balances row (by
        simp only [List.forall_mem_cons, UniqueIndex.total_collide]
        refine ⟨fun r hr hkey => hno r hr (decide_eq_true ?_), List.forall_mem_nil _⟩
        exact Prod.mk.inj hkey)
      exact ⟨t, hinsert, hrows ▸ h.balances.insert_new hk rfl hrow⟩
    | some v =>
      obtain ⟨r, hr, hqr, -⟩ := h.balances.exists_row hk (balance_at b.walletID b.asset)
      rw [if_pos (List.any_eq_true.mpr ⟨r, hr, hqr⟩)]
      obtain ⟨t, hupdate, hrows⟩ := IndexedTable.update_ok_of_keys (t := p.balances)
        (p := PgStore.isBalance b.walletID b.asset) (f := fun _ => row) (by
          simp only [List.forall_mem_cons, UniqueIndex.total]
          refine ⟨fun r _ hqr => .inr (congrArg some ?_), List.forall_mem_nil _⟩
          obtain ⟨hwallet, hasset⟩ := of_decide_eq_true hqr
          rw [hwallet, hasset])
      refine ⟨t, hupdate, ?_⟩
      rw [hrows]
      exact h.balances.update hk rfl (balance_at b.walletID b.asset) (fun _ _ _ => hrow)
  have hpg : p.upsertBalance db.numeric b = (.ok (), { p with balances := t }) := by
    refine exec_of_ok ?_
    rw [hcin, hpin, hlin]
    dsimp only [bind, Except.bind]
    rw [show p.balances.upsert _ _ _ = _ from hupsert]
    dsimp only [unique]
    split
    · rw [references_ok hknown]
      rfl
    · rfl
  rw [hpg]
  exact ⟨.ok trivial, { h with balances := hbalances }⟩

lemma getBalance_matched (h : Agree lib db m p) (walletID : UUID) (asset : String) :
    SameOutcome (SameBalance lib) (m.getBalance walletID asset) (p.getBalance db.numeric walletID asset) := by
  have hfind := rel_map_right (g := PgStore.scanBalance db.numeric)
    (h.balances.lookup (balance_at walletID asset)) (fun _ _ hvr => hvr.read)
  refine sameOutcome_row hfind ?_ ?_
  · intro b hb
    unfold Store.getBalance
    rw [hb]
  · intro hnone
    unfold Store.getBalance
    rw [hnone]
    exact ⟨_, rfl, rfl⟩

lemma balanceKey_prefix {walletID walletID' : UUID} {asset : String} :
    (walletID.string ++ "|").toList.isPrefixOf (balanceKey walletID' asset).toList = true ↔
      walletID' = walletID := by
  rw [List.isPrefixOf_iff_prefix]
  constructor
  · rintro ⟨rest, hrest⟩
    simp only [balanceKey, String.toList_append, List.append_assoc] at hrest
    have hid := (List.append_inj hrest (by rw [uuid_string_length, uuid_string_length])).1
    exact (uuid_string_inj (String.toList_inj.mp hid)).symm
  · rintro rfl
    exact ⟨asset.toList, by simp only [balanceKey, String.toList_append]⟩

lemma listBalances_matched (h : Agree lib db m p) (hsort : LawfulSort lib) (hdb : LawfulDatabase lib db)
    (walletID : UUID) :
    SameRows (SameBalance lib) (m.listBalances lib walletID) (p.listBalances db walletID) := by
  have hentries : (m.balances.entries.filter
      (fun e => (walletID.string ++ "|").toList.isPrefixOf e.1.toList)).map Sigma.snd =
      (values m.balances).filter (fun b => b.walletID = walletID) := by
    unfold values
    rw [List.filter_map]
    congr 1
    refine List.filter_congr (fun e he => ?_)
    have hkey := h.balances.keyed e.1 e.2 (AList.mem_lookup_iff.mpr he)
    rw [← hkey, Bool.eq_iff_iff, balanceKey_prefix, Function.comp_apply, decide_eq_true_iff]
  refine SameRows.perm_left ?_ (hsort.perm _ _)
  rw [hentries]
  have hrows : SameRows (BalanceAs lib db) ((values m.balances).filter (fun b => b.walletID = walletID))
      (db.orderBy (fun a b => db.collation a.balance.asset b.balance.asset)
        (p.balances.rows.filter (fun row => row.balance.walletID = walletID))) := by
    refine SameRows.perm_right (h.balances.same.filter ?_) (hdb.perm _ _).symm
    rintro v r hvr
    rw [hvr.balance]
  have hread := hrows.map (S := SameBalance lib) (f := fun b => b) (fun _ _ hvr => hvr.read)
  rwa [List.map_id'] at hread

lemma pg_recordBalanceEvent (row : BalanceEventRow) : p.recordBalanceEvent row =
    (if (p.balanceEvents.insertOrIgnore row).rows.any (fun r => r.event = row.event ∧ r.id ≠ row.id) then
        .error errDuplicateEvent else .ok (),
      { p with balanceEvents := p.balanceEvents.insertOrIgnore row }) := by
  unfold PgStore.recordBalanceEvent recordBalanceEvent
  dsimp only [Interaction.Prog.run, EventTable.handle]
  cases (p.balanceEvents.insertOrIgnore row).rows.any (fun r => r.event = row.event ∧ r.id ≠ row.id) <;> rfl

lemma recordBalanceEvent_matched (h : Agree lib db m p) (row : BalanceEventRow)
    (hfresh : ∀ r ∈ p.balanceEvents.rows, r.id ≠ row.id)
    (hkey : ∀ r ∈ p.balanceEvents.rows, r.event.key = row.event.key → r.event = row.event) :
    Matched lib db Done (m.recordBalanceEvent row.event) (p.recordBalanceEvent row) := by
  rw [pg_recordBalanceEvent]
  by_cases hrec : row.event.key ∈ m.balanceEvents
  · obtain ⟨r, hr, hrkey⟩ := (h.events _).mp hrec
    have hevent := hkey r hr hrkey
    have hmem : m.recordBalanceEvent row.event = (.error errDuplicateEvent, m) := if_pos hrec
    have hsame : p.balanceEvents.insertOrIgnore row = p.balanceEvents := by
      rcases IndexedTable.insert_cases p.balanceEvents row with ⟨t, -, -, hfree⟩ | ⟨name, herr, -⟩
      · exact absurd (UniqueIndex.total_collide.mpr hevent)
          (hfree _ (List.mem_cons_of_mem _ List.mem_cons_self) r hr)
      · unfold IndexedTable.insertOrIgnore
        rw [herr]
        rfl
    rw [hmem, hsame, if_pos (List.any_eq_true.mpr ⟨r, hr, decide_eq_true ⟨hevent, hfresh r hr⟩⟩)]
    exact ⟨.error rfl, h⟩
  · have hnew : ∀ r ∈ p.balanceEvents.rows, r.event ≠ row.event := by
      intro r hr hevent
      exact hrec ((h.events _).mpr ⟨r, hr, congrArg BalanceEvent.key hevent⟩)
    have hmem : m.recordBalanceEvent row.event =
        (.ok (), { m with balanceEvents := insert row.event.key m.balanceEvents }) := if_neg hrec
    have hrows : (p.balanceEvents.insertOrIgnore row).rows = p.balanceEvents.rows ++ [row] := by
      obtain ⟨t, hinsert, hrows⟩ := IndexedTable.insert_ok p.balanceEvents row (by
        simp only [List.forall_mem_cons, UniqueIndex.total_collide]
        exact ⟨hfresh, hnew, List.forall_mem_nil _⟩)
      unfold IndexedTable.insertOrIgnore
      rw [hinsert]
      exact hrows
    have hnone : ¬(p.balanceEvents.insertOrIgnore row).rows.any
        (fun r => r.event = row.event ∧ r.id ≠ row.id) = true := by
      intro hany
      obtain ⟨r, hr, hother⟩ := List.any_eq_true.mp hany
      obtain ⟨hevent, hid⟩ := of_decide_eq_true hother
      rw [hrows] at hr
      rcases List.mem_append.mp hr with hr | hr
      · exact hnew r hr hevent
      · exact hid (congrArg BalanceEventRow.id (List.mem_singleton.mp hr))
    rw [hmem, if_neg hnone]
    refine ⟨.ok trivial, { h with events := fun key => ?_ }⟩
    dsimp only
    rw [Finset.mem_insert, h.events key, hrows]
    simp only [List.mem_append, List.mem_singleton, or_and_right, exists_or, exists_eq_left]
    rw [or_comm, @eq_comm _ key]

end Balances

/-! ## Unspent outputs -/

section UTXOs

variable {utxos : Table String UTXO} {ops : List String}

abbrev SameOutputs (lib : Lib) (db : Database) (utxos : Table String UTXO) (t : IndexedTable utxoIndexes) : Prop :=
  Represents UTXO.outpoint (UTXOAs lib db) utxos t.rows

lemma utxo_at (op : String) :
    ∀ v r, UTXOAs lib db v r → (v.outpoint = op ↔ decide (r.utxo.outpoint = op) = true) := by
  rintro v r hvr
  rw [hvr.utxo]
  exact decide_eq_true_iff.symm

lemma insertUTXO_matched (h : Agree lib db m p) (hdb : LawfulDatabase lib db) {u : UTXO}
    (hknown : KnownWallet p u.walletID) (hvalue : Exact lib db u.value) (hconf : Int4 u.confirmations) :
    Matched lib db Done (m.insertUTXO u) (p.insertUTXO db.numeric u) := by
  obtain ⟨value, hin, hholds⟩ := hvalue.holds hdb
  rcases IndexedTable.insert_cases p.utxos ⟨u, value⟩ with ⟨t, hinsert, hrows, hfree⟩ | ⟨name, hinsert, hcollide⟩
  · have hnew : m.utxos.lookup u.outpoint = none := by
      refine h.utxos.lookup_eq_none (fun v r hr hvr => ?_)
      rw [Ne, ← hvr.utxo]
      exact fun hop => hfree _ List.mem_cons_self r hr (UniqueIndex.total_collide.mpr hop)
    have hmem : m.insertUTXO u = (.ok (), { m with utxos := m.utxos.insert u.outpoint u }) :=
      if_neg (AList.lookup_eq_none.mp hnew)
    have hpg : p.insertUTXO db.numeric u = (.ok (), { p with utxos := t }) := by
      refine exec_of_ok ?_
      rw [hin, int4_ok hconf]
      dsimp only [bind, Except.bind]
      rw [hinsert, references_ok hknown]
      rfl
    rw [hmem, hpg]
    exact ⟨.ok trivial, { h with utxos := hrows ▸ h.utxos.insert_new hnew rfl ⟨rfl, hholds⟩ }⟩
  · have hold : u.outpoint ∈ m.utxos := by
      obtain ⟨ix, hix, r, hr, hop⟩ := hcollide
      obtain rfl := List.mem_singleton.mp hix
      obtain ⟨v, hv, hvr⟩ := h.utxos.same.exists_left hr
      have hlookup := h.utxos.lookup_of_mem hv
      have hsame := UniqueIndex.total_collide.mp hop
      dsimp only at hsame
      rw [← hvr.utxo, hsame] at hlookup
      exact Table.mem_iff.mpr ⟨_, hlookup⟩
    have hmem : m.insertUTXO u = (.error ⟨"utxo exists", none⟩, m) := if_pos hold
    have hpg : p.insertUTXO db.numeric u = (.error (uniqueViolation name), p) := by
      refine exec_of_error ?_
      rw [hin, int4_ok hconf]
      dsimp only [bind, Except.bind]
      rw [hinsert]
      rfl
    rw [hmem, hpg]
    exact ⟨.error rfl, h⟩

lemma listFreeUTXOs_matched (h : Agree lib db m p) (hsort : LawfulSort lib) (hdb : LawfulDatabase lib db)
    (walletID : UUID) :
    SameRows (SameUTXO lib) (m.listFreeUTXOs lib walletID) (p.listFreeUTXOs db walletID) := by
  refine SameRows.perm_left ?_ (hsort.perm _ _)
  have hrows : SameRows (UTXOAs lib db)
      ((values m.utxos).filter (fun u => u.walletID = walletID ∧ u.lockState = .free))
      (db.orderBy (fun a b => db.collation a.utxo.outpoint b.utxo.outpoint)
        (p.utxos.rows.filter (fun row => row.utxo.walletID = walletID ∧ row.utxo.lockState = .free))) := by
    refine SameRows.perm_right (h.utxos.same.filter ?_) (hdb.perm _ _).symm
    rintro v r hvr
    rw [hvr.utxo]
  have hread := hrows.map (S := SameUTXO lib) (f := fun u => u) (fun _ _ hvr => hvr.read)
  rwa [List.map_id'] at hread

lemma updateUTXO_matched {t : IndexedTable utxoIndexes} (h : SameOutputs lib db utxos t) {op : String} {u : UTXO}
    (hu : utxos.lookup op = some u) {f : UTXO → UTXO} (hop : ∀ u, (f u).outpoint = u.outpoint)
    (hvalue : ∀ u, (f u).value = u.value) :
    ∃ t', t.update (fun row => row.utxo.outpoint = op) (fun row => { row with utxo := f row.utxo }) = .ok t' ∧
      SameOutputs lib db (utxos.insert op (f u)) t' := by
  obtain ⟨t', hupdate, hrows⟩ := IndexedTable.update_ok_of_keys (t := t)
    (p := fun row => row.utxo.outpoint = op) (f := fun row => { row with utxo := f row.utxo }) (by
      simp only [List.forall_mem_cons, UniqueIndex.total]
      exact ⟨fun r _ _ => .inr (congrArg some (hop r.utxo)), List.forall_mem_nil _⟩)
  refine ⟨t', hupdate, ?_⟩
  unfold SameOutputs
  rw [hrows]
  refine h.update hu ((hop u).trans (h.keyed op u hu)) (utxo_at op) ?_
  rintro r - ⟨hrow, hnumber⟩
  exact ⟨congrArg f hrow, by rw [hvalue]; exact hnumber⟩

lemma updateEach_matched {t : IndexedTable utxoIndexes} {f : UTXO → UTXO} (hop : ∀ u, (f u).outpoint = u.outpoint)
    (hvalue : ∀ u, (f u).value = u.value) (hall : ∀ op ∈ ops, op ∈ utxos) (h : SameOutputs lib db utxos t)
    (ht : p.utxos = t) :
    (Store.updateEach f ops utxos).1 = .ok () ∧ ∃ t',
      PgStore.execEach (PgStore.updateUTXO f) p ops = (.ok (), { p with utxos := t' }) ∧
      SameOutputs lib db (Store.updateEach f ops utxos).2 t' := by
  induction ops generalizing utxos t p with
  | nil =>
    subst ht
    exact ⟨rfl, p.utxos, rfl, h⟩
  | cons op ops ih =>
    subst ht
    obtain ⟨u, hu⟩ := Table.mem_iff.mp (hall op List.mem_cons_self)
    obtain ⟨t₁, hupdate, hsame⟩ := updateUTXO_matched h hu hop hvalue
    have hstmt : PgStore.updateUTXO f p op = .ok { p with utxos := t₁ } := by
      unfold PgStore.updateUTXO
      rw [hupdate]
      rfl
    have hrest : ∀ op' ∈ ops, op' ∈ utxos.insert op (f u) := by
      intro op' hop'
      exact (AList.mem_insert _).mpr (.inr (hall op' (List.mem_cons_of_mem _ hop')))
    unfold Store.updateEach PgStore.execEach
    rw [hu, hstmt]
    exact ih (p := { p with utxos := t₁ }) hrest hsame rfl

lemma markUTXOsSpent_matched (h : Agree lib db m p) (hall : ∀ op ∈ ops, op ∈ m.utxos) (txHash : String) :
    Matched lib db Done (m.markUTXOsSpent ops txHash) (p.markUTXOsSpent ops txHash) := by
  obtain ⟨hok, t, hpg, hsame⟩ := updateEach_matched
    (f := fun u => { u with lockState := .spent, txHash := txHash }) (fun _ => rfl) (fun _ => rfl) hall
    h.utxos rfl
  unfold Store.markUTXOsSpent PgStore.markUTXOsSpent
  rw [hpg]
  refine ⟨?_, { h with utxos := hsame }⟩
  dsimp only
  rw [hok]
  exact .ok trivial

lemma restoreUTXOs_matched (h : Agree lib db m p) (hall : ∀ op ∈ ops, op ∈ m.utxos) :
    Matched lib db Done (m.restoreUTXOs ops) (p.restoreUTXOs ops) := by
  obtain ⟨hok, t, hpg, hsame⟩ := updateEach_matched
    (f := fun u => { u with lockState := .free, txHash := "" }) (fun _ => rfl) (fun _ => rfl) hall h.utxos rfl
  unfold Store.restoreUTXOs PgStore.restoreUTXOs
  rw [hpg]
  refine ⟨?_, { h with utxos := hsame }⟩
  dsimp only
  rw [hok]
  exact .ok trivial

lemma pruneUTXOs_matched (h : Agree lib db m p) (ops : List String) :
    Matched lib db Done (m.pruneUTXOs ops) (p.pruneUTXOs ops) := by
  have hloop : ∀ ops (utxos : Table String UTXO) (p : PgStore), SameOutputs lib db utxos p.utxos → ∃ t,
      p.pruneUTXOs ops = (.ok (), { p with utxos := t }) ∧
      SameOutputs lib db (ops.foldl (fun utxos op => utxos.erase op) utxos) t := by
    intro ops
    induction ops with
    | nil => exact fun utxos p hsame => ⟨p.utxos, rfl, hsame⟩
    | cons op ops ih =>
      intro utxos p hsame
      exact ih (utxos.erase op) { p with utxos := p.utxos.delete (fun row => row.utxo.outpoint = op) }
        (hsame.erase (utxo_at op))
  obtain ⟨t, hpg, hsame⟩ := hloop ops m.utxos p h.utxos
  rw [hpg]
  exact ⟨.ok trivial, { h with utxos := hsame }⟩

lemma checkFree_insert {op : String} (hop : op ∉ ops) (u : UTXO) :
    Store.checkFree (utxos.insert op u) ops = Store.checkFree utxos ops := by
  induction ops with
  | nil => rfl
  | cons op' ops ih =>
    obtain ⟨hne, hrest⟩ := not_or.mp (List.mem_cons.not.mp hop)
    unfold Store.checkFree
    rw [AList.lookup_insert_ne (Ne.symm hne), ih hrest]

lemma lockUTXO_free {u : UTXO} {op : String} (h : SameOutputs lib db utxos p.utxos)
    (hu : utxos.lookup op = some u) (hfree : u.lockState = .free) : ∃ t,
      p.lockUTXO op = .ok { p with utxos := t } ∧
      SameOutputs lib db (utxos.insert op { u with lockState := .locked }) t := by
  obtain ⟨t, hupdate, hsame⟩ := updateUTXO_matched h hu (f := fun u => { u with lockState := .locked })
    (fun _ => rfl) (fun _ => rfl)
  -- the row of the outpoint is free, so that the condition on the state makes no difference
  have hupdate' : p.utxos.update (fun r => decide (r.utxo.outpoint = op ∧ r.utxo.lockState = .free))
      (fun r => { r with utxo.lockState := .locked }) = .ok t := by
    refine (IndexedTable.update_congr (fun r hr => ?_)).trans hupdate
    rw [decide_eq_decide, and_iff_left_iff_imp]
    intro hop
    rw [(h.row_of_key hu (utxo_at op) r hr (decide_eq_true hop)).utxo, hfree]
  have hcount : ¬p.utxos.rows.countP
      (fun r => decide (r.utxo.outpoint = op ∧ r.utxo.lockState = .free)) = 0 := by
    obtain ⟨r, hr, hop, hvr⟩ := h.exists_row hu (utxo_at op)
    rw [List.countP_eq_zero]
    intro hnone
    exact hnone r hr (decide_eq_true ⟨of_decide_eq_true hop, by rw [hvr.utxo, hfree]⟩)
  refine ⟨t, ?_, hsame⟩
  unfold PgStore.lockUTXO
  dsimp only
  rw [hupdate']
  dsimp only [unique, bind, Except.bind]
  rw [if_neg hcount]
  rfl

lemma lockUTXO_refused {op : String} (h : SameOutputs lib db utxos p.utxos)
    (hno : ∀ u, utxos.lookup op = some u → u.lockState ≠ .free) :
    p.lockUTXO op = .error ⟨"utxo not free: " ++ op, none⟩ := by
  have hnone : ∀ r ∈ p.utxos.rows, ¬(r.utxo.outpoint = op ∧ r.utxo.lockState = .free) := by
    rintro r hr ⟨hop, hfree⟩
    obtain ⟨u, hu, hvr⟩ := h.same.exists_left hr
    have hlookup := h.lookup_of_mem hu
    rw [← hvr.utxo, hop] at hlookup
    exact hno _ hlookup hfree
  have hupdate : p.utxos.update (fun r => decide (r.utxo.outpoint = op ∧ r.utxo.lockState = .free))
      (fun r => { r with utxo.lockState := .locked }) = .ok p.utxos :=
    IndexedTable.update_none (fun r hr => by simpa using hnone r hr)
  have hcount : p.utxos.rows.countP
      (fun r => decide (r.utxo.outpoint = op ∧ r.utxo.lockState = .free)) = 0 :=
    List.countP_eq_zero.mpr (fun r hr => by simpa using hnone r hr)
  unfold PgStore.lockUTXO
  dsimp only
  rw [hupdate]
  dsimp only [unique, bind, Except.bind]
  rw [if_pos hcount]
  rfl

lemma lockEach_matched (hnodup : ops.Nodup) (h : SameOutputs lib db utxos p.utxos) :
    (Store.checkFree utxos ops = .ok () ∧ ∃ t,
      ops.foldlM PgStore.lockUTXO p = .ok { p with utxos := t } ∧
      SameOutputs lib db (Store.updateEach (fun u => { u with lockState := .locked }) ops utxos).2 t) ∨
    ∃ err err', Store.checkFree utxos ops = .error err ∧ ops.foldlM PgStore.lockUTXO p = .error err' ∧
      err.is = none ∧ err'.is = none := by
  induction ops generalizing utxos p with
  | nil => exact .inl ⟨rfl, p.utxos, rfl, h⟩
  | cons op ops ih =>
    obtain ⟨hop, hnodup⟩ := List.nodup_cons.mp hnodup
    rw [List.foldlM_cons]
    unfold Store.checkFree
    cases hu : utxos.lookup op with
    | none =>
      refine .inr ⟨_, ⟨"utxo not free: " ++ op, none⟩, rfl, ?_, rfl, rfl⟩
      rw [lockUTXO_refused h (by rw [hu]; simp)]
      rfl
    | some u =>
      by_cases hfree : u.lockState = .free
      · obtain ⟨t, hlock, hsame⟩ := lockUTXO_free h hu hfree
        rw [hlock]
        dsimp only
        rw [if_pos hfree]
        unfold Store.updateEach
        rw [hu]
        have hrest := ih (p := { p with utxos := t }) hnodup hsame
        rwa [checkFree_insert hop] at hrest
      · dsimp only
        rw [if_neg hfree]
        refine .inr ⟨_, ⟨"utxo not free: " ++ op, none⟩, rfl, ?_, rfl, rfl⟩
        rw [lockUTXO_refused h (fun u' hu' => ?_)]
        · rfl
        · rw [hu] at hu'
          rwa [← Option.some.inj hu']

lemma lockUTXOs_matched (h : Agree lib db m p) (hnodup : ops.Nodup) :
    Matched lib db Done (m.lockUTXOs ops) (p.lockUTXOs ops) := by
  unfold Store.lockUTXOs PgStore.lockUTXOs
  rcases lockEach_matched hnodup h.utxos with ⟨hcheck, t, hloop, hsame⟩ | ⟨err, err', hcheck, hloop, herr, herr'⟩
  · rw [hcheck, exec_of_ok hloop]
    exact ⟨.ok trivial, { h with utxos := hsame }⟩
  · rw [hcheck, exec_of_error hloop]
    exact ⟨.error (herr.trans herr'.symm), h⟩

end UTXOs

/-! ## Nonces -/

section Nonces

variable {walletID : UUID} {chain : String}

lemma nonce_at (walletID : UUID) (chain : String) : ∀ v r : Nonce, v = r →
    (nonceKey v.walletID v.chain = nonceKey walletID chain ↔ PgStore.isNonce walletID chain r = true) := by
  rintro v r rfl
  rw [PgStore.isNonce, decide_eq_true_iff]
  constructor
  · exact key_inj
  · rintro ⟨rfl, rfl⟩
    rfl

lemma Agree.nonce (h : Agree lib db m p) (walletID : UUID) (chain : String) :
    p.nonces.rows.find? (PgStore.isNonce walletID chain) = m.nonces.lookup (nonceKey walletID chain) := by
  have hrel := h.nonces.lookup (nonce_at walletID chain)
  generalize m.nonces.lookup (nonceKey walletID chain) = x at hrel ⊢
  generalize p.nonces.rows.find? (PgStore.isNonce walletID chain) = y at hrel ⊢
  cases hrel with
  | none => rfl
  | some heq => rw [heq]

lemma Agree.nonce_owner (h : Agree lib db m p) {n : Nonce}
    (hn : m.nonces.lookup (nonceKey walletID chain) = some n) : n.walletID = walletID ∧ n.chain = chain :=
  key_inj (h.nonces.keyed _ n hn)

lemma getNonce_matched (h : Agree lib db m p) (walletID : UUID) (chain : String) :
    p.getNonce walletID chain = m.getNonce walletID chain := by
  unfold PgStore.getNonce Store.getNonce Store.nonceRow
  rw [h.nonce walletID chain]

lemma insertNonce_matched (h : Agree lib db m p) {n : Nonce}
    (hn : m.nonces.lookup (nonceKey n.walletID n.chain) = none) :
    ∃ t, p.nonces.insert n = .ok t ∧ Represents (fun n => nonceKey n.walletID n.chain) Eq
      (m.nonces.insert (nonceKey n.walletID n.chain) n) t.rows := by
  have hno := h.nonces.no_row hn (nonce_at n.walletID n.chain)
  obtain ⟨t, hinsert, hrows⟩ := IndexedTable.insert_ok p.nonces n (by
    simp only [List.forall_mem_cons, UniqueIndex.total_collide]
    exact ⟨fun r hr hkey => hno r hr (decide_eq_true (Prod.mk.inj hkey)), List.forall_mem_nil _⟩)
  exact ⟨t, hinsert, hrows ▸ h.nonces.insert_new hn rfl rfl⟩

lemma updateNonce_matched (h : Agree lib db m p) {n : Nonce}
    (hn : m.nonces.lookup (nonceKey walletID chain) = some n) {f : Nonce → Nonce}
    (hf : ∀ r, PgStore.isNonce walletID chain r = true → (f r).walletID = r.walletID ∧ (f r).chain = r.chain) :
    ∃ t, p.nonces.update (PgStore.isNonce walletID chain) f = .ok t ∧
      Represents (fun n => nonceKey n.walletID n.chain) Eq
        (m.nonces.insert (nonceKey walletID chain) (f n)) t.rows := by
  obtain ⟨t, hupdate, hrows⟩ := IndexedTable.update_ok_of_keys (t := p.nonces)
    (p := PgStore.isNonce walletID chain) (f := f) (by
      simp only [List.forall_mem_cons, UniqueIndex.total]
      exact ⟨fun r _ hr => .inr (congrArg some (Prod.ext (hf r hr).1 (hf r hr).2)), List.forall_mem_nil _⟩)
  refine ⟨t, hupdate, ?_⟩
  rw [hrows]
  refine h.nonces.update hn ?_ (nonce_at walletID chain) ?_
  · obtain ⟨hwallet, hchain⟩ := h.nonce_owner hn
    obtain ⟨hwallet', hchain'⟩ := hf n (decide_eq_true ⟨hwallet, hchain⟩)
    rw [hwallet', hchain', hwallet, hchain]
  · rintro r - rfl
    rfl

lemma upsertNonce_matched (h : Agree lib db m p) {n : Nonce} (hknown : KnownWallet p n.walletID)
    (hversion : Int4 n.version) : Matched lib db Done (m.upsertNonce n) (p.upsertNonce n) := by
  obtain ⟨t, hupsert, hsame⟩ : ∃ t,
      p.nonces.upsert (PgStore.isNonce n.walletID n.chain) (fun _ => n) n = .ok t ∧
      Represents (fun n => nonceKey n.walletID n.chain) Eq
        (m.nonces.insert (nonceKey n.walletID n.chain) n) t.rows := by
    unfold IndexedTable.upsert
    cases hn : m.nonces.lookup (nonceKey n.walletID n.chain) with
    | none =>
      rw [if_neg (by simpa using h.nonces.no_row hn (nonce_at n.walletID n.chain))]
      exact insertNonce_matched h hn
    | some n' =>
      obtain ⟨r, hr, hqr, -⟩ := h.nonces.exists_row hn (nonce_at n.walletID n.chain)
      rw [if_pos (List.any_eq_true.mpr ⟨r, hr, hqr⟩)]
      refine updateNonce_matched h hn (f := fun _ => n) (fun r hr => ?_)
      obtain ⟨hwallet, hchain⟩ := of_decide_eq_true hr
      exact ⟨hwallet.symm, hchain.symm⟩
  have hpg : p.upsertNonce n = (.ok (), { p with nonces := t }) := by
    refine exec_of_ok ?_
    rw [int4_ok hversion]
    dsimp only [bind, Except.bind]
    rw [hupsert]
    dsimp only [unique]
    split
    · rw [references_ok hknown]
      rfl
    · rfl
  rw [hpg]
  exact ⟨.ok trivial, { h with nonces := hsame }⟩

lemma incrementPendingNonce_matched (h : Agree lib db m p) (hknown : KnownWallet p walletID)
    (hversion : ∀ n, m.nonces.lookup (nonceKey walletID chain) = some n → Int4 (n.version + 1)) :
    Matched lib db Eq (m.incrementPendingNonce walletID chain) (p.incrementPendingNonce walletID chain) := by
  unfold Store.incrementPendingNonce Store.nonceRow PgStore.incrementPendingNonce
  rw [h.nonce walletID chain]
  cases hn : m.nonces.lookup (nonceKey walletID chain) with
  | none =>
    obtain ⟨t, hinsert, hsame⟩ := insertNonce_matched h (n := ⟨walletID, chain, 1, 0, 1⟩) hn
    dsimp only
    rw [hinsert, references_ok hknown]
    exact ⟨.ok rfl, { h with nonces := hsame }⟩
  | some n =>
    obtain ⟨t, hupdate, hsame⟩ := updateNonce_matched h hn
      (f := fun row => { row with pendingNonce := n.pendingNonce + 1, version := n.version + 1 })
      (fun _ _ => ⟨rfl, rfl⟩)
    dsimp only
    rw [int4_ok (hversion n hn), hupdate]
    exact ⟨.ok rfl, { h with nonces := hsame }⟩

lemma advanceBroadcastNonce_matched (h : Agree lib db m p) {n : Nonce}
    (hn : m.nonces.lookup (nonceKey walletID chain) = some n) (nonce : Int) :
    Matched lib db Done (m.advanceBroadcastNonce walletID chain nonce)
      (p.advanceBroadcastNonce walletID chain nonce) := by
  obtain ⟨t, hupdate, hsame⟩ := updateNonce_matched h hn
    (f := fun row => { row with broadcastNonce := max row.broadcastNonce (nonce + 1) }) (fun _ _ => ⟨rfl, rfl⟩)
  have hmax : (if nonce + 1 > n.broadcastNonce then { n with broadcastNonce := nonce + 1 } else n) =
      { n with broadcastNonce := max n.broadcastNonce (nonce + 1) } := by
    split
    · rename_i hlt
      rw [max_eq_right hlt.le]
    · rename_i hle
      rw [max_eq_left (not_lt.mp hle)]
  have hpg : p.advanceBroadcastNonce walletID chain nonce = (.ok (), { p with nonces := t }) := by
    refine exec_of_ok ?_
    rw [hupdate]
    rfl
  unfold Store.advanceBroadcastNonce Store.nonceRow
  rw [hpg, hn]
  dsimp only [Option.getD_some]
  rw [hmax]
  exact ⟨.ok trivial, { h with nonces := hsame }⟩

lemma rollbackPendingNonce_matched (h : Agree lib db m p) {target : Int}
    (hnone : ∀ n, m.nonces.lookup (nonceKey walletID chain) = some n → n.pendingNonce ≠ target + 1) :
    Matched lib db Eq (m.rollbackPendingNonce walletID chain target)
      (p.rollbackPendingNonce walletID chain target) := by
  have hmem : m.rollbackPendingNonce walletID chain target = (.ok 0, m) := by
    unfold Store.rollbackPendingNonce
    cases hn : m.nonces.lookup (nonceKey walletID chain) with
    | none => rfl
    | some n => exact if_neg (hnone n hn)
  let affected : Nonce → Bool := fun n => PgStore.isNonce walletID chain n ∧ n.pendingNonce = target + 1
  have hno : ∀ r ∈ p.nonces.rows, ¬affected r = true := by
    intro r hr hr'
    obtain ⟨hkey, hpending⟩ := of_decide_eq_true hr'
    cases hn : m.nonces.lookup (nonceKey walletID chain) with
    | none => exact h.nonces.no_row hn (nonce_at walletID chain) r hr hkey
    | some n =>
      rw [← h.nonces.row_of_key hn (nonce_at walletID chain) r hr hkey] at hpending
      exact hnone n hn hpending
  have hupdate : p.nonces.update affected (fun n => { n with pendingNonce := target }) = .ok p.nonces :=
    IndexedTable.update_none hno
  have hcount : p.nonces.rows.countP affected = 0 := List.countP_eq_zero.mpr hno
  have hpg : p.rollbackPendingNonce walletID chain target = (.ok 0, p) := by
    unfold PgStore.rollbackPendingNonce
    dsimp only
    rw [show p.nonces.update _ _ = _ from hupdate, show p.nonces.rows.countP _ = 0 from hcount]
    rfl
  rw [hmem, hpg]
  exact ⟨.ok rfl, h⟩

end Nonces

end WalletManager.Proofs
