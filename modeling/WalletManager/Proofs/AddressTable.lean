import WalletManager.Proofs.Views

/-!
# The table of receive addresses

What the address operations of the memory store read and leave, in terms of the rows under their
identifiers: the source iterates over the table in an unspecified order.
-/

namespace WalletManager.Proofs

section Reads

variable {s s' : Store} {walletID : UUID} {chain : String} {change : Int} {a : Address} {id : UUID}

lemma mem_addressRows : a ∈ s.addressRows ↔ ∃ id, s.addresses.lookup id = some a := by
  unfold Store.addressRows
  constructor
  · intro h
    obtain ⟨⟨id, b⟩, hmem, rfl⟩ := List.mem_map.mp h
    exact ⟨id, AList.mem_lookup_iff.mpr hmem⟩
  · rintro ⟨id, h⟩
    exact List.mem_map.mpr ⟨⟨id, a⟩, AList.mem_lookup_iff.mp h, rfl⟩

lemma getActiveAddress_ok (h : s.getActiveAddress walletID = .ok a) :
    ∃ id, s.addresses.lookup id = some a ∧ a.walletID = walletID ∧ a.state = .active := by
  unfold Store.getActiveAddress at h
  split at h
  · cases h
  · rename_i b hfind
    cases h
    obtain ⟨id, hid⟩ := mem_addressRows.mp (List.mem_of_find?_eq_some hfind)
    exact ⟨id, hid, by simpa using List.find?_some hfind⟩

lemma getActiveAddress_row (hkeyed : ∀ id a, s.addresses.lookup id = some a → a.id = id)
    (h : s.getActiveAddress walletID = .ok a) :
    s.addresses.lookup a.id = some a ∧ a.walletID = walletID ∧ a.state = .active := by
  obtain ⟨id, hrow, hw, hactive⟩ := getActiveAddress_ok h
  rw [hkeyed id a hrow]
  exact ⟨hrow, hw, hactive⟩

lemma getActiveAddress_error {err : Error} (h : s.getActiveAddress walletID = .error err)
    (hrow : s.addresses.lookup id = some a) (hw : a.walletID = walletID) : a.state ≠ .active := by
  intro hactive
  unfold Store.getActiveAddress at h
  split at h
  · rename_i hfind
    have hnot := List.find?_eq_none.mp hfind a (mem_addressRows.mpr ⟨id, hrow⟩)
    simp [hw, hactive] at hnot
  · cases h

lemma getActiveAddress_step {lib : Lib} {r : Except Error Address}
    (h : memStep lib s (.store (.getActiveAddress walletID)) r s') :
    s' = s ∧ r = s.getActiveAddress walletID :=
  ⟨congrArg Prod.snd h, congrArg Prod.fst h⟩

lemma getWallet_step {lib : Lib} {r : Except Error Wallet} {w : Wallet}
    (h : memStep lib s (.store (.getWallet id)) r s') (hw : s.wallets.lookup id = some w) :
    s' = s ∧ r = .ok w := by
  obtain ⟨rfl, rfl⟩ : r = s.getWallet id ∧ s' = s := ⟨congrArg Prod.fst h, congrArg Prod.snd h⟩
  exact ⟨rfl, by rw [Store.getWallet, hw]⟩

def CountsFor (chain : String) (change : Int) (a : Address) : Prop :=
  a.chain.string = chain ∧ a.change = change

lemma le_foldl_index (rows : List Address) (m : Int) :
    m ≤ rows.foldl (fun maxIdx a =>
        if a.chain.string = chain ∧ a.change = change ∧ a.index > maxIdx then a.index else maxIdx) m ∧
      ∀ a ∈ rows, CountsFor chain change a → a.index ≤ rows.foldl (fun maxIdx a =>
        if a.chain.string = chain ∧ a.change = change ∧ a.index > maxIdx then a.index else maxIdx) m := by
  induction rows generalizing m with
  | nil => exact ⟨le_rfl, nofun⟩
  | cons b rows ih =>
    rw [List.foldl_cons]
    obtain ⟨hle, hrows⟩ := ih (if b.chain.string = chain ∧ b.change = change ∧ b.index > m then b.index else m)
    have hm : m ≤ if b.chain.string = chain ∧ b.change = change ∧ b.index > m then b.index else m := by
      split <;> omega
    refine ⟨hm.trans hle, ?_⟩
    intro a ha hcounts
    rcases List.mem_cons.mp ha with rfl | ha
    · refine le_trans ?_ hle
      split
      · exact le_rfl
      · rename_i hnot
        by_contra hlt
        exact hnot ⟨hcounts.1, hcounts.2, by omega⟩
    · exact hrows a ha hcounts

lemma foldl_index_mem (rows : List Address) (m : Int) :
    let top := rows.foldl (fun maxIdx a =>
      if a.chain.string = chain ∧ a.change = change ∧ a.index > maxIdx then a.index else maxIdx) m
    top = m ∨ ∃ a ∈ rows, CountsFor chain change a ∧ a.index = top := by
  dsimp only
  induction rows generalizing m with
  | nil => exact .inl rfl
  | cons b rows ih =>
    rw [List.foldl_cons]
    rcases ih (if b.chain.string = chain ∧ b.change = change ∧ b.index > m then b.index else m) with
      htop | ⟨a, ha, hcounts, htop⟩
    · rw [htop]
      split
      · rename_i hb
        exact .inr ⟨b, List.mem_cons_self, ⟨hb.1, hb.2.1⟩, rfl⟩
      · exact .inl rfl
    · exact .inr ⟨a, List.mem_cons_of_mem _ ha, hcounts, htop⟩

lemma nextAddressIndex_nonneg (s : Store) (chain : String) (change : Int) :
    0 ≤ s.nextAddressIndex chain change := by
  have h := (@le_foldl_index chain change s.addressRows (-1)).1
  unfold Store.nextAddressIndex
  omega

lemma lt_nextAddressIndex (hrow : s.addresses.lookup id = some a) (hcounts : CountsFor chain change a) :
    a.index < s.nextAddressIndex chain change := by
  have h := (le_foldl_index s.addressRows (-1)).2 a (mem_addressRows.mpr ⟨id, hrow⟩) hcounts
  unfold Store.nextAddressIndex
  omega

lemma nextAddressIndex_le {n : Int} (hn : 0 ≤ n)
    (h : ∀ id a, s.addresses.lookup id = some a → CountsFor chain change a → a.index < n) :
    s.nextAddressIndex chain change ≤ n := by
  have hmem := @foldl_index_mem chain change s.addressRows (-1)
  dsimp only at hmem
  unfold Store.nextAddressIndex
  rcases hmem with htop | ⟨a, ha, hcounts, htop⟩
  · omega
  · obtain ⟨id, hid⟩ := mem_addressRows.mp ha
    have hlt := h id a hid hcounts
    omega

end Reads

section Rows

variable {s s' s'' : Store} {a b : Address} {id : UUID}

/-- What no operation changes in a row: its identity, and that it is deprecated. -/
structure Outlives (a b : Address) : Prop where
  id : b.id = a.id
  walletID : b.walletID = a.walletID
  chain : b.chain = a.chain
  change : b.change = a.change
  index : b.index = a.index
  address : b.address = a.address
  deprecated : a.state = .deprecated → b.state = .deprecated

lemma Outlives.refl (a : Address) : Outlives a a := ⟨rfl, rfl, rfl, rfl, rfl, rfl, fun h => h⟩

lemma Outlives.trans {c : Address} (hab : Outlives a b) (hbc : Outlives b c) : Outlives a c :=
  ⟨hbc.id.trans hab.id, hbc.walletID.trans hab.walletID, hbc.chain.trans hab.chain,
    hbc.change.trans hab.change, hbc.index.trans hab.index, hbc.address.trans hab.address,
    fun h => hbc.deprecated (hab.deprecated h)⟩

lemma Outlives.countsFor (h : Outlives a b) {chain : String} {change : Int} :
    CountsFor chain change b ↔ CountsFor chain change a := by
  unfold CountsFor
  rw [h.chain, h.change]

lemma Outlives.active (h : Outlives a b) (hb : b.state = .active) : a.state = .active := by
  cases ha : a.state with
  | active => rfl
  | deprecated =>
    rw [h.deprecated ha] at hb
    cases hb

def Retains (s s' : Store) : Prop :=
  ∀ id a, s.addresses.lookup id = some a → ∃ b, s'.addresses.lookup id = some b ∧ Outlives a b

lemma Retains.refl (s : Store) : Retains s s := fun _ a h => ⟨a, h, .refl a⟩

lemma Retains.of_addresses (h : s'.addresses = s.addresses) : Retains s s' := by
  intro id a ha
  exact ⟨a, h ▸ ha, .refl a⟩

lemma Retains.trans (h : Retains s s') (h' : Retains s' s'') : Retains s s'' := by
  intro id a ha
  obtain ⟨b, hb, hab⟩ := h id a ha
  obtain ⟨c, hc, hbc⟩ := h' id b hb
  exact ⟨c, hc, hab.trans hbc⟩

structure Rewrites (s s' : Store) : Prop where
  retains : Retains s s'
  only : ∀ id b, s'.addresses.lookup id = some b → ∃ a, s.addresses.lookup id = some a ∧ Outlives a b

lemma Rewrites.of_addresses (h : s'.addresses = s.addresses) : Rewrites s s' := by
  refine ⟨.of_addresses h, ?_⟩
  intro id b hb
  exact ⟨b, h ▸ hb, .refl b⟩

lemma Rewrites.keyed (h : Rewrites s s') (hkeyed : ∀ id a, s.addresses.lookup id = some a → a.id = id) :
    ∀ id b, s'.addresses.lookup id = some b → b.id = id := by
  intro id b hb
  obtain ⟨a, ha, hab⟩ := h.only id b hb
  exact hab.id.trans (hkeyed id a ha)

lemma Rewrites.nextAddressIndex (h : Rewrites s s') (chain : String) (change : Int) :
    s'.nextAddressIndex chain change = s.nextAddressIndex chain change := by
  apply le_antisymm
  · apply nextAddressIndex_le (nextAddressIndex_nonneg _ _ _)
    intro id b hb hcounts
    obtain ⟨a, ha, hab⟩ := h.only id b hb
    rw [hab.index]
    exact lt_nextAddressIndex ha (hab.countsFor.mp hcounts)
  · apply nextAddressIndex_le (nextAddressIndex_nonneg _ _ _)
    intro id a ha hcounts
    obtain ⟨b, hb, hab⟩ := h.retains id a ha
    rw [← hab.index]
    exact lt_nextAddressIndex hb (hab.countsFor.mpr hcounts)

lemma updateAddress_lookup {f : Address → Address} (id j : UUID) :
    (s.updateAddress id f).2.addresses.lookup j =
      if j = id then (s.addresses.lookup id).map f else s.addresses.lookup j := by
  unfold Store.updateAddress
  cases hrow : s.addresses.lookup id with
  | none =>
    dsimp only
    by_cases hj : j = id
    · rw [if_pos hj, hj, hrow]
      rfl
    · rw [if_neg hj]
  | some a => exact lookup_insert_eq _ _ _ _

lemma updateAddress_rewrites {f : Address → Address} (hf : ∀ a, Outlives a (f a)) (id : UUID) :
    Rewrites s (s.updateAddress id f).2 := by
  constructor
  · intro j a ha
    rw [updateAddress_lookup]
    split
    · rename_i hj
      subst hj
      exact ⟨f a, by rw [ha]; rfl, hf a⟩
    · exact ⟨a, ha, .refl a⟩
  · intro j b hb
    rw [updateAddress_lookup] at hb
    split at hb
    · rename_i hj
      subst hj
      obtain ⟨a, ha, rfl⟩ := Option.map_eq_some_iff.mp hb
      exact ⟨a, ha, hf a⟩
    · exact ⟨b, hb, .refl b⟩

lemma deprecateAddress_rewrites (s : Store) (id : UUID) : Rewrites s (s.deprecateAddress id).2 := by
  apply updateAddress_rewrites
  intro a
  exact ⟨rfl, rfl, rfl, rfl, rfl, rfl, fun _ => rfl⟩

lemma incrementReceiveCount_rewrites (s : Store) (id : UUID) :
    Rewrites s (s.incrementReceiveCount id).2 := by
  apply updateAddress_rewrites
  intro a
  exact ⟨rfl, rfl, rfl, rfl, rfl, rfl, fun h => h⟩

lemma updateAddress_wallets {f : Address → Address} (id : UUID) :
    (s.updateAddress id f).2.wallets = s.wallets := by
  unfold Store.updateAddress
  split <;> rfl

lemma updateAddress_error {f : Address → Address} {err : Error}
    (h : (.error err, s') = s.updateAddress id f) : s' = s ∧ s.addresses.lookup id = none := by
  unfold Store.updateAddress at h
  split at h
  · rename_i hrow
    exact ⟨congrArg Prod.snd h, hrow⟩
  · cases h

def inserted (s : Store) (a : Address) : Store := { s with addresses := s.addresses.insert a.id a }

lemma inserted_lookup (s : Store) (a : Address) (j : UUID) :
    (inserted s a).addresses.lookup j = if j = a.id then some a else s.addresses.lookup j :=
  lookup_insert_eq _ _ _ _

lemma inserted_row {s : Store} {a b : Address} {id : UUID} (h : (inserted s a).addresses.lookup id = some b) :
    id = a.id ∧ b = a ∨ s.addresses.lookup id = some b := by
  rw [inserted_lookup] at h
  split at h
  · rename_i hid
    exact .inl ⟨hid, (Option.some.inj h).symm⟩
  · exact .inr h

lemma keyed_inserted {s : Store} (hkeyed : ∀ id a, s.addresses.lookup id = some a → a.id = id) (a : Address) :
    ∀ id b, (inserted s a).addresses.lookup id = some b → b.id = id := by
  intro id b hb
  rcases inserted_row hb with ⟨rfl, rfl⟩ | hb
  · rfl
  · exact hkeyed id b hb

lemma insertAddress_ok {now : Int} (hnow : a.createdAt = now)
    (h : (.ok (), s') = s.insertAddress a now) :
    s.addresses.lookup a.id = none ∧
    (a.state = .active → ∀ id b, s.addresses.lookup id = some b → b.walletID = a.walletID →
      b.state ≠ .active) ∧
    s' = inserted s a := by
  unfold Store.insertAddress at h
  split at h
  · cases h
  · rename_i hnew
    split at h
    · cases h
    · rename_i hnone
      refine ⟨AList.lookup_eq_none.mpr hnew, ?_, ?_⟩
      · intro hactive id b hb hw hb'
        apply hnone
        refine ⟨hactive, List.any_eq_true.mpr ⟨b, mem_addressRows.mpr ⟨id, hb⟩, ?_⟩⟩
        simp [hw, hb']
      · have hcp : (if a.createdAt = 0 then { a with createdAt := now } else a) = a := by
          split
          · rw [← hnow]
          · rfl
        dsimp only at h
        rw [hcp] at h
        exact congrArg Prod.snd h

lemma insertAddress_error {now : Int} {err : Error} (h : (.error err, s') = s.insertAddress a now) :
    s' = s ∧ (a.id ∈ s.addresses ∨ ∃ id b, s.addresses.lookup id = some b ∧
      b.walletID = a.walletID ∧ b.state = .active) := by
  unfold Store.insertAddress at h
  split at h
  · rename_i hold
    exact ⟨congrArg Prod.snd h, .inl hold⟩
  · split at h
    · rename_i hany
      obtain ⟨b, hb, hsame⟩ := List.any_eq_true.mp hany.2
      obtain ⟨id, hid⟩ := mem_addressRows.mp hb
      exact ⟨congrArg Prod.snd h, .inr ⟨id, b, hid, by simpa using hsame⟩⟩
    · cases h

lemma retains_inserted (hnew : s.addresses.lookup a.id = none) : Retains s (inserted s a) := by
  intro id b hb
  refine ⟨b, ?_, .refl b⟩
  rw [inserted_lookup, if_neg, hb]
  rintro rfl
  rw [hnew] at hb
  cases hb

end Rows

end WalletManager.Proofs
