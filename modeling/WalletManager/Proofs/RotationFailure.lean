import WalletManager.Proofs.AddressRotation
import WalletManager.Storage.Faults

/-!
# Rotations that fail

What is left of the wallet's active address when `DeriveAddress` returns an error, over Postgres:
its rows obey the unique indexes of the schema. `rotate` retires the old address in a statement of
its own, before the steps that find, derive and insert the new one, and does not undo it when one of
them fails.
-/

namespace WalletManager.Proofs

open Interaction Relational

def activeRow (s : PgStore) (walletID : UUID) : Option Address :=
  s.addresses.rows.find? (fun a => a.walletID = walletID ∧ a.state = .active)

def retire (id : UUID) (a : Address) : Address := if a.id = id then { a with state := .deprecated } else a

section Rows

variable {s s' : PgStore} {id walletID : UUID} {old : Address}

lemma activeRow_eq_none :
    activeRow s walletID = none ↔ ∀ a ∈ s.addresses.rows, a.walletID = walletID → a.state ≠ .active := by
  simp [activeRow, List.find?_eq_none]

lemma activeRow_mem (h : activeRow s walletID = some old) :
    old ∈ s.addresses.rows ∧ old.walletID = walletID ∧ old.state = .active :=
  ⟨List.mem_of_find?_eq_some h, by simpa using List.find?_some h⟩

lemma retire_state (a : Address) : (retire id a).state = .active ↔ a.state = .active ∧ a.id ≠ id := by
  unfold retire
  split <;> simp_all

lemma retire_walletID (a : Address) : (retire id a).walletID = a.walletID := by
  unfold retire
  split <;> rfl

lemma vacant_retire (h : activeRow s walletID = none)
    (hrows : s'.addresses.rows = s.addresses.rows.map (retire id)) : activeRow s' walletID = none := by
  rw [activeRow_eq_none] at h ⊢
  intro a ha hw hactive
  rw [hrows] at ha
  obtain ⟨b, hb, rfl⟩ := List.mem_map.mp ha
  rw [retire_walletID] at hw
  exact h b hb hw ((retire_state b).mp hactive).1

lemma active_retired (h : activeRow s walletID = some old)
    (hrows : s'.addresses.rows = s.addresses.rows.map (retire old.id)) : activeRow s' walletID = none := by
  obtain ⟨hold, hw, hactive⟩ := activeRow_mem h
  rw [activeRow_eq_none]
  intro a ha hwa hactive'
  rw [hrows] at ha
  obtain ⟨b, hb, rfl⟩ := List.mem_map.mp ha
  obtain ⟨hbactive, hne⟩ := (retire_state b).mp hactive'
  rw [retire_walletID] at hwa
  have hindex := s.addresses.unique (.filtered "addresses_one_active_per_wallet" (fun a => a.state = .active)
    Address.walletID) (by simp)
  have heq : b = old := by
    refine hindex.eq_of_collide hb hold ?_
    rw [UniqueIndex.filtered_collide]
    exact ⟨by simpa using hbactive, by simpa using hactive, hwa.trans hw.symm⟩
  exact hne (congrArg Address.id heq)

end Rows

/-! ## The calls -/

section Calls

variable {db : Database} {faulty : StoreCall → Prop} {answers : (c : ExtCall) → c.Answer → Prop}
  {s s₁ : PgStore} {id walletID : UUID}

lemma pgFailsTo_self (s : PgStore) (c : StoreCall) : c.PgFailsTo s s := by
  cases c <;> first | rfl | exact .inl rfl

lemma pgStep_query {c : StoreCall} {x r : Except Error c.Result}
    (h : pgStep db faulty answers s (.store c) r s₁)
    (hread : ∀ h rowID, s.handle db ⟨c, h, rowID⟩ = (x, s)) (hfail : ∀ s', c.PgFailsTo s s' → s' = s) :
    s₁ = s ∧ (r = x ∨ faulty c ∧ ∃ err, r = .error err ∧ err.is = none) := by
  rcases h with ⟨hop, rowID, heq⟩ | ⟨hfaulty, hs, herr⟩
  · rw [hread] at heq
    obtain ⟨rfl, rfl⟩ := Prod.mk.inj heq
    exact ⟨rfl, .inl rfl⟩
  · exact ⟨hfail _ hs, .inr ⟨hfaulty, herr⟩⟩

lemma pgStep_getWallet {r : Except Error Wallet}
    (h : pgStep db faulty answers s (.store (.getWallet id)) r s₁) :
    s₁ = s ∧ ∀ w, r = .ok w → s.getWallet id = .ok w := by
  obtain ⟨rfl, rfl | ⟨-, err, rfl, -⟩⟩ := pgStep_query h (fun _ _ => rfl) (fun _ h => h)
  · exact ⟨rfl, fun _ h => h⟩
  · refine ⟨rfl, ?_⟩
    intro w hw
    cases hw

lemma pgStep_getActiveAddress {r : Except Error Address}
    (h : pgStep db faulty answers s (.store (.getActiveAddress walletID)) r s₁) :
    s₁ = s ∧ (∀ a, r = .ok a → activeRow s walletID = some a) ∧
      ∀ err, r = .error err → err.is = some .errNoRows → activeRow s walletID = none := by
  obtain ⟨rfl, rfl | ⟨-, err, rfl, hnone⟩⟩ := pgStep_query h (fun _ _ => rfl) (fun _ h => h)
  · refine ⟨rfl, ?_, ?_⟩
    all_goals
      unfold PgStore.getActiveAddress PgStore.queryRow activeRow
      split <;> simp_all
  · refine ⟨rfl, nofun, ?_⟩
    rintro err' ⟨⟩ hrows
    rw [hnone] at hrows
    cases hrows

lemma deprecateAddress_ok (s : PgStore) (id : UUID) :
    ∃ t, s.deprecateAddress id = (.ok (), { s with addresses := t }) ∧
      t.rows = s.addresses.rows.map (retire id) := by
  obtain ⟨t, hupdate, hrows⟩ := IndexedTable.update_ok_of_keys (t := s.addresses)
    (p := fun a => a.id = id) (f := fun a => { a with state := .deprecated }) (by
      simp only [List.forall_mem_cons, UniqueIndex.total, UniqueIndex.filtered]
      exact ⟨fun _ _ _ => .inr trivial, fun _ _ _ => .inr trivial, fun _ _ _ => .inr trivial,
        fun _ _ _ => .inl rfl, List.forall_mem_nil _⟩)
  refine ⟨t, ?_, ?_⟩
  · unfold PgStore.deprecateAddress
    rw [hupdate]
    rfl
  · rw [hrows]
    refine List.map_congr_left (fun a _ => ?_)
    simp [retire]

lemma deprecateAddress_fst (s : PgStore) (id : UUID) : (s.deprecateAddress id).1 = .ok () := by
  obtain ⟨t, hok, -⟩ := deprecateAddress_ok s id
  rw [hok]

lemma deprecateAddress_rows (s : PgStore) (id : UUID) :
    (s.deprecateAddress id).2.addresses.rows = s.addresses.rows.map (retire id) := by
  obtain ⟨t, hok, hrows⟩ := deprecateAddress_ok s id
  rw [hok]
  exact hrows

lemma deprecateAddress_wallets (s : PgStore) (id : UUID) : (s.deprecateAddress id).2.wallets = s.wallets := by
  obtain ⟨t, hok, -⟩ := deprecateAddress_ok s id
  rw [hok]

lemma pgStep_deprecateAddress {r : Except Error Unit}
    (h : pgStep db faulty answers s (.store (.deprecateAddress id)) r s₁) :
    (∃ err, r = .error err ∧ s₁ = s ∧ faulty (.deprecateAddress id)) ∨
    r = .ok () ∧ s₁ = (s.deprecateAddress id).2 := by
  rcases h with ⟨hop, rowID, heq⟩ | ⟨hfaulty, hs, err, rfl, -⟩
  · change (r, s₁) = s.deprecateAddress id at heq
    exact .inr ⟨(congrArg Prod.fst heq).trans (deprecateAddress_fst s id), congrArg Prod.snd heq⟩
  · exact .inl ⟨err, rfl, hs, hfaulty⟩

lemma exec_error {stmt : Except Error PgStore} {err : Error} {s' : PgStore}
    (h : (.error err, s') = s.exec stmt) : s' = s := by
  unfold PgStore.exec at h
  split at h
  · exact (Prod.mk.inj h).2
  · cases h

lemma pgStep_insertAddress_error {a : Address} {now : Int} {err : Error}
    (h : pgStep db faulty answers s (.store (.insertAddress a now)) (.error err) s₁) : s₁ = s := by
  rcases h with ⟨hop, rowID, heq⟩ | ⟨-, hs, -⟩
  · change (_, s₁) = s.insertAddress a at heq
    exact exec_error heq
  · exact hs

end Calls

/-! ## The procedures -/

section Procedures

variable {db : Database} {faulty : StoreCall → Prop} {answers : (c : ExtCall) → c.Answer → Prop}
  {p : RotationPolicy} {s : PgStore} {w : Wallet} {fresh : Fresh} {walletID : UUID} {α : Type}

abbrev Leaves (db : Database) (faulty : StoreCall → Prop) (answers : (c : ExtCall) → c.Answer → Prop)
    (prog : Proc α) (s : PgStore) (Q : α → PgStore → Prop) : Prop :=
  Ends (pgStep db faulty answers) (fun _ => (none : Option Unit)) prog s (fun _ => Q)

lemma leaves_store {c : StoreCall} {f : Except Error c.Result → Proc α} {Q : α → PgStore → Prop} :
    Leaves db faulty answers (store c >>= f) s Q ↔
      ∀ r s₁, pgStep db faulty answers s (.store c) r s₁ → Leaves db faulty answers (f r) s₁ Q :=
  ends_call

lemma leaves_ext {c : ExtCall} {f : c.Answer → Proc α} {Q : α → PgStore → Prop}
    (h : ∀ r, answers c r → Leaves db faulty answers (f r) s Q) :
    Leaves db faulty answers (ext c >>= f) s Q := by
  refine ends_call.mpr ?_
  rintro r _ ⟨hr, rfl⟩
  exact h r hr

def Keeps (s : PgStore) (walletID : UUID) (r : Except Error Address) (s' : PgStore) : Prop :=
  ∀ err, r = .error err → activeRow s' walletID = activeRow s walletID

lemma keeps_ok {s' : PgStore} {a : Address} : Keeps s walletID (.ok a) s' := nofun

lemma keeps_self {r : Except Error Address} : Keeps s walletID r s := fun _ _ => rfl

def derived (uncached : Except Error String) (hit : Except Error (String × Bool)) : Except Error String :=
  match cacheHit hit with
  | some v => .ok v
  | none => uncached

lemma deriveCached_leaves {key : String} {uncached : Except Error String} {make : String → DeriveResult} :
    Leaves db faulty answers (deriveCached key uncached make) s (fun r s' => s' = s ∧
      ∃ hit, answers (.cacheGet key) hit ∧ r = (derived uncached hit).map make) := by
  refine leaves_ext ?_
  intro hit hanswer
  have hderived : derived uncached hit = (cacheHit hit).elim uncached .ok := by
    unfold derived
    cases cacheHit hit <;> rfl
  cases hhit : cacheHit hit with
  | some v => exact ends_ret.mpr ⟨rfl, hit, hanswer, by rw [hderived, hhit]; rfl⟩
  | none =>
    rw [hhit] at hderived
    dsimp only
    cases uncached with
    | error err => exact ends_ret.mpr ⟨rfl, hit, hanswer, by rw [hderived]; rfl⟩
    | ok addr => exact leaves_ext (fun _ _ => ends_ret.mpr ⟨rfl, hit, hanswer, by rw [hderived]; rfl⟩)

lemma deriveCached_may {key : String} {hit : Except Error (String × Bool)} (hhit : answers (.cacheGet key) hit)
    (hset : ∀ v, ∃ r, answers (.cacheSet key v) r) (uncached : Except Error String)
    (make : String → DeriveResult) :
    May (pgStep db faulty answers) (deriveCached key uncached make) s ((derived uncached hit).map make) s := by
  refine may_call ⟨hhit, rfl⟩ ?_
  unfold derived
  dsimp only [Prog.bind]
  cases cacheHit hit with
  | some v => exact may_ret
  | none =>
    cases uncached with
    | error err => exact may_ret
    | ok addr =>
      obtain ⟨r, hr⟩ := hset addr
      exact may_call ⟨hr, rfl⟩ may_ret

/-- The deriver of a chain refuses a negative index, except on Solana, where the index is ignored. -/
lemma forChain_derives {chain : Chain} {d : Deriver} (hd : p.derivers.forChain chain = .ok d) (id : UUID)
    (n : Int) : Served chain ∧
      if chain = .solana ∨ 0 ≤ n then
        d id chain n 0 = deriveCached (cacheKeyAt p chain n) (uncachedAt p chain n) (resultAt chain n)
      else ∃ err, d id chain n 0 = pure (.error err) := by
  have hserved : Served chain := by
    unfold Registry.forChain at hd
    split_ifs at hd with hevm hsol hbtc
    · exact .inl (.inl hevm)
    · exact .inr hsol
    · exact .inl (.inr hbtc)
  refine ⟨hserved, ?_⟩
  by_cases hn : 0 ≤ n
  · obtain ⟨d', hd', hat⟩ := forChain_served (p := p) hserved
    obtain rfl := Except.ok.inj (hd.symm.trans hd')
    rw [if_pos (.inr hn)]
    exact hat id n hn
  unfold Registry.forChain at hd
  split_ifs at hd with hevm hsol hbtc
  · obtain rfl := Except.ok.inj hd
    have hne : chain ≠ .solana := Indexed.ne_solana (.inl hevm)
    rw [if_neg (by tauto)]
    unfold EVMDeriver.deriveAt
    rw [if_neg (by simp [hevm]), if_neg (by simp), if_pos (by omega)]
    exact ⟨_, rfl⟩
  · obtain rfl := Except.ok.inj hd
    subst hsol
    rw [if_pos (.inl rfl)]
    rfl
  · obtain rfl := Except.ok.inj hd
    rw [if_neg (by tauto)]
    unfold BTCDeriver.deriveAt
    rw [if_neg (by simp [hbtc]), if_neg (by simp), if_pos (by omega)]
    exact ⟨_, rfl⟩

lemma deriveAt_leaves {chain : Chain} {d : Deriver} (hd : p.derivers.forChain chain = .ok d) (id : UUID)
    (n : Int) : Leaves db faulty answers (d id chain n 0) s (fun _ s' => s' = s) := by
  have hat := (forChain_derives hd id n).2
  split_ifs at hat
  · rw [hat]
    exact deriveCached_leaves.mono (fun _ _ _ h => h.1)
  · obtain ⟨err, hat⟩ := hat
    rw [hat]
    exact ends_ret.mpr rfl

lemma emit_leaves {hasAudit : Bool} {e : AuditEvent} {r : Except Error Address}
    {Q : Except Error Address → PgStore → Prop} (h : Q r s) :
    Leaves db faulty answers (do
      if hasAudit then
        let _ ← ext (.emit e)
      return r) s Q := by
  cases hasAudit with
  | false => exact ends_ret.mpr h
  | true => exact leaves_ext (fun _ _ => ends_ret.mpr h)

lemma insert_leaves {d : Deriver} (hd : p.derivers.forChain w.chain = .ok d) (n : Int) :
    Leaves db faulty answers (RotationPolicy.deriveNew.insert p w fresh d n) s
      (fun r s' => ∀ err, r = .error err → s' = s) := by
  unfold RotationPolicy.deriveNew.insert
  refine Ends.bind (deriveAt_leaves hd w.id n) ?_
  rintro - (err | res) _ rfl
  · exact ends_ret.mpr (fun _ _ => rfl)
  · refine leaves_store.mpr ?_
    rintro (err | _) s₁ hs
    · exact ends_ret.mpr (fun _ _ => pgStep_insertAddress_error hs)
    · exact emit_leaves nofun

lemma deriveNew_leaves (hvacant : activeRow s walletID = none) :
    Leaves db faulty answers (p.deriveNew w fresh) s (Keeps s walletID) := by
  unfold RotationPolicy.deriveNew
  cases hd : p.derivers.forChain w.chain with
  | error err => exact ends_ret.mpr keeps_self
  | ok d =>
    have hinsert : ∀ s₁ n, activeRow s₁ walletID = none →
        Leaves db faulty answers (RotationPolicy.deriveNew.insert p w fresh d n) s₁ (Keeps s walletID) := by
      intro s₁ n hs₁
      refine (insert_leaves hd n).mono ?_
      rintro - r s' hfail err rfl
      rw [hfail err rfl, hs₁, hvacant]
    dsimp only
    refine leaves_store.mpr ?_
    intro r s₁ hs
    obtain ⟨rfl, -⟩ := pgStep_query hs (fun _ _ => rfl) (fun _ h => h)
    cases r with
    | error err => exact ends_ret.mpr keeps_self
    | ok n =>
      dsimp only
      split_ifs
      · refine leaves_store.mpr ?_
        intro r s₂ hs
        obtain ⟨rfl, -⟩ := pgStep_query (x := .ok (s₁.listAddresses db w.id)) hs (fun _ _ => rfl) (fun _ h => h)
        split
        · exact hinsert s₂ n hvacant
        · refine leaves_store.mpr ?_
          rintro r s₃ hs
          rcases pgStep_deprecateAddress hs with ⟨err, rfl, rfl, -⟩ | ⟨rfl, rfl⟩
          · exact ends_ret.mpr keeps_self
          · exact hinsert _ n (vacant_retire hvacant (deprecateAddress_rows _ _))
      · exact hinsert s₁ n hvacant

lemma underLock_leaves {body : Proc (Except Error Address)}
    (hbody : Leaves db faulty answers body s (Keeps s walletID)) :
    Leaves db faulty answers (RotationPolicy.underLock w body) s (Keeps s walletID) := by
  refine leaves_ext ?_
  rintro (err | ⟨token, ok⟩) -
  · exact ends_ret.mpr keeps_self
  · dsimp only
    split_ifs
    · exact ends_ret.mpr keeps_self
    · refine Ends.bind hbody ?_
      intro _ r s₁ hr
      exact leaves_ext (fun _ _ => ends_ret.mpr hr)

lemma deriveNewLoop_leaves (hvacant : activeRow s w.id = none) (retries : Nat) :
    Leaves db faulty answers (p.deriveNewLoop w fresh retries) s (Keeps s w.id) := by
  induction retries with
  | zero => exact ends_ret.mpr keeps_self
  | succ retries ih =>
    refine leaves_ext ?_
    rintro (err | ⟨token, ok⟩) -
    · exact ends_ret.mpr keeps_self
    · dsimp only
      split_ifs
      · refine leaves_store.mpr ?_
        intro r s₁ hs
        obtain ⟨rfl, -⟩ := pgStep_getActiveAddress hs
        cases r with
        | ok a => exact ends_ret.mpr keeps_ok
        | error err =>
          dsimp only
          split_ifs
          · exact ih
          · exact ends_ret.mpr keeps_self
      · refine leaves_store.mpr ?_
        intro r s₁ hs
        obtain ⟨rfl, -⟩ := pgStep_getActiveAddress hs
        cases r with
        | ok a => exact leaves_ext (fun _ _ => ends_ret.mpr keeps_ok)
        | error err =>
          dsimp only
          split_ifs
          · refine Ends.bind (deriveNew_leaves hvacant) ?_
            intro _ r s₂ hr
            exact leaves_ext (fun _ _ => ends_ret.mpr hr)
          · exact leaves_ext (fun _ _ => ends_ret.mpr keeps_self)

end Procedures

/-! ## When an error keeps the active address -/

structure RotationDue (p : RotationPolicy) (s : PgStore) (walletID : UUID) (force : Bool)
    (fresh : Fresh) (w : Wallet) (old : Address) : Prop where
  wallet : s.getWallet walletID = .ok w
  -- A retired wallet is refused before anything is written.
  state : w.state ≠ .retired
  active : activeRow s walletID = some old
  due : force = true ∨ p.shouldRotate w old fresh.since = true

/-- No stored row has the identifier, the slot or the text of the new one. -/
def Free (s : PgStore) (row : Address) : Prop :=
  ∀ a ∈ s.addresses.rows, a.id ≠ row.id ∧
    (a.walletID, a.index, a.change) ≠ (row.walletID, row.index, row.change) ∧
    (a.chain.string, a.address) ≠ (row.chain.string, row.address)

instance (s : PgStore) (row : Address) : Decidable (Free s row) := inferInstanceAs (Decidable (∀ a ∈ _, _))

/-- The address at the index `n` can take the place of the one whose retirement has left `s`: none of the
steps that follow can fail. -/
structure Replaceable (db : Database) (p : RotationPolicy) (faulty : StoreCall → Prop)
    (answers : (c : ExtCall) → c.Answer → Prop) (s : PgStore) (w : Wallet) (fresh : Fresh) (n : Int) :
    Prop where
  served : Served w.chain
  reads : ¬faulty (.nextAddressIndex w.chain.string 0)
  index : s.nextAddressIndex w.chain.string 0 = .ok n
  nonneg : w.chain = .solana ∨ 0 ≤ n
  -- A Solana wallet retires the first of its rows once more.
  retires : w.chain = .solana → ∀ a ∈ (s.listAddresses db w.id).head?, ¬faulty (.deprecateAddress a.id)
  inserts : ∀ hit, answers (.cacheGet (cacheKeyAt p w.chain n)) hit →
    ∃ addr, derived (uncachedAt p w.chain n) hit = .ok addr ∧
      ¬faulty (.insertAddress (rowAt w fresh n addr) fresh.now) ∧ Free s (rowAt w fresh n addr)

/-- Whenever the call has an address to retire, another one can take its place. -/
def Ready (db : Database) (p : RotationPolicy) (faulty : StoreCall → Prop)
    (answers : (c : ExtCall) → c.Answer → Prop) (s : PgStore) (walletID : UUID) (force : Bool) (fresh : Fresh) :
    Prop :=
  ∀ w old, RotationDue p s walletID force fresh w old →
    ∃ n, Replaceable db p faulty answers (s.deprecateAddress old.id).2 w fresh n

def KeepsActive (db : Database) (p : RotationPolicy) (faulty : StoreCall → Prop)
    (answers : (c : ExtCall) → c.Answer → Prop) (s : PgStore) (walletID : UUID) (force : Bool) (fresh : Fresh) :
    Prop :=
  ∀ tr err s', Exec (pgStep db faulty answers) (p.deriveAddress walletID force fresh) s tr (.error err) s' →
    activeRow s' walletID = activeRow s walletID

/-- Each service answers somehow, and the lock of the wallet may be granted. -/
structure Responsive (answers : (c : ExtCall) → c.Answer → Prop) (walletID : UUID) : Prop where
  some : ∀ c, ∃ r, answers c r
  granted : ∀ w : Wallet, w.id = walletID →
    ∃ token, answers (.acquire (RotationPolicy.lockName w) 10) (.ok (token, true))

structure Vacated (s : PgStore) (w : Wallet) : Prop where
  vacant : activeRow s w.id = none
  known : w ∈ s.wallets.rows

section Rotation

variable {db : Database} {faulty : StoreCall → Prop} {answers : (c : ExtCall) → c.Answer → Prop}
  {p : RotationPolicy} {s s' : PgStore} {w : Wallet} {fresh : Fresh} {walletID : UUID} {old : Address}
  {n : Int} {force : Bool} {d : Deriver}

lemma getWallet_found (h : s.getWallet walletID = .ok w) : w ∈ s.wallets.rows ∧ w.id = walletID := by
  unfold PgStore.getWallet PgStore.queryRow at h
  split at h
  · cases h
  · rename_i hfind
    cases h
    exact ⟨List.mem_of_find?_eq_some hfind, by simpa using List.find?_some hfind⟩

lemma Vacated.retire (h : Vacated s w) (id : UUID) : Vacated (s.deprecateAddress id).2 w where
  vacant := vacant_retire h.vacant (deprecateAddress_rows s id)
  known := by
    rw [deprecateAddress_wallets]
    exact h.known

lemma RotationDue.vacated (h : RotationDue p s walletID force fresh w old) :
    Vacated (s.deprecateAddress old.id).2 w := by
  obtain ⟨hknown, rfl⟩ := getWallet_found h.wallet
  refine ⟨active_retired h.active (deprecateAddress_rows s old.id), ?_⟩
  rw [deprecateAddress_wallets]
  exact hknown

lemma free_retire {id : UUID} {row : Address} : Free (s.deprecateAddress id).2 row ↔ Free s row := by
  unfold Free
  rw [deprecateAddress_rows, List.forall_mem_map]
  refine forall₂_congr (fun a _ => ?_)
  unfold retire
  split <;> rfl

lemma int4_rowAt {chain : String} (h : s.nextAddressIndex chain 0 = .ok n) (addr : String) :
    int4 (rowAt w fresh n addr).index = .ok () := by
  have hn : int4 n = .ok () := by
    unfold PgStore.nextAddressIndex at h
    simp only [bind, Except.bind, pure, Except.pure] at h
    split at h
    · cases h
    · split at h
      · cases h
      · rename_i hrange
        cases h
        exact hrange
  change int4 (resultAt w.chain n addr).index = .ok ()
  unfold resultAt
  split
  · exact hn
  · split
    · exact hn
    · rfl

/-- With no active address in the way, the new row goes in exactly if it is free. -/
lemma Vacated.insertAddress_iff (h : Vacated s w) {addr : String}
    (hindex : int4 (rowAt w fresh n addr).index = .ok ()) :
    (s.insertAddress (rowAt w fresh n addr)).1 = .ok () ↔ Free s (rowAt w fresh n addr) := by
  have hknown : s.references "addresses" (rowAt w fresh n addr).walletID = .ok () := by
    unfold PgStore.references
    rw [if_pos]
    exact List.any_eq_true.mpr ⟨w, h.known, decide_eq_true rfl⟩
  have hcount : int4 (rowAt w fresh n addr).receiveCount = .ok () := rfl
  have hchange : int4 (rowAt w fresh n addr).change = .ok () := by
    rw [rowAt_change]
    rfl
  have hfree : Free s (rowAt w fresh n addr) ↔
      ∀ ix ∈ addressIndexes, ∀ a ∈ s.addresses.rows, ¬ix.Collide a (rowAt w fresh n addr) := by
    have hactive : ∀ a ∈ s.addresses.rows, ¬(a.state = .active ∧ a.walletID = w.id) :=
      fun a ha hboth => activeRow_eq_none.mp h.vacant a ha hboth.2 hboth.1
    simp only [List.forall_mem_cons, UniqueIndex.total_collide, UniqueIndex.filtered_collide]
    constructor
    · intro hfree
      refine ⟨fun a ha => (hfree a ha).1, fun a ha => (hfree a ha).2.1, fun a ha => (hfree a ha).2.2, ?_,
        List.forall_mem_nil _⟩
      rintro a ha ⟨hstate, -, hwallet⟩
      exact hactive a ha ⟨of_decide_eq_true hstate, hwallet⟩
    · rintro ⟨hid, hslot, htext, -⟩ a ha
      exact ⟨hid a ha, hslot a ha, htext a ha⟩
  unfold PgStore.insertAddress
  rw [hindex, hchange, hcount, hknown, hfree]
  rcases IndexedTable.insert_cases s.addresses (rowAt w fresh n addr) with
    ⟨t, hok, -, hnone⟩ | ⟨name, herr, ix, hix, a, ha, hcollide⟩
  · rw [hok]
    exact ⟨fun _ => hnone, fun _ => rfl⟩
  · rw [herr]
    refine ⟨fun hok => ?_, fun hnone => absurd hcollide (hnone ix hix a ha)⟩
    cases hok

def Succeeds (r : Except Error Address) (_ : PgStore) : Prop := ∃ a, r = .ok a

lemma not_succeeds {err : Error} : ¬Succeeds (.error err) s := nofun

section Statement

variable {c : StoreCall} {f : Except Error c.Result → Proc (Except Error Address)} {wrap : Error → Error}

lemma not_faulty_of_succeeds (h : Leaves db faulty answers (store c >>= f) s Succeeds)
    (hf : ∀ err, f (.error err) = .ret (.error (wrap err))) : ¬faulty c := by
  intro hfaulty
  have hfails := leaves_store.mp h (.error ⟨"", none⟩) s (.inr ⟨hfaulty, pgFailsTo_self s c, _, rfl, rfl⟩)
  rw [hf] at hfails
  exact not_succeeds (ends_ret.mp hfails)

lemma handled_of_succeeds (h : Leaves db faulty answers (store c >>= f) s Succeeds)
    (hf : ∀ err, f (.error err) = .ret (.error (wrap err))) (hop : c.isOperation = true) :
    ∃ x, (s.handle db ⟨c, hop, UUID.nil⟩).1 = .ok x ∧
      Leaves db faulty answers (f (.ok x)) (s.handle db ⟨c, hop, UUID.nil⟩).2 Succeeds := by
  have hstep : pgStep db faulty answers s (.store c) (s.handle db ⟨c, hop, UUID.nil⟩).1
      (s.handle db ⟨c, hop, UUID.nil⟩).2 := .inl ⟨hop, UUID.nil, rfl⟩
  have hnext := leaves_store.mp h _ _ hstep
  cases hr : (s.handle db ⟨c, hop, UUID.nil⟩).1 with
  | error err =>
    rw [hr, hf] at hnext
    exact absurd (ends_ret.mp hnext) not_succeeds
  | ok x =>
    rw [hr] at hnext
    exact ⟨x, rfl, hnext⟩

end Statement

lemma insert_succeeds (hd : p.derivers.forChain w.chain = .ok d) (hvacated : Vacated s w)
    (hindex : ∀ addr, int4 (rowAt w fresh n addr).index = .ok ()) (hn : w.chain = .solana ∨ 0 ≤ n)
    (hinserts : ∀ hit, answers (.cacheGet (cacheKeyAt p w.chain n)) hit →
      ∃ addr, derived (uncachedAt p w.chain n) hit = .ok addr ∧
        ¬faulty (.insertAddress (rowAt w fresh n addr) fresh.now) ∧ Free s (rowAt w fresh n addr)) :
    Leaves db faulty answers (RotationPolicy.deriveNew.insert p w fresh d n) s Succeeds := by
  have hat := (forChain_derives hd w.id n).2
  rw [if_pos hn] at hat
  unfold RotationPolicy.deriveNew.insert
  rw [hat]
  refine Ends.bind deriveCached_leaves ?_
  rintro - _ _ ⟨rfl, hit, hanswer, rfl⟩
  obtain ⟨addr, hderived, hwrites, hfree⟩ := hinserts hit hanswer
  rw [hderived]
  refine leaves_store.mpr ?_
  rintro r s₂ (⟨hop, rowID, heq⟩ | ⟨hfaulty, -⟩)
  · obtain rfl : r = .ok () :=
      (congrArg Prod.fst heq).trans ((hvacated.insertAddress_iff (hindex addr)).mpr hfree)
    exact emit_leaves ⟨_, rfl⟩
  · exact absurd hfaulty hwrites

lemma insertable_of_succeeds (hd : p.derivers.forChain w.chain = .ok d) (hvacated : Vacated s w)
    (hindex : ∀ addr, int4 (rowAt w fresh n addr).index = .ok ()) (hsome : ∀ c, ∃ r, answers c r)
    (h : Leaves db faulty answers (RotationPolicy.deriveNew.insert p w fresh d n) s Succeeds) :
    (w.chain = .solana ∨ 0 ≤ n) ∧ ∀ hit, answers (.cacheGet (cacheKeyAt p w.chain n)) hit →
      ∃ addr, derived (uncachedAt p w.chain n) hit = .ok addr ∧
        ¬faulty (.insertAddress (rowAt w fresh n addr) fresh.now) ∧ Free s (rowAt w fresh n addr) := by
  have hat := (forChain_derives hd w.id n).2
  unfold RotationPolicy.deriveNew.insert at h
  split_ifs at hat with hn
  · refine ⟨hn, ?_⟩
    intro hit hhit
    rw [hat] at h
    obtain ⟨tr, hrun⟩ := deriveCached_may hhit (fun v => hsome _) (uncachedAt p w.chain n) (resultAt w.chain n)
    have hrest := ends_bind.mp h _ _ _ hrun
    cases hderived : derived (uncachedAt p w.chain n) hit with
    | error err =>
      rw [hderived] at hrest
      exact absurd (ends_ret.mp hrest) not_succeeds
    | ok addr =>
      rw [hderived] at hrest
      obtain ⟨_, hok, -⟩ := handled_of_succeeds hrest (fun _ => rfl) rfl
      exact ⟨addr, rfl, not_faulty_of_succeeds hrest (fun _ => rfl),
        (hvacated.insertAddress_iff (hindex addr)).mp hok⟩
  · obtain ⟨err, hat⟩ := hat
    rw [hat] at h
    exact absurd (ends_ret.mp h) not_succeeds

lemma Replaceable.deriveNew_succeeds (h : Replaceable db p faulty answers s w fresh n)
    (hvacated : Vacated s w) : Leaves db faulty answers (p.deriveNew w fresh) s Succeeds := by
  have hindex : ∀ addr, int4 (rowAt w fresh n addr).index = .ok () := int4_rowAt h.index
  obtain ⟨d, hd, -⟩ := forChain_served (p := p) h.served
  have hinsert : Leaves db faulty answers (RotationPolicy.deriveNew.insert p w fresh d n) s Succeeds :=
    insert_succeeds hd hvacated hindex h.nonneg h.inserts
  unfold RotationPolicy.deriveNew
  rw [hd]
  refine leaves_store.mpr ?_
  intro r s₁ hs
  obtain ⟨rfl, hr | ⟨hfaulty, -⟩⟩ := pgStep_query hs (fun _ _ => rfl) (fun _ h => h)
  · rw [h.index] at hr
    subst hr
    dsimp only
    split_ifs with hsol
    · refine leaves_store.mpr ?_
      intro r s₂ hs
      obtain ⟨rfl, hr⟩ := pgStep_query (x := .ok (s₁.listAddresses db w.id)) hs (fun _ _ => rfl) (fun _ h => h)
      rcases hr with rfl | ⟨-, err, rfl, -⟩
      · dsimp only
        split
        · exact hinsert
        · rename_i a rest hlist
          refine leaves_store.mpr ?_
          intro r s₃ hs
          rcases pgStep_deprecateAddress hs with ⟨err, -, -, hfaulty⟩ | ⟨rfl, rfl⟩
          · exact absurd hfaulty (h.retires hsol a (by rw [hlist]; rfl))
          · refine insert_succeeds hd (hvacated.retire a.id) hindex h.nonneg ?_
            intro hit hhit
            obtain ⟨addr, hderived, hwrites, hfree⟩ := h.inserts hit hhit
            exact ⟨addr, hderived, hwrites, free_retire.mpr hfree⟩
      · exact hinsert
    · exact hinsert
  · exact absurd hfaulty h.reads

lemma replaceable_of_succeeds (hvacated : Vacated s w) (hsome : ∀ c, ∃ r, answers c r)
    (h : Leaves db faulty answers (p.deriveNew w fresh) s Succeeds) :
    ∃ n, Replaceable db p faulty answers s w fresh n := by
  unfold RotationPolicy.deriveNew at h
  cases hd : p.derivers.forChain w.chain with
  | error err =>
    rw [hd] at h
    exact absurd (ends_ret.mp h) not_succeeds
  | ok d =>
    rw [hd] at h
    have hserved := (forChain_derives hd w.id 0).1
    have hreads : ¬faulty (.nextAddressIndex w.chain.string 0) := not_faulty_of_succeeds h (fun _ => rfl)
    obtain ⟨n, hn, hrest⟩ := handled_of_succeeds h (fun _ => rfl) rfl
    change s.nextAddressIndex w.chain.string 0 = .ok n at hn
    have hindex : ∀ addr, int4 (rowAt w fresh n addr).index = .ok () := int4_rowAt hn
    refine ⟨n, ?_⟩
    dsimp only at hrest
    split_ifs at hrest with hsol
    · have hlisted := leaves_store.mp hrest (.ok (s.listAddresses db w.id)) s (.inl ⟨rfl, UUID.nil, rfl⟩)
      dsimp only at hlisted
      cases hlist : s.listAddresses db w.id with
      | nil =>
        rw [hlist] at hlisted
        obtain ⟨hnonneg, hinserts⟩ := insertable_of_succeeds hd hvacated hindex hsome hlisted
        have hnone : ∀ a ∈ (s.listAddresses db w.id).head?, ¬faulty (.deprecateAddress a.id) := by simp [hlist]
        exact ⟨hserved, hreads, hn, hnonneg, fun _ => hnone, hinserts⟩
      | cons a rest =>
        rw [hlist] at hlisted
        obtain ⟨_, -, hdone⟩ := handled_of_succeeds hlisted (fun _ => rfl) rfl
        obtain ⟨hnonneg, hinserts⟩ := insertable_of_succeeds hd (hvacated.retire a.id) hindex hsome hdone
        refine ⟨hserved, hreads, hn, hnonneg, ?_, ?_⟩
        · intro _ b hb
          rw [hlist] at hb
          obtain rfl := Option.some.inj hb
          exact not_faulty_of_succeeds hlisted (fun _ => rfl)
        · intro hit hhit
          obtain ⟨addr, hderived, hwrites, hfree⟩ := hinserts hit hhit
          exact ⟨addr, hderived, hwrites, free_retire.mp hfree⟩
    · obtain ⟨hnonneg, hinserts⟩ := insertable_of_succeeds hd hvacated hindex hsome hrest
      exact ⟨hserved, hreads, hn, hnonneg, fun h => absurd h hsol, hinserts⟩

lemma Replaceable.rotate_leaves (h : Replaceable db p faulty answers (s.deprecateAddress old.id).2 w fresh n)
    (hvacated : Vacated (s.deprecateAddress old.id).2 w) :
    Leaves db faulty answers (p.rotate w old fresh) s (Keeps s walletID) := by
  refine underLock_leaves (leaves_store.mpr ?_)
  intro r s₁ hs
  rcases pgStep_deprecateAddress hs with ⟨err, rfl, rfl, -⟩ | ⟨rfl, rfl⟩
  · exact ends_ret.mpr keeps_self
  · refine Ends.bind (h.deriveNew_succeeds hvacated) ?_
    rintro - r s₂ ⟨a, rfl⟩
    exact emit_leaves keeps_ok

lemma RotationDue.may_fail (h : RotationDue p s walletID force fresh w old)
    (hresponsive : Responsive answers walletID)
    {err : Error} (hfails : May (pgStep db faulty answers) (p.deriveNew w fresh)
      (s.deprecateAddress old.id).2 (.error err) s') :
    May (pgStep db faulty answers) (p.deriveAddress walletID force fresh) s (.error err) s' := by
  have hrotate : May (pgStep db faulty answers) (p.rotate w old fresh) s (.error err) s' := by
    obtain ⟨token, hlock⟩ := hresponsive.granted w (getWallet_found h.wallet).2
    obtain ⟨r, hrelease⟩ := hresponsive.some (.release (RotationPolicy.lockName w) token)
    refine may_call ⟨hlock, rfl⟩ ?_
    have hbody : pgStep db faulty answers s (.store (.deprecateAddress old.id)) (.ok ())
        (s.deprecateAddress old.id).2 :=
      .inl ⟨rfl, UUID.nil, Prod.ext (deprecateAddress_fst s old.id).symm rfl⟩
    dsimp only [Prog.bind]
    rw [if_neg (by simp)]
    refine May.bind (a := .error err) (may_call hbody ?_) (?_ : May _ _ s' _ _)
    · dsimp only [Prog.bind]
      exact May.bind hfails may_ret
    · exact may_call ⟨hrelease, rfl⟩ may_ret
  have hwallet : pgStep db faulty answers s (.store (.getWallet walletID)) (.ok w) s :=
    .inl ⟨rfl, UUID.nil, by rw [← h.wallet]; rfl⟩
  have hactive : pgStep db faulty answers s (.store (.getActiveAddress walletID)) (.ok old) s := by
    refine .inl ⟨rfl, UUID.nil, ?_⟩
    change _ = (PgStore.queryRow (activeRow s walletID), s)
    rw [h.active]
    rfl
  unfold RotationPolicy.deriveAddress
  split_ifs with hforce
  · refine may_call hwallet ?_
    dsimp only [Prog.bind]
    rw [if_neg h.state]
    exact may_call hactive hrotate
  · refine may_call hwallet ?_
    dsimp only [Prog.bind]
    rw [if_neg h.state]
    refine may_call hactive ?_
    dsimp only [Prog.bind]
    rw [if_pos (h.due.resolve_left hforce)]
    exact hrotate

lemma lookup_leaves {first : Wallet → Proc (Except Error Address)}
    {next : Wallet → Address → Proc (Except Error Address)}
    (hfirst : ∀ w, s.getWallet walletID = .ok w → activeRow s walletID = none →
      Leaves db faulty answers (first w) s (Keeps s walletID))
    (hnext : ∀ w a, s.getWallet walletID = .ok w → w.state ≠ .retired → activeRow s walletID = some a →
      Leaves db faulty answers (next w a) s (Keeps s walletID)) :
    Leaves db faulty answers (do
      match ← store (.getWallet walletID) with
      | .error err => return .error err
      | .ok w =>
        if w.state = .retired then return .error errWalletRetired
        else match ← store (.getActiveAddress walletID) with
          | .error err => if err.is = some .errNoRows then first w else return .error err
          | .ok active => next w active) s (Keeps s walletID) := by
  refine leaves_store.mpr ?_
  intro r s₁ hs
  obtain ⟨rfl, hfound⟩ := pgStep_getWallet hs
  cases r with
  | error err => exact ends_ret.mpr keeps_self
  | ok w =>
    dsimp only
    split_ifs with hstate
    · exact ends_ret.mpr keeps_self
    · refine leaves_store.mpr ?_
      intro r s₂ hs
      obtain ⟨rfl, hactive, hnone⟩ := pgStep_getActiveAddress hs
      cases r with
      | ok a => exact hnext w a (hfound w rfl) hstate (hactive a rfl)
      | error err =>
        dsimp only
        split_ifs with hrows
        · exact hfirst w (hfound w rfl) (hnone err rfl hrows)
        · exact ends_ret.mpr keeps_self

lemma deriveAddress_leaves (hready : Ready db p faulty answers s walletID force fresh) :
    Leaves db faulty answers (p.deriveAddress walletID force fresh) s (Keeps s walletID) := by
  have hrotate : ∀ w old, RotationDue p s walletID force fresh w old →
      Leaves db faulty answers (p.rotate w old fresh) s (Keeps s walletID) := by
    intro w old hdue
    obtain ⟨n, hnext⟩ := hready w old hdue
    exact hnext.rotate_leaves hdue.vacated
  unfold RotationPolicy.deriveAddress
  split_ifs with hforce
  · refine lookup_leaves ?_ ?_
    · intro w _ hvacant
      exact underLock_leaves (deriveNew_leaves hvacant)
    · intro w a hw hstate ha
      exact hrotate w a ⟨hw, hstate, ha, .inl hforce⟩
  · refine lookup_leaves ?_ ?_
    · intro w hw hvacant
      obtain ⟨-, rfl⟩ := getWallet_found hw
      exact deriveNewLoop_leaves hvacant 20
    · intro w a hw hstate ha
      split_ifs with hdue
      · exact hrotate w a ⟨hw, hstate, ha, .inr hdue⟩
      · exact ends_ret.mpr keeps_ok

lemma RotationDue.deriveNew_succeeds (h : RotationDue p s walletID force fresh w old)
    (hresponsive : Responsive answers walletID) (hkeeps : KeepsActive db p faulty answers s walletID force fresh) :
    Leaves db faulty answers (p.deriveNew w fresh) (s.deprecateAddress old.id).2 Succeeds := by
  intro tr r s' hrun
  rcases r with err | a
  · obtain ⟨tr', hfails⟩ := h.may_fail hresponsive ⟨tr, hrun⟩
    have hkept := hkeeps tr' err s' hfails
    have hvacant := h.vacated.vacant
    rw [(getWallet_found h.wallet).2] at hvacant
    have hlost := deriveNew_leaves hvacant tr _ s' hrun err rfl
    rw [hkept, hvacant, h.active] at hlost
    cases hlost
  · exact ⟨a, rfl⟩

end Rotation

/-- When `DeriveAddress` returns an error, the active address of the wallet is the row that it was, if
whenever the call has an address to retire, none of the steps after the retirement can fail. Where the
other services respond, it is so only then. -/
theorem failed_rotation_keeps_active (db : Database) (faulty : StoreCall → Prop)
    (answers : (c : ExtCall) → c.Answer → Prop) (p : RotationPolicy) (s : PgStore) (walletID : UUID)
    (force : Bool) (fresh : Fresh) :
    (Ready db p faulty answers s walletID force fresh → KeepsActive db p faulty answers s walletID force fresh) ∧
    (Responsive answers walletID →
      (KeepsActive db p faulty answers s walletID force fresh ↔
        Ready db p faulty answers s walletID force fresh)) := by
  have hsafe : Ready db p faulty answers s walletID force fresh →
      KeepsActive db p faulty answers s walletID force fresh :=
    fun hready tr err s' hrun => deriveAddress_leaves hready tr _ s' hrun err rfl
  refine ⟨hsafe, fun hresponsive => ⟨fun hkept w old hdue => ?_, hsafe⟩⟩
  exact replaceable_of_succeeds hdue.vacated hresponsive.some (hdue.deriveNew_succeeds hresponsive hkept)

/-! ## Runs over the reference database -/

/-- Postgres where the statements that are `failing` lose the connection, and other parties that agree
to everything. -/
def pgAnswering (failing : StoreCall → Bool) (s : PgStore) : (c : Call) → Answer c × PgStore
  | .store c =>
    if h : failing c = false ∧ c.isOperation = true then s.handle referenceDatabase ⟨c, h.2, UUID.nil⟩
    else (.error ⟨"driver: bad connection", none⟩, s)
  | .ext c => (agree c, s)

def Fails (failing : StoreCall → Bool) (c : StoreCall) : Prop := ¬(failing c = false ∧ c.isOperation = true)

lemma pgAnswering_pgStep (failing : StoreCall → Bool) (s : PgStore) (c : Call) :
    pgStep referenceDatabase (Fails failing) (fun c r => r = agree c) s c (pgAnswering failing s c).1
      (pgAnswering failing s c).2 := by
  cases c with
  | ext c => exact ⟨rfl, rfl⟩
  | store c =>
    by_cases h : failing c = false ∧ c.isOperation = true
    · refine .inl ⟨h.2, UUID.nil, ?_⟩
      dsimp only [pgAnswering]
      rw [dif_pos h]
    · refine .inr ⟨h, ?_⟩
      dsimp only [pgAnswering]
      rw [dif_neg h]
      exact ⟨pgFailsTo_self s c, _, rfl, rfl⟩

def pgDerive (failing : StoreCall → Bool) (s : PgStore) (w : Wallet) (force : Bool) (addrID : UUID) :
    Trace × Except Error Address × PgStore :=
  (referencePolicy.deriveAddress w.id force ⟨addrID, 0, 0⟩).run (pgAnswering failing) s

lemma pgDerive_exec (failing : StoreCall → Bool) (s : PgStore) (w : Wallet) (force : Bool) (addrID : UUID) :
    Exec (pgStep referenceDatabase (Fails failing) (fun c r => r = agree c))
      (referencePolicy.deriveAddress w.id force ⟨addrID, 0, 0⟩) s (pgDerive failing s w force addrID).1
      (pgDerive failing s w force addrID).2.1 (pgDerive failing s w force addrID).2.2 :=
  Prog.run_exec (pgAnswering_pgStep failing) _ s

def withAddress (w : Wallet) : PgStore :=
  (pgDerive (fun _ => false) (({} : PgStore).createWallet w).2 w false (UUID.ofByte 20)).2.2

def deprecateFails (c : StoreCall) : Bool := c matches .deprecateAddress _

def clungRotation : Trace × Except Error Address × PgStore :=
  pgDerive deprecateFails (withAddress evmWallet) evmWallet true (UUID.ofByte 21)

def solanaRotation : Trace × Except Error Address × PgStore :=
  pgDerive (fun _ => false) (withAddress solWallet) solWallet true (UUID.ofByte 21)

lemma solanaRotation_fails : solanaRotation.2.1 =
    .error ((uniqueViolation "addresses_wallet_id_index_change_key").wrap "insert address") := by
  decide +kernel

lemma agree_responsive (walletID : UUID) : Responsive (fun c r => r = agree c) walletID :=
  ⟨fun c => ⟨agree c, rfl⟩, fun _ _ => ⟨"token", rfl⟩⟩

lemma evm_ready : Ready referenceDatabase referencePolicy (Fails deprecateFails) (fun c r => r = agree c)
    (withAddress evmWallet) evmWallet.id true ⟨UUID.ofByte 21, 0, 0⟩ := by
  intro w old hdue
  have hfound : (withAddress evmWallet).getWallet evmWallet.id = .ok evmWallet := by decide +kernel
  have hactive : activeRow (withAddress evmWallet) evmWallet.id =
      some (rowAt evmWallet ⟨UUID.ofByte 20, 0, 0⟩ 0 evmFirst) := by decide +kernel
  obtain rfl := Except.ok.inj (hfound.symm.trans hdue.wallet)
  obtain rfl := Option.some.inj (hactive.symm.trans hdue.active)
  refine ⟨1, .inl (.inl rfl), fun h => h ⟨rfl, rfl⟩, by decide +kernel, .inr (by decide), nofun, ?_⟩
  rintro hit rfl
  exact ⟨evmSecond, by decide +kernel, fun h => h ⟨rfl, rfl⟩, by decide +kernel⟩

/-- The address of the Ethereum wallet stays when it cannot be retired; the rotation of the Solana wallet
does not meet the condition. -/
theorem failed_rotation_keeps_active_clung :
    clungRotation.2.1.toBool = false ∧ (activeRow (withAddress evmWallet) evmWallet.id).isSome ∧
    activeRow clungRotation.2.2 evmWallet.id = activeRow (withAddress evmWallet) evmWallet.id ∧
    ¬Ready referenceDatabase referencePolicy (Fails fun _ => false) (fun c r => r = agree c)
      (withAddress solWallet) solWallet.id true ⟨UUID.ofByte 21, 0, 0⟩ := by
  refine ⟨by decide +kernel, by decide +kernel, ?_, ?_⟩
  · have hexec := pgDerive_exec deprecateFails (withAddress evmWallet) evmWallet true (UUID.ofByte 21)
    have herr : clungRotation.2.1 = .error ⟨"deprecate old address: driver: bad connection", none⟩ := by
      decide +kernel
    rw [← clungRotation, herr] at hexec
    exact (failed_rotation_keeps_active _ _ _ _ _ _ _ _).1 evm_ready _ _ _ hexec
  · intro hready
    have hexec := pgDerive_exec (fun _ => false) (withAddress solWallet) solWallet true (UUID.ofByte 21)
    rw [← solanaRotation, solanaRotation_fails] at hexec
    have hkept := ((failed_rotation_keeps_active _ _ _ _ _ _ _ _).2 (agree_responsive _)).mpr hready _ _ _ hexec
    revert hkept
    decide +kernel

/-- A Solana wallet derives the same address at the same index again, so that its rotation always fails, and
leaves it without an active address. No call to the database fails but the insert. -/
theorem solana_rotation_loses_active :
    (activeRow (withAddress solWallet) solWallet.id).isSome ∧
    ∃ tr err s', Exec (pgStep referenceDatabase (Fails fun _ => false) (fun c r => r = agree c))
        (referencePolicy.deriveAddress solWallet.id true ⟨UUID.ofByte 21, 0, 0⟩) (withAddress solWallet) tr
        (.error err) s' ∧
      activeRow s' solWallet.id = none := by
  have hexec := pgDerive_exec (fun _ => false) (withAddress solWallet) solWallet true (UUID.ofByte 21)
  rw [← solanaRotation, solanaRotation_fails] at hexec
  exact ⟨by decide +kernel, _, _, _, hexec, by decide +kernel⟩

end WalletManager.Proofs
