import WalletManager.Proofs.AddressRotation

/-!
# Concurrent first derivations

Any number of calls derive the first address of a wallet at the same time. Whoever gets the lock
first reads again that the wallet has no address and inserts one; everyone else finds that row,
or is denied the lock until its retries are used up.
-/

namespace WalletManager.Proofs

open Interaction

section Denials

variable {T : Type} [DecidableEq T]

def isDenial : Event Call Answer → Bool
  | ⟨.ext (.acquire _ _), .ok (_, false)⟩ => true
  | _ => false

def denialsOf (t : T) (log : List (T × Event Call Answer)) : Nat :=
  log.countP (fun e => e.1 = t ∧ isDenial e.2)

def Phase.denials : Phase → Option Nat
  | started | loaded _ => some 0
  | seen _ _ denials | denied _ _ denials => some denials
  | _ => none

lemma denialsOf_concat (t t' : T) (log : List (T × Event Call Answer)) (e : Event Call Answer) :
    denialsOf t (log ++ [(t', e)]) = denialsOf t log + if t' = t ∧ isDenial e then 1 else 0 := by
  simp [denialsOf, List.countP_append, List.countP_cons]

lemma countedAt_denials (w : Wallet) (n : Int) (token : String) :
    Phase.denials (countedAt w n token) = none := by
  unfold countedAt
  split <;> rfl

lemma Moves.denials {p : RotationPolicy} {q : Request} {g g' : Phase} {c : Call} {r : Answer c}
    (hm : Moves p q g c r g') {k n : Nat} (hn : ∀ k, Phase.denials g = some k → n = k)
    (hk : Phase.denials g' = some k) : (n + if isDenial ⟨c, r⟩ then 1 else 0) = k := by
  cases hm with
  | load | look | lookAgain =>
    cases hk
    exact hn _ rfl
  | @deny w active denials =>
    cases hk
    rw [hn denials rfl]
    rfl
  | assume | count =>
    rw [countedAt_denials] at hk
    cases hk
  | _ => cases hk

end Denials

section Setting

variable {T : Type} {p : RotationPolicy} {s₀ : Store} {w : Wallet} {fresh : T → Fresh}

/-- A wallet that is not retired and has no address, unused identifiers, a deriver that succeeds,
and addresses that are not due for rotation. -/
structure FirstSetting (p : RotationPolicy) (s₀ : Store) (w : Wallet) (fresh : T → Fresh) : Prop where
  row : s₀.wallets.lookup w.id = some w
  live : w.state ≠ .retired
  served : Served w.chain
  empty : ∀ id a, s₀.addresses.lookup id = some a → a.walletID ≠ w.id
  unused : ∀ t, (fresh t).addrID ∉ s₀.addresses
  derives : ∃ addr, uncachedAt p w.chain (s₀.nextAddressIndex w.chain.string 0) = .ok addr
  settled : ∀ t t' res, p.shouldRotate w (RotationPolicy.newAddress w (fresh t) res) (fresh t').since = false

def firstRequest (w : Wallet) (fresh : T → Fresh) (t : T) : Request := ⟨w.id, false, fresh t⟩

def withRow (s : Store) : Option Address → Store
  | none => s
  | some a => inserted s a

def Begun (γ : T → Phase) (row : Option Address) : Prop := row ≠ none ∨ ∃ t, Phase.token (γ t) ≠ none

def Consistent (s₀ : Store) (w : Wallet) (row : Option Address) (begun : Prop) : Phase → Prop
  | .started => True
  | .loaded w' => w' = w
  | .seen w' active denials => w' = w ∧ (∀ a, active = some a → row = some a) ∧ (0 < denials → begun)
  | .denied w' active _ => w' = w ∧ active = none ∧ begun
  | .locked w' active _ => w' = w ∧ active = none
  | .vacant w' _ => w' = w ∧ row = none
  | .counted w' n _ | .indexed w' n _ | .missed w' n _ | .derived w' n _ _ =>
    w' = w ∧ row = none ∧ n = s₀.nextAddressIndex w.chain.string 0
  | .kept w' a _ | .placed w' a _ => w' = w ∧ row = some a
  | .returned a => row = some a
  | .listed _ _ _ _ | .stuck _ _ | .failed | .foreign => False

lemma Consistent.wallet {row : Option Address} {begun : Prop} {g : Phase}
    (h : Consistent s₀ w row begun g) {w' : Wallet} (hw : Phase.wallet g = some w') : w' = w := by
  cases g with
  | started => cases hw
  | loaded => exact Option.some.inj hw ▸ h
  | seen | denied | locked | kept | vacant | counted | indexed | missed | derived | placed =>
    exact Option.some.inj hw ▸ h.1
  | returned => cases hw
  | listed | stuck | failed | foreign => exact h.elim

lemma Consistent.mono {row row' : Option Address} {begun begun' : Prop} {g : Phase}
    (h : Consistent s₀ w row begun g) (hbegun : begun → begun') (hrow : row = row' ∨ row = none ∧
      Phase.token g = none) : Consistent s₀ w row' begun' g := by
  have hsome : ∀ a, row = some a → row' = some a := by
    intro a ha
    rcases hrow with rfl | ⟨hnone, -⟩
    · exact ha
    · rw [hnone] at ha
      cases ha
  cases g with
  | started | loaded => exact h
  | seen => exact ⟨h.1, fun a ha => hsome a (h.2.1 a ha), fun hpos => hbegun (h.2.2 hpos)⟩
  | denied => exact ⟨h.1, h.2.1, hbegun h.2.2⟩
  | locked => exact h
  | kept | placed => exact ⟨h.1, hsome _ h.2⟩
  | returned => exact hsome _ h
  | vacant | counted | indexed | missed | derived =>
    rcases hrow with rfl | ⟨-, hfree⟩
    · exact h
    · cases hfree
  | listed | stuck | failed | foreign => exact h.elim

variable {γ : T → Phase} {log : List (T × Event Call Answer)} {W W' : World} {row : Option Address}

lemma withRow_wallets (s : Store) (row : Option Address) : (withRow s row).wallets = s.wallets := by
  cases row <;> rfl

lemma FirstSetting.active (hset : FirstSetting p s₀ w fresh)
    (horigin : ∀ a, row = some a → ∃ t res, a = RotationPolicy.newAddress w (fresh t) res) :
    ((withRow s₀ row).getActiveAddress w.id).toOption = row := by
  have honly : ∀ id a, (withRow s₀ row).addresses.lookup id = some a → a.walletID = w.id →
      row = some a := by
    intro id a ha hw
    cases row with
    | none => exact absurd hw (hset.empty id a ha)
    | some b =>
      rcases inserted_row ha with ⟨-, rfl⟩ | ha
      · rfl
      · exact absurd hw (hset.empty id a ha)
  cases hread : (withRow s₀ row).getActiveAddress w.id with
  | ok a =>
    obtain ⟨id, hid, hw, -⟩ := getActiveAddress_ok hread
    exact (honly id a hid hw).symm
  | error err =>
    cases row with
    | none => rfl
    | some a =>
      obtain ⟨t, res, rfl⟩ := horigin a rfl
      have hrow := (inserted_lookup s₀ (RotationPolicy.newAddress w (fresh t) res) _).trans (if_pos rfl)
      exact absurd rfl (getActiveAddress_error hread hrow rfl)

lemma FirstSetting.listAddresses (hset : FirstSetting p s₀ w fresh) {lib : Lib} (hsort : LawfulSort lib) :
    s₀.listAddresses lib w.id = [] := by
  have hnone : s₀.addressRows.filter (fun a => a.walletID = w.id) = [] := by
    rw [List.filter_eq_nil_iff]
    intro a ha
    obtain ⟨id, hid⟩ := mem_addressRows.mp ha
    simpa using hset.empty id a hid
  unfold Store.listAddresses
  rw [hnone]
  exact List.Perm.eq_nil (hsort.perm _ [])

variable [DecidableEq T]

structure FirstInv (s₀ : Store) (w : Wallet) (fresh : T → Fresh) (γ : T → Phase)
    (log : List (T × Event Call Answer)) (W : World) (row : Option Address) : Prop where
  store : W.store = withRow s₀ row
  origin : ∀ a, row = some a → ∃ t res, a = RotationPolicy.newAddress w (fresh t) res
  mutex : Mutex Phase.token γ (W.locker.locks.lookup (RotationPolicy.lockName w))
  slots : ∀ t, Consistent s₀ w row (Begun γ row) (γ t)
  denials : ∀ t k, Phase.denials (γ t) = some k → denialsOf t log = k

lemma FirstInv.move (h : FirstInv s₀ w fresh γ log W row) {lib : Lib} {t : T} {c : Call} {r : Answer c}
    {g' : Phase} (hm : Moves p (firstRequest w fresh t) (γ t) c r g') (hs : lockStep lib False W c r W')
    {row' : Option Address} (hrow : row = row' ∨ row = none ∧ Phase.token (γ t) ≠ none)
    (hstore : W'.store = withRow s₀ row')
    (horigin : ∀ a, row' = some a → ∃ t res, a = RotationPolicy.newAddress w (fresh t) res)
    (hkeep : row' = none → Phase.token (γ t) ≠ none → Phase.token g' ≠ none)
    (hg : Consistent s₀ w row' (Begun (Function.update γ t g') row') g') :
    FirstInv s₀ w fresh (Function.update γ t g') (log ++ [(t, ⟨c, r⟩)]) W' row' := by
  have hwallet : ∀ w', Phase.wallet (γ t) = some w' → w' = w := fun w' hw' => (h.slots t).wallet hw'
  have hforeign : γ t ≠ .foreign := by
    intro hf
    have := h.slots t
    rw [hf] at this
    exact this
  have hbegun : Begun γ row → Begun (Function.update γ t g') row' := by
    rintro (hsome | ⟨t', ht'⟩)
    · rcases hrow with rfl | ⟨hnone, -⟩
      · exact .inl hsome
      · exact absurd hnone hsome
    · by_cases hnone : row' = none
      · refine .inr ⟨t', ?_⟩
        by_cases htt : t' = t
        · subst htt
          rw [Function.update_self]
          exact hkeep hnone ht'
        · rw [Function.update_of_ne htt]
          exact ht'
      · exact .inl hnone
  refine ⟨hstore, horigin, hm.mutex hs hwallet hforeign h.mutex, ?_, ?_⟩
  · apply (Function.forall_update_iff γ (fun _ g => Consistent s₀ w row' _ g)).mpr
    refine ⟨hg, ?_⟩
    intro t' hne
    apply (h.slots t').mono hbegun
    rcases hrow with hsame | ⟨hnone, htoken⟩
    · exact .inl hsame
    · obtain ⟨token, ht⟩ := Option.ne_none_iff_exists'.mp htoken
      exact .inr ⟨hnone, h.mutex.others ht hne⟩
  · apply (Function.forall_update_iff γ (fun t' g => ∀ k, Phase.denials g = some k → denialsOf t' _ = k)).mpr
    constructor
    · intro k hk
      rw [denialsOf_concat]
      have hcount := hm.denials (h.denials t) hk
      simpa using hcount
    · intro t' hne k hk
      rw [denialsOf_concat, if_neg (fun hc => hne hc.1.symm), Nat.add_zero]
      exact h.denials t' k hk

lemma Begun.update {t : T} (hfree : Phase.token (γ t) = none) (g' : Phase) (h : Begun γ row) :
    Begun (Function.update γ t g') row := by
  rcases h with hsome | ⟨t', ht'⟩
  · exact .inl hsome
  · refine .inr ⟨t', ?_⟩
    rw [Function.update_of_ne]
    · exact ht'
    · rintro rfl
      exact ht' hfree

lemma FirstInv.read (h : FirstInv s₀ w fresh γ log W row) (hset : FirstSetting p s₀ w fresh) {lib : Lib}
    {r : Except Error Address} (hs : memStep lib W.store (.store (.getActiveAddress w.id)) r W'.store) :
    W'.store = W.store ∧ r.toOption = row := by
  obtain ⟨hstore, hr⟩ := getActiveAddress_step hs
  refine ⟨hstore, ?_⟩
  rw [hr, h.store]
  exact hset.active h.origin

lemma FirstInv.unread (h : FirstInv s₀ w fresh γ log W row) (hset : FirstSetting p s₀ w fresh) {t : T}
    {active : Option Address} (hactive : ∀ a, active = some a → row = some a)
    (hdue : ∀ a, active = some a → (firstRequest w fresh t).force ∨
      p.shouldRotate w a (firstRequest w fresh t).fresh.since) : active = none := by
  cases active with
  | none => rfl
  | some a =>
    obtain ⟨t', res, rfl⟩ := h.origin a (hactive a rfl)
    rcases hdue _ rfl with hforce | hrotate
    · cases hforce
    · cases (hset.settled t' t res).symm.trans hrotate

theorem FirstInv.step (hset : FirstSetting p s₀ w fresh) {lib : Lib} (hsort : LawfulSort lib)
    (h : FirstInv s₀ w fresh γ log W row) {t : T} {c : Call} {r : Answer c} {g' : Phase}
    (hm : Moves p (firstRequest w fresh t) (γ t) c r g') (hs : lockStep lib False W c r W') :
    ∃ row', FirstInv s₀ w fresh (Function.update γ t g') (log ++ [(t, ⟨c, r⟩)]) W' row' := by
  have hslot := h.slots t
  have hmem := lockStep_memStep hs
  have hrow : W.store.wallets.lookup w.id = some w := by rw [h.store, withRow_wallets, hset.row]
  -- a call that leaves the store alone
  have hsame : W'.store = W.store → (row = none → Phase.token (γ t) ≠ none → Phase.token g' ≠ none) →
      Consistent s₀ w row (Begun (Function.update γ t g') row) g' →
      ∃ row', FirstInv s₀ w fresh (Function.update γ t g') (log ++ [(t, ⟨c, r⟩)]) W' row' :=
    fun hstore hkeep hg => ⟨row, h.move hm hs (.inl rfl) (hstore.trans h.store) h.origin hkeep hg⟩
  have hplace : ∀ {a : Address}, row = none → Phase.token (γ t) ≠ none → W'.store = inserted s₀ a →
      (∃ t res, a = RotationPolicy.newAddress w (fresh t) res) →
      Consistent s₀ w (some a) (Begun (Function.update γ t g') (some a)) g' →
      ∃ row', FirstInv s₀ w fresh (Function.update γ t g') (log ++ [(t, ⟨c, r⟩)]) W' row' := by
    intro a hnone htoken hstore ha hg
    refine ⟨some a, h.move hm hs (.inr ⟨hnone, htoken⟩) hstore ?_ nofun hg⟩
    rintro _ ⟨⟩
    exact ha
  have hbegun : Phase.token (γ t) = none → Begun γ row → Begun (Function.update γ t g') row :=
    fun hfree hb => hb.update hfree g'
  have hmutex := h.mutex
  generalize hgt : γ t = g at hm hslot hsame hplace hbegun
  cases hm with
  | load hserved =>
    obtain ⟨hstore, hr⟩ := getWallet_step hmem hrow
    cases hr
    exact hsame hstore (fun _ hne => absurd rfl hne) rfl
  | leave hserved =>
    obtain ⟨-, hr⟩ := getWallet_step hmem hrow
    cases hr
    exact absurd hset.served hserved
  | unknown =>
    obtain ⟨-, hr⟩ := getWallet_step hmem hrow
    cases hr
  | wander => exact hslot.elim
  | look hlive =>
    obtain ⟨hstore, hr⟩ := h.read hset hmem
    refine hsame hstore (fun _ hne => absurd rfl hne) ⟨hslot, ?_, fun hpos => absurd hpos (lt_irrefl 0)⟩
    rw [hr]
    exact fun a ha => ha
  | @grant w' active n token hdue =>
    obtain ⟨rfl, hactive, -⟩ := hslot
    have hnone := h.unread hset hactive (fun a ha => (hdue a ha).2)
    exact hsame hmem (fun _ hne => absurd rfl hne) ⟨rfl, hnone⟩
  | @deny w' active n token hdue =>
    obtain ⟨rfl, hactive, -⟩ := hslot
    have hnone := h.unread hset hactive (fun a ha => (hdue a ha).2)
    rcases hs with ⟨token', hlocker, -⟩ | ⟨hf, -⟩
    · refine hsame hmem (fun _ hne => absurd rfl hne) ⟨rfl, hnone, hbegun rfl (.inr ?_)⟩
      obtain ⟨k, hk⟩ := Option.ne_none_iff_exists'.mp
        (fun hn => AList.lookup_eq_none.mp hn (acquire_denied hlocker).1)
      obtain ⟨t', ht'⟩ := hmutex.owned k hk
      exact ⟨t', by rw [ht']; exact nofun⟩
    · exact hf.elim
  | unlockable =>
    rcases hs with ⟨token', hlocker, -⟩ | ⟨hf, -⟩
    · exact absurd hlocker acquire_ne_error
    · exact hf.elim
  | lookAgain =>
    obtain ⟨rfl, -, hb⟩ := hslot
    obtain ⟨hstore, hr⟩ := h.read hset hmem
    refine hsame hstore (fun _ hne => absurd rfl hne) ⟨rfl, ?_, fun _ => hbegun rfl hb⟩
    rw [hr]
    exact fun a ha => ha
  | keep =>
    obtain ⟨rfl, -⟩ := hslot
    obtain ⟨hstore, hr⟩ := h.read hset hmem
    exact hsame hstore (fun _ _ => nofun) ⟨rfl, hr.symm⟩
  | find =>
    obtain ⟨rfl, -⟩ := hslot
    obtain ⟨hstore, hr⟩ := h.read hset hmem
    exact hsame hstore (fun _ _ => nofun) ⟨rfl, hr.symm⟩
  | retire | cling => cases hslot.2
  | assume hforce => cases hforce
  | count =>
    obtain ⟨rfl, hnone⟩ := hslot
    obtain ⟨hr, hstore⟩ := Prod.mk.inj hmem
    have hn := Except.ok.inj hr
    refine hsame hstore (fun _ _ => by rw [countedAt_token]; exact nofun) ?_
    rw [h.store, hnone] at hn
    unfold countedAt
    split <;> exact ⟨rfl, hnone, hn⟩
  | listNone => exact hsame (congrArg Prod.snd hmem) (fun _ _ => nofun) hslot
  | listSome =>
    obtain ⟨rfl, hnone, -⟩ := hslot
    have hr := congrArg Prod.fst hmem
    dsimp only [Store.handle] at hr
    rw [h.store, hnone] at hr
    cases hr.trans (congrArg Except.ok (hset.listAddresses hsort))
  | clear | clash => exact hslot.elim
  | hit | miss | fill => exact hsame hmem (fun _ _ => nofun) hslot
  | abandon herr =>
    obtain ⟨rfl, -, rfl⟩ := hslot
    obtain ⟨addr, haddr⟩ := hset.derives
    rw [haddr] at herr
    cases herr
  | place =>
    obtain ⟨rfl, hnone, -⟩ := hslot
    obtain ⟨-, -, hstore⟩ := insertAddress_ok rfl hmem
    rw [h.store, hnone] at hstore
    exact hplace hnone nofun hstore ⟨t, _, rfl⟩ ⟨rfl, rfl⟩
  | collide =>
    obtain ⟨rfl, hnone, -⟩ := hslot
    obtain ⟨-, hwhy⟩ := insertAddress_error hmem
    rw [h.store, hnone] at hwhy
    rcases hwhy with hold | ⟨id, b, hb, hw, -⟩
    · exact absurd hold (hset.unused t)
    · exact absurd hw (hset.empty id b hb)
  | announce => exact hsame hmem (fun _ _ => nofun) hslot
  | finish =>
    refine hsame hmem (fun hnone _ => ?_) hslot.2
    rw [hnone] at hslot
    cases hslot.2
  | settle =>
    refine hsame hmem (fun hnone _ => ?_) hslot.2
    rw [hnone] at hslot
    cases hslot.2
  | giveUp => exact hslot.elim

end Setting

section Runs

variable {T : Type} [DecidableEq T] {lib : Lib} {p : RotationPolicy} {s₀ : Store} {w : Wallet}
  {fresh : T → Fresh} {P : Pool T Call Answer (Except Error Address) World}

def firstCalls (p : RotationPolicy) (s₀ : Store) (w : Wallet) (fresh : T → Fresh) :
    Pool T Call Answer (Except Error Address) World :=
  Pool.start ⟨s₀, {}⟩ (fun t => (firstRequest w fresh t).proc p)

lemma firstInv_start : FirstInv s₀ w fresh (fun _ : T => .started) [] ⟨s₀, {}⟩ none := by
  refine ⟨rfl, nofun, Mutex.free (fun _ => rfl), fun _ => trivial, ?_⟩
  rintro t k ⟨⟩
  rfl

lemma firstInv_leads (hset : FirstSetting p s₀ w fresh) (hsort : LawfulSort lib)
    (h : Pool.Leads (lockStep lib False) (fun _ _ _ _ => True) (firstCalls p s₀ w fresh) P) :
    ∃ γ row, FirstInv s₀ w fresh γ P.log P.shared row ∧ ∀ t r, P.threads t = some (.ret r) →
      Returned p (firstRequest w fresh t) (γ t) r := by
  obtain ⟨γ, ⟨row, hrow⟩, hreturned⟩ := requests_lead
    (J := fun γ log W => ∃ row, FirstInv s₀ w fresh γ log W row)
    (fun _ _ _ _ hs => memStep_possible (lockStep_memStep hs))
    ⟨none, firstInv_start⟩ (fun γ log W t c r W' g' hJ hm _ hs => by
      obtain ⟨row, hrow⟩ := hJ
      exact hrow.step hset hsort hm hs) h
  exact ⟨γ, row, hrow, hreturned⟩

lemma Returned.token {q : Request} {g : Phase} {r : Except Error Address} (h : Returned p q g r) :
    Phase.token g = none := by
  cases g <;> first | rfl | exact h.elim

lemma FirstInv.returned (hset : FirstSetting p s₀ w fresh) {γ : T → Phase}
    {log : List (T × Event Call Answer)} {W : World} {row : Option Address}
    (h : FirstInv s₀ w fresh γ log W row) {t : T} {r : Except Error Address}
    (hr : Returned p (firstRequest w fresh t) (γ t) r) :
    (∃ a, r = .ok a ∧ row = some a) ∨
      (r = .error errRotationInProgress ∧ denialsOf t log = 20 ∧ Begun γ row) := by
  have hslot := h.slots t
  have hcount := h.denials t
  generalize γ t = g at hr hslot hcount
  cases g with
  | loaded w' =>
    obtain ⟨hretired, -⟩ := hr
    exact absurd (hslot ▸ hretired) hset.live
  | seen w' active denials =>
    cases active with
    | some a => exact .inl ⟨a, hr.1, hslot.2.1 a rfl⟩
    | none =>
      obtain ⟨rfl, -, rfl⟩ := hr
      exact .inr ⟨rfl, hcount 20 rfl, hslot.2.2 (by omega)⟩
  | denied w' active denials =>
    rcases hr.2 with hforce | hsome
    · cases hforce
    · exact absurd hslot.2.1 hsome
  | returned a => exact .inl ⟨a, hr, hslot⟩
  | failed | foreign => exact hslot.elim
  | _ => exact hr.elim

lemma FirstInv.rows (hset : FirstSetting p s₀ w fresh) {γ : T → Phase}
    {log : List (T × Event Call Answer)} {W : World} {row : Option Address}
    (h : FirstInv s₀ w fresh γ log W row) {id : UUID} {a : Address} :
    W.store.addresses.lookup id = some a ∧ a.walletID = w.id ↔ row = some a ∧ id = a.id := by
  rw [h.store]
  cases row with
  | none =>
    constructor
    · rintro ⟨ha, hw⟩
      exact absurd hw (hset.empty id a ha)
    · rintro ⟨⟨⟩, -⟩
  | some b =>
    constructor
    · rintro ⟨ha, hw⟩
      rcases inserted_row ha with ⟨rfl, rfl⟩ | ha
      · exact ⟨rfl, rfl⟩
      · exact absurd hw (hset.empty id a ha)
    · rintro ⟨⟨⟩, rfl⟩
      obtain ⟨t, res, rfl⟩ := h.origin _ rfl
      exact ⟨(inserted_lookup _ _ _).trans (if_pos rfl), rfl⟩

/-- Any number of calls on a fresh wallet: it never has more than one address, it has one once all
calls have returned, and a call returns that address or has been denied the lock twenty times. -/
theorem first_derivation_is_shared [Nonempty T] (hset : FirstSetting p s₀ w fresh) (hsort : LawfulSort lib)
    (h : Pool.Leads (lockStep lib False) (fun _ _ _ _ => True) (firstCalls p s₀ w fresh) P) :
    let row := fun (id : UUID) (a : Address) =>
      P.shared.store.addresses.lookup id = some a ∧ a.walletID = w.id
    (∀ i j a b, row i a → row j b → i = j) ∧
    ((∀ t, ∃ r, P.threads t = some (.ret r)) → ∃ a, row a.id a) ∧
    ∀ t r, P.threads t = some (.ret r) → (∃ a, r = .ok a ∧ row a.id a) ∨
      r = .error errRotationInProgress ∧ denialsOf t P.log = 20 := by
  dsimp only
  obtain ⟨γ, row, hinv, hreturned⟩ := firstInv_leads hset hsort h
  refine ⟨?_, ?_, ?_⟩
  · intro i j a b ha hb
    obtain ⟨harow, rfl⟩ := (hinv.rows hset).mp ha
    obtain ⟨hbrow, rfl⟩ := (hinv.rows hset).mp hb
    rw [Option.some.inj (harow.symm.trans hbrow)]
  · intro hall
    have hrow : row ≠ none := by
      obtain ⟨t⟩ := ‹Nonempty T›
      obtain ⟨r, hr⟩ := hall t
      rcases hinv.returned hset (hreturned t r hr) with ⟨a, -, ha⟩ | ⟨-, -, hsome | ⟨t', ht'⟩⟩
      · rw [ha]
        exact nofun
      · exact hsome
      · -- the holder of the lock would still be running
        obtain ⟨r', hr'⟩ := hall t'
        exact absurd (hreturned t' r' hr').token ht'
    obtain ⟨a, ha⟩ := Option.ne_none_iff_exists'.mp hrow
    exact ⟨a, (hinv.rows hset).mpr ⟨ha, rfl⟩⟩
  · intro t r hr
    rcases hinv.returned hset (hreturned t r hr) with ⟨a, rfl, ha⟩ | ⟨hr, hdenials, -⟩
    · exact .inl ⟨a, rfl, (hinv.rows hset).mpr ⟨ha, rfl⟩⟩
    · exact .inr ⟨hr, hdenials⟩

def lockAnswer (answers : (c : ExtCall) → c.Answer) (W : World) : (c : Call) → Answer c × World
  | .ext (.acquire name _) =>
    ((W.locker.acquire name "token").1, { W with locker := (W.locker.acquire name "token").2 })
  | .ext (.release name token) =>
    ((W.locker.release name token).1, { W with locker := (W.locker.release name token).2 })
  | c => ((answering answers W.store c).1, { W with store := (answering answers W.store c).2 })

lemma lockAnswer_lockStep (answers : (c : ExtCall) → c.Answer) (denials : Prop) (W : World) (c : Call) :
    lockStep referenceLib denials W c (lockAnswer answers W c).1 (lockAnswer answers W c).2 := by
  cases c with
  | store c => exact ⟨rfl, rfl⟩
  | ext c =>
    cases c with
    | acquire name ttl => exact .inl ⟨"token", rfl, rfl⟩
    | release name token => exact ⟨rfl, rfl⟩
    | _ => exact ⟨rfl, rfl⟩

def pairFresh : Bool → Fresh
  | false => ⟨UUID.ofByte 20, 200, 100⟩
  | true => ⟨UUID.ofByte 21, 200, 100⟩

def sharedPool : Pool Bool Call Answer (Except Error Address) World :=
  (firstCalls referencePolicy (Store.initial [evmWallet] []) evmWallet pairFresh).schedule
    (fun _ _ _ _ => true) (lockAnswer agree)
    [false, false, true, true, false, true, false, false, false, false, false, false, true]

lemma sharedPool_leads :
    Pool.Leads (lockStep referenceLib False) (fun _ _ _ _ => True)
      (firstCalls referencePolicy (Store.initial [evmWallet] []) evmWallet pairFresh) sharedPool :=
  Pool.Leads.schedule (fun _ _ _ _ _ => trivial) (lockAnswer_lockStep agree False) .refl _

def returnedID (P : Pool Bool Call Answer (Except Error Address) World) (t : Bool) :
    Option (Except Error UUID) :=
  match P.threads t with
  | some (.ret r) => some (r.map Address.id)
  | _ => none

lemma firstSetting_pair :
    FirstSetting referencePolicy (Store.initial [evmWallet] []) evmWallet pairFresh := by
  refine ⟨by decide, by decide, .inl (.inl rfl), nofun, nofun, ⟨evmFirst, by decide +kernel⟩, ?_⟩
  intro t t' res
  cases t <;> cases t' <;> rfl

theorem first_derivation_is_shared_pair :
    (∀ t, returnedID sharedPool t = some (.ok (UUID.ofByte 20))) ∧
      denialsOf true sharedPool.log = 1 ∧
      ∃ a, sharedPool.shared.store.addresses.lookup a.id = some a ∧ a.walletID = evmWallet.id := by
  have hreturned : (∀ t, returnedID sharedPool t = some (.ok (UUID.ofByte 20))) ∧
      denialsOf true sharedPool.log = 1 := by decide +kernel
  refine ⟨hreturned.1, hreturned.2, ?_⟩
  refine (first_derivation_is_shared firstSetting_pair referenceLib_sorts sharedPool_leads).2.1 ?_
  intro t
  have ht := hreturned.1 t
  unfold returnedID at ht
  split at ht
  · rename_i r hr
    exact ⟨r, hr⟩
  · cases ht

end Runs

end WalletManager.Proofs
