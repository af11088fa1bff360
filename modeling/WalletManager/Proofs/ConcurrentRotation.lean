import WalletManager.Proofs.FirstDerivation

/-!
# Concurrent rotations

Any number of calls rotate the address of one wallet at the same time. A rotation retires the
address that it has read before it got the lock; if that is not the active one any more, the
insertion of the new address fails.
-/

namespace WalletManager.Proofs

open Interaction

section Readings

variable {T : Type}

def readOf : Event Call Answer → Option (Except Error Address)
  | ⟨.store (.getActiveAddress _), r⟩ => some r
  | _ => none

/-- The slot has read the address as the active one, or has inserted it. -/
def Evidence (walletID : UUID) (t : T) (log : List (T × Event Call Answer)) (a : Address) : Prop :=
  (t, ⟨.store (.getActiveAddress walletID), .ok a⟩) ∈ log ∨
  (a.walletID = walletID ∧ a.state = .active ∧ (t, ⟨.store (.insertAddress a a.createdAt), .ok ()⟩) ∈ log)

lemma Evidence.append {walletID : UUID} {t : T} {log : List (T × Event Call Answer)} {a : Address}
    (h : Evidence walletID t log a) (e : T × Event Call Answer) : Evidence walletID t (log ++ [e]) a := by
  rcases h with hread | ⟨hw, hactive, hplaced⟩
  · exact .inl (List.mem_append_left _ hread)
  · exact .inr ⟨hw, hactive, List.mem_append_left _ hplaced⟩

variable [DecidableEq T]

def lastRead (t : T) (log : List (T × Event Call Answer)) : Option (Except Error Address) :=
  (log.filterMap (fun e => if e.1 = t then readOf e.2 else none)).getLast?

lemma lastRead_concat (t t' : T) (log : List (T × Event Call Answer)) (e : Event Call Answer) :
    lastRead t (log ++ [(t', e)]) = if t' = t then (readOf e).or (lastRead t log) else lastRead t log := by
  unfold lastRead
  rw [List.filterMap_append, List.getLast?_append]
  by_cases htt : t' = t
  · rw [if_pos htt]
    cases hread : readOf e with
    | none => simp [htt, hread]
    | some r => simp [htt, hread]
  · rw [if_neg htt]
    simp [htt]

/-- The index range of the deriver is not used up, and a call that is about to be granted the lock,
and that is forced or has read an active address, has read what `GetActiveAddress` gives. -/
def ReadsCurrent (w : Wallet) (q : T → Request) (log : List (T × Event Call Answer)) (W : World) (t : T) :
    Call → Prop
  | .ext (.acquire name _) => name ∈ W.locker.locks ∨
    ∀ r ∈ lastRead t log, (q t).force ∨ r.toOption ≠ none → W.store.getActiveAddress w.id = r
  | .store (.nextAddressIndex chain change) => W.store.nextAddressIndex chain change < 2 ^ 31
  | _ => True

instance (w : Wallet) (q : T → Request) (log : List (T × Event Call Answer)) (W : World) (t : T) (c : Call) :
    Decidable (ReadsCurrent w q log W t c) := by
  unfold ReadsCurrent
  split <;> infer_instance

end Readings

section Setting

variable {T : Type} {p : RotationPolicy} {s₀ : Store} {w : Wallet} {q : T → Request}

def SingleActive (s : Store) (walletID : UUID) : Prop :=
  ∀ i j a b, s.addresses.lookup i = some a → s.addresses.lookup j = some b → a.walletID = walletID →
    b.walletID = walletID → a.state = .active → b.state = .active → i = j

def Vacant (s : Store) (walletID : UUID) : Prop :=
  ∀ id a, s.addresses.lookup id = some a → a.walletID = walletID → a.state ≠ .active

lemma SingleActive.rewrites {s s' : Store} {walletID : UUID} (h : SingleActive s walletID)
    (hrows : Rewrites s s') : SingleActive s' walletID := by
  intro i j a' b' ha' hb' hwa hwb hactive hactive'
  obtain ⟨a, ha, haa⟩ := hrows.only i a' ha'
  obtain ⟨b, hb, hbb⟩ := hrows.only j b' hb'
  exact h i j a b ha hb (haa.walletID ▸ hwa) (hbb.walletID ▸ hwb) (haa.active hactive) (hbb.active hactive')

lemma Vacant.insert {s : Store} {walletID : UUID} (h : Vacant s walletID) (a : Address) :
    SingleActive (inserted s a) walletID := by
  intro i j b c hb hc hwb hwc hactive hactive'
  rcases inserted_row hb with ⟨rfl, -⟩ | hb
  · rcases inserted_row hc with ⟨rfl, -⟩ | hc
    · rfl
    · exact absurd hactive' (h j c hc hwc)
  · exact absurd hactive (h i b hb hwb)

lemma vacant_of_read {s : Store} {walletID : UUID}
    (h : (s.getActiveAddress walletID).toOption = none) : Vacant s walletID := by
  intro id a ha hw
  cases hread : s.getActiveAddress walletID with
  | error err => exact getActiveAddress_error hread ha hw
  | ok b =>
    rw [hread] at h
    cases h

lemma SingleActive.retire {s : Store} {walletID : UUID} (h : SingleActive s walletID) {a : Address}
    (hrow : s.addresses.lookup a.id = some a) (hw : a.walletID = walletID) (hactive : a.state = .active) :
    Vacant (s.deprecateAddress a.id).2 walletID := by
  intro id b hb hwb hb'
  rw [Store.deprecateAddress, updateAddress_lookup] at hb
  split at hb
  · rw [hrow] at hb
    cases hb
    cases hb'
  · rename_i hne
    exact hne (h id a.id b a hb hrow hwb hw hb' hactive)

/-- Calls on one wallet, which is not retired and has at most one active address, with unused
identifiers and a deriver that succeeds on its whole range. -/
structure RotationSetting (p : RotationPolicy) (s₀ : Store) (w : Wallet) (q : T → Request) : Prop where
  row : s₀.wallets.lookup w.id = some w
  live : w.state ≠ .retired
  indexed : Indexed w.chain
  same : ∀ t, (q t).walletID = w.id
  keyed : ∀ id a, s₀.addresses.lookup id = some a → a.id = id
  single : SingleActive s₀ w.id
  unused : ∀ t, (q t).fresh.addrID ∉ s₀.addresses
  distinct : ∀ t t', (q t).fresh.addrID = (q t').fresh.addrID → t = t'
  derives : ∀ n, 0 ≤ n → n < 2 ^ 31 → ∃ addr, uncachedAt p w.chain n = .ok addr

def Phase.inserted : Phase → Prop
  | placed _ _ _ | returned _ => True
  | _ => False

lemma Moves.inserted {q : Request} {g g' : Phase} {c : Call} {r : Answer c} (hm : Moves p q g c r g')
    (h : Phase.inserted g) : Phase.inserted g' := by
  cases hm <;> first | exact h.elim | trivial

def Current (w : Wallet) (q : Request) (s : Store) : Phase → Prop
  | .started | .returned _ => True
  | .loaded w' | .seen w' _ _ | .denied w' _ _ | .kept w' _ _ | .placed w' _ _ => w' = w
  | .locked w' active _ => w' = w ∧
    (q.force ∨ active ≠ none → (s.getActiveAddress w.id).toOption = active)
  | .vacant w' _ => w' = w ∧ Vacant s w.id
  | .indexed w' n _ | .missed w' n _ | .derived w' n _ _ =>
    w' = w ∧ Vacant s w.id ∧ 0 ≤ n ∧ n < 2 ^ 31
  | .counted _ _ _ | .listed _ _ _ _ | .stuck _ _ | .failed | .foreign => False

lemma Current.wallet {q : Request} {s : Store} {g : Phase} (h : Current w q s g) {w' : Wallet}
    (hw : Phase.wallet g = some w') : w' = w := by
  cases g with
  | started | returned => cases hw
  | loaded | seen | denied | kept | placed => exact Option.some.inj hw ▸ h
  | locked | vacant | indexed | missed | derived => exact Option.some.inj hw ▸ h.1
  | counted | listed | stuck | failed | foreign => exact h.elim

lemma Current.unlocked {q : Request} {s s' : Store} {g : Phase} (h : Current w q s g)
    (hfree : Phase.token g = none) : Current w q s' g := by
  cases g with
  | locked | vacant | indexed | missed | derived => cases hfree
  | _ => exact h

/-- The table under rotations: the rows are under their own identifiers, the wallet has at most
one active one, and those that were not there at first have been inserted by a call. -/
structure RotationTable (s₀ : Store) (w : Wallet) (q : T → Request) (γ : T → Phase) (s : Store) : Prop where
  wallets : s.wallets = s₀.wallets
  keyed : ∀ id a, s.addresses.lookup id = some a → a.id = id
  single : SingleActive s w.id
  ids : ∀ id a, s.addresses.lookup id = some a →
    id ∈ s₀.addresses ∨ ∃ t, id = (q t).fresh.addrID ∧ Phase.inserted (γ t)

variable {γ : T → Phase} {log : List (T × Event Call Answer)} {W W' : World} {t : T}

variable [DecidableEq T]

lemma RotationTable.ids_update {s : Store} (h : RotationTable s₀ w q γ s) {g' : Phase}
    (hg : Phase.inserted (γ t) → Phase.inserted g') {id : UUID} {a : Address}
    (ha : s.addresses.lookup id = some a) :
    id ∈ s₀.addresses ∨ ∃ t', id = (q t').fresh.addrID ∧ Phase.inserted (Function.update γ t g' t') := by
  rcases h.ids id a ha with hold | ⟨t', hid, hins⟩
  · exact .inl hold
  · refine .inr ⟨t', hid, ?_⟩
    by_cases htt : t' = t
    · subst htt
      rw [Function.update_self]
      exact hg hins
    · rw [Function.update_of_ne htt]
      exact hins

lemma RotationTable.rewrites {s s' : Store} (h : RotationTable s₀ w q γ s) {g' : Phase}
    (hg : Phase.inserted (γ t) → Phase.inserted g') (hrows : Rewrites s s') (hwallets : s'.wallets = s.wallets) :
    RotationTable s₀ w q (Function.update γ t g') s' := by
  refine ⟨hwallets.trans h.wallets, hrows.keyed h.keyed, h.single.rewrites hrows, ?_⟩
  intro id b hb
  obtain ⟨a, ha, -⟩ := hrows.only id b hb
  exact h.ids_update hg ha

lemma RotationTable.insert {s : Store} (h : RotationTable s₀ w q γ s) {g' : Phase} {a : Address}
    (hvacant : Vacant s w.id) (hid : a.id = (q t).fresh.addrID) (hg : Phase.inserted g') :
    RotationTable s₀ w q (Function.update γ t g') (Proofs.inserted s a) := by
  refine ⟨h.wallets, keyed_inserted h.keyed a, hvacant.insert a, ?_⟩
  intro id b hb
  rcases inserted_row hb with ⟨rfl, rfl⟩ | hb
  · refine .inr ⟨t, hid, ?_⟩
    rw [Function.update_self]
    exact hg
  · exact h.ids_update (fun _ => hg) hb

def Logged (walletID : UUID) (t : T) (log : List (T × Event Call Answer)) : Phase → Prop
  | .seen _ active _ => (∃ r, lastRead t log = some r ∧ r.toOption = active) ∧
    ∀ a, active = some a → Evidence walletID t log a
  | .kept _ a _ | .placed _ a _ | .returned a => Evidence walletID t log a
  | _ => True

lemma Logged.other {walletID : UUID} {g : Phase} (h : Logged walletID t log g) {t' : T} (hne : t' ≠ t)
    (e : Event Call Answer) : Logged walletID t (log ++ [(t', e)]) g := by
  cases g with
  | seen =>
    obtain ⟨⟨r, hr, hactive⟩, hev⟩ := h
    refine ⟨⟨r, ?_, hactive⟩, fun a ha => (hev a ha).append _⟩
    rw [lastRead_concat, if_neg hne]
    exact hr
  | kept | placed | returned => exact Evidence.append h _
  | _ => trivial

structure RotationInv (s₀ : Store) (w : Wallet) (q : T → Request) (γ : T → Phase)
    (log : List (T × Event Call Answer)) (W : World) : Prop where
  table : RotationTable s₀ w q γ W.store
  mutex : Mutex Phase.token γ (W.locker.locks.lookup (RotationPolicy.lockName w))
  slots : ∀ t, Current w (q t) W.store (γ t)
  logged : ∀ t, Logged w.id t log (γ t)
  clean : ∀ t a now err, (t, (⟨.store (.insertAddress a now), .error err⟩ : Event Call Answer)) ∉ log

lemma Moves.not_collided {q : Request} {g g' : Phase} {c : Call} {r : Answer c} (hm : Moves p q g c r g')
    {s : Store} (hg : Current w q s g') {a : Address} {now : Int} {err : Error} :
    (⟨.store (.insertAddress a now), .error err⟩ : Event Call Answer) ≠ ⟨c, r⟩ := by
  rintro heq
  cases hm <;> first | exact hg.elim | cases heq

lemma RotationInv.move (h : RotationInv s₀ w q γ log W) {lib : Lib} {c : Call} {r : Answer c} {g' : Phase}
    (hm : Moves p (q t) (γ t) c r g') (hs : lockStep lib True W c r W')
    (hstore : W'.store = W.store ∨ Phase.token (γ t) ≠ none)
    (htable : RotationTable s₀ w q (Function.update γ t g') W'.store)
    (hg : Current w (q t) W'.store g') (hlogged : Logged w.id t (log ++ [(t, ⟨c, r⟩)]) g') :
    RotationInv s₀ w q (Function.update γ t g') (log ++ [(t, ⟨c, r⟩)]) W' := by
  have hwallet : ∀ w', Phase.wallet (γ t) = some w' → w' = w := fun w' hw' => (h.slots t).wallet hw'
  have hforeign : γ t ≠ .foreign := by
    intro hf
    have hslot := h.slots t
    rw [hf] at hslot
    exact hslot
  refine ⟨htable, hm.mutex hs hwallet hforeign h.mutex, ?_, ?_, ?_⟩
  · apply (Function.forall_update_iff γ (fun t' g => Current w (q t') W'.store g)).mpr
    refine ⟨hg, ?_⟩
    intro t' hne
    rcases hstore with hsame | htoken
    · rw [hsame]
      exact h.slots t'
    · obtain ⟨token, ht⟩ := Option.ne_none_iff_exists'.mp htoken
      exact (h.slots t').unlocked (h.mutex.others ht hne)
  · apply (Function.forall_update_iff γ (fun t' g => Logged w.id t' _ g)).mpr
    exact ⟨hlogged, fun t' hne => (h.logged t').other hne.symm _⟩
  · intro t' a now err hmem
    rcases List.mem_append.mp hmem with hmem | hmem
    · exact h.clean t' a now err hmem
    · exact hm.not_collided hg (Prod.mk.inj (List.mem_singleton.mp hmem)).2

lemma logged_read (walletID : UUID) (r : Except Error Address) (w' : Wallet) (denials : Nat) :
    Logged walletID t (log ++ [(t, ⟨.store (.getActiveAddress walletID), r⟩)]) (.seen w' r.toOption denials) := by
  constructor
  · refine ⟨r, ?_, rfl⟩
    rw [lastRead_concat, if_pos rfl]
    rfl
  · intro a ha
    rw [toOption_eq_some ha]
    exact .inl (List.mem_append_right _ (List.mem_singleton_self _))

lemma RotationSetting.counted (hset : RotationSetting p s₀ w q) {lib : Lib}
    {n : Int} {token : String}
    (hs : memStep lib W.store (.store (.nextAddressIndex w.chain.string 0)) (.ok n) W'.store)
    (hrange : W.store.nextAddressIndex w.chain.string 0 < 2 ^ 31) (hvacant : Vacant W.store w.id) :
    W'.store = W.store ∧ Current w (q t) W.store (countedAt w n token) ∧
      Logged w.id t (log ++ [(t, ⟨.store (.nextAddressIndex w.chain.string 0), .ok n⟩)])
        (countedAt w n token) := by
  have hn : n = W.store.nextAddressIndex w.chain.string 0 := Except.ok.inj (congrArg Prod.fst hs)
  rw [countedAt, if_neg hset.indexed.ne_solana]
  refine ⟨congrArg Prod.snd hs, ⟨rfl, hvacant, ?_, ?_⟩, trivial⟩
  · rw [hn]
    exact nextAddressIndex_nonneg _ _ _
  · rw [hn]
    exact hrange

theorem RotationInv.step (hset : RotationSetting p s₀ w q) {lib : Lib} (h : RotationInv s₀ w q γ log W)
    {c : Call} {r : Answer c} {g' : Phase} (hm : Moves p (q t) (γ t) c r g')
    (hok : ReadsCurrent w q log W t c) (hs : lockStep lib True W c r W') :
    RotationInv s₀ w q (Function.update γ t g') (log ++ [(t, ⟨c, r⟩)]) W' := by
  have hslot := h.slots t
  have hlogged := h.logged t
  have hmem := lockStep_memStep hs
  have hsame : W'.store = W.store → Current w (q t) W.store g' →
      Logged w.id t (log ++ [(t, ⟨c, r⟩)]) g' →
      RotationInv s₀ w q (Function.update γ t g') (log ++ [(t, ⟨c, r⟩)]) W' := by
    intro hstore hg hlog
    refine h.move hm hs (.inl hstore) ?_ (hstore ▸ hg) hlog
    rw [hstore]
    exact h.table.rewrites hm.inserted (.of_addresses rfl) rfl
  have hmove := fun htoken => h.move hm hs (.inr htoken)
  have hins := hm.inserted
  have hids : ∀ {id a}, W.store.addresses.lookup id = some a → id = (q t).fresh.addrID →
      Phase.inserted (γ t) := by
    intro id a ha hid
    rcases h.table.ids id a ha with hold | ⟨t', hid', hdone⟩
    · exact absurd (hid ▸ hold) (hset.unused t)
    · rw [hset.distinct t t' (hid.symm.trans hid')]
      exact hdone
  have hwallet : W.store.wallets.lookup (q t).walletID = some w := by
    rw [h.table.wallets, hset.same, hset.row]
  generalize hgt : γ t = g at hm hslot hlogged hsame hmove hins hids
  cases hm with
  | load hserved =>
    obtain ⟨hstore, hr⟩ := getWallet_step hmem hwallet
    cases hr
    exact hsame hstore rfl trivial
  | leave hserved =>
    obtain ⟨-, hr⟩ := getWallet_step hmem hwallet
    cases hr
    exact absurd (.inl hset.indexed) hserved
  | unknown =>
    obtain ⟨-, hr⟩ := getWallet_step hmem hwallet
    cases hr
  | wander => exact hslot.elim
  | look hlive =>
    obtain ⟨hstore, -⟩ := getActiveAddress_step hmem
    refine hsame hstore hslot ?_
    rw [hset.same]
    exact logged_read _ _ _ _
  | @grant w' active n token hdue =>
    obtain rfl : w' = w := hslot
    obtain ⟨⟨r, hread, rfl⟩, -⟩ := hlogged
    rcases hs with ⟨token', hlocker, -⟩ | ⟨-, ⟨token', hr⟩, -⟩
    · refine hsame hmem ⟨rfl, ?_⟩ trivial
      rcases hok with hheld | hcurrent
      · exact absurd hheld (acquire_granted hlocker).1
      · intro hneed
        rw [hcurrent r hread hneed]
    · cases hr
  | deny hdue => exact hsame hmem hslot trivial
  | unlockable =>
    rcases hs with ⟨token', hlocker, -⟩ | ⟨-, ⟨token', hr⟩, -⟩
    · exact absurd hlocker acquire_ne_error
    · cases hr
  | @lookAgain w' =>
    obtain rfl : w' = w := hslot
    obtain ⟨hstore, -⟩ := getActiveAddress_step hmem
    exact hsame hstore rfl (logged_read _ _ _ _)
  | @keep w' =>
    obtain rfl : w' = w := hslot.1
    obtain ⟨hstore, -⟩ := getActiveAddress_step hmem
    exact hsame hstore rfl (.inl (List.mem_append_right _ (List.mem_singleton_self _)))
  | @find w' =>
    obtain rfl : w' = w := hslot.1
    obtain ⟨hstore, hr⟩ := getActiveAddress_step hmem
    exact hsame hstore ⟨rfl, vacant_of_read (by rw [← hr]; rfl)⟩ trivial
  | @retire w' a =>
    obtain ⟨rfl, hread⟩ := hslot
    obtain ⟨hrow, hw, hactive⟩ := getActiveAddress_row h.table.keyed (toOption_eq_some (hread (.inr nofun)))
    have hstore : W'.store = (W.store.deprecateAddress a.id).2 := congrArg Prod.snd hmem
    refine hmove nofun ?_ ⟨rfl, ?_⟩ trivial
    · rw [hstore]
      exact h.table.rewrites (hgt ▸ hins) (deprecateAddress_rewrites _ _) (updateAddress_wallets _)
    · rw [hstore]
      exact h.table.single.retire hrow hw hactive
  | @cling w' a =>
    obtain ⟨rfl, hread⟩ := hslot
    obtain ⟨hrow, -, -⟩ := getActiveAddress_row h.table.keyed (toOption_eq_some (hread (.inr nofun)))
    rw [(updateAddress_error hmem).2] at hrow
    cases hrow
  | @assume w' token n hforce =>
    obtain ⟨rfl, hread⟩ := hslot
    obtain ⟨hstore, hg, hlog⟩ := hset.counted hmem hok (vacant_of_read (hread (.inl hforce)))
    exact hsame hstore hg hlog
  | @count w' token n =>
    obtain ⟨rfl, hvacant⟩ := hslot
    obtain ⟨hstore, hg, hlog⟩ := hset.counted hmem hok hvacant
    exact hsame hstore hg hlog
  | listNone | listSome | clear | clash => exact hslot.elim
  | hit | miss | fill => exact hsame hmem hslot trivial
  | @abandon w' n token err r herr =>
    obtain ⟨rfl, -, hn, hrange⟩ := hslot
    obtain ⟨addr, haddr⟩ := hset.derives n hn hrange
    rw [haddr] at herr
    cases herr
  | @place w' n token addr =>
    obtain ⟨rfl, hvacant, -⟩ := hslot
    obtain ⟨-, -, hstore⟩ := insertAddress_ok rfl hmem
    refine hmove nofun ?_ rfl (.inr ⟨rfl, rfl, List.mem_append_right _ (List.mem_singleton_self _)⟩)
    rw [hstore]
    exact h.table.insert hvacant rfl trivial
  | @collide w' n token addr err =>
    obtain ⟨rfl, hvacant, -⟩ := hslot
    obtain ⟨-, hold | ⟨id, b, hb, hw, hactive⟩⟩ := insertAddress_error hmem
    · obtain ⟨b, hb⟩ := Option.ne_none_iff_exists'.mp (fun hn => AList.lookup_eq_none.mp hn hold)
      exact (hids hb rfl).elim
    · exact absurd hactive (hvacant id b hb hw)
  | announce => exact hsame hmem hslot (Evidence.append hlogged _)
  | finish | settle => exact hsame hmem trivial (Evidence.append hlogged _)
  | giveUp => exact hslot.elim

end Setting

section Runs

variable {T : Type} [DecidableEq T] {lib : Lib} {p : RotationPolicy} {s₀ : Store} {w : Wallet} {q : T → Request}
  {P : Pool T Call Answer (Except Error Address) World}

def derivations (p : RotationPolicy) (s₀ : Store) (q : T → Request) :
    Pool T Call Answer (Except Error Address) World :=
  Pool.start ⟨s₀, {}⟩ (fun t => (q t).proc p)

lemma rotationInv_leads (hset : RotationSetting p s₀ w q)
    (h : Pool.Leads (lockStep lib True) (ReadsCurrent w q) (derivations p s₀ q) P) :
    ∃ γ, RotationInv s₀ w q γ P.log P.shared ∧
      ∀ t r, P.threads t = some (.ret r) → Returned p (q t) (γ t) r := by
  refine requests_lead (J := RotationInv s₀ w q) (fun _ _ _ _ hs => memStep_possible (lockStep_memStep hs)) ?_
    (fun γ log W t c r W' g' hJ hm hok hs => hJ.step hset hm hok hs) h
  refine ⟨⟨rfl, hset.keyed, hset.single, ?_⟩, Mutex.free (fun _ => rfl), fun _ => trivial, fun _ => trivial,
    fun _ _ _ _ => List.not_mem_nil⟩
  intro id a ha
  exact .inl (Table.mem_iff.mpr ⟨a, ha⟩)

/-- Right after one of the calls that the slot has made on the way to `P`, the address was active. -/
def WasActive (step : World → (c : Call) → Answer c → World → Prop)
    (ok : List (T × Event Call Answer) → World → T → Call → Prop)
    (P₀ P : Pool T Call Answer (Except Error Address) World) (t : T) (walletID : UUID) (a : Address) : Prop :=
  ∃ pre e Q, Pool.Leads step ok P₀ Q ∧ Pool.Leads step ok Q P ∧ Q.log = pre ++ [(t, e)] ∧
    Q.shared.store.addresses.lookup a.id = some a ∧ a.walletID = walletID ∧ a.state = .active

lemma Evidence.wasActive (hset : RotationSetting p s₀ w q)
    (h : Pool.Leads (lockStep lib True) (ReadsCurrent w q) (derivations p s₀ q) P) {t : T} {a : Address}
    (hev : Evidence w.id t P.log a) :
    WasActive (lockStep lib True) (ReadsCurrent w q) (derivations p s₀ q) P t w.id a := by
  rcases hev with hread | ⟨hw, hactive, hplaced⟩
  · obtain ⟨W, pre, Q, hQ, hlead, hlog, hs⟩ := h.moment hread
    obtain ⟨γ, hinv, -⟩ := rotationInv_leads hset hQ
    obtain ⟨hstore, hr⟩ := getActiveAddress_step hs.1
    exact ⟨pre, _, Q, hQ, hlead, hlog, getActiveAddress_row hinv.table.keyed (by rw [hstore, ← hr])⟩
  · obtain ⟨W, pre, Q, hQ, hlead, hlog, hs⟩ := h.moment hplaced
    obtain ⟨-, -, hstore⟩ := insertAddress_ok rfl hs.1
    refine ⟨pre, _, Q, hQ, hlead, hlog, ?_, hw, hactive⟩
    rw [hstore, inserted_lookup, if_pos rfl]

lemma RotationInv.returned (hset : RotationSetting p s₀ w q) {γ : T → Phase}
    {log : List (T × Event Call Answer)} {W : World} (h : RotationInv s₀ w q γ log W) {t : T}
    {r : Except Error Address} (hr : Returned p (q t) (γ t) r) :
    (∃ a, r = .ok a ∧ Evidence w.id t log a) ∨ r = .error errRotationInProgress := by
  have hslot := h.slots t
  have hlogged := h.logged t
  generalize γ t = g at hr hslot hlogged
  cases g with
  | loaded w' => exact absurd (hslot ▸ hr.1) hset.live
  | seen w' active denials =>
    cases active with
    | some a => exact .inl ⟨a, hr.1, hlogged.2 a rfl⟩
    | none => exact .inr hr.1
  | denied w' active denials => exact .inr hr.1
  | returned a => exact .inl ⟨a, hr, hlogged⟩
  | failed | foreign => exact hslot.elim
  | _ => exact hr.elim

/-- Any number of calls on one wallet, forced or not, as long as a call that retires an address gets
the lock only while that is the active one: each returns an address that was active during the call
or reports a rotation in progress, and no insertion fails. -/
theorem concurrent_rotations_hand_over (hset : RotationSetting p s₀ w q)
    (h : Pool.Leads (lockStep lib True) (ReadsCurrent w q) (derivations p s₀ q) P) :
    (∀ t r, P.threads t = some (.ret r) →
      (∃ a, r = .ok a ∧
        WasActive (lockStep lib True) (ReadsCurrent w q) (derivations p s₀ q) P t w.id a) ∨
      r = .error errRotationInProgress) ∧
    ∀ t a now err, (t, (⟨.store (.insertAddress a now), .error err⟩ : Event Call Answer)) ∉ P.log := by
  obtain ⟨γ, hinv, hreturned⟩ := rotationInv_leads hset h
  refine ⟨?_, hinv.clean⟩
  intro t r hr
  rcases hinv.returned hset (hreturned t r hr) with ⟨a, hra, hev⟩ | hbusy
  · exact .inl ⟨a, hra, hev.wasActive hset h⟩
  · exact .inr hbusy

def agedAddress : Address := rowAt evmWallet ⟨UUID.ofByte 20, 0, 100⟩ 0 evmFirst

def agedStore : Store := inserted (Store.initial [evmWallet] []) agedAddress

def pairRequest : Bool → Request
  | false => ⟨evmWallet.id, false, ⟨UUID.ofByte 21, 700000000000000, 700000000000000⟩⟩
  | true => ⟨evmWallet.id, true, ⟨UUID.ofByte 22, 700000000000000, 700000000000000⟩⟩

lemma referencePolicy_derives {n : Int} (hn : 0 ≤ n) (hrange : n < 2 ^ 31) :
    ∃ addr, uncachedAt referencePolicy .ethereum n = .ok addr := by
  obtain ⟨pub, hpub⟩ := keyAt_generator (evmXpub, [0, n.toNat])
  refine ⟨pub.evmAddress referenceLib, ?_⟩
  change EVMDeriver.deriveUncached referenceLib referenceKeys ⟨evmXpub⟩ n = _
  rw [referenceKeys, keysWith_evm _ hn hrange, hpub]
  rfl

lemma agedStore_rows {id : UUID} {a : Address} (h : agedStore.addresses.lookup id = some a) :
    id = UUID.ofByte 20 ∧ a = agedAddress := by
  rcases inserted_row h with ⟨hid, ha⟩ | hnone
  · exact ⟨hid, ha⟩
  · cases hnone

lemma rotationSetting_pair : RotationSetting referencePolicy agedStore evmWallet pairRequest where
  row := by decide
  live := by decide
  indexed := .inl rfl
  same := by decide
  keyed := by
    intro id a ha
    obtain ⟨rfl, rfl⟩ := agedStore_rows ha
    rfl
  single := by
    intro i j a b ha hb _ _ _ _
    rw [(agedStore_rows ha).1, (agedStore_rows hb).1]
  unused := by decide
  distinct := by decide
  derives _ hn hrange := referencePolicy_derives hn hrange

def handedPool : Pool Bool Call Answer (Except Error Address) World :=
  (derivations referencePolicy agedStore pairRequest).schedule
    (fun log W t c => decide (ReadsCurrent evmWallet pairRequest log W t c)) (lockAnswer agree)
    [false, false, true, true, false, true, false, false, false, false, false, false]

theorem concurrent_rotations_hand_over_pair :
    Pool.Leads (lockStep referenceLib True) (ReadsCurrent evmWallet pairRequest)
      (derivations referencePolicy agedStore pairRequest) handedPool ∧
    returnedID handedPool false = some (.ok (UUID.ofByte 21)) ∧
    returnedID handedPool true = some (.error errRotationInProgress) ∧
    ∀ t a now err, (t, (⟨.store (.insertAddress a now), .error err⟩ : Event Call Answer)) ∉ handedPool.log := by
  have hleads : Pool.Leads (lockStep referenceLib True) (ReadsCurrent evmWallet pairRequest)
      (derivations referencePolicy agedStore pairRequest) handedPool :=
    Pool.Leads.schedule (fun _ _ _ _ => of_decide_eq_true) (lockAnswer_lockStep agree True) .refl _
  refine ⟨hleads, by decide +kernel, by decide +kernel, ?_⟩
  exact (concurrent_rotations_hand_over rotationSetting_pair hleads).2

def stalePool : Pool Bool Call Answer (Except Error Address) World :=
  (derivations referencePolicy agedStore pairRequest).schedule (fun _ _ _ _ => true) (lockAnswer agree)
    [false, false, true, true, false, false, false, false, false, false, false,
      true, true, true, true, true, true, true]

/-- The second call gets the lock when the first is done. It retires the old address once more, and
the address of the first call is in its way. -/
theorem stale_rotation_fails :
    Pool.Leads (lockStep referenceLib False) (fun _ _ _ _ => True)
      (derivations referencePolicy agedStore pairRequest) stalePool ∧
    returnedID stalePool false = some (.ok (UUID.ofByte 21)) ∧
    (returnedID stalePool true).map (Except.mapError Error.message) =
      some (.error "insert address: active address already exists for wallet") := by
  refine ⟨?_, by decide +kernel, by decide +kernel⟩
  exact Pool.Leads.schedule (fun _ _ _ _ _ => trivial) (lockAnswer_lockStep agree False) .refl _

end Runs

end WalletManager.Proofs
