import WalletManager.Cache.MemCache
import WalletManager.Proofs.ConcurrentRotation

/-!
# The index counter of a chain

The index of a new address is read from the table and the row is inserted later. The counter is
shared by all wallets of the chain, while the lock belongs to one wallet. As long as no other row
of the chain is inserted in between, no index is given out twice.
-/

namespace WalletManager.Proofs

open Interaction

section Cache

variable {lib : Lib} {denials : Prop} {W W' : CachedWorld} {c : Call} {r : Answer c} {p : RotationPolicy}

lemma cachedStep_memStep (h : cachedStep lib denials W c r W') : memStep lib W.store c r W'.store := by
  cases c with
  | store c => exact lockStep_memStep h.1
  | ext c =>
    cases c with
    | cacheGet key => exact congrArg World.store h.2
    | cacheSet key value => exact congrArg World.store h.2
    | _ => exact lockStep_memStep h.1

lemma cacheGet_hit {m m' : MemCache} {key v : String} {expired : Bool} {r : Except Error (String × Bool)}
    (h : (r, m') = m.get key expired) (hhit : cacheHit r = some v) : m.data.lookup key = some v := by
  unfold MemCache.get at h
  split at h
  · cases h
    cases hhit
  · rename_i value hvalue
    split at h
    · cases h
      cases hhit
    · cases h
      cases hhit
      exact hvalue

def setsCache : Call → Bool
  | .ext (.cacheSet _ _) => true
  | _ => false

lemma cachedStep_entries (h : cachedStep lib denials W c r W')
    (hset : setsCache c = false) {key v : String}
    (hv : W'.cache.data.lookup key = some v) : W.cache.data.lookup key = some v := by
  have herase : ∀ {key'}, (W.cache.data.erase key').lookup key = some v →
      W.cache.data.lookup key = some v := by
    intro key' hv
    by_cases hkey : key = key'
    · subst hkey
      rw [AList.lookup_erase] at hv
      cases hv
    · rwa [AList.lookup_erase_ne hkey] at hv
  cases c with
  | store c => exact h.2 ▸ hv
  | ext c =>
    cases c with
    | cacheGet key' =>
      obtain ⟨⟨expired, hget⟩, -⟩ := h
      have hcache : W'.cache = (W.cache.get key' expired).2 := congrArg Prod.snd hget
      rw [hcache] at hv
      unfold MemCache.get at hv
      split at hv
      · exact herase hv
      · split at hv
        · exact herase hv
        · exact hv
    | cacheSet key' value => cases hset
    | _ => exact h.2 ▸ hv

lemma cacheKeyAt_inj {chain chain' : Chain} (h : Indexed chain) (h' : Indexed chain') {n n' : Int}
    (hkey : cacheKeyAt p chain n = cacheKeyAt p chain' n') :
    uncachedAt p chain n = uncachedAt p chain' n' := by
  have htext : ∀ {a b : Int}, toString a = toString b → a = b := intRepr_inj
  have hkinds : ∀ a b : String, "deriv:evm:" ++ a ≠ "deriv:btc:" ++ b := by
    intro a b hab
    have hlist := congrArg String.toList hab
    simp at hlist
  unfold cacheKeyAt EVMDeriver.cacheKey BTCDeriver.cacheKey at hkey
  unfold uncachedAt
  by_cases hevm : chain.isEVM = true
  · by_cases hevm' : chain'.isEVM = true
    · rw [if_pos hevm, if_pos hevm'] at hkey
      rw [if_pos hevm, if_pos hevm', htext (String.append_right_inj _ |>.mp hkey)]
    · rw [if_pos hevm, if_neg hevm', if_pos (h'.resolve_left hevm')] at hkey
      simp only [String.append_assoc] at hkey
      exact absurd hkey (hkinds _ _)
  · by_cases hevm' : chain'.isEVM = true
    · rw [if_neg hevm, if_pos (h.resolve_left hevm), if_pos hevm'] at hkey
      simp only [String.append_assoc] at hkey
      exact absurd hkey.symm (hkinds _ _)
    · rw [if_neg hevm, if_pos (h.resolve_left hevm), if_neg hevm', if_pos (h'.resolve_left hevm')] at hkey
      rw [if_neg hevm, if_pos (h.resolve_left hevm), if_neg hevm', if_pos (h'.resolve_left hevm'),
        htext (String.append_right_inj _ |>.mp hkey)]

def TrueCache (p : RotationPolicy) (m : MemCache) : Prop :=
  ∀ key v, m.data.lookup key = some v → ∀ chain n, Indexed chain → key = cacheKeyAt p chain n →
    uncachedAt p chain n = .ok v

lemma TrueCache.insert {m : MemCache} (h : TrueCache p m) {chain : Chain} (hchain : Indexed chain) {n : Int}
    {v : String} (hv : uncachedAt p chain n = .ok v) :
    TrueCache p (m.set (cacheKeyAt p chain n) v).2 := by
  intro key v' hv' chain' n' hchain' hkey
  change (m.data.insert (cacheKeyAt p chain n) v).lookup key = some v' at hv'
  rw [lookup_insert_eq] at hv'
  split at hv'
  · rename_i hkey'
    cases hv'
    rw [← cacheKeyAt_inj hchain hchain' (hkey'.symm.trans hkey), hv]
  · exact h key v' hv' chain' n' hchain' hkey

end Cache

section Table

variable {p : RotationPolicy} {s s' : Store} {a : Address}

/-- No two rows of a chain share an index, and the rows carry the addresses of their indices. -/
structure DerivedTable (p : RotationPolicy) (s : Store) : Prop where
  distinct : ∀ i j a b, s.addresses.lookup i = some a → s.addresses.lookup j = some b → a.chain = b.chain →
    a.change = b.change → a.index = b.index → i = j
  derived : ∀ id a, s.addresses.lookup id = some a →
    a.change = 0 ∧ uncachedAt p a.chain a.index = .ok a.address

lemma DerivedTable.rewrites (h : DerivedTable p s) (hrows : Rewrites s s') : DerivedTable p s' := by
  constructor
  · intro i j a' b' ha' hb' hchain hchange hindex
    obtain ⟨a, ha, haa⟩ := hrows.only i a' ha'
    obtain ⟨b, hb, hbb⟩ := hrows.only j b' hb'
    apply h.distinct i j a b ha hb
    · rw [← haa.chain, ← hbb.chain, hchain]
    · rw [← haa.change, ← hbb.change, hchange]
    · rw [← haa.index, ← hbb.index, hindex]
  · intro id b hb
    obtain ⟨a, ha, hab⟩ := hrows.only id b hb
    rw [hab.change, hab.chain, hab.index, hab.address]
    exact h.derived id a ha

lemma DerivedTable.insert (h : DerivedTable p s) (hchange : a.change = 0)
    (hindex : a.index = s.nextAddressIndex a.chain.string 0)
    (haddr : uncachedAt p a.chain a.index = .ok a.address) : DerivedTable p (inserted s a) := by
  have hbelow : ∀ {id b}, s.addresses.lookup id = some b → b.chain = a.chain → b.index < a.index := by
    intro id b hb hchain
    rw [hindex]
    exact lt_nextAddressIndex hb ⟨by rw [hchain], (h.derived id b hb).1⟩
  constructor
  · intro i j b c hb hc hchain hside hsame
    rcases inserted_row hb with ⟨rfl, rfl⟩ | hb₀
    · rcases inserted_row hc with ⟨rfl, rfl⟩ | hc
      · rfl
      · have hlt := hbelow hc hchain.symm
        omega
    · rcases inserted_row hc with ⟨rfl, rfl⟩ | hc
      · have hlt := hbelow hb₀ hchain
        omega
      · exact h.distinct i j b c hb₀ hc hchain hside hsame
  · intro id b hb
    rcases inserted_row hb with ⟨rfl, rfl⟩ | hb
    · exact ⟨hchange, haddr⟩
    · exact h.derived id b hb

lemma nextAddressIndex_inserted (hnew : s.addresses.lookup a.id = none) {chain : String} {change : Int}
    (hchain : a.chain.string ≠ chain) :
    (inserted s a).nextAddressIndex chain change = s.nextAddressIndex chain change := by
  apply le_antisymm
  · apply nextAddressIndex_le (nextAddressIndex_nonneg _ _ _)
    intro id b hb hcounts
    rcases inserted_row hb with ⟨rfl, rfl⟩ | hb
    · exact absurd hcounts.1 hchain
    · exact lt_nextAddressIndex hb hcounts
  · apply nextAddressIndex_le (nextAddressIndex_nonneg _ _ _)
    intro id b hb hcounts
    obtain ⟨b', hb', hbb⟩ := retains_inserted hnew id b hb
    rw [← hbb.index]
    exact lt_nextAddressIndex hb' (hbb.countsFor.mpr hcounts)

end Table

section Allocation

variable {T : Type} [DecidableEq T] {p : RotationPolicy} {s₀ : Store} {q : T → Request} {γ : T → Phase}
  {log : List (T × Event Call Answer)} {W W' : CachedWorld} {t : T}

def isIndexRead : Event Call Answer → Bool
  | ⟨.store (.nextAddressIndex _ _), _⟩ => true
  | _ => false

def Undisturbed (t : T) (chain : String) (log : List (T × Event Call Answer)) : Prop :=
  ∀ e ∈ log.reverse.takeWhile (fun e => !(decide (e.1 = t) && isIndexRead e.2)),
    ∀ a ∈ createdOf e.2, a.chain.string ≠ chain

instance (t : T) (chain : String) (log : List (T × Event Call Answer)) : Decidable (Undisturbed t chain log) :=
  inferInstanceAs (Decidable (∀ e ∈ log.reverse.takeWhile _, ∀ a ∈ createdOf e.2, a.chain.string ≠ chain))

lemma Undisturbed.of_concat {t' : T} {e : Event Call Answer} {chain : String}
    (h : Undisturbed t chain (log ++ [(t', e)])) (hread : t' = t → isIndexRead e = false) :
    (∀ a ∈ createdOf e, a.chain.string ≠ chain) ∧ Undisturbed t chain log := by
  have hkeep : (!(decide (t' = t) && isIndexRead e)) = true := by
    by_cases htt : t' = t
    · rw [hread htt]
      simp
    · simp [htt]
  unfold Undisturbed at h
  rw [List.reverse_append, List.reverse_singleton, List.singleton_append, List.takeWhile_cons,
    if_pos hkeep] at h
  exact ⟨h _ List.mem_cons_self, fun e' he' => h e' (List.mem_cons_of_mem _ he')⟩

/-- When a row is inserted, the index that its call has read is still the next one. -/
def InsertsUndisturbed (log : List (T × Event Call Answer)) (_ : CachedWorld) (t : T) : Call → Prop
  | .store (.insertAddress a _) => Undisturbed t a.chain.string log
  | _ => True

instance (log : List (T × Event Call Answer)) (W : CachedWorld) (t : T) (c : Call) :
    Decidable (InsertsUndisturbed log W t c) := by
  unfold InsertsUndisturbed
  split <;> infer_instance

def Allocated (p : RotationPolicy) (s : Store) (t : T) (log : List (T × Event Call Answer)) : Phase → Prop
  | .started | .returned _ | .failed => True
  | .loaded w | .seen w _ _ | .denied w _ _ | .locked w _ _ | .kept w _ _ | .vacant w _ | .placed w _ _
  | .stuck w _ => Indexed w.chain
  | .indexed w n _ | .missed w n _ => Indexed w.chain ∧
    (Undisturbed t w.chain.string log → n = s.nextAddressIndex w.chain.string 0)
  | .derived w n addr _ => Indexed w.chain ∧
    (Undisturbed t w.chain.string log → n = s.nextAddressIndex w.chain.string 0) ∧
    uncachedAt p w.chain n = .ok addr
  | .counted _ _ _ | .listed _ _ _ _ | .foreign => False

lemma Allocated.mono {s s' : Store} {log' : List (T × Event Call Answer)} {g : Phase}
    (h : Allocated p s t log g) (hkeep : ∀ chain, Undisturbed t chain log' → Undisturbed t chain log ∧
      s'.nextAddressIndex chain 0 = s.nextAddressIndex chain 0) : Allocated p s' t log' g := by
  have hindex : ∀ {chain n}, (Undisturbed t chain log → n = s.nextAddressIndex chain 0) →
      Undisturbed t chain log' → n = s'.nextAddressIndex chain 0 := by
    intro chain n hn hlog'
    obtain ⟨hlog, hnext⟩ := hkeep chain hlog'
    rw [hnext]
    exact hn hlog
  cases g with
  | indexed | missed => exact ⟨h.1, hindex h.2⟩
  | derived => exact ⟨h.1, hindex h.2.1, h.2.2⟩
  | _ => exact h

structure IndexInv (p : RotationPolicy) (s₀ : Store) (γ : T → Phase) (log : List (T × Event Call Answer))
    (W : CachedWorld) : Prop where
  wallets : W.store.wallets = s₀.wallets
  table : DerivedTable p W.store
  cache : TrueCache p W.cache
  slots : ∀ t, Allocated p W.store t log (γ t)

lemma IndexInv.move (h : IndexInv p s₀ γ log W) {c : Call} {r : Answer c} {g' : Phase}
    (hwallets : W'.store.wallets = W.store.wallets) (htable : DerivedTable p W'.store)
    (hcache : TrueCache p W'.cache)
    (hnext : ∀ chain, (∀ a ∈ createdOf ⟨c, r⟩, a.chain.string ≠ chain) →
      W'.store.nextAddressIndex chain 0 = W.store.nextAddressIndex chain 0)
    (hg : Allocated p W'.store t (log ++ [(t, ⟨c, r⟩)]) g') :
    IndexInv p s₀ (Function.update γ t g') (log ++ [(t, ⟨c, r⟩)]) W' := by
  refine ⟨hwallets.trans h.wallets, htable, hcache, ?_⟩
  apply (Function.forall_update_iff γ (fun t' g => Allocated p W'.store t' _ g)).mpr
  refine ⟨hg, ?_⟩
  intro t' hne
  apply (h.slots t').mono
  intro chain hlog
  obtain ⟨hother, hbefore⟩ := hlog.of_concat (fun hc => absurd hc.symm hne)
  exact ⟨hbefore, hnext chain hother⟩

/-- Calls for wallets of EVM chains and of Bitcoin, on a table and a cache of derived addresses. -/
structure IndexSetting (p : RotationPolicy) (s₀ : Store) (m₀ : MemCache) (q : T → Request) : Prop where
  wallets : ∀ t w, s₀.wallets.lookup (q t).walletID = some w → Indexed w.chain
  table : DerivedTable p s₀
  cache : TrueCache p m₀

theorem IndexInv.step {m₀ : MemCache} (hset : IndexSetting p s₀ m₀ q) {lib : Lib} (h : IndexInv p s₀ γ log W)
    {c : Call} {r : Answer c} {g' : Phase} (hm : Moves p (q t) (γ t) c r g')
    (hok : InsertsUndisturbed log W t c) (hs : cachedStep lib True W c r W') :
    IndexInv p s₀ (Function.update γ t g') (log ++ [(t, ⟨c, r⟩)]) W' := by
  have hslot := h.slots t
  have hmem := cachedStep_memStep hs
  have hentries : setsCache c = false → TrueCache p W'.cache :=
    fun hset key v hv => h.cache key v (cachedStep_entries hs hset hv)
  -- a call that inserts nothing
  have hrewrite : Rewrites W.store W'.store → W'.store.wallets = W.store.wallets → TrueCache p W'.cache →
      Allocated p W'.store t (log ++ [(t, ⟨c, r⟩)]) g' →
      IndexInv p s₀ (Function.update γ t g') (log ++ [(t, ⟨c, r⟩)]) W' :=
    fun hrows hwallets hcache hg => h.move hwallets (h.table.rewrites hrows) hcache
      (fun chain _ => hrows.nextAddressIndex chain 0) hg
  have hsame : W'.store = W.store → TrueCache p W'.cache →
      Allocated p W.store t (log ++ [(t, ⟨c, r⟩)]) g' →
      IndexInv p s₀ (Function.update γ t g') (log ++ [(t, ⟨c, r⟩)]) W' := fun hstore hcache hg =>
    hrewrite (.of_addresses (by rw [hstore])) (by rw [hstore]) hcache (hstore ▸ hg)
  have hkeep : isIndexRead ⟨c, r⟩ = false → ∀ {g}, Allocated p W.store t log g →
      Allocated p W.store t (log ++ [(t, ⟨c, r⟩)]) g :=
    fun hread g hg => hg.mono (fun chain hlog => ⟨(hlog.of_concat (fun _ => hread)).2, rfl⟩)
  have hwallet : ∀ {w}, W.store.wallets.lookup (q t).walletID = some w → Indexed w.chain := by
    intro w hw
    rw [h.wallets] at hw
    exact hset.wallets t w hw
  generalize γ t = g at hm hslot
  cases hm with
  | load hserved =>
    obtain ⟨hr, hstore⟩ := Prod.mk.inj hmem
    exact hsame hstore (hentries rfl) (hwallet (getWallet_ok hr.symm))
  | leave hserved =>
    obtain ⟨hr, hstore⟩ := Prod.mk.inj hmem
    exact absurd (.inl (hwallet (getWallet_ok hr.symm))) hserved
  | unknown => exact hsame (congrArg Prod.snd hmem) (hentries rfl) trivial
  | wander => exact hslot.elim
  | look | lookAgain | keep => exact hsame (getActiveAddress_step hmem).1 (hentries rfl) hslot
  | grant | deny => exact hsame hmem (hentries rfl) hslot
  | unlockable => exact hsame hmem (hentries rfl) trivial
  | find => exact hsame (getActiveAddress_step hmem).1 (hentries rfl) hslot
  | @retire w a =>
    have hstore : W'.store = (W.store.deprecateAddress a.id).2 := congrArg Prod.snd hmem
    refine hrewrite ?_ ?_ (hentries rfl) hslot
    · rw [hstore]
      exact deprecateAddress_rewrites _ _
    · rw [hstore]
      exact updateAddress_wallets _
  | cling => exact hsame (updateAddress_error hmem).1 (hentries rfl) hslot
  | @assume w token n =>
    obtain ⟨hr, hstore⟩ := Prod.mk.inj hmem
    refine hsame hstore (hentries rfl) ?_
    rw [countedAt, if_neg (Indexed.ne_solana hslot)]
    exact ⟨hslot, fun _ => Except.ok.inj hr⟩
  | @count w token n =>
    obtain ⟨hr, hstore⟩ := Prod.mk.inj hmem
    refine hsame hstore (hentries rfl) ?_
    rw [countedAt, if_neg (Indexed.ne_solana hslot)]
    exact ⟨hslot, fun _ => Except.ok.inj hr⟩
  | listNone | listSome | clear | clash => exact hslot.elim
  | @hit w n token addr r hhit =>
    obtain ⟨⟨expired, hget⟩, -⟩ := hs
    have haddr := h.cache _ _ (cacheGet_hit hget hhit) w.chain n hslot.1 rfl
    have hg : Allocated p W.store t log (.derived w n addr token) := ⟨hslot.1, hslot.2, haddr⟩
    exact hsame hmem (hentries rfl) (hkeep rfl hg)
  | miss => exact hsame hmem (hentries rfl) (hkeep rfl hslot)
  | @fill w n token addr r haddr =>
    have hcache : W'.cache = (W.cache.set (cacheKeyAt p w.chain n) addr).2 := congrArg Prod.snd hs.1
    have hg : Allocated p W.store t log (.derived w n addr token) := ⟨hslot.1, hslot.2, haddr⟩
    refine hsame hmem ?_ (hkeep rfl hg)
    rw [hcache]
    exact h.cache.insert hslot.1 haddr
  | abandon => exact hsame hmem (hentries rfl) trivial
  | @place w n token addr =>
    obtain ⟨hchain, hnext, haddr⟩ := hslot
    obtain ⟨hnew, -, hstore⟩ := insertAddress_ok rfl hmem
    have hindex := rowAt_index hchain (q t).fresh n addr
    refine h.move ?_ ?_ (hentries rfl) ?_ hchain
    · rw [hstore]
      rfl
    · rw [hstore]
      apply h.table.insert (rowAt_change w _ n addr)
      · rw [hindex]
        exact hnext hok
      · rw [hindex, rowAt_address]
        exact haddr
    · intro chain hother
      rw [hstore]
      exact nextAddressIndex_inserted hnew (hother _ rfl)
  | collide =>
    obtain ⟨hstore, -⟩ := insertAddress_error hmem
    exact hsame hstore (hentries rfl) hslot.1
  | announce => exact hsame hmem (hentries rfl) hslot
  | finish | settle | giveUp => exact hsame hmem (hentries rfl) trivial

end Allocation

section Runs

variable {T : Type} [DecidableEq T] {lib : Lib} {p : RotationPolicy} {s₀ : Store} {m₀ : MemCache}
  {q : T → Request} {P : Pool T Call Answer (Except Error Address) CachedWorld}

def cachedDerivations (p : RotationPolicy) (s₀ : Store) (m₀ : MemCache) (q : T → Request) :
    Pool T Call Answer (Except Error Address) CachedWorld :=
  Pool.start ⟨⟨s₀, {}⟩, m₀⟩ (fun t => (q t).proc p)

def DerivesInjectively (p : RotationPolicy) (chain : Chain) : Prop :=
  ∀ m n addr, uncachedAt p chain m = .ok addr → uncachedAt p chain n = .ok addr → m = n

/-- Any number of calls on any wallets, forced or not, as long as no row of the chain is inserted
between a call's reading of the index and its insertion: the rows of different wallets on a chain
have different indices, and different addresses where the derivation is injective. -/
theorem wallets_have_own_addresses (hset : IndexSetting p s₀ m₀ q)
    (h : Pool.Leads (cachedStep lib True) InsertsUndisturbed (cachedDerivations p s₀ m₀ q) P)
    {i j : UUID} {a b : Address} (ha : P.shared.store.addresses.lookup i = some a)
    (hb : P.shared.store.addresses.lookup j = some b) (hchain : a.chain = b.chain)
    (hwallet : a.walletID ≠ b.walletID) :
    (a.change, a.index) ≠ (b.change, b.index) ∧ (DerivesInjectively p a.chain → a.address ≠ b.address) := by
  obtain ⟨γ, hinv, -⟩ := requests_lead (J := IndexInv p s₀)
    (fun _ _ _ _ hs => memStep_possible (cachedStep_memStep hs))
    ⟨rfl, hset.table, hset.cache, fun _ => trivial⟩
    (fun _ _ _ _ _ _ _ _ hJ hm hok hs => hJ.step hset hm hok hs) h
  have hindex : a.index ≠ b.index := by
    intro hsame
    obtain ⟨hca, -⟩ := hinv.table.derived i a ha
    obtain ⟨hcb, -⟩ := hinv.table.derived j b hb
    obtain rfl := hinv.table.distinct i j a b ha hb hchain (hca.trans hcb.symm) hsame
    rw [ha] at hb
    cases hb
    exact hwallet rfl
  constructor
  · intro hpair
    exact hindex (Prod.mk.inj hpair).2
  · intro hinj haddr
    obtain ⟨-, hda⟩ := hinv.table.derived i a ha
    obtain ⟨-, hdb⟩ := hinv.table.derived j b hb
    rw [← hchain, ← haddr] at hdb
    exact hindex (hinj _ _ _ hda hdb)

def cachedAnswer (answers : (c : ExtCall) → c.Answer) (W : CachedWorld) : (c : Call) → Answer c × CachedWorld
  | .ext (.cacheGet key) => ((W.cache.get key false).1, { W with cache := (W.cache.get key false).2 })
  | .ext (.cacheSet key value) => ((W.cache.set key value).1, { W with cache := (W.cache.set key value).2 })
  | c => ((lockAnswer answers W.toWorld c).1, ⟨(lockAnswer answers W.toWorld c).2, W.cache⟩)

lemma cachedAnswer_cachedStep (answers : (c : ExtCall) → c.Answer) (denials : Prop) (W : CachedWorld)
    (c : Call) :
    cachedStep referenceLib denials W c (cachedAnswer answers W c).1 (cachedAnswer answers W c).2 := by
  have hlock := lockAnswer_lockStep answers denials W.toWorld c
  cases c with
  | store c => exact ⟨hlock, rfl⟩
  | ext c =>
    cases c with
    | cacheGet key => exact ⟨⟨false, rfl⟩, rfl⟩
    | cacheSet key value => exact ⟨rfl, rfl⟩
    | _ => exact ⟨hlock, rfl⟩

def tabulatedPolicy : RotationPolicy where
  derivers := { referenceRegistry with keys := keysWith (.error ⟨"not tabulated", none⟩) }
  config := ⟨12, 6, 7⟩

lemma tabulatedPolicy_derives {n : Int} {addr : String} (h : uncachedAt tabulatedPolicy .ethereum n = .ok addr) :
    (n = 0 ∧ addr = evmFirst) ∨ (n = 1 ∧ addr = evmSecond) := by
  have hfirst : uncachedAt tabulatedPolicy .ethereum 0 = .ok evmFirst ∧
      uncachedAt tabulatedPolicy .ethereum 1 = .ok evmSecond := by decide +kernel
  have hindex : 0 ≤ n ∧ n < 2 ^ 31 := by
    by_contra hout
    change EVMDeriver.deriveUncached _ _ _ n = _ at h
    unfold EVMDeriver.deriveUncached at h
    rw [nonHardened, if_pos (by omega)] at h
    cases h
  have hkey : n.toNat = 0 ∨ n.toNat = 1 := by
    by_contra hout
    change EVMDeriver.deriveUncached referenceLib (keysWith _) ⟨evmXpub⟩ n = _ at h
    rw [keysWith_evm _ hindex.1 hindex.2] at h
    have hnone : keyTable.lookup (evmXpub, [0, n.toNat]) = none := by
      have hother : evmXpub ≠ btcXpub := by decide
      rw [List.lookup_eq_none_iff]
      simpa [keyTable, hother] using hout
    rw [keyAt, hnone] at h
    cases h
  rcases hkey with hn | hn
  · obtain rfl : n = 0 := by omega
    exact .inl ⟨rfl, Except.ok.inj (h.symm.trans hfirst.1)⟩
  · obtain rfl : n = 1 := by omega
    exact .inr ⟨rfl, Except.ok.inj (h.symm.trans hfirst.2)⟩

lemma tabulatedPolicy_injective : DerivesInjectively tabulatedPolicy .ethereum := by
  intro m n addr hm hn
  rcases tabulatedPolicy_derives hm with ⟨rfl, rfl⟩ | ⟨rfl, rfl⟩ <;>
    rcases tabulatedPolicy_derives hn with ⟨rfl, haddr⟩ | ⟨rfl, haddr⟩
  · rfl
  · exact absurd haddr (by decide)
  · exact absurd haddr (by decide)
  · rfl

def evmNeighbour : Wallet := { evmWallet with id := UUID.ofByte 3 }

def neighbourStore : Store := Store.initial [evmWallet, evmNeighbour] []

def neighbourRequest : Bool → Request
  | false => ⟨evmWallet.id, false, ⟨UUID.ofByte 20, 100, 100⟩⟩
  | true => ⟨evmNeighbour.id, true, ⟨UUID.ofByte 21, 100, 100⟩⟩

lemma indexSetting_neighbours : IndexSetting tabulatedPolicy neighbourStore {} neighbourRequest := by
  have hempty : neighbourStore.addresses = ∅ := rfl
  refine ⟨?_, ⟨?_, ?_⟩, nofun⟩
  · intro t w hw
    cases t with
    | false =>
      cases hw
      exact .inl rfl
    | true =>
      cases hw
      exact .inl rfl
  · intro i j a b ha
    rw [hempty, AList.lookup_empty] at ha
    cases ha
  · intro id a ha
    rw [hempty, AList.lookup_empty] at ha
    cases ha

def orderedPool : Pool Bool Call Answer (Except Error Address) CachedWorld :=
  (cachedDerivations tabulatedPolicy neighbourStore {} neighbourRequest).schedule
    (fun log W t c => decide (InsertsUndisturbed log W t c)) (cachedAnswer agree)
    [false, false, false, false, true, true, true, false, false, false, false, true, true, true, true,
      false, true]

theorem wallets_have_own_addresses_ordered :
    let a := rowAt evmWallet (neighbourRequest false).fresh 0 evmFirst
    let b := rowAt evmNeighbour (neighbourRequest true).fresh 1 evmSecond
    orderedPool.shared.store.addresses.lookup a.id = some a ∧
    orderedPool.shared.store.addresses.lookup b.id = some b ∧
    (a.change, a.index) ≠ (b.change, b.index) ∧ a.address ≠ b.address := by
  dsimp only
  have hleads : Pool.Leads (cachedStep referenceLib True) InsertsUndisturbed
      (cachedDerivations tabulatedPolicy neighbourStore {} neighbourRequest) orderedPool :=
    Pool.Leads.schedule (fun _ _ _ _ => of_decide_eq_true) (cachedAnswer_cachedStep agree True) .refl _
  have ha : orderedPool.shared.store.addresses.lookup (UUID.ofByte 20) =
      some (rowAt evmWallet (neighbourRequest false).fresh 0 evmFirst) := by decide +kernel
  have hb : orderedPool.shared.store.addresses.lookup (UUID.ofByte 21) =
      some (rowAt evmNeighbour (neighbourRequest true).fresh 1 evmSecond) := by decide +kernel
  have hown := wallets_have_own_addresses indexSetting_neighbours hleads ha hb rfl (by decide)
  exact ⟨ha, hb, hown.1, hown.2 tabulatedPolicy_injective⟩

def racedPool : Pool Bool Call Answer (Except Error Address) CachedWorld :=
  (cachedDerivations tabulatedPolicy neighbourStore {} neighbourRequest).schedule (fun _ _ _ _ => true)
    (cachedAnswer agree)
    [false, false, false, false, false, true, true, true, true, false, false, false, false, true, true, true]

/-- Two wallets of one chain are given the same index, and with it the same address. -/
theorem wallets_race_for_index :
    let a := rowAt evmWallet (neighbourRequest false).fresh 0 evmFirst
    let b := rowAt evmNeighbour (neighbourRequest true).fresh 0 evmFirst
    Pool.Leads (cachedStep referenceLib False) (fun _ _ _ _ => True)
      (cachedDerivations tabulatedPolicy neighbourStore {} neighbourRequest) racedPool ∧
    racedPool.shared.store.addresses.lookup a.id = some a ∧
    racedPool.shared.store.addresses.lookup b.id = some b ∧
    a.walletID ≠ b.walletID ∧ a.chain = b.chain ∧ (a.change, a.index) = (b.change, b.index) ∧
    a.address = b.address := by
  refine ⟨?_, by decide +kernel, by decide +kernel, by decide, rfl, rfl, rfl⟩
  exact Pool.Leads.schedule (fun _ _ _ _ _ => trivial) (cachedAnswer_cachedStep agree False) .refl _

end Runs

end WalletManager.Proofs
