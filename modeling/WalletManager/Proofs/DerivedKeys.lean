import WalletManager.Cache.MemCache
import WalletManager.Proofs.DerivationPaths
import WalletManager.Proofs.KeyVectors
import WalletManager.Proofs.Keys

/-!
# The keys behind the addresses

An address is derived, or taken from a cache that the derivers share, and handed out with its path.
To spend from it, the key is derived from the path. Whatever the cache has done before, the address is
the one that the key of the path has.
-/

namespace WalletManager.Proofs

open Interaction

section Cache

/-- How a cache answers that may fail: an entry may have expired, a call may fail, and a write that
fails may have been made or not. -/
def flakyStep (m : MemCache) : (c : Call) → Answer c → MemCache → Prop
  | .ext (.cacheGet key), r, m' =>
    (∃ expired, (r, m') = m.get key expired) ∨ (∃ err, r = .error err) ∧ m' = m
  | .ext (.cacheSet key value), r, m' =>
    (r, m') = m.set key value ∨ (∃ err, r = .error err) ∧ (m' = m ∨ m' = (m.set key value).2)
  | _, _, m' => m' = m

inductive DeriveCall
  | evm (d : EVMDeriver) (walletID : UUID) (chain : Chain) (index change : Int)
  | btc (d : BTCDeriver) (walletID : UUID) (chain : Chain) (index change : Int)
  | solana (d : SolanaDeriver) (walletID : UUID) (chain : Chain) (index change : Int)

variable (lib : Lib) (keys : KeyLib)

def DeriveCall.proc : DeriveCall → Proc (Except Error DeriveResult)
  | evm d walletID chain index change => d.deriveAt lib keys walletID chain index change
  | btc d walletID chain index change => d.deriveAt lib keys walletID chain index change
  | solana d walletID chain index change => d.deriveAt lib walletID chain index change

/-- The public keys of the Bitcoin derivers have no separator of the cache keys. -/
def DeriveCall.NoColon : DeriveCall → Prop
  | btc d _ _ _ _ => ':' ∉ d.xpub.toList
  | _ => True

/-- Under the keys of Bitcoin derivers the cache has what they derive. -/
def TrueEntries (m : MemCache) : Prop :=
  ∀ (d : BTCDeriver) index change v, ':' ∉ d.xpub.toList →
    m.data.lookup (d.cacheKey index change) = some v → d.deriveUncached keys index change = .ok v

def Honest : Call → Prop
  | .ext (.cacheSet key value) => ∀ (d : BTCDeriver) index change, ':' ∉ d.xpub.toList →
      key = d.cacheKey index change → d.deriveUncached keys index change = .ok value
  | _ => True

variable {lib keys} {m m' : MemCache} {d d' : BTCDeriver}

lemma cacheKey_inj {index index' change change' : Int} (hd : ':' ∉ d.xpub.toList)
    (hd' : ':' ∉ d'.xpub.toList) (h : d.cacheKey index change = d'.cacheKey index' change') :
    d = d' ∧ index = index' ∧ change = change' := by
  have hnumber : ∀ n : Int, ':' ∉ (toString n).toList := notMem_repr (by decide) (by decide)
  unfold BTCDeriver.cacheKey at h
  simp only [String.append_assoc, String.append_right_inj] at h
  have hlist := congrArg String.toList h
  simp only [String.toList_append] at hlist
  obtain ⟨hxpub, hrest⟩ := append_sep_inj hd hd' hlist
  obtain ⟨hchange, hindex⟩ := append_sep_inj (hnumber change) (hnumber change') hrest
  refine ⟨?_, intRepr_inj (String.toList_inj.mp hindex), intRepr_inj (String.toList_inj.mp hchange)⟩
  cases d
  cases d'
  exact congrArg BTCDeriver.mk (String.toList_inj.mp hxpub)

lemma cacheKey_ne {kind text : String} (hkind : kind.toList.length = 10) (hne : kind ≠ "deriv:btc:")
    {index change : Int} : kind ++ text ≠ d.cacheKey index change := by
  intro h
  unfold BTCDeriver.cacheKey at h
  simp only [String.append_assoc] at h
  have hlist := congrArg String.toList h
  simp only [String.toList_append] at hlist
  exact hne (String.toList_inj.mp (List.append_inj_left hlist (by rw [hkind]; rfl)))

lemma trueEntries_empty : TrueEntries keys {} := by
  intro d index change v _ h
  cases h

lemma TrueEntries.erase (h : TrueEntries keys m) (key : String) :
    TrueEntries keys { data := m.data.erase key } := by
  intro d index change v hd hv
  by_cases hkey : d.cacheKey index change = key
  · rw [hkey, AList.lookup_erase] at hv
    cases hv
  · rw [AList.lookup_erase_ne hkey] at hv
    exact h d index change v hd hv

lemma TrueEntries.set (h : TrueEntries keys m) {key value : String}
    (hwrite : Honest keys (.ext (.cacheSet key value))) : TrueEntries keys (m.set key value).2 := by
  intro d index change v hd hv
  change (m.data.insert key value).lookup _ = some v at hv
  by_cases hkey : d.cacheKey index change = key
  · rw [hkey, AList.lookup_insert] at hv
    cases hv
    exact hwrite d index change hd hkey.symm
  · rw [AList.lookup_insert_ne hkey] at hv
    exact h d index change v hd hv

lemma TrueEntries.get (h : TrueEntries keys m) (key : String) (expired : Bool) :
    TrueEntries keys (m.get key expired).2 := by
  unfold MemCache.get
  split
  · exact h.erase key
  · split
    · exact h.erase key
    · exact h

lemma TrueEntries.step (h : TrueEntries keys m) {c : Call} {r : Answer c} (hc : Honest keys c)
    (hs : flakyStep m c r m') : TrueEntries keys m' := by
  cases c with
  | store c => exact (show m' = m from hs) ▸ h
  | ext c =>
    cases c with
    | cacheGet key =>
      rcases hs with ⟨expired, hget⟩ | ⟨-, rfl⟩
      · obtain rfl : m' = (m.get key expired).2 := congrArg Prod.snd hget
        exact h.get key expired
      · exact h
    | cacheSet key value =>
      rcases hs with hset | ⟨-, rfl | rfl⟩
      · obtain rfl : m' = (m.set key value).2 := congrArg Prod.snd hset
        exact h.set hc
      · exact h
      · exact h.set hc
    | _ => exact (show m' = m from hs) ▸ h

lemma deriveCached_honest {key : String} {uncached : Except Error String} {make : String → DeriveResult}
    (h : ∀ v, uncached = .ok v → Honest keys (.ext (.cacheSet key v))) :
    (deriveCached key uncached make).AllCalls (Honest keys) := by
  refine ⟨trivial, fun r => ?_⟩
  cases hhit : cacheHit r with
  | some v => simp only [Prog.bind, hhit]; trivial
  | none =>
    cases uncached with
    | error err => simp only [Prog.bind, hhit]; trivial
    | ok v => simp only [Prog.bind, hhit]; exact ⟨h v rfl, fun _ => trivial⟩

lemma derive_honest {op : DeriveCall} (hop : op.NoColon) : (op.proc lib keys).AllCalls (Honest keys) := by
  cases op with
  | evm d walletID chain index change =>
    simp only [DeriveCall.proc, EVMDeriver.deriveAt]
    repeat' split
    all_goals try trivial
    refine deriveCached_honest fun v _ d' index' change' _ hkey => ?_
    simp only [EVMDeriver.cacheKey, String.append_assoc] at hkey
    exact absurd hkey (cacheKey_ne (by decide) (by decide))
  | btc d walletID chain index change =>
    simp only [DeriveCall.proc, BTCDeriver.deriveAt]
    repeat' split
    all_goals try trivial
    refine deriveCached_honest fun v hv d' index' change' hd' hkey => ?_
    obtain ⟨rfl, rfl, rfl⟩ := cacheKey_inj hop hd' hkey
    exact hv
  | solana d walletID chain index change =>
    simp only [DeriveCall.proc, SolanaDeriver.deriveAt]
    split
    · trivial
    · refine deriveCached_honest fun v _ d' index' change' _ hkey => ?_
      exact absurd hkey (cacheKey_ne (by decide) (by decide))

theorem trueEntries_run {log : List (Entry DeriveCall Call Answer (Except Error DeriveResult))}
    (h : Runs (DeriveCall.proc lib keys) flakyStep (fun _ op => op.NoColon) {} log m) :
    TrueEntries keys m := by
  refine Runs.invariant (I := fun _ m => TrueEntries keys m) trueEntries_empty ?_ h
  intro log m op tr a m' hm hop he
  have hend : Ends flakyStep (fun _ => (none : Option Unit)) (op.proc lib keys) m
      (fun _ _ m' => TrueEntries keys m') :=
    (derive_honest hop).ends hm fun m c r m' hm hc hs => TrueEntries.step hm hc hs
  exact hend tr a m' he

lemma deriveCached_returns (m : MemCache) (key : String) (uncached : Except Error String)
    (make : String → DeriveResult) :
    ∃ tr r m', Exec flakyStep (deriveCached key uncached make) m tr r m' := by
  have hread : flakyStep m (.ext (.cacheGet key)) (.error ⟨"", none⟩) m := .inr ⟨⟨_, rfl⟩, rfl⟩
  cases uncached with
  | error err => exact ⟨_, _, _, _, _, _, hread, ⟨rfl, rfl, rfl⟩, rfl⟩
  | ok addr =>
    have hwrite : flakyStep m (.ext (.cacheSet key addr)) (.error ⟨"", none⟩) m := .inr ⟨⟨_, rfl⟩, .inl rfl⟩
    exact ⟨_, _, _, _, _, _, hread, ⟨_, _, _, hwrite, ⟨rfl, rfl, rfl⟩, rfl⟩, rfl⟩

lemma deriveCached_result {key : String} {uncached : Except Error String} {make : String → DeriveResult}
    {tr : Trace} {r : Except Error DeriveResult}
    (hentry : ∀ v, m.data.lookup key = some v → uncached = .ok v)
    (h : Exec flakyStep (deriveCached key uncached make) m tr r m') : r = uncached.map make := by
  obtain ⟨hit, m₁, tr₁, hread, h, -⟩ := h
  have hhit : ∀ v, cacheHit hit = some v → uncached = .ok v := by
    intro v hv
    rcases hread with ⟨expired, hget⟩ | ⟨⟨err, rfl⟩, -⟩
    · obtain rfl : hit = (m.get key expired).1 := congrArg Prod.fst hget
      unfold MemCache.get at hv
      split at hv
      · cases hv
      · rename_i value hvalue
        split at hv
        · cases hv
        · cases hv
          exact hentry _ hvalue
    · cases hv
  dsimp only [Prog.bind] at h
  cases hc : cacheHit hit with
  | some v =>
    rw [hc] at h
    obtain ⟨-, rfl, -⟩ := h
    rw [hhit v hc]
    rfl
  | none =>
    rw [hc] at h
    cases uncached with
    | error err =>
      obtain ⟨-, rfl, -⟩ := h
      rfl
    | ok addr =>
      obtain ⟨w, m₂, tr₂, -, h, -⟩ := h
      obtain ⟨-, rfl, -⟩ := h
      rfl

end Cache

section Keys

/-- What is assumed of the packages for keys and addresses: hashes have twenty bytes, and the program
of a bech32 address can be read back. -/
structure LawfulKeys (keys : KeyLib) (witnessProgram : String → Option Bytes) : Prop where
  hash160_length : ∀ b, (keys.hash160 b).length = 20
  program : ∀ b addr, BTCDeriver.bech32Address keys "bc" (0x00 :: b) = .ok addr → witnessProgram addr = some b

variable {keys : KeyLib} {witnessProgram : String → Option Bytes}

lemma deriveUncached_ok {d : BTCDeriver} {index change : Int} {addr : String}
    (h : d.deriveUncached keys index change = .ok addr) : ∃ pub,
      d.deriveChildPubKey keys index change = .ok pub ∧
      BTCDeriver.bech32Address keys "bc" (0x00 :: keys.hash160 pub) = .ok addr :=
  except_bind_ok h

lemma parseBTCPath_written (lib : Lib) {index change : Int} (hchange : change = 0 ∨ change = 1)
    (hindex : 0 ≤ index) (hrange : index < 2 ^ 31) :
    parseBTCPath lib ("m/84'/0'/0'/" ++ toString change ++ "/" ++ toString index) = .ok (change, index) := by
  obtain ⟨i, rfl⟩ := Int.eq_ofNat_of_zero_le hindex
  obtain ⟨c, rfl⟩ := Int.eq_ofNat_of_zero_le (show 0 ≤ change by omega)
  exact parseBTCPath_of_grammar ⟨c, i, by omega, by omega, trimSpace_btcPath c i, rfl, rfl⟩

def btcResult (index change : Int) (addr : String) : DeriveResult :=
  ⟨addr, "m/84'/0'/0'/" ++ toString change ++ "/" ++ toString index, index, change⟩

lemma btcDeriveAt_eq (lib : Lib) (keys : KeyLib) (d : BTCDeriver) (walletID : UUID) {index change : Int}
    (hchange : change = 0 ∨ change = 1) (hindex : 0 ≤ index) :
    d.deriveAt lib keys walletID .bitcoin index change =
      deriveCached (d.cacheKey index change) (d.deriveUncached keys index change) (btcResult index change) := by
  rw [BTCDeriver.deriveAt, if_neg (by simp), if_neg (by omega), if_neg (by omega)]
  rfl

def Spendable (reg : Registry) (witnessProgram : String → Option Bytes) (result : DeriveResult) : Prop :=
  ∃ hash compressed, reg.btcPubKeyHashFor result.derivationPath = .ok ⟨hash, some compressed⟩ ∧
    witnessProgram result.address = some hash.toList ∧ reg.keys.hash160 compressed = hash.toList

lemma spendable_of_derived {reg : Registry} (hkeys : LawfulKeys reg.keys witnessProgram) {index change : Int}
    (hchange : change = 0 ∨ change = 1) (hindex : 0 ≤ index) (hrange : index < 2 ^ 31) {addr : String}
    (h : reg.btc.deriveUncached reg.keys index change = .ok addr) :
    Spendable reg witnessProgram (btcResult index change addr) := by
  obtain ⟨pub, hpub, haddr⟩ := deriveUncached_ok h
  have hhash := toList_copyArray (hkeys.hash160_length pub)
  refine ⟨copyArray 20 (reg.keys.hash160 pub), pub, ?_, ?_, ?_⟩
  · rw [Registry.btcPubKeyHashFor, btcResult, parseBTCPath_written reg.lib hchange hindex hrange]
    change reg.btc.pubKeyHashFor reg.keys change index = _
    rw [BTCDeriver.pubKeyHashFor, hpub]
    rfl
  · rw [hhash]
    exact hkeys.program _ addr haddr
  · rw [hhash]

/-- Whatever calls, expiries and failures the cache has seen, a Bitcoin address is derived as with an
empty cache, and the key that its path gives is the one behind it. -/
theorem key_behind_address {reg : Registry} (hkeys : LawfulKeys reg.keys witnessProgram)
    (hxpub : ':' ∉ reg.btc.xpub.toList) {index change : Int} (hchange : change = 0 ∨ change = 1)
    (hindex : 0 ≤ index) (hrange : index < 2 ^ 31) (walletID : UUID) {m : MemCache}
    {log : List (Entry DeriveCall Call Answer (Except Error DeriveResult))}
    (hrun : Runs (DeriveCall.proc reg.lib reg.keys) flakyStep (fun _ op => op.NoColon) {} log m) :
    ∃ r, (∃ tr m', Exec flakyStep (reg.btc.deriveAt reg.lib reg.keys walletID .bitcoin index change) m tr r m') ∧
      (∀ tr r' m', Exec flakyStep (reg.btc.deriveAt reg.lib reg.keys walletID .bitcoin index change) m tr r' m' →
        r' = r) ∧
      (∀ tr r' m', Exec flakyStep (reg.btc.deriveAt reg.lib reg.keys walletID .bitcoin index change) {} tr r' m' →
        r' = r) ∧
      ∀ result, r = .ok result → Spendable reg witnessProgram result := by
  rw [btcDeriveAt_eq _ _ _ _ hchange hindex]
  have hresult : ∀ m, TrueEntries reg.keys m → ∀ tr r m', Exec flakyStep (deriveCached _ _ _) m tr r m' →
      r = (reg.btc.deriveUncached reg.keys index change).map (btcResult index change) :=
    fun m hm tr r m' h => deriveCached_result (hm reg.btc index change · hxpub) h
  obtain ⟨tr, r, m', h⟩ := deriveCached_returns m (reg.btc.cacheKey index change)
    (reg.btc.deriveUncached reg.keys index change) (btcResult index change)
  obtain rfl := hresult m (trueEntries_run hrun) tr r m' h
  refine ⟨_, ⟨tr, m', h⟩, hresult m (trueEntries_run hrun), hresult {} trueEntries_empty, ?_⟩
  intro result hok
  cases haddr : reg.btc.deriveUncached reg.keys index change with
  | error err =>
    rw [haddr] at hok
    cases hok
  | ok addr =>
    rw [haddr] at hok
    cases hok
    exact spendable_of_derived hkeys hchange hindex hrange haddr

end Keys

lemma referenceKeys_lawful : LawfulKeys referenceKeys knownProgram where
  hash160_length b := by
    change (programBytes _).length = 20
    simp [programBytes, littleEndian]
  program b addr h := by
    obtain ⟨data, hdata, -⟩ := except_bind_ok h
    have hknown : b ∈ programTable.map (fun e => programBytes e.1) := by
      change knownBits b = .ok data at hdata
      unfold knownBits at hdata
      split at hdata
      · rename_i e he
        exact List.mem_map.mpr ⟨e, List.mem_of_find?_eq_some he, by simpa using List.find?_some he⟩
      · cases hdata
    have hall : ∀ b ∈ programTable.map (fun e => programBytes e.1),
        (BTCDeriver.bech32Address referenceKeys "bc" (0x00 :: b)).toOption.bind knownProgram = some b := by
      decide +kernel
    have hb := hall b hknown
    rw [h] at hb
    exact hb

def flakySet (m : MemCache) (key value : String) : Except Error Unit × MemCache :=
  if key = BTCDeriver.cacheKey ⟨btcXpub⟩ 0 0 then (.error ⟨"connection refused", none⟩, m)
  else m.set key value

def flakyCache (m : MemCache) : (c : Call) → Answer c × MemCache
  | .ext (.cacheGet key) => m.get key (key = EVMDeriver.cacheKey ⟨evmXpub⟩ 0)
  | .ext (.cacheSet key value) => flakySet m key value
  | .ext c => (agree c, m)
  | .store c => ((({} : Store).handle referenceLib c).1, m)

lemma flakyCache_flakyStep (m : MemCache) (c : Call) :
    flakyStep m c (flakyCache m c).1 (flakyCache m c).2 := by
  cases c with
  | store c => rfl
  | ext c =>
    cases c with
    | cacheGet key => exact .inl ⟨_, rfl⟩
    | cacheSet key value =>
      by_cases hkey : key = BTCDeriver.cacheKey ⟨btcXpub⟩ 0 0
      · have hfails : flakySet m key value = (.error ⟨"connection refused", none⟩, m) := if_pos hkey
        exact .inr ⟨⟨_, congrArg Prod.fst hfails⟩, .inl (congrArg Prod.snd hfails)⟩
      · exact .inl (if_neg hkey)
    | _ => rfl

def derivationRun : List (Entry DeriveCall Call Answer (Except Error DeriveResult)) × MemCache :=
  runAll (DeriveCall.proc referenceLib referenceKeys) flakyCache {}
    [.btc ⟨btcXpub⟩ .nil .bitcoin 5 0, .evm ⟨evmXpub⟩ .nil .ethereum 0 0, .evm ⟨evmXpub⟩ .nil .ethereum 0 0,
      .btc ⟨btcXpub⟩ .nil .bitcoin 0 0]

@[irreducible] def cachedDerivation : Trace × Except Error DeriveResult × MemCache :=
  (referenceRegistry.btc.deriveAt referenceRegistry.lib referenceRegistry.keys .nil .bitcoin 5 0).run flakyCache
    derivationRun.2

/-- The address at index 5 is found in the cache. -/
theorem key_behind_address_cached :
    Runs (DeriveCall.proc referenceLib referenceKeys) flakyStep (fun _ op => op.NoColon) {} derivationRun.1
      derivationRun.2 ∧
    derivationRun.2.data.lookup (BTCDeriver.cacheKey ⟨btcXpub⟩ 5 0) =
      some "bc1qxhvckq94yfex3wufzxhxjpvpc8z3hrpst5xl98" ∧ cachedDerivation.1.length = 1 ∧
    cachedDerivation.2.1 = .ok (btcResult 5 0 "bc1qxhvckq94yfex3wufzxhxjpvpc8z3hrpst5xl98") ∧
    Spendable referenceRegistry knownProgram (btcResult 5 0 "bc1qxhvckq94yfex3wufzxhxjpvpc8z3hrpst5xl98") := by
  have hxpub : ':' ∉ referenceRegistry.btc.xpub.toList := by decide
  have hindex : (0 : Int) ≤ 5 ∧ (5 : Int) < 2 ^ 31 := by decide
  have hrun : Runs (DeriveCall.proc referenceLib referenceKeys) flakyStep (fun _ op => op.NoColon) {}
      derivationRun.1 derivationRun.2 := by
    refine runs_runAll flakyCache_flakyStep _ ?_
    intro op hop m
    simp only [List.mem_cons, List.not_mem_nil, or_false] at hop
    rcases hop with rfl | rfl | rfl | rfl <;> first | exact hxpub | trivial
  have hexec := Prog.run_exec flakyCache_flakyStep
    (referenceRegistry.btc.deriveAt referenceRegistry.lib referenceRegistry.keys .nil .bitcoin 5 0)
    derivationRun.2
  obtain ⟨hentry, hread, hresult⟩ :
      derivationRun.2.data.lookup (BTCDeriver.cacheKey ⟨btcXpub⟩ 5 0) =
        some "bc1qxhvckq94yfex3wufzxhxjpvpc8z3hrpst5xl98" ∧ cachedDerivation.1.length = 1 ∧
      cachedDerivation.2.1 = .ok (btcResult 5 0 "bc1qxhvckq94yfex3wufzxhxjpvpc8z3hrpst5xl98") := by
    decide +kernel
  have hlawful : LawfulKeys referenceRegistry.keys knownProgram := referenceKeys_lawful
  obtain ⟨r, -, hsame, -, hspend⟩ := key_behind_address hlawful hxpub
    (show (0 : Int) = 0 ∨ (0 : Int) = 1 from .inl rfl) hindex.1 hindex.2 .nil hrun
  have hcall := hsame _ _ _ hexec
  rw [← cachedDerivation] at hcall
  exact ⟨hrun, hentry, hread, hresult, hspend _ (hcall.symm.trans hresult)⟩

end WalletManager.Proofs
