import WalletManager.Manager
import WalletManager.Proofs.AddressRotation
import WalletManager.Proofs.BalanceOutcomes
import WalletManager.Proofs.Custody
import WalletManager.Proofs.FundingRequests
import WalletManager.Proofs.NonceSafety

/-!
# Retired wallets

`SetState`, `DeriveAddress`, the withdrawal service's `Create` and `ManualRequest` each look at
the wallet's state. `EvaluateAndRequest` does not, so a retired wallet gets a funding request
when a confirmed decrease finds it below the threshold; apart from that it gets no new rows.
-/

namespace WalletManager.Proofs

open Interaction

section Rows

variable {K V : Type} [DecidableEq K] {owner : V → UUID} {walletID : UUID} {t t' t'' : Table K V}

def NoNewRows (owner : V → UUID) (walletID : UUID) (t t' : Table K V) : Prop :=
  ∀ id v', t'.lookup id = some v' → owner v' = walletID → ∃ v, t.lookup id = some v ∧ owner v = walletID

lemma NoNewRows.refl : NoNewRows owner walletID t t := fun _ v hv hid => ⟨v, hv, hid⟩

lemma NoNewRows.trans (h : NoNewRows owner walletID t t') (h' : NoNewRows owner walletID t' t'') :
    NoNewRows owner walletID t t'' := by
  intro id v'' hv'' hid''
  obtain ⟨v', hv', hid'⟩ := h' id v'' hv'' hid''
  exact h id v' hv' hid'

lemma NoNewRows.insert {k : K} {v : V}
    (hv : owner v = walletID → ∃ v₀, t.lookup k = some v₀ ∧ owner v₀ = walletID) :
    NoNewRows owner walletID t (t.insert k v) := by
  intro id v' hv' hid
  rw [lookup_insert_eq] at hv'
  split at hv'
  · rename_i hk
    cases hv'
    exact hk ▸ hv hid
  · exact ⟨v', hv', hid⟩

end Rows

section Inert

variable {lib : Lib} {s s' s'' : Store} {walletID : UUID}

def IsRetired (s : Store) (walletID : UUID) : Prop :=
  ∃ w, s.wallets.lookup walletID = some w ∧ w.state = .retired

structure Inert (walletID : UUID) (s s' : Store) : Prop where
  retired : IsRetired s walletID → IsRetired s' walletID
  addresses : NoNewRows Address.walletID walletID s.addresses s'.addresses
  withdrawals : NoNewRows WithdrawalRequest.walletID walletID s.withdrawals s'.withdrawals
  requests : NoNewRows FundingRequest.walletID walletID s.fundingReq s'.fundingReq

lemma Inert.refl : Inert walletID s s := ⟨id, .refl, .refl, .refl⟩

lemma Inert.trans (h : Inert walletID s s') (h' : Inert walletID s' s'') : Inert walletID s s'' :=
  ⟨h'.retired ∘ h.retired, h.addresses.trans h'.addresses, h.withdrawals.trans h'.withdrawals,
    h.requests.trans h'.requests⟩

structure AtRest (s : Store) : Prop where
  keyed : KeyedWallets s
  depth : s.depth = 0

def WritesFor (owner : UUID) : Call → Prop
  | .store (.getWallet _) | .store (.getActiveAddress _) | .store (.listAddresses _) => True
  | .store (.nextAddressIndex _ _) | .store (.deprecateAddress _) => True
  | .store (.updateWithdrawalState _ _ _ _ _) | .store (.getOpenFundingRequest _ _) => True
  | .store (.insertAddress a _) => a.walletID = owner
  | .store (.createWithdrawal wr) => wr.walletID = owner
  | .store (.createFundingRequest f) => f.walletID = owner
  | .store _ => False
  | .ext _ => True

structure WrittenFor (owner : UUID) (s s' : Store) : Prop where
  inert : ∀ walletID, walletID ≠ owner → Inert walletID s s'
  wallets : s'.wallets = s.wallets
  depth : s'.depth = s.depth

lemma WrittenFor.refl {owner : UUID} : WrittenFor owner s s := ⟨fun _ _ => .refl, rfl, rfl⟩

lemma WrittenFor.trans {owner : UUID} (h : WrittenFor owner s s') (h' : WrittenFor owner s' s'') :
    WrittenFor owner s s'' :=
  ⟨fun walletID hne => (h.inert walletID hne).trans (h'.inert walletID hne),
    h'.wallets.trans h.wallets, h'.depth.trans h.depth⟩

lemma AtRest.of_wallets (h : AtRest s) (hwallets : s'.wallets = s.wallets) (hdepth : s'.depth = s.depth) :
    AtRest s' := by
  refine ⟨?_, hdepth.trans h.depth⟩
  intro id w hw
  exact h.keyed id w (by rw [← hwallets, hw])

lemma insertAddress_writtenFor (a : Address) (now : Int) :
    WrittenFor a.walletID s (s.insertAddress a now).2 := by
  unfold Store.insertAddress
  split
  · exact .refl
  split
  · exact .refl
  · refine ⟨fun walletID hne => ⟨id, .insert ?_, .refl, .refl⟩, rfl, rfl⟩
    intro hid
    split at hid <;> exact absurd hid.symm hne

lemma deprecateAddress_writtenFor {owner : UUID} (id : UUID) :
    WrittenFor owner s (s.deprecateAddress id).2 := by
  unfold Store.deprecateAddress Store.updateAddress
  split
  · exact .refl
  · rename_i a ha
    exact ⟨fun _ _ => ⟨fun h => h, .insert (fun hid => ⟨a, ha, hid⟩), .refl, .refl⟩, rfl, rfl⟩

lemma createWithdrawal_writtenFor (wr : WithdrawalRequest) :
    WrittenFor wr.walletID s (s.createWithdrawal wr).2 := by
  unfold Store.createWithdrawal
  dsimp only
  split
  · exact .refl
  split
  · exact .refl
  · exact ⟨fun _ hne => ⟨id, .refl, .insert (fun hid => absurd hid.symm hne), .refl⟩, rfl, rfl⟩

lemma updateWithdrawalState_writtenFor {owner : UUID} (id : UUID) (state : WithdrawalState)
    (reason txHash decisionID : String) :
    WrittenFor owner s (s.updateWithdrawalState id state reason txHash decisionID).2 := by
  unfold Store.updateWithdrawalState
  split
  · exact .refl
  · rename_i wr hwr
    exact ⟨fun _ _ => ⟨fun h => h, .refl, .insert (fun hid => ⟨wr, hwr, hid⟩), .refl⟩, rfl, rfl⟩

lemma withRequest_writtenFor (f : FundingRequest) : WrittenFor f.walletID s (withRequest s f) :=
  ⟨fun _ hne => ⟨id, .refl, .refl, .insert (fun hid => absurd hid.symm hne)⟩, rfl, rfl⟩

lemma writesFor_step {owner : UUID} {c : Call} {r : Answer c} (hc : WritesFor owner c)
    (hs : memStep lib s c r s') : WrittenFor owner s s' := by
  cases c with
  | ext c =>
    obtain rfl : s' = s := hs
    exact .refl
  | store c =>
    obtain rfl : s' = (s.handle lib c).2 := congrArg Prod.snd hs
    cases c with
    | insertAddress a now =>
      obtain rfl : a.walletID = owner := hc
      exact insertAddress_writtenFor a now
    | deprecateAddress id => exact deprecateAddress_writtenFor id
    | createWithdrawal wr =>
      obtain rfl : wr.walletID = owner := hc
      exact createWithdrawal_writtenFor wr
    | updateWithdrawalState => exact updateWithdrawalState_writtenFor _ _ _ _ _
    | createFundingRequest f =>
      obtain rfl : f.walletID = owner := hc
      rcases createFundingRequest_cases s f with ⟨-, hcreate⟩ | ⟨-, hcreate⟩
      · rw [show s.handle lib (.createFundingRequest f) = _ from hcreate]
        exact .refl
      · rw [show s.handle lib (.createFundingRequest f) = _ from hcreate]
        exact withRequest_writtenFor f
    | _ => first | exact False.elim hc | exact .refl

end Inert

section Operations

variable {F α : Type} {lib : Lib} {s s' : Store} {w : Wallet}

def Provides (owner : UUID) : Call → Prop
  | .store (.getActiveAddress _) | .store (.listAddresses _) | .store (.nextAddressIndex _ _) => True
  | .store (.deprecateAddress _) | .store (.getOpenFundingRequest _ _) => True
  | .store (.updateWithdrawalState _ _ _ _ _) => True
  | .store (.insertAddress a _) => a.walletID = owner
  | .store (.createWithdrawal wr) => wr.walletID = owner ∧ wr.reservedOutpoints = []
  | .store (.createFundingRequest f) => f.walletID = owner
  | .ext (.acquire _ _) | .ext (.release _ _) | .ext (.cacheGet _) | .ext (.cacheSet _ _) => True
  | .ext (.checkWhitelist _) | .ext (.emit _) | .ext (.requestFunding _) => True
  | _ => False

lemma Provides.writesFor {owner : UUID} {c : Call} (hc : Provides owner c) : WritesFor owner c := by
  cases c with
  | ext c => trivial
  | store c => cases c <;> first | exact hc | exact hc.1 | exact False.elim hc

lemma deriveCached_calls {owner : UUID} (key : String) (uncached : Except Error String)
    (make : String → DeriveResult) :
    (deriveCached key uncached make).AllCalls (Provides owner) := by
  refine ⟨trivial, ?_⟩
  intro r
  dsimp only [Prog.bind]
  split
  · trivial
  split
  · trivial
  · exact ⟨trivial, fun _ => trivial⟩

lemma forChain_calls {owner : UUID} {registry : Registry} {chain : Chain} {d : Deriver}
    (hd : registry.forChain chain = .ok d) (id : UUID) (chain' : Chain) (index change : Int) :
    (d id chain' index change).AllCalls (Provides owner) := by
  have hcached : ∀ {p : Prop} [Decidable p] {err : Error} {q : Proc (Except Error DeriveResult)},
      q.AllCalls (Provides owner) → (if p then return .error err else q).AllCalls (Provides owner) := by
    intro p _ err q hq
    split
    · trivial
    · exact hq
  unfold Registry.forChain at hd
  split at hd
  · cases hd
    exact hcached (hcached (hcached (deriveCached_calls _ _ _)))
  split at hd
  · cases hd
    exact hcached (deriveCached_calls _ _ _)
  split at hd
  · cases hd
    exact hcached (hcached (hcached (deriveCached_calls _ _ _)))
  · cases hd

lemma deriveNew_calls (p : RotationPolicy) (w : Wallet) (fresh : Fresh) :
    (p.deriveNew w fresh).AllCalls (Provides w.id) := by
  unfold RotationPolicy.deriveNew
  split
  · trivial
  rename_i d hd
  have hinsert : ∀ idx, (RotationPolicy.deriveNew.insert p w fresh d idx).AllCalls (Provides w.id) := by
    intro idx
    refine (forChain_calls hd w.id w.chain idx 0).bind ?_
    rintro (err | res)
    · trivial
    refine ⟨rfl, ?_⟩
    rintro (err | _)
    · trivial
    dsimp only [Prog.bind]
    split
    · exact ⟨trivial, fun _ => trivial⟩
    · trivial
  refine ⟨trivial, ?_⟩
  rintro (err | idx)
  · trivial
  dsimp only [Prog.bind]
  split
  · refine ⟨trivial, ?_⟩
    intro r
    dsimp only [Prog.bind]
    split
    · exact hinsert idx
    · refine ⟨trivial, ?_⟩
      rintro (err | _)
      · trivial
      · exact hinsert idx
  · exact hinsert idx

lemma underLock_calls {owner : UUID} {w : Wallet} {body : Proc (Except Error Address)}
    (hbody : body.AllCalls (Provides owner)) :
    (RotationPolicy.underLock w body).AllCalls (Provides owner) := by
  refine ⟨trivial, ?_⟩
  rintro (err | ⟨token, ok⟩)
  · trivial
  dsimp only [Prog.bind]
  split
  · trivial
  · exact hbody.bind (fun r => ⟨trivial, fun _ => trivial⟩)

lemma rotate_calls (p : RotationPolicy) (w : Wallet) (old : Address) (fresh : Fresh) :
    (p.rotate w old fresh).AllCalls (Provides w.id) := by
  refine underLock_calls ⟨trivial, ?_⟩
  rintro (err | _)
  · trivial
  refine (deriveNew_calls p w fresh).bind ?_
  rintro (err | addr)
  · trivial
  dsimp only
  split
  · exact ⟨trivial, fun _ => trivial⟩
  · trivial

lemma deriveNewLoop_calls (p : RotationPolicy) (w : Wallet) (fresh : Fresh) (retries : Nat) :
    (p.deriveNewLoop w fresh retries).AllCalls (Provides w.id) := by
  induction retries with
  | zero => trivial
  | succ retries ih =>
    refine ⟨trivial, ?_⟩
    rintro (err | ⟨token, ok⟩)
    · trivial
    dsimp only [Prog.bind]
    split
    · refine ⟨trivial, ?_⟩
      rintro (err | active)
      · dsimp only [Prog.bind]
        split
        · exact ih
        · trivial
      · trivial
    · refine ⟨trivial, ?_⟩
      rintro (err | active)
      · dsimp only [Prog.bind]
        split
        · exact (deriveNew_calls p w fresh).bind (fun r => ⟨trivial, fun _ => trivial⟩)
        · exact ⟨trivial, fun _ => trivial⟩
      · exact ⟨trivial, fun _ => trivial⟩

/-- What an operation that has loaded a wallet does: nothing, or it works for that wallet, which is
not retired. -/
def Acts (id : UUID) (s s' : Store) : Prop :=
  s' = s ∨ WrittenFor id s s' ∧ ¬IsRetired s id

def LoadsWallet (id : UUID) (p : Proc α) : Prop :=
  ∃ f, p = (store (.getWallet id) >>= f) ∧ (∀ err, ∃ a, f (.error err) = .ret a) ∧
    (∀ w, w.state = .retired → ∃ a, f (.ok w) = .ret a) ∧
    ∀ w, w.state ≠ .retired → ∃ owner, (w.id = id → owner = id) ∧ (f (.ok w)).AllCalls (Provides owner)

lemma LoadsWallet.acts {id : UUID} {p : Proc α} (h : LoadsWallet id p) (hkeyed : KeyedWallets s) :
    Saga lib p s (fun _ _ s' => Acts id s s') := by
  obtain ⟨f, rfl, herr, hretired, hok⟩ := h
  refine getWallet_saga ?_ ?_
  · intro err
    obtain ⟨a, ha⟩ := herr err
    rw [ha]
    exact ends_ret.mpr (.inl rfl)
  · intro w hw
    by_cases hstate : w.state = .retired
    · obtain ⟨a, ha⟩ := hretired w hstate
      rw [ha]
      exact ends_ret.mpr (.inl rfl)
    · obtain ⟨owner, howner, hcalls⟩ := hok w hstate
      obtain rfl := howner (hkeyed id w hw)
      have hends : Saga lib (f (.ok w)) s (fun _ _ s' => WrittenFor owner s s') :=
        hcalls.ends .refl (fun _ _ _ _ h hc hs => h.trans (writesFor_step hc.writesFor hs))
      refine hends.mono ?_
      intro _ _ s' h
      refine .inr ⟨h, ?_⟩
      rintro ⟨w', hw', hretired'⟩
      obtain rfl : w' = w := Option.some.inj (hw'.symm.trans hw)
      exact hstate hretired'

lemma deriveAddress_loads (p : RotationPolicy) (walletID : UUID) (force : Bool) (fresh : Fresh) :
    LoadsWallet walletID (p.deriveAddress walletID force fresh) := by
  unfold RotationPolicy.deriveAddress
  split
  · refine ⟨_, rfl, fun err => ⟨_, rfl⟩, fun w hw => ⟨_, if_pos hw⟩, fun w hstate => ⟨w.id, id, ?_⟩⟩
    dsimp only
    rw [if_neg hstate]
    refine ⟨trivial, ?_⟩
    rintro (err | active)
    · dsimp only [Prog.bind]
      split
      · exact underLock_calls (deriveNew_calls p w fresh)
      · trivial
    · exact rotate_calls p w active fresh
  · refine ⟨_, rfl, fun err => ⟨_, rfl⟩, fun w hw => ⟨_, if_pos hw⟩, fun w hstate => ⟨w.id, id, ?_⟩⟩
    dsimp only
    rw [if_neg hstate]
    refine ⟨trivial, ?_⟩
    rintro (err | active)
    · dsimp only [Prog.bind]
      split
      · exact deriveNewLoop_calls p w fresh 20
      · trivial
    · dsimp only [Prog.bind]
      split
      · exact rotate_calls p w active fresh
      · trivial

lemma createWithdrawal_loads (svc : Service) (id : UUID) (req : CreateRequest) :
    LoadsWallet req.walletID (svc.create id req) := by
  have hemit : ∀ e, (svc.emit e).AllCalls (Provides req.walletID) := by
    intro e
    unfold Service.emit
    split
    · exact ⟨trivial, fun _ => trivial⟩
    · trivial
  refine ⟨_, rfl, fun err => ⟨_, rfl⟩, fun w hw => ⟨_, if_pos hw⟩,
    fun w hstate => ⟨req.walletID, fun _ => rfl, ?_⟩⟩
  dsimp only
  rw [if_neg hstate]
  split
  · trivial
  refine ⟨⟨rfl, rfl⟩, ?_⟩
  rintro (err | _)
  · trivial
  refine (hemit _).bind (fun _ => ⟨trivial, fun answer => (hemit _).bind (fun _ => ?_)⟩)
  unfold Service.applyDecision
  split
  · split
    · refine ⟨trivial, ?_⟩
      rintro (err | _) <;> trivial
    · exact ⟨trivial, fun _ => trivial⟩
  · exact ⟨trivial, fun _ => trivial⟩
  · exact ⟨trivial, fun _ => trivial⟩

lemma createRequest_calls (svc : FundingService F) (id : UUID) (w : Wallet) (asset amount reason : String) :
    (svc.createRequest id w asset amount reason).AllCalls (Provides w.id) := by
  have haudit : (FundingService.createRequest.audit svc id w asset amount reason).AllCalls
      (Provides w.id) := by
    unfold FundingService.createRequest.audit
    split
    · exact ⟨trivial, fun _ => trivial⟩
    · trivial
  refine ⟨rfl, ?_⟩
  rintro (err | _)
  · trivial
  dsimp only [Prog.bind]
  split
  · refine ⟨trivial, ?_⟩
    rintro (err | _)
    · trivial
    · exact haudit
  · exact haudit

lemma manualRequest_loads (svc : FundingService F) (id walletID : UUID) (asset amount reason : String) :
    LoadsWallet walletID (svc.manualRequest id walletID asset amount reason) := by
  refine ⟨_, rfl, fun err => ⟨_, rfl⟩, fun w hw => ⟨_, if_pos hw⟩, fun w hstate => ⟨w.id, fun h => h, ?_⟩⟩
  dsimp only
  rw [if_neg hstate]
  refine ⟨trivial, ?_⟩
  rintro (err | f)
  · dsimp only [Prog.bind]
    split
    · exact createRequest_calls svc id w asset amount reason
    · trivial
  · trivial

lemma Acts.inert {id walletID : UUID} (h : Acts id s s') (hretired : IsRetired s walletID) :
    Inert walletID s s' := by
  rcases h with rfl | ⟨hw, hactive⟩
  · exact .refl
  · refine hw.inert walletID ?_
    rintro rfl
    exact hactive hretired

lemma Acts.atRest {id : UUID} (h : Acts id s s') (hrest : AtRest s) : AtRest s' := by
  rcases h with rfl | ⟨hw, -⟩
  · exact hrest
  · exact hrest.of_wallets hw.wallets hw.depth

structure Undisturbing (s s' : Store) : Prop where
  atRest : AtRest s'
  inert : ∀ walletID, IsRetired s walletID → Inert walletID s s'

lemma Undisturbing.refl (hrest : AtRest s) : Undisturbing s s := ⟨hrest, fun _ _ => .refl⟩

lemma Acts.undisturbing {id : UUID} (h : Acts id s s') (hrest : AtRest s) : Undisturbing s s' :=
  ⟨h.atRest hrest, fun _ => h.inert⟩

lemma AtRest.setWallet (hrest : AtRest s) {id : UUID} {w : Wallet} (hid : w.id = id)
    (hstate : IsRetired s id → w.state = .retired) :
    Undisturbing s { s with wallets := s.wallets.insert id w } := by
  refine ⟨⟨?_, hrest.depth⟩, fun walletID hretired => ⟨fun _ => ?_, .refl, .refl, .refl⟩⟩
  · intro j w' hw'
    rw [lookup_insert_eq] at hw'
    split at hw'
    · cases hw'
      rw [hid, ‹j = id›]
    · exact hrest.keyed j w' hw'
  · by_cases hw : walletID = id
    · subst hw
      exact ⟨w, AList.lookup_insert _, hstate hretired⟩
    · obtain ⟨w', hw', hstate'⟩ := hretired
      exact ⟨w', (AList.lookup_insert_ne hw).trans hw', hstate'⟩

end Operations

section Runs

variable {F : Type} {m : Manager F} {s₀ s₁ s s' : Store} {walletID : UUID}

/-- No evaluation meets a retired hot wallet that is below the threshold and has no open request. -/
def SparesRetired (m : Manager F) (s : Store) : ManagerOp → Prop
  | .evaluate _ walletID asset => ∀ w ∈ s.wallets.lookup walletID, w.state = .retired → w.type = .hot →
    m.funding.funded (confirmedBalance m.funding.lib s walletID asset) = true ∨
      hasOpen s walletID asset = true
  | _ => True

instance (m : Manager F) (s : Store) (op : ManagerOp) : Decidable (SparesRetired m s op) := by
  cases op <;> unfold SparesRetired <;> infer_instance

abbrev ManagerEntry := Entry ManagerOp Call Answer (Except Error Unit)

abbrev ManagerRuns (m : Manager F) : Store → List ManagerEntry → Store → Prop :=
  Runs (ManagerOp.proc m) (memStep m.funding.lib) (SparesRetired m)

lemma evaluate_undisturbing (hrest : AtRest s) {id : UUID} {asset : String}
    (hspares : SparesRetired m s (.evaluate id walletID asset)) {tr : Trace} {a : Except Error Unit}
    (he : Exec (memStep m.funding.lib) (m.funding.evaluateAndRequest id walletID asset) s tr a s') :
    Undisturbing s s' := by
  rcases evaluateAndRequest_ends m.funding s id walletID asset tr a s' he with ⟨w, hw, h⟩ | ⟨-, -, rfl⟩
  · unfold Evaluated at h
    dsimp only at h
    split at h
    · rename_i hcond
      obtain ⟨hhot, hbelow, hopen, -⟩ := hcond
      obtain ⟨rfl, -⟩ := h
      have hactive : ¬IsRetired s walletID := by
        rintro ⟨w', hw', hretired⟩
        obtain rfl : w' = w := Option.some.inj (hw'.symm.trans hw)
        rcases hspares w' hw' hretired hhot with hfunded | hopen'
        · rw [hbelow] at hfunded
          cases hfunded
        · rw [hopen] at hopen'
          cases hopen'
      have hid : (autoRequest m.funding id w asset
          (confirmedBalance m.funding.lib s walletID asset)).walletID = walletID := hrest.keyed walletID w hw
      have hwritten := withRequest_writtenFor (s := s) (autoRequest m.funding id w asset
        (confirmedBalance m.funding.lib s walletID asset))
      rw [hid] at hwritten
      exact Acts.undisturbing (.inr ⟨hwritten, hactive⟩) hrest
    · obtain ⟨-, rfl⟩ := h
      exact .refl hrest
  · exact .refl hrest

theorem managerOp_undisturbing (hrest : AtRest s) {op : ManagerOp} (hspares : SparesRetired m s op)
    {tr : Trace} {a : Except Error Unit}
    (he : Exec (memStep m.funding.lib) (op.proc m) s tr a s') : Undisturbing s s' := by
  cases op with
  | createWallet id fresh req =>
    obtain ⟨r, s₁, tr₁, tr₂, hp, ⟨-, -, rfl⟩, -⟩ := exec_bind.mp he
    rcases create_saga m.wallets id fresh req tr₁ r s' hp with ⟨err, -, rfl⟩ | ⟨w, -, hnone, hid, -, rfl⟩
    · exact .refl hrest
    · refine hrest.setWallet hid ?_
      rintro ⟨w', hw', -⟩
      rw [hnone] at hw'
      cases hw'
  | setState id state =>
    rcases setState_saga m.wallets id state tr a s' he with rfl | ⟨next, w, -, hw, hkept, rfl⟩
    · exact .refl hrest
    · refine hrest.setWallet (hrest.keyed id w hw) ?_
      rintro ⟨w', hw', hretired⟩
      obtain rfl : w' = w := Option.some.inj (hw'.symm.trans hw)
      exact hkept hretired
  | deriveAddress walletID force fresh =>
    obtain ⟨r, s₁, tr₁, tr₂, hp, ⟨-, -, rfl⟩, -⟩ := exec_bind.mp he
    exact ((deriveAddress_loads m.rotation walletID force fresh).acts hrest.keyed tr₁ r s' hp).undisturbing hrest
  | createWithdrawal id req =>
    obtain ⟨r, s₁, tr₁, tr₂, hp, ⟨-, -, rfl⟩, -⟩ := exec_bind.mp he
    exact ((createWithdrawal_loads m.withdrawals id req).acts hrest.keyed tr₁ r s' hp).undisturbing hrest
  | confirm ev =>
    have hsame := applyConfirmationEvent_others hrest.depth ev tr a s'
      (he.mono (fun _ _ _ _ => memStep_faultStep False))
    refine ⟨hrest.of_wallets hsame.wallets hsame.depth, fun walletID hretired => ⟨?_, ?_, ?_, ?_⟩⟩
    · intro h
      rwa [IsRetired, hsame.wallets]
    · rw [hsame.addresses]
      exact .refl
    · rw [hsame.withdrawals]
      exact .refl
    · rw [hsame.fundingReq]
      exact .refl
  | evaluate id walletID asset => exact evaluate_undisturbing hrest hspares he
  | manualRequest id walletID asset amount reason =>
    exact ((manualRequest_loads m.funding id walletID asset amount reason).acts hrest.keyed
      tr a s' he).undisturbing
      hrest

/-- From the moment a wallet is retired, it stays so and gets no new rows. -/
theorem retired_wallets_are_inert (h₀ : AtRest s₀) {pre post : List ManagerEntry}
    (hpre : ManagerRuns m s₀ pre s₁) (hretired : IsRetired s₁ walletID)
    (hpost : ManagerRuns m s₁ post s) :
    IsRetired s walletID ∧ NoNewRows Address.walletID walletID s₁.addresses s.addresses ∧
      NoNewRows WithdrawalRequest.walletID walletID s₁.withdrawals s.withdrawals ∧
      NoNewRows FundingRequest.walletID walletID s₁.fundingReq s.fundingReq := by
  have hrest : AtRest s₁ := by
    refine hpre.invariant (I := fun _ s => AtRest s) h₀ ?_
    intro _ s op tr a s' hrest hspares he
    exact (managerOp_undisturbing hrest hspares he).atRest
  have hinert : AtRest s ∧ Inert walletID s₁ s := by
    refine hpost.invariant (I := fun _ s => AtRest s ∧ Inert walletID s₁ s) ⟨hrest, .refl⟩ ?_
    rintro _ s op tr a s' ⟨hrest, hinert⟩ hspares he
    have hstep := managerOp_undisturbing hrest hspares he
    exact ⟨hstep.atRest, hinert.trans (hstep.inert walletID (hinert.retired hretired))⟩
  exact ⟨hinert.2.retired hretired, hinert.2.addresses, hinert.2.withdrawals, hinert.2.requests⟩

def referenceManager : Manager ℚ where
  wallets := { lib := referenceLib }
  rotation := referencePolicy
  withdrawals := referenceService
  balances := { referenceBalances with hasOnConfirmedDecrease := true }
  funding := referenceFunding

def managerRun (s₀ : Store) (ops : List ManagerOp) : List ManagerEntry × Store :=
  runAll (ManagerOp.proc referenceManager) (answering agree) s₀ ops

def retiringRun : List ManagerEntry × Store :=
  managerRun (Store.initial [evmWallet] [])
    [.deriveAddress evmWallet.id false ⟨UUID.ofByte 20, 0, 100⟩, .confirm (evmDeposit "5000" 12 7 "a"),
      .setState evmWallet.id "RETIRED"]

def afterwardsRun : List ManagerEntry × Store :=
  managerRun retiringRun.2
    [.deriveAddress evmWallet.id true ⟨UUID.ofByte 21, 0, 100⟩, .setState evmWallet.id "ACTIVE",
      .createWithdrawal (UUID.ofByte 30) (evmTransfer "1"), .confirm (evmDeposit "-1" 12 8 "b"),
      .evaluate (UUID.ofByte 40) evmWallet.id "ETH",
      .manualRequest (UUID.ofByte 41) evmWallet.id "ETH" "10" "manual"]

lemma managerRun_runs (s₀ : Store) (ops : List ManagerOp)
    (hops : ∀ i : Fin ops.length, SparesRetired referenceManager (managerRun s₀ (ops.take i)).2 ops[i]) :
    ManagerRuns referenceManager s₀ (managerRun s₀ ops).1 (managerRun s₀ ops).2 :=
  runs_runAll_of (answering_memStep agree) ops (fun i hi => hops ⟨i, hi⟩)

theorem retired_wallets_are_inert_funded :
    IsRetired retiringRun.2 evmWallet.id ∧ IsRetired afterwardsRun.2 evmWallet.id ∧
      NoNewRows Address.walletID evmWallet.id retiringRun.2.addresses afterwardsRun.2.addresses := by
  have hrest : AtRest (Store.initial [evmWallet] []) := ⟨initial_keyed _ _, rfl⟩
  have hretired : IsRetired retiringRun.2 evmWallet.id :=
    ⟨{ evmWallet with state := .retired }, by decide +kernel, rfl⟩
  have hpre : ManagerRuns referenceManager (Store.initial [evmWallet] []) retiringRun.1 retiringRun.2 :=
    managerRun_runs _ _ (by decide +kernel)
  have hpost : ManagerRuns referenceManager retiringRun.2 afterwardsRun.1 afterwardsRun.2 :=
    managerRun_runs _ _ (by decide +kernel)
  have hinert := retired_wallets_are_inert hrest hpre hretired hpost
  exact ⟨hretired, hinert.1, hinert.2.1⟩

def decreasedRun : List ManagerEntry × Store :=
  managerRun (Store.initial [evmWallet] [])
    [.setState evmWallet.id "RETIRED", .confirm (evmDeposit "-1" 12 8 "b"),
      .manualRequest (UUID.ofByte 40) evmWallet.id "ETH" "10" "manual",
      .evaluate (UUID.ofByte 41) evmWallet.id "ETH"]

theorem retired_wallet_asks_for_funds :
    decreasedRun.1.map Entry.result = [.ok (), .ok (), .error errWalletRetired, .ok ()] ∧
      (decreasedRun.1.flatMap Entry.trace).any (fun e =>
        e.call matches .ext (.onConfirmedDecrease _ _)) ∧
      (decreasedRun.2.wallets.lookup evmWallet.id).map Wallet.state = some .retired ∧
      (decreasedRun.2.fundingReq.lookup (UUID.ofByte 41)).map (fun f => (f.walletID, f.state)) =
        some (evmWallet.id, .requested) := by
  decide +kernel

end Runs

end WalletManager.Proofs
