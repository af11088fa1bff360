import WalletManager.Interaction.Protocol
import WalletManager.Proofs.FundingRequests
import WalletManager.Proofs.Keys

/-!
# Interleaved funding operations

The check for an open request and the insert are two store calls, and callbacks may close a
request in between. The insert looks again, so that a wallet and asset never has two open
requests, and a request is sent only by the call that has stored it.
-/

namespace WalletManager.Proofs

open Interaction

inductive FundingPhase
  | idle
  | stored (f : FundingRequest)
  | sent (f : FundingRequest)

def passes : Call → Bool
  | .store (.getWallet _) | .store (.getBalance _ _) | .store (.getOpenFundingRequest _ _) => true
  | .ext (.emit _) => true
  | _ => false

inductive FundingMoves (op : FundingOp) : FundingPhase → (c : Call) → Answer c → FundingPhase → Prop
  | pass {g : FundingPhase} {c : Call} {r : Answer c} : passes c = true → FundingMoves op g c r g
  | refuse {f : FundingRequest} {err : Error} :
    FundingMoves op .idle (.store (.createFundingRequest f)) (.error err) .idle
  | keep {f : FundingRequest} : op.newID = some f.id → f.state = .requested →
    FundingMoves op .idle (.store (.createFundingRequest f)) (.ok ()) (.stored f)
  | send {f : FundingRequest} {r : Except Error Unit} :
    FundingMoves op (.stored f) (.ext (.requestFunding (treasuryRequest f))) r (.sent f)
  | report {id : UUID} {state : FundingState} {batch : String} {r : Except Error Unit} :
    state ≠ .requested → FundingMoves op .idle (.store (.updateFundingState id state batch)) r .idle

def fundingProtocol (op : FundingOp) : Protocol Call Answer FundingPhase := ⟨fun _ _ => True, FundingMoves op⟩

section Conformance

variable {F α : Type} {svc : FundingService F} {op : FundingOp} {g : FundingPhase}
  {Q : FundingPhase → α → Prop}

lemma conforms_read {c : StoreCall} {f : Except Error c.Result → Proc α} (hc : passes (.store c) = true)
    (h : ∀ r, Conforms (fundingProtocol op) (f r) g Q) :
    Conforms (fundingProtocol op) (store c >>= f) g Q :=
  fun r _ => ⟨g, .pass hc, h r⟩

lemma createRequest_conforms {id : UUID} (hop : op.newID = some id) (w : Wallet)
    (asset amount reason : String) :
    Conforms (fundingProtocol op) (svc.createRequest id w asset amount reason) .idle (fun _ _ => True) := by
  have haudit : ∀ g, Conforms (fundingProtocol op)
      (FundingService.createRequest.audit svc id w asset amount reason) g (fun _ _ => True) := by
    intro g
    unfold FundingService.createRequest.audit
    split
    · exact fun r _ => ⟨g, .pass rfl, trivial⟩
    · trivial
  unfold FundingService.createRequest
  rintro (err | ⟨⟩) -
  · exact ⟨.idle, .refuse, trivial⟩
  · refine ⟨_, .keep hop rfl, ?_⟩
    dsimp only
    split
    · rintro (err | ⟨⟩) -
      · exact ⟨_, .send, trivial⟩
      · exact ⟨_, .send, haudit _⟩
    · exact haudit _

lemma fundingOp_conforms (svc : FundingService F) (op : FundingOp) :
    Conforms (fundingProtocol op) (op.proc svc) .idle (fun _ _ => True) := by
  cases op with
  | evaluate id walletID asset =>
    have hevaluate : ∀ w confirmed, Conforms (fundingProtocol (.evaluate id walletID asset))
        (FundingService.evaluateAndRequest.evaluate svc id walletID asset w confirmed) .idle
        (fun _ _ => True) := by
      intro w confirmed
      unfold FundingService.evaluateAndRequest.evaluate
      split
      · trivial
      split
      · trivial
      refine conforms_read rfl ?_
      rintro (err | f)
      · dsimp only
        split
        · exact createRequest_conforms rfl w asset _ _
        · trivial
      · trivial
    refine conforms_read rfl ?_
    rintro (err | w)
    · trivial
    · refine conforms_read rfl ?_
      rintro (err | b)
      · dsimp only
        split
        · exact hevaluate w 0
        · trivial
      · exact hevaluate w _
  | manual id walletID asset amount reason =>
    refine conforms_read rfl ?_
    rintro (err | w)
    · trivial
    · dsimp only
      split
      · trivial
      refine conforms_read rfl ?_
      rintro (err | f)
      · dsimp only
        split
        · exact createRequest_conforms rfl w asset amount reason
        · trivial
      · trivial
  | callback c => cases c <;> exact fun r _ => ⟨.idle, .report (by decide), trivial⟩

end Conformance

section Interleaving

variable {T F : Type} {svc : FundingService F} {ops : T → FundingOp} {s s' : Store}
  {γ : T → FundingPhase} {log : List (T × Event Call Answer)}

/-- At most one request of a wallet and asset is open. -/
def OneOpen (s : Store) : Prop :=
  ∀ walletID asset id id' f f', s.fundingReq.lookup id = some f → s.fundingReq.lookup id' = some f' →
    Store.isOpen walletID asset f → Store.isOpen walletID asset f' → id = id'

def askedBy (e : T × Event Call Answer) : Option TreasuryRequest := asked e.2

lemma OneOpen.create {f : FundingRequest} (h : OneOpen s) (hnone : hasOpen s f.walletID f.asset = false) :
    OneOpen (withRequest s f) := by
  have hfree : ∀ id g, s.fundingReq.lookup id = some g → ¬ Store.isOpen f.walletID f.asset g := by
    intro id g hg hopen
    rw [hasOpen, List.any_eq_false] at hnone
    exact hnone g (mem_rows.mpr ⟨id, hg⟩) hopen
  intro walletID asset id id' g g' hg hg' hopen hopen'
  have hkey : ∀ {k : FundingRequest}, Store.isOpen walletID asset k →
      k.walletID = walletID ∧ k.asset = asset := by
    intro k hk
    simp only [Store.isOpen, decide_eq_true_eq] at hk
    exact ⟨hk.1, hk.2.1⟩
  rw [withRequest_lookup] at hg hg'
  split at hg <;> split at hg'
  · rename_i hid hid'
    rw [hid, hid']
  · cases hg
    obtain ⟨rfl, rfl⟩ := hkey hopen
    exact absurd hopen' (hfree id' g' hg')
  · cases hg'
    obtain ⟨rfl, rfl⟩ := hkey hopen'
    exact absurd hopen (hfree id g hg)
  · exact h walletID asset id id' g g' hg hg' hopen hopen'

lemma OneOpen.update (h : OneOpen s) {id : UUID} {state : FundingState} {batch : String}
    (hstate : state ≠ .requested) : OneOpen (s.updateFundingState id state batch).2 := by
  have hrows : ∀ k f, (s.updateFundingState id state batch).2.fundingReq.lookup k = some f →
      f.state = state ∨ s.fundingReq.lookup k = some f := by
    intro k f hf
    by_cases hk : k = id
    · subst hk
      rcases updateFundingState_cases s k state batch with ⟨-, err, herr⟩ | ⟨-, -, -, hnew, -⟩
      · rw [herr] at hf
        exact .inr hf
      · left
        unfold fundingState at hnew
        rw [hf] at hnew
        exact Option.some.inj hnew
    · right
      rcases updateFundingState_cases s id state batch with ⟨-, err, herr⟩ | ⟨-, -, -, -, hothers⟩
      · rwa [herr] at hf
      · rwa [hothers k hk] at hf
  have hopen : ∀ {walletID asset k f},
      (s.updateFundingState id state batch).2.fundingReq.lookup k = some f →
      Store.isOpen walletID asset f → s.fundingReq.lookup k = some f := by
    intro walletID asset k f hf hf'
    rcases hrows k f hf with hs | hs
    · simp only [Store.isOpen, decide_eq_true_eq] at hf'
      exact absurd (hs.symm.trans hf'.2.2) hstate
    · exact hs
  intro walletID asset k k' f f' hf hf' ho ho'
  exact h walletID asset k k' f f' (hopen hf ho) (hopen hf' ho') ho ho'

structure FundingInv (ops : T → FundingOp) (γ : T → FundingPhase) (log : List (T × Event Call Answer))
    (s : Store) : Prop where
  oneOpen : OneOpen s
  stored : ∀ t f, γ t = .stored f → (ops t).newID = some f.id ∧ f.id ∈ s.fundingReq ∧
    (t, ⟨.store (.createFundingRequest f), .ok ()⟩) ∈ log
  sent : ∀ x ∈ log, ∀ q, askedBy x = some q → ∃ f, γ x.1 = .sent f ∧ q = treasuryRequest f ∧
    (ops x.1).newID = some f.id ∧ f.id ∈ s.fundingReq
  once : (log.filterMap askedBy).Pairwise (fun q q' => q.fundingRequestID ≠ q'.fundingRequestID)
  after : Throughout (fun pre x => ∀ q, askedBy x = some q → ∃ f,
    (x.1, ⟨.store (.createFundingRequest f), .ok ()⟩) ∈ pre ∧ q = treasuryRequest f) log

lemma FundingInv.start (h₀ : OneOpen s) : FundingInv ops (fun _ => .idle) [] s where
  oneOpen := h₀
  stored _ _ h := by cases h
  sent _ h := by cases h
  once := .nil
  after := throughout_nil

def DistinctRequests (ops : T → FundingOp) : Prop :=
  ∀ t t' id, (ops t).newID = some id → (ops t').newID = some id → t = t'

variable [DecidableEq T]

lemma FundingInv.move (h : FundingInv ops γ log s) (hops : DistinctRequests ops) {t : T}
    {e : Event Call Answer} {g' : FundingPhase} (hone : OneOpen s')
    (hgrow : ∀ id ∈ s.fundingReq, id ∈ s'.fundingReq)
    (hstored : ∀ f, g' = .stored f → (ops t).newID = some f.id ∧ f.id ∈ s'.fundingReq ∧
      (t, ⟨.store (.createFundingRequest f), .ok ()⟩) ∈ log ++ [(t, e)])
    (hsent : ∀ f, γ t = .sent f → g' = .sent f)
    (hasked : ∀ q, asked e = some q → ∃ f, γ t = .stored f ∧ g' = .sent f ∧ q = treasuryRequest f) :
    FundingInv ops (Function.update γ t g') (log ++ [(t, e)]) s' := by
  refine ⟨hone, ?_, ?_, ?_, ?_⟩
  · intro t' f hf
    by_cases ht' : t' = t
    · rw [ht', Function.update_self] at hf
      exact ht' ▸ hstored f hf
    · rw [Function.update_of_ne ht'] at hf
      obtain ⟨hid, hmem, hlog⟩ := h.stored t' f hf
      exact ⟨hid, hgrow _ hmem, List.mem_append_left _ hlog⟩
  · intro x hx q hq
    rcases List.mem_append.mp hx with hx | hx
    · obtain ⟨f, hf, hreq, hid, hmem⟩ := h.sent x hx q hq
      refine ⟨f, ?_, hreq, hid, hgrow _ hmem⟩
      by_cases hxt : x.1 = t
      · rw [hxt, Function.update_self]
        exact hsent f (hxt ▸ hf)
      · rw [Function.update_of_ne hxt, hf]
    · obtain rfl := List.mem_singleton.mp hx
      obtain ⟨f, hf, hg', hreq⟩ := hasked q hq
      obtain ⟨hid, hmem, -⟩ := h.stored t f hf
      exact ⟨f, by rw [Function.update_self, hg'], hreq, hid, hgrow _ hmem⟩
  · rw [List.filterMap_append, List.pairwise_append]
    refine ⟨h.once, ?_, ?_⟩
    · cases hq : askedBy (t, e) <;> simp [hq]
    · intro q hq q' hq' heq
      obtain ⟨x, hx, hxq⟩ := List.mem_filterMap.mp hq
      obtain ⟨y, hy, hyq⟩ := List.mem_filterMap.mp hq'
      obtain rfl := List.mem_singleton.mp hy
      obtain ⟨f, hf, hreq, hid, -⟩ := h.sent x hx q hxq
      obtain ⟨f', hf', -, hreq'⟩ := hasked q' hyq
      obtain ⟨hid', -, -⟩ := h.stored t f' hf'
      -- the earlier one was sent by another slot, which has another identifier
      rw [hreq, hreq'] at heq
      have hxt : x.1 = t := hops _ _ _ hid (by rw [hid']; exact congrArg some heq.symm)
      rw [hxt, hf'] at hf
      cases hf
  · refine h.after.concat ?_
    intro q hq
    obtain ⟨f, hf, -, hreq⟩ := hasked q hq
    exact ⟨f, (h.stored t f hf).2.2, hreq⟩

lemma updateFundingState_grows (id : UUID) (state : FundingState) (batch : String) :
    ∀ k ∈ s.fundingReq, k ∈ (s.updateFundingState id state batch).2.fundingReq := by
  intro k hk
  unfold Store.updateFundingState
  split
  · exact hk
  · exact (AList.mem_insert _).mpr (.inr hk)

lemma passes_rows {lib : Lib} {c : Call} {r : Answer c} (hc : passes c = true)
    (hs : memStep lib s c r s') : s' = s ∧ asked ⟨c, r⟩ = none := by
  cases c with
  | store c =>
    obtain rfl : s' = (s.handle lib c).2 := congrArg Prod.snd hs
    cases c <;> first | exact ⟨rfl, rfl⟩ | cases hc
  | ext c => cases c <;> first | exact ⟨hs, rfl⟩ | cases hc

lemma FundingInv.step {lib : Lib} (h : FundingInv ops γ log s) (hops : DistinctRequests ops) {t : T}
    {c : Call} {r : Answer c} {g' : FundingPhase} (hm : FundingMoves (ops t) (γ t) c r g')
    (hs : memStep lib s c r s') :
    FundingInv ops (Function.update γ t g') (log ++ [(t, ⟨c, r⟩)]) s' := by
  have hkept : ∀ f, γ t = .stored f → (ops t).newID = some f.id ∧ f.id ∈ s.fundingReq ∧
      (t, ⟨.store (.createFundingRequest f), .ok ()⟩) ∈ log ++ [(t, ⟨c, r⟩)] := by
    intro f hf
    obtain ⟨hid, hmem, hlog⟩ := h.stored t f hf
    exact ⟨hid, hmem, List.mem_append_left _ hlog⟩
  generalize hgt : γ t = g at hm
  cases hm with
  | pass hc =>
    obtain ⟨rfl, hasked⟩ := passes_rows hc hs
    refine h.move hops h.oneOpen (fun _ => id) ?_ ?_ (by simp [hasked])
    · exact fun f hf => hkept f (hgt.trans hf)
    · exact fun f hf => hgt.symm.trans hf
  | @refuse f err =>
    rcases createFundingRequest_cases s f with ⟨-, hcreate⟩ | ⟨-, hcreate⟩
    · obtain rfl : s' = s := congrArg Prod.snd (hs.trans hcreate)
      refine h.move hops h.oneOpen (fun _ => id) nofun ?_ nofun
      exact fun f hf => absurd (hgt.symm.trans hf) nofun
    · exact absurd (congrArg Prod.fst (hs.trans hcreate)) nofun
  | @keep f hid hstate =>
    rcases createFundingRequest_cases s f with ⟨-, hcreate⟩ | ⟨hnone, hcreate⟩
    · exact absurd (congrArg Prod.fst (hs.trans hcreate)) nofun
    obtain rfl : s' = withRequest s f := congrArg Prod.snd (hs.trans hcreate)
    refine h.move hops (h.oneOpen.create hnone) ?_ ?_ ?_ nofun
    · exact fun id hid => (AList.mem_insert _).mpr (.inr hid)
    · rintro f' ⟨rfl⟩
      exact ⟨hid, (AList.mem_insert _).mpr (.inl rfl), List.mem_append_right _ (List.mem_singleton_self _)⟩
    · exact fun f hf => absurd (hgt.symm.trans hf) nofun
  | @send f r =>
    obtain rfl : s' = s := hs
    refine h.move hops h.oneOpen (fun _ => id) nofun ?_ ?_
    · exact fun f hf => absurd (hgt.symm.trans hf) nofun
    · rintro q ⟨rfl⟩
      exact ⟨f, hgt, rfl, rfl⟩
  | @report id state batch r hstate =>
    obtain rfl : s' = (s.updateFundingState id state batch).2 := congrArg Prod.snd hs
    refine h.move hops (h.oneOpen.update hstate) (updateFundingState_grows id state batch) nofun ?_ nofun
    exact fun f hf => absurd (hgt.symm.trans hf) nofun

lemma idempotencyKey_inj {walletID walletID' : UUID} {asset asset' : String} {id id' : UUID}
    (h : FundingService.idempotencyKey walletID asset id = FundingService.idempotencyKey walletID' asset' id') :
    id = id' := by
  have hlist := congrArg String.toList h
  simp only [FundingService.idempotencyKey, String.toList_append] at hlist
  have hid := (List.append_inj' hlist (by rw [uuid_string_length, uuid_string_length])).2
  exact uuid_string_inj (String.toList_inj.mp hid)

theorem funding_requested_once {lib : Lib} {s₀ : Store} (hops : DistinctRequests ops)
    (h₀ : OneOpen s₀) {P : Pool T Call Answer (Except Error Unit) Store}
    (h : Pool.Leads (memStep lib) (fun _ _ _ _ => True) (Pool.start s₀ (fun t => (ops t).proc svc)) P) :
    OneOpen P.shared ∧
    (P.log.filterMap askedBy).Pairwise (fun q q' => q.fundingRequestID ≠ q'.fundingRequestID ∧
      q.idempotencyKey ≠ q'.idempotencyKey) ∧
    ∀ pre x post, P.log = pre ++ x :: post → ∀ q, askedBy x = some q → ∃ f,
      (x.1, ⟨.store (.createFundingRequest f), .ok ()⟩) ∈ pre ∧ q = treasuryRequest f ∧
      f.id ∈ P.shared.fundingReq := by
  obtain ⟨γ, hinv, -⟩ := h.invariant (π := fun t => fundingProtocol (ops t)) (J := FundingInv ops)
    (fun t => fundingOp_conforms svc (ops t))
    (.start h₀) (fun _ _ _ _ _ _ => trivial)
    (fun _ _ _ _ _ _ _ _ hJ hm _ hs => hJ.step hops hm hs)
  refine ⟨hinv.oneOpen, ?_, ?_⟩
  · refine hinv.once.imp_of_mem ?_
    intro q q' hq hq' hne
    refine ⟨hne, ?_⟩
    obtain ⟨x, hx, hxq⟩ := List.mem_filterMap.mp hq
    obtain ⟨y, hy, hyq⟩ := List.mem_filterMap.mp hq'
    obtain ⟨f, -, rfl, -, -⟩ := hinv.sent x hx q hxq
    obtain ⟨f', -, rfl, -, -⟩ := hinv.sent y hy q' hyq
    exact fun hkey => hne (idempotencyKey_inj hkey)
  · intro pre x post hsplit q hq
    obtain ⟨f, hstored, hreq⟩ := hinv.after pre x post hsplit q hq
    have hx : x ∈ P.log := by
      rw [hsplit]
      exact List.mem_append_right _ List.mem_cons_self
    obtain ⟨f', -, hreq', -, hmem⟩ := hinv.sent x hx q hq
    refine ⟨f, hstored, hreq, ?_⟩
    have hid : f.id = f'.id := congrArg TreasuryRequest.fundingRequestID (hreq.symm.trans hreq')
    rwa [hid]

def rivalOps : Fin 3 → FundingOp
  | 0 => .evaluate (UUID.ofByte 20) evmWallet.id "ETH"
  | 1 => .evaluate (UUID.ofByte 21) evmWallet.id "ETH"
  | 2 => .callback (.rejected (UUID.ofByte 20) "")

def rivalPool : Pool (Fin 3) Call Answer (Except Error Unit) Store :=
  (Pool.start (Store.initial [evmWallet] []) (fun t => (rivalOps t).proc referenceFunding)).schedule
    (fun _ _ _ _ => true) (answering agree) (Pool.numbered 2 [0, 1, 0, 1, 0, 1, 0, 1, 0, 2])

theorem funding_requested_once_rivals :
    OneOpen rivalPool.shared ∧
      (rivalPool.log.filterMap askedBy).map TreasuryRequest.fundingRequestID = [UUID.ofByte 20] := by
  have hops : DistinctRequests rivalOps := by
    have hids : ∀ t t' : Fin 3, ∀ id ∈ (rivalOps t).newID, id ∈ (rivalOps t').newID → t = t' := by
      decide +kernel
    exact hids
  have h₀ : OneOpen (Store.initial [evmWallet] []) := by
    intro walletID asset id id' f f' hf
    cases hf
  have hleads : Pool.Leads (memStep referenceLib) (fun _ _ _ _ => True)
      (Pool.start (Store.initial [evmWallet] []) (fun t => (rivalOps t).proc referenceFunding)) rivalPool :=
    Pool.Leads.schedule (fun _ _ _ _ _ => trivial) (answering_memStep agree) .refl _
  exact ⟨(funding_requested_once hops h₀ hleads).1, by decide +kernel⟩

end Interleaving

end WalletManager.Proofs
