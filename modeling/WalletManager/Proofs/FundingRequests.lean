import WalletManager.Funding.Service
import WalletManager.Proofs.NonceSafety

/-!
# Funding requests, one operation at a time

What the operations of the funding service do to the requests and ask of the treasury. The
callbacks overwrite a request's state whatever it is, and an open request keeps
`EvaluateAndRequest` from asking again, whether or not the treasury has heard of it.
-/

namespace WalletManager.Proofs

open Interaction

section Callbacks

variable {lib : Lib} {s₀ s s' : Store} {c : Callback} {r : Except Error Unit}

def fundingState (s : Store) (id : UUID) : Option FundingState :=
  (s.fundingReq.lookup id).map FundingRequest.state

def advances : FundingState → FundingState → Bool
  | .requested, .approved | .approved, .settled => true
  | .requested, .rejected | .approved, .rejected => true
  | _, _ => false

/-- The callback reports a state that follows the one of its request, if that is stored. -/
def Due (s : Store) (c : Callback) : Prop := ∀ st ∈ fundingState s c.id, advances st c.state

instance (s : Store) (c : Callback) : Decidable (Due s c) :=
  inferInstanceAs (Decidable (∀ st ∈ fundingState s c.id, advances st c.state))

/-- A call advances its own request, or it returns an error and changes nothing. -/
structure FollowsLifecycle (s : Store) (c : Callback) (r : Except Error Unit) (s' : Store) : Prop where
  others : ∀ id ≠ c.id, s'.fundingReq.lookup id = s.fundingReq.lookup id
  own : (r = .ok () ∧ ∃ st, fundingState s c.id = some st ∧ advances st c.state ∧
      fundingState s' c.id = some c.state) ∨
    ((∃ err, r = .error err) ∧ s' = s)

lemma updateFundingState_cases (s : Store) (id : UUID) (state : FundingState) (batch : String) :
    (fundingState s id = none ∧ ∃ err, s.updateFundingState id state batch = (.error err, s)) ∨
    (∃ st, fundingState s id = some st ∧ (s.updateFundingState id state batch).1 = .ok () ∧
      fundingState (s.updateFundingState id state batch).2 id = some state ∧
      ∀ id' ≠ id, (s.updateFundingState id state batch).2.fundingReq.lookup id' =
        s.fundingReq.lookup id') := by
  unfold Store.updateFundingState fundingState
  cases s.fundingReq.lookup id with
  | none => exact .inl ⟨rfl, _, rfl⟩
  | some f =>
    refine .inr ⟨_, rfl, rfl, ?_, ?_⟩
    · dsimp only
      rw [AList.lookup_insert]
      rfl
    · intro id' hne
      exact AList.lookup_insert_ne hne

lemma callback_step {tr : Trace} (h : Exec (memStep lib) c.proc s tr r s') :
    ∃ batch, (r, s') = s.updateFundingState c.id c.state batch := by
  cases c <;> obtain ⟨_, _, _, hs, ⟨-, rfl, rfl⟩, -⟩ := h <;> exact ⟨_, hs⟩

lemma Due.follows {tr : Trace} (hdue : Due s c) (h : Exec (memStep lib) c.proc s tr r s') :
    FollowsLifecycle s c r s' := by
  obtain ⟨batch, heq⟩ := callback_step h
  obtain rfl : r = (s.updateFundingState c.id c.state batch).1 := congrArg Prod.fst heq
  obtain rfl : s' = (s.updateFundingState c.id c.state batch).2 := congrArg Prod.snd heq
  rcases updateFundingState_cases s c.id c.state batch with
    ⟨-, err, herr⟩ | ⟨st, hst, hok, hnew, hothers⟩
  · rw [herr]
    exact ⟨fun _ _ => rfl, .inr ⟨⟨err, rfl⟩, rfl⟩⟩
  · exact ⟨hothers, .inl ⟨hok, st, hst, hdue st hst, hnew⟩⟩

lemma FollowsLifecycle.fundingState (h : FollowsLifecycle s c r s') {id : UUID} {st : FundingState}
    (hst : Proofs.fundingState s id = some st) :
    Proofs.fundingState s' id = some st ∨
      ∃ st', Proofs.fundingState s' id = some st' ∧ advances st st' := by
  by_cases hid : id = c.id
  · subst hid
    rcases h.own with ⟨-, st₀, hst₀, hadv, hnew⟩ | ⟨-, rfl⟩
    · obtain rfl : st = st₀ := Option.some.inj (hst.symm.trans hst₀)
      exact .inr ⟨_, hnew, hadv⟩
    · exact .inl hst
  · left
    unfold Proofs.fundingState
    rw [h.others id hid]
    exact hst

lemma advances_terminal {st st' : FundingState}
    (h : Relation.ReflTransGen (fun a b => advances a b = true) st st')
    (hst : st = .settled ∨ st = .rejected) : st' = st := by
  rcases h.cases_head with rfl | ⟨next, hstep, -⟩
  · rfl
  · rcases hst with rfl | rfl <;> cases next <;> cases hstep

def openRequest : FundingRequest :=
  { id := UUID.ofByte 20, walletID := evmWallet.id, asset := "ETH", amount := "100",
    state := .requested, reason := "auto:below_threshold" }

def openStore : Store :=
  { Store.initial [evmWallet] [] with
    fundingReq := (∅ : Table UUID FundingRequest).insert openRequest.id openRequest }

def callbackRun (cs : List Callback) : List (Entry Callback Call Answer (Except Error Unit)) × Store :=
  runAll Callback.proc (answering agree) openStore cs

def settledCallbacks : List Callback := [.approved openRequest.id "batch", .settled openRequest.id]

end Callbacks

section Requests

variable {F : Type} {svc : FundingService F} {s s' : Store} {walletID : UUID} {asset : String}

def treasuryRequest (f : FundingRequest) : TreasuryRequest :=
  ⟨f.id, f.walletID, f.asset, f.amount, FundingService.idempotencyKey f.walletID f.asset f.id, f.reason⟩

def sentFor (svc : FundingService F) (f : FundingRequest) : List TreasuryRequest :=
  if svc.hasTreasury then [treasuryRequest f] else []

lemma mem_sentFor {f : FundingRequest} {q : TreasuryRequest} (h : q ∈ sentFor svc f) :
    q = treasuryRequest f := by
  unfold sentFor at h
  split at h
  · exact List.mem_singleton.mp h
  · cases h

def asked : Event Call Answer → Option TreasuryRequest
  | ⟨.ext (.requestFunding q), _⟩ => some q
  | _ => none

def hasOpen (s : Store) (walletID : UUID) (asset : String) : Bool :=
  (Store.rows s.fundingReq).any (Store.isOpen walletID asset)

def withRequest (s : Store) (f : FundingRequest) : Store :=
  { s with fundingReq := s.fundingReq.insert f.id f }

inductive FundingOutcome (s : Store) : FundingOp → List TreasuryRequest → Store → Prop
  | idle {op : FundingOp} : FundingOutcome s op [] s
  | created {op : FundingOp} {f : FundingRequest} {l : List TreasuryRequest} :
    op.newID = some f.id → f.state = .requested → hasOpen s f.walletID f.asset = false →
    (∀ q ∈ l, q = treasuryRequest f) → FundingOutcome s op l (withRequest s f)
  | reported {c : Callback} {batch : String} :
    FundingOutcome s (.callback c) [] (s.updateFundingState c.id c.state batch).2

lemma mem_rows {K V : Type} [DecidableEq K] {t : Table K V} {v : V} :
    v ∈ Store.rows t ↔ ∃ k, t.lookup k = some v := by
  unfold Store.rows
  constructor
  · intro h
    obtain ⟨⟨k, v'⟩, hmem, rfl⟩ := List.mem_map.mp h
    exact ⟨k, AList.mem_lookup_iff.mpr hmem⟩
  · rintro ⟨k, hk⟩
    exact List.mem_map.mpr ⟨⟨k, v⟩, AList.mem_lookup_iff.mp hk, rfl⟩

lemma getOpen_of_hasOpen (h : hasOpen s walletID asset = true) :
    ∃ f, s.getOpenFundingRequest walletID asset = .ok f := by
  obtain ⟨f, hf⟩ := List.find?_isSome.mpr (by simpa [hasOpen] using h) |> Option.isSome_iff_exists.mp
  exact ⟨f, by rw [Store.getOpenFundingRequest, hf]⟩

lemma getOpen_of_not_hasOpen (h : hasOpen s walletID asset = false) :
    s.getOpenFundingRequest walletID asset = .error (errNoRows.wrap "no open funding request") := by
  have hnone : (Store.rows s.fundingReq).find? (Store.isOpen walletID asset) = none := by
    simpa [hasOpen, List.find?_eq_none] using h
  rw [Store.getOpenFundingRequest, hnone]

lemma createFundingRequest_cases (s : Store) (f : FundingRequest) :
    (hasOpen s f.walletID f.asset = true ∧ s.createFundingRequest f = (.error errDuplicateFunding, s)) ∨
    (hasOpen s f.walletID f.asset = false ∧ s.createFundingRequest f = (.ok (), withRequest s f)) := by
  cases hopen : hasOpen s f.walletID f.asset with
  | true => exact .inl ⟨rfl, if_pos hopen⟩
  | false =>
    refine .inr ⟨rfl, if_neg ?_⟩
    rw [show (Store.rows s.fundingReq).any _ = _ from hopen]
    simp

lemma createRequest_ends (id : UUID) (w : Wallet) (asset amount reason : String) :
    Ends (memStep svc.lib) asked (svc.createRequest id w asset amount reason) s (fun l _ s' =>
      if hasOpen s w.id asset = false then
        s' = withRequest s ⟨id, w.id, asset, amount, .requested, "", reason⟩ ∧
        l = sentFor svc ⟨id, w.id, asset, amount, .requested, "", reason⟩
      else l = [] ∧ s' = s) := by
  have haudit : ∀ s₁, Ends (memStep svc.lib) asked
      (FundingService.createRequest.audit svc id w asset amount reason) s₁
      (fun l _ s' => l = [] ∧ s' = s₁) := by
    intro s₁
    unfold FundingService.createRequest.audit
    split
    · exact ends_ext (fun r => ends_ret.mpr ⟨rfl, rfl⟩)
    · exact ends_ret.mpr ⟨rfl, rfl⟩
  unfold FundingService.createRequest
  rcases createFundingRequest_cases s ⟨id, w.id, asset, amount, .requested, "", reason⟩ with
    ⟨hopen, hrefused⟩ | ⟨hopen, hcreate⟩
  · refine ends_read hrefused rfl (ends_ret.mpr ?_)
    rw [if_neg (by simp [show hasOpen s w.id asset = true from hopen])]
    exact ⟨rfl, rfl⟩
  · refine ends_store_ok (a := ()) (congrArg Prod.fst hcreate) ?_
    rw [show (s.handle svc.lib (.createFundingRequest _)).2 = _ from congrArg Prod.snd hcreate]
    simp only [show hasOpen s w.id asset = false from hopen, if_true]
    unfold sentFor
    split
    · refine ends_ext ?_
      rintro (err | _)
      · exact ends_ret.mpr ⟨rfl, rfl⟩
      · refine (haudit _).mono ?_
        rintro l a s' ⟨rfl, rfl⟩
        exact ⟨rfl, rfl⟩
    · refine (haudit _).mono ?_
      rintro l a s' ⟨rfl, rfl⟩
      exact ⟨rfl, rfl⟩

def confirmedBalance (lib : Lib) (s : Store) (walletID : UUID) (asset : String) : ℚ :=
  match s.balances.lookup (balanceKey walletID asset) with
  | none => 0
  | some b => parseDec lib b.confirmed

def autoRequest (svc : FundingService F) (id : UUID) (w : Wallet) (asset : String) (confirmed : ℚ) :
    FundingRequest :=
  ⟨id, w.id, asset, svc.missingAmount confirmed, .requested, "", "auto:below_threshold"⟩

/-- A hot wallet below the threshold with no open request asks for funds; otherwise nothing
happens. The request is the one of the loaded row, which need not be the wallet that was asked for. -/
def Evaluated (svc : FundingService F) (s : Store) (id walletID : UUID) (w : Wallet) (asset : String)
    (l : List TreasuryRequest) (s' : Store) : Prop :=
  let confirmed := confirmedBalance svc.lib s walletID asset
  if w.type = .hot ∧ svc.funded confirmed = false ∧ hasOpen s walletID asset = false ∧
      hasOpen s w.id asset = false then
    s' = withRequest s (autoRequest svc id w asset confirmed) ∧
      l = sentFor svc (autoRequest svc id w asset confirmed)
  else l = [] ∧ s' = s

lemma evaluate_ends (svc : FundingService F) (s : Store) (id walletID : UUID) (w : Wallet)
    (asset : String) :
    Ends (memStep svc.lib) asked (FundingService.evaluateAndRequest.evaluate svc id walletID asset w
      (confirmedBalance svc.lib s walletID asset)) s
      (fun l _ s' => Evaluated svc s id walletID w asset l s') := by
  unfold FundingService.evaluateAndRequest.evaluate Evaluated
  dsimp only
  split
  · rename_i hcold
    refine ends_ret.mpr ?_
    rw [if_neg (fun h => hcold h.1)]
    exact ⟨rfl, rfl⟩
  split
  · rename_i hfunded
    refine ends_ret.mpr ?_
    rw [if_neg (fun h => by simp [h.2.1] at hfunded)]
    exact ⟨rfl, rfl⟩
  rename_i hhot hbelow
  cases hopen : hasOpen s walletID asset with
  | true =>
    obtain ⟨f, hf⟩ := getOpen_of_hasOpen hopen
    refine ends_read (congrArg (·, s) hf) rfl (ends_ret.mpr ?_)
    rw [if_neg (by simp)]
    exact ⟨rfl, rfl⟩
  | false =>
    refine ends_read (congrArg (·, s) (getOpen_of_not_hasOpen hopen)) rfl ?_
    refine (createRequest_ends id w asset _ _).mono ?_
    intro l a s' h
    split at h
    · rename_i hown
      rw [if_pos ⟨not_not.mp hhot, by simpa using hbelow, rfl, hown⟩]
      exact h
    · rename_i hown
      rw [if_neg (fun hcond => hown hcond.2.2.2)]
      exact h

lemma evaluateAndRequest_ends (svc : FundingService F) (s : Store) (id walletID : UUID) (asset : String) :
    Ends (memStep svc.lib) asked (svc.evaluateAndRequest id walletID asset) s (fun l _ s' =>
      (∃ w, s.wallets.lookup walletID = some w ∧ Evaluated svc s id walletID w asset l s') ∨
      (s.wallets.lookup walletID = none ∧ l = [] ∧ s' = s)) := by
  unfold FundingService.evaluateAndRequest
  refine ends_read (r := s.getWallet walletID) rfl rfl ?_
  unfold Store.getWallet
  cases s.wallets.lookup walletID with
  | none => exact ends_ret.mpr (.inr ⟨rfl, rfl, rfl⟩)
  | some w =>
    refine ends_read (r := s.getBalance walletID asset) rfl rfl ?_
    have hevaluate := evaluate_ends svc s id walletID w asset
    unfold confirmedBalance at hevaluate
    unfold Store.getBalance
    cases hrow : s.balances.lookup (balanceKey walletID asset) <;> rw [hrow] at hevaluate <;>
      exact hevaluate.mono (fun l _ s' h => .inl ⟨w, rfl, h⟩)

lemma Evaluated.outcome {id walletID : UUID} {w : Wallet} {l : List TreasuryRequest}
    (h : Evaluated svc s id walletID w asset l s') :
    FundingOutcome s (.evaluate id walletID asset) l s' := by
  unfold Evaluated at h
  dsimp only at h
  split at h
  · rename_i hcond
    obtain ⟨rfl, rfl⟩ := h
    exact .created rfl rfl hcond.2.2.2 (fun _ => mem_sentFor)
  · obtain ⟨rfl, rfl⟩ := h
    exact .idle

lemma manualRequest_ends (svc : FundingService F) (s : Store) (id walletID : UUID)
    (asset amount reason : String) :
    Ends (memStep svc.lib) asked (svc.manualRequest id walletID asset amount reason) s (fun l _ s' =>
      FundingOutcome s (.manual id walletID asset amount reason) l s') := by
  unfold FundingService.manualRequest
  refine ends_read (r := s.getWallet walletID) rfl rfl ?_
  cases s.getWallet walletID with
  | error err => exact ends_ret.mpr .idle
  | ok w =>
    dsimp only
    split
    · exact ends_ret.mpr .idle
    refine ends_read (r := s.getOpenFundingRequest walletID asset) rfl rfl ?_
    cases s.getOpenFundingRequest walletID asset with
    | ok f => exact ends_ret.mpr .idle
    | error err =>
      dsimp only
      split
      · refine (createRequest_ends id w asset amount reason).mono ?_
        intro l _ s' h
        split at h
        · rename_i hopen
          obtain ⟨rfl, rfl⟩ := h
          exact .created rfl rfl hopen (fun _ => mem_sentFor)
        · obtain ⟨rfl, rfl⟩ := h
          exact .idle
      · exact ends_ret.mpr .idle

lemma fundingOp_outcome (svc : FundingService F) (s : Store) (op : FundingOp) :
    Ends (memStep svc.lib) asked (op.proc svc) s (fun l _ s' => FundingOutcome s op l s') := by
  cases op with
  | evaluate id walletID asset =>
    refine (evaluateAndRequest_ends svc s id walletID asset).mono ?_
    rintro l _ s' (⟨w, -, h⟩ | ⟨-, rfl, rfl⟩)
    · exact h.outcome
    · exact .idle
  | manual id walletID asset amount reason => exact manualRequest_ends svc s id walletID asset amount reason
  | callback c =>
    have hreport : ∀ batch, Ends (memStep svc.lib) asked
        (store (.updateFundingState c.id c.state batch) >>= .ret) s
        (fun l _ s' => FundingOutcome s (.callback c) l s') :=
      fun batch => ends_store (ends_ret.mpr .reported)
    cases c <;> exact hreport _

def OpenRow (s : Store) (q : TreasuryRequest) : Prop :=
  ∃ f, s.fundingReq.lookup q.fundingRequestID = some f ∧ Store.isOpen q.walletID q.asset f

lemma OpenRow.hasOpen {q : TreasuryRequest} (h : OpenRow s q) : hasOpen s q.walletID q.asset = true := by
  obtain ⟨f, hlookup, hopen⟩ := h
  exact List.any_eq_true.mpr ⟨f, mem_rows.mpr ⟨_, hlookup⟩, hopen⟩

lemma withRequest_lookup (f : FundingRequest) (id : UUID) :
    (withRequest s f).fundingReq.lookup id = if id = f.id then some f else s.fundingReq.lookup id := by
  change (s.fundingReq.insert f.id f).lookup id = _
  split
  · rename_i hid
    rw [hid, AList.lookup_insert]
  · rename_i hid
    exact AList.lookup_insert_ne hid

lemma FundingOutcome.sent {op : FundingOp} {l : List TreasuryRequest} (h : FundingOutcome s op l s')
    {q : TreasuryRequest} (hq : q ∈ l) : OpenRow s' q := by
  cases h with
  | idle => cases hq
  | @created op f l hid hstate hopen hl =>
    obtain rfl := hl q hq
    refine ⟨f, ?_, by simp [Store.isOpen, treasuryRequest, hstate]⟩
    rw [withRequest_lookup]
    exact if_pos rfl
  | reported => cases hq

lemma FundingOutcome.keeps {op : FundingOp} {l : List TreasuryRequest} (h : FundingOutcome s op l s')
    {q : TreasuryRequest} (hq : OpenRow s q) (hfresh : ∀ id, op.newID = some id → id ∉ s.fundingReq)
    (hcallback : ∀ c, op = .callback c → c.id ≠ q.fundingRequestID) : OpenRow s' q := by
  obtain ⟨f, hlookup, hopen⟩ := hq
  cases h with
  | idle => exact ⟨f, hlookup, hopen⟩
  | @created op f' l hid =>
    have hne : q.fundingRequestID ≠ f'.id := by
      intro heq
      apply hfresh _ hid
      rw [← heq]
      exact Table.mem_iff.mpr ⟨f, hlookup⟩
    refine ⟨f, ?_, hopen⟩
    rw [withRequest_lookup, if_neg hne, hlookup]
  | @reported c batch =>
    refine ⟨f, ?_, hopen⟩
    rw [← hlookup]
    rcases updateFundingState_cases s c.id c.state batch with ⟨-, err, herr⟩ | ⟨-, -, -, -, hothers⟩
    · rw [herr]
    · exact hothers _ (hcallback c rfl).symm

/-- New requests get identifiers that no stored one has. -/
def FreshRequests (s : Store) (op : FundingOp) : Prop := ∀ id ∈ op.newID, id ∉ s.fundingReq

instance (s : Store) (op : FundingOp) : Decidable (FreshRequests s op) :=
  inferInstanceAs (Decidable (∀ id ∈ op.newID, id ∉ s.fundingReq))

lemma sent_open {s₀ : Store} {pre post : List (Entry FundingOp Call Answer (Except Error Unit))}
    {e : Entry FundingOp Call Answer (Except Error Unit)} {q : TreasuryRequest}
    (hruns : Runs (FundingOp.proc svc) (memStep svc.lib) FreshRequests s₀ (pre ++ e :: post) s)
    (hq : q ∈ e.trace.filterMap asked)
    (hcallback : ∀ e' ∈ post, ∀ c, e'.op = .callback c → c.id ≠ q.fundingRequestID) : OpenRow s q := by
  obtain ⟨s₁, s₂, -, -, hexec, hpost⟩ := hruns.split
  have hsent : OpenRow s₂ q := (fundingOp_outcome svc s₁ e.op _ _ _ hexec).sent hq
  refine hpost.invariant (I := fun log s =>
    (∀ e' ∈ log, ∀ c, e'.op = .callback c → c.id ≠ q.fundingRequestID) → OpenRow s q)
    (fun _ => hsent) ?_ hcallback
  intro log s op tr r s' ih hfresh hop hcallback
  apply (fundingOp_outcome svc s op _ _ _ hop).keeps _ hfresh
  · intro c hc
    exact hcallback _ (List.mem_append_right _ (List.mem_singleton_self _)) c hc
  · exact ih (fun e' he' => hcallback e' (List.mem_append_left _ he'))

def refused : Event Call Answer → Option TreasuryRequest
  | ⟨.ext (.requestFunding q), .error _⟩ => some q
  | _ => none

lemma asked_of_refused {q : TreasuryRequest} {tr : Trace} (hq : q ∈ tr.filterMap refused) :
    q ∈ tr.filterMap asked := by
  obtain ⟨ev, hmem, hev⟩ := List.mem_filterMap.mp hq
  refine List.mem_filterMap.mpr ⟨ev, hmem, ?_⟩
  unfold refused at hev
  split at hev
  · exact hev
  · cases hev

/-- After a failed request for which no callback arrives, no `EvaluateAndRequest` for its wallet and
asset sends the treasury anything or changes the store, whatever the balance and whoever answers. -/
theorem failed_request_never_repeated {s₀ : Store} {id : UUID} {q : TreasuryRequest} {tr : Trace}
    {r : Except Error Unit} {pre post : List (Entry FundingOp Call Answer (Except Error Unit))}
    {e : Entry FundingOp Call Answer (Except Error Unit)}
    (hruns : Runs (FundingOp.proc svc) (memStep svc.lib) FreshRequests s₀ (pre ++ e :: post) s)
    (hfailed : q ∈ e.trace.filterMap refused)
    (hcallback : ∀ e' ∈ post, ∀ c, e'.op = .callback c → c.id ≠ q.fundingRequestID)
    (he : Exec (memStep svc.lib) (svc.evaluateAndRequest id q.walletID q.asset) s tr r s') :
    tr.filterMap asked = [] ∧ s' = s := by
  have hopen := (sent_open hruns (asked_of_refused hfailed) hcallback).hasOpen
  rcases evaluateAndRequest_ends svc s id q.walletID q.asset tr r s' he with ⟨w, -, h⟩ | ⟨-, h⟩
  · unfold Evaluated at h
    dsimp only at h
    rw [if_neg (by simp [hopen])] at h
    exact h
  · exact h

def referenceFunding : FundingService ℚ where
  lib := referenceLib
  floats := ⟨id, fun a b => decide (b ≤ a), (· - ·), intPart⟩
  hotWalletMinBalanceUSD := 1000

def outage : (c : ExtCall) → c.Answer
  | .requestFunding _ => .error ⟨"treasury rejected funding request: 503 ", none⟩
  | c => agree c

def firstEvaluation : FundingOp := .evaluate (UUID.ofByte 20) evmWallet.id "ETH"

def outageRun (ops : List FundingOp) : List (Entry FundingOp Call Answer (Except Error Unit)) × Store :=
  runAll (FundingOp.proc referenceFunding) (answering outage) (Store.initial [evmWallet] []) ops

def laterEvaluation (ops : List FundingOp) : Trace × Except Error Unit × Store :=
  (referenceFunding.evaluateAndRequest (UUID.ofByte 21) evmWallet.id "ETH").run (answering agree)
    (outageRun ops).2

def outageOps : List FundingOp := [firstEvaluation, .callback (.rejected (UUID.ofByte 9) "")]

theorem failed_request_never_repeated_outage :
    Runs (FundingOp.proc referenceFunding) (memStep referenceLib) FreshRequests
        (Store.initial [evmWallet] []) (outageRun outageOps).1 (outageRun outageOps).2 ∧
      (outageRun outageOps).2.wallets.lookup evmWallet.id = some evmWallet ∧ evmWallet.type = .hot ∧
      confirmedBalance referenceLib (outageRun outageOps).2 evmWallet.id "ETH" <
        referenceFunding.hotWalletMinBalanceUSD ∧
      (laterEvaluation outageOps).1.filterMap asked = [] ∧
      (laterEvaluation outageOps).2.2 = (outageRun outageOps).2 := by
  have hfresh : ∀ i : Fin outageOps.length,
      FreshRequests (outageRun (outageOps.take i)).2 outageOps[i] := by
    decide +kernel
  have hruns : Runs (FundingOp.proc referenceFunding) (memStep referenceLib) FreshRequests
      (Store.initial [evmWallet] []) (outageRun outageOps).1 (outageRun outageOps).2 :=
    runs_runAll_of (answering_memStep outage) outageOps (fun i hi => hfresh ⟨i, hi⟩)
  obtain ⟨hw, hbelow⟩ : (outageRun outageOps).2.wallets.lookup evmWallet.id = some evmWallet ∧
      confirmedBalance referenceLib (outageRun outageOps).2 evmWallet.id "ETH" <
        referenceFunding.hotWalletMinBalanceUSD := by
    decide +kernel
  have hexec := Prog.run_exec (answering_memStep agree)
    (referenceFunding.evaluateAndRequest (UUID.ofByte 21) evmWallet.id "ETH") (outageRun outageOps).2
  -- The first evaluation is the one that fails, and the callback after it is for no stored request.
  obtain ⟨e, e', hlog⟩ := List.length_eq_two.mp
    (show (outageRun outageOps).1.length = 2 by decide +kernel)
  have hops : (outageRun outageOps).1.map Entry.op = outageOps := by decide +kernel
  have hfailed : treasuryRequest (autoRequest referenceFunding (UUID.ofByte 20) evmWallet "ETH" 0) ∈
      ((outageRun outageOps).1.take 1).flatMap (fun e => e.trace.filterMap refused) := by
    decide +kernel
  rw [hlog] at hops hfailed
  rw [List.take_succ_cons, List.take_zero, List.flatMap_singleton] at hfailed
  have hcallback : ∀ e'' ∈ [e'], ∀ c, e''.op = .callback c → c.id ≠ UUID.ofByte 20 := by
    intro e'' he'' c hc
    obtain rfl := List.mem_singleton.mp he''
    obtain rfl : c = .rejected (UUID.ofByte 9) "" :=
      FundingOp.callback.inj (hc.symm.trans (List.cons.inj (List.cons.inj hops).2).1)
    decide
  refine ⟨hruns, hw, rfl, hbelow, ?_⟩
  rw [hlog, ← List.nil_append [e, e']] at hruns
  exact failed_request_never_repeated hruns hfailed hcallback hexec

/-- The request that failed stays open, and the later evaluation returns without asking, although the
balance is still below the threshold. -/
theorem failed_request_is_never_resent :
    (outageRun [firstEvaluation]).1.map Entry.result =
        [.error ⟨"treasury request: treasury rejected funding request: 503 ", none⟩] ∧
      hasOpen (outageRun [firstEvaluation]).2 evmWallet.id "ETH" = true ∧
      confirmedBalance referenceLib (outageRun [firstEvaluation]).2 evmWallet.id "ETH" <
        referenceFunding.hotWalletMinBalanceUSD ∧
      (laterEvaluation [firstEvaluation]).1.filterMap asked = [] ∧
      (laterEvaluation [firstEvaluation]).2.1 = .ok () := by
  decide +kernel

end Requests

end WalletManager.Proofs
