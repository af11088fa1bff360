import WalletManager.Api.Deployment
import WalletManager.Proofs.ConcurrentReservations
import WalletManager.Proofs.Retirement

/-!
# The calls of the running process

Which store operations and which calls to other parties the requests, drains and evaluations of the
process can lead to. No request leads to the operations that sign, broadcast or give up a withdrawal,
bind or rotate a key, or insert, lock or spend an output.
-/

namespace WalletManager.Proofs

open Interaction

def Routine : Call → Prop
  | .store (.createWithdrawal w) => w.reservedOutpoints = []
  | .store .beginTx | .store .commitTx | .store .rollbackTx | .store (.upsertBalance _) => False
  | .store (.insertUTXO _) | .store (.listFreeUTXOs _) | .store (.lockUTXOs _) => False
  | .store (.markUTXOsSpent _ _) | .store (.pruneUTXOs _) => False
  | .store (.getNonce _ _) | .store (.upsertNonce _) => False
  | .store (.advanceBroadcastNonce _ _ _) | .store (.rollbackPendingNonce _ _ _) => False
  | .store (.updateWithdrawalNonce _ _) | .store (.updateWithdrawalOutpoints _ _) => False
  | .store (.updateWithdrawalSignedTx _ _) => False
  | .store (.bindKeyMapping _ _) | .store (.rotateKeyMapping _ _ _ _) | .store (.expireCooling _) => False
  | .store (.updateWalletState _ _) | .store (.incrementReceiveCount _) | .store (.getAddress _) => False
  | .store (.updateFundingState _ _ _) => False
  | .ext (.sign _) | .ext (.broadcastTx _) | .ext (.resolveActiveKeyID _) => False
  | .ext (.btcPubKeyHash _) | .ext (.solanaFrom _) | .ext .fetchRecentBlockhash => False
  | _ => True

def Performs : Call → Prop
  | .store .beginTx | .store .commitTx | .store .rollbackTx | .store (.upsertBalance _) => True
  | c => Routine c

lemma Routine.plain {c : Call} (h : Routine c) : Plain c := by
  cases c with
  | ext c => trivial
  | store c => cases c <;> trivial

lemma Routine.performs {c : Call} (h : Routine c) : Performs c := by
  cases c with
  | ext c => exact h
  | store c => cases c <;> first | exact h | exact h.elim

section Services

variable {F : Type}

lemma reserveNonce_routine (walletID : UUID) (chain : String) : (reserveNonce walletID chain).AllCalls Routine :=
  reserveNonce_calls (fun _ => trivial) (fun _ _ => trivial) trivial

lemma Provides.routine {owner : UUID} {c : Call} (h : Provides owner c) : Routine c := by
  cases c with
  | ext c => cases c <;> trivial
  | store c => cases c <;> first | trivial | exact h.2

lemma LoadsWallet.routine {α : Type} {id : UUID} {p : Proc α} (h : LoadsWallet id p) : p.AllCalls Routine := by
  obtain ⟨f, rfl, herr, hretired, hok⟩ := h
  refine Prog.AllCalls.bind (p := store (.getWallet id)) ⟨trivial, fun _ => trivial⟩ ?_
  rintro (err | w)
  · obtain ⟨a, ha⟩ := herr err
    rw [ha]
    trivial
  by_cases hstate : w.state = .retired
  · obtain ⟨a, ha⟩ := hretired w hstate
    rw [ha]
    trivial
  · obtain ⟨owner, -, hcalls⟩ := hok w hstate
    exact hcalls.mono (fun _ => Provides.routine)

lemma emit_routine {α : Type} (hasAudit : Bool) (e : AuditEvent) (a : α) :
    Prog.AllCalls Routine (do
      if hasAudit then
        let _ ← ext (.emit e)
      return a : Proc α) := by
  cases hasAudit with
  | true => exact ⟨trivial, fun _ => trivial⟩
  | false => trivial

lemma createWallet_routine (svc : WalletService) (id fresh : UUID) (req : CreateWalletRequest) :
    (svc.create id fresh req).AllCalls Routine := by
  unfold WalletService.create
  split
  · trivial
  · split
    · trivial
    · split
      · trivial
      · refine ⟨trivial, fun r => ?_⟩
        cases r with
        | error err => trivial
        | ok a => exact emit_routine svc.hasAudit _ _

lemma evaluate_routine (svc : FundingService F) (id walletID : UUID) (asset : String) :
    (svc.evaluateAndRequest id walletID asset).AllCalls Routine := by
  have hevaluate : ∀ w confirmed,
      (FundingService.evaluateAndRequest.evaluate svc id walletID asset w confirmed).AllCalls Routine := by
    intro w confirmed
    unfold FundingService.evaluateAndRequest.evaluate
    split
    · trivial
    · split
      · trivial
      · refine ⟨trivial, fun r => ?_⟩
        cases r with
        | ok fr => trivial
        | error err =>
          change Prog.AllCalls _ (if err.is = some .errNoRows then _ else _)
          split
          · exact (createRequest_calls svc id w asset _ _).mono (fun _ => Provides.routine)
          · trivial
  refine ⟨trivial, fun r => ?_⟩
  cases r with
  | error err => trivial
  | ok w =>
    refine ⟨trivial, fun r => ?_⟩
    cases r with
    | ok bal => exact hevaluate w _
    | error err =>
      change Prog.AllCalls _ (if err.is = some .errNoRows then _ else _)
      split
      · exact hevaluate w 0
      · trivial

section Withdrawals

variable (svc : Service)

lemma serviceEmit_routine (e : AuditEvent) : (svc.emit e).AllCalls Routine := by
  unfold Service.emit
  split
  · exact ⟨trivial, fun _ => trivial⟩
  · trivial

lemma confirm_routine (id : UUID) (txHash : String) : (svc.confirm id txHash).AllCalls Routine := by
  refine ⟨trivial, fun r => ?_⟩
  cases r with
  | error err => trivial
  | ok wr =>
    change Prog.AllCalls _ (if wr.state ≠ .broadcast then _ else _)
    split
    · trivial
    · refine ⟨trivial, fun r => ?_⟩
      cases r with
      | error err => trivial
      | ok a => exact (serviceEmit_routine svc _).bind (fun _ => trivial)

lemma onReorg_routine (id : UUID) (outpoints : List String) : (Service.onReorg id outpoints).AllCalls Routine := by
  refine ⟨trivial, fun r => ?_⟩
  cases r with
  | error err => trivial
  | ok wr =>
    refine ⟨trivial, fun r => ?_⟩
    cases r with
    | error err => trivial
    | ok a =>
      change Prog.AllCalls _ (if wr.state = .confirmed then _ else _)
      split
      · exact ⟨trivial, fun _ => trivial⟩
      · trivial

lemma resolveActive_routine (walletID : UUID) : (resolveActive walletID).AllCalls Routine := by
  refine ⟨trivial, fun r => ?_⟩
  cases r with
  | ok mappings => trivial
  | error err =>
    change Prog.AllCalls _ (if err.is = some .errNoRows then _ else _)
    split <;> trivial

end Withdrawals

lemma drain_routine (em : EmitterService) : em.drain.AllCalls Routine := by
  have hmark : ∀ events, (EmitterService.markAll events).AllCalls Routine := by
    intro events
    induction events with
    | nil => trivial
    | cons ev events ih =>
      refine ⟨trivial, fun r => ?_⟩
      cases r with
      | error err => trivial
      | ok a => exact ih
  refine ⟨trivial, fun r => ?_⟩
  cases r with
  | error err => trivial
  | ok events =>
    change Prog.AllCalls _ (if events.length = 0 then _ else _)
    split
    · trivial
    · change Prog.AllCalls _ (if em.hasSink = true then _ else _)
      split
      · refine ⟨trivial, fun r => ?_⟩
        cases r with
        | error err => trivial
        | ok a => exact hmark events
      · exact hmark events

/-! ## Requests -/

section Rest

variable (srv : RestServer F) (fresh : RestFresh) (r : HttpRequest)

lemma withID_routine (id : String) {h : UUID → Proc HttpResponse} (hh : ∀ id, (h id).AllCalls Routine) :
    (srv.withID id h).AllCalls Routine := by
  unfold RestServer.withID
  split
  · trivial
  · exact hh _

lemma reply_routine {α : Type} {p : Proc (Except Error α)} (hp : p.AllCalls Routine)
    {reply : Except Error α → Proc HttpResponse} (herror : ∀ err, ∃ resp, reply (.error err) = .ret resp)
    (hok : ∀ a, ∃ resp, reply (.ok a) = .ret resp) : (p >>= reply).AllCalls Routine := by
  refine hp.bind (fun r => ?_)
  cases r with
  | error err =>
    obtain ⟨resp, hresp⟩ := herror err
    rw [hresp]
    trivial
  | ok a =>
    obtain ⟨resp, hresp⟩ := hok a
    rw [hresp]
    trivial

lemma ite_ret {c : Prop} [Decidable c] (status status' : ℕ) (err err' : Error) :
    ∃ resp, (if c then writeError status err else writeError status' err') = .ret resp := by
  split <;> exact ⟨_, rfl⟩

lemma derived_ret (status : ℕ) (a : Except Error Address) : ∃ resp, RestServer.derived status a = .ret resp := by
  cases a with
  | error err => exact ite_ret _ _ _ _
  | ok a => exact ⟨_, rfl⟩

lemma listWithdrawals_routine : (srv.listWithdrawals r).AllCalls Routine := by
  have hlist : ∀ walletID, (RestServer.listWithdrawals.list r walletID).AllCalls Routine := fun walletID =>
    reply_routine (p := store (.listWithdrawals walletID (r.get "state"))) ⟨trivial, fun _ => trivial⟩
      (fun _ => ⟨_, rfl⟩) (fun _ => ⟨_, rfl⟩)
  unfold RestServer.listWithdrawals
  split
  · exact hlist _
  · split
    · trivial
    · exact hlist _

lemma createFundingRequest_routine (id : String) : (srv.createFundingRequest fresh id r).AllCalls Routine := by
  refine withID_routine srv id (fun walletID => ?_)
  split
  · trivial
  · refine reply_routine (manualRequest_loads _ _ _ _ _ _).routine (fun err => ?_) (fun _ => ⟨_, rfl⟩)
    dsimp only
    split
    · exact ⟨_, rfl⟩
    · exact ite_ret _ _ _ _

lemma allocateNonce_routine (id : String) : (srv.allocateNonce id r).AllCalls Routine := by
  refine withID_routine srv id (fun walletID => ?_)
  split
  · trivial
  · split
    · trivial
    · split
      · trivial
      · exact reply_routine (reserveNonce_routine _ _) (fun _ => ⟨_, rfl⟩) (fun _ => ⟨_, rfl⟩)

lemma getAddresses_routine (id : String) : (srv.getAddresses fresh id r).AllCalls Routine := by
  refine withID_routine srv id (fun walletID => ?_)
  split
  · exact reply_routine (deriveAddress_loads _ _ _ _).routine (fun err => derived_ret 200 (.error err))
      (fun a => derived_ret 200 (.ok a))
  · exact reply_routine (p := store (.listAddresses walletID)) ⟨trivial, fun _ => trivial⟩
      (fun _ => ⟨_, rfl⟩) (fun _ => ⟨_, rfl⟩)

lemma createWithdrawalRest_routine : (srv.createWithdrawal fresh r).AllCalls Routine := by
  unfold RestServer.createWithdrawal
  split
  · trivial
  · split
    · trivial
    · exact reply_routine (createWithdrawal_loads _ _ _).routine (fun err => ite_ret _ _ _ _) (fun _ => ⟨_, rfl⟩)

lemma createWalletRest_routine : (srv.createWallet fresh r).AllCalls Routine := by
  unfold RestServer.createWallet
  split
  · trivial
  · exact reply_routine (createWallet_routine _ _ _ _) (fun _ => ⟨_, rfl⟩) (fun _ => ⟨_, rfl⟩)

lemma handle_routine (id : String) (endpoint : Endpoint) : (srv.handle fresh r id endpoint).AllCalls Routine := by
  cases endpoint with
  | healthz | readyz => trivial
  | createWallet => exact createWalletRest_routine srv fresh r
  | getWallet =>
    exact withID_routine srv id (fun id => reply_routine (p := store (.getWallet id)) ⟨trivial, fun _ => trivial⟩
      (fun err => ite_ret _ _ _ _) (fun _ => ⟨_, rfl⟩))
  | listWallets =>
    exact reply_routine (p := store (.listWallets _ _ _)) ⟨trivial, fun _ => trivial⟩
      (fun _ => ⟨_, rfl⟩) (fun _ => ⟨_, rfl⟩)
  | getAddresses => exact getAddresses_routine srv fresh r id
  | deriveAddress =>
    exact withID_routine srv id (fun id => reply_routine (deriveAddress_loads _ _ _ _).routine
      (fun err => derived_ret 201 (.error err)) (fun a => derived_ret 201 (.ok a)))
  | getBalances =>
    exact withID_routine srv id (fun id => reply_routine (p := store (.listBalances id))
      ⟨trivial, fun _ => trivial⟩
      (fun _ => ⟨_, rfl⟩) (fun _ => ⟨_, rfl⟩))
  | createFundingRequest => exact createFundingRequest_routine srv fresh r id
  | listFundingRequests =>
    exact withID_routine srv id (fun id => reply_routine (p := store (.listFundingRequests id _))
      ⟨trivial, fun _ => trivial⟩ (fun _ => ⟨_, rfl⟩) (fun _ => ⟨_, rfl⟩))
  | allocateNonce => exact allocateNonce_routine srv r id
  | createWithdrawal => exact createWithdrawalRest_routine srv fresh r
  | listWithdrawals => exact listWithdrawals_routine srv r
  | getWithdrawal =>
    exact withID_routine srv id (fun id => reply_routine (p := store (.getWithdrawal id))
      ⟨trivial, fun _ => trivial⟩
      (fun err => ite_ret _ _ _ _) (fun _ => ⟨_, rfl⟩))

lemma serve_cases (tokens : TokenLib) (secret : String) (bypass : Bool) :
    (∃ msg, srv.serve tokens secret bypass fresh r = .ret ⟨401, .unauthorized msg⟩) ∨
      srv.serve tokens secret bypass fresh r = srv.dispatch fresh r := by
  unfold RestServer.serve middleware
  split
  · exact .inr rfl
  · split
    · exact .inl ⟨_, rfl⟩
    · split
      · exact .inl ⟨_, rfl⟩
      · split
        · exact .inl ⟨_, rfl⟩
        · exact .inr rfl

lemma serve_routine (tokens : TokenLib) (secret : String) (bypass : Bool) :
    (srv.serve tokens secret bypass fresh r).AllCalls Routine := by
  rcases serve_cases srv fresh r tokens secret bypass with ⟨msg, hserve⟩ | hserve
  · rw [hserve]
    trivial
  · rw [hserve, RestServer.dispatch]
    split
    · exact handle_routine srv fresh r _ _
    · trivial
    · trivial

end Rest

/-! ## Calls with transactions -/

structure Serving {α : Type} (svc : BalanceService) (p : Proc α) : Prop where
  composed : Composed svc p
  performs : p.AllCalls Performs

section Serving

variable {α β : Type} {svc : BalanceService}

lemma serving_routine {p : Proc α} (hp : p.AllCalls Routine) : Serving svc p :=
  ⟨.plain (hp.mono (fun _ h => h.plain)), hp.mono (fun _ h => h.performs)⟩

lemma Serving.bind {p : Proc α} {k : α → Proc β} (hp : Serving svc p) (hk : ∀ a, Serving svc (k a)) :
    Serving svc (p >>= k) :=
  ⟨.bind hp.composed (fun a => (hk a).composed), hp.performs.bind (fun a => (hk a).performs)⟩

lemma inTx_performs {p : Proc (Except Error Unit)} (hp : p.AllCalls Performs) : (inTx p).AllCalls Performs := by
  refine ⟨trivial, fun r => ?_⟩
  cases r with
  | error err => trivial
  | ok a =>
    refine hp.bind (fun r => ?_)
    cases r <;> exact ⟨trivial, fun _ => trivial⟩

lemma relock_performs (walletID : UUID) (asset : String) (locked : ℚ → ℚ) :
    (svc.relock walletID asset locked).AllCalls Performs := by
  refine ⟨trivial, fun r => ?_⟩
  cases r with
  | error err => trivial
  | ok cur => exact ⟨trivial, fun _ => trivial⟩

lemma body_performs (op : BalanceOp) : (body svc op).AllCalls Performs := by
  cases op with
  | confirm ev =>
    have hwrite : ∀ cur, (BalanceService.credit.write svc ev cur).AllCalls Performs := by
      intro cur
      refine ⟨trivial, fun r => ?_⟩
      cases r with
      | error err => trivial
      | ok a => exact (emit_routine svc.hasAudit _ _).mono (fun _ h => h.performs)
    refine ⟨trivial, fun r => ?_⟩
    cases r with
    | ok cur => exact hwrite cur
    | error err =>
      change Prog.AllCalls _ (if err.is = some .errNoRows then _ else _)
      split
      · exact hwrite _
      · trivial
  | reorg ev =>
    refine ⟨trivial, fun r => ?_⟩
    cases r with
    | ok cur => exact ⟨trivial, fun _ => trivial⟩
    | error err =>
      change Prog.AllCalls _ (if err.is = some .errNoRows then _ else _)
      split <;> trivial
  | addLocked walletID asset amount | releaseLocked walletID asset amount =>
    unfold body
    exact relock_performs walletID asset _

lemma serving_tx (op : BalanceOp) : Serving svc (inTx (body svc op)) := ⟨.tx op, inTx_performs (body_performs op)⟩

lemma confirmationEvent_serving (ev : ConfirmationEvent) : Serving svc (svc.applyConfirmationEvent ev) := by
  refine .bind (serving_routine (p := store (.recordBalanceEvent ev.balanceEvent)) ⟨trivial, fun _ => trivial⟩)
    (fun r => ?_)
  cases r with
  | error err =>
    dsimp only
    split <;> exact serving_routine trivial
  | ok a =>
    refine .bind (serving_tx (.confirm ev)) (fun r => ?_)
    cases r with
    | error err => exact serving_routine trivial
    | ok a =>
      dsimp only
      split
      · exact serving_routine ⟨trivial, fun _ => trivial⟩
      · exact serving_routine trivial

lemma reorgEvent_serving (ev : ReorgEvent) : Serving svc (svc.applyReorgEvent ev) := by
  refine .bind (serving_tx (.reorg ev)) (fun r => ?_)
  cases r with
  | error err => exact serving_routine trivial
  | ok a =>
    have haudit : (BalanceService.applyReorgEvent.audit svc ev).AllCalls Routine := emit_routine svc.hasAudit _ _
    dsimp only
    split
    · refine serving_routine ⟨trivial, fun r => ?_⟩
      cases r with
      | error err => trivial
      | ok a => exact haudit
    · exact serving_routine haudit

end Serving

section Grpc

variable (srv : Server)

lemma resolveKeyID_serving (ctx : CallContext) (dec : Except Error ResolveKeyIDRequest)
    (interceptor : UnaryServerInterceptor) :
    Serving srv.balances (srv.resolveKeyIDHandler ctx dec interceptor) := by
  unfold Server.resolveKeyIDHandler
  split
  · exact serving_routine trivial
  · split
    · exact serving_routine trivial
    · refine .bind (serving_routine (resolveActive_routine _)) (fun r => ?_)
      cases r <;> exact serving_routine trivial

lemma onConfirmation_serving (ctx : CallContext) (dec : Except Error OnConfirmationRequest)
    (interceptor : UnaryServerInterceptor) :
    Serving srv.balances (srv.onConfirmationHandler ctx dec interceptor) := by
  unfold Server.onConfirmationHandler
  split
  · exact serving_routine trivial
  · split
    · split
      · exact serving_routine trivial
      · refine .bind (serving_routine (confirm_routine _ _ _)) (fun r => ?_)
        cases r <;> exact serving_routine trivial
    · split
      · split
        · exact serving_routine trivial
        · refine .bind (confirmationEvent_serving _) (fun r => ?_)
          cases r <;> exact serving_routine trivial
      · exact serving_routine trivial

lemma onReorg_serving (ctx : CallContext) (dec : Except Error OnReorgRequest)
    (interceptor : UnaryServerInterceptor) :
    Serving srv.balances (srv.onReorgHandler ctx dec interceptor) := by
  have hbalance : ∀ req, Serving srv.balances (Server.onReorgHandler.reorgBalance srv req) := by
    intro req
    unfold Server.onReorgHandler.reorgBalance
    split
    · split
      · exact serving_routine trivial
      · refine .bind (reorgEvent_serving _) (fun r => ?_)
        cases r <;> exact serving_routine trivial
    · exact serving_routine trivial
  unfold Server.onReorgHandler
  split
  · exact serving_routine trivial
  · split
    · split
      · exact serving_routine trivial
      · refine .bind (serving_routine (onReorg_routine _ _)) (fun r => ?_)
        cases r with
        | error err => exact serving_routine trivial
        | ok a => exact hbalance _
    · exact hbalance _

end Grpc

theorem run_serving (d : Deployment F) (job : Job) : Serving d.rest.services.balances (d.run job) := by
  cases job with
  | rest r fresh =>
    exact .bind (serving_routine (serve_routine d.rest fresh r d.tokens d.secret d.bypass))
      (fun _ => serving_routine trivial)
  | grpc m ctx body =>
    have hserve : Serving d.rest.services.balances (d.server.serve m ctx body) := by
      cases m with
      | resolveKeyID => exact resolveKeyID_serving d.server ctx _ d.server.interceptor
      | onConfirmation => exact onConfirmation_serving d.server ctx _ d.server.interceptor
      | onReorg => exact onReorg_serving d.server ctx _ d.server.interceptor
    exact .bind hserve (fun _ => serving_routine trivial)
  | drain => exact .bind (serving_routine (drain_routine d.emitter)) (fun _ => serving_routine trivial)
  | evaluate id walletID asset =>
    exact .bind (serving_routine (evaluate_routine d.rest.services.funding id walletID asset))
      (fun _ => serving_routine trivial)

end Services

end WalletManager.Proofs
