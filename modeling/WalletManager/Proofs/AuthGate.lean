import WalletManager.Api.Grpc
import WalletManager.Proofs.BalanceLaws

/-!
# Authentication of gRPC calls

The interceptor refuses every call without a valid token. The method handlers are given the
interceptor and never call it, so no call is refused and every call is served alike.
-/

namespace WalletManager.Proofs

open Interaction

section Gate

variable {tokens : TokenLib} {secret : String} {ctx : CallContext} {srv : Server}

/-- The call carries a token that is valid under the secret and has not expired. -/
def Authenticated (tokens : TokenLib) (secret : String) (ctx : CallContext) : Prop :=
  ∃ md claims, ctx.metadata = some md ∧ callToken md ≠ "" ∧
    verify tokens (callToken md) secret = .ok claims ∧ ctx.now ≤ claims.exp

/-- The interceptor alone: without a valid token it refuses the call, and the handler does not run. -/
theorem interceptor_refuses {α : Type} (hno : ¬Authenticated tokens secret ctx) {fullMethod : String}
    (hskip : fullMethod ∉ grpcSkipMethods) (handler : Proc (Except Status α)) :
    ∃ msg, grpcUnaryInterceptor tokens secret false ctx fullMethod handler =
      .ret (.error ⟨.unauthenticated, msg⟩) := by
  unfold grpcUnaryInterceptor
  rw [if_neg (by simp [hskip])]
  cases hmd : ctx.metadata with
  | none => exact ⟨_, rfl⟩
  | some md =>
    dsimp only
    by_cases htoken : callToken md = ""
    · rw [if_pos htoken]
      exact ⟨_, rfl⟩
    · rw [if_neg htoken]
      cases hverify : verify tokens (callToken md) secret with
      | error err => exact ⟨_, rfl⟩
      | ok claims =>
        dsimp only
        by_cases hexp : ctx.now > claims.exp
        · rw [if_pos hexp]
          exact ⟨_, rfl⟩
        · exact absurd ⟨md, claims, hmd, htoken, hverify, not_lt.mp hexp⟩ hno

def NotRefused (r : Except Status Response) : Prop := ∀ msg, r ≠ .error ⟨.unauthenticated, msg⟩

lemma notRefused_of_ne {status : Status} (h : status.code ≠ .unauthenticated) :
    NotRefused (.error status) := by
  rintro msg ⟨⟩
  exact h rfl

lemma bind_notRefused {α : Type} (p : Proc (Except Error α))
    {reply : Except Error α → Proc (Except Status Response)}
    (herror : ∀ err, (reply (.error err)).Returns NotRefused)
    (hok : ∀ a, (reply (.ok a)).Returns NotRefused) : (p >>= reply).Returns NotRefused := by
  refine Prog.Returns.bind p ?_
  rintro (err | a)
  · exact herror err
  · exact hok a

lemma resolveKeyIDHandler_notRefused (ctx : CallContext) (dec : Except Error ResolveKeyIDRequest)
    (interceptor : UnaryServerInterceptor) :
    (srv.resolveKeyIDHandler ctx dec interceptor).Returns NotRefused := by
  unfold Server.resolveKeyIDHandler
  cases dec with
  | error err => exact notRefused_of_ne nofun
  | ok req =>
    dsimp only
    cases srv.lib.parseUUID req.walletID with
    | error err => exact notRefused_of_ne nofun
    | ok wid =>
      exact bind_notRefused _ (fun err => notRefused_of_ne nofun) (fun mappings => nofun)

lemma onConfirmationHandler_notRefused (ctx : CallContext) (dec : Except Error OnConfirmationRequest)
    (interceptor : UnaryServerInterceptor) :
    (srv.onConfirmationHandler ctx dec interceptor).Returns NotRefused := by
  unfold Server.onConfirmationHandler
  cases dec with
  | error err => exact notRefused_of_ne nofun
  | ok req =>
    dsimp only
    split
    · cases srv.lib.parseUUID req.withdrawalID with
      | error err => exact notRefused_of_ne nofun
      | ok wid =>
        exact bind_notRefused _ (fun err => notRefused_of_ne nofun) (fun _ => nofun)
    · split
      · cases srv.lib.parseUUID req.walletID with
        | error err => exact notRefused_of_ne nofun
        | ok wid =>
          exact bind_notRefused _ (fun err => notRefused_of_ne nofun) (fun _ => nofun)
      · exact nofun

lemma reorgBalance_notRefused (req : OnReorgRequest) :
    (Server.onReorgHandler.reorgBalance srv req).Returns NotRefused := by
  unfold Server.onReorgHandler.reorgBalance
  split
  · cases srv.lib.parseUUID req.walletID with
    | error err => exact notRefused_of_ne nofun
    | ok wid =>
      exact bind_notRefused _ (fun err => notRefused_of_ne nofun) (fun _ => nofun)
  · exact nofun

lemma onReorgHandler_notRefused (ctx : CallContext) (dec : Except Error OnReorgRequest)
    (interceptor : UnaryServerInterceptor) :
    (srv.onReorgHandler ctx dec interceptor).Returns NotRefused := by
  unfold Server.onReorgHandler
  cases dec with
  | error err => exact notRefused_of_ne nofun
  | ok req =>
    dsimp only
    split
    · cases srv.lib.parseUUID req.withdrawalID with
      | error err => exact notRefused_of_ne nofun
      | ok wid =>
        exact bind_notRefused _ (fun err => notRefused_of_ne nofun)
          (fun _ => reorgBalance_notRefused req)
    · exact reorgBalance_notRefused req

lemma serve_notRefused (m : Method) (body : Bytes) : (srv.serve m ctx body).Returns NotRefused := by
  cases m with
  | resolveKeyID => exact resolveKeyIDHandler_notRefused ctx _ srv.interceptor
  | onConfirmation => exact onConfirmationHandler_notRefused ctx _ srv.interceptor
  | onReorg => exact onReorgHandler_notRefused ctx _ srv.interceptor

/-- A server with a secret has an interceptor that refuses calls without a valid token, and yet
such a call is served as one with any other metadata is, and never answered `Unauthenticated`. -/
theorem calls_never_refused {lib : RpcLib} {balances : BalanceService} {withdrawals : Service} {env : Env}
    (hsrv : newServer tokens lib balances withdrawals env = some srv)
    (hsecret : env.serviceTokenSecret ≠ "") (m : Method) (body : Bytes)
    (hno : ¬Authenticated tokens env.serviceTokenSecret ctx) :
    (∀ handler, ∃ msg, srv.interceptor ctx m.fullMethod handler = .ret (.error ⟨.unauthenticated, msg⟩)) ∧
    (∀ ctx', srv.serve m ctx body = srv.serve m ctx' body) ∧
    ∀ {σ : Type} (step : σ → (c : Call) → Answer c → σ → Prop) s tr r s',
      Exec step (srv.serve m ctx body) s tr r s' → ∀ msg, r ≠ .error ⟨.unauthenticated, msg⟩ := by
  refine ⟨?_, ?_, ?_⟩
  · rw [newServer, secretFromEnv, if_pos hsecret] at hsrv
    cases hsrv
    intro handler
    exact interceptor_refuses hno (by cases m <;> decide) handler
  · intro ctx'
    cases m <;> rfl
  · intro σ step s tr r s' he
    exact he.returns (serve_notRefused m body)

def referenceTokens : TokenLib where
  hmacSHA256 _ _ := []
  encode _ := ""
  decode _ := .error ⟨"illegal base64 data", none⟩
  unmarshalClaims _ := .error ⟨"unexpected end of JSON input", none⟩

@[irreducible] def depositJSON : Bytes :=
  utf8 ("\x7b\"wallet_id\":\"00000000-0000-0000-0000-000000000001\",\"asset\":\"ETH\"," ++
    "\"amount\":\"2\",\"confirmations\":12,\"block_height\":7,\"event_id\":\"a\"\x7d")

def referenceRpc : RpcLib where
  parseUUID s := if s = "00000000-0000-0000-0000-000000000001" then .ok evmWallet.id
    else .error ⟨"not tabulated", none⟩
  unmarshalResolveKeyID _ := .error ⟨"not tabulated", none⟩
  unmarshalOnConfirmation body :=
    if body = depositJSON then
      .ok ⟨"", "00000000-0000-0000-0000-000000000001", "ETH", "2", 12, 7, "a", false, ""⟩
    else .error ⟨"not tabulated", none⟩
  unmarshalOnReorg _ := .error ⟨"not tabulated", none⟩

def guardedServer : Server :=
  ⟨referenceRpc, referenceBalances, referenceService, grpcUnaryInterceptor referenceTokens "secret" false⟩

def anonymous : CallContext := ⟨none, 0⟩

def anonymousDeposit : Trace × Except Status Response × Store :=
  (guardedServer.serve .onConfirmation anonymous depositJSON).run (answering agree) {}

lemma anonymousDeposit_exec :
    Exec (memStep referenceLib) (guardedServer.serve .onConfirmation anonymous depositJSON) {}
      anonymousDeposit.1 anonymousDeposit.2.1 anonymousDeposit.2.2 := by
  unfold anonymousDeposit
  exact Prog.run_exec (answering_memStep agree) _ _

lemma newServer_guarded :
    newServer referenceTokens referenceRpc referenceBalances referenceService ⟨"secret", "", false⟩ =
      some guardedServer := by
  rw [newServer, secretFromEnv, if_pos (by decide)]
  rfl

lemma not_authenticated_anonymous : ¬Authenticated referenceTokens "secret" anonymous := by
  rintro ⟨md, claims, hmd, -⟩
  cases hmd

theorem calls_never_refused_anonymous :
    ¬Authenticated referenceTokens "secret" anonymous ∧
      ∀ msg, anonymousDeposit.2.1 ≠ .error ⟨.unauthenticated, msg⟩ := by
  obtain ⟨-, -, hserved⟩ := calls_never_refused newServer_guarded (by decide) .onConfirmation
    depositJSON not_authenticated_anonymous
  exact ⟨not_authenticated_anonymous, hserved _ _ _ _ _ anonymousDeposit_exec⟩

/-- A call without metadata is answered, and credits a balance. -/
theorem anonymous_call_credits :
    newServer referenceTokens referenceRpc referenceBalances referenceService ⟨"secret", "", false⟩ =
        some guardedServer ∧
      ¬Authenticated referenceTokens "secret" anonymous ∧
      Exec (memStep referenceLib) (guardedServer.serve .onConfirmation anonymous depositJSON) {}
        anonymousDeposit.1 anonymousDeposit.2.1 anonymousDeposit.2.2 ∧
      anonymousDeposit.2.1 = .ok .empty ∧
      confirmedOf referenceBalances anonymousDeposit.2.2 evmWallet.id "ETH" = 2 := by
  exact ⟨newServer_guarded, not_authenticated_anonymous, anonymousDeposit_exec, by decide +kernel⟩

end Gate

end WalletManager.Proofs
