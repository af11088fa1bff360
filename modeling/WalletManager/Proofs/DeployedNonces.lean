import WalletManager.Proofs.DeployedCalls
import WalletManager.Proofs.RestGate

/-!
# Nonces of the running process

No request rolls a nonce back, so that the nonces that the allocate endpoint hands out for a wallet and a
chain are all different, in every interleaving of requests, drains and evaluations.
-/

namespace WalletManager.Proofs

open Interaction Relational

variable {F T : Type} {d : Deployment F} {db : Database} {walletID : UUID} {chain : String}

def Allocates (d : Deployment F) (job : Job) (walletID : UUID) (chain : String) : Prop :=
  ∃ r fresh id, job = .rest r fresh ∧ d.rest.route r = .found .allocateNonce id ∧
    d.rest.lib.parseUUID id = .ok walletID ∧ d.rest.lib.decodeAllocateNonce r.body = .ok ⟨chain⟩

def Given (walletID : UUID) (chain : String) (g : SqlClient) (a : Reply) : Prop :=
  ∀ n, a = .http ⟨200, .nonce n⟩ → ∃ u ∈ g.finished, NonceUnit walletID chain n u

lemma allocate_conforms {job : Job} {t : T} (h : Allocates d job walletID chain) :
    Conforms ((postgres db).client t (systemRules d.rest.services.balances db))
      ((d.run job).translate (Call.auditedSql db t d.emitter)) {}
      (fun g a => g.phase = .unreachable ∨ Given walletID chain g a) := by
  obtain ⟨r, fresh, id, rfl, hroute, hid, hbody⟩ := h
  have hnot : ∀ (resp : HttpResponse) (g : SqlClient), resp.status ≠ 200 →
      Given walletID chain g (.http resp) := by
    intro resp g hstatus n h
    cases h
    exact absurd rfl hstatus
  have hrun : d.run (.rest r fresh) =
      d.rest.serve d.tokens d.secret d.bypass fresh r >>= fun resp => .ret (.http resp) := rfl
  rw [hrun]
  rcases serve_cases d.rest fresh r d.tokens d.secret d.bypass with ⟨msg, hserve⟩ | hserve
  · rw [hserve]
    exact .inr (hnot _ _ (by simp))
  have hdispatch : d.rest.dispatch fresh r = d.rest.allocateNonce id r := by
    rw [RestServer.dispatch, hroute]
    rfl
  rw [hserve, hdispatch, RestServer.allocateNonce, RestServer.withID, hid]
  dsimp only
  by_cases hnonce : d.rest.hasNonce = false
  · rw [if_pos hnonce]
    exact .inr (hnot _ _ (by simp))
  rw [if_neg hnonce, hbody]
  dsimp only
  by_cases hchain : chain = ""
  · rw [if_pos hchain]
    exact .inr (hnot _ _ (by simp))
  rw [if_neg hchain, Prog.bind_assoc, Prog.translate_bind]
  refine ((reserveNonceLoop_conforms _ _ {} rfl).mono ?_).bind
  rintro g a (hun | hok)
  · exact Dialect.conforms_unreachable (translate_session _) hun (fun _ _ h => .inl h)
  · cases a with
    | error err => exact .inr (hnot _ _ (by simp))
    | ok n =>
      refine .inr (fun m hm => ?_)
      cases hm
      exact hok n rfl

lemma split_of_ne {α : Type} {l : List α} {a b : α} (ha : a ∈ l) (hb : b ∈ l) (hne : a ≠ b) :
    (∃ pre mid post, l = pre ++ a :: (mid ++ b :: post)) ∨
      ∃ pre mid post, l = pre ++ b :: (mid ++ a :: post) := by
  obtain ⟨pre, post, rfl⟩ := List.append_of_mem ha
  rcases List.mem_append.mp hb with hb | hb
  · obtain ⟨pre', mid, rfl⟩ := List.append_of_mem hb
    exact .inr ⟨pre', mid, post, by simp⟩
  · obtain ⟨mid, post', rfl⟩ := List.append_of_mem ((List.mem_cons.mp hb).resolve_left (Ne.symm hne))
    exact .inl ⟨pre, mid, post', rfl⟩

variable [DecidableEq T] {rows : (k : RowKey) → Option k.Row} {jobs : T → Job} {P : SqlPool T Reply}

lemma deployed_keeps_nonces (h : Concurrently db d.emitter rows (fun t => d.run (jobs t)) P)
    {e : Committed T SqlCall SqlCall.Answer} (he : e ∈ P.shared.history) {n : Int} :
    ¬RollsBack walletID chain n e.trace := by
  intro hback
  have hcalls : ∀ t, ((d.run (jobs t)).translate (Call.auditedSql db t d.emitter)).AllCalls (Forward t) := by
    intro t
    refine (run_serving d (jobs t)).performs.translate _ (fun c hc => audited_forward c ?_)
    cases c with
    | ext c => trivial
    | store c =>
      cases c with
      | rollbackPendingNonce => exact hc.elim
      | _ => trivial
  have hforward := history_calls (P := fun c => Forward c.session c)
    (fun t => (hcalls t).mono (fun c hc => ⟨rfl, hc.2⟩)) h he
  exact (hforward _ (by rw [hback]; exact List.mem_cons_self)).2

/-- No request rolls a nonce back, and two requests are never given the same nonce of a wallet on a
chain. -/
theorem allocated_nonces_distinct (h : Concurrently db d.emitter rows (fun t => d.run (jobs t)) P) :
    (∀ walletID chain n, ∀ e ∈ P.shared.history, ¬RollsBack walletID chain n e.trace) ∧
    ∀ walletID chain t₁ t₂ n₁ n₂, t₁ ≠ t₂ → Allocates d (jobs t₁) walletID chain →
      Allocates d (jobs t₂) walletID chain → P.threads t₁ = some (.ret (.http ⟨200, .nonce n₁⟩)) →
      P.threads t₂ = some (.ret (.http ⟨200, .nonce n₂⟩)) → n₁ ≠ n₂ := by
  refine ⟨fun _ _ _ _ he => deployed_keeps_nonces h he, ?_⟩
  intro walletID chain t₁ t₂ n₁ n₂ hne h₁ h₂ hret₁ hret₂
  have hconforms : ∀ t, Conforms ((postgres db).client t (systemRules d.rest.services.balances db))
      ((d.run (jobs t)).translate (Call.auditedSql db t d.emitter)) {} (fun g a => g.phase = .unreachable ∨
        (Allocates d (jobs t) walletID chain → Given walletID chain g a)) := by
    intro t
    by_cases halloc : Allocates d (jobs t) walletID chain
    · exact (allocate_conforms halloc).mono (fun g a hg => hg.imp id (fun hg _ => hg))
    · refine ((run_serving d (jobs t)).composed.noTx (.inl ⟨rfl, trivial⟩)).mono ?_
      exact fun g a _ => .inr (fun h => absurd h halloc)
  obtain ⟨γ, hserial, hentries, hfinished, hreturned⟩ := concurrently_serial hconforms h
  have hcommitted : ∀ t n, Allocates d (jobs t) walletID chain →
      P.threads t = some (.ret (.http ⟨200, .nonce n⟩)) →
      ∃ e ∈ P.shared.history, e.session = t ∧ NonceUnit walletID chain n e.trace := by
    intro t n halloc hret
    obtain ⟨u, hu, hunit⟩ := hreturned t _ hret halloc n rfl
    obtain ⟨e, he, hsession, rfl⟩ := hfinished t u hu (fun rows rows' hreplay => (hunit.replay hreplay).2.2)
    exact ⟨e, he, hsession, hunit⟩
  obtain ⟨e₁, he₁, hsession₁, hunit₁⟩ := hcommitted t₁ n₁ h₁ hret₁
  obtain ⟨e₂, he₂, hsession₂, hunit₂⟩ := hcommitted t₂ n₂ h₂ hret₂
  have hee : e₁ ≠ e₂ := by
    rintro rfl
    exact hne (hsession₁.symm.trans hsession₂)
  have hmid : ∀ pre a mid b post, P.shared.history = pre ++ a :: (mid ++ b :: post) →
      ∀ e ∈ mid, e ∈ P.shared.history := by
    intro pre a mid b post hsplit e he
    rw [hsplit]
    simp [he]
  rcases split_of_ne he₁ he₂ hee with ⟨pre, mid, post, hsplit⟩ | ⟨pre, mid, post, hsplit⟩
  · rcases later_nonce hsplit hserial hentries hunit₁ hunit₂ with hlt | ⟨e, he, hback⟩
    · exact hlt.ne
    · exact absurd hback (deployed_keeps_nonces h (hmid _ _ _ _ _ hsplit e he))
  · rcases later_nonce hsplit hserial hentries hunit₂ hunit₁ with hlt | ⟨e, he, hback⟩
    · exact hlt.ne'
    · exact absurd hback (deployed_keeps_nonces h (hmid _ _ _ _ _ hsplit e he))

/-- The process in development mode, which asks for no tokens. -/
def referenceDeployment : Deployment ℚ :=
  ⟨referenceTokens, "", true, referenceRest, referenceRpc, jsonEmitter⟩

def nonceJob : Job := .rest (nonceRequest "" 0) someFresh

def nonceReply : Except Error Int → Reply
  | .error err => .http ⟨500, .error err.message⟩
  | .ok n => .http ⟨200, .nonce n⟩

lemma nonceRequest_route : referenceRest.route (nonceRequest "" 0) = .found .allocateNonce nilText := by
  decide +kernel

lemma nonceJSON_decodes : referenceRestLib.decodeAllocateNonce nonceJSON = .ok ⟨"ethereum"⟩ := if_pos rfl

lemma nonceJob_run : referenceDeployment.run nonceJob =
    reserveNonce UUID.nil "ethereum" >>= fun r => .ret (nonceReply r) := by
  have hserve : referenceRest.serve referenceTokens "" true someFresh (nonceRequest "" 0) =
      referenceRest.allocateNonce nilText (nonceRequest "" 0) := by
    rw [RestServer.serve, middleware, if_pos (.inl rfl), RestServer.dispatch, nonceRequest_route]
    rfl
  have hid : referenceRest.lib.parseUUID nilText = .ok UUID.nil := rfl
  have hbody : referenceRest.lib.decodeAllocateNonce (nonceRequest "" 0).body =
      .ok ⟨"ethereum"⟩ := nonceJSON_decodes
  have hrun : referenceDeployment.run nonceJob =
      referenceRest.serve referenceTokens "" true someFresh (nonceRequest "" 0) >>=
        fun resp => .ret (.http resp) := rfl
  rw [hrun, hserve, RestServer.allocateNonce, RestServer.withID, hid]
  dsimp only
  rw [if_neg (show ¬referenceRest.hasNonce = false by decide), hbody]
  dsimp only
  rw [if_neg (by decide), Prog.bind_assoc]
  congr 1
  funext r
  cases r <;> rfl

lemma nonceJob_allocates : Allocates referenceDeployment nonceJob UUID.nil "ethereum" :=
  ⟨_, _, _, rfl, nonceRequest_route, rfl, nonceJSON_decodes⟩

theorem allocated_nonces_distinct_overlapping : ∃ P : SqlPool Bool Reply,
    Concurrently referenceDatabase referenceDeployment.emitter freeRows
      (fun _ => referenceDeployment.run nonceJob) P ∧
    P.threads false = some (.ret (.http ⟨200, .nonce 0⟩)) ∧
    P.threads true = some (.ret (.http ⟨200, .nonce 1⟩)) ∧
    (0 : Int) ≠ 1 ∧ ∀ e ∈ P.shared.history, ∀ n, ¬RollsBack UUID.nil "ethereum" n e.trace := by
  obtain ⟨P, hP, hfalse, htrue, -⟩ := overlapping_reservations nonceReply
  rw [← nonceJob_run] at hP
  have hjobs : Concurrently referenceDatabase referenceDeployment.emitter freeRows
      (fun t => referenceDeployment.run ((fun _ => nonceJob) t)) P := hP
  obtain ⟨hkept, hdistinct⟩ := allocated_nonces_distinct hjobs
  exact ⟨P, hP, hfalse, htrue,
    hdistinct _ _ _ _ _ _ Bool.false_ne_true nonceJob_allocates nonceJob_allocates hfalse htrue,
    fun e he n => hkept _ _ n e he⟩

end WalletManager.Proofs
