import WalletManager.Manager
import WalletManager.Proofs.AuditNotes
import WalletManager.Proofs.RotationProtocol

/-!
# The audit log of each operation

Every exit of an operation that writes a state is matched with the emissions around it, under the
condition that keeps the operation from the exits that write a state and emit nothing: a refused or
failed withdrawal, the demotion after a reorg, a funding request that the treasury does not take, the
treasury's callbacks, the binding of a key, and a rotation that fails after it has retired the old address.
-/

namespace WalletManager.Proofs

open Interaction Journal

section Operations

variable {field : Bytes → String → Option AuditValue} {lib : Lib} {em : EmitterService}
  {answers : (c : ExtCall) → c.Answer → Prop} {s s₁ : Store} {v : Entity → Option (UUID × Standing)}
  {ns : List Note} {id : UUID}

/-! ## Withdrawals -/

section Withdrawals

variable {svc : Service}

lemma logs_read {α : Type} {c : StoreCall} {f : Except Error c.Result → Proc α} {Q : α → Store → Prop}
    {x : Except Error c.Result} (hread : s₁.handle lib c = (x, s₁)) (h : Logs lib em answers (f x) s₁ Q) :
    Logs lib em answers (store c >>= f) s₁ Q := by
  refine logs_store ?_
  rw [hread]
  exact h

lemma logs_found {α : Type} {c : StoreCall} {f : Except Error c.Result → Proc (Except Error α)}
    {x : Except Error c.Result} (horder : InOrder (standing s)) (hread : s.handle lib c = (x, s))
    (herr : ∀ err, ∃ err', f (.error err) = .ret (.error err'))
    (hok : ∀ a, x = .ok a → Logs lib em answers (f (.ok a)) s (fun _ s' => Audited field s s')) :
    Logs lib em answers (store c >>= f) s (fun _ s' => Audited field s s') := by
  refine logs_read hread ?_
  cases hx : x with
  | error err =>
    obtain ⟨err', herr⟩ := herr err
    rw [herr]
    exact ends_ret.mpr ((Noted.refl s).unchanged horder)
  | ok a => exact hok a hx

lemma standing_getWithdrawal {wr : WithdrawalRequest} (h : s.getWithdrawal id = .ok wr) :
    standing s (.withdrawal id) = some (wr.walletID, .withdrawal id wr.state) := by
  unfold Store.getWithdrawal at h
  split at h
  · cases h
  · rename_i hrow
    cases h
    simp [standing, hrow]

lemma announced_logs {eventType : String} {payload : List (String × AuditValue)} {w : UUID} {st : Standing}
    {state : WithdrawalState} {reason txHash decisionID : String}
    {f : Except Error Unit → Proc (Except Error Unit)}
    (haudit : svc.hasAudit = true) (hread : Readable em field) (horder : InOrder (standing s))
    (h : Noted field s (standing s) [] s₁) (hrow : standing s (.withdrawal id) = some (w, st))
    (hf : f (.ok ()) = do
      svc.emit ⟨eventType, w, ("id", .text id.string) :: payload⟩
      return .ok ())
    (hkeys : ("id" :: payload.map Prod.fst).Nodup) (hstate : withdrawalEvents.lookup eventType = some state)
    (htype : fundingEvents.lookup eventType = none) :
    Logs lib em answers (store (.updateWithdrawalState id state reason txHash decisionID) >>= f) s₁
      (fun _ s' => Audited field s s') := by
  refine logs_setState h hrow ?_
  intro s₂ h₂
  rw [hf]
  refine logs_saga_emit h₂ haudit hread hkeys ?_
  intro s₃ h₃
  have htold : told (.withdrawal id) (noteOf ⟨eventType, w, ("id", .text id.string) :: payload⟩) =
      some (w, .withdrawal id state) := by
    simp [told, noteOf, hstate]
  refine ends_ret.mpr (h₃.withdrawal horder htold ?_)
  intro m hm
  obtain rfl := List.mem_singleton.mp hm
  exact ⟨rfl, htype⟩

lemma create_logs {req : CreateRequest} (haudit : svc.hasAudit = true) (hread : Readable em field)
    (horder : InOrder (standing s))
    (happroves : ∀ r, answers (.checkWhitelist ⟨req.walletID.string, req.toAddress, req.asset, req.amount⟩) r →
      ∃ dec, r = ⟨some dec, none⟩ ∧ dec.approved = true) :
    Logs lib em answers (svc.create id req) s (fun _ s' => Audited field s s') := by
  have h₀ : Noted field s (standing s) [] s := .refl s
  unfold Service.create
  refine logs_found (x := s.getWallet req.walletID) horder rfl (fun _ => ⟨_, rfl⟩) ?_
  intro w _
  dsimp only
  split_ifs
  · exact ends_ret.mpr (h₀.unchanged horder)
  · exact ends_ret.mpr (h₀.unchanged horder)
  refine logs_createWithdrawal h₀ (fun err => ends_ret.mpr (h₀.unchanged horder)) ?_
  intro s₁ h₁
  refine logs_saga_emit h₁ haudit hread (by simp) ?_
  intro s₂ h₂
  refine logs_ext nofun ?_
  intro answer hanswer
  obtain ⟨dec, rfl, happr⟩ := happroves answer hanswer
  refine logs_saga_emit h₂ haudit hread (by simp) ?_
  intro s₃ h₃
  unfold Service.applyDecision
  simp only [if_pos happr]
  refine logs_setState h₃ (Function.update_self ..) ?_
  intro s₄ h₄
  rw [Function.update_idem] at h₄
  refine ends_ret.mpr (h₄.withdrawal horder (if_pos rfl) ?_)
  rintro m (_ | ⟨_, _ | ⟨_, hm⟩⟩)
  · exact ⟨rfl, rfl⟩
  · exact ⟨rfl, rfl⟩
  · cases hm

/-- The signer returns a signature for every transaction that the service can build for the withdrawal,
and the transaction can be assembled with it. -/
def Signs (svc : Service) (answers : (c : ExtCall) → c.Answer → Prop) (w : Wallet)
    (wr : WithdrawalRequest) : Prop :=
  ∀ n ops opts unsigned keyID r,
    (buildUnsignedTx svc.lib svc.evm w wr n ops opts).MayReturn (.ok unsigned) →
    answers (.sign ⟨keyID, unsigned.payload, wr.walletID⟩) r →
    ∃ resp signed, r = .ok resp ∧ unsigned.assemble resp.signature = .ok signed

lemma signReserved_logs {wr : WithdrawalRequest} {w : Wallet} {keyID : String} {n : Int} {ops : List String}
    {st : Standing} (haudit : svc.hasAudit = true) (hread : Readable em field) (horder : InOrder (standing s))
    (h : Noted field s (standing s) [] s₁) (hrow : standing s (.withdrawal id) = some (wr.walletID, st))
    (hsigns : Signs svc answers w wr) :
    Logs lib em answers (svc.signReserved id wr w keyID n ops) s₁ (fun _ s' => Audited field s s') := by
  have hrollback : ∀ {s₂ : Store} (err : Error), Noted field s (standing s) [] s₂ →
      Logs lib em answers (do Service.rollback w n ops; return .error err : Proc (Except Error Unit)) s₂
        (fun _ s' => Audited field s s') := by
    intro s₂ err h₂
    refine logs_still id h₂ (rollback_still w n ops) ?_
    intro _ s₃ _ h₃
    exact ends_ret.mpr (h₃.unchanged horder)
  unfold Service.signReserved
  refine logs_still id h ((resolveBuildOpts_muted w).mono (fun _ => Muted.still)) ?_
  rintro (err | opts) s₂ - h₂
  · exact hrollback _ h₂
  refine logs_still id h₂ ((buildUnsignedTx_muted _ _ _ _ _ _ _).mono (fun _ => Muted.still)) ?_
  rintro (err | unsigned) s₃ hbuilt h₃
  · exact hrollback _ h₃
  refine logs_ext nofun ?_
  intro r hr
  obtain ⟨resp, signed, rfl, hassemble⟩ := hsigns n ops opts unsigned keyID r hbuilt hr
  simp only [hassemble]
  refine logs_still id h₃ (p := store (.updateWithdrawalSignedTx id signed)) ⟨rfl, fun _ => trivial⟩ ?_
  rintro (err | _) s₄ - h₄
  · exact hrollback _ h₄
  · refine announced_logs haudit hread horder h₄ hrow rfl ?_ ?_ ?_
    · simp
    · rfl
    · rfl

lemma constructAndSign_logs (haudit : svc.hasAudit = true) (hread : Readable em field)
    (horder : InOrder (standing s))
    (hsigns : ∀ wr w, s.getWithdrawal id = .ok wr → s.getWallet wr.walletID = .ok w → Signs svc answers w wr) :
    Logs lib em answers (svc.constructAndSign id) s (fun _ s' => Audited field s s') := by
  have h₀ : Noted field s (standing s) [] s := .refl s
  unfold Service.constructAndSign
  refine logs_found (x := s.getWithdrawal id) horder rfl (fun _ => ⟨_, rfl⟩) ?_
  intro wr hwr
  dsimp only
  split_ifs
  · exact ends_ret.mpr (h₀.unchanged horder)
  refine logs_found (x := s.getWallet wr.walletID) horder rfl (fun _ => ⟨_, rfl⟩) ?_
  intro w hw
  refine logs_still id h₀ ((resolveKeyID_muted wr.walletID).mono (fun _ => Muted.still)) ?_
  rintro (err | keyID) s₁ - h₁
  · exact ends_ret.mpr (h₁.unchanged horder)
  refine logs_still id h₁ (reserve_still wr w) ?_
  rintro (err | ⟨n, ops⟩) s₂ - h₂
  · exact ends_ret.mpr (h₂.unchanged horder)
  · exact signReserved_logs haudit hread horder h₂ (standing_getWithdrawal hwr) (hsigns wr w hwr hw)

lemma broadcast_logs (haudit : svc.hasAudit = true) (hread : Readable em field) (horder : InOrder (standing s))
    (haccepts : ∀ req r, answers (.broadcastTx req) r → ∃ resp, r = .ok resp) :
    Logs lib em answers (svc.broadcast id) s (fun _ s' => Audited field s s') := by
  have h₀ : Noted field s (standing s) [] s := .refl s
  unfold Service.broadcast
  refine logs_found (x := s.getWithdrawal id) horder rfl (fun _ => ⟨_, rfl⟩) ?_
  intro wr hwr
  dsimp only
  split
  · exact ends_ret.mpr (h₀.unchanged horder)
  refine logs_found (x := s.getWallet wr.walletID) horder rfl (fun _ => ⟨_, rfl⟩) ?_
  intro w _
  dsimp only
  split_ifs
  · exact ends_ret.mpr (h₀.unchanged horder)
  refine logs_ext nofun ?_
  intro r hr
  obtain ⟨resp, rfl⟩ := haccepts _ r hr
  refine logs_still id h₀ (settle_still wr w resp.txHash) ?_
  intro _ s₁ _ h₁
  refine announced_logs haudit hread horder h₁ (standing_getWithdrawal hwr) rfl ?_ ?_ ?_
  · simp
  · rfl
  · rfl

lemma confirm_logs {txHash : String} (haudit : svc.hasAudit = true) (hread : Readable em field)
    (horder : InOrder (standing s)) :
    Logs lib em answers (svc.confirm id txHash) s (fun _ s' => Audited field s s') := by
  have h₀ : Noted field s (standing s) [] s := .refl s
  unfold Service.confirm
  refine logs_found (x := s.getWithdrawal id) horder rfl (fun _ => ⟨_, rfl⟩) ?_
  intro wr hwr
  dsimp only
  split_ifs
  · exact ends_ret.mpr (h₀.unchanged horder)
  · refine announced_logs haudit hread horder h₀ (standing_getWithdrawal hwr) rfl ?_ ?_ ?_
    · simp
    · rfl
    · rfl

lemma fail_logs {reason : String} (haudit : svc.hasAudit = true) (hread : Readable em field)
    (horder : InOrder (standing s)) :
    Logs lib em answers (svc.fail id reason) s (fun _ s' => Audited field s s') := by
  have h₀ : Noted field s (standing s) [] s := .refl s
  unfold Service.fail
  refine logs_found (x := s.getWithdrawal id) horder rfl (fun _ => ⟨_, rfl⟩) ?_
  intro wr hwr
  refine logs_found (x := s.getWallet wr.walletID) horder rfl (fun _ => ⟨_, rfl⟩) ?_
  intro w _
  refine logs_still id h₀ (rollback_still w (noncePtr wr) []) ?_
  intro _ s₁ _ h₁
  refine announced_logs haudit hread horder h₁ (standing_getWithdrawal hwr) rfl ?_ ?_ ?_
  · simp
  · rfl
  · rfl

lemma onReorg_logs {outpoints : List String} (horder : InOrder (standing s))
    (hstate : ∀ wr, s.getWithdrawal id = .ok wr → wr.state ≠ .confirmed) :
    Logs lib em answers (Service.onReorg id outpoints) s (fun _ s' => Audited field s s') := by
  have h₀ : Noted field s (standing s) [] s := .refl s
  unfold Service.onReorg
  refine logs_found (x := s.getWithdrawal id) horder rfl (fun _ => ⟨_, rfl⟩) ?_
  intro wr hwr
  refine logs_still id h₀ (p := restoreOnReorg outpoints) ⟨trivial, fun _ => trivial⟩ ?_
  rintro (err | _) s₁ - h₁
  · exact ends_ret.mpr (h₁.unchanged horder)
  · simp only [if_neg (hstate wr hwr)]
    exact ends_ret.mpr (h₁.unchanged horder)

end Withdrawals

/-! ## Funding requests, wallets and keys -/

section Rows

variable {F : Type}

lemma createRequest_logs {svc : FundingService F} {w : Wallet} {asset amount reason : String}
    (haudit : svc.hasAudit = true) (hread : Readable em field) (horder : InOrder (standing s))
    (haccepts : ∀ req r, answers (.requestFunding req) r → r = .ok ()) :
    Logs lib em answers (svc.createRequest id w asset amount reason) s (fun _ s' => Audited field s s') := by
  have h₀ : Noted field s (standing s) [] s := .refl s
  have haudited : ∀ s₁, Noted field s (Function.update (standing s) (.funding id)
        (some (w.id, .funding id .requested))) [] s₁ →
      Logs lib em answers (FundingService.createRequest.audit svc id w asset amount reason) s₁
        (fun _ s' => Audited field s s') := by
    intro s₁ h₁
    unfold FundingService.createRequest.audit
    simp only [haudit, if_true]
    refine logs_emit h₁ hread (by simp) ?_
    intro _ s₂ h₂
    refine ends_ret.mpr (h₂.funding horder (if_pos rfl) ?_)
    intro m hm
    obtain rfl := List.mem_singleton.mp hm
    exact ⟨rfl, rfl⟩
  unfold FundingService.createRequest
  refine logs_createFundingRequest h₀ (fun err => ends_ret.mpr (h₀.unchanged horder)) ?_
  intro s₁ h₁
  dsimp only
  split_ifs
  · refine logs_ext nofun ?_
    intro r hr
    obtain rfl := haccepts _ r hr
    exact haudited s₁ h₁
  · exact haudited s₁ h₁

lemma evaluateAndRequest_logs {svc : FundingService F} {walletID : UUID} {asset : String}
    (haudit : svc.hasAudit = true) (hread : Readable em field) (horder : InOrder (standing s))
    (haccepts : ∀ req r, answers (.requestFunding req) r → r = .ok ()) :
    Logs lib em answers (svc.evaluateAndRequest id walletID asset) s (fun _ s' => Audited field s s') := by
  have h₀ : Noted field s (standing s) [] s := .refl s
  have hevaluate : ∀ w confirmed, Logs lib em answers
      (FundingService.evaluateAndRequest.evaluate svc id walletID asset w confirmed) s
      (fun _ s' => Audited field s s') := by
    intro w confirmed
    unfold FundingService.evaluateAndRequest.evaluate
    split_ifs
    · exact ends_ret.mpr (h₀.unchanged horder)
    · exact ends_ret.mpr (h₀.unchanged horder)
    refine logs_read (x := s.getOpenFundingRequest walletID asset) rfl ?_
    cases s.getOpenFundingRequest walletID asset with
    | ok f => exact ends_ret.mpr (h₀.unchanged horder)
    | error err =>
      dsimp only
      split_ifs
      · exact createRequest_logs haudit hread horder haccepts
      · exact ends_ret.mpr (h₀.unchanged horder)
  unfold FundingService.evaluateAndRequest
  refine logs_found (x := s.getWallet walletID) horder rfl (fun _ => ⟨_, rfl⟩) ?_
  intro w _
  refine logs_read (x := s.getBalance walletID asset) rfl ?_
  cases s.getBalance walletID asset with
  | ok bal => exact hevaluate _ _
  | error err =>
    dsimp only
    split_ifs
    · exact hevaluate _ _
    · exact ends_ret.mpr (h₀.unchanged horder)

lemma manualRequest_logs {svc : FundingService F} {walletID : UUID} {asset amount reason : String}
    (haudit : svc.hasAudit = true) (hread : Readable em field) (horder : InOrder (standing s))
    (haccepts : ∀ req r, answers (.requestFunding req) r → r = .ok ()) :
    Logs lib em answers (svc.manualRequest id walletID asset amount reason) s
      (fun _ s' => Audited field s s') := by
  have h₀ : Noted field s (standing s) [] s := .refl s
  unfold FundingService.manualRequest
  refine logs_found (x := s.getWallet walletID) horder rfl (fun _ => ⟨_, rfl⟩) ?_
  intro w _
  dsimp only
  split_ifs
  · exact ends_ret.mpr (h₀.unchanged horder)
  refine logs_read (x := s.getOpenFundingRequest walletID asset) rfl ?_
  cases s.getOpenFundingRequest walletID asset with
  | ok f => exact ends_ret.mpr (h₀.unchanged horder)
  | error err =>
    dsimp only
    split_ifs
    · exact createRequest_logs haudit hread horder haccepts
    · exact ends_ret.mpr (h₀.unchanged horder)

lemma callback_logs {c : Callback} (horder : InOrder (standing s))
    (hstate : ∀ f, s.fundingReq.lookup c.id = some f → f.state = c.state) :
    Logs lib em answers c.proc s (fun _ s' => Audited field s s') := by
  have h₀ : Noted field s (standing s) [] s := .refl s
  have hupdate : ∀ batch, Audited field s (s.updateFundingState c.id c.state batch).2 := by
    intro batch
    unfold Store.updateFundingState
    cases hrow : s.fundingReq.lookup c.id with
    | none => exact h₀.unchanged horder
    | some f =>
      refine Noted.unchanged (h₀.idle ?_ rfl) horder
      refine (standing_insert_funding _).trans (Function.update_eq_self_iff.mpr ?_)
      simp [standing, hrow, hstate f hrow]
  intro tr r s' hexec
  cases c with
  | approved id batch =>
    obtain ⟨r', s₁, tr₁, hs, ⟨-, -, rfl⟩, -⟩ := hexec
    obtain rfl := congrArg Prod.snd hs
    exact hupdate batch
  | settled id =>
    obtain ⟨r', s₁, tr₁, hs, ⟨-, -, rfl⟩, -⟩ := hexec
    obtain rfl := congrArg Prod.snd hs
    exact hupdate ""
  | rejected id reason =>
    obtain ⟨r', s₁, tr₁, hs, ⟨-, -, rfl⟩, -⟩ := hexec
    obtain rfl := congrArg Prod.snd hs
    exact hupdate ""

lemma noted_wallet {state : WalletState} {n : Note} (horder : InOrder (standing s))
    (h : Noted field s (Function.update (standing s) (.wallet id) (some (id, .wallet state))) ([] ++ [n]) s₁)
    (hn : Tells n (id, .wallet state))
    (htypes : withdrawalEvents.lookup n.eventType = none ∧ fundingEvents.lookup n.eventType = none) :
    Audited field s s₁ := by
  refine h.untracked (.update List.mem_cons_self hn) ?_ ?_ horder.wallet
  · exact fun x hx => tracked_update not_false hx
  · intro m hm
    obtain rfl := List.mem_singleton.mp hm
    exact htypes

lemma createWallet_logs {svc : WalletService} {fresh : UUID} {req : CreateWalletRequest}
    (haudit : svc.hasAudit = true) (hread : Readable em field) (horder : InOrder (standing s)) :
    Logs lib em answers (svc.create id fresh req) s (fun _ s' => Audited field s s') := by
  have h₀ : Noted field s (standing s) [] s := .refl s
  unfold WalletService.create
  split
  · exact ends_ret.mpr (h₀.unchanged horder)
  split
  · exact ends_ret.mpr (h₀.unchanged horder)
  split
  · exact ends_ret.mpr (h₀.unchanged horder)
  refine logs_createWallet h₀ (fun err => ends_ret.mpr (h₀.unchanged horder)) ?_
  intro s₁ h₁
  refine logs_emit h₁ hread (by simp) ?_
  intro _ s₂ h₂
  exact ends_ret.mpr (noted_wallet horder h₂ ⟨rfl, .inl ⟨rfl, rfl⟩⟩ ⟨rfl, rfl⟩)

lemma walletState_string {text : String} {state : WalletState} (h : walletState text = some state) :
    state.string = text := by
  unfold walletState at h
  split_ifs at h with hactive hpaused hretired
  · cases h
    exact hactive.symm
  · cases h
    exact hpaused.symm
  · cases h
    exact hretired.symm

lemma setState_logs {svc : WalletService} {text : String} (haudit : svc.hasAudit = true)
    (hread : Readable em field)
    (horder : InOrder (standing s)) :
    Logs lib em answers (svc.setState id text) s (fun _ s' => Audited field s s') := by
  have h₀ : Noted field s (standing s) [] s := .refl s
  unfold WalletService.setState
  split
  · exact ends_ret.mpr (h₀.unchanged horder)
  rename_i next hnext
  refine logs_found (x := s.getWallet id) horder rfl (fun _ => ⟨_, rfl⟩) ?_
  intro w _
  dsimp only
  split_ifs
  · exact ends_ret.mpr (h₀.unchanged horder)
  refine logs_updateWalletState h₀ horder (fun err => ends_ret.mpr (h₀.unchanged horder)) ?_
  intro s₁ h₁
  refine logs_emit h₁ hread (by simp) ?_
  intro _ s₂ h₂
  refine ends_ret.mpr (noted_wallet horder h₂ ⟨rfl, .inr ⟨rfl, ?_⟩⟩ ⟨rfl, rfl⟩)
  rw [walletState_string hnext]
  rfl

lemma bind_logs {keyID : String} {now : Int} (horder : InOrder (standing s))
    (hcurrent : (s.mappings id).any (fun m => m.rotationState = .current) = true) :
    Logs lib em answers (KeyMappingService.bind id keyID now) s (fun _ s' => Audited field s s') := by
  have h₀ : Noted field s (standing s) [] s := .refl s
  have hrefused : (s.bindKeyMapping ⟨id, keyID, now, none, .current⟩ now).2 = s := by
    unfold Store.bindKeyMapping
    rw [if_pos (by simpa using hcurrent)]
  rintro tr r s' ⟨r', s₁, tr₁, hs, ⟨-, -, rfl⟩, -⟩
  obtain rfl : s' = s := (congrArg Prod.snd hs).trans hrefused
  exact h₀.unchanged horder

lemma rotateKeys_logs {svc : KeyMappingService} {keyID : String} {now : Int} (haudit : svc.hasAudit = true)
    (hread : Readable em field) (horder : InOrder (standing s)) :
    Logs lib em answers (svc.rotate id keyID now) s (fun _ s' => Audited field s s') := by
  have h₀ : Noted field s (standing s) [] s := .refl s
  unfold KeyMappingService.rotate
  refine logs_rotateKeyMapping h₀ ?_
  rintro ms s₁ ⟨m, hm, hcurrent, rfl⟩ h₁
  dsimp only
  rw [if_pos haudit]
  refine logs_emit h₁ hread (by simp) ?_
  intro _ s₂ h₂
  refine ends_ret.mpr (h₂.untracked (.update List.mem_cons_self ⟨rfl, rfl, m, hm, hcurrent, rfl⟩) ?_ ?_
    (horder.other (by simp) (by simp)))
  · exact fun x hx => tracked_update not_false hx
  · intro n hn
    obtain rfl := List.mem_singleton.mp hn
    exact ⟨rfl, rfl⟩

end Rows

/-! ## Addresses -/

section Addresses

variable {p : RotationPolicy} {w : Wallet} {fresh : Fresh}

structure Derivable (p : RotationPolicy) (s : Store) (w : Wallet) (fresh : Fresh) : Prop where
  served : Served w.chain
  derives : ∃ addr, uncachedAt p w.chain (s.nextAddressIndex w.chain.string 0) = .ok addr
  unused : fresh.addrID ∉ s.addresses

def derivedEvent (w : Wallet) (a : Address) : AuditEvent :=
  ⟨"wallet.address.derived", w.id, [("address", .text a.address), ("index", .int a.index),
    ("path", .text a.derivationPath)]⟩

def Placed (field : Bytes → String → Option AuditValue) (s : Store) (v : Entity → Option (UUID × Standing))
    (ns : List Note) (w : Wallet) (a : Address) (s₁ : Store) : Prop :=
  v (.address a.id) = none ∧
  Noted field s (Function.update v (.address a.id) (some (w.id, .address a.id a.address .active)))
    (ns ++ [noteOf (derivedEvent w a)]) s₁

lemma deriveCached_logs {key : String} {uncached : Except Error String} {make : String → DeriveResult} :
    Logs lib em answers (deriveCached key uncached make) s
      (fun r s' => s' = s ∧ ∀ err, r = .error err → uncached = .error err) := by
  unfold deriveCached
  refine logs_ext nofun ?_
  intro hit _
  cases cacheHit hit with
  | some text => exact ends_ret.mpr ⟨rfl, nofun⟩
  | none =>
    cases uncached with
    | error err => exact ends_ret.mpr ⟨rfl, fun _ h => congrArg _ (Except.error.inj h)⟩
    | ok text => exact logs_ext nofun (fun _ _ => ends_ret.mpr ⟨rfl, nofun⟩)

lemma insert_logs {d : Deriver} {n : Int} {key : String} {uncached : Except Error String}
    {make : String → DeriveResult}
    (haudit : p.hasAudit = true) (hread : Readable em field) (hnone : NoActive v w.id)
    (hderive : d w.id w.chain n 0 = deriveCached key uncached make) (h : Noted field s v ns s₁) :
    Logs lib em answers (RotationPolicy.deriveNew.insert p w fresh d n) s₁ (fun r s' =>
      (∃ err, r = .error err) ∧ Noted field s v ns s' ∧
        ((∃ err, uncached = .error err) ∨ v (.address fresh.addrID) ≠ none) ∨
      ∃ a, r = .ok a ∧ Placed field s v ns w a s') := by
  unfold RotationPolicy.deriveNew.insert
  rw [hderive]
  refine Ends.bind deriveCached_logs ?_
  rintro - (err | res) _ ⟨rfl, herr⟩
  · exact ends_ret.mpr (.inl ⟨⟨_, rfl⟩, h, .inl ⟨err, herr err rfl⟩⟩)
  refine logs_insertAddress h rfl rfl hnone ?_ ?_
  · intro err hused
    exact ends_ret.mpr (.inl ⟨⟨_, rfl⟩, h, .inr hused⟩)
  · intro s₂ hunused h₂
    dsimp only
    rw [if_pos haudit]
    refine logs_emit h₂ hread (by simp) ?_
    intro _ s₃ h₃
    exact ends_ret.mpr (.inr ⟨_, rfl, hunused, h₃⟩)

lemma forChain_unserved (h : ¬Served w.chain) : ∃ err, p.derivers.forChain w.chain = .error err := by
  unfold Registry.forChain
  rw [if_neg (fun hevm => h (.inl (.inl hevm))), if_neg (fun hsol => h (.inr hsol)),
    if_neg (fun hbtc => h (.inl (.inr hbtc)))]
  exact ⟨_, rfl⟩

lemma listAddresses_mem (hsort : LawfulSort lib) {a : Address} (ha : a ∈ s₁.listAddresses lib w.id) :
    ∃ j, s₁.addresses.lookup j = some a ∧ a.walletID = w.id := by
  unfold Store.listAddresses at ha
  rw [(hsort.perm _ _).mem_iff, List.mem_filter] at ha
  obtain ⟨j, hj⟩ := mem_addressRows.mp ha.1
  exact ⟨j, hj, by simpa using ha.2⟩

lemma deriveNew_logs (hsort : LawfulSort lib) (haudit : p.hasAudit = true) (hread : Readable em field)
    (horder : InOrder v) (hnone : NoActive v w.id) (h : Noted field s v ns s₁) :
    Logs lib em answers (p.deriveNew w fresh) s₁ (fun r s' =>
      (∃ err, r = .error err) ∧ Noted field s v ns s' ∧ ¬Derivable p s₁ w fresh ∨
      ∃ a, r = .ok a ∧ Placed field s v ns w a s') := by
  unfold RotationPolicy.deriveNew
  by_cases hserved : Served w.chain
  swap
  · obtain ⟨err, herr⟩ := forChain_unserved (p := p) hserved
    rw [herr]
    exact ends_ret.mpr (.inl ⟨⟨err, rfl⟩, h, fun hd => hserved hd.served⟩)
  obtain ⟨d, hd, hderive⟩ := forChain_served (p := p) hserved
  rw [hd]
  have hinsert : ∀ s₂, Noted field s v ns s₂ → Logs lib em answers
      (RotationPolicy.deriveNew.insert p w fresh d (s₁.nextAddressIndex w.chain.string 0)) s₂ (fun r s' =>
        (∃ err, r = .error err) ∧ Noted field s v ns s' ∧ ¬Derivable p s₁ w fresh ∨
        ∃ a, r = .ok a ∧ Placed field s v ns w a s') := by
    intro s₂ h₂
    refine (insert_logs haudit hread hnone (hderive w.id _ (nextAddressIndex_nonneg _ _ _)) h₂).mono ?_
    rintro - r s' (⟨herr, h', hcause⟩ | hplaced)
    · refine .inl ⟨herr, h', ?_⟩
      rintro ⟨-, ⟨addr, haddr⟩, hunused⟩
      rcases hcause with ⟨err, herr⟩ | hused
      · rw [haddr] at herr
        cases herr
      · refine hused ?_
        rw [← h.standing]
        simp [standing, AList.lookup_eq_none.mpr hunused]
    · exact .inr hplaced
  refine logs_read (x := .ok (s₁.nextAddressIndex w.chain.string 0)) rfl ?_
  dsimp only
  split_ifs
  · -- on Solana the first row of the wallet is retired, which it is already
    refine logs_read (x := .ok (s₁.listAddresses lib w.id)) rfl ?_
    cases haddrs : s₁.listAddresses lib w.id with
    | nil => exact hinsert s₁ h
    | cons a rest =>
      obtain ⟨j, hj, hw⟩ := listAddresses_mem hsort (haddrs ▸ List.mem_cons_self : a ∈ s₁.listAddresses lib w.id)
      have hrow : v (.address j) = some (w.id, .address a.id a.address a.state) := by
        rw [← h.standing]
        simp [standing, hj, hw]
      obtain rfl : a.id = j := horder.addresses j w.id a.id a.address a.state hrow
      have hdeprecated : a.state = .deprecated := by
        cases hstate : a.state with
        | deprecated => rfl
        | active => exact absurd (hstate ▸ hrow) (hnone _ _ _)
      refine logs_deprecateAddress h hrow ?_
      intro h₂
      rw [← hdeprecated, ← hrow, Function.update_eq_self] at h₂
      exact hinsert _ h₂
  · exact hinsert s₁ h

lemma deriveNew_audited (hsort : LawfulSort lib) (haudit : p.hasAudit = true) (hread : Readable em field)
    (horder : InOrder (standing s)) (hnone : NoActive (standing s) w.id) :
    Logs lib em answers (p.deriveNew w fresh) s (fun _ s' => Audited field s s') := by
  refine (deriveNew_logs hsort haudit hread horder hnone (.refl s)).mono ?_
  rintro - r s' (⟨-, h, -⟩ | ⟨a, -, -, h⟩)
  · exact h.unchanged horder
  · refine h.untracked (.update List.mem_cons_self ⟨rfl, rfl, rfl⟩) ?_ ?_ (horder.place hnone)
    · exact fun x hx => tracked_update not_false hx
    · intro n hn
      obtain rfl := List.mem_singleton.mp hn
      exact ⟨rfl, rfl⟩

lemma logs_underLock {body : Proc (Except Error Address)} (horder : InOrder (standing s))
    (hbody : Logs lib em answers body s (fun _ s' => Audited field s s')) :
    Logs lib em answers (RotationPolicy.underLock w body) s (fun _ s' => Audited field s s') := by
  have h₀ : Noted field s (standing s) [] s := .refl s
  refine logs_ext nofun ?_
  rintro (err | ⟨token, ok⟩) -
  · exact ends_ret.mpr (h₀.unchanged horder)
  dsimp only
  split_ifs
  · exact ends_ret.mpr (h₀.unchanged horder)
  · refine Ends.bind hbody ?_
    intro _ r s₁ hr
    exact logs_ext nofun (fun _ _ => ends_ret.mpr hr)

lemma Derivable.retire (h : Derivable p s w fresh) (id : UUID) :
    Derivable p (s.deprecateAddress id).2 w fresh := by
  have hrows := deprecateAddress_rewrites s id
  refine ⟨h.served, ?_, ?_⟩
  · rw [hrows.nextAddressIndex]
    exact h.derives
  · intro hused
    obtain ⟨b, hb⟩ := Table.mem_iff.mp hused
    obtain ⟨a, ha, -⟩ := hrows.only _ b hb
    exact h.unused (Table.mem_iff.mpr ⟨a, ha⟩)

lemma rotate_logs {old : Address} (hsort : LawfulSort lib) (haudit : p.hasAudit = true) (hread : Readable em field)
    (horder : InOrder (standing s))
    (hold : standing s (.address old.id) = some (w.id, .address old.id old.address .active))
    (hderivable : Derivable p s w fresh) :
    Logs lib em answers (p.rotate w old fresh) s (fun _ s' => Audited field s s') := by
  have h₀ : Noted field s (standing s) [] s := .refl s
  refine logs_underLock horder ?_
  refine logs_deprecateAddress h₀ hold ?_
  intro h₁
  refine Ends.bind (deriveNew_logs hsort haudit hread horder.retire (horder.noActive_retire hold) h₁) ?_
  rintro - r s₂ (⟨-, -, hnot⟩ | ⟨a, rfl, -, h₂⟩)
  · exact absurd (hderivable.retire old.id) hnot
  dsimp only
  rw [if_pos haudit]
  refine logs_emit h₂ hread (by simp) ?_
  intro _ s₃ h₃
  refine ends_ret.mpr (h₃.untracked ?_ ?_ ?_ (horder.retire.place (horder.noActive_retire hold)))
  · refine Covers.trans (Covers.update (List.mem_append_right _ List.mem_cons_self) ?_)
      (Covers.update (List.mem_append_left _ List.mem_cons_self) ?_)
    · exact ⟨rfl, rfl, rfl⟩
    · exact ⟨rfl, rfl, rfl⟩
  · intro x hx
    rw [tracked_update (x := .address a.id) not_false hx, tracked_update (x := .address old.id) not_false hx]
  · rintro n (_ | ⟨_, _ | ⟨_, hn⟩⟩)
    · exact ⟨rfl, rfl⟩
    · exact ⟨rfl, rfl⟩
    · cases hn

lemma deriveNewLoop_logs (hsort : LawfulSort lib) (haudit : p.hasAudit = true) (hread : Readable em field)
    (horder : InOrder (standing s)) (hnone : NoActive (standing s) w.id) (retries : Nat) :
    Logs lib em answers (p.deriveNewLoop w fresh retries) s (fun _ s' => Audited field s s') := by
  have hsame : Audited field s s := (Noted.refl s).unchanged horder
  induction retries with
  | zero => exact ends_ret.mpr hsame
  | succ retries ih =>
    refine logs_ext nofun ?_
    rintro (err | ⟨token, ok⟩) -
    · exact ends_ret.mpr hsame
    dsimp only
    split_ifs
    · refine logs_read (x := s.getActiveAddress w.id) rfl ?_
      cases s.getActiveAddress w.id with
      | ok a => exact ends_ret.mpr hsame
      | error err =>
        dsimp only
        split_ifs
        · exact ih
        · exact ends_ret.mpr hsame
    · refine logs_read (x := s.getActiveAddress w.id) rfl ?_
      cases s.getActiveAddress w.id with
      | ok a => exact logs_ext nofun (fun _ _ => ends_ret.mpr hsame)
      | error err =>
        dsimp only
        split_ifs
        · refine Ends.bind (deriveNew_audited hsort haudit hread horder hnone) ?_
          intro _ r s₁ hr
          exact logs_ext nofun (fun _ _ => ends_ret.mpr hr)
        · exact logs_ext nofun (fun _ _ => ends_ret.mpr hsame)

lemma standing_active {a : Address} (horder : InOrder (standing s)) (h : s.getActiveAddress id = .ok a) :
    standing s (.address a.id) = some (id, .address a.id a.address .active) := by
  have hkeyed : ∀ j b, s.addresses.lookup j = some b → b.id = j := by
    intro j b hb
    refine horder.addresses j b.walletID b.id b.address b.state ?_
    simp [standing, hb]
  obtain ⟨hrow, hw, hactive⟩ := getActiveAddress_row hkeyed h
  simp [standing, hrow, hw, hactive]

lemma noActive_of_error {err : Error} (h : s.getActiveAddress id = .error err) : NoActive (standing s) id := by
  intro i j text hi
  obtain ⟨a, ha, heq⟩ := Option.map_eq_some_iff.mp hi
  simp only [Prod.mk.injEq, Standing.address.injEq] at heq
  exact getActiveAddress_error h ha heq.1 heq.2.2.2

lemma lookup_logs {f : Wallet → Except Error Address → Proc (Except Error Address)} (horder : InOrder (standing s))
    (hnone : ∀ w err, s.getWallet id = .ok w → w.id = id → NoActive (standing s) id →
      Logs lib em answers (f w (.error err)) s (fun _ s' => Audited field s s'))
    (hactive : ∀ w a, s.getWallet id = .ok w → w.id = id → w.state ≠ .retired → s.getActiveAddress id = .ok a →
      Logs lib em answers (f w (.ok a)) s (fun _ s' => Audited field s s')) :
    Logs lib em answers (do
      match ← store (.getWallet id) with
      | .error err => return .error err
      | .ok w =>
        if w.state = .retired then return .error errWalletRetired
        else f w (← store (.getActiveAddress id))) s (fun _ s' => Audited field s s') := by
  have hsame : Audited field s s := (Noted.refl s).unchanged horder
  refine logs_found (x := s.getWallet id) horder rfl (fun _ => ⟨_, rfl⟩) ?_
  intro w hw
  dsimp only
  split_ifs with hstate
  · exact ends_ret.mpr hsame
  have hid : w.id = id := by
    unfold Store.getWallet at hw
    split at hw
    · cases hw
    · rename_i hrow
      cases hw
      refine horder.wallets id w.id (.wallet w.state) ?_
      simp [standing, hrow]
  refine logs_read (x := s.getActiveAddress id) rfl ?_
  cases ha : s.getActiveAddress id with
  | error err => exact hnone w err hw hid (noActive_of_error ha)
  | ok a => exact hactive w a hw hid hstate ha

lemma deriveAddress_logs {force : Bool} (hsort : LawfulSort lib) (haudit : p.hasAudit = true)
    (hread : Readable em field) (horder : InOrder (standing s))
    (hdue : ∀ w a, s.getWallet id = .ok w → w.state ≠ .retired → s.getActiveAddress id = .ok a →
      (force = true ∨ p.shouldRotate w a fresh.since = true) → Derivable p s w fresh) :
    Logs lib em answers (p.deriveAddress id force fresh) s (fun _ s' => Audited field s s') := by
  have hsame : Audited field s s := (Noted.refl s).unchanged horder
  have hrotate : ∀ w a, s.getWallet id = .ok w → w.id = id → w.state ≠ .retired → s.getActiveAddress id = .ok a →
      (force = true ∨ p.shouldRotate w a fresh.since = true) →
      Logs lib em answers (p.rotate w a fresh) s (fun _ s' => Audited field s s') := by
    rintro w a hw rfl hstate ha hforce
    exact rotate_logs hsort haudit hread horder (standing_active horder ha) (hdue w a hw hstate ha hforce)
  unfold RotationPolicy.deriveAddress
  split_ifs with hforce
  · refine lookup_logs horder ?_ ?_
    · rintro w err hw rfl hnone
      dsimp only
      split_ifs
      · exact logs_underLock horder (deriveNew_audited hsort haudit hread horder hnone)
      · exact ends_ret.mpr hsame
    · intro w a hw hid hstate ha
      exact hrotate w a hw hid hstate ha (.inl hforce)
  · refine lookup_logs horder ?_ ?_
    · rintro w err hw rfl hnone
      dsimp only
      split_ifs
      · exact deriveNewLoop_logs hsort haudit hread horder hnone 20
      · exact ends_ret.mpr hsame
    · intro w a hw hid hstate ha
      dsimp only
      split_ifs with hrot
      · exact hrotate w a hw hid hstate ha (.inr hrot)
      · exact ends_ret.mpr hsame

end Addresses

end Operations

end WalletManager.Proofs
