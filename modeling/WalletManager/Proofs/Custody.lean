import WalletManager.Proofs.KeyRotation
import WalletManager.Proofs.SagaCalls

/-!
# Who may spend

`Create` of the withdrawal service looks at the wallet's state; no later step of the saga does, and
no step looks at the wallet's type.
-/

namespace WalletManager.Proofs

open Interaction

def WithdrawalState.waits : WithdrawalState → Bool
  | .whitelisted | .signed => true
  | _ => false

/-- The wallet of an identifier is active and not cold. -/
def MaySpend (s : Store) (walletID : UUID) : Prop :=
  ∃ w, s.wallets.lookup walletID = some w ∧ w.state = .active ∧ w.type ≠ .cold

/-- The signer and the gateway are asked for a withdrawal whose wallet may spend. -/
def Gated (op : CustodyOp) (s : Store) : Call → Prop
  | .ext (.sign _) | .ext (.broadcastTx _) => ∃ o wr, op = .withdrawal o ∧
    s.withdrawals.lookup o.id = some wr ∧ MaySpend s wr.walletID
  | _ => True

/-- No withdrawal is created for a cold wallet, and no wallet is paused or retired while one of
its withdrawals waits to be signed or broadcast. -/
def SparesWaiting (s : Store) : CustodyOp → Prop
  | .withdrawal (.create _ req) => ∀ w, s.wallets.lookup req.walletID = some w → w.type ≠ .cold
  | .setState id state => (∀ next, walletState state = some next → next = .active) ∨
    ∀ j wr, s.withdrawals.lookup j = some wr → wr.walletID = id →
      wr.state ≠ .whitelisted ∧ wr.state ≠ .signed
  | _ => True

section Calls

variable {lib : Lib} {s s' : Store} {id : UUID} {states : List WithdrawalState}
  {party : Option Party} {c : Call}

lemma touches_wallets {r : Answer c} (hc : Touches id states party c) (hs : memStep lib s c r s') :
    s'.wallets = s.wallets := by
  cases c with
  | store c =>
    obtain rfl : s' = (s.handle lib c).2 := congrArg Prod.snd hs
    cases c with
    | createWithdrawal w => exact createWithdrawal_wallets s w
    | updateWithdrawalState => exact updateWithdrawalState_wallets s _ _ _ _ _
    | updateWithdrawalNonce | updateWithdrawalOutpoints | updateWithdrawalSignedTx =>
      exact updateWithdrawal_wallets s _ _
    | lockUTXOs ops => exact lockUTXOs_wallets s ops
    | rollbackPendingNonce => exact rollbackPendingNonce_wallets s _ _ _
    | _ => first | exact False.elim hc | rfl
  | ext c =>
    obtain rfl : s' = s := hs
    rfl

def Unasked : Call → Prop
  | .ext (.sign _) | .ext (.broadcastTx _) => False
  | _ => True

lemma unasked_gated {α : Type} {p : Proc α} (hp : p.AllCalls Unasked) (op : CustodyOp) :
    Along (memStep lib) (Gated op) p s := by
  refine hp.along (I := fun _ => True) trivial (fun _ _ _ _ _ _ _ => trivial) ?_
  rintro s (c | c) - hc
  · trivial
  · cases c <;> trivial

lemma Touches.unasked (hc : Touches id states none c) : Unasked c := by
  rcases c with c | c
  · trivial
  · cases c <;> trivial

/-- After it has read a row that does not have to wait, an operation asks nobody; otherwise it
asks while the row and the wallets are as it has found them. -/
lemma op_gated (svc : Service) (op : Op)
    (hs : ∀ wr, s.withdrawals.lookup op.id = some wr → WithdrawalState.waits wr.state →
      MaySpend s wr.walletID) :
    Along (memStep svc.lib) (Gated (.withdrawal op)) (op.proc svc) s := by
  by_cases hop : ∀ id req, op ≠ .create id req
  · obtain ⟨k, hproc, herr, hok⟩ := op_reads svc hop
    rw [hproc]
    refine ⟨trivial, ?_⟩
    intro r s₁ hs₁
    obtain ⟨rfl, rfl⟩ := Prod.mk.inj (show (r, s₁) = (s.getWithdrawal op.id, s) from hs₁)
    cases hread : s₁.getWithdrawal op.id with
    | error err =>
      rw [herr]
      trivial
    | ok wr =>
      have hrow := getWithdrawal_ok hread
      by_cases hwaits : WithdrawalState.waits wr.state
      · obtain ⟨w, hw, hspend⟩ := hs wr hrow hwaits
        -- the row keeps its wallet, and the wallets stay as they are
        refine (hok wr).along (I := fun s' => s'.wallets = s₁.wallets ∧
          ∃ wr', s'.withdrawals.lookup op.id = some wr' ∧ wr'.walletID = wr.walletID)
          ⟨rfl, wr, hrow, rfl⟩ ?_ ?_
        · rintro s c r s' ⟨hwallets, wr', hrow', hid⟩ hc hstep
          obtain ⟨wr'', hrow'', hreq, -⟩ :=
            (touches_rowStep hc (memStep_lossyStep hstep)).kept wr' hrow'
          refine ⟨(touches_wallets hc hstep).trans hwallets, wr'', hrow'', ?_⟩
          exact (congrArg CreateRequest.walletID hreq).trans hid
        · rintro s (c | c) ⟨hwallets, wr', hrow', hid⟩ -
          · trivial
          · have hmay : MaySpend s wr'.walletID := ⟨w, by rw [hid, hwallets, hw], hspend⟩
            cases c <;> first | trivial | exact ⟨op, wr', rfl, hrow', hmay⟩
      · have hnone : asks op wr.state = none := by
          cases op <;> cases hstate : wr.state <;> simp_all [asks, WithdrawalState.waits]
        have hcalls := hok wr
        rw [hnone] at hcalls
        exact unasked_gated (hcalls.mono (fun _ => Touches.unasked)) _
  · simp only [not_forall, Decidable.not_not] at hop
    obtain ⟨id, req, rfl⟩ := hop
    have hcalls := (create_touches svc id req).mono (fun _ => Touches.unasked)
    apply unasked_gated
    exact hcalls.bind (fun _ => trivial)

lemma create_unasked (wallets : WalletService) (id fresh : UUID) (req : CreateWalletRequest) :
    (wallets.create id fresh req).AllCalls Unasked := by
  unfold WalletService.create
  split
  · trivial
  split
  · trivial
  split
  · trivial
  refine ⟨trivial, ?_⟩
  rintro (err | _)
  · trivial
  dsimp only [Prog.bind]
  split
  · exact ⟨trivial, fun _ => trivial⟩
  · trivial

def ChangesState (id : UUID) (c : Call) : Prop :=
  c = .store (.getWallet id) ∨ (∃ next, c = .store (.updateWalletState id next)) ∨ ∃ e, c = .ext (.emit e)

lemma setState_calls (wallets : WalletService) (id : UUID) (state : String) :
    (wallets.setState id state).AllCalls (ChangesState id) := by
  unfold WalletService.setState
  split
  · trivial
  refine ⟨.inl rfl, ?_⟩
  rintro (err | w)
  · trivial
  dsimp only [Prog.bind]
  split
  · trivial
  refine ⟨.inr (.inl ⟨_, rfl⟩), ?_⟩
  rintro (err | _)
  · trivial
  dsimp only [Prog.bind]
  split
  · exact ⟨.inr (.inr ⟨_, rfl⟩), fun _ => trivial⟩
  · trivial

lemma setState_unasked (wallets : WalletService) (id : UUID) (state : String) :
    (wallets.setState id state).AllCalls Unasked := by
  refine (setState_calls wallets id state).mono ?_
  rintro c (rfl | ⟨next, rfl⟩ | ⟨e, rfl⟩) <;> trivial

end Calls

section Step

variable {s s' : Store} {op : Op} {obs : List Obs}

lemma Outcome.waiting (h : Outcome s op obs s') {j : UUID} {wr' : WithdrawalRequest}
    (hrow' : s'.withdrawals.lookup j = some wr') (hwaits : WithdrawalState.waits wr'.state) :
    (∃ wr, s.withdrawals.lookup j = some wr ∧ WithdrawalState.waits wr.state ∧
      wr.walletID = wr'.walletID) ∨
    ∃ req, op = .create j req ∧ wr'.walletID = req.walletID := by
  have hsame : s'.withdrawals.lookup j = s.withdrawals.lookup j →
      ∃ wr, s.withdrawals.lookup j = some wr ∧ WithdrawalState.waits wr.state ∧
        wr.walletID = wr'.walletID := by
    intro heq
    exact ⟨wr', heq.symm.trans hrow', hwaits, rfl⟩
  -- the row that an operation writes on its own withdrawal
  have hown : ∀ {id wr wr₁}, s.withdrawals.lookup id = some wr → RowSet s s' id wr₁ →
      (WithdrawalState.waits wr₁.state → WithdrawalState.waits wr.state) →
      wr₁.walletID = wr.walletID → ∃ wr, s.withdrawals.lookup j = some wr ∧
        WithdrawalState.waits wr.state ∧ wr.walletID = wr'.walletID := by
    intro id wr wr₁ hrow hset hkeep hid
    rcases hset.lookup_cases hrow' with ⟨rfl, rfl⟩ | ⟨hne, hold⟩
    · exact ⟨wr, hrow, hkeep hwaits, hid.symm⟩
    · exact ⟨wr', hold, hwaits, rfl⟩
  cases h with
  | refused => exact .inl (hsame rfl)
  | @created id req state reason decisionID hcreate hstate =>
    rcases ((created_rowSet hcreate).state state reason "" decisionID).lookup_cases hrow' with
      ⟨rfl, rfl⟩ | ⟨hne, hold⟩
    · exact .inr ⟨req, rfl, rfl⟩
    · exact .inl ⟨wr', hold, hwaits, rfl⟩
  | unfunded => exact .inl (hsame (by rw [rollbackPendingNonce_withdrawals]))
  | dropped hrow hwl hw hres =>
    refine .inl (hown hrow ((hres.rowSet hrow).released _ _ _) ?_ hres.fields.2)
    rw [hres.fields.1]
    exact id
  | unsigned hrow hwl hw hres =>
    exact .inl (hown hrow (((hres.rowSet hrow).released _ _ _).state _ _ _ _) (by nofun)
      hres.fields.2)
  | @signed id wr w n ops wr₁ obs s₁ txBytes hrow hwl hw hres =>
    refine .inl (hown hrow (((hres.rowSet hrow).update
      (fun w => { w with signedTxBytes := txBytes })).state .signed "" "" "") ?_ hres.fields.2)
    intro _
    rw [hwl]
    rfl
  | rejected hrow hsigned hw =>
    exact .inl (hown hrow (((RowSet.refl hrow).released _ _ _).state _ _ _ _) (by nofun) rfl)
  | accepted hrow hsigned hw =>
    exact .inl (hown hrow (((RowSet.refl hrow).committed _ _ _).state _ _ _ _) (by nofun) rfl)
  | confirmed hrow hbroadcast =>
    exact .inl (hown hrow ((RowSet.refl hrow).state _ _ _ _) (by nofun) rfl)
  | failed hrow hw =>
    exact .inl (hown hrow (((RowSet.refl hrow).released _ _ _).state _ _ _ _) (by nofun) rfl)
  | restored hrow => exact .inl (hsame rfl)
  | demoted hrow hconfirmed =>
    exact .inl (hown hrow (((RowSet.refl hrow).restored _).state _ _ _ _) (by nofun) rfl)

lemma create_active (svc : Service) (id : UUID) (req : CreateRequest) :
    Saga svc.lib (svc.create id req) s (fun _ _ s' =>
      s' = s ∨ ∃ w, s.wallets.lookup req.walletID = some w ∧ w.state = .active) := by
  refine getWallet_saga (fun err => ends_ret.mpr (.inl rfl)) ?_
  intro w hw
  dsimp only
  split
  · exact ends_ret.mpr (.inl rfl)
  split
  · exact ends_ret.mpr (.inl rfl)
  · rename_i hretired hpaused
    have hactive : w.state = .active := by
      cases hstate : w.state with
      | active => rfl
      | paused => exact absurd hstate hpaused
      | retired => exact absurd hstate hretired
    intro tr a s' he
    exact .inr ⟨w, hw, hactive⟩

lemma setState_saga {lib : Lib} (wallets : WalletService) (id : UUID) (state : String) :
    Saga lib (wallets.setState id state) s (fun _ _ s' => s' = s ∨
      ∃ next w, walletState state = some next ∧ s.wallets.lookup id = some w ∧
        (w.state = .retired → next = .retired) ∧
        s' = { s with wallets := s.wallets.insert id { w with state := next } }) := by
  unfold WalletService.setState
  cases hnext : walletState state with
  | none => exact ends_ret.mpr (.inl rfl)
  | some next =>
    refine getWallet_saga (fun err => ends_ret.mpr (.inl rfl)) ?_
    intro w hw
    dsimp only
    split
    · exact ends_ret.mpr (.inl rfl)
    · rename_i hretired
      have hkept : w.state = .retired → next = .retired := by
        intro hstate
        by_contra hnext
        exact hretired ⟨hstate, hnext⟩
      have hupdate : s.updateWalletState id next =
          (.ok (), { s with wallets := s.wallets.insert id { w with state := next } }) := by
        unfold Store.updateWalletState
        rw [hw]
      refine ends_store ?_
      rw [show s.handle lib (.updateWalletState id next) = _ from hupdate]
      change Saga _ (if _ then _ else _) _ _
      split
      · exact ends_ext (fun r => ends_ret.mpr (.inr ⟨next, w, rfl, hw, hkept, rfl⟩))
      · exact ends_ret.mpr (.inr ⟨next, w, rfl, hw, hkept, rfl⟩)

end Step

section Runs

variable {svc : Custody} {s₀ s s' : Store} {op : CustodyOp}

def WaitingMaySpend (s : Store) : Prop :=
  ∀ id wr, s.withdrawals.lookup id = some wr → WithdrawalState.waits wr.state →
    MaySpend s wr.walletID

lemma WaitingMaySpend.wallets (h : WaitingMaySpend s) {id : UUID} {w : Wallet}
    (hkeep : ∀ j wr, s.withdrawals.lookup j = some wr → WithdrawalState.waits wr.state →
      wr.walletID = id → w.state = .active ∧ w.type ≠ .cold) :
    WaitingMaySpend { s with wallets := s.wallets.insert id w } := by
  intro j wr hrow hwaits
  by_cases hid : wr.walletID = id
  · exact ⟨w, by rw [hid]; exact AList.lookup_insert _, hkeep j wr hrow hwaits hid⟩
  · obtain ⟨w', hw', hspend⟩ := h j wr hrow hwaits
    exact ⟨w', (AList.lookup_insert_ne hid).trans hw', hspend⟩

theorem WaitingMaySpend.step (h : WaitingMaySpend s) (hok : SparesWaiting s op) {tr : Trace}
    {a : Except Error Unit} (he : Exec (memStep svc.withdrawals.lib) (op.proc svc) s tr a s') :
    WaitingMaySpend s' := by
  cases op with
  | createWallet id fresh req =>
    obtain ⟨r, s₁, tr₁, tr₂, hp, ⟨-, -, rfl⟩, -⟩ := exec_bind.mp he
    rcases create_saga svc.wallets id fresh req tr₁ r s' hp with ⟨err, -, rfl⟩ | ⟨w, -, hnone, -, -, rfl⟩
    · exact h
    · apply h.wallets
      rintro j wr hrow hwaits rfl
      obtain ⟨w', hw', -⟩ := h j wr hrow hwaits
      cases hnone.symm.trans hw'
  | setState id state =>
    rcases setState_saga svc.wallets id state tr a s' he with rfl | ⟨next, w, hnext, hw, -, rfl⟩
    · exact h
    · apply h.wallets
      rintro j wr hrow hwaits rfl
      obtain ⟨w', hw', -, hcold⟩ := h j wr hrow hwaits
      cases hw.symm.trans hw'
      refine ⟨?_, hcold⟩
      rcases hok with hactive | hnone
      · exact hactive next hnext
      · obtain ⟨hwl, hsigned⟩ := hnone j wr hrow rfl
        cases hstate : wr.state <;> simp_all [WithdrawalState.waits]
  | withdrawal op =>
    have ho := op_outcome op tr a s' he
    intro j wr' hrow' hwaits'
    have hmay : MaySpend s wr'.walletID := by
      rcases ho.waiting hrow' hwaits' with ⟨wr, hrow, hwaits, hid⟩ | ⟨req, rfl, hid⟩
      · exact hid ▸ h j wr hrow hwaits
      · obtain ⟨r, s₁, tr₁, tr₂, hp, ⟨-, -, rfl⟩, -⟩ := exec_bind.mp he
        rcases create_active svc.withdrawals j req tr₁ r s' hp with rfl | ⟨w, hw, hactive⟩
        · exact h j wr' hrow' hwaits'
        · exact ⟨w, hid ▸ hw, hactive, hok w hw⟩
    obtain ⟨w, hw, hspend⟩ := hmay
    exact ⟨w, by rw [ho.wallets, hw], hspend⟩

/-- In every run in which no withdrawal is created for a cold wallet and no wallet is paused or
retired under a waiting withdrawal, the signer and the gateway are asked only for withdrawals
whose wallet is, at that moment, active and not cold. -/
theorem spending_is_gated {log : List (Entry CustodyOp Call Answer (Except Error Unit))}
    (h₀ : s₀.withdrawals = ∅)
    (h : Runs (CustodyOp.proc svc) (memStep svc.withdrawals.lib) SparesWaiting s₀ log s)
    (op : CustodyOp) : Along (memStep svc.withdrawals.lib) (Gated op) (op.proc svc) s := by
  have hwaiting : WaitingMaySpend s := by
    refine Runs.invariant (I := fun _ s => WaitingMaySpend s) ?_ ?_ h
    · intro id wr hrow
      rw [h₀] at hrow
      cases hrow
    · intro log s op tr a s' ih hok he
      exact ih.step hok he
  cases op with
  | createWallet id fresh req =>
    apply unasked_gated
    exact (create_unasked svc.wallets id fresh req).bind (fun _ => trivial)
  | setState id state => exact unasked_gated (setState_unasked svc.wallets id state) _
  | withdrawal op => exact op_gated svc.withdrawals op (hwaiting op.id)

def referenceCustody : Custody where
  wallets := { lib := referenceLib }
  withdrawals := referenceService

def custodyRun (ops : List CustodyOp) :
    List (Entry CustodyOp Call Answer (Except Error Unit)) × Store :=
  runAll (CustodyOp.proc referenceCustody) (answering agree) {} ops

def askedOf : Event Call Answer → Option (Party × UUID)
  | ⟨.ext (.sign req), _⟩ => some (.signer, req.walletID)
  | ⟨.ext (.broadcastTx req), _⟩ => some (.gateway, req.walletID)
  | _ => none

def kindOf (s : Store) (walletID : UUID) : Option (WalletType × WalletState) :=
  (s.wallets.lookup walletID).map (fun w => (w.type, w.state))

def funding (type : String) : List CustodyOp :=
  [.createWallet evmWallet.id (UUID.ofByte 9) ⟨.ethereum, type, "label", "key"⟩,
    .withdrawal (.create (UUID.ofByte 10) (evmTransfer "1"))]

lemma funding_runs : Runs (CustodyOp.proc referenceCustody) (memStep referenceLib) SparesWaiting {}
    (custodyRun (funding "HOT")).1 (custodyRun (funding "HOT")).2 := by
  apply runs_runAll_of (answering_memStep agree)
  intro i hi
  match i with
  | 0 => trivial
  | 1 =>
    intro w hw
    have hkind : kindOf (custodyRun ((funding "HOT").take 1)).2 evmWallet.id = some (.hot, .active) := by
      decide +kernel
    rw [kindOf, show (custodyRun ((funding "HOT").take 1)).2.wallets.lookup evmWallet.id = some w
      from hw] at hkind
    cases w
    cases hkind
    nofun

theorem spending_is_gated_hot :
    Runs (CustodyOp.proc referenceCustody) (memStep referenceLib) SparesWaiting {}
        (custodyRun (funding "HOT")).1 (custodyRun (funding "HOT")).2 ∧
      ((CustodyOp.proc referenceCustody (.withdrawal (.constructAndSign (UUID.ofByte 10)))).run
        (answering agree) (custodyRun (funding "HOT")).2).1.filterMap askedOf =
          [(.signer, evmWallet.id)] ∧
      Along (memStep referenceLib) (Gated (.withdrawal (.constructAndSign (UUID.ofByte 10))))
        (CustodyOp.proc referenceCustody (.withdrawal (.constructAndSign (UUID.ofByte 10))))
        (custodyRun (funding "HOT")).2 := by
  refine ⟨funding_runs, by decide +kernel, ?_⟩
  exact spending_is_gated rfl funding_runs (.withdrawal (.constructAndSign (UUID.ofByte 10)))

def coldRun := custodyRun (funding "COLD" ++
  [.withdrawal (.constructAndSign (UUID.ofByte 10)), .withdrawal (.broadcast (UUID.ofByte 10))])

def pausedRun := custodyRun (funding "HOT" ++ [.setState evmWallet.id "PAUSED",
  .withdrawal (.constructAndSign (UUID.ofByte 10)), .withdrawal (.broadcast (UUID.ofByte 10))])

theorem cold_and_paused_wallets_spend :
    (Runs (CustodyOp.proc referenceCustody) (memStep referenceLib) (fun _ _ => True) {}
        coldRun.1 coldRun.2 ∧
      coldRun.1.map (fun e => e.trace.filterMap askedOf) =
        [[], [], [(.signer, evmWallet.id)], [(.gateway, evmWallet.id)]] ∧
      kindOf coldRun.2 evmWallet.id = some (.cold, .active)) ∧
    Runs (CustodyOp.proc referenceCustody) (memStep referenceLib) (fun _ _ => True) {}
        pausedRun.1 pausedRun.2 ∧
      pausedRun.1.map (fun e => e.trace.filterMap askedOf) =
        [[], [], [], [(.signer, evmWallet.id)], [(.gateway, evmWallet.id)]] ∧
      kindOf pausedRun.2 evmWallet.id = some (.hot, .paused) := by
  refine ⟨⟨runs_runAll (answering_memStep agree) _ (by simp), ?_⟩,
    runs_runAll (answering_memStep agree) _ (by simp), ?_⟩
  · decide +kernel
  · decide +kernel

end Runs

end WalletManager.Proofs
