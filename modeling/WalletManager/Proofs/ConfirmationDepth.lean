import WalletManager.Proofs.AuthGate
import WalletManager.Proofs.BroadcastSafety

/-!
# The depth of a confirmation

`OnConfirmation` takes two routes. A request that names a withdrawal confirms it at any depth;
a request that names a wallet is judged by the rule of the chain its asset is taken to be of.
-/

namespace WalletManager.Proofs

open Interaction

section Handler

variable {srv : Server} {lib : Lib} {s s' : Store} {ctx : CallContext} {req : OnConfirmationRequest}
  {interceptor : UnaryServerInterceptor} {tr : Trace} {r : Except Status Response}

/-- An event of this depth counts as confirmed on the chain. -/
def MeetsRule (config : Config) (chain : Chain) (confirmations : Int) (isFinalized : Bool) : Prop :=
  (chain = .bitcoin → config.confirmationsBTC ≤ confirmations) ∧
  (chain.isEVM → config.confirmationsEVM ≤ confirmations) ∧
  (chain = .solana → isFinalized)

/-- The chain that the name of the asset is taken for has the rule of the chain. -/
def NamesRule (asset : String) (chain : Chain) : Prop :=
  chainOfAsset asset = chain ∨ chainOfAsset asset = .ethereum ∧ chain.isEVM

def balanceEventOf (req : OnConfirmationRequest) (walletID : UUID) : ConfirmationEvent :=
  ⟨walletID, req.asset, req.amount, req.confirmations, req.blockHeight, req.eventID, req.isFinalized,
    chainOfAsset req.asset⟩

inductive Handled (srv : Server) (lib : Lib) (s : Store) (req : OnConfirmationRequest) : Store → Prop
  | withdrawal {id : UUID} {tr : Trace} {r : Except Error Unit} {s' : Store} : req.withdrawalID ≠ "" →
    srv.lib.parseUUID req.withdrawalID = .ok id →
    Exec (memStep lib) (srv.withdrawals.confirm id req.txHash) s tr r s' → Handled srv lib s req s'
  | balance {id : UUID} {tr : Trace} {r : Except Error Unit} {s' : Store} : req.withdrawalID = "" →
    Exec (memStep lib) (srv.balances.applyConfirmationEvent (balanceEventOf req id)) s tr r s' →
    Handled srv lib s req s'
  | nothing : (req.withdrawalID ≠ "" → ∀ id, srv.lib.parseUUID req.withdrawalID ≠ .ok id) →
    Handled srv lib s req s

lemma exec_replied {α β : Type} {p : Proc α} {reply : α → Proc β} (hreply : ∀ a, ∃ b, reply a = .ret b)
    {b : β} (he : Exec (memStep lib) (p >>= reply) s tr b s') :
    ∃ tr a, Exec (memStep lib) p s tr a s' := by
  obtain ⟨a, s₁, tr₁, tr₂, hp, hf, -⟩ := exec_bind.mp he
  obtain ⟨b', hb⟩ := hreply a
  rw [hb] at hf
  obtain ⟨-, -, rfl⟩ := hf
  exact ⟨tr₁, a, hp⟩

lemma onConfirmationHandler_handled
    (he : Exec (memStep lib) (srv.onConfirmationHandler ctx (.ok req) interceptor) s tr r s') :
    Handled srv lib s req s' := by
  unfold Server.onConfirmationHandler at he
  dsimp only at he
  split at he
  · rename_i hwithdrawal
    split at he
    · rename_i err hparse
      obtain ⟨-, -, rfl⟩ := he
      refine .nothing (fun _ id hid => ?_)
      rw [hparse] at hid
      cases hid
    · rename_i id hparse
      obtain ⟨tr₁, a, hrun⟩ := exec_replied (by rintro (err | _) <;> exact ⟨_, rfl⟩) he
      exact .withdrawal hwithdrawal hparse hrun
  · rename_i hwithdrawal
    split at he
    · split at he
      · obtain ⟨-, -, rfl⟩ := he
        exact .nothing (fun h => absurd h hwithdrawal)
      · rename_i id hparse
        obtain ⟨tr₁, a, hrun⟩ := exec_replied (by rintro (err | _) <;> exact ⟨_, rfl⟩) he
        exact .balance (not_not.mp hwithdrawal) hrun
    · obtain ⟨-, -, rfl⟩ := he
      exact .nothing (fun h => absurd h hwithdrawal)

end Handler

section Balances

variable {svc : BalanceService} {lib : Lib} {s s' : Store} {tr : Trace} {r : Except Error Unit}

lemma isConfirmed_meetsRule {ev : ConfirmationEvent} (h : svc.isConfirmed ev = true) {chain : Chain}
    (hchain : ev.chain = chain ∨ ev.chain = .ethereum ∧ chain.isEVM) :
    MeetsRule svc.config chain ev.confirmations ev.isFinalized := by
  unfold BalanceService.isConfirmed BalanceService.threshold at h
  rcases hchain with rfl | ⟨heth, hevm⟩
  · refine ⟨fun hc => ?_, fun hc => ?_, fun hc => ?_⟩
    · simpa [hc] using h
    · cases hev : ev.chain <;> simp_all [Chain.isEVM]
    · simpa [hc] using h
  · refine ⟨?_, fun _ => ?_, ?_⟩
    · rintro rfl
      cases hevm
    · simpa [heth] using h
    · rintro rfl
      cases hevm

lemma creditedRow_confirmed (hlib : LawfulDecimal svc.lib) (ev : ConfirmationEvent) (cur : Balance)
    (h : ¬svc.isConfirmed ev = true) :
    parseDec svc.lib (svc.creditedRow ev cur).confirmed = parseDec svc.lib cur.confirmed := by
  unfold BalanceService.creditedRow
  simp only [h]
  exact parseDec_decimalString hlib (parseDec_isDecimal hlib _)

lemma applyConfirmationEvent_confirmedOf (hlib : LawfulDecimal svc.lib) (hdepth : s.depth = 0)
    {ev : ConfirmationEvent} (he : Exec (memStep lib) (svc.applyConfirmationEvent ev) s tr r s')
    {walletID : UUID} {asset : String}
    (hne : confirmedOf svc s' walletID asset ≠ confirmedOf svc s walletID asset) :
    svc.isConfirmed ev = true := by
  by_contra hdeep
  apply hne
  have hconfirm : Exec (memStep lib) (BalanceOp.proc svc (.confirm ev)) s tr r s' := he
  have hbooks := (confirm_books hdepth hconfirm).2.balances
  unfold confirmedOf balanceRow
  rw [hbooks]
  split
  · rfl
  · rw [balances_insert_lookup]
    split
    · rename_i hkey
      obtain ⟨rfl, rfl⟩ := hkey
      exact creditedRow_confirmed hlib ev _ hdeep
    · rfl

end Balances

section Depth

variable {srv : Server} {lib : Lib} {s s' : Store} {ctx : CallContext} {req : OnConfirmationRequest}
  {interceptor : UnaryServerInterceptor} {tr : Trace} {r : Except Status Response}

lemma confirm_balances {svc : Service} {id : UUID} {txHash : String} {r : Except Error Unit}
    (he : Exec (memStep lib) (svc.confirm id txHash) s tr r s') : s'.balances = s.balances := by
  obtain ⟨-, ⟨wr, hrow, -, rfl⟩ | ⟨-, rfl⟩⟩ := confirm_saga id txHash tr r s' he
  · unfold Store.updateWithdrawalState
    rw [hrow]
  · rfl

lemma applyConfirmationEvent_frame {svc : BalanceService} {ev : ConfirmationEvent} (hdepth : s.depth = 0)
    {r : Except Error Unit} (he : Exec (memStep lib) (svc.applyConfirmationEvent ev) s tr r s') :
    s'.withdrawals = s.withdrawals :=
  (applyConfirmationEvent_others hdepth ev tr r s'
    (he.mono (fun _ _ _ _ => memStep_faultStep False))).withdrawals

lemma Handled.confirmed (hdepth : s.depth = 0) (h : Handled srv lib s req s') {id : UUID}
    {wr' : WithdrawalRequest} (hrow' : s'.withdrawals.lookup id = some wr')
    (hstate' : wr'.state = .confirmed) :
    ∃ wr, s.withdrawals.lookup id = some wr ∧ (wr.state = .confirmed ∨ wr.state = .broadcast ∧
      req.withdrawalID ≠ "" ∧ srv.lib.parseUUID req.withdrawalID = .ok id) := by
  cases h with
  | withdrawal hnamed hparse he =>
    obtain ⟨-, ⟨wr, hrow, hstate, rfl⟩ | ⟨-, rfl⟩⟩ := confirm_saga _ _ _ _ _ he
    · rw [updateWithdrawalState_lookup hrow] at hrow'
      split at hrow'
      · rename_i hid
        subst hid
        exact ⟨wr, hrow, .inr ⟨hstate, hnamed, hparse⟩⟩
      · exact ⟨wr', hrow', .inl hstate'⟩
    · exact ⟨wr', hrow', .inl hstate'⟩
  | balance _ he =>
    rw [applyConfirmationEvent_frame hdepth he] at hrow'
    exact ⟨wr', hrow', .inl hstate'⟩
  | nothing => exact ⟨wr', hrow', .inl hstate'⟩

lemma Handled.confirms (h : Handled srv lib s req s') (hnamed : req.withdrawalID ≠ "") {id : UUID}
    (hparse : srv.lib.parseUUID req.withdrawalID = .ok id) {wr : WithdrawalRequest}
    (hrow : s.withdrawals.lookup id = some wr) (hstate : wr.state = .broadcast) :
    ∃ wr', s'.withdrawals.lookup id = some wr' ∧ wr'.state = .confirmed := by
  cases h with
  | @withdrawal id' _ _ _ _ hparse' he =>
    obtain rfl : id = id' := Except.ok.inj (hparse.symm.trans hparse')
    obtain ⟨-, ⟨wr₁, hrow₁, -, rfl⟩ | ⟨hnot, -⟩⟩ := confirm_saga _ _ _ _ _ he
    · rw [updateWithdrawalState_lookup hrow₁, if_pos rfl]
      exact ⟨_, rfl, rfl⟩
    · exact absurd hstate (hnot wr hrow)
  | balance hempty => exact absurd hempty hnamed
  | nothing hbad => exact absurd hparse (hbad hnamed id)

lemma Handled.meetsRule (hlib : LawfulDecimal srv.balances.lib) (hdepth : s.depth = 0)
    (h : Handled srv lib s req s') {chain : Chain} (hrule : NamesRule req.asset chain)
    {walletID : UUID} {asset : String}
    (hne : confirmedOf srv.balances s' walletID asset ≠ confirmedOf srv.balances s walletID asset) :
    MeetsRule srv.balances.config chain req.confirmations req.isFinalized := by
  cases h with
  | withdrawal _ _ he =>
    unfold confirmedOf balanceRow at hne
    rw [confirm_balances he] at hne
    exact absurd rfl hne
  | balance _ he =>
    exact isConfirmed_meetsRule (applyConfirmationEvent_confirmedOf hlib hdepth he hne) hrule
  | nothing => exact absurd rfl hne

/-- A request that names a withdrawal confirms it whatever the depth, and nothing else does. A
request that names a wallet, for an asset whose name gives the rule of the wallet's chain, adds
to the confirmed balance only if it meets that rule. -/
theorem confirmation_depth_of_request (hlib : LawfulDecimal srv.balances.lib) (hdepth : s.depth = 0)
    (he : Exec (memStep lib) (srv.onConfirmationHandler ctx (.ok req) interceptor) s tr r s') :
    (∀ id wr', s'.withdrawals.lookup id = some wr' → wr'.state = .confirmed →
      ∃ wr, s.withdrawals.lookup id = some wr ∧ (wr.state = .confirmed ∨ wr.state = .broadcast ∧
        req.withdrawalID ≠ "" ∧ srv.lib.parseUUID req.withdrawalID = .ok id)) ∧
    (∀ id wr, req.withdrawalID ≠ "" → srv.lib.parseUUID req.withdrawalID = .ok id →
      s.withdrawals.lookup id = some wr → wr.state = .broadcast →
      ∃ wr', s'.withdrawals.lookup id = some wr' ∧ wr'.state = .confirmed) ∧
    ∀ (w : Wallet) (asset : String), NamesRule req.asset w.chain →
      confirmedOf srv.balances s' w.id asset ≠ confirmedOf srv.balances s w.id asset →
      MeetsRule srv.balances.config w.chain req.confirmations req.isFinalized := by
  have h := onConfirmationHandler_handled he
  refine ⟨?_, ?_, ?_⟩
  · intro id wr' hrow' hstate'
    exact h.confirmed hdepth hrow' hstate'
  · intro id wr hnamed hparse hrow hstate
    exact h.confirms hnamed hparse hrow hstate
  · intro w asset hrule hne
    exact h.meetsRule hlib hdepth hrule hne

def depthRpc : RpcLib :=
  { referenceRpc with
    parseUUID := fun t =>
      if t = "00000000-0000-0000-0000-000000000001" then .ok evmWallet.id
      else if t = "00000000-0000-0000-0000-000000000003" then .ok solWallet.id
      else if t = "00000000-0000-0000-0000-00000000000a" then .ok (UUID.ofByte 10)
      else .error ⟨"not tabulated", none⟩ }

def depthServer : Server := { guardedServer with lib := depthRpc }

def confirmationOf (s : Store) (req : OnConfirmationRequest) : Trace × Except Status Response × Store :=
  (depthServer.onConfirmationHandler anonymous (.ok req) depthServer.interceptor).run (answering agree) s

lemma confirmationOf_exec (s : Store) (req : OnConfirmationRequest) :
    Exec (memStep referenceLib)
      (depthServer.onConfirmationHandler anonymous (.ok req) depthServer.interceptor) s
      (confirmationOf s req).1 (confirmationOf s req).2.1 (confirmationOf s req).2.2 :=
  Prog.run_exec (answering_memStep agree) _ s

def deepDeposit : OnConfirmationRequest :=
  ⟨"", "00000000-0000-0000-0000-000000000001", "eth", "2", 12, 7, "a", false, ""⟩

theorem confirmation_depth_of_deposit :
    confirmedOf referenceBalances (confirmationOf {} deepDeposit).2.2 evmWallet.id "eth" ≠
        confirmedOf referenceBalances {} evmWallet.id "eth" ∧
      MeetsRule referenceBalances.config evmWallet.chain 12 false := by
  have hne : confirmedOf referenceBalances (confirmationOf {} deepDeposit).2.2 evmWallet.id "eth" ≠
      confirmedOf referenceBalances {} evmWallet.id "eth" := by decide +kernel
  have hdepth := confirmation_depth_of_request referenceLib_lawful rfl (confirmationOf_exec {} deepDeposit)
  exact ⟨hne, hdepth.2.2 evmWallet "eth" (.inr ⟨by decide, rfl⟩) hne⟩

def shallowConfirmation : OnConfirmationRequest :=
  ⟨"txhash", "", "", "", 0, 0, "", false, "00000000-0000-0000-0000-00000000000a"⟩

def unfinalizedDeposit : OnConfirmationRequest :=
  ⟨"", "00000000-0000-0000-0000-000000000003", "SOL", "2", 12, 7, "a", false, ""⟩

/-- A withdrawal of an EVM wallet is confirmed without any confirmations, and a deposit to a
Solana wallet is confirmed before it is finalized. -/
theorem shallow_events_confirm :
    (Exec (memStep referenceLib)
        (depthServer.onConfirmationHandler anonymous (.ok shallowConfirmation) depthServer.interceptor)
        acceptedStep.2.2 (confirmationOf acceptedStep.2.2 shallowConfirmation).1
        (confirmationOf acceptedStep.2.2 shallowConfirmation).2.1
        (confirmationOf acceptedStep.2.2 shallowConfirmation).2.2 ∧
      (acceptedStep.2.2.withdrawals.lookup (UUID.ofByte 10)).map
        (fun wr => (wr.walletID, wr.state)) = some (evmWallet.id, .broadcast) ∧
      ((confirmationOf acceptedStep.2.2 shallowConfirmation).2.2.withdrawals.lookup (UUID.ofByte 10)).map
        (fun wr => (wr.walletID, wr.state)) = some (evmWallet.id, .confirmed) ∧
      ¬MeetsRule referenceBalances.config evmWallet.chain shallowConfirmation.confirmations
        shallowConfirmation.isFinalized) ∧
    (Exec (memStep referenceLib)
        (depthServer.onConfirmationHandler anonymous (.ok unfinalizedDeposit) depthServer.interceptor)
        (Store.initial [solWallet] [])
        (confirmationOf (Store.initial [solWallet] []) unfinalizedDeposit).1
        (confirmationOf (Store.initial [solWallet] []) unfinalizedDeposit).2.1
        (confirmationOf (Store.initial [solWallet] []) unfinalizedDeposit).2.2 ∧
      confirmedOf referenceBalances (Store.initial [solWallet] []) solWallet.id "SOL" = 0 ∧
      confirmedOf referenceBalances (confirmationOf (Store.initial [solWallet] []) unfinalizedDeposit).2.2
        solWallet.id "SOL" = 2 ∧
      ¬MeetsRule referenceBalances.config solWallet.chain unfinalizedDeposit.confirmations
        unfinalizedDeposit.isFinalized) := by
  have hwithdrawal : (acceptedStep.2.2.withdrawals.lookup (UUID.ofByte 10)).map
        (fun wr => (wr.walletID, wr.state)) = some (evmWallet.id, .broadcast) ∧
      ((confirmationOf acceptedStep.2.2 shallowConfirmation).2.2.withdrawals.lookup (UUID.ofByte 10)).map
        (fun wr => (wr.walletID, wr.state)) = some (evmWallet.id, .confirmed) := by decide +kernel
  have hdeposit : confirmedOf referenceBalances (Store.initial [solWallet] []) solWallet.id "SOL" = 0 ∧
      confirmedOf referenceBalances (confirmationOf (Store.initial [solWallet] []) unfinalizedDeposit).2.2
        solWallet.id "SOL" = 2 := by decide +kernel
  refine ⟨⟨confirmationOf_exec _ _, hwithdrawal.1, hwithdrawal.2, ?_⟩,
    ⟨confirmationOf_exec _ _, hdeposit.1, hdeposit.2, ?_⟩⟩
  · rintro ⟨-, hevm, -⟩
    exact absurd (hevm rfl) (by decide)
  · rintro ⟨-, -, hsol⟩
    exact absurd (hsol rfl) (by decide)

end Depth

end WalletManager.Proofs
