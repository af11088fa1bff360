import WalletManager.Proofs.AddressRotation
import WalletManager.Proofs.AuditedOperations
import WalletManager.Proofs.FundingRequests
import WalletManager.Proofs.PayloadJson

/-!
# Completeness of the audit log

Over runs of the wallet, address, withdrawal, funding and key services that take no exit which
writes a state and emits nothing, the outbox determines the state of every withdrawal and every
funding request. The exits that are left out make it incomplete.
-/

namespace WalletManager.Proofs

open Interaction Journal

structure Emitting {F : Type} (svc : AuditedServices F) : Prop where
  wallets : svc.wallets.hasAudit = true
  rotation : svc.rotation.hasAudit = true
  withdrawals : svc.withdrawals.hasAudit = true
  funding : svc.funding.hasAudit = true
  keys : svc.keys.hasAudit = true

/-- The operation does not take an exit that writes a state and emits nothing. -/
def Voiced {F : Type} (svc : AuditedServices F) (answers : (c : ExtCall) → c.Answer → Prop) (s : Store) :
    AuditedOp → Prop
  | .deriveAddress walletID force fresh => ∀ w a, s.getWallet walletID = .ok w → w.state ≠ .retired →
    s.getActiveAddress walletID = .ok a → (force = true ∨ svc.rotation.shouldRotate w a fresh.since = true) →
    Derivable svc.rotation s w fresh
  | .withdrawal (.create _ req) => ∀ r,
    answers (.checkWhitelist ⟨req.walletID.string, req.toAddress, req.asset, req.amount⟩) r →
    ∃ dec, r = ⟨some dec, none⟩ ∧ dec.approved = true
  | .withdrawal (.constructAndSign id) => ∀ wr w, s.getWithdrawal id = .ok wr →
    s.getWallet wr.walletID = .ok w → Signs svc.withdrawals answers w wr
  | .withdrawal (.broadcast _) => ∀ req r, answers (.broadcastTx req) r → ∃ resp, r = .ok resp
  | .withdrawal (.onReorg id _) => ∀ wr, s.getWithdrawal id = .ok wr → wr.state ≠ .confirmed
  | .funding (.evaluate _ _ _) | .funding (.manual _ _ _ _ _) =>
    ∀ req r, answers (.requestFunding req) r → r = .ok ()
  -- A callback may only repeat the state of the request, and a binding may only be refused.
  | .funding (.callback c) => ∀ f, s.fundingReq.lookup c.id = some f → f.state = c.state
  | .bind walletID _ _ => (s.mappings walletID).any (fun m => m.rotationState = .current) = true
  | .createWallet _ _ _ | .setState _ _ | .withdrawal (.confirm _ _) | .withdrawal (.fail _ _)
  | .rotate _ _ _ => True

section Runs

variable {F : Type} {svc : AuditedServices F} {field : Bytes → String → Option AuditValue} {lib : Lib}
  {em : EmitterService} {answers : (c : ExtCall) → c.Answer → Prop} {s₀ s s' : Store}

theorem op_audited (hsort : LawfulSort lib) (hread : Readable em field) (hon : Emitting svc)
    (horder : InOrder (standing s)) {op : AuditedOp} (hvoiced : Voiced svc answers s op) :
    Logs lib em answers (op.proc svc) s (fun _ s' => Audited field s s') := by
  cases op with
  | createWallet id fresh req =>
    exact Ends.bind (createWallet_logs hon.wallets hread horder) (fun _ _ _ h => ends_ret.mpr h)
  | setState id state => exact setState_logs hon.wallets hread horder
  | deriveAddress walletID force fresh =>
    exact Ends.bind (deriveAddress_logs hsort hon.rotation hread horder hvoiced) (fun _ _ _ h => ends_ret.mpr h)
  | withdrawal op =>
    cases op with
    | create id req =>
      exact Ends.bind (create_logs hon.withdrawals hread horder hvoiced) (fun _ _ _ h => ends_ret.mpr h)
    | constructAndSign id => exact constructAndSign_logs hon.withdrawals hread horder hvoiced
    | broadcast id => exact broadcast_logs hon.withdrawals hread horder hvoiced
    | confirm id txHash => exact confirm_logs hon.withdrawals hread horder
    | fail id reason => exact fail_logs hon.withdrawals hread horder
    | onReorg id outpoints => exact onReorg_logs horder hvoiced
  | funding op =>
    cases op with
    | evaluate id walletID asset => exact evaluateAndRequest_logs hon.funding hread horder hvoiced
    | manual id walletID asset amount reason => exact manualRequest_logs hon.funding hread horder hvoiced
    | callback c => exact callback_logs horder hvoiced
  | bind walletID keyID now => exact bind_logs horder hvoiced
  | rotate walletID newKeyID now => exact rotateKeys_logs hon.keys hread horder

/-- In every run without a silent exit, the outbox determines the state of every withdrawal and every
funding request, and each operation appends rows that tell the wallet and the new state of whatever it
changes. -/
theorem audit_determines_states (hsort : LawfulSort lib) (hread : Readable em field) (hon : Emitting svc)
    (horder : InOrder (standing s₀)) (hlog : Determines told Tracked (standing s₀) (notes field s₀))
    {log : List (Entry AuditedOp Call Answer (Except Error Unit))}
    (h : Runs (AuditedOp.proc svc) (auditedStep lib em answers) (Voiced svc answers) s₀ log s) :
    Determines told Tracked (standing s) (notes field s) ∧
    ∀ op tr r s', Voiced svc answers s op → Exec (auditedStep lib em answers) (op.proc svc) s tr r s' →
      ∃ rows, s'.auditOutbox = s.auditOutbox ++ rows ∧
        Covers Tells (standing s) (standing s') (rows.filterMap (rowNote field)) := by
  have hinv : InOrder (standing s) ∧ Determines told Tracked (standing s) (notes field s) := by
    refine Runs.invariant
      (I := fun _ s => InOrder (standing s) ∧ Determines told Tracked (standing s) (notes field s))
      ⟨horder, hlog⟩ ?_ h
    rintro log s op tr r s' ⟨horder, hlog⟩ hvoiced hexec
    obtain ⟨rows, hrows⟩ := op_audited hsort hread hon horder hvoiced tr r s' hexec
    refine ⟨hrows.inOrder, ?_⟩
    unfold notes
    rw [hrows.outbox, List.filterMap_append]
    exact hlog.append hrows.tracks
  refine ⟨hinv.2, ?_⟩
  intro op tr r s' hvoiced hexec
  obtain ⟨rows, hrows⟩ := op_audited hsort hread hon hinv.1 hvoiced tr r s' hexec
  exact ⟨rows, hrows.outbox, hrows.covers⟩

end Runs

/-! ## Runs of the reference services -/

def referenceAudited : AuditedServices ℚ where
  wallets := { lib := referenceLib, hasAudit := true }
  rotation := { referencePolicy with hasAudit := true }
  withdrawals := { referenceService with hasAudit := true }
  funding := { referenceFunding with hasAudit := true }
  keys := { keyCoolingPeriod := 10, durationString := Int.repr, hasAudit := true }

def nextFresh (s : Store) : OutboxFresh :=
  ⟨UUID.ofByte (UInt8.ofNat s.auditOutbox.length), UUID.ofByte (UInt8.ofNat s.auditOutbox.length), 0⟩

def auditing (given : (c : ExtCall) → c.Answer) (s : Store) : (c : Call) → Answer c × Store
  | .ext (.emit e) =>
    ((jsonEmitter.emit ⟨e.eventType, some e.walletID, e.payload⟩ (nextFresh s)).run (answering given) s).2
  | .ext c => (given c, s)
  | .store c => s.handle referenceLib c

def rowIsNew (s : Store) : Call → Bool
  | .ext (.emit _) => s.auditOutbox.all (fun row => row.eventID ≠ (nextFresh s).eventID)
  | _ => true

lemma auditing_step {given : (c : ExtCall) → c.Answer} {answers : (c : ExtCall) → c.Answer → Prop}
    (hgiven : ∀ c, answers c (given c)) (s : Store) (c : Call) (h : rowIsNew s c = true) :
    auditedStep referenceLib jsonEmitter answers s c (auditing given s c).1 (auditing given s c).2 := by
  cases c with
  | store c => rfl
  | ext c =>
    cases c with
    | emit e => exact ⟨nextFresh s, _, by simpa [rowIsNew] using h, Prog.run_exec (answering_memStep given) _ s⟩
    | _ => exact ⟨hgiven _, rfl⟩

def auditedRun (given : (c : ExtCall) → c.Answer) (ops : List AuditedOp) :
    List (Entry AuditedOp Call Answer (Except Error Unit)) × Store :=
  runAll (AuditedOp.proc referenceAudited) (auditing given) {} ops

def openWallet : AuditedOp := .createWallet evmWallet.id (UUID.ofByte 9) ⟨.ethereum, "HOT", "ops", "key"⟩

def payOut : AuditedOp := .withdrawal (.create (UUID.ofByte 10) (evmTransfer "5"))

def askTreasury : AuditedOp := .funding (.manual (UUID.ofByte 11) evmWallet.id "ETH" "7" "top-up")

def busyOps : List AuditedOp :=
  [openWallet, payOut, .withdrawal (.constructAndSign (UUID.ofByte 10)), .withdrawal (.broadcast (UUID.ofByte 10)),
    .deriveAddress evmWallet.id true ⟨UUID.ofByte 20, 0, 0⟩,
    .deriveAddress evmWallet.id true ⟨UUID.ofByte 21, 0, 0⟩,
    askTreasury, .rotate evmWallet.id "next" 5]

lemma agree_signs {svc : Service} {w : Wallet} {wr : WithdrawalRequest} (hw : w.chain.isEVM = true) :
    Signs svc (fun c r => r = agree c) w wr := by
  rintro n ops opts unsigned keyID r hbuilt rfl
  unfold buildUnsignedTx at hbuilt
  rw [if_pos hw] at hbuilt
  have hok : buildEVMUnsignedTx svc.lib svc.evm w wr n = .ok unsigned := hbuilt.symm
  unfold buildEVMUnsignedTx at hok
  split at hok
  · cases hok
  split at hok
  · cases hok
  cases hok
  exact ⟨_, _, rfl, rfl⟩

lemma getWallet_chain {s : Store} {id : UUID} {w : Wallet} {chain : Chain} (h : s.getWallet id = .ok w)
    (hchain : (s.wallets.lookup id).map Wallet.chain = some chain) : w.chain = chain := by
  unfold Store.getWallet at h
  split at h
  · cases h
  · rename_i hrow
    cases h
    rw [hrow] at hchain
    exact Option.some.inj hchain

lemma busyRun_runs : Runs (AuditedOp.proc referenceAudited)
    (auditedStep referenceLib jsonEmitter (fun c r => r = agree c))
    (Voiced referenceAudited (fun c r => r = agree c)) {} (auditedRun agree busyOps).1
    (auditedRun agree busyOps).2 := by
  have hnew : ∀ i : Fin busyOps.length, (AuditedOp.proc referenceAudited busyOps[i]).runsWithin
      (auditing agree) rowIsNew (auditedRun agree (busyOps.take i)).2 = true := by
    decide +kernel
  have hstep : ∀ s c, rowIsNew s c = true → auditedStep referenceLib jsonEmitter (fun c r => r = agree c) s c
      (auditing agree s c).1 (auditing agree s c).2 := auditing_step (fun _ => rfl)
  apply runs_runAll_within hstep
  intro i hi
  refine ⟨?_, hnew ⟨i, hi⟩⟩
  match i with
  | 0 | 7 => trivial
  | 1 =>
    rintro _ rfl
    exact ⟨_, rfl, rfl⟩
  | 2 =>
    intro wr w hwr hw
    have hrow : standing (auditedRun agree (busyOps.take 2)).2 (.withdrawal (UUID.ofByte 10)) =
        some (evmWallet.id, .withdrawal (UUID.ofByte 10) .whitelisted) := by
      decide +kernel
    rw [show standing (auditedRun agree (busyOps.take 2)).2 (.withdrawal (UUID.ofByte 10)) = _
      from standing_getWithdrawal hwr] at hrow
    obtain ⟨hid, -⟩ := Prod.mk.inj (Option.some.inj hrow)
    rw [hid] at hw
    have hethereum : w.chain = .ethereum := getWallet_chain
      (show (auditedRun agree (busyOps.take 2)).2.getWallet evmWallet.id = .ok w from hw) (by decide +kernel)
    refine agree_signs ?_
    rw [hethereum]
    rfl
  | 3 =>
    rintro req _ rfl
    exact ⟨_, rfl⟩
  | 4 =>
    intro w a _ _ ha
    have hnone : ((auditedRun agree (busyOps.take 4)).2.getActiveAddress evmWallet.id).toBool = false := by
      decide +kernel
    rw [show (auditedRun agree (busyOps.take 4)).2.getActiveAddress evmWallet.id = .ok a from ha] at hnone
    cases hnone
  | 5 =>
    intro w a hw _ _ _
    have hethereum : w.chain = .ethereum := getWallet_chain
      (show (auditedRun agree (busyOps.take 5)).2.getWallet evmWallet.id = .ok w from hw) (by decide +kernel)
    refine ⟨.inl (.inl ?_), ⟨evmSecond, ?_⟩, ?_⟩
    · rw [hethereum]
      rfl
    · rw [hethereum]
      decide +kernel
    · decide +kernel
  | 6 =>
    rintro req _ rfl
    rfl

theorem audit_determines_states_busy :
    (auditedRun agree busyOps).2.auditOutbox.length = 10 ∧
    standing (auditedRun agree busyOps).2 (.withdrawal (UUID.ofByte 10)) =
      some (evmWallet.id, .withdrawal (UUID.ofByte 10) .broadcast) ∧
    Determines told Tracked (standing (auditedRun agree busyOps).2)
      (notes jsonFieldOf (auditedRun agree busyOps).2) := by
  obtain ⟨hcount, hstanding⟩ : (auditedRun agree busyOps).2.auditOutbox.length = 10 ∧
      standing (auditedRun agree busyOps).2 (.withdrawal (UUID.ofByte 10)) =
        some (evmWallet.id, .withdrawal (UUID.ofByte 10) .broadcast) := by decide +kernel
  refine ⟨hcount, hstanding, ?_⟩
  have horder : InOrder (standing {}) := ⟨nofun, nofun, nofun⟩
  have hlog : Determines told Tracked (standing {}) (notes jsonFieldOf {}) := by
    rintro (j | j | j | j | j) y hx hy <;> cases hy
  exact (audit_determines_states referenceLib_sorts jsonEmitter_readable ⟨rfl, rfl, rfl, rfl, rfl⟩ horder hlog
    busyRun_runs).1

def denying : (c : ExtCall) → c.Answer
  | .checkWhitelist _ => ⟨some ⟨false, "decision", "not listed"⟩, none⟩
  | c => agree c

def settleFunding : AuditedOp := .funding (.callback (.settled (UUID.ofByte 11)))

lemma auditing_any (given : (c : ExtCall) → c.Answer) (s : Store) (c : Call) (h : rowIsNew s c = true) :
    auditedStep referenceLib jsonEmitter (fun _ _ => True) s c (auditing given s c).1 (auditing given s c).2 :=
  auditing_step (fun _ => trivial) s c h

lemma auditedRun_runs (given : (c : ExtCall) → c.Answer) (ops : List AuditedOp)
    (hnew : ∀ i : Fin ops.length, (AuditedOp.proc referenceAudited ops[i]).runsWithin (auditing given)
      rowIsNew (auditedRun given (ops.take i)).2 = true) :
    Runs (AuditedOp.proc referenceAudited) (auditedStep referenceLib jsonEmitter (fun _ _ => True))
      (fun _ _ => True) {} (auditedRun given ops).1 (auditedRun given ops).2 :=
  runs_runAll_within (auditing_any given) ops (fun i hi => ⟨trivial, hnew ⟨i, hi⟩⟩)

/-- A settlement changes the state of a funding request and leaves the outbox, and the outbox does not
distinguish a refused withdrawal from an approved one. -/
theorem states_change_silently :
    (∃ log s tr r s', Runs (AuditedOp.proc referenceAudited)
        (auditedStep referenceLib jsonEmitter (fun _ _ => True)) (fun _ _ => True) {} log s ∧
      Exec (auditedStep referenceLib jsonEmitter (fun _ _ => True))
        (settleFunding.proc referenceAudited) s tr r s' ∧
      standing s (.funding (UUID.ofByte 11)) = some (evmWallet.id, .funding (UUID.ofByte 11) .requested) ∧
      standing s' (.funding (UUID.ofByte 11)) = some (evmWallet.id, .funding (UUID.ofByte 11) .settled) ∧
      s'.auditOutbox = s.auditOutbox) ∧
    ∃ log log' s s', Runs (AuditedOp.proc referenceAudited)
        (auditedStep referenceLib jsonEmitter (fun _ _ => True)) (fun _ _ => True) {} log s ∧
      Runs (AuditedOp.proc referenceAudited)
        (auditedStep referenceLib jsonEmitter (fun _ _ => True)) (fun _ _ => True) {} log' s' ∧
      standing s (.withdrawal (UUID.ofByte 10)) = some (evmWallet.id, .withdrawal (UUID.ofByte 10) .whitelisted) ∧
      standing s' (.withdrawal (UUID.ofByte 10)) = some (evmWallet.id, .withdrawal (UUID.ofByte 10) .failed) ∧
      s'.auditOutbox = s.auditOutbox := by
  constructor
  · have hnew : (settleFunding.proc referenceAudited).runsWithin (auditing agree) rowIsNew
        (auditedRun agree [openWallet, askTreasury]).2 = true := by
      decide +kernel
    refine ⟨_, (auditedRun agree [openWallet, askTreasury]).2, _, _, _,
      auditedRun_runs agree _ (by decide +kernel),
      Prog.run_exec_within (auditing_any agree) hnew, by decide +kernel, by decide +kernel, ?_⟩
    rfl
  · refine ⟨_, _, (auditedRun agree [openWallet, payOut]).2, (auditedRun denying [openWallet, payOut]).2,
      auditedRun_runs agree _ (by decide +kernel), auditedRun_runs denying _ (by decide +kernel),
      by decide +kernel, by decide +kernel, ?_⟩
    rfl

end WalletManager.Proofs
