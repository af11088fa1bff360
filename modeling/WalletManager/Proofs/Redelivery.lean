import WalletManager.Proofs.BalanceLaws

/-!
# Redelivery of failed confirmation events

The dedup record of an event is committed before the transaction that credits it. When the
delivery of an event fails, a redelivery counts the event exactly if the failed delivery has
left no record of it.
-/

namespace WalletManager.Proofs

open Interaction Ledger

section Redelivery

variable {svc : BalanceService} {faulty : Prop} {ev : ConfirmationEvent} {s₀ s s' : Store}
  {log : BalanceLog} {ok : Store → BalanceOp → Prop}

/-- An entry that does not lose the event or credit another one under its key. -/
def Delivers (ev : ConfirmationEvent) (e : Entry BalanceOp Call Answer (Except Error Unit)) : Prop :=
  ∀ ev', e.op = .confirm ev' → eventKey ev' = eventKey ev → ev' = ev ∧ e.result = .ok ()

structure CreditedSince (ev : ConfirmationEvent) (s₀ : Store) (log : BalanceLog) (s : Store) : Prop where
  depth : s.depth = 0
  recorded : ev.balanceEvent.key ∈ s.balanceEvents ↔
    ev.balanceEvent.key ∈ s₀.balanceEvents ∨ ev ∈ credited log
  fresh : ev ∈ credited log → ev.balanceEvent.key ∉ s₀.balanceEvents

lemma CreditedSince.skip (h : CreditedSince ev s₀ log s)
    {e : Entry BalanceOp Call Answer (Except Error Unit)} (hnone : ev ∉ credited [e])
    (hkey : ev.balanceEvent.key ∈ s'.balanceEvents ↔ ev.balanceEvent.key ∈ s.balanceEvents)
    (hdepth : s'.depth = 0) : CreditedSince ev s₀ (log ++ [e]) s' := by
  have hmem : ev ∈ credited (log ++ [e]) ↔ ev ∈ credited log := by
    rw [credited_append, List.mem_append, or_iff_left hnone]
  refine ⟨hdepth, ?_, ?_⟩
  · rw [hkey, h.recorded, hmem]
  · rw [hmem]
    exact h.fresh

theorem CreditedSince.step (h : CreditedSince ev s₀ log s) {op : BalanceOp} {tr : Trace}
    {r : Except Error Unit} (hout : BalanceOutcome svc faulty s op (tr.filterMap commitOf) r s')
    (hdelivers : Delivers ev ⟨op, tr, r⟩) : CreditedSince ev s₀ (log ++ [⟨op, tr, r⟩]) s' := by
  generalize hl : tr.filterMap commitOf = l at hout
  cases hout with
  | duplicate _ hs =>
    exact h.skip (by simp [credited_uncommitted hl]) (by rw [hs.events]) hs.depth
  | unrecorded _ hs =>
    exact h.skip (by simp [credited_uncommitted hl]) (by rw [hs.events]) hs.depth
  | @lost ev' _ _ _ _ hs =>
    have hne : ev.balanceEvent.key ≠ ev'.balanceEvent.key :=
      fun heq => nomatch (hdelivers ev' rfl heq.symm).2
    exact h.skip (by simp [credited_uncommitted hl]) (by simp [hs.events, hne]) hs.depth
  | @credited ev' _ hfresh hs =>
    by_cases heq : ev'.balanceEvent.key = ev.balanceEvent.key
    · obtain ⟨rfl, -⟩ := hdelivers ev' rfl heq
      have hmem : ev' ∈ credited (log ++ [⟨.confirm ev', tr, .ok ()⟩]) := by
        rw [credited_append, credited_confirm ev' hl]
        simp
      refine ⟨hs.depth, ?_, ?_⟩
      · simp [hs.events, hmem]
      · exact fun _ hold => hfresh (h.recorded.mpr (.inl hold))
    · have hne : ev ≠ ev' := fun h => heq (congrArg eventKey h.symm)
      exact h.skip (by simp [credited_confirm ev' hl, hne]) (by simp [hs.events, Ne.symm heq]) hs.depth
  | demoted hs => exact h.skip (by simp [credited_other]) (by rw [hs.events]) hs.depth
  | relocked hconfirm _ _ hs =>
    exact h.skip (by simp [credited_other hconfirm]) (by rw [hs.events]) hs.depth
  | aborted hconfirm _ hs =>
    exact h.skip (by simp [credited_other hconfirm]) (by rw [hs.events]) hs.depth

lemma creditedSince_runs (hdepth : s₀.depth = 0)
    (h : Runs (BalanceOp.proc svc) (faultStep svc.lib faulty) ok s₀ log s)
    (hlog : ∀ e ∈ log, Delivers ev e) : CreditedSince ev s₀ log s := by
  induction h with
  | nil => exact ⟨hdepth, by simp [credited], nofun⟩
  | snoc _ _ he ih =>
    have hi := ih (fun e he => hlog e (List.mem_append_left _ he))
    exact hi.step (balanceOp_outcome hi.depth _ _ _ _ he) (hlog _ (by simp))

lemma credited_failed {tr : Trace} {err : Error} (hdepth : s.depth = 0)
    (he : Exec (faultStep svc.lib faulty) (BalanceOp.proc svc (.confirm ev)) s tr (.error err) s') :
    credited [⟨.confirm ev, tr, .error err⟩] = [] ∧ s'.depth = 0 := by
  have hout := balanceOp_outcome hdepth (.confirm ev) tr (.error err) s' he
  generalize hl : tr.filterMap commitOf = l at hout
  cases hout with
  | unrecorded _ hs => exact ⟨credited_uncommitted hl, hs.depth⟩
  | lost _ _ hs => exact ⟨credited_uncommitted hl, hs.depth⟩
  | aborted hconfirm => exact absurd rfl (hconfirm ev)

lemma CreditedSince.redelivered (h : CreditedSince ev s₀ log s) {tr : Trace} {r : Except Error Unit}
    (he : Exec (memStep svc.lib) (BalanceOp.proc svc (.confirm ev)) s tr r s') :
    r = .ok () ∧ ev.balanceEvent.key ∈ s'.balanceEvents ∧
      CreditedSince ev s₀ (log ++ [⟨.confirm ev, tr, r⟩]) s' := by
  obtain ⟨hr, hbooks⟩ := confirm_books h.depth he
  refine ⟨hr, ?_, ?_⟩
  · rw [hbooks.events]
    exact Finset.mem_insert_self _ _
  · have hout := balanceOp_outcome h.depth (.confirm ev) tr r s'
      (he.mono (fun s c r s' => memStep_faultStep False))
    apply h.step hout
    intro ev' hev' _
    exact ⟨(BalanceOp.confirm.inj hev').symm, hr⟩

/-- After a failed delivery and a redelivery without failures, the books hold what was credited,
and the event is counted once exactly if the failed delivery left no record of it, or it had been
counted before. -/
theorem redelivery_counts (hlib : LawfulDecimal svc.lib) {s₁ s₂ s₃ : Store} {log' : BalanceLog}
    {tr tr' : Trace} {err : Error} {r : Except Error Unit}
    (h : Runs (BalanceOp.proc svc) (faultStep svc.lib True) ok {} log s)
    (hfail : Exec (faultStep svc.lib True) (BalanceOp.proc svc (.confirm ev)) s tr (.error err) s₁)
    (hlater : Runs (BalanceOp.proc svc) (faultStep svc.lib True) ok s₁ log' s₂)
    (hdelivers : ∀ e ∈ log', Delivers ev e)
    (hclean : Exec (memStep svc.lib) (BalanceOp.proc svc (.confirm ev)) s₂ tr' r s₃) :
    let whole := log ++ ⟨.confirm ev, tr, .error err⟩ :: (log' ++ [⟨.confirm ev, tr', r⟩])
    r = .ok () ∧
      (∀ walletID asset, confirmedOf svc s₃ walletID asset + pendingOf svc s₃ walletID asset =
        valueOf svc (eventsOn walletID asset (credited whole))) ∧
      ((credited whole).count ev = 1 ↔
        (ev.balanceEvent.key ∈ s₁.balanceEvents → ev ∈ credited log)) := by
  intro whole
  obtain ⟨hnone, hdepth⟩ := credited_failed (booksInv_runs hlib h).depth hfail
  obtain ⟨hr, hrecorded, hsince⟩ := (creditedSince_runs hdepth hlater hdelivers).redelivered hclean
  have hwhole : Runs (BalanceOp.proc svc) (faultStep svc.lib True) (fun _ _ => True) {} whole s₃ := by
    have hany : ∀ s op, ok s op → True := fun _ _ _ => trivial
    have htail := (hlater.mono (fun _ _ _ _ hs => hs) hany).snoc trivial
      (hclean.mono (fun _ _ _ _ => memStep_faultStep True))
    have hrun := ((h.mono (fun _ _ _ _ hs => hs) hany).snoc trivial hfail).trans htail
    rwa [List.append_assoc, List.singleton_append] at hrun
  have hinv := booksInv_runs hlib hwhole
  have hcredited : credited whole = credited log ++ credited (log' ++ [⟨.confirm ev, tr', r⟩]) := by
    rw [credited_append, ← List.singleton_append, credited_append, hnone, List.nil_append]
  have hcount : (credited whole).count ev = 1 ↔ ev ∈ credited whole := by
    constructor
    · intro hone
      exact List.count_pos_iff.mp (by omega)
    · exact List.count_eq_one_of_mem hinv.once.of_map
  refine ⟨hr, fun walletID asset => hinv.total hlib, ?_⟩
  rw [hcount, hcredited, List.mem_append]
  constructor
  · rintro (hbefore | hafter) hkey
    · exact hbefore
    · exact absurd hkey (hsince.fresh hafter)
  · intro hcond
    rcases hsince.recorded.mp hrecorded with hkey | hafter
    · exact .inl (hcond hkey)
    · exact .inr hafter

/-- The store after a failed call; `RecordBalanceEvent` fails before its insert. -/
def failedStore (s : Store) : StoreCall → Store
  | .commitTx | .rollbackTx => s.rollbackTx.2
  | _ => s

def failing (bad : StoreCall → Bool) (s : Store) : (c : Call) → Answer c × Store
  | .store c => if bad c then (.error ⟨"connection reset", none⟩, failedStore s c)
    else s.handle referenceLib c
  | .ext c => (agree c, s)

lemma failing_faultStep (bad : StoreCall → Bool) (s : Store) (c : Call) :
    faultStep referenceLib True s c (failing bad s c).1 (failing bad s c).2 := by
  cases c with
  | ext c => rfl
  | store c =>
    simp only [failing]
    split
    · refine .inr ⟨trivial, ?_, _, rfl, rfl⟩
      cases c <;> first | rfl | exact .inl rfl
    · exact .inl rfl

def failedDelivery (bad : StoreCall → Bool) : Trace × Except Error Unit × Store :=
  (BalanceOp.proc referenceBalances (.confirm (evmDeposit "2" 12 7 "a"))).run (failing bad) {}

lemma failedDelivery_exec (bad : StoreCall → Bool) :
    Exec (faultStep referenceBalances.lib True)
      (BalanceOp.proc referenceBalances (.confirm (evmDeposit "2" 12 7 "a"))) {}
      (failedDelivery bad).1 (failedDelivery bad).2.1 (failedDelivery bad).2.2 :=
  Prog.run_exec (failing_faultStep bad) _ _

def redelivery (s : Store) : Trace × Except Error Unit × Store :=
  (BalanceOp.proc referenceBalances (.confirm (evmDeposit "2" 12 7 "a"))).run (answering agree) s

lemma redelivery_exec (s : Store) :
    Exec (memStep referenceBalances.lib)
      (BalanceOp.proc referenceBalances (.confirm (evmDeposit "2" 12 7 "a"))) s
      (redelivery s).1 (redelivery s).2.1 (redelivery s).2.2 :=
  Prog.run_exec (answering_memStep agree) _ _

def unrecorded := failedDelivery (fun c => match c with
  | .recordBalanceEvent _ => true
  | _ => false)

theorem redelivery_counts_unrecorded :
    (credited [⟨.confirm (evmDeposit "2" 12 7 "a"), unrecorded.1, unrecorded.2.1⟩,
      ⟨.confirm (evmDeposit "2" 12 7 "a"), (redelivery unrecorded.2.2).1,
        (redelivery unrecorded.2.2).2.1⟩]).count (evmDeposit "2" 12 7 "a") = 1 := by
  have hresult : unrecorded.2.1 = .error ⟨"connection reset", none⟩ := by decide +kernel
  have hfail : Exec (faultStep referenceBalances.lib True)
      (BalanceOp.proc referenceBalances (.confirm (evmDeposit "2" 12 7 "a"))) {} unrecorded.1
      unrecorded.2.1 unrecorded.2.2 := failedDelivery_exec _
  rw [hresult] at hfail ⊢
  have hstart : ∀ s, Runs (BalanceOp.proc referenceBalances) (faultStep referenceBalances.lib True)
      (fun _ _ => True) s [] s := fun s => .nil
  have hcount := (redelivery_counts referenceLib_lawful (hstart {}) hfail (hstart _)
    (List.forall_mem_nil _) (redelivery_exec _)).2.2
  refine hcount.mpr ?_
  intro hkey
  exact absurd hkey (by decide +kernel)

def recorded := failedDelivery (fun c => match c with
  | .getBalance _ _ => true
  | _ => false)

/-- The delivery fails, the redelivery succeeds, and the wallet has no balance. -/
theorem redelivery_loses_event :
    Exec (faultStep referenceBalances.lib True)
        (BalanceOp.proc referenceBalances (.confirm (evmDeposit "2" 12 7 "a"))) {}
        recorded.1 recorded.2.1 recorded.2.2 ∧
      recorded.2.1 = .error ⟨"connection reset", none⟩ ∧
      Exec (memStep referenceBalances.lib)
        (BalanceOp.proc referenceBalances (.confirm (evmDeposit "2" 12 7 "a"))) recorded.2.2
        (redelivery recorded.2.2).1 (redelivery recorded.2.2).2.1 (redelivery recorded.2.2).2.2 ∧
      (redelivery recorded.2.2).2.1 = .ok () ∧
      (redelivery recorded.2.2).2.2.balances.lookup (balanceKey evmWallet.id "ETH") = none :=
  ⟨failedDelivery_exec _, by decide +kernel, redelivery_exec _, by decide +kernel⟩

end Redelivery

end WalletManager.Proofs
