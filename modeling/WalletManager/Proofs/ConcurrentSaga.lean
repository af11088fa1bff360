import WalletManager.Proofs.SagaCalls

/-!
# Concurrent operations on one withdrawal

Each operation checks the state of its withdrawal in one call and writes it some calls later,
without looking again. Calls on one withdrawal keep to a single saga only if the state is still what
it was.
-/

namespace WalletManager.Proofs

open Interaction

def stateOf (s : Store) (id : UUID) : Option WithdrawalState :=
  (s.withdrawals.lookup id).map WithdrawalRequest.state

def stateWrite (id : UUID) : Call → Option WithdrawalState
  | .store (.updateWithdrawalState j state _ _ _) => if j = id then some state else none
  | _ => none

def isSubmission : Call → Bool
  | .ext (.broadcastTx _) => true
  | _ => false

section Events

variable (id : UUID) (e : Slot × Event Call Answer)

def sets (state : WithdrawalState) : Bool := stateWrite id e.2.call = some state

def submits : Bool := e.1.1.id = id && isSubmission e.2.call

end Events

/-- Every submission for `id` has been followed by a write of the state by the same
operation. -/
def settled (id : UUID) : SlotLog → Bool
  | [] => true
  | e :: log => (!submits id e || log.any fun e' => e'.1 = e.1 && (stateWrite id e'.2.call).isSome) &&
    settled id log

/-- The condition on the calls: SIGNED is written over WHITELISTED only, and the gateway is
asked only while the row is SIGNED and every earlier submission is settled. -/
def unraced (id : UUID) (log : SlotLog) (s : Store) (t : Slot) (c : Call) : Bool :=
  (stateWrite id c ≠ some .signed || stateOf s id = some .whitelisted) &&
  (!(t.1.id = id && isSubmission c) || (stateOf s id = some .signed && settled id log))

/-- The operations that may run: any on the other withdrawals, and on `id` those of the
spend path and `Fail`. -/
def Contends (svc : Service) (id : UUID) (t : Slot) (p : Proc (Except Error Unit)) : Prop :=
  p = t.1.proc svc ∧ (t.1.id = id →
    t.1 = .constructAndSign id ∨ t.1 = .broadcast id ∨ ∃ reason, t.1 = .fail id reason)

section Steps

variable {lib : Lib} {svc : Service} {s s' : Store} {id j : UUID} {states : List WithdrawalState}
  {party : Option Party} {c : Call} {r : Answer c} {t : Slot} {log : SlotLog}

lemma settled_append {e : Slot × Event Call Answer} (h : settled id (log ++ [e])) :
    submits id e = false ∧ (settled id log = true ∨ (stateWrite id e.2.call).isSome) := by
  induction log with
  | nil => simpa [settled] using h
  | cons e₁ log ih =>
    simp only [List.cons_append, settled, Bool.and_eq_true] at h ⊢
    obtain ⟨he, hlog⟩ := ih h.2
    refine ⟨he, ?_⟩
    rcases hlog with hlog | hlog
    · simp only [Bool.or_eq_true, List.any_append, List.any_cons, List.any_nil, Bool.and_eq_true] at h
      rcases h.1 with h₁ | h₁ | h₁ | h₁
      · exact .inl ⟨by simp [h₁], hlog⟩
      · exact .inl ⟨by simp [h₁], hlog⟩
      · exact .inr h₁.2
      · cases h₁
    · exact .inr hlog

lemma stateWrite_other (hc : Touches j states party c) (hj : j ≠ id) : stateWrite id c = none := by
  rcases c with c | c
  · cases c with
    | updateWithdrawalState i state reason txHash decisionID =>
      obtain ⟨rfl, -⟩ := hc
      exact if_neg hj
    | _ => rfl
  · rfl

lemma stateWrite_mem (hc : Touches id states party c) {state : WithdrawalState}
    (hstate : stateWrite id c = some state) : state ∈ states := by
  rcases c with c | c
  · cases c with
    | updateWithdrawalState i st reason txHash decisionID =>
      obtain ⟨rfl, hmem⟩ := hc
      simp only [stateWrite, if_true, Option.some.injEq] at hstate
      exact hstate ▸ hmem
    | _ => cases hstate
  · cases hstate

lemma stateOf_write (hs : memStep lib s c r s') {state : WithdrawalState}
    (hstate : stateWrite id c = some state) :
    stateOf s' id = (stateOf s id).map (fun _ => state) := by
  rcases c with c | c
  · cases c with
    | updateWithdrawalState i st reason txHash decisionID =>
      simp only [stateWrite, Option.ite_none_right_eq_some, Option.some.injEq] at hstate
      obtain ⟨rfl, rfl⟩ := hstate
      obtain rfl : s' = (s.updateWithdrawalState i st reason txHash decisionID).2 :=
        congrArg Prod.snd hs
      unfold stateOf
      cases hrow : s.withdrawals.lookup i with
      | none =>
        unfold Store.updateWithdrawalState
        simp [hrow]
      | some wr =>
        rw [((RowSet.refl hrow).state st reason txHash decisionID).row]
        rfl
    | _ => cases hstate
  · cases hstate

lemma stateOf_kept (hc : Touches id states party c) (hs : memStep lib s c r s')
    (hstate : stateWrite id c = none) {state : WithdrawalState} (hne : state ≠ .pending)
    (h : stateOf s' id = some state) : stateOf s id = some state := by
  have hc' : Touches id [] party c := by
    rcases c with c | c
    · cases c with
      | updateWithdrawalState i st reason txHash decisionID =>
        obtain ⟨rfl, -⟩ := hc
        simp [stateWrite] at hstate
      | _ => exact hc
    · cases c <;> exact hc
  have hrow := touches_rowStep hc' (memStep_lossyStep hs)
  obtain ⟨wr', hlookup', rfl⟩ := Option.map_eq_some_iff.mp h
  cases hlookup : s.withdrawals.lookup id with
  | none => exact absurd (hrow.fresh wr' hlookup hlookup') hne
  | some wr =>
    obtain ⟨wr₁, hlookup₁, -, hkept | hmem⟩ := hrow.kept wr hlookup
    · obtain rfl : wr' = wr₁ := Option.some.inj (hlookup'.symm.trans hlookup₁)
      simp [stateOf, hlookup, hkept]
    · cases hmem

end Steps

/-- The invariant. Once SIGNED or FAILED has been written or a submission made, the row is
not WHITELISTED again; once FAILED has been written or the submission is settled, it is not
SIGNED again. -/
structure OneSaga (id : UUID) (log : SlotLog) (s : Store) : Prop where
  signedOnce : log.countP (fun e => sets id e .signed) ≤ 1
  submittedOnce : log.countP (submits id) ≤ 1
  failedLast : log.Pairwise (fun e e' => sets id e .failed = true → submits id e' = false)
  constructed : ∀ e ∈ log, sets id e .signed ∨ sets id e .failed ∨ submits id e →
    stateOf s id ≠ some .whitelisted
  ended : ∀ e ∈ log, sets id e .failed ∨ submits id e ∧ settled id log →
    stateOf s id ≠ some .signed

section Invariant

variable {lib : Lib} {svc : Service} {s s' : Store} {id : UUID} {c : Call} {r : Answer c} {t : Slot}
  {log : SlotLog}

lemma OneSaga.silent (h : OneSaga id log s) (hwrite : stateWrite id c = none)
    (hsubmit : submits id (t, ⟨c, r⟩) = false)
    (hstate : ∀ state, state ≠ .pending → stateOf s' id = some state → stateOf s id = some state) :
    OneSaga id (log ++ [(t, ⟨c, r⟩)]) s' := by
  have hsets : ∀ state, sets id (t, ⟨c, r⟩) state = false := fun state => by simp [sets, hwrite]
  refine ⟨?_, ?_, ?_, ?_, ?_⟩
  · simpa [List.countP_append, hsets] using h.signedOnce
  · simpa [List.countP_append, hsubmit] using h.submittedOnce
  · rw [List.pairwise_append]
    exact ⟨h.failedLast, List.pairwise_singleton _ _, by simp [hsubmit]⟩
  · intro e he hev hwl
    rcases List.mem_append.mp he with he | he
    · exact h.constructed e he hev (hstate _ (by simp) hwl)
    · obtain rfl := List.mem_singleton.mp he
      simp [hsets, hsubmit] at hev
  · intro e he hev hsigned
    rcases List.mem_append.mp he with he | he
    · refine h.ended e he (hev.imp_right fun hev => ⟨hev.1, ?_⟩) (hstate _ (by simp) hsigned)
      rcases (settled_append hev.2).2 with hsettled | hwritten
      · exact hsettled
      · simp [hwrite] at hwritten
    · obtain rfl := List.mem_singleton.mp he
      simp [hsets, hsubmit] at hev

lemma OneSaga.write (h : OneSaga id log s) {state : WithdrawalState}
    (hwrite : stateWrite id c = some state) (hstate : stateOf s' id = (stateOf s id).map (fun _ => state))
    (hne : state ≠ .whitelisted) (hsigned : state = .signed → stateOf s id = some .whitelisted) :
    OneSaga id (log ++ [(t, ⟨c, r⟩)]) s' := by
  have hsubmit : submits id (t, ⟨c, r⟩) = false := by
    rcases c with c | c
    · simp [submits, isSubmission]
    · cases hwrite
  -- After a write of SIGNED, a failure or a submission, SIGNED cannot be written again.
  have hfirst : ∀ e ∈ log, sets id e .signed ∨ sets id e .failed ∨ submits id e → state ≠ .signed :=
    fun e he hev hst => h.constructed e he hev (hsigned hst)
  refine ⟨?_, ?_, ?_, ?_, ?_⟩
  · rw [List.countP_append]
    by_cases hst : state = .signed
    · have hnone : log.countP (fun e => sets id e .signed) = 0 := by
        rw [List.countP_eq_zero]
        exact fun e he hev => hfirst e he (.inl hev) hst
      rw [hnone]
      exact (Nat.zero_add _).trans_le (List.countP_le_length)
    · have hnot : sets id (t, ⟨c, r⟩) .signed = false := by simp [sets, hwrite, hst]
      simpa [hnot] using h.signedOnce
  · simpa [List.countP_append, hsubmit] using h.submittedOnce
  · rw [List.pairwise_append]
    exact ⟨h.failedLast, List.pairwise_singleton _ _, by simp [hsubmit]⟩
  · intro e he hev hwl
    rw [hstate, Option.map_eq_some_iff] at hwl
    obtain ⟨_, -, hwl⟩ := hwl
    exact hne hwl
  · intro e he hev hsgn
    rw [hstate, Option.map_eq_some_iff] at hsgn
    obtain ⟨_, -, hst⟩ := hsgn
    rcases List.mem_append.mp he with he | he
    · exact hfirst e he (.inr (hev.imp_right And.left)) hst
    · obtain rfl := List.mem_singleton.mp he
      simp [sets, hwrite, hst, hsubmit] at hev

lemma OneSaga.submit (h : OneSaga id log s) (hwrite : stateWrite id c = none)
    (hsigned : stateOf s id = some .signed) (hsettled : settled id log)
    (hsubmit : submits id (t, ⟨c, r⟩) = true) : OneSaga id (log ++ [(t, ⟨c, r⟩)]) s := by
  have hsets : ∀ state, sets id (t, ⟨c, r⟩) state = false := fun state => by simp [sets, hwrite]
  have hunfailed : ∀ e ∈ log, ¬ sets id e .failed = true :=
    fun e he hev => h.ended e he (.inl hev) hsigned
  refine ⟨?_, ?_, ?_, ?_, ?_⟩
  · simpa [List.countP_append, hsets] using h.signedOnce
  · have hnone : log.countP (submits id) = 0 := by
      rw [List.countP_eq_zero]
      exact fun e he hev => h.ended e he (.inr ⟨hev, hsettled⟩) hsigned
    rw [List.countP_append, hnone]
    exact (Nat.zero_add _).trans_le (List.countP_le_length)
  · rw [List.pairwise_append]
    exact ⟨h.failedLast, List.pairwise_singleton _ _, fun e he _ _ hev => absurd hev (hunfailed e he)⟩
  · simp [hsigned]
  · intro e he hev
    rcases hev with hev | ⟨-, hev⟩
    · rcases List.mem_append.mp he with he | he
      · exact absurd hev (hunfailed e he)
      · obtain rfl := List.mem_singleton.mp he
        simp [hsets] at hev
    · rw [(settled_append hev).1] at hsubmit
      cases hsubmit

def Contending (id : UUID) (t : Slot) (c : Call) : Prop :=
  ∃ states, Touches t.1.id states (partyOf t.1) c ∧
    (t.1.id = id → states ⊆ [.failed, .signed, .broadcast])

lemma contends_calls {p : Proc (Except Error Unit)} (h : Contends svc id t p) :
    p.AllCalls (Contending id t) := by
  obtain ⟨rfl, hop⟩ := h
  by_cases hid : t.1.id = id
  · have hcalls : (t.1.proc svc).AllCalls
        (Touches t.1.id [.failed, .signed, .broadcast] (partyOf t.1)) := by
      refine op_touches svc ?_ ?_
      · rcases hop hid with hop | hop | ⟨reason, hop⟩ <;> simp [hop]
      · intro state
        rcases hop hid with hop | hop | ⟨reason, hop⟩ <;> rw [hop] <;> cases state <;> simp [writes]
    exact hcalls.mono (fun c hc => ⟨_, hc, fun _ => List.Subset.refl _⟩)
  · obtain ⟨states, hcalls⟩ := op_touches_own svc t.1
    exact hcalls.mono (fun c hc => ⟨states, hc, fun h => absurd h hid⟩)

theorem OneSaga.step (h : OneSaga id log s) (hc : Contending id t c) (hok : unraced id log s t c)
    (hs : memStep lib s c r s') : OneSaga id (log ++ [(t, ⟨c, r⟩)]) s' := by
  obtain ⟨states, hcalls, hstates⟩ := hc
  simp only [unraced, Bool.and_eq_true, Bool.or_eq_true, decide_eq_true_eq] at hok
  obtain ⟨hsigned, hasked⟩ := hok
  by_cases hid : t.1.id = id
  · subst hid
    cases hwrite : stateWrite t.1.id c with
    | some state =>
      have hmem := hstates rfl (stateWrite_mem hcalls hwrite)
      refine h.write hwrite (stateOf_write hs hwrite) ?_ ?_
      · rintro rfl
        simp at hmem
      · rintro rfl
        exact hsigned.resolve_left (fun hne => hne hwrite)
    | none =>
      by_cases hsub : isSubmission c = true
      · obtain ⟨hrow, hsettled⟩ := hasked.resolve_left (by simp [hsub])
        obtain rfl : s' = s := by
          rcases c with c | c
          · cases hsub
          · exact hs
        exact h.submit hwrite hrow hsettled (by simp [submits, hsub])
      · refine h.silent hwrite (by simp [submits, hsub]) ?_
        exact fun state hne hstate => stateOf_kept hcalls hs hwrite hne hstate
  · refine h.silent (stateWrite_other hcalls hid) (by simp [submits, hid]) ?_
    intro state hne hstate
    rwa [stateOf, (touches_rowStep hcalls (memStep_lossyStep hs)).others id (Ne.symm hid)] at hstate

end Invariant

/-- At most one `ConstructAndSign` call moves the withdrawal to SIGNED, at most one submission
is made for it, and none after it has been set to FAILED, in every interleaving whose calls
meet the condition. -/
theorem one_saga_per_withdrawal {svc : Service} {id : UUID} {s₀ : Store} {P : SlotPool}
    (h : Pool.ReachableIf (memStep svc.lib) (Contends svc id)
      (fun s s' => s'.withdrawals = s.withdrawals)
      (fun log s t c => unraced id log s t c = true) s₀ P) :
    P.log.countP (fun e => sets id e .signed) ≤ 1 ∧ P.log.countP (submits id) ≤ 1 ∧
      P.log.Pairwise (fun e e' => sets id e .failed = true → submits id e' = false) := by
  have hinit : OneSaga id [] s₀ := by constructor <;> simp
  have henv : ∀ log s s', OneSaga id log s → s'.withdrawals = s.withdrawals → OneSaga id log s' := by
    intro log s s' h hrows
    have hstate : stateOf s' id = stateOf s id := by simp [stateOf, hrows]
    refine ⟨h.signedOnce, h.submittedOnce, h.failedLast, ?_, ?_⟩
    · rw [hstate]
      exact h.constructed
    · rw [hstate]
      exact h.ended
  have hspawn : ∀ t p, Contends svc id t p → p.AllCalls (Contending id t) :=
    fun t p => contends_calls
  have hI := h.invariant hinit hspawn henv
    (fun log s t c r s' hI hc hok hs => OneSaga.step hI hc hok hs)
  exact ⟨hI.signedOnce, hI.submittedOnce, hI.failedLast⟩

def whitelistedStore : Store :=
  (referenceRun agree (Store.initial [evmWallet] []) [.create (UUID.ofByte 10) (evmTransfer "2")]).2

def serialSchedule : List (Slot ⊕ Slot) :=
  [(.constructAndSign (UUID.ofByte 10), 0), (.broadcast (UUID.ofByte 10), 0),
    (.fail (UUID.ofByte 10) "late", 0)].flatMap (fun t => starting [t] ++ turns 9 [t])

def serialPool : SlotPool :=
  (slotMoves serialSchedule).foldl (Pool.playIf (unraced (UUID.ofByte 10)) (answering agree))
    ⟨whitelistedStore, fun _ => none, []⟩

theorem one_saga_per_withdrawal_serial :
    serialPool.log.countP (fun e => sets (UUID.ofByte 10) e .signed) = 1 ∧
      serialPool.log.countP (fun e => sets (UUID.ofByte 10) e .failed) = 1 ∧
      serialPool.log.countP (submits (UUID.ofByte 10)) = 1 ∧
      serialPool.log.Pairwise (fun e e' => sets (UUID.ofByte 10) e .failed = true →
        submits (UUID.ofByte 10) e' = false) := by
  have hreach : Pool.ReachableIf (memStep referenceService.lib)
      (Contends referenceService (UUID.ofByte 10)) (fun s s' => s'.withdrawals = s.withdrawals)
      (fun log s t c => unraced (UUID.ofByte 10) log s t c = true) whitelistedStore serialPool := by
    refine Pool.ReachableIf.init.playIf (answering_memStep agree) (fun t p hp => ?_)
    obtain ⟨hmem, rfl⟩ := slotMoves_start hp
    refine ⟨rfl, fun _ => ?_⟩
    simp [serialSchedule, starting, turns] at hmem
    rcases hmem with rfl | rfl | rfl <;> simp
  obtain ⟨hsigned, hfailed, hsubmitted⟩ :
      serialPool.log.countP (fun e => sets (UUID.ofByte 10) e .signed) = 1 ∧
      serialPool.log.countP (fun e => sets (UUID.ofByte 10) e .failed) = 1 ∧
      serialPool.log.countP (submits (UUID.ofByte 10)) = 1 := by decide +kernel
  exact ⟨hsigned, hfailed, hsubmitted, (one_saga_per_withdrawal hreach).2.2⟩

/-- Both signings have read the WHITELISTED row before the first takes the nonce lock; the second
takes it once it is free again. -/
def racingSchedule : List (Slot ⊕ Slot) :=
  let first : Slot := (.constructAndSign (UUID.ofByte 10), 0)
  let second : Slot := (.constructAndSign (UUID.ofByte 10), 1)
  let third : Slot := (.broadcast (UUID.ofByte 10), 0)
  let fourth : Slot := (.broadcast (UUID.ofByte 10), 1)
  let fifth : Slot := (.fail (UUID.ofByte 10) "stuck", 0)
  starting [first, second] ++ turns 2 [first, second] ++ turns 7 [first] ++ turns 7 [second] ++
    starting [third, fourth, fifth] ++
    turns 2 [third, fourth] ++ turns 1 [third] ++ turns 4 [fifth] ++ turns 1 [fourth]

def racingPool : SlotPool := playingSlots agree whitelistedStore racingSchedule

theorem racing_operations_submit_twice :
    Pool.Reachable (memStep referenceService.lib) (Contends referenceService (UUID.ofByte 10))
        (fun s s' => s'.withdrawals = s.withdrawals) whitelistedStore racingPool ∧
      racingPool.log.countP (fun e => sets (UUID.ofByte 10) e .signed) = 2 ∧
      racingPool.log.countP (submits (UUID.ofByte 10)) = 2 ∧
      ¬ racingPool.log.Pairwise (fun e e' => sets (UUID.ofByte 10) e .failed = true →
        submits (UUID.ofByte 10) e' = false) := by
  refine ⟨?_, by decide +kernel⟩
  refine Pool.Reachable.init.play (answering_memStep agree) (fun t p hp => ?_)
  obtain ⟨hmem, rfl⟩ := slotMoves_start hp
  refine ⟨rfl, fun _ => ?_⟩
  simp [racingSchedule, starting, turns] at hmem
  rcases hmem with rfl | rfl | rfl | rfl | rfl <;> simp

end WalletManager.Proofs
