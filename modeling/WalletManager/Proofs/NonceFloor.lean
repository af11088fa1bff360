import WalletManager.Proofs.NonceAllocation

/-!
# Nonce counters stay above zero

The saga and the nonce service share the counters. A Bitcoin withdrawal that cannot be funded
rolls the nonce `-1` back, without the test for a reserved nonce that `rollback` makes, and so
rewinds the counter of its wallet's `bitcoin` row from zero to `-1`, if the nonce service has
left such a row.
-/

namespace WalletManager.Proofs

open Interaction

abbrev UseEntry := Entry NonceUse Call Answer (Except Error (Option Int))

def Reserves (log : List UseEntry) (key : String) (n : Int) : Prop :=
  ∃ e ∈ log, Obs.reserved key n ∈ e.trace.filterMap observe

instance (log : List UseEntry) (key : String) (n : Int) : Decidable (Reserves log key n) :=
  inferInstanceAs (Decidable (∃ e ∈ log, Obs.reserved key n ∈ e.trace.filterMap observe))

/-- What the nonce service is asked to roll back was reserved on that key before. -/
def ReservedBefore (pre : List UseEntry) : NonceUse → Prop
  | .direct (.rollback walletID chain n) => Reserves pre (nonceKey walletID chain) n
  | _ => True

instance (pre : List UseEntry) : (op : NonceUse) → Decidable (ReservedBefore pre op)
  | .direct (.rollback walletID chain n) =>
    inferInstanceAs (Decidable (Reserves pre (nonceKey walletID chain) n))
  | .direct (.reserve _ _) | .direct (.commit _ _ _) | .saga _ => isTrue trivial

def RollsBackReserved (log : List UseEntry) : Prop :=
  ∀ pre e post, log = pre ++ e :: post → ReservedBefore pre e.op

instance (log : List UseEntry) : Decidable (RollsBackReserved log) :=
  decidable_of_iff' _ (Allocation.forall_split_iff (P := fun pre e => ReservedBefore pre e.op))

/-- A Bitcoin withdrawal that is about to be signed can be funded, or no nonce row of its wallet
stands at zero. -/
def FundedOrClear (lib : Lib) (s : Store) : NonceUse → Prop
  | .saga (.constructAndSign id) => ∀ wr w, s.withdrawals.lookup id = some wr →
    wr.state = .whitelisted → s.wallets.lookup wr.walletID = some w → w.chain = .bitcoin →
    Funded lib s wr ∨ ∀ row, s.nonces.lookup (nonceKey wr.walletID w.chain.string) = some row →
      row.pendingNonce ≠ 0
  | _ => True

section Step

variable {svc : Service} {s s' : Store} {op : Op} {obs : List Obs} {tr : Trace}

lemma nonnegative_iff :
    Nonnegative s ↔ ∀ k row, s.nonces.lookup k = some row → 0 ≤ row.pendingNonce := by
  constructor
  · intro h k row hrow
    rw [← pendingNonce_of_lookup hrow]
    exact h k
  · intro h k
    cases hrow : s.nonces.lookup k with
    | none => exact (pendingNonce_of_notMem (AList.lookup_eq_none.mp hrow)).ge
    | some row =>
      rw [pendingNonce_of_lookup hrow]
      exact h k row hrow

lemma Nonnegative.sentinel (h : Nonnegative s) {walletID : UUID} {chain : String}
    (hrow : ∀ row, s.nonces.lookup (nonceKey walletID chain) = some row → row.pendingNonce ≠ 0) :
    Nonnegative (s.rollbackPendingNonce walletID chain (-1)).2 := by
  intro k
  rw [rollbackPendingNonce_row, if_neg]
  · exact h k
  · rintro ⟨rfl, hmem, hzero⟩
    obtain ⟨row, hlookup⟩ := Table.mem_iff.mp hmem
    rw [pendingNonce_of_lookup hlookup] at hzero
    exact hrow row hlookup hzero

lemma Outcome.nonnegative (h : Outcome s op obs s') (hop : ∀ id, op ≠ .constructAndSign id)
    (hs : Nonnegative s) : Nonnegative s' := by
  cases h with
  | refused => exact hs
  | created => exact hs.congr (by simp)
  | unfunded | dropped | unsigned | signed => exact absurd rfl (hop _)
  | rejected | failed => exact (hs.released _ _ _).congr (updateWithdrawalState_nonces _ _ _ _ _ _)
  | accepted => exact (hs.committed _ _ _).congr (updateWithdrawalState_nonces _ _ _ _ _ _)
  | confirmed => exact hs.congr (updateWithdrawalState_nonces _ _ _ _ _ _)
  | restored => exact hs.congr rfl
  | demoted => exact hs.congr (by simp)

lemma constructAndSign_nonnegative (id : UUID) (hs : Nonnegative s)
    (hok : FundedOrClear svc.lib s (.saga (.constructAndSign id))) :
    Saga svc.lib (svc.constructAndSign id) s (fun _ _ s' => Nonnegative s') := by
  refine (constructAndSign_saga id).mono ?_
  rintro l _ s' (⟨-, rfl⟩ | ⟨wr, w, hrow, hwl, hw, hbtc, hfunded, -, rfl⟩ |
    ⟨wr, w, n, ops, wr₁, s₁, -, -, -, hres, rfl | ⟨reason, rfl⟩ | ⟨txBytes, -, -, rfl⟩⟩)
  · exact hs
  · exact hs.sentinel ((hok wr w hrow hwl hw hbtc).resolve_left hfunded)
  · exact (hres.nonnegative hs).released _ _ _
  · exact ((hres.nonnegative hs).released _ _ _).congr (updateWithdrawalState_nonces _ _ _ _ _ _)
  · exact (hres.nonnegative hs).congr (by simp [Store.updateWithdrawalSignedTx])

lemma op_nonnegative (op : Op) (hs : Nonnegative s) (hok : FundedOrClear svc.lib s (.saga op)) :
    Saga svc.lib (op.proc svc) s (fun _ _ s' => Nonnegative s') := by
  by_cases hop : ∀ id, op ≠ .constructAndSign id
  · refine (op_outcome op).mono ?_
    intro l _ s' h
    exact h.nonnegative hop hs
  · simp only [not_forall, Decidable.not_not] at hop
    obtain ⟨id, rfl⟩ := hop
    exact constructAndSign_nonnegative id hs hok

lemma NonceOutcome.nonnegative {op : NonceOp} {r : Except Error (Option Int)}
    (h : NonceOutcome s op obs r s') (hs : Nonnegative s)
    (hop : ∀ walletID chain n, op = .rollback walletID chain n → 0 ≤ n) : Nonnegative s' := by
  cases h with
  | refused => exact hs
  | reserved => exact hs.increment _ _
  | committed => exact hs.advance _ _ _
  | rolledBack => exact hs.rollback _ _ (hop _ _ _ rfl)

lemma nonceUse_reserved (op : NonceUse) :
    Saga svc.lib (op.proc svc) s (fun l r _ =>
      (∀ k n, Obs.reserved k n ∈ l → n = s.pendingNonce k) ∧
        ∀ n, r = .ok (some n) → ∃ k, n = s.pendingNonce k) := by
  cases op with
  | direct op =>
    refine (nonceOp_outcome op).mono ?_
    intro l r s' h
    constructor
    · intro k n hmem
      cases h with
      | reserved =>
        simp only [List.mem_singleton, Obs.reserved.injEq] at hmem
        rw [hmem.2, hmem.1]
      | _ => cases hmem
    · rintro n rfl
      exact ⟨_, h.returned⟩
  | saga op =>
    refine Ends.bind (op_outcome op) ?_
    intro l r s₁ h
    refine ends_ret.mpr ⟨?_, ?_⟩
    · rw [List.append_nil]
      exact fun k n hmem => h.reserved_eq hmem
    · intro n hr
      cases r <;> cases hr

end Step

section Runs

variable {svc : Service} {s₀ s : Store} {log : List UseEntry}

structure Floor (log : List UseEntry) (s : Store) : Prop where
  counters : Nonnegative s
  reserved : ∀ k n, Reserves log k n → 0 ≤ n
  returned : ∀ e ∈ log, ∀ n, e.result = .ok (some n) → 0 ≤ n

lemma RollsBackReserved.init {e : UseEntry} (h : RollsBackReserved (log ++ [e])) :
    RollsBackReserved log := by
  rintro pre e' post rfl
  apply h pre e' (post ++ [e])
  rw [List.append_assoc, List.cons_append]

lemma Floor.step {op : NonceUse} {tr : Trace} {r : Except Error (Option Int)} {s' : Store}
    (h : Floor log s) (hok : FundedOrClear svc.lib s op)
    (he : Exec (memStep svc.lib) (op.proc svc) s tr r s')
    (hrolled : RollsBackReserved (log ++ [⟨op, tr, r⟩])) : Floor (log ++ [⟨op, tr, r⟩]) s' := by
  obtain ⟨hreserved, hreturned⟩ := nonceUse_reserved op tr r s' he
  refine ⟨?_, ?_, ?_⟩
  · cases op with
    | direct op =>
      refine (nonceOp_outcome op tr r s' he).nonnegative h.counters ?_
      rintro walletID chain n rfl
      exact h.reserved _ n (hrolled log _ [] rfl)
    | saga op =>
      obtain ⟨a, s₁, tr₁, tr₂, hp, ⟨-, -, rfl⟩, -⟩ := exec_bind.mp he
      exact op_nonnegative op h.counters hok tr₁ a s' hp
  · rintro k n ⟨e, hmem, hn⟩
    rcases List.mem_append.mp hmem with hmem | hmem
    · exact h.reserved k n ⟨e, hmem, hn⟩
    · obtain rfl := List.mem_singleton.mp hmem
      rw [hreserved k n hn]
      exact h.counters k
  · intro e hmem n hn
    rcases List.mem_append.mp hmem with hmem | hmem
    · exact h.returned e hmem n hn
    · obtain rfl := List.mem_singleton.mp hmem
      obtain ⟨k, rfl⟩ := hreturned n hn
      exact h.counters k

/-- In every run in which no unfunded Bitcoin withdrawal is signed over a nonce row at zero, no
counter falls below zero and no reservation returns a negative nonce. -/
theorem nonces_never_negative (h₀ : ∀ k row, s₀.nonces.lookup k = some row → 0 ≤ row.pendingNonce)
    (h : Runs (NonceUse.proc svc) (memStep svc.lib) (FundedOrClear svc.lib) s₀ log s)
    (hrolled : RollsBackReserved log) :
    (∀ k row, s.nonces.lookup k = some row → 0 ≤ row.pendingNonce) ∧
      (∀ k n, Reserves log k n → 0 ≤ n) ∧ ∀ e ∈ log, ∀ n, e.result = .ok (some n) → 0 ≤ n := by
  have hfloor : Floor log s := by
    revert hrolled
    refine Runs.invariant (I := fun log s => RollsBackReserved log → Floor log s) ?_ ?_ h
    · intro _
      refine ⟨nonnegative_iff.mpr h₀, ?_, List.forall_mem_nil _⟩
      rintro k n ⟨e, hmem, -⟩
      cases hmem
    · intro log s op tr r s' ih hok he hrolled
      exact (ih hrolled.init).step hok he hrolled
  exact ⟨nonnegative_iff.mp hfloor.counters, hfloor.reserved, hfloor.returned⟩

def nonceUseRun (s₀ : Store) (ops : List NonceUse) : List UseEntry × Store :=
  runAll (NonceUse.proc referenceService) (answering agree) s₀ ops

def heldUses : List NonceUse :=
  [.direct (.reserve btcWallet.id "bitcoin"), .saga (.create (UUID.ofByte 10) (btcTransfer "abc")),
    .saga (.constructAndSign (UUID.ofByte 10)), .direct (.rollback btcWallet.id "bitcoin" 0)]

def heldRun := nonceUseRun (Store.initial [btcWallet] []) heldUses

lemma heldRun_runs : Runs (NonceUse.proc referenceService) (memStep referenceService.lib)
    (FundedOrClear referenceService.lib) (Store.initial [btcWallet] []) heldRun.1 heldRun.2 := by
  apply runs_runAll_of (answering_memStep agree)
  intro i hi
  match i with
  | 0 | 1 | 3 => trivial
  | 2 =>
    intro wr w hrow hwl hw hbtc
    right
    intro row hlookup
    obtain ⟨hclaim, hpending⟩ :
        claimOf (nonceUseRun (Store.initial [btcWallet] []) (heldUses.take 2)).2 (UUID.ofByte 10) =
          some (btcWallet.id, .whitelisted, none, []) ∧
        (nonceUseRun (Store.initial [btcWallet] []) (heldUses.take 2)).2.pendingNonce
          (nonceKey btcWallet.id "bitcoin") = 1 := by
      decide +kernel
    obtain ⟨wr', hrow', hid, -⟩ := claimOf_eq hclaim
    cases hrow.symm.trans hrow'
    rw [hbtc, hid] at hlookup
    rw [show (nonceUseRun (Store.initial [btcWallet] []) (heldUses.take 2)).2.pendingNonce
      (nonceKey btcWallet.id "bitcoin") = row.pendingNonce from pendingNonce_of_lookup hlookup] at hpending
    omega

theorem nonces_never_negative_held :
    Runs (NonceUse.proc referenceService) (memStep referenceService.lib)
        (FundedOrClear referenceService.lib) (Store.initial [btcWallet] []) heldRun.1 heldRun.2 ∧
      heldRun.1.map Entry.result = [.ok (some 0), .ok none,
        .error ⟨"parse btc amount: can't convert abc to decimal", none⟩, .ok none] ∧
      ∀ k row, heldRun.2.nonces.lookup k = some row → 0 ≤ row.pendingNonce := by
  obtain ⟨hrolled, hresults⟩ : RollsBackReserved heldRun.1 ∧
      heldRun.1.map Entry.result = [.ok (some 0), .ok none,
        .error ⟨"parse btc amount: can't convert abc to decimal", none⟩, .ok none] := by
    decide +kernel
  refine ⟨heldRun_runs, hresults, (nonces_never_negative ?_ heldRun_runs hrolled).1⟩
  intro k row hlookup
  cases hlookup

def sentinelRun := nonceUseRun (Store.initial [btcWallet] [])
  [.direct (.reserve btcWallet.id "bitcoin"), .direct (.rollback btcWallet.id "bitcoin" 0),
    .saga (.create (UUID.ofByte 10) (btcTransfer "abc")), .saga (.constructAndSign (UUID.ofByte 10)),
    .direct (.reserve btcWallet.id "bitcoin")]

theorem sentinel_rewinds_below_zero :
    Runs (NonceUse.proc referenceService) (memStep referenceService.lib) (fun _ _ => True)
        (Store.initial [btcWallet] []) sentinelRun.1 sentinelRun.2 ∧
      RollsBackReserved sentinelRun.1 ∧
      sentinelRun.1.map Entry.result = [.ok (some 0), .ok none, .ok none,
        .error ⟨"parse btc amount: can't convert abc to decimal", none⟩, .ok (some (-1))] := by
  refine ⟨runs_runAll (answering_memStep agree) _ (by simp), ?_⟩
  decide +kernel

end Runs

end WalletManager.Proofs
