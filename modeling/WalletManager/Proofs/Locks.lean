import WalletManager.Proofs.NonceSafety
import WalletManager.Proofs.Reference

/-!
# No leaked output locks

Between operations, every locked output is reserved by a withdrawal that is signed, as long
as no `Fail` call hits a signed withdrawal that has outputs: `Fail` releases the nonce of
its withdrawal and none of its outputs.
-/

namespace WalletManager.Proofs

open Interaction

def lockOf (s : Store) (op : String) : Option UTXOLockState :=
  (s.utxos.lookup op).map UTXO.lockState

def Holds (s : Store) (id : UUID) (op : String) : Prop :=
  ∃ wr, s.withdrawals.lookup id = some wr ∧ wr.state = .signed ∧ op ∈ wr.reservedOutpoints

section Outputs

variable {s s₁ s' : Store} {id : UUID} {wr wr₁ : WithdrawalRequest} {w : Wallet} {n : Int}
  {ops : List String} {obs : List Obs}

lemma lockOf_congr (h : s'.utxos = s.utxos) (op : String) : lockOf s' op = lockOf s op := by
  rw [lockOf, lockOf, h]

lemma mem_freeOutpoints {op : String} : op ∈ s.freeOutpoints ↔ lockOf s op = some .free := by
  rw [lockOf, Option.map_eq_some_iff]
  rfl

lemma mem_of_lockOf {op : String} (h : lockOf s op ≠ none) : op ∈ s.utxos := by
  rw [← AList.lookup_isSome]
  cases hu : s.utxos.lookup op with
  | none => simp [lockOf, hu] at h
  | some u => rfl

lemma updateEach_lockState {f : UTXO → UTXO} {state : UTXOLockState}
    (hf : ∀ u, (f u).lockState = state) {utxos : Table String UTXO} (hall : ∀ op ∈ ops, op ∈ utxos)
    (op : String) : ((Store.updateEach f ops utxos).2.lookup op).map UTXO.lockState =
      if op ∈ ops then some state else (utxos.lookup op).map UTXO.lockState := by
  induction ops generalizing utxos with
  | nil => simp [Store.updateEach]
  | cons op₁ ops ih =>
    obtain ⟨u, hu⟩ := Table.mem_iff.mp (hall op₁ (by simp))
    have hrest : ∀ op ∈ ops, op ∈ utxos.insert op₁ (f u) :=
      fun op hop => (AList.mem_insert _).mpr (.inr (hall op (by simp [hop])))
    rw [Store.updateEach, hu, ih hrest, lookup_insert_eq]
    by_cases hop : op = op₁
    · simp [hop, hf]
    · simp [hop]

lemma restoreUTXOs_lockOf (hall : ∀ op ∈ ops, lockOf s op ≠ none) (op : String) :
    lockOf (s.restoreUTXOs ops).2 op = if op ∈ ops then some .free else lockOf s op :=
  updateEach_lockState (f := fun u => { u with lockState := .free, txHash := "" }) (fun _ => rfl)
    (fun op hop => mem_of_lockOf (hall op hop)) op

lemma markUTXOsSpent_lockOf (hall : ∀ op ∈ ops, lockOf s op ≠ none) (txHash op : String) :
    lockOf (s.markUTXOsSpent ops txHash).2 op = if op ∈ ops then some .spent else lockOf s op :=
  updateEach_lockState (f := fun u => { u with lockState := .spent, txHash := txHash }) (fun _ => rfl)
    (fun op hop => mem_of_lockOf (hall op hop)) op

lemma lockUTXOs_lockOf (hfree : Store.checkFree s.utxos ops = .ok ()) (op : String) :
    lockOf (s.lockUTXOs ops).2 op = if op ∈ ops then some .locked else lockOf s op := by
  have hall : ∀ op ∈ ops, op ∈ s.utxos := by
    intro op hop
    obtain ⟨u, hu, -⟩ := checkFree_ok hfree op hop
    exact Table.mem_iff.mpr ⟨u, hu⟩
  rw [Store.lockUTXOs, hfree]
  exact updateEach_lockState (f := fun u => { u with lockState := .locked }) (fun _ => rfl) hall op

lemma released_lockOf (hall : ∀ op ∈ ops, lockOf s op ≠ none) (w : Wallet) (n : Int) (op : String) :
    lockOf (released s w n ops) op = if op ∈ ops then some .free else lockOf s op := by
  have hrestore : ∀ s₁ : Store, s₁.utxos = s.utxos →
      lockOf (if ops.length > 0 then (s₁.restoreUTXOs ops).2 else s₁) op =
        if op ∈ ops then some .free else lockOf s op := by
    intro s₁ hs₁
    rw [← lockOf_congr hs₁]
    split
    · refine restoreUTXOs_lockOf (fun op hop => ?_) op
      rw [lockOf_congr hs₁]
      exact hall op hop
    · rename_i hlen
      obtain rfl : ops = [] := List.length_eq_zero_iff.mp (by omega)
      simp
  unfold released
  apply hrestore
  split <;> simp

lemma committed_lockOf (hall : ∀ op ∈ wr.reservedOutpoints, lockOf s op ≠ none)
    (hplain : w.chain ≠ .bitcoin → wr.reservedOutpoints = []) (txHash op : String) :
    lockOf (committed s wr w txHash) op =
      if op ∈ wr.reservedOutpoints then some .spent else lockOf s op := by
  have hutxos : (committed s wr w txHash).utxos =
      (if w.chain = .bitcoin ∧ wr.reservedOutpoints.length > 0 then
        (s.markUTXOsSpent wr.reservedOutpoints txHash).2 else s).utxos := by
    unfold committed
    dsimp only
    split
    · split <;> rfl
    · rfl
  rw [lockOf_congr hutxos]
  split
  · exact markUTXOsSpent_lockOf hall txHash op
  · rename_i hbtc
    have hnone : wr.reservedOutpoints = [] := by
      by_contra hne
      have hchain : w.chain = .bitcoin := by
        by_contra h
        exact hne (hplain h)
      exact hbtc ⟨hchain, List.length_pos_iff.mpr hne⟩
    simp [hnone]

lemma Reserved.lockOf (h : Reserved s id wr w n ops wr₁ obs s₁) (op : String) :
    lockOf s₁ op = (if op ∈ ops then some .locked else lockOf s op) ∧
      (op ∈ ops → lockOf s op = some .free) := by
  cases h with
  | evm => exact ⟨by simp [Proofs.lockOf, Store.updateWithdrawalNonce], by simp⟩
  | bitcoin hbtc hfree =>
    constructor
    · rw [← lockUTXOs_lockOf hfree op]
      exact lockOf_congr (updateWithdrawal_utxos _ _ _) op
    · exact fun hop => mem_freeOutpoints.mp (checkFree_ok hfree op hop)
  | plain => exact ⟨by simp, by simp⟩

lemma Reserved.released_lockOf (h : Reserved s id wr w n ops wr₁ obs s₁) (op : String) :
    Proofs.lockOf (released s₁ w n ops) op = Proofs.lockOf s op := by
  rw [Proofs.released_lockOf (fun op hop => by rw [(h.lockOf op).1, if_pos hop]; simp), (h.lockOf op).1]
  by_cases hop : op ∈ ops
  · rw [if_pos hop, (h.lockOf op).2 hop]
  · rw [if_neg hop, if_neg hop]

lemma Reserved.outpoints (h : Reserved s id wr w n ops wr₁ obs s₁)
    (hplain : w.chain ≠ .bitcoin → wr.reservedOutpoints = []) : wr₁.reservedOutpoints = ops := by
  cases h with
  | evm hevm => exact hplain (isEVM_ne_bitcoin hevm)
  | bitcoin => rfl
  | plain _ hbtc => exact hplain hbtc

end Outputs

/-- The invariant: the outputs of signed withdrawals are tracked, and every locked output
belongs to one. -/
structure Locks (s : Store) : Prop where
  rows : SoundRows s
  tracked : ∀ id op, Holds s id op → lockOf s op ≠ none
  locked : ∀ op, lockOf s op = some .locked → ∃ id, Holds s id op

/-- The condition on calls: no reorg callback, and no `Fail` call on a signed withdrawal that
has outputs. -/
def KeepsLocks (s : Store) (op : Op) : Prop :=
  (∀ id ops, op ≠ .onReorg id ops) ∧
    ∀ id reason o, op = .fail id reason → ¬ Holds s id o

section Steps

variable {s s₁ s' : Store} {id : UUID} {wr wr' : WithdrawalRequest} {obs : List Obs} {op : Op}

lemma holds_other (hset : RowSet s s' id wr') {j : UUID} (hj : j ≠ id) {o : String} :
    Holds s' j o ↔ Holds s j o := by
  rw [Holds, Holds, hset.others j hj]

lemma holds_self (hrow : s.withdrawals.lookup id = some wr) {o : String} :
    Holds s id o ↔ wr.state = .signed ∧ o ∈ wr.reservedOutpoints := by
  simp [Holds, hrow]

lemma Locks.congr (h : Locks s) (hrows : SoundRows s') (hsame : s'.withdrawals = s.withdrawals)
    (hutxos : s'.utxos = s.utxos) : Locks s' := by
  have hholds : ∀ id o, Holds s' id o ↔ Holds s id o := fun id o => by rw [Holds, Holds, hsame]
  refine ⟨hrows, ?_, ?_⟩
  · intro id o
    rw [hholds, lockOf_congr hutxos]
    exact h.tracked id o
  · intro o
    rw [lockOf_congr hutxos]
    simp only [hholds]
    exact h.locked o

lemma not_holds (hrow : s.withdrawals.lookup id = some wr) (hstate : wr.state ≠ .signed) (o : String) :
    ¬ Holds s id o :=
  fun hheld => hstate ((holds_self hrow).mp hheld).1

lemma stated_lockOf (s : Store) (id : UUID) (state : WithdrawalState) (reason txHash decisionID o : String) :
    lockOf (s.updateWithdrawalState id state reason txHash decisionID).2 o = lockOf s o :=
  lockOf_congr (updateWithdrawalState_utxos _ _ _ _ _ _) o

lemma Locks.tracked_row (h : Locks s) (hrow : s.withdrawals.lookup id = some wr)
    (hsigned : wr.state = .signed) : ∀ o ∈ wr.reservedOutpoints, lockOf s o ≠ none :=
  fun o ho => h.tracked id o ((holds_self hrow).mpr ⟨hsigned, ho⟩)

/-- What an operation on `id` can do to the locks: nothing, nothing while `id` has reserved
no outputs, take the outputs of `id` out of the lock, or lock outputs for `id`. -/
inductive LockStep (s s' : Store) (id : UUID) : Prop
  | untouched : s'.withdrawals = s.withdrawals → s'.utxos = s.utxos → LockStep s s' id
  | idle {wr' : WithdrawalRequest} : RowSet s s' id wr' → wr'.state ≠ .signed →
    (∀ o, lockOf s' o = lockOf s o) → (∀ o, ¬ Holds s id o) → LockStep s s' id
  | settled {wr wr' : WithdrawalRequest} {lock : UTXOLockState} : RowSet s s' id wr' →
    s.withdrawals.lookup id = some wr → wr'.state ≠ .signed → lock ≠ .locked →
    (wr'.state = .failed → lock = .free) → wr'.reservedOutpoints = wr.reservedOutpoints →
    (∀ o, lockOf s' o = if o ∈ wr.reservedOutpoints then some lock else lockOf s o) → LockStep s s' id
  | reserved {wr' : WithdrawalRequest} : RowSet s s' id wr' → wr'.state = .signed →
    (∀ o, ¬ Holds s id o) →
    (∀ o, lockOf s' o = if o ∈ wr'.reservedOutpoints then some .locked else lockOf s o) →
    LockStep s s' id

theorem Outcome.lockStep (h : Outcome s op obs s') (hok : KeepsLocks s op) (hi : Locks s) :
    LockStep s s' op.id := by
  cases h with
  | refused => exact .untouched rfl rfl
  | @created id req state reason decisionID hcreated hstate =>
    refine .idle ((created_rowSet hcreated).state _ _ _ _) ?_ (fun o => lockOf_congr (by simp) o) ?_
    · rcases hstate with rfl | rfl <;> simp [Store.rowWithState]
    · rintro o ⟨wr, hrow, -⟩
      rw [Op.id, created_absent hcreated] at hrow
      cases hrow
  | unfunded => exact .untouched (by simp) (by simp)
  | @dropped id wr w n ops wr₁ obs s₁ hrow hwl hw hres =>
    have hidle : wr.state ≠ .signed := by simp [hwl]
    refine .idle ((hres.rowSet hrow).released _ _ _) ?_ hres.released_lockOf (not_holds hrow hidle)
    rwa [hres.fields.1]
  | @unsigned id wr w n ops wr₁ obs s₁ reason hrow hwl hw hres =>
    refine .idle (((hres.rowSet hrow).released _ _ _).state _ _ _ _) (by simp [Store.rowWithState])
      ?_ (not_holds hrow (by simp [hwl]))
    intro o
    rw [stated_lockOf, hres.released_lockOf]
  | @signed id wr w n ops wr₁ obs s₁ txBytes hrow hwl hw hres =>
    have hset := (hres.rowSet hrow).update (fun w => { w with signedTxBytes := txBytes })
    refine .reserved (hset.state .signed "" "" "") rfl (not_holds hrow (by simp [hwl])) ?_
    intro o
    have hops : wr₁.reservedOutpoints = ops := hres.outpoints ((hi.rows _ _ hrow).plain w hw)
    rw [stated_lockOf]
    simp only [Store.rowWithState, hops]
    rw [← (hres.lockOf o).1]
    exact lockOf_congr (updateWithdrawal_utxos _ _ _) o
  | @rejected id wr w hrow hsigned hw =>
    refine .settled (((RowSet.refl hrow).released _ _ _).state _ _ _ _) hrow (by simp [Store.rowWithState])
      (by simp : UTXOLockState.free ≠ .locked) (fun _ => rfl) rfl (fun o => ?_)
    rw [stated_lockOf, released_lockOf (hi.tracked_row hrow hsigned)]
  | @accepted id wr w txHash hrow hsigned hw =>
    refine .settled (((RowSet.refl hrow).committed _ _ _).state _ _ _ _) hrow (by simp [Store.rowWithState])
      (by simp : UTXOLockState.spent ≠ .locked) (fun h => by cases h) rfl (fun o => ?_)
    rw [stated_lockOf, committed_lockOf (hi.tracked_row hrow hsigned) ((hi.rows _ _ hrow).plain w hw)]
  | confirmed hrow hbroadcast =>
    exact .idle ((RowSet.refl hrow).state _ _ _ _) (by simp [Store.rowWithState])
      (stated_lockOf _ _ _ _ _ _) (not_holds hrow (by simp [hbroadcast]))
  | @failed id wr w reason hrow hw =>
    refine .idle (((RowSet.refl hrow).released _ _ _).state _ _ _ _) (by simp [Store.rowWithState])
      ?_ (fun o => hok.2 id reason o rfl)
    intro o
    rw [stated_lockOf, released_lockOf (by simp)]
    simp
  | restored => exact absurd rfl (hok.1 _ _)
  | demoted => exact absurd rfl (hok.1 _ _)

lemma Locks.set (h : Locks s) (hrows : SoundRows s') (hset : RowSet s s' id wr')
    (hdomain : ∀ o, lockOf s o ≠ none → lockOf s' o ≠ none)
    (htracked : ∀ o, Holds s' id o → lockOf s' o ≠ none)
    (hlocked : ∀ o, lockOf s' o = some .locked →
      Holds s' id o ∨ lockOf s o = some .locked ∧ ¬ Holds s id o) : Locks s' := by
  refine ⟨hrows, ?_, ?_⟩
  · intro j o hheld
    by_cases hj : j = id
    · subst hj
      exact htracked o hheld
    · exact hdomain o (h.tracked j o ((holds_other hset hj).mp hheld))
  · intro o ho
    rcases hlocked o ho with hheld | ⟨hlock, hnot⟩
    · exact ⟨id, hheld⟩
    · obtain ⟨j, hheld⟩ := h.locked o hlock
      have hj : j ≠ id := by
        rintro rfl
        exact hnot hheld
      exact ⟨j, (holds_other hset hj).mpr hheld⟩

theorem LockStep.locks (h : LockStep s s' id) (hrows : SoundRows s') (hi : Locks s) : Locks s' := by
  cases h with
  | untouched hsame hutxos => exact hi.congr hrows hsame hutxos
  | idle hset hstate hlock hnot =>
    refine hi.set hrows hset (fun o ho => by rwa [hlock]) ?_ ?_
    · exact fun o hheld => absurd hheld (not_holds hset.row hstate o)
    · intro o ho
      rw [hlock] at ho
      exact .inr ⟨ho, hnot o⟩
  | @settled wr wr' lock hset hrow hstate hne _ _ hlock =>
    refine hi.set hrows hset ?_ ?_ ?_
    · intro o ho
      rw [hlock]
      split
      · simp
      · exact ho
    · exact fun o hheld => absurd hheld (not_holds hset.row hstate o)
    · intro o ho
      rw [hlock] at ho
      split at ho
      · exact absurd (Option.some.inj ho) hne
      · rename_i hmem
        exact .inr ⟨ho, fun hheld => hmem ((holds_self hrow).mp hheld).2⟩
  | reserved hset hsigned hnot hlock =>
    refine hi.set hrows hset ?_ ?_ ?_
    · intro o ho
      rw [hlock]
      split
      · simp
      · exact ho
    · intro o hheld
      rw [hlock, if_pos ((holds_self hset.row).mp hheld).2]
      simp
    · intro o ho
      rw [hlock] at ho
      split at ho
      · rename_i hmem
        exact .inl ((holds_self hset.row).mpr ⟨hsigned, hmem⟩)
      · exact .inr ⟨ho, hnot o⟩

theorem LockStep.failed_free (h : LockStep s s' id) (hrow' : s'.withdrawals.lookup id = some wr')
    (hfailed : wr'.state = .failed) {o : String} (ho : o ∈ wr'.reservedOutpoints)
    (hreserved : lockOf s o = some .free ∨ Holds s id o) : lockOf s' o = some .free := by
  cases h with
  | untouched hsame hutxos =>
    rw [lockOf_congr hutxos]
    rw [hsame] at hrow'
    exact hreserved.resolve_right (not_holds hrow' (by simp [hfailed]) o)
  | idle hset _ hlock hnot =>
    rw [hlock]
    exact hreserved.resolve_right (hnot o)
  | settled hset _ _ _ hfree hops hlock =>
    obtain rfl := Option.some.inj (hset.row.symm.trans hrow')
    rw [hlock, if_pos (hops ▸ ho), hfree hfailed]
  | reserved hset hsigned _ _ =>
    obtain rfl := Option.some.inj (hset.row.symm.trans hrow')
    rw [hsigned] at hfailed
    cases hfailed

end Steps

lemma initial_locks {wallets : List Wallet} {utxos : List UTXO}
    (hfree : ∀ u ∈ utxos, u.lockState = .free) : Locks (Store.initial wallets utxos) := by
  refine ⟨initial_soundRows wallets utxos, ?_, ?_⟩
  · rintro id o ⟨wr, hrow, -⟩
    cases hrow
  · intro o ho
    obtain ⟨u, hu, hlocked⟩ := Option.map_eq_some_iff.mp ho
    rw [hfree u (initial_utxos hu).1] at hlocked
    cases hlocked

/-- Every locked output is reserved by a signed withdrawal, and an operation that ends its
withdrawal as failed frees what the withdrawal had reserved, in every run without a `Fail`
call on a signed withdrawal that has outputs. -/
theorem no_leaked_locks {svc : Service} {wallets : List Wallet} {utxos : List UTXO}
    {log : List (Entry Op Call Answer (Except Error Unit))} {s : Store}
    (hfree : ∀ u ∈ utxos, u.lockState = .free)
    (h : Runs (Op.proc svc) (memStep svc.lib) KeepsLocks (Store.initial wallets utxos) log s) :
    (∀ o, lockOf s o = some .locked → ∃ id, Holds s id o) ∧
      ∀ op tr a s', KeepsLocks s op → Exec (memStep svc.lib) (op.proc svc) s tr a s' →
        ∀ wr', s'.withdrawals.lookup op.id = some wr' → wr'.state = .failed →
          ∀ o ∈ wr'.reservedOutpoints, lockOf s o = some .free ∨ Holds s op.id o →
            lockOf s' o = some .free := by
  have hi : Locks s := by
    refine Runs.invariant (I := fun _ s => Locks s) (initial_locks hfree) ?_ h
    intro log s op tr a s' hi hok he
    have hout := op_outcome op tr a s' he
    exact (hout.lockStep hok hi).locks (hout.soundRows hi.rows) hi
  refine ⟨hi.locked, ?_⟩
  intro op tr a s' hok he wr' hrow' hfailed o ho
  exact ((op_outcome op tr a s' he).lockStep hok hi).failed_free hrow' hfailed ho

def lockedRun : List (Entry Op Call Answer (Except Error Unit)) × Store :=
  referenceRun agree (Store.initial [btcWallet] [btcOutput outpointA "1000"])
    [.create (UUID.ofByte 10) (btcTransfer "1000"), .constructAndSign (UUID.ofByte 10)]

theorem no_leaked_locks_signed :
    lockOf lockedRun.2 outpointA = some .locked ∧ ∃ id, Holds lockedRun.2 id outpointA := by
  have hlocked : lockOf lockedRun.2 outpointA = some .locked := by decide +kernel
  have hrun := referenceRun_runs agree KeepsLocks
    (Store.initial [btcWallet] [btcOutput outpointA "1000"])
    [.create (UUID.ofByte 10) (btcTransfer "1000"), .constructAndSign (UUID.ofByte 10)]
    (by simp [KeepsLocks])
  exact ⟨hlocked, (no_leaked_locks (by simp [btcOutput]) hrun).1 outpointA hlocked⟩

def leakedRun : List (Entry Op Call Answer (Except Error Unit)) × Store :=
  referenceRun agree (Store.initial [btcWallet] [btcOutput outpointA "1000"])
    [.create (UUID.ofByte 10) (btcTransfer "1000"), .constructAndSign (UUID.ofByte 10),
      .fail (UUID.ofByte 10) "stuck"]

theorem fail_leaks_lock :
    Runs (Op.proc referenceService) (memStep referenceService.lib) NoReorg
        (Store.initial [btcWallet] [btcOutput outpointA "1000"]) leakedRun.1 leakedRun.2 ∧
      claimOf leakedRun.2 (UUID.ofByte 10) = some (btcWallet.id, .failed, none, [outpointA]) ∧
      lockOf leakedRun.2 outpointA = some .locked ∧ ∀ id, ¬ Holds leakedRun.2 id outpointA := by
  refine ⟨referenceRun_runs _ _ _ _ (by simp [NoReorg]), by decide +kernel, by decide +kernel, ?_⟩
  have hnone : ∀ e ∈ leakedRun.2.withdrawals.entries, e.2.state ≠ .signed := by decide +kernel
  rintro id ⟨wr, hrow, hsigned, -⟩
  exact hnone _ (AList.mem_lookup_iff.mp hrow) hsigned

end WalletManager.Proofs
