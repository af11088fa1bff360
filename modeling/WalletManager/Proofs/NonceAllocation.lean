import WalletManager.Allocation.Counter
import WalletManager.Proofs.BroadcastSafety
import WalletManager.Proofs.Keys

/-!
# The nonce service as a counter

A run of the nonce service is, on each key, a history of acts on a counter: a reservation takes a
nonce, a commit keeps it and a rollback gives it back. The row of the key refines the account of
that history: `pending_nonce` is the counter and `broadcast_nonce` the bound of the kept nonces.
-/

namespace WalletManager.Proofs

open Interaction Allocation

abbrev NonceEntry := Entry NonceOp Call Answer (Except Error (Option Int))

def NonceEntry.act (e : NonceEntry) : Option Act :=
  match e.op, e.result with
  | .reserve _ _, .ok (some n) => some (.take n)
  | .reserve _ _, _ => none
  | .commit _ _ n, _ => some (.keep n)
  | .rollback _ _ n, _ => some (.give n)

def nonceActs (key : String) (log : List NonceEntry) : List Act :=
  log.filterMap (fun e => if e.op.key = key then e.act else none)

inductive NonceOutcome (s : Store) :
    NonceOp → List Obs → Except Error (Option Int) → Store → Prop
  | refused {walletID : UUID} {chain : String} {err : Error} :
    NonceOutcome s (.reserve walletID chain) [] (.error err) s
  | reserved {walletID : UUID} {chain : String} :
    NonceOutcome s (.reserve walletID chain)
      [.reserved (nonceKey walletID chain) (s.pendingNonce (nonceKey walletID chain))]
      (.ok (some (s.pendingNonce (nonceKey walletID chain)))) (s.incrementPendingNonce walletID chain).2
  | committed {walletID : UUID} {chain : String} {n : Int} :
    NonceOutcome s (.commit walletID chain n) [] (.ok none)
      (s.advanceBroadcastNonce walletID chain n).2
  | rolledBack {walletID : UUID} {chain : String} {n : Int} :
    NonceOutcome s (.rollback walletID chain n) [] (.ok none)
      (s.rollbackPendingNonce walletID chain n).2

section Step

variable {lib : Lib} {s s' : Store} {op : NonceOp} {obs : List Obs}
  {r : Except Error (Option Int)} {key : String}

theorem nonceOp_outcome (op : NonceOp) :
    Saga lib op.proc s (fun l r s' => NonceOutcome s op l r s') := by
  cases op with
  | reserve walletID chain =>
    refine Ends.bind (reserveNonceLoop_saga walletID chain _ 50) ?_
    rintro l r s₁ (⟨err, rfl, rfl, rfl⟩ | ⟨rfl, rfl, rfl⟩)
    · exact ends_ret.mpr .refused
    · exact ends_ret.mpr .reserved
  | commit walletID chain n =>
    apply ends_store
    exact ends_ret.mpr .committed
  | rollback walletID chain n =>
    refine Ends.bind (rollbackNonce_saga walletID chain n) ?_
    rintro l r s₁ ⟨rfl, rfl, rfl⟩
    exact ends_ret.mpr .rolledBack

lemma NonceOutcome.returned {n : Int} (h : NonceOutcome s op obs (.ok (some n)) s') :
    n = s.pendingNonce op.key := by
  cases h
  rfl

lemma nonceActs_concat (log : List NonceEntry) (e : NonceEntry) :
    nonceActs key (log ++ [e]) =
      nonceActs key log ++ (if e.op.key = key then e.act.toList else []) := by
  unfold nonceActs
  rw [List.filterMap_append]
  congr 1
  by_cases he : e.op.key = key
  · cases hact : e.act <;> simp [he, hact]
  · simp [he]

lemma nonceActs_append (log log' : List NonceEntry) :
    nonceActs key (log ++ log') = nonceActs key log ++ nonceActs key log' :=
  List.filterMap_append

lemma nonceActs_split {log : List NonceEntry} {pre post : List Act} {a : Act}
    (h : nonceActs key log = pre ++ a :: post) :
    ∃ log₁ e log₂, log = log₁ ++ e :: log₂ ∧ nonceActs key log₁ = pre ∧ e.op.key = key ∧
      e.act = some a := by
  obtain ⟨log₁, rest, rfl, hpre, hrest⟩ := List.filterMap_eq_append_iff.mp h
  obtain ⟨skipped, e, log₂, rfl, hskip, he, -⟩ := List.filterMap_eq_cons_iff.mp hrest
  refine ⟨log₁ ++ skipped, e, log₂, by rw [List.append_assoc], ?_, ?_⟩
  · rw [nonceActs_append]
    have hnil : nonceActs key skipped = [] := List.filterMap_eq_nil_iff.mpr hskip
    rw [hnil, List.append_nil]
    exact hpre
  · split at he
    · rename_i hkey
      exact ⟨hkey, he⟩
    · cases he

structure Accounts (b : Book) (s : Store) (key : String) : Prop where
  sound : b.Sound
  pending : s.pendingNonce key = b.next
  broadcast : broadcastNonce s key = b.high

variable {b : Book}

lemma Accounts.congr (h : Accounts b s key) (hpending : s'.pendingNonce key = s.pendingNonce key)
    (hbroadcast : broadcastNonce s' key = broadcastNonce s key) : Accounts b s' key :=
  ⟨h.sound, hpending.trans h.pending, hbroadcast.trans h.broadcast⟩

lemma Accounts.other (h : Accounts b s key) (ho : NonceOutcome s op obs r s') (hkey : op.key ≠ key) :
    Accounts b s' key := by
  cases ho with
  | refused => exact h
  | reserved =>
    apply h.congr
    · rw [incrementPendingNonce_pendingNonce]
      exact if_neg (Ne.symm hkey)
    · exact incrementPendingNonce_broadcastNonce _ _ _ _
  | committed =>
    apply h.congr
    · exact advanceBroadcastNonce_pendingNonce _ _ _ _ _
    · rw [advanceBroadcastNonce_broadcastNonce]
      exact if_neg (Ne.symm hkey)
  | rolledBack =>
    apply h.congr
    · rw [rollbackPendingNonce_row, if_neg]
      rintro ⟨hk, -⟩
      exact hkey hk.symm
    · exact rollbackPendingNonce_broadcastNonce _ _ _ _ _

lemma Accounts.give (h : Accounts b s key) {walletID : UUID} {chain : String} {n : Int}
    (hn : n ∈ b.held) (hkey : nonceKey walletID chain = key) :
    (s.rollbackPendingNonce walletID chain n).2.pendingNonce key = (b.post (.give n)).next := by
  have hnonneg := ((h.sound.mem_iff n).mp (Book.mem_all.mpr (.inl hn))).1
  rw [rollbackPendingNonce_pendingNonce _ _ _ _ _ hnonneg, h.pending, Book.post]
  by_cases hlast : b.next = n + 1
  · rw [if_pos ⟨hkey.symm, hlast⟩, if_pos hlast]
  · rw [if_neg (fun hk => hlast hk.2), if_neg hlast]

theorem Accounts.step {acts : List Act} (h : Accounts (book acts) s key)
    (ho : NonceOutcome s op obs r s') (hkey : op.key = key) {tr : Trace}
    (howned : Owned (acts ++ (NonceEntry.act ⟨op, tr, r⟩).toList)) :
    Accounts (book (acts ++ (NonceEntry.act ⟨op, tr, r⟩).toList)) s' key := by
  cases ho with
  | refused =>
    change Accounts (book (acts ++ [])) s key
    rwa [List.append_nil]
  | @reserved walletID chain =>
    have hnext : s.pendingNonce (nonceKey walletID chain) = (book acts).next := by
      rw [← h.pending, ← hkey]
      rfl
    change Accounts (book (acts ++ [.take (s.pendingNonce (nonceKey walletID chain))])) _ key
    rw [hnext, book_concat]
    refine ⟨h.sound.post trivial ?_, ?_, ?_⟩
    · rintro n ⟨⟩
      rfl
    · rw [incrementPendingNonce_pendingNonce, h.pending]
      exact if_pos hkey.symm
    · exact (incrementPendingNonce_broadcastNonce _ _ _ _).trans h.broadcast
  | @committed walletID chain n =>
    change Accounts (book (acts ++ [.keep n])) _ key
    rw [book_concat]
    refine ⟨h.sound.post howned.last ?_, ?_, ?_⟩
    · rintro m ⟨⟩
    · exact (advanceBroadcastNonce_pendingNonce _ _ _ _ _).trans h.pending
    · rw [advanceBroadcastNonce_broadcastNonce, h.broadcast]
      exact if_pos hkey.symm
  | @rolledBack walletID chain n =>
    change Accounts (book (acts ++ [.give n])) _ key
    rw [book_concat]
    refine ⟨h.sound.post howned.last ?_, h.give howned.last hkey, ?_⟩
    · rintro m ⟨⟩
    · rw [rollbackPendingNonce_broadcastNonce, h.broadcast, Book.post]
      split <;> rfl

end Step

section Runs

variable {lib : Lib} {s₀ s : Store} {log : List NonceEntry} {key : String}

abbrev NonceRuns (lib : Lib) : Store → List NonceEntry → Store → Prop :=
  Runs NonceOp.proc (memStep lib) (fun _ _ => True)

theorem accounts_runs (h₀ : key ∉ s₀.nonces) (h : NonceRuns lib s₀ log s)
    (howned : Owned (nonceActs key log)) : Accounts (book (nonceActs key log)) s key := by
  revert howned
  refine Runs.invariant (I := fun log s => Owned (nonceActs key log) →
    Accounts (book (nonceActs key log)) s key) ?_ ?_ h
  · intro _
    refine ⟨Book.sound_empty, pendingNonce_of_notMem h₀, ?_⟩
    unfold broadcastNonce
    rw [AList.lookup_eq_none.mpr h₀]
    rfl
  · intro log s op tr r s' ih _ he howned
    rw [nonceActs_concat] at howned ⊢
    have hs := ih howned.append_left
    have ho := nonceOp_outcome op tr r s' he
    by_cases hkey : op.key = key
    · rw [if_pos hkey] at howned ⊢
      exact hs.step ho hkey howned
    · rw [if_neg hkey, List.append_nil]
      exact hs.other ho hkey

/-- Where each reserved nonce is committed once, rolled back once or neither, and nothing else is,
the held and the committed nonces are distinct and below the counter, no reservation returns one
of them, and `broadcast_nonce` is right above the largest committed one. -/
theorem reserved_nonces_exclusive (walletID : UUID) (chain : String)
    (h₀ : nonceKey walletID chain ∉ s₀.nonces) (h : NonceRuns lib s₀ log s)
    (howned : Owned (nonceActs (nonceKey walletID chain) log)) :
    let live := fun log => (book (nonceActs (nonceKey walletID chain) log)).held ++
      (book (nonceActs (nonceKey walletID chain) log)).kept
    let committed := (book (nonceActs (nonceKey walletID chain) log)).kept
    (live log).Nodup ∧ (∀ n ∈ live log, n < s.pendingNonce (nonceKey walletID chain)) ∧
      (∀ pre tr n post, log = pre ++ ⟨.reserve walletID chain, tr, .ok (some n)⟩ :: post →
        n ∉ live pre) ∧
      (committed = [] ∧ broadcastNonce s (nonceKey walletID chain) = 0 ∨
        ∃ m ∈ committed, (∀ n ∈ committed, n ≤ m) ∧
          broadcastNonce s (nonceKey walletID chain) = m + 1) ∧
      broadcastNonce s (nonceKey walletID chain) ≤ s.pendingNonce (nonceKey walletID chain) := by
  dsimp only
  have hacc := accounts_runs h₀ h howned
  have hbelow : ∀ n ∈ (book (nonceActs (nonceKey walletID chain) log)).held ++
      (book (nonceActs (nonceKey walletID chain) log)).kept,
      n < (book (nonceActs (nonceKey walletID chain) log)).next := fun n hn =>
    ((hacc.sound.mem_iff n).mp (List.mem_append_left _ hn)).2
  refine ⟨(List.nodup_append.mp hacc.sound.nodup).1, ?_, ?_, ?_, ?_⟩
  · rw [hacc.pending]
    exact hbelow
  · rintro pre tr n post rfl hmem
    -- the nonce is the counter of the state before, and the live ones are below it
    obtain ⟨s₁, s₂, hpre, -, he, -⟩ := Runs.split h
    rw [nonceActs_append] at howned
    have hacc₁ := accounts_runs h₀ hpre howned.append_left
    have hlt := ((hacc₁.sound.mem_iff n).mp (List.mem_append_left _ hmem)).2
    have hn := (nonceOp_outcome (.reserve walletID chain) tr _ s₂ he).returned
    rw [hn, NonceOp.key, hacc₁.pending] at hlt
    exact lt_irrefl _ hlt
  · rw [hacc.broadcast]
    exact hacc.sound.high
  · rw [hacc.broadcast, hacc.pending]
    rcases hacc.sound.high with ⟨-, hzero⟩ | ⟨m, hm, -, hhigh⟩
    · rw [hzero]
      exact hacc.sound.nonneg
    · rw [hhigh]
      exact hbelow m (List.mem_append_right _ hm)

def nonceRun (ops : List NonceOp) : List NonceEntry × Store :=
  runAll NonceOp.proc (answering agree) {} ops

lemma nonceRun_runs (ops : List NonceOp) :
    NonceRuns referenceLib {} (nonceRun ops).1 (nonceRun ops).2 :=
  runs_runAll (answering_memStep agree) ops (by simp)

def mixedNonces := nonceRun [.reserve evmWallet.id "ethereum", .reserve evmWallet.id "ethereum",
  .rollback evmWallet.id "ethereum" 1, .reserve evmWallet.id "ethereum",
  .reserve evmWallet.id "ethereum", .commit evmWallet.id "ethereum" 0,
  .rollback evmWallet.id "ethereum" 1]

theorem reserved_nonces_exclusive_mixed :
    NonceRuns referenceLib {} mixedNonces.1 mixedNonces.2 ∧
      broadcastNonce mixedNonces.2 (nonceKey evmWallet.id "ethereum") = 1 ∧
      mixedNonces.2.pendingNonce (nonceKey evmWallet.id "ethereum") = 3 ∧
      ((book (nonceActs (nonceKey evmWallet.id "ethereum") mixedNonces.1)).held ++
        (book (nonceActs (nonceKey evmWallet.id "ethereum") mixedNonces.1)).kept).Nodup := by
  obtain ⟨howned, hbroadcast, hpending⟩ :
      Owned (nonceActs (nonceKey evmWallet.id "ethereum") mixedNonces.1) ∧
      broadcastNonce mixedNonces.2 (nonceKey evmWallet.id "ethereum") = 1 ∧
      mixedNonces.2.pendingNonce (nonceKey evmWallet.id "ethereum") = 3 := by
    decide +kernel
  have hrun : NonceRuns referenceLib {} mixedNonces.1 mixedNonces.2 := nonceRun_runs _
  exact ⟨hrun, hbroadcast, hpending,
    (reserved_nonces_exclusive evmWallet.id "ethereum" (AList.notMem_empty _) hrun howned).1⟩

/-- A rollback of the nonce was made while the counter stood above the next nonce. -/
def RolledBackBelow (lib : Lib) (s₀ : Store) (walletID : UUID) (chain : String)
    (log : List NonceEntry) (n : Int) : Prop :=
  ∃ pre tr r post s₁, log = pre ++ ⟨.rollback walletID chain n, tr, r⟩ :: post ∧
    NonceRuns lib s₀ pre s₁ ∧ n + 1 < s₁.pendingNonce (nonceKey walletID chain)

lemma act_give {e : NonceEntry} {n : Int} (h : e.act = some (.give n)) {walletID : UUID} {chain : String}
    (hkey : e.op.key = nonceKey walletID chain) :
    ∃ tr r, e = ⟨.rollback walletID chain n, tr, r⟩ := by
  obtain ⟨op, tr, r⟩ := e
  refine ⟨tr, r, ?_⟩
  cases op with
  | reserve => rcases r with err | (_ | m) <;> cases h
  | commit => cases h
  | rollback walletID' chain' m =>
    cases h
    obtain ⟨rfl, rfl⟩ := key_inj hkey
    rfl

theorem mem_lost_iff (walletID : UUID) (chain : String) (h₀ : nonceKey walletID chain ∉ s₀.nonces)
    (h : NonceRuns lib s₀ log s) (howned : Owned (nonceActs (nonceKey walletID chain) log)) (n : Int) :
    n ∈ (book (nonceActs (nonceKey walletID chain) log)).lost ↔
      RolledBackBelow lib s₀ walletID chain log n := by
  rw [mem_lost]
  constructor
  · rintro ⟨pre, post, hacts, hne⟩
    have hheld : n ∈ (book pre).held := howned pre _ post hacts
    obtain ⟨log₁, e, log₂, rfl, rfl, hkey, hact⟩ := nonceActs_split hacts
    obtain ⟨tr, r, rfl⟩ := act_give hact hkey
    obtain ⟨s₁, s₂, hpre, -⟩ := Runs.split h
    rw [nonceActs_append] at howned
    have hacc := accounts_runs h₀ hpre howned.append_left
    have hlt := ((hacc.sound.mem_iff n).mp (Book.mem_all.mpr (.inl hheld))).2
    refine ⟨log₁, tr, r, log₂, s₁, rfl, hpre, ?_⟩
    rw [hacc.pending]
    omega
  · rintro ⟨pre, tr, r, post, s₁, rfl, hpre, hlt⟩
    rw [nonceActs_append] at howned
    have hacc := accounts_runs h₀ hpre howned.append_left
    refine ⟨nonceActs (nonceKey walletID chain) pre, nonceActs (nonceKey walletID chain) post, ?_, ?_⟩
    · rw [nonceActs_append]
      congr 1
      exact List.filterMap_cons_some (if_pos rfl)
    · rw [← hacc.pending]
      omega

/-- Once every reserved nonce has been committed or rolled back, the nonces below the counter are
the committed ones and those that were rolled back below a higher one; all of them are committed
exactly if there was no such rollback. -/
theorem nonces_below_pending (walletID : UUID) (chain : String)
    (h₀ : nonceKey walletID chain ∉ s₀.nonces) (h : NonceRuns lib s₀ log s)
    (howned : Owned (nonceActs (nonceKey walletID chain) log))
    (hdone : (book (nonceActs (nonceKey walletID chain) log)).held = []) :
    let committed := (book (nonceActs (nonceKey walletID chain) log)).kept
    (∀ n, 0 ≤ n ∧ n < s.pendingNonce (nonceKey walletID chain) ↔
      n ∈ committed ∨ RolledBackBelow lib s₀ walletID chain log n) ∧
    ((∀ n, 0 ≤ n → n < s.pendingNonce (nonceKey walletID chain) → n ∈ committed) ↔
      ∀ n, ¬ RolledBackBelow lib s₀ walletID chain log n) := by
  dsimp only
  have hacc := accounts_runs h₀ h howned
  have hbelow : ∀ n, 0 ≤ n ∧ n < s.pendingNonce (nonceKey walletID chain) ↔
      n ∈ (book (nonceActs (nonceKey walletID chain) log)).kept ∨
        n ∈ (book (nonceActs (nonceKey walletID chain) log)).lost := by
    intro n
    rw [hacc.pending, ← hacc.sound.mem_iff, Book.mem_all, hdone]
    simp only [List.not_mem_nil, false_or]
  have hdisj := (List.nodup_append.mp hacc.sound.nodup).2.2
  simp only [← mem_lost_iff walletID chain h₀ h howned]
  refine ⟨hbelow, ?_⟩
  constructor
  · intro hall n hlost
    have hn := (hbelow n).mpr (.inr hlost)
    exact hdisj n (List.mem_append_right _ (hall n hn.1 hn.2)) n hlost rfl
  · intro hnone n hnonneg hlt
    exact ((hbelow n).mp ⟨hnonneg, hlt⟩).resolve_right (hnone n)

def returnedNonces := nonceRun [.reserve evmWallet.id "ethereum", .reserve evmWallet.id "ethereum",
  .commit evmWallet.id "ethereum" 0, .rollback evmWallet.id "ethereum" 1]

theorem nonces_below_pending_returned :
    NonceRuns referenceLib {} returnedNonces.1 returnedNonces.2 ∧
      (book (nonceActs (nonceKey evmWallet.id "ethereum") returnedNonces.1)).held = [] ∧
      ∀ n, 0 ≤ n ∧ n < returnedNonces.2.pendingNonce (nonceKey evmWallet.id "ethereum") ↔
        n ∈ (book (nonceActs (nonceKey evmWallet.id "ethereum") returnedNonces.1)).kept ∨
          RolledBackBelow referenceLib {} evmWallet.id "ethereum" returnedNonces.1 n := by
  obtain ⟨howned, hdone⟩ : Owned (nonceActs (nonceKey evmWallet.id "ethereum") returnedNonces.1) ∧
      (book (nonceActs (nonceKey evmWallet.id "ethereum") returnedNonces.1)).held = [] := by
    decide +kernel
  have hrun : NonceRuns referenceLib {} returnedNonces.1 returnedNonces.2 := nonceRun_runs _
  exact ⟨hrun, hdone,
    (nonces_below_pending evmWallet.id "ethereum" (AList.notMem_empty _) hrun howned hdone).1⟩

def strandedNonces := nonceRun [.reserve evmWallet.id "ethereum", .reserve evmWallet.id "ethereum",
  .rollback evmWallet.id "ethereum" 0, .rollback evmWallet.id "ethereum" 1]

theorem rollbacks_leave_gap :
    NonceRuns referenceLib {} strandedNonces.1 strandedNonces.2 ∧
      Owned (nonceActs (nonceKey evmWallet.id "ethereum") strandedNonces.1) ∧
      (book (nonceActs (nonceKey evmWallet.id "ethereum") strandedNonces.1)).held = [] ∧
      (book (nonceActs (nonceKey evmWallet.id "ethereum") strandedNonces.1)).kept = [] ∧
      strandedNonces.2.pendingNonce (nonceKey evmWallet.id "ethereum") = 1 := by
  refine ⟨nonceRun_runs _, ?_⟩
  decide +kernel

end Runs

end WalletManager.Proofs
