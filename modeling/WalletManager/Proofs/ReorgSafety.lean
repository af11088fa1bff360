import WalletManager.Proofs.NonceSafety

/-!
# Reorg callbacks

`OnReorg` makes the listed outputs free whatever their lock state or owner, and it puts a confirmed
withdrawal back in flight, to be broadcast again; but no later call can do that.
-/

namespace WalletManager.Proofs

open Interaction Reservation

def inFlightOutpoints (s : Store) : UUID → Set String :=
  s.held WithdrawalState.isInFlight ownedOutpoints

/-- A reorg callback lists no output of a withdrawal in flight, and the outputs of a confirmed
withdrawal that it puts back in flight are not free, not listed and not held by another one. -/
def SafeReorgs (s : Store) : Op → Prop
  | .onReorg id ops => (∀ op ∈ ops, ∀ j, op ∉ inFlightOutpoints s j) ∧
    ∀ wr, s.withdrawals.lookup id = some wr → wr.state = .confirmed →
      ∀ op ∈ wr.reservedOutpoints, op ∉ ops ∧ op ∉ s.freeOutpoints ∧ ∀ j, op ∉ inFlightOutpoints s j
  | _ => True

section Step

variable {s s' : Store} {obs : List Obs} {op : Op}

lemma restored_exclusive {ops : List String} (hx : Exclusive (inFlightOutpoints s) s.freeOutpoints)
    (hlisted : ∀ op ∈ ops, ∀ j, op ∉ inFlightOutpoints s j) :
    Exclusive (inFlightOutpoints s) (s.restoreUTXOs ops).2.freeOutpoints := by
  refine hx.give (fun j => le_rfl) (restoreUTXOs_freeOutpoints s ops) ?_
  intro j
  rw [Set.disjoint_left]
  exact fun op hheld hop => hlisted op hop j hheld

lemma RowSet.exclusive_return {s₁ : Store} {id : UUID} {wr' : WithdrawalRequest}
    (hset : RowSet s s' id wr') (hx : Exclusive (inFlightOutpoints s) s₁.freeOutpoints)
    (hutxos : s'.utxos = s₁.utxos) (hnew : ∀ op ∈ wr'.reservedOutpoints, op ∉ s₁.freeOutpoints ∧
      ∀ j, op ∉ inFlightOutpoints s j) : Exclusive (inFlightOutpoints s') s'.freeOutpoints := by
  have hothers : ∀ j, j ≠ id → inFlightOutpoints s' j = inFlightOutpoints s j :=
    fun j hj => Store.held_congr (hset.others j hj)
  have hid : inFlightOutpoints s' id ⊆ ownedOutpoints wr' := by
    unfold inFlightOutpoints
    rw [Store.held_of_row hset.row]
    exact fun op hop => hop.2
  have hdisj : ∀ j, j ≠ id → Disjoint (inFlightOutpoints s' id) (inFlightOutpoints s' j) := by
    intro j hj
    rw [hothers j hj, Set.disjoint_left]
    exact fun op hop => (hnew op (hid hop)).2 j
  rw [freeOutpoints_congr hutxos]
  constructor
  · intro i j hij
    by_cases hi : i = id
    · subst hi
      exact hdisj j hij.symm
    · by_cases hj : j = id
      · subst hj
        exact (hdisj i hij).symm
      · rw [hothers i hi, hothers j hj]
        exact hx.disjoint i j hij
  · intro i
    by_cases hi : i = id
    · subst hi
      rw [Set.disjoint_left]
      exact fun op hop => (hnew op (hid hop)).1
    · rw [hothers i hi]
      exact hx.notFree i

theorem inFlight_step (h : Outcome s op obs s') (hok : SafeReorgs s op) (hrows : SoundRows s)
    (hx : Exclusive (inFlightOutpoints s) s.freeOutpoints) :
    Exclusive (inFlightOutpoints s') s'.freeOutpoints := by
  by_cases hop : ∃ id ops, op = .onReorg id ops
  · obtain ⟨id, ops, rfl⟩ := hop
    have hrestored := restored_exclusive hx hok.1
    cases h with
    | refused => exact hx
    | restored => exact hrestored
    | @demoted _ wr _ hrow hconfirmed =>
      have hset := ((RowSet.refl hrow).restored ops).state .broadcast "reorg" "" ""
      refine hset.exclusive_return hrestored (updateWithdrawalState_utxos _ _ _ _ _ _) ?_
      intro op hmem
      obtain ⟨hlisted, hfree, hheld⟩ := hok.2 wr hrow hconfirmed op hmem
      refine ⟨?_, hheld⟩
      intro hfree'
      rcases restoreUTXOs_freeOutpoints s ops hfree' with h | h
      · exact hfree h
      · exact hlisted h
  · refine outpoints_step liveness_isInFlight h ?_ hrows hx
    intro id ops heq
    exact hop ⟨id, ops, heq⟩

end Step

variable {svc : Service} {wallets : List Wallet} {utxos : List UTXO} {s : Store}
  {log : List (Entry Op Call Answer (Except Error Unit))}

/-- No output is reserved by two withdrawals in flight, in every run with safe callbacks. -/
theorem in_flight_outpoints_disjoint (h : Runs (Op.proc svc) (memStep svc.lib) SafeReorgs
      (Store.initial wallets utxos) log s)
    {i j : UUID} (hij : i ≠ j) {a b : WithdrawalRequest}
    (ha : s.withdrawals.lookup i = some a) (hb : s.withdrawals.lookup j = some b)
    (hsa : a.state = .signed ∨ a.state = .broadcast) (hsb : b.state = .signed ∨ b.state = .broadcast) :
    ∀ op ∈ a.reservedOutpoints, op ∉ b.reservedOutpoints := by
  have hinv : SoundRows s ∧ Exclusive (inFlightOutpoints s) s.freeOutpoints := by
    refine Runs.invariant
      (I := fun _ s => SoundRows s ∧ Exclusive (inFlightOutpoints s) s.freeOutpoints) ?_ ?_ h
    · exact ⟨initial_soundRows wallets utxos, initial_exclusive _ _ _ _ _⟩
    · intro log s op tr a s' hi hok he
      have hout := op_outcome op tr a s' he
      exact ⟨hout.soundRows hi.1, inFlight_step hout hok hi.1 hi.2⟩
  have hflight : ∀ {wr : WithdrawalRequest}, wr.state = .signed ∨ wr.state = .broadcast →
      wr.state.isInFlight := by
    rintro wr (h | h) <;> rw [h] <;> rfl
  intro op hopa hopb
  exact Set.disjoint_left.mp (hinv.2.disjoint i j hij) ⟨a, ha, hflight hsa, hopa⟩
    ⟨b, hb, hflight hsb, hopb⟩

lemma not_held_of_rows {live : WithdrawalState → Bool} {op : String}
    (h : ∀ e ∈ s.withdrawals.entries, op ∉ e.2.reservedOutpoints) (j : UUID) :
    op ∉ s.held live ownedOutpoints j := by
  rintro ⟨wr, hrow, -, hop⟩
  exact h ⟨j, wr⟩ (AList.mem_lookup_iff.mp hrow) hop

def unrelatedRun := referenceRun agree
  (Store.initial [btcWallet] [btcOutput outpointA "1000", btcOutput outpointB "900",
    { btcOutput "spent:0" "500" with lockState := .spent }])
  [.create (UUID.ofByte 10) (btcTransfer "1000"), .constructAndSign (UUID.ofByte 10),
    .create (UUID.ofByte 11) (btcTransfer "900"), .constructAndSign (UUID.ofByte 11)]

def unrelatedReorg := referenceStep agree unrelatedRun.2 (.onReorg (UUID.ofByte 10) ["spent:0"])

theorem in_flight_outpoints_disjoint_pair :
    ∃ a b, unrelatedReorg.2.2.withdrawals.lookup (UUID.ofByte 10) = some a ∧
      unrelatedReorg.2.2.withdrawals.lookup (UUID.ofByte 11) = some b ∧
      a.reservedOutpoints = [outpointA] ∧ ∀ op ∈ a.reservedOutpoints, op ∉ b.reservedOutpoints := by
  have hrun : Runs (Op.proc referenceService) (memStep referenceService.lib) SafeReorgs _
      unrelatedRun.1 unrelatedRun.2 := referenceRun_runs agree SafeReorgs _ _ (by simp [SafeReorgs])
  have hreorg : Exec (memStep referenceService.lib)
      ((Op.onReorg (UUID.ofByte 10) ["spent:0"]).proc referenceService) unrelatedRun.2
      unrelatedReorg.1 unrelatedReorg.2.1 unrelatedReorg.2.2 := by
    unfold unrelatedReorg
    exact referenceStep_exec agree unrelatedRun.2 _
  obtain ⟨hrows, hclaim⟩ :
      (∀ e ∈ unrelatedRun.2.withdrawals.entries, "spent:0" ∉ e.2.reservedOutpoints) ∧
      claimOf unrelatedRun.2 (UUID.ofByte 10) = some (btcWallet.id, .signed, none, [outpointA]) := by
    decide +kernel
  obtain ⟨hclaima, hclaimb⟩ :
      claimOf unrelatedReorg.2.2 (UUID.ofByte 10) = some (btcWallet.id, .signed, none, [outpointA]) ∧
      claimOf unrelatedReorg.2.2 (UUID.ofByte 11) = some (btcWallet.id, .signed, none, [outpointB]) := by
    decide +kernel
  have hsafe : SafeReorgs unrelatedRun.2 (.onReorg (UUID.ofByte 10) ["spent:0"]) := by
    constructor
    · intro op hop
      rw [List.mem_singleton.mp hop]
      exact not_held_of_rows hrows
    · obtain ⟨a, ha, -, hsa, -⟩ := claimOf_eq hclaim
      intro wr hwr hconfirmed
      rw [ha] at hwr
      cases hwr
      rw [hsa] at hconfirmed
      cases hconfirmed
  obtain ⟨a, ha, -, hsa, -, hra⟩ := claimOf_eq hclaima
  obtain ⟨b, hb, -, hsb, -⟩ := claimOf_eq hclaimb
  refine ⟨a, b, ha, hb, hra, ?_⟩
  exact in_flight_outpoints_disjoint (hrun.snoc hsafe hreorg) (by decide) ha hb (.inl hsa) (.inl hsb)

def reorgRun := referenceRun agree (Store.initial [btcWallet] [btcOutput outpointA "1000"])
  [.create (UUID.ofByte 10) (btcTransfer "1000"), .constructAndSign (UUID.ofByte 10),
    .broadcast (UUID.ofByte 10), .confirm (UUID.ofByte 10) "txhash",
    .onReorg (UUID.ofByte 10) [outpointA],
    .create (UUID.ofByte 11) (btcTransfer "900"), .constructAndSign (UUID.ofByte 11)]

theorem reorg_shares_outpoint :
    Runs (Op.proc referenceService) (memStep referenceService.lib) (fun _ _ => True)
        (Store.initial [btcWallet] [btcOutput outpointA "1000"]) reorgRun.1 reorgRun.2 ∧
      claimOf reorgRun.2 (UUID.ofByte 10) = some (btcWallet.id, .broadcast, none, [outpointA]) ∧
      claimOf reorgRun.2 (UUID.ofByte 11) = some (btcWallet.id, .signed, none, [outpointA]) :=
  ⟨referenceRun_runs agree _ _ _ (fun _ _ _ => trivial), by decide +kernel⟩

section Rebroadcast

variable {lib : Lib} {s s₁ : Store} {id : UUID} {ops : List String} {wr : WithdrawalRequest} {tr : Trace}

lemma onReorg_row (hrow : s.withdrawals.lookup id = some wr) (hconfirmed : wr.state = .confirmed)
    (h : Exec (memStep lib) (Service.onReorg id ops) s tr (.ok ()) s₁) :
    ∃ wr₁, s₁.withdrawals.lookup id = some wr₁ ∧ wr₁.state = .broadcast := by
  obtain ⟨r, s₂, tr₁, hread, h, -⟩ := h
  obtain ⟨rfl, rfl⟩ : r = s.getWithdrawal id ∧ s₂ = s := ⟨congrArg Prod.fst hread, congrArg Prod.snd hread⟩
  dsimp only [Prog.bind] at h
  rw [Store.getWithdrawal, hrow] at h
  obtain ⟨r, s₃, tr₂, hrestore, h, -⟩ := h
  obtain rfl : s₃ = (s₂.restoreUTXOs ops).2 := congrArg Prod.snd hrestore
  cases r with
  | error err =>
    obtain ⟨-, hr, -⟩ := h
    cases hr
  | ok _ =>
    dsimp only [Prog.bind] at h
    rw [if_pos hconfirmed] at h
    obtain ⟨r, s₄, tr₃, hupdate, h, -⟩ := h
    obtain ⟨-, -, rfl⟩ := h
    obtain rfl := congrArg Prod.snd hupdate
    have hset := updateWithdrawalState_lookup (s := (s₂.restoreUTXOs ops).2) hrow .broadcast "reorg" "" "" id
    rw [if_pos rfl] at hset
    exact ⟨_, hset, rfl⟩

lemma broadcast_refused (svc : Service) (hrow : s.withdrawals.lookup id = some wr)
    (hstate : wr.state = .broadcast) :
    Yields (memStep svc.lib) (svc.broadcast id) s (.error ⟨"withdrawal not signed (is BROADCAST)", none⟩) ∧
    ∀ tr r s', Exec (memStep svc.lib) (svc.broadcast id) s tr r s' →
      ∀ e ∈ tr, e.call = .store (.getWithdrawal id) := by
  have hanswer : (s.handle svc.lib (.getWithdrawal id)).1 = .ok wr := by
    simp only [Store.handle, Store.getWithdrawal, hrow]
  constructor
  · refine yields_read rfl ?_
    rw [hanswer]
    dsimp only
    rw [if_pos (by simp [hstate]), hstate]
    exact yields_ret _
  · rintro tr r s' ⟨r₁, s₁, tr₁, hread, h, rfl⟩
    obtain rfl : r₁ = .ok wr := (congrArg Prod.fst hread).trans hanswer
    dsimp only [Prog.bind] at h
    rw [if_pos (by simp [hstate])] at h
    obtain ⟨rfl, -, -⟩ := h
    simp

/-- No confirmed withdrawal can be broadcast again after its reorg: `OnReorg` leaves it in the state
`BROADCAST`, and `Broadcast` wants `SIGNED`. It fails, asks no gateway and changes nothing. -/
theorem reorged_never_rebroadcast (svc : Service) (hrow : s.withdrawals.lookup id = some wr)
    (hconfirmed : wr.state = .confirmed)
    (hreorg : Exec (memStep svc.lib) (Service.onReorg id ops) s tr (.ok ()) s₁) :
    Yields (memStep svc.lib) (svc.broadcast id) s₁ (.error ⟨"withdrawal not signed (is BROADCAST)", none⟩) ∧
    ∀ tr r s', Exec (memStep svc.lib) (svc.broadcast id) s₁ tr r s' →
      ∀ e ∈ tr, e.call = .store (.getWithdrawal id) := by
  obtain ⟨wr₁, hrow₁, hstate⟩ := onReorg_row hrow hconfirmed hreorg
  exact broadcast_refused svc hrow₁ hstate

end Rebroadcast

def finalizedRun := referenceRun agree (Store.initial [btcWallet] [btcOutput outpointA "1000"])
  [.create (UUID.ofByte 10) (btcTransfer "1000"), .constructAndSign (UUID.ofByte 10),
    .broadcast (UUID.ofByte 10), .confirm (UUID.ofByte 10) "txhash"]

def finalizedReorg := referenceStep agree finalizedRun.2 (.onReorg (UUID.ofByte 10) [outpointA])

lemma finalizedReorg_ok : claimOf finalizedRun.2 (UUID.ofByte 10) =
      some (btcWallet.id, .confirmed, none, [outpointA]) ∧ finalizedReorg.2.1 = .ok () := by
  decide +kernel

lemma finalizedReorg_exec : Exec (memStep referenceService.lib)
    (Service.onReorg (UUID.ofByte 10) [outpointA]) finalizedRun.2 finalizedReorg.1 (.ok ())
    finalizedReorg.2.2 := by
  rw [← finalizedReorg_ok.2]
  exact referenceStep_exec agree finalizedRun.2 (.onReorg (UUID.ofByte 10) [outpointA])

theorem reorged_never_rebroadcast_single :
    Yields (memStep referenceService.lib) (referenceService.broadcast (UUID.ofByte 10)) finalizedReorg.2.2
      (.error ⟨"withdrawal not signed (is BROADCAST)", none⟩) := by
  obtain ⟨wr, hrow, -, hconfirmed, -⟩ := claimOf_eq finalizedReorg_ok.1
  exact (reorged_never_rebroadcast referenceService hrow hconfirmed finalizedReorg_exec).1

/-- The reorg of a confirmed withdrawal succeeds in a run, and the next broadcast of it is refused. -/
theorem reorged_broadcast_refused :
    Runs (Op.proc referenceService) (memStep referenceService.lib) (fun _ _ => True)
      (Store.initial [btcWallet] [btcOutput outpointA "1000"]) finalizedRun.1 finalizedRun.2 ∧
    claimOf finalizedRun.2 (UUID.ofByte 10) = some (btcWallet.id, .confirmed, none, [outpointA]) ∧
    finalizedReorg.2.1 = .ok () ∧
    ¬∃ tr s', Exec (memStep referenceService.lib) (referenceService.broadcast (UUID.ofByte 10))
      finalizedReorg.2.2 tr (.ok ()) s' := by
  obtain ⟨wr, hrow, -, hconfirmed, -⟩ := claimOf_eq finalizedReorg_ok.1
  obtain ⟨wr₁, hrow₁, hstate⟩ := onReorg_row hrow hconfirmed finalizedReorg_exec
  refine ⟨referenceRun_runs agree _ _ _ (fun _ _ _ => trivial), finalizedReorg_ok.1, finalizedReorg_ok.2, ?_⟩
  rintro ⟨tr, s', h⟩
  obtain ⟨hr, -⟩ := (broadcast_refused referenceService hrow₁ hstate).1.2 _ _ _ h
  cases hr

end WalletManager.Proofs
