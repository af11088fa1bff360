import WalletManager.Proofs.Interleaving
import WalletManager.Storage.Faults

/-!
# The rows that an operation writes

Every operation writes the row of its own withdrawal only, never the request on it, and each
operation writes few states. This holds call by call, also for calls that fail, and it does
not depend on what other operations do in between.
-/

namespace WalletManager.Proofs

open Interaction

/-- A running operation. The number tells apart several runs of the same operation. -/
abbrev Slot := Op × ℕ

abbrev SlotLog := List (Slot × Event Call Answer)

abbrev SlotPool := Pool Slot Call Answer (Except Error Unit) Store

def starting (ts : List Slot) : List (Slot ⊕ Slot) := ts.map .inl

def turns (n : ℕ) (ts : List Slot) : List (Slot ⊕ Slot) := (List.replicate n (ts.map .inr)).flatten

/-- A schedule of the reference service: an operation starts in its slot, or the operation in
a slot makes its next call. -/
def slotMoves (schedule : List (Slot ⊕ Slot)) : List (Move Slot Call Answer (Except Error Unit)) :=
  schedule.map (Sum.elim (fun t => .start t (t.1.proc referenceService)) .next)

lemma slotMoves_start {schedule : List (Slot ⊕ Slot)} {t : Slot} {p : Proc (Except Error Unit)}
    (h : .start t p ∈ slotMoves schedule) : .inl t ∈ schedule ∧ p = t.1.proc referenceService := by
  obtain ⟨t' | t', hmem, heq⟩ := List.mem_map.mp h
  · cases heq
    exact ⟨hmem, rfl⟩
  · cases heq

def playingSlots (answers : (c : ExtCall) → c.Answer) (s₀ : Store) (schedule : List (Slot ⊕ Slot)) :
    SlotPool :=
  (slotMoves schedule).foldl (Pool.play (answering answers)) ⟨s₀, fun _ => none, []⟩

inductive Party
  | signer
  | gateway
  deriving DecidableEq

/-- The calls that write at most the row of `id`, and to its state one of `states`, and that
of the signer and the gateway ask at most `party`. -/
def Touches (id : UUID) (states : List WithdrawalState) (party : Option Party) : Call → Prop
  | .store (.createWithdrawal w) => w.id = id ∧ w.state = .pending
  | .store (.updateWithdrawalState j state _ _ _) => j = id ∧ state ∈ states
  | .store (.updateWithdrawalNonce j _) | .store (.updateWithdrawalOutpoints j _) => j = id
  | .store (.updateWithdrawalSignedTx j _) => j = id
  | .store (.lockUTXOs _) | .store (.restoreUTXOs _) | .store (.markUTXOsSpent _ _) => True
  | .store c => Quiet (.store c)
  | .ext (.sign _) => party = some .signer
  | .ext (.broadcastTx _) => party = some .gateway
  | .ext _ => True

/-- Only the row of `id` may change: it keeps its request, its state is the old one or one of
`states`, and a new row is pending. -/
structure RowStep (s s' : Store) (id : UUID) (states : List WithdrawalState) : Prop where
  others : ∀ j, j ≠ id → s'.withdrawals.lookup j = s.withdrawals.lookup j
  kept : ∀ wr, s.withdrawals.lookup id = some wr → ∃ wr', s'.withdrawals.lookup id = some wr' ∧
    requestOf wr' = requestOf wr ∧ (wr'.state = wr.state ∨ wr'.state ∈ states)
  fresh : ∀ wr', s.withdrawals.lookup id = none → s'.withdrawals.lookup id = some wr' →
    wr'.state = .pending

section Steps

variable {lib : Lib} {s s' : Store} {id : UUID} {states : List WithdrawalState} {party : Option Party} {c : Call}

lemma rowStep_of_eq (h : s'.withdrawals = s.withdrawals) : RowStep s s' id states := by
  refine ⟨fun j _ => by rw [h], ?_, ?_⟩
  · intro wr hrow
    exact ⟨wr, by rw [h, hrow], rfl, .inl rfl⟩
  · intro wr' hnone hrow
    rw [h, hnone] at hrow
    cases hrow

lemma RowSet.rowStep {wr wr' : WithdrawalRequest} (hrow : s.withdrawals.lookup id = some wr)
    (hset : RowSet s s' id wr') (hreq : requestOf wr' = requestOf wr)
    (hstate : wr'.state = wr.state ∨ wr'.state ∈ states) : RowStep s s' id states := by
  refine ⟨hset.others, ?_, ?_⟩
  · intro wr₀ hrow₀
    rw [hrow] at hrow₀
    cases hrow₀
    exact ⟨wr', hset.row, hreq, hstate⟩
  · intro wr₀ hnone
    rw [hrow] at hnone
    cases hnone

lemma updateWithdrawal_rowStep (f : WithdrawalRequest → WithdrawalRequest)
    (hreq : ∀ wr, requestOf (f wr) = requestOf wr) (hstate : ∀ wr, (f wr).state = wr.state) :
    RowStep s (s.updateWithdrawal id f).2 id states := by
  cases hrow : s.withdrawals.lookup id with
  | none =>
    apply rowStep_of_eq
    unfold Store.updateWithdrawal
    rw [hrow]
  | some wr =>
    exact ((RowSet.refl hrow).update f).rowStep hrow (hreq wr) (.inl (hstate wr))

lemma updateWithdrawalState_rowStep {state : WithdrawalState} (hstate : state ∈ states)
    (reason txHash decisionID : String) :
    RowStep s (s.updateWithdrawalState id state reason txHash decisionID).2 id states := by
  cases hrow : s.withdrawals.lookup id with
  | none =>
    apply rowStep_of_eq
    unfold Store.updateWithdrawalState
    rw [hrow]
  | some wr =>
    exact ((RowSet.refl hrow).state _ _ _ _).rowStep hrow rfl (.inr hstate)

lemma createWithdrawal_rowStep {w : WithdrawalRequest} (hid : w.id = id)
    (hpending : w.state = .pending) : RowStep s (s.createWithdrawal w).2 id states := by
  subst hid
  rcases createWithdrawal_cases s w with ⟨err, herr⟩ | ⟨-, hnone, hrows⟩
  · exact rowStep_of_eq (by rw [herr])
  · refine ⟨?_, ?_, ?_⟩
    · intro j hj
      rw [hrows]
      exact AList.lookup_insert_ne hj
    · intro wr hrow
      rw [hnone] at hrow
      cases hrow
    · intro wr' _ hrow
      rw [hrows, AList.lookup_insert] at hrow
      cases hrow
      exact hpending

lemma handle_rowStep {c : StoreCall} (hc : Touches id states party (.store c)) :
    RowStep s (s.handle lib c).2 id states := by
  cases c with
  | createWithdrawal w => exact createWithdrawal_rowStep hc.1 hc.2
  | updateWithdrawalState j state reason txHash decisionID =>
    obtain ⟨rfl, hstate⟩ := hc
    exact updateWithdrawalState_rowStep hstate _ _ _
  | updateWithdrawalNonce j n =>
    obtain rfl : j = id := hc
    exact updateWithdrawal_rowStep _ (fun _ => rfl) (fun _ => rfl)
  | updateWithdrawalOutpoints j ops =>
    obtain rfl : j = id := hc
    exact updateWithdrawal_rowStep _ (fun _ => rfl) (fun _ => rfl)
  | updateWithdrawalSignedTx j txBytes =>
    obtain rfl : j = id := hc
    exact updateWithdrawal_rowStep _ (fun _ => rfl) (fun _ => rfl)
  | lockUTXOs ops => exact rowStep_of_eq (lockUTXOs_withdrawals s ops)
  | rollbackPendingNonce walletID chain n =>
    exact rowStep_of_eq (rollbackPendingNonce_withdrawals s walletID chain n)
  | _ => first | exact False.elim hc | exact rowStep_of_eq rfl

theorem touches_rowStep {r : Answer c} (hc : Touches id states party c) (hs : lossyStep lib s c r s') :
    RowStep s s' id states := by
  cases c with
  | store c =>
    rcases hs with hs | ⟨-, rfl | rfl⟩
    · obtain rfl : s' = (s.handle lib c).2 := congrArg Prod.snd hs
      exact handle_rowStep hc
    · exact rowStep_of_eq rfl
    · exact handle_rowStep hc
  | ext c =>
    obtain rfl : s' = s := hs
    exact rowStep_of_eq rfl

end Steps

section Operations

variable {svc : Service} {id : UUID} {states : List WithdrawalState} {party : Option Party}

lemma Silent.touches {c : Call} (hc : Silent c) : Touches id states party c := by
  rcases c with c | c <;> cases c <;> first | exact hc | exact False.elim hc

lemma Touches.mono {states' : List WithdrawalState} {party' : Option Party} {c : Call}
    (hstates : states ⊆ states') (hparty : party = none ∨ party = party')
    (hc : Touches id states party c) : Touches id states' party' c := by
  rcases c with c | c
  · cases c with
    | updateWithdrawalState j state reason txHash decisionID => exact ⟨hc.1, hstates hc.2⟩
    | _ => exact hc
  · rcases hparty with rfl | rfl
    · cases c <;> trivial
    · cases c <;> exact hc

def Still (id : UUID) : Call → Prop
  | .store (.createWithdrawal _) | .store (.updateWithdrawalState _ _ _ _ _) | .ext (.emit _) => False
  | c => Touches id [] none c

lemma Still.touches {c : Call} (hc : Still id c) : Touches id states party c := by
  have htouches : Touches id [] none c := by
    rcases c with c | c <;> cases c <;> first | exact hc | exact False.elim hc
  exact htouches.mono (List.nil_subset _) (.inl rfl)

lemma Muted.still {c : Call} (hc : Muted c) : Still id c := by
  rcases c with c | c <;> cases c <;> first | exact hc | exact False.elim hc

lemma emit_touches (e : AuditEvent) : (svc.emit e).AllCalls (Touches id states party) := by
  unfold Service.emit
  split
  · exact ⟨trivial, fun _ => trivial⟩
  · trivial

lemma emit_ok_touches (e : AuditEvent) :
    (do svc.emit e; return .ok () : Proc (Except Error Unit)).AllCalls (Touches id states party) :=
  (emit_touches e).bind (fun _ => trivial)

lemma rollback_still (w : Wallet) (n : Int) (ops : List String) :
    (Service.rollback w n ops).AllCalls (Still id) := by
  have hunlock : (if ops.length > 0 then do let _ ← unlock ops; pure () else pure () :
      Proc Unit).AllCalls (Still id) := by
    split
    · exact ⟨trivial, fun _ => trivial⟩
    · trivial
  unfold Service.rollback
  by_cases hn : 0 ≤ n ∧ w.chain.isEVM = true
  · simp only [if_pos hn]
    refine ⟨trivial, ?_⟩
    rintro (err | _) <;> exact hunlock
  · simp only [if_neg hn]
    exact hunlock

lemma rollback_touches (w : Wallet) (n : Int) (ops : List String) :
    (Service.rollback w n ops).AllCalls (Touches id states party) :=
  (rollback_still _ _ _).mono (fun _ => Still.touches)

lemma rollback_bind_still {α : Type} {w : Wallet} {n : Int} {ops : List String} {f : Unit → Proc α}
    (hf : (f ()).AllCalls (Still id)) : (Service.rollback w n ops >>= f).AllCalls (Still id) :=
  (rollback_still w n ops).bind (fun _ => hf)

lemma rollback_bind_touches {α : Type} {w : Wallet} {n : Int} {ops : List String}
    {f : Unit → Proc α} (hf : (f ()).AllCalls (Touches id states party)) :
    (Service.rollback w n ops >>= f).AllCalls (Touches id states party) :=
  (rollback_touches w n ops).bind (fun _ => hf)

lemma selectForAmount_still (lib : Lib) (walletID : UUID) (amount : ℚ) :
    (selectForAmount lib walletID amount).AllCalls (Still id) := by
  refine ⟨trivial, ?_⟩
  rintro (err | free)
  · trivial
  · dsimp only [Prog.bind]
    split
    · trivial
    · refine ⟨trivial, ?_⟩
      rintro (err | _) <;> trivial

lemma reserve_still (wr : WithdrawalRequest) (w : Wallet) :
    (svc.reserve id wr w).AllCalls (Still id) := by
  have hrollback : ∀ err : Error, (do
      let _ ← rollbackNonce wr.walletID w.chain.string (-1)
      return .error err : Proc (Except Error (Int × List String))).AllCalls
        (Still id) := fun err =>
    ((rollbackNonce_muted _ _ _).mono (fun _ => Muted.still)).bind (fun _ => trivial)
  unfold Service.reserve
  split
  · refine ((reserveNonceLoop_muted _ _ _ _).mono (fun _ => Muted.still)).bind ?_
    rintro (err | n)
    · trivial
    · exact ⟨rfl, fun _ => trivial⟩
  split
  · split
    · exact hrollback _
    refine (selectForAmount_still svc.lib wr.walletID _).bind ?_
    rintro (err | ⟨ops, total⟩)
    · exact hrollback _
    · refine ⟨rfl, ?_⟩
      rintro (err | _)
      · exact rollback_bind_still trivial
      · trivial
  · trivial

lemma reserve_touches (wr : WithdrawalRequest) (w : Wallet) :
    (svc.reserve id wr w).AllCalls (Touches id states party) :=
  (reserve_still _ _).mono (fun _ => Still.touches)

lemma signReserved_touches (wr : WithdrawalRequest) (w : Wallet) (keyID : String) (n : Int)
    (ops : List String) : (svc.signReserved id wr w keyID n ops).AllCalls
      (Touches id [.failed, .signed] (some .signer)) := by
  unfold Service.signReserved
  refine ((resolveBuildOpts_silent w).mono (fun _ => Silent.touches)).bind ?_
  rintro (err | opts)
  · exact rollback_bind_touches trivial
  refine ((buildUnsignedTx_silent _ _ _ _ _ _ _).mono (fun _ => Silent.touches)).bind ?_
  rintro (err | unsigned)
  · exact rollback_bind_touches trivial
  refine ⟨rfl, ?_⟩
  rintro (err | resp)
  · exact rollback_bind_touches ⟨⟨rfl, by simp⟩, fun _ => trivial⟩
  dsimp only [Prog.bind]
  split
  · exact rollback_bind_touches ⟨⟨rfl, by simp⟩, fun _ => trivial⟩
  refine ⟨rfl, ?_⟩
  rintro (err | _)
  · exact rollback_bind_touches trivial
  refine ⟨⟨rfl, by simp⟩, ?_⟩
  rintro (err | _)
  · trivial
  · exact emit_ok_touches _

lemma settle_still (wr : WithdrawalRequest) (w : Wallet) (txHash : String) :
    (Service.settle wr w txHash).AllCalls (Still id) := by
  unfold Service.settle
  by_cases hbtc : w.chain = .bitcoin ∧ wr.reservedOutpoints.length > 0
  · have hevm : ¬ w.chain.isEVM = true := by simp [hbtc.1, Chain.isEVM]
    simp only [if_pos hbtc, if_neg hevm]
    exact ⟨trivial, fun _ => trivial⟩
  · simp only [if_neg hbtc]
    split
    · split
      · trivial
      · exact ⟨trivial, fun _ => trivial⟩
    · trivial

lemma settle_touches (wr : WithdrawalRequest) (w : Wallet) (txHash : String) :
    (Service.settle wr w txHash).AllCalls (Touches id states party) :=
  (settle_still _ _ _).mono (fun _ => Still.touches)

lemma recordBroadcast_touches (wr : WithdrawalRequest) (w : Wallet) (txHash : String) :
    (svc.recordBroadcast id wr w txHash).AllCalls (Touches id [.failed, .broadcast] party) := by
  refine (settle_touches wr w txHash).bind (fun _ => ⟨⟨rfl, by simp⟩, ?_⟩)
  rintro (err | _)
  · trivial
  · exact emit_ok_touches _

lemma refuse_touches (wr : WithdrawalRequest) (reason decisionID : String) :
    (Service.applyDecision.refuse wr reason decisionID).AllCalls (Touches wr.id [.failed] none) :=
  ⟨⟨rfl, by simp⟩, fun _ => trivial⟩

lemma applyDecision_touches (wr : WithdrawalRequest) (answer : PolicyAnswer) :
    (∃ dec, answer = ⟨some dec, none⟩ ∧ dec.approved = true ∧
      (Service.applyDecision wr answer).AllCalls (Touches wr.id [.whitelisted] none)) ∨
    (Service.applyDecision wr answer).AllCalls (Touches wr.id [.failed] none) := by
  rcases answer with ⟨_ | dec, _ | err⟩
  · exact .inr (refuse_touches _ _ _)
  · exact .inr (refuse_touches _ _ _)
  · by_cases happr : dec.approved = true
    · refine .inl ⟨dec, rfl, happr, ?_⟩
      unfold Service.applyDecision
      simp only [if_pos happr]
      refine ⟨⟨rfl, by simp⟩, ?_⟩
      rintro (err | _) <;> trivial
    · refine .inr ?_
      unfold Service.applyDecision
      simp only [if_neg happr]
      exact refuse_touches _ _ _
  · exact .inr (refuse_touches _ _ _)

end Operations

def writes : Op → WithdrawalState → List WithdrawalState
  | .constructAndSign _, .whitelisted => [.failed, .signed]
  | .broadcast _, .signed => [.failed, .broadcast]
  | .confirm _ _, .broadcast => [.confirmed]
  | .fail _ _, _ => [.failed]
  | .onReorg _ _, .confirmed => [.broadcast]
  | _, _ => []

def partyOf : Op → Option Party
  | .constructAndSign _ => some .signer
  | .broadcast _ => some .gateway
  | _ => none

def asks : Op → WithdrawalState → Option Party
  | .constructAndSign _, .whitelisted => some .signer
  | .broadcast _, .signed => some .gateway
  | _, _ => none

lemma asks_partyOf (op : Op) (state : WithdrawalState) :
    asks op state = none ∨ asks op state = partyOf op := by
  cases op <;> cases state <;> simp [asks, partyOf]

/-- The operations on an existing withdrawal read its row once, and what they found decides
what they may do. -/
theorem op_reads (svc : Service) {op : Op} (hop : ∀ id req, op ≠ .create id req) :
    ∃ k, op.proc svc = .call (.store (.getWithdrawal op.id)) k ∧
      (∀ err, k (.error err) = .ret (.error err)) ∧
      ∀ wr, (k (.ok wr)).AllCalls (Touches op.id (writes op wr.state) (asks op wr.state)) := by
  cases op with
  | create id req => exact absurd rfl (hop id req)
  | constructAndSign id =>
    refine ⟨_, rfl, fun err => rfl, fun wr => ?_⟩
    dsimp only [Prog.bind]
    split
    · trivial
    rename_i hstate
    simp only [Decidable.not_not.mp hstate]
    refine ⟨trivial, ?_⟩
    rintro (err | w)
    · trivial
    refine ((resolveKeyID_silent wr.walletID).mono (fun _ => Silent.touches)).bind ?_
    rintro (err | keyID)
    · trivial
    refine (reserve_touches wr w).bind ?_
    rintro (err | ⟨n, ops⟩)
    · trivial
    · exact signReserved_touches wr w keyID n ops
  | broadcast id =>
    refine ⟨_, rfl, fun err => rfl, fun wr => ?_⟩
    dsimp only [Prog.bind]
    split
    · trivial
    rename_i hstate
    simp only [Decidable.not_not.mp hstate]
    refine ⟨trivial, ?_⟩
    rintro (err | w)
    · trivial
    dsimp only [Prog.bind]
    split
    · trivial
    refine ⟨rfl, ?_⟩
    rintro (err | resp)
    · exact rollback_bind_touches ⟨⟨rfl, by simp [writes]⟩, fun _ => trivial⟩
    · exact recordBroadcast_touches wr w resp.txHash
  | confirm id txHash =>
    refine ⟨_, rfl, fun err => rfl, fun wr => ?_⟩
    dsimp only [Prog.bind]
    split
    · trivial
    rename_i hstate
    simp only [Decidable.not_not.mp hstate]
    refine ⟨⟨rfl, by simp [writes]⟩, ?_⟩
    rintro (err | _)
    · trivial
    · exact emit_ok_touches _
  | fail id reason =>
    refine ⟨_, rfl, fun err => rfl, fun wr => ⟨trivial, ?_⟩⟩
    rintro (err | w)
    · trivial
    refine rollback_bind_touches ⟨⟨rfl, by simp [writes]⟩, ?_⟩
    rintro (err | _)
    · trivial
    · exact emit_ok_touches _
  | onReorg id outpoints =>
    refine ⟨_, rfl, fun err => rfl, fun wr => ⟨trivial, ?_⟩⟩
    rintro (err | _)
    · trivial
    dsimp only [Prog.bind]
    split
    · rename_i hstate
      simp only [hstate]
      exact ⟨⟨rfl, by simp [writes]⟩, fun _ => trivial⟩
    · trivial

lemma op_touches (svc : Service) {op : Op} (hop : ∀ id req, op ≠ .create id req)
    {states : List WithdrawalState} (hstates : ∀ state, writes op state ⊆ states) :
    (op.proc svc).AllCalls (Touches op.id states (partyOf op)) := by
  obtain ⟨k, hproc, herr, hok⟩ := op_reads svc hop
  rw [hproc]
  refine ⟨trivial, ?_⟩
  rintro (err | wr)
  · rw [herr]
    trivial
  · exact (hok wr).mono (fun _ => Touches.mono (hstates wr.state) (asks_partyOf op wr.state))

lemma create_touches (svc : Service) (id : UUID) (req : CreateRequest) :
    (svc.create id req).AllCalls (Touches id [.whitelisted, .failed] none) := by
  refine ⟨trivial, ?_⟩
  rintro (err | w)
  · trivial
  dsimp only [Prog.bind]
  split
  · trivial
  split
  · trivial
  refine ⟨⟨rfl, rfl⟩, ?_⟩
  rintro (err | _)
  · trivial
  refine (emit_touches _).bind (fun _ => ⟨trivial, fun answer => (emit_touches _).bind (fun _ => ?_)⟩)
  rcases applyDecision_touches (req.row id) answer with ⟨_, -, -, hcalls⟩ | hcalls
  · exact hcalls.mono (fun _ => Touches.mono (by simp) (.inl rfl))
  · exact hcalls.mono (fun _ => Touches.mono (by simp) (.inl rfl))

theorem op_touches_own (svc : Service) (op : Op) : ∃ states,
    (op.proc svc).AllCalls (Touches op.id states (partyOf op)) := by
  cases op with
  | create id req => exact ⟨_, (create_touches svc id req).bind (fun _ => trivial)⟩
  | _ => exact ⟨[.failed, .signed, .broadcast, .confirmed],
      op_touches svc (by simp) (fun state => by cases state <;> simp [writes])⟩

end WalletManager.Proofs
