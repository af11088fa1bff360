import WalletManager.Interaction.Pool
import WalletManager.Proofs.BuiltTransactions
import WalletManager.Proofs.NonceSafety

/-!
# Ownership of outputs under interleaving

Operations on different withdrawals interleave call by call, so the row of a withdrawal does not
always say what it holds: between the lock and the signature the outputs belong to the running
operation, and so they do between a rejection by the gateway and their release.
-/

namespace WalletManager.Proofs

open Interaction Reservation

def Spends (lib : Lib) (txBytes : Bytes) (outpoints : List String) : Prop :=
  ∃ tx, lib.serialize tx = .ok txBytes ∧
    parseOutpoints lib outpoints = .ok (tx.txIn.map TxIn.previousOutPoint)

lemma buildBTCUnsignedTx_serializes {lib : Lib} {wr : WithdrawalRequest} {ops : List String}
    {opts : BuildOpts} {unsigned : UnsignedTx} {signature txBytes : Bytes}
    (hbuild : buildBTCUnsignedTx lib wr ops opts = .ok unsigned)
    (hsign : unsigned.assemble signature = .ok txBytes) :
    ∃ tx amount script, lib.serialize tx = .ok txBytes ∧
      parseOutpoints lib ops = .ok (tx.txIn.map TxIn.previousOutPoint) ∧
      lib.newFromString wr.amount = .ok amount ∧ lib.addrScript wr.toAddress = .ok script ∧
      tx.txOut = [⟨intPart amount, script⟩] := by
  obtain ⟨amount, tx, hbuilt⟩ := buildBTCUnsignedTx_ok hbuild
  obtain ⟨signed, hserialize, hout, hin⟩ := hbuilt.assembled signature txBytes hsign
  obtain ⟨script, hscript, houtput⟩ := hbuilt.output
  exact ⟨signed, amount, script, hserialize, hin ▸ hbuilt.inputs, hbuilt.parsed, hscript,
    hout.trans houtput⟩

lemma buildBTCUnsignedTx_spends {lib : Lib} {wr : WithdrawalRequest} {ops : List String}
    {opts : BuildOpts} {unsigned : UnsignedTx} {signature txBytes : Bytes}
    (hbuild : buildBTCUnsignedTx lib wr ops opts = .ok unsigned)
    (hsign : unsigned.assemble signature = .ok txBytes) : Spends lib txBytes ops := by
  obtain ⟨tx, _, _, hserialize, hinputs, -⟩ := buildBTCUnsignedTx_serializes hbuild hsign
  exact ⟨tx, hserialize, hinputs⟩

def gatewayAnswer : Event Call Answer → Option (BroadcastRequest × Bool)
  | ⟨.ext (.broadcastTx req), .ok _⟩ => some (req, true)
  | ⟨.ext (.broadcastTx req), .error _⟩ => some (req, false)
  | _ => none

def gateway (log : List (UUID × Event Call Answer)) (id : UUID) : List (BroadcastRequest × Bool) :=
  log.filterMap (fun e => if e.1 = id then gatewayAnswer e.2 else none)

lemma gateway_append_self (log : List (UUID × Event Call Answer)) (id : UUID)
    (ev : Event Call Answer) :
    gateway (log ++ [(id, ev)]) id = gateway log id ++ (gatewayAnswer ev).toList := by
  unfold gateway
  rw [List.filterMap_append]
  cases h : gatewayAnswer ev <;> simp [h]

lemma gateway_append_other {log : List (UUID × Event Call Answer)} {id j : UUID} (h : j ≠ id)
    (ev : Event Call Answer) : gateway (log ++ [(id, ev)]) j = gateway log j := by
  unfold gateway
  rw [List.filterMap_append]
  simp [h.symm]

inductive Stage
  /-- Nothing beyond the row. -/
  | idle
  /-- The row is known. -/
  | reading (wr : WithdrawalRequest)
  /-- The operation itself holds some outputs, whatever is on the row. -/
  | holding (wr : WithdrawalRequest) (ops : List String)
  /-- The gateway has accepted the transaction, and the row does not show it yet. -/
  | accepted (wr : WithdrawalRequest)

section Stages

variable (lib : Lib) (wallets : Table UUID Wallet)

def Carries (wr : WithdrawalRequest) (txBytes : Bytes) : Prop :=
  ∀ w, wallets.lookup wr.walletID = some w → w.chain = .bitcoin →
    Spends lib txBytes wr.reservedOutpoints

structure RowOk (wr : WithdrawalRequest) : Prop where
  plain : ∀ w, wallets.lookup wr.walletID = some w → w.chain ≠ .bitcoin → wr.reservedOutpoints = []
  signed : wr.state = .signed → Carries lib wallets wr wr.signedTxBytes

/-- Between operations, the gateway has answered at most once, and the row shows the answer. -/
def Settled (answers : List (BroadcastRequest × Bool)) (row : Option WithdrawalRequest) : Prop :=
  answers = [] ∨ ∃ wr req ok, row = some wr ∧ answers = [(req, ok)] ∧
    Carries lib wallets wr req.txBytes ∧
    (wr.state = .failed ∨ ok = true ∧ (wr.state = .broadcast ∨ wr.state = .confirmed))

def Stage.Ok (answers : List (BroadcastRequest × Bool)) (row : Option WithdrawalRequest) :
    Stage → Prop
  | idle => Settled lib wallets answers row
  | reading wr => row = some wr ∧ Settled lib wallets answers row
  | holding wr _ => row = some wr ∧ (wr.state = .whitelisted ∧ answers = [] ∨
      wr.state = .signed ∧ ∃ req, answers = [(req, false)] ∧ Carries lib wallets wr req.txBytes)
  | accepted wr => row = some wr ∧ wr.state = .signed ∧
      ∃ req, answers = [(req, true)] ∧ Carries lib wallets wr req.txBytes

/-- What the row alone says: the outputs of a live withdrawal, and those of an accepted
transaction for ever. -/
def rowHolds (answers : List (BroadcastRequest × Bool)) (row : Option WithdrawalRequest) : Set String :=
  {op | ∃ wr, row = some wr ∧ (wr.state.isLive ∨ ∃ req, (req, true) ∈ answers) ∧
    op ∈ wr.reservedOutpoints}

def Stage.holds (answers : List (BroadcastRequest × Bool)) (row : Option WithdrawalRequest) :
    Stage → Set String
  | holding _ ops => {op | op ∈ ops}
  | _ => rowHolds answers row

def Stage.Done : Stage → Prop
  | idle | reading _ => True
  | holding wr ops => wr.state = .whitelisted ∧ ops = []
  | accepted _ => False

/-- The invariant of interleaved operations: no output has two holders, and none that is
held is free. -/
structure Ownership (γ : UUID → Stage) (log : List (UUID × Event Call Answer)) (s : Store) : Prop where
  wallets_eq : s.wallets = wallets
  rows : ∀ id wr, s.withdrawals.lookup id = some wr → RowOk lib wallets wr
  stages : ∀ id, (γ id).Ok lib wallets (gateway log id) (s.withdrawals.lookup id)
  exclusive : Exclusive (fun id => (γ id).holds (gateway log id) (s.withdrawals.lookup id))
    s.freeOutpoints
  tracked : ∀ id, (γ id).holds (gateway log id) (s.withdrawals.lookup id) ⊆ {op | op ∈ s.utxos}

end Stages

lemma Settled.unasked {lib : Lib} {wallets : Table UUID Wallet}
    {answers : List (BroadcastRequest × Bool)} {wr : WithdrawalRequest}
    (h : Settled lib wallets answers (some wr))
    (hstate : wr.state = .pending ∨ wr.state = .whitelisted ∨ wr.state = .signed) : answers = [] := by
  rcases h with h | ⟨wr', req, ok, hrow, -, -, hshown⟩
  · exact h
  · cases hrow
    rcases hstate with h | h | h <;> simp [h] at hshown

lemma freeOutpoints_tracked (s : Store) : s.freeOutpoints ⊆ {op | op ∈ s.utxos} := by
  rintro op ⟨u, hu, -⟩
  exact Table.mem_iff.mpr ⟨u, hu⟩

lemma updateEach_mem {f : UTXO → UTXO} {ops : List String} {utxos : Table String UTXO} {op : String}
    (h : op ∈ utxos) : op ∈ (Store.updateEach f ops utxos).2 := by
  induction ops generalizing utxos with
  | nil => exact h
  | cons op₁ ops ih =>
    unfold Store.updateEach
    split
    · exact h
    · exact ih ((AList.mem_insert _).mpr (.inr h))

section Steps

variable {lib : Lib} {wallets : Table UUID Wallet} {γ : UUID → Stage}
  {log : List (UUID × Event Call Answer)} {s s' : Store} {id : UUID} {g g' : Stage}
  {ev : Event Call Answer}

theorem Ownership.step (h : Ownership lib wallets γ log s) (hwallets : s'.wallets = s.wallets)
    (hothers : ∀ j, j ≠ id → s'.withdrawals.lookup j = s.withdrawals.lookup j)
    (hrow : ∀ wr, s'.withdrawals.lookup id = some wr → RowOk lib wallets wr)
    (hutxos : ∀ op ∈ s.utxos, op ∈ s'.utxos)
    (hok : g'.Ok lib wallets (gateway log id ++ (gatewayAnswer ev).toList) (s'.withdrawals.lookup id))
    (htake : g'.holds (gateway log id ++ (gatewayAnswer ev).toList) (s'.withdrawals.lookup id) ⊆
      (γ id).holds (gateway log id) (s.withdrawals.lookup id) ∪ s.freeOutpoints)
    (hgive : s'.freeOutpoints ⊆
      s.freeOutpoints ∪ (γ id).holds (gateway log id) (s.withdrawals.lookup id))
    (hdisj : Disjoint (g'.holds (gateway log id ++ (gatewayAnswer ev).toList)
      (s'.withdrawals.lookup id)) s'.freeOutpoints) :
    Ownership lib wallets (Function.update γ id g') (log ++ [(id, ev)]) s' := by
  rw [← gateway_append_self] at hok htake hdisj
  have hother : ∀ j, j ≠ id → ∀ P : Stage → List (BroadcastRequest × Bool) →
      Option WithdrawalRequest → Prop,
      P (γ j) (gateway log j) (s.withdrawals.lookup j) →
      P (Function.update γ id g' j) (gateway (log ++ [(id, ev)]) j) (s'.withdrawals.lookup j) := by
    intro j hj P hP
    rwa [Function.update_of_ne hj, gateway_append_other hj, hothers j hj]
  refine ⟨hwallets.trans h.wallets_eq, ?_, ?_, ?_, ?_⟩
  · intro j wr hwr
    by_cases hj : j = id
    · subst hj
      exact hrow wr hwr
    · rw [hothers j hj] at hwr
      exact h.rows j wr hwr
  · intro j
    by_cases hj : j = id
    · subst hj
      rwa [Function.update_self]
    · exact hother j hj (fun g a r => g.Ok lib wallets a r) (h.stages j)
  · refine h.exclusive.trade id ?_ ?_ hgive ?_
    · intro j hj
      exact hother j hj
        (fun g a r => g.holds a r ⊆ (γ j).holds (gateway log j) (s.withdrawals.lookup j)) le_rfl
    · rwa [Function.update_self]
    · rwa [Function.update_self]
  · intro j
    by_cases hj : j = id
    · subst hj
      rw [Function.update_self]
      refine (htake.trans (Set.union_subset (h.tracked j) (freeOutpoints_tracked s))).trans ?_
      exact hutxos
    · exact hother j hj (fun g a r => g.holds a r ⊆ {op | op ∈ s'.utxos})
        ((h.tracked j).trans hutxos)

theorem Ownership.silent (h : Ownership lib wallets γ log s) (hev : gatewayAnswer ev = none)
    (hwallets : s'.wallets = s.wallets)
    (hothers : ∀ j, j ≠ id → s'.withdrawals.lookup j = s.withdrawals.lookup j)
    (hrow : ∀ wr, s'.withdrawals.lookup id = some wr → RowOk lib wallets wr)
    (hutxos : ∀ op ∈ s.utxos, op ∈ s'.utxos)
    (hok : g'.Ok lib wallets (gateway log id) (s'.withdrawals.lookup id))
    (htake : g'.holds (gateway log id) (s'.withdrawals.lookup id) ⊆
      (γ id).holds (gateway log id) (s.withdrawals.lookup id) ∪ s.freeOutpoints)
    (hgive : s'.freeOutpoints ⊆
      s.freeOutpoints ∪ (γ id).holds (gateway log id) (s.withdrawals.lookup id))
    (hdisj : Disjoint (g'.holds (gateway log id) (s'.withdrawals.lookup id)) s'.freeOutpoints) :
    Ownership lib wallets (Function.update γ id g') (log ++ [(id, ev)]) s' := by
  have hanswers : gateway log id ++ (gatewayAnswer ev).toList = gateway log id := by simp [hev]
  refine h.step hwallets hothers hrow hutxos ?_ ?_ hgive ?_ <;> rwa [hanswers]

theorem Ownership.write (h : Ownership lib wallets γ log s) (hwallets : s'.wallets = s.wallets)
    (hothers : ∀ j, j ≠ id → s'.withdrawals.lookup j = s.withdrawals.lookup j)
    (hrow : ∀ wr, s'.withdrawals.lookup id = some wr → RowOk lib wallets wr)
    (hutxos : s'.utxos = s.utxos) (hev : gatewayAnswer ev = none)
    (hok : g'.Ok lib wallets (gateway log id) (s'.withdrawals.lookup id))
    (hholds : g'.holds (gateway log id) (s'.withdrawals.lookup id) ⊆
      (γ id).holds (gateway log id) (s.withdrawals.lookup id)) :
    Ownership lib wallets (Function.update γ id g') (log ++ [(id, ev)]) s' := by
  have hfree := freeOutpoints_congr hutxos
  refine h.silent hev hwallets hothers hrow (fun op hop => by rwa [hutxos]) hok ?_ ?_ ?_
  · exact hholds.trans Set.subset_union_left
  · rw [hfree]
    exact Set.subset_union_left
  · rw [hfree]
    exact (h.exclusive.notFree id).mono_left hholds

end Steps

section Rules

variable {α β : Type} {lib : Lib} {wallets : Table UUID Wallet} {id : UUID} {g g' : Stage}
  {wr wr' : WithdrawalRequest} {ops : List String} {Q : α → Stage → Prop}

abbrev Guarded (lib : Lib) (wallets : Table UUID Wallet) (id : UUID) (p : Proc α) (g : Stage)
    (Q : α → Stage → Prop) : Prop :=
  Safe (memStep lib) (Ownership lib wallets) id p g Q

/-- The calls that touch neither rows nor outputs and do not ask the gateway. -/
def Quiet : Call → Prop
  | .store (.getWallet _) | .store (.getWithdrawal _) | .store (.listFreeUTXOs _) => True
  | .store (.incrementPendingNonce _ _) | .store (.advanceBroadcastNonce _ _ _) => True
  | .store (.rollbackPendingNonce _ _ _) => True
  | .store _ | .ext (.broadcastTx _) => False
  | .ext _ => True

def Silent : Call → Prop
  | .ext (.sign _) => False
  | c => Quiet c

lemma Silent.quiet {c : Call} (h : Silent c) : Quiet c := by
  rcases c with c | c
  · exact h
  · cases c <;> first | exact h | exact False.elim h

def Muted : Call → Prop
  | .ext (.emit _) => False
  | c => Silent c

lemma Muted.silent {c : Call} (h : Muted c) : Silent c := by
  rcases c with c | c
  · exact h
  · cases c <;> first | exact h | exact False.elim h

lemma quiet_step {c : Call} {r : Answer c} {s s' : Store} (hc : Quiet c) (hs : memStep lib s c r s') :
    s'.wallets = s.wallets ∧ s'.withdrawals = s.withdrawals ∧ s'.utxos = s.utxos ∧
      gatewayAnswer ⟨c, r⟩ = none := by
  cases c with
  | store c =>
    obtain rfl : s' = (s.handle lib c).2 := congrArg Prod.snd hs
    cases c <;> first
      | exact False.elim hc
      | exact ⟨rfl, rfl, rfl, rfl⟩
      | exact ⟨rollbackPendingNonce_wallets _ _ _ _, rollbackPendingNonce_withdrawals _ _ _ _,
          rollbackPendingNonce_utxos _ _ _ _, rfl⟩
  | ext c =>
    obtain rfl : s' = s := hs
    cases c <;> first
      | exact False.elim hc
      | exact ⟨rfl, rfl, rfl, rfl⟩

lemma Ownership.quiet {γ : UUID → Stage} {log : List (UUID × Event Call Answer)} {s s' : Store}
    (h : Ownership lib wallets γ log s) {c : Call} {r : Answer c} (hc : Quiet c)
    (hs : memStep lib s c r s') (id : UUID) :
    Ownership lib wallets γ (log ++ [(id, ⟨c, r⟩)]) s' := by
  obtain ⟨hwallets, hrows, hutxos, hev⟩ := quiet_step hc hs
  have hstep : Ownership lib wallets (Function.update γ id (γ id)) (log ++ [(id, ⟨c, r⟩)]) s' := by
    refine h.write hwallets (fun j _ => by rw [hrows]) ?_ hutxos hev ?_ ?_
    · rw [hrows]
      exact h.rows id
    · rw [hrows]
      exact h.stages id
    · rw [hrows]
  rwa [Function.update_eq_self] at hstep

lemma Prog.AllCalls.guarded {p : Proc α} (hp : p.AllCalls Quiet) :
    Guarded lib wallets id p g (fun _ g' => g' = g) :=
  hp.safe (fun _ _ _ _ _ _ _ hI hc hs => hI.quiet hc hs id)

lemma guarded_quiet {p : Proc β} {f : β → Proc α} (hp : p.AllCalls Quiet)
    (hf : ∀ b, Guarded lib wallets id (f b) g Q) : Guarded lib wallets id (p >>= f) g Q := by
  refine Safe.bind ((Prog.AllCalls.guarded hp).mono ?_)
  rintro b g' rfl
  exact hf b

lemma guarded_silent {p : Proc β} {f : β → Proc α} (hp : p.AllCalls Silent)
    (hf : ∀ b, Guarded lib wallets id (f b) g Q) : Guarded lib wallets id (p >>= f) g Q :=
  guarded_quiet (hp.mono (fun _ => Silent.quiet)) hf

lemma guarded_getWallet {walletID : UUID} {f : Except Error Wallet → Proc α}
    (herr : ∀ err, Guarded lib wallets id (f (.error err)) g Q)
    (hok : ∀ w, wallets.lookup walletID = some w → Guarded lib wallets id (f (.ok w)) g Q) :
    Guarded lib wallets id (store (.getWallet walletID) >>= f) g Q := by
  intro γ log s r s' hg hI hs
  refine ⟨g, ?_, ?_⟩
  · rw [← hg, Function.update_eq_self]
    exact hI.quiet (show Quiet (.store (.getWallet walletID)) from trivial) hs id
  · obtain rfl : r = s.getWallet walletID := congrArg Prod.fst hs
    cases h : s.getWallet walletID with
    | error err => exact herr err
    | ok w =>
      have hw := getWallet_ok h
      rw [hI.wallets_eq] at hw
      exact hok w hw

lemma guarded_getWithdrawal {f : Except Error WithdrawalRequest → Proc α}
    (herr : ∀ err, Guarded lib wallets id (f (.error err)) .idle Q)
    (hok : ∀ wr, RowOk lib wallets wr → Guarded lib wallets id (f (.ok wr)) (.reading wr) Q ∨
      wr.state = .whitelisted ∧ Guarded lib wallets id (f (.ok wr)) (.holding wr []) Q) :
    Guarded lib wallets id (store (.getWithdrawal id) >>= f) .idle Q := by
  intro γ log s r s' hg hI hs
  obtain ⟨rfl, rfl⟩ := Prod.mk.inj (show (r, s') = (s.getWithdrawal id, s) from hs)
  have hkeep : ∀ {g'}, g'.Ok lib wallets (gateway log id) (s'.withdrawals.lookup id) →
      g'.holds (gateway log id) (s'.withdrawals.lookup id) ⊆
        (γ id).holds (gateway log id) (s'.withdrawals.lookup id) →
      Ownership lib wallets (Function.update γ id g')
        (log ++ [(id, ⟨.store (.getWithdrawal id), s'.getWithdrawal id⟩)]) s' :=
    fun hok hholds => hI.write rfl (fun _ _ => rfl) (hI.rows id) rfl rfl hok hholds
  have hsettled := hI.stages id
  rw [hg] at hsettled hkeep
  cases h : s'.getWithdrawal id with
  | error err =>
    rw [h] at hkeep
    exact ⟨.idle, hkeep hsettled le_rfl, herr err⟩
  | ok wr =>
    rw [h] at hkeep
    have hrow := getWithdrawal_ok h
    rcases hok wr (hI.rows id wr hrow) with hnext | ⟨hwl, hnext⟩
    · exact ⟨.reading wr, hkeep ⟨hrow, hsettled⟩ le_rfl, hnext⟩
    · have hunasked := Settled.unasked (hrow ▸ hsettled) (.inr (.inl hwl))
      exact ⟨.holding wr [], hkeep ⟨hrow, .inl ⟨hwl, hunasked⟩⟩ (by simp [Stage.holds]), hnext⟩

lemma guarded_write (wr wr' : WithdrawalRequest) (g' : Stage) {c : StoreCall} {a : c.Result}
    {f : Except Error c.Result → Proc α}
    (hknown : ∀ answers row, g.Ok lib wallets answers row → row = some wr)
    (hset : ∀ s, s.withdrawals.lookup id = some wr → (s.handle lib c).1 = .ok a ∧
      RowSet s (s.handle lib c).2 id wr' ∧ (s.handle lib c).2.wallets = s.wallets ∧
      (s.handle lib c).2.utxos = s.utxos)
    (hrow : RowOk lib wallets wr → RowOk lib wallets wr')
    (hmove : ∀ answers, g.Ok lib wallets answers (some wr) → g'.Ok lib wallets answers (some wr') ∧
      g'.holds answers (some wr') ⊆ g.holds answers (some wr))
    (hnext : Guarded lib wallets id (f (.ok a)) g' Q) :
    Guarded lib wallets id (store c >>= f) g Q := by
  intro γ log s r s' hg hI hs
  obtain rfl : s' = (s.handle lib c).2 := congrArg Prod.snd hs
  obtain rfl : r = (s.handle lib c).1 := congrArg Prod.fst hs
  have hstage := hI.stages id
  rw [hg] at hstage
  have hlookup := hknown _ _ hstage
  obtain ⟨ha, hrows, hwallets, hutxos⟩ := hset s hlookup
  rw [hlookup] at hstage
  obtain ⟨hok, hholds⟩ := hmove _ hstage
  refine ⟨g', ?_, ?_⟩
  · refine hI.write hwallets hrows.others ?_ hutxos rfl ?_ ?_
    · rw [hrows.row]
      rintro _ ⟨⟩
      exact hrow (hI.rows id wr hlookup)
    · rwa [hrows.row]
    · rwa [hrows.row, hlookup, hg]
  · rw [ha]
    exact hnext

lemma guarded_state (wr : WithdrawalRequest) (g' : Stage) {state : WithdrawalState}
    {reason txHash decisionID : String} {f : Except Error Unit → Proc α}
    (hknown : ∀ answers row, g.Ok lib wallets answers row → row = some wr)
    (hrow : RowOk lib wallets wr →
      RowOk lib wallets (Store.rowWithState wr state reason txHash decisionID))
    (hmove : ∀ answers, g.Ok lib wallets answers (some wr) →
      g'.Ok lib wallets answers (some (Store.rowWithState wr state reason txHash decisionID)) ∧
      g'.holds answers (some (Store.rowWithState wr state reason txHash decisionID)) ⊆
        g.holds answers (some wr))
    (hnext : Guarded lib wallets id (f (.ok ())) g' Q) :
    Guarded lib wallets id
      (store (.updateWithdrawalState id state reason txHash decisionID) >>= f) g Q := by
  refine guarded_write wr _ g' hknown ?_ hrow hmove hnext
  intro s hlookup
  exact ⟨updateWithdrawalState_ok hlookup _ _ _ _, (RowSet.refl hlookup).state _ _ _ _,
    updateWithdrawalState_wallets _ _ _ _ _ _, updateWithdrawalState_utxos _ _ _ _ _ _⟩

lemma guarded_createWithdrawal {req : CreateRequest} {f : Except Error Unit → Proc α}
    (herr : ∀ err, Guarded lib wallets id (f (.error err)) .idle Q)
    (hok : Guarded lib wallets id (f (.ok ())) (.reading (req.row id)) Q) :
    Guarded lib wallets id (store (.createWithdrawal (req.row id)) >>= f) .idle Q := by
  intro γ log s r s' hg hI hs
  have hstage := hI.stages id
  rw [hg] at hstage
  obtain rfl : s' = (s.createWithdrawal (req.row id)).2 := congrArg Prod.snd hs
  obtain rfl : r = (s.createWithdrawal (req.row id)).1 := congrArg Prod.fst hs
  rcases createWithdrawal_cases s (req.row id) with ⟨err, h⟩ | ⟨h, hnone, -⟩
  · rw [h]
    refine ⟨.idle, ?_, herr err⟩
    refine hI.write rfl (fun _ _ => rfl) (hI.rows id) rfl rfl hstage ?_
    rw [hg]
  · have hset := created_rowSet h
    rw [h]
    refine ⟨.reading (req.row id), ?_, hok⟩
    have hunasked : gateway log id = [] := by
      rcases hstage with hstage | ⟨wr, req', ok, hrow, -⟩
      · exact hstage
      · exact absurd (hnone.symm.trans hrow) (by simp)
    refine hI.write (createWithdrawal_wallets s _) hset.others ?_ (createWithdrawal_utxos s _) rfl ?_ ?_
    · rw [hset.row]
      rintro _ ⟨⟩
      exact ⟨fun _ _ _ => rfl, nofun⟩
    · exact ⟨hset.row, .inl hunasked⟩
    · rw [hset.row, hunasked]
      rintro op ⟨_, ⟨⟩, hheld, hop⟩
      cases hop

lemma guarded_lockUTXOs {f : Except Error Unit → Proc α}
    (herr : ∀ err, Guarded lib wallets id (f (.error err)) (.holding wr []) Q)
    (hok : Guarded lib wallets id (f (.ok ())) (.holding wr ops) Q) :
    Guarded lib wallets id (store (.lockUTXOs ops) >>= f) (.holding wr []) Q := by
  intro γ log s r s' hg hI hs
  have hstage := hI.stages id
  rw [hg] at hstage
  obtain rfl : s' = (s.lockUTXOs ops).2 := congrArg Prod.snd hs
  obtain rfl : r = (s.lockUTXOs ops).1 := congrArg Prod.fst hs
  cases hfree : Store.checkFree s.utxos ops with
  | error err =>
    have hrefused : s.lockUTXOs ops = (.error err, s) := by rw [Store.lockUTXOs, hfree]
    rw [hrefused]
    refine ⟨.holding wr [], ?_, herr err⟩
    refine hI.write rfl (fun _ _ => rfl) (hI.rows id) rfl rfl hstage ?_
    rw [hg]
  | ok u =>
    have hlocked : s.lockUTXOs ops = (.ok (), { s with utxos :=
        (Store.updateEach (fun u => { u with lockState := .locked }) ops s.utxos).2 }) := by
      rw [Store.lockUTXOs, hfree]
    obtain ⟨hgive, hdisj⟩ := lockUTXOs_freeOutpoints hfree
    rw [hlocked] at hgive hdisj ⊢
    refine ⟨.holding wr ops, ?_, hok⟩
    refine hI.silent rfl rfl (fun _ _ => rfl) (hI.rows id) (fun op hop => updateEach_mem hop) hstage
      ?_ ?_ hdisj
    · exact fun op hop => .inr (checkFree_ok hfree op hop)
    · exact hgive.trans Set.subset_union_left

lemma guarded_restoreUTXOs {f : Except Error Unit → Proc α}
    (hnext : ∀ r, Guarded lib wallets id (f r) (.holding wr []) Q) :
    Guarded lib wallets id (store (.restoreUTXOs ops) >>= f) (.holding wr ops) Q := by
  intro γ log s r s' hg hI hs
  have hstage := hI.stages id
  rw [hg] at hstage
  obtain rfl : s' = (s.restoreUTXOs ops).2 := congrArg Prod.snd hs
  refine ⟨.holding wr [], ?_, hnext r⟩
  refine hI.silent rfl rfl (fun _ _ => rfl) (hI.rows id) (fun op hop => updateEach_mem hop) hstage
    ?_ ?_ ?_
  · simp [Stage.holds]
  · rw [hg]
    exact restoreUTXOs_freeOutpoints s ops
  · simp [Stage.holds]

lemma guarded_markUTXOsSpent {txHash : String} {f : Except Error Unit → Proc α}
    (hnext : ∀ r, Guarded lib wallets id (f r) g Q) :
    Guarded lib wallets id (store (.markUTXOsSpent ops txHash) >>= f) g Q := by
  intro γ log s r s' hg hI hs
  have hstage := hI.stages id
  have hnotFree := hI.exclusive.notFree id
  rw [hg] at hstage hnotFree
  obtain rfl : s' = (s.markUTXOsSpent ops txHash).2 := congrArg Prod.snd hs
  have hfree := markUTXOsSpent_freeOutpoints s ops txHash
  refine ⟨g, ?_, hnext r⟩
  refine hI.silent rfl rfl (fun _ _ => rfl) (hI.rows id) (fun op hop => updateEach_mem hop) hstage
    ?_ ?_ (hnotFree.mono_right hfree)
  · rw [hg]
    exact Set.subset_union_left
  · exact hfree.trans Set.subset_union_left

lemma guarded_broadcastTx {req : BroadcastRequest} {f : Except Error BroadcastResponse → Proc α}
    (hsigned : wr.state = .signed) (hcarries : Carries lib wallets wr req.txBytes)
    (herr : ∀ err, Guarded lib wallets id (f (.error err)) (.holding wr wr.reservedOutpoints) Q)
    (hok : ∀ resp, Guarded lib wallets id (f (.ok resp)) (.accepted wr) Q) :
    Guarded lib wallets id (ext (.broadcastTx req) >>= f) (.reading wr) Q := by
  intro γ log s r s' hg hI hs
  obtain rfl : s' = s := hs
  have hstage := hI.stages id
  have hnotFree := hI.exclusive.notFree id
  rw [hg] at hstage hnotFree
  obtain ⟨hrow, hsettled⟩ := hstage
  have hunasked := Settled.unasked (hrow ▸ hsettled) (.inr (.inr hsigned))
  have hheld : (Stage.reading wr).holds [] (s'.withdrawals.lookup id) =
      {op | op ∈ wr.reservedOutpoints} := by
    simp [Stage.holds, rowHolds, hrow, hsigned, WithdrawalState.isLive]
  rw [hunasked] at hnotFree
  have hmove : ∀ {g'}, g'.Ok lib wallets (gatewayAnswer ⟨.ext (.broadcastTx req), r⟩).toList
        (s'.withdrawals.lookup id) →
      g'.holds (gatewayAnswer ⟨.ext (.broadcastTx req), r⟩).toList (s'.withdrawals.lookup id) ⊆
        {op | op ∈ wr.reservedOutpoints} →
      Ownership lib wallets (Function.update γ id g')
        (log ++ [(id, ⟨.ext (.broadcastTx req), r⟩)]) s' := by
    intro g' hok hholds
    rw [← hheld] at hholds
    refine hI.step rfl (fun _ _ => rfl) (hI.rows id) (fun _ hop => hop) ?_ ?_ Set.subset_union_left ?_
    · rwa [hunasked]
    · rw [hg, hunasked]
      exact hholds.trans Set.subset_union_left
    · rw [hunasked]
      exact hnotFree.mono_left hholds
  cases r with
  | error err =>
    refine ⟨.holding wr wr.reservedOutpoints, hmove ?_ le_rfl, herr err⟩
    exact ⟨hrow, .inr ⟨hsigned, req, rfl, hcarries⟩⟩
  | ok resp =>
    refine ⟨.accepted wr, hmove ⟨hrow, hsigned, req, rfl, hcarries⟩ ?_, hok resp⟩
    rintro op ⟨wr', hrow', -, hop⟩
    rw [hrow] at hrow'
    cases hrow'
    exact hop

end Rules

end WalletManager.Proofs
