import WalletManager.Storage.Rules
import WalletManager.Withdrawal.Holdings

/-!
# What one operation of the saga can do

`Outcome s op obs s'` lists every way an operation can end on the memory store, with the
store it leaves and what it did that matters outside: a nonce it reserved, a transaction
the gateway accepted. `op_outcome` derives it from the procedures, and the safety proofs
argue only about outcomes.
-/

namespace WalletManager.Proofs

open Interaction

inductive Obs
  | accepted
  | reserved (key : String) (n : Int)
  deriving DecidableEq

def observe : Event Call Answer → Option Obs
  | ⟨.ext (.broadcastTx _), .ok _⟩ => some .accepted
  | ⟨.store (.incrementPendingNonce walletID chain), .ok (n, _)⟩ =>
    some (.reserved (nonceKey walletID chain) n)
  | _ => none

def released (s : Store) (w : Wallet) (n : Int) (ops : List String) : Store :=
  let s := if 0 ≤ n ∧ w.chain.isEVM then (s.rollbackPendingNonce w.id w.chain.string n).2 else s
  if ops.length > 0 then (s.restoreUTXOs ops).2 else s

/-- What `Broadcast` leaves of the reserved resources once the gateway has accepted. -/
def committed (s : Store) (wr : WithdrawalRequest) (w : Wallet) (txHash : String) : Store :=
  let s := if w.chain = .bitcoin ∧ wr.reservedOutpoints.length > 0 then
    (s.markUTXOsSpent wr.reservedOutpoints txHash).2 else s
  if w.chain.isEVM then
    match wr.nonceValue with
    | none => s
    | some n => (s.advanceBroadcastNonce wr.walletID w.chain.string n).2
  else s

/-- The reservation stage of `ConstructAndSign` when it succeeds: what it reserves, the row
it leaves, what is observed of it, and the store after it. -/
inductive Reserved (s : Store) (id : UUID) (wr : WithdrawalRequest) (w : Wallet) :
    Int → List String → WithdrawalRequest → List Obs → Store → Prop
  | evm {n : Int} : w.chain.isEVM → n = s.pendingNonce (nonceKey wr.walletID w.chain.string) →
    Reserved s id wr w n [] { wr with nonceValue := some n }
      [.reserved (nonceKey wr.walletID w.chain.string) n]
      ((s.incrementPendingNonce wr.walletID w.chain.string).2.updateWithdrawalNonce id n).2
  | bitcoin {ops : List String} : w.chain = .bitcoin → Store.checkFree s.utxos ops = .ok () →
    Reserved s id wr w (-1) ops { wr with reservedOutpoints := ops } []
      ((s.lockUTXOs ops).2.updateWithdrawalOutpoints id ops).2
  | plain : w.chain.isEVM = false → w.chain ≠ .bitcoin → Reserved s id wr w (-1) [] wr [] s

inductive Outcome (s : Store) : Op → List Obs → Store → Prop
  | refused {op : Op} : Outcome s op [] s
  | created {id : UUID} {req : CreateRequest} {state : WithdrawalState} {reason decisionID : String} :
    (s.createWithdrawal (req.row id)).1 = .ok () → state = .whitelisted ∨ state = .failed →
    Outcome s (.create id req) []
      ((s.createWithdrawal (req.row id)).2.updateWithdrawalState id state reason "" decisionID).2
  | unfunded {id : UUID} {wr : WithdrawalRequest} {w : Wallet} : w.chain = .bitcoin →
    Outcome s (.constructAndSign id) [] (s.rollbackPendingNonce wr.walletID w.chain.string (-1)).2
  | dropped {id : UUID} {wr : WithdrawalRequest} {w : Wallet} {n : Int} {ops : List String}
      {wr₁ : WithdrawalRequest} {obs : List Obs} {s₁ : Store} :
    s.withdrawals.lookup id = some wr → wr.state = .whitelisted →
    s.wallets.lookup wr.walletID = some w → Reserved s id wr w n ops wr₁ obs s₁ →
    Outcome s (.constructAndSign id) obs (released s₁ w n ops)
  | unsigned {id : UUID} {wr : WithdrawalRequest} {w : Wallet} {n : Int} {ops : List String}
      {wr₁ : WithdrawalRequest} {obs : List Obs} {s₁ : Store} {reason : String} :
    s.withdrawals.lookup id = some wr → wr.state = .whitelisted →
    s.wallets.lookup wr.walletID = some w → Reserved s id wr w n ops wr₁ obs s₁ →
    Outcome s (.constructAndSign id) obs
      ((released s₁ w n ops).updateWithdrawalState id .failed reason "" "").2
  | signed {id : UUID} {wr : WithdrawalRequest} {w : Wallet} {n : Int} {ops : List String}
      {wr₁ : WithdrawalRequest} {obs : List Obs} {s₁ : Store} {txBytes : Bytes} :
    s.withdrawals.lookup id = some wr → wr.state = .whitelisted →
    s.wallets.lookup wr.walletID = some w → Reserved s id wr w n ops wr₁ obs s₁ →
    Outcome s (.constructAndSign id) obs
      ((s₁.updateWithdrawalSignedTx id txBytes).2.updateWithdrawalState id .signed "" "" "").2
  | rejected {id : UUID} {wr : WithdrawalRequest} {w : Wallet} :
    s.withdrawals.lookup id = some wr → wr.state = .signed →
    s.wallets.lookup wr.walletID = some w →
    Outcome s (.broadcast id) []
      ((released s w (noncePtr wr) wr.reservedOutpoints).updateWithdrawalState id .failed
        "broadcast_failed" "" "").2
  | accepted {id : UUID} {wr : WithdrawalRequest} {w : Wallet} {txHash : String} :
    s.withdrawals.lookup id = some wr → wr.state = .signed →
    s.wallets.lookup wr.walletID = some w →
    Outcome s (.broadcast id) [.accepted]
      ((committed s wr w txHash).updateWithdrawalState id .broadcast "" txHash "").2
  | confirmed {id : UUID} {wr : WithdrawalRequest} {txHash : String} :
    s.withdrawals.lookup id = some wr → wr.state = .broadcast →
    Outcome s (.confirm id txHash) [] (s.updateWithdrawalState id .confirmed "" txHash "").2
  | failed {id : UUID} {wr : WithdrawalRequest} {w : Wallet} {reason : String} :
    s.withdrawals.lookup id = some wr → s.wallets.lookup wr.walletID = some w →
    Outcome s (.fail id reason) []
      ((released s w (noncePtr wr) []).updateWithdrawalState id .failed reason "" "").2
  | restored {id : UUID} {wr : WithdrawalRequest} {ops : List String} :
    s.withdrawals.lookup id = some wr →
    Outcome s (.onReorg id ops) [] (s.restoreUTXOs ops).2
  | demoted {id : UUID} {wr : WithdrawalRequest} {ops : List String} :
    s.withdrawals.lookup id = some wr → wr.state = .confirmed →
    Outcome s (.onReorg id ops) []
      ((s.restoreUTXOs ops).2.updateWithdrawalState id .broadcast "reorg" "" "").2

abbrev Saga {α : Type} (lib : Lib) (p : Proc α) (s : Store) (Q : List Obs → α → Store → Prop) : Prop :=
  Ends (memStep lib) observe p s Q

section Procedures

variable {lib : Lib} {svc : Service} {s : Store}

lemma pendingNonce_eq (s : Store) (walletID : UUID) (chain : String) :
    (s.nonceRow walletID chain).pendingNonce = s.pendingNonce (nonceKey walletID chain) := by
  unfold Store.nonceRow Store.pendingNonce
  cases s.nonces.lookup (nonceKey walletID chain) <;> rfl

lemma reserveNonceLoop_saga (walletID : UUID) (chain lockName : String) (attempts : Nat) :
    Saga lib (reserveNonceLoop walletID chain lockName attempts) s (fun l r s' =>
      (∃ err, r = .error err ∧ s' = s ∧ l = []) ∨
      (r = .ok (s.pendingNonce (nonceKey walletID chain)) ∧
        s' = (s.incrementPendingNonce walletID chain).2 ∧
        l = [.reserved (nonceKey walletID chain) (s.pendingNonce (nonceKey walletID chain))])) := by
  induction attempts with
  | zero => exact ends_ret.mpr (.inl ⟨_, rfl, rfl, rfl⟩)
  | succ attempts ih =>
    apply ends_ext
    rintro (err | ⟨token, ok⟩)
    · exact ends_ret.mpr (.inl ⟨_, rfl, rfl, rfl⟩)
    · cases ok with
      | false => exact ih
      | true =>
        apply ends_store
        apply ends_ext
        intro _
        rw [← pendingNonce_eq]
        exact ends_ret.mpr (.inr ⟨rfl, rfl, rfl⟩)

lemma rollbackPendingNonce_ok (s : Store) (walletID : UUID) (chain : String) (n : Int) :
    ∃ rows, (s.rollbackPendingNonce walletID chain n).1 = .ok rows := by
  unfold Store.rollbackPendingNonce
  split
  · exact ⟨0, rfl⟩
  · dsimp only
    split
    · exact ⟨1, rfl⟩
    · exact ⟨0, rfl⟩

lemma rollbackNonce_saga (walletID : UUID) (chain : String) (n : Int) :
    Saga lib (rollbackNonce walletID chain n) s (fun l r s' =>
      s' = (s.rollbackPendingNonce walletID chain n).2 ∧ l = [] ∧ r = .ok ()) := by
  obtain ⟨rows, hrows⟩ := rollbackPendingNonce_ok s walletID chain n
  refine ends_store_ok hrows ?_
  exact ends_ret.mpr ⟨rfl, rfl, rfl⟩

lemma unlock_saga (ops : List String) :
    Saga lib (if ops.length > 0 then do let _ ← unlock ops; pure () else pure ()) s (fun l _ s' =>
      s' = (if ops.length > 0 then (s.restoreUTXOs ops).2 else s) ∧ l = []) := by
  by_cases hops : ops.length > 0
  · rw [if_pos hops, if_pos hops]
    apply ends_store
    exact ends_ret.mpr ⟨rfl, rfl⟩
  · rw [if_neg hops, if_neg hops]
    exact ends_ret.mpr ⟨rfl, rfl⟩

lemma rollback_saga (w : Wallet) (n : Int) (ops : List String) :
    Saga lib (Service.rollback w n ops) s (fun l _ s' => s' = released s w n ops ∧ l = []) := by
  unfold Service.rollback released
  by_cases hn : 0 ≤ n ∧ w.chain.isEVM = true
  · simp only [if_pos hn]
    refine Ends.bind (rollbackNonce_saga _ _ _) ?_
    rintro l _ s₁ ⟨rfl, rfl, -⟩
    exact unlock_saga ops
  · simp only [if_neg hn]
    exact unlock_saga ops

lemma rollback_bind {α : Type} {w : Wallet} {n : Int} {ops : List String} {f : Unit → Proc α}
    {Q : List Obs → α → Store → Prop} (h : Saga lib (f ()) (released s w n ops) Q) :
    Saga lib (Service.rollback w n ops >>= f) s Q := by
  refine Ends.bind (rollback_saga w n ops) ?_
  rintro l _ s₁ ⟨rfl, rfl⟩
  exact h

lemma emit_saga (e : AuditEvent) :
    Saga lib (svc.emit e) s (fun l _ s' => s' = s ∧ l = []) := by
  unfold Service.emit
  split
  · apply ends_ext
    intro _
    exact ends_ret.mpr ⟨rfl, rfl⟩
  · exact ends_ret.mpr ⟨rfl, rfl⟩

lemma emit_ok_saga {Q : List Obs → Except Error Unit → Store → Prop} (e : AuditEvent)
    (h : Q [] (.ok ()) s) : Saga lib (do svc.emit e; return .ok ()) s Q := by
  refine Ends.bind (emit_saga e) ?_
  rintro l _ s₁ ⟨rfl, rfl⟩
  exact ends_ret.mpr h

def selection (lib : Lib) (s : Store) (walletID : UUID) (amount : ℚ) : List String × ℚ :=
  selectLoop lib amount
    (lib.sortSlice (fun a b => decide (parseDec lib b.value < parseDec lib a.value))
      (s.listFreeUTXOs lib walletID)) [] 0

def Selectable (lib : Lib) (s : Store) (walletID : UUID) (amount : ℚ) : Prop :=
  amount ≤ (selection lib s walletID amount).2 ∧
    Store.checkFree s.utxos (selection lib s walletID amount).1 = .ok ()

def Funded (lib : Lib) (s : Store) (wr : WithdrawalRequest) : Prop :=
  ∃ amount, lib.newFromString wr.amount = .ok amount ∧ Selectable lib s wr.walletID amount

lemma selectForAmount_saga (walletID : UUID) (amount : ℚ) :
    Saga lib (selectForAmount lib walletID amount) s (fun l r s' => l = [] ∧
      ((∃ err, r = .error err ∧ ¬ Selectable lib s walletID amount ∧ s' = s) ∨
        (∃ ops total, r = .ok (ops, total) ∧ Store.checkFree s.utxos ops = .ok () ∧
          s' = (s.lockUTXOs ops).2))) := by
  apply ends_store
  dsimp only [Store.handle]
  split
  · rename_i hlt
    exact ends_ret.mpr ⟨rfl, .inl ⟨_, rfl, fun hsel => not_lt.mpr hsel.1 hlt, rfl⟩⟩
  · apply ends_store
    dsimp only [Store.handle, Store.lockUTXOs]
    cases hfree : Store.checkFree s.utxos _ with
    | error err =>
      refine ends_ret.mpr ⟨rfl, .inl ⟨_, rfl, ?_, rfl⟩⟩
      intro hsel
      cases hfree.symm.trans hsel.2
    | ok u =>
      refine ends_ret.mpr ⟨rfl, .inr ⟨_, _, rfl, hfree, ?_⟩⟩
      rw [hfree]

lemma resolveBuildOpts_saga (w : Wallet) :
    Saga lib (svc.resolveBuildOpts w) s (fun l _ s' => s' = s ∧ l = []) := by
  unfold Service.resolveBuildOpts
  split
  · apply ends_ext
    rintro (err | bk) <;> exact ends_ret.mpr ⟨rfl, rfl⟩
  · split
    · apply ends_ext
      rintro (err | sk) <;> exact ends_ret.mpr ⟨rfl, rfl⟩
    · exact ends_ret.mpr ⟨rfl, rfl⟩

lemma solanaBlockhash_saga (opts : BuildOpts) :
    Saga lib (solanaBlockhash lib opts) s (fun l _ s' => s' = s ∧ l = []) := by
  unfold solanaBlockhash
  dsimp only
  split
  · apply ends_ext
    rintro (err | fetched)
    · dsimp only
      split <;> exact ends_ret.mpr ⟨rfl, rfl⟩
    · exact ends_ret.mpr ⟨rfl, rfl⟩
  · exact ends_ret.mpr ⟨rfl, rfl⟩

def BuiltBy (lib : Lib) (evm : EVMParams) (w : Wallet) (wr : WithdrawalRequest) (n : Int)
    (ops : List String) (opts : BuildOpts) (r : Except Error UnsignedTx) : Prop :=
  (w.chain.isEVM → r = buildEVMUnsignedTx lib evm w wr n) ∧
    (w.chain = .bitcoin → r = buildBTCUnsignedTx lib wr ops opts)

lemma buildUnsignedTx_saga (evm : EVMParams) (w : Wallet) (wr : WithdrawalRequest) (n : Int)
    (ops : List String) (opts : BuildOpts) :
    Saga lib (buildUnsignedTx lib evm w wr n ops opts) s (fun l r s' => s' = s ∧ l = [] ∧
      BuiltBy lib evm w wr n ops opts r) := by
  unfold buildUnsignedTx
  split
  · rename_i hevm
    refine ends_ret.mpr ⟨rfl, rfl, fun _ => rfl, fun hbtc => ?_⟩
    rw [hbtc] at hevm
    cases hevm
  rename_i hevm
  split
  · exact ends_ret.mpr ⟨rfl, rfl, fun h => absurd h hevm, fun _ => rfl⟩
  rename_i hbtc
  have hother : ∀ r, BuiltBy lib evm w wr n ops opts r :=
    fun r => ⟨fun h => absurd h hevm, fun h => absurd h hbtc⟩
  split
  · unfold buildSolanaUnsignedTx
    dsimp only
    split
    · exact ends_ret.mpr ⟨rfl, rfl, hother _⟩
    split
    · exact ends_ret.mpr ⟨rfl, rfl, hother _⟩
    refine Ends.bind (solanaBlockhash_saga opts) ?_
    rintro l (err | blockhash) s₁ ⟨rfl, rfl⟩ <;> exact ends_ret.mpr ⟨rfl, rfl, hother _⟩
  · exact ends_ret.mpr ⟨rfl, rfl, hother _⟩

lemma updateWithdrawal_ok {s : Store} {id : UUID} {wr : WithdrawalRequest}
    (hrow : s.withdrawals.lookup id = some wr) (f : WithdrawalRequest → WithdrawalRequest) :
    s.updateWithdrawal id f = (.ok (), { s with withdrawals := s.withdrawals.insert id (f wr) }) := by
  unfold Store.updateWithdrawal
  rw [hrow]

lemma updateWithdrawalState_ok {s : Store} {id : UUID} {wr : WithdrawalRequest}
    (hrow : s.withdrawals.lookup id = some wr) (state : WithdrawalState)
    (reason txHash policyDecisionID : String) :
    (s.updateWithdrawalState id state reason txHash policyDecisionID).1 = .ok () := by
  unfold Store.updateWithdrawalState
  rw [hrow]

lemma reserve_saga {id : UUID} {wr : WithdrawalRequest} (hrow : s.withdrawals.lookup id = some wr)
    (w : Wallet) :
    Saga svc.lib (svc.reserve id wr w) s (fun l r s' =>
      (∃ err, r = .error err ∧ l = [] ∧ (s' = s ∨ w.chain = .bitcoin ∧ ¬ Funded svc.lib s wr ∧
        s' = (s.rollbackPendingNonce wr.walletID w.chain.string (-1)).2)) ∨
      (∃ n ops wr₁, r = .ok (n, ops) ∧ Reserved s id wr w n ops wr₁ l s')) := by
  unfold Service.reserve
  split
  · rename_i hevm
    refine Ends.bind (reserveNonceLoop_saga _ _ _ _) ?_
    rintro l r s₁ (⟨err, rfl, rfl, rfl⟩ | ⟨rfl, rfl, rfl⟩)
    · exact ends_ret.mpr (.inl ⟨_, rfl, rfl, .inl rfl⟩)
    · apply ends_store
      exact ends_ret.mpr (.inr ⟨_, _, _, rfl, .evm hevm rfl⟩)
  split
  · rename_i hbtc
    have hearly : ¬ Funded svc.lib s wr → ∀ (err : Error), Saga svc.lib (do
        let _ ← rollbackNonce wr.walletID w.chain.string (-1)
        return (.error err : Except Error (Int × List String))) s (fun l r s' =>
      (∃ err, r = .error err ∧ l = [] ∧ (s' = s ∨ w.chain = .bitcoin ∧ ¬ Funded svc.lib s wr ∧
        s' = (s.rollbackPendingNonce wr.walletID w.chain.string (-1)).2)) ∨
      (∃ n ops wr₁, r = .ok (n, ops) ∧ Reserved s id wr w n ops wr₁ l s')) := by
      intro hfunded err
      refine Ends.bind (rollbackNonce_saga _ _ _) ?_
      rintro l _ s₁ ⟨rfl, rfl, -⟩
      exact ends_ret.mpr (.inl ⟨_, rfl, rfl, .inr ⟨hbtc, hfunded, rfl⟩⟩)
    cases hamount : svc.lib.newFromString wr.amount with
    | error err =>
      apply hearly
      rintro ⟨amount, hok, -⟩
      cases hamount.symm.trans hok
    | ok amount =>
      refine Ends.bind (selectForAmount_saga _ _) ?_
      rintro l r s₁ ⟨rfl, ⟨err, rfl, hsel, rfl⟩ | ⟨ops, total, rfl, hfree, rfl⟩⟩
      · apply hearly
        rintro ⟨amount', hok, hsel'⟩
        cases hamount.symm.trans hok
        exact hsel hsel'
      · have hlocked : (s.lockUTXOs ops).2.withdrawals.lookup id = some wr := by
          rw [Store.lockUTXOs, hfree]
          exact hrow
        refine ends_store_ok (congrArg Prod.fst (updateWithdrawal_ok hlocked _)) ?_
        exact ends_ret.mpr (.inr ⟨_, _, _, rfl, .bitcoin hbtc hfree⟩)
  · rename_i hevm hbtc
    exact ends_ret.mpr (.inr ⟨_, _, _, rfl, .plain (Bool.eq_false_iff.mpr hevm) hbtc⟩)

lemma Reserved.row {id : UUID} {wr wr₁ : WithdrawalRequest} {w : Wallet} {n : Int}
    {ops : List String} {l : List Obs} {s₁ : Store} (h : Reserved s id wr w n ops wr₁ l s₁)
    (hrow : s.withdrawals.lookup id = some wr) : s₁.withdrawals.lookup id = some wr₁ := by
  cases h with
  | evm hevm hn =>
    have hinc : (s.incrementPendingNonce wr.walletID w.chain.string).2.withdrawals.lookup id =
        some wr := hrow
    rw [Store.updateWithdrawalNonce, updateWithdrawal_ok hinc]
    exact AList.lookup_insert _
  | bitcoin hbtc hfree =>
    have hlocked : (s.lockUTXOs ops).2.withdrawals.lookup id = some wr := by
      rw [Store.lockUTXOs, hfree]
      exact hrow
    rw [Store.updateWithdrawalOutpoints, updateWithdrawal_ok hlocked]
    exact AList.lookup_insert _
  | plain => exact hrow

def Assembled (svc : Service) (w : Wallet) (wr : WithdrawalRequest) (n : Int) (ops : List String)
    (txBytes : Bytes) : Prop :=
  ∃ opts unsigned signature, BuiltBy svc.lib svc.evm w wr n ops opts (.ok unsigned) ∧
    unsigned.assemble signature = .ok txBytes

lemma signReserved_saga {id : UUID} {wr₁ : WithdrawalRequest}
    (hrow : s.withdrawals.lookup id = some wr₁) (wr : WithdrawalRequest) (w : Wallet)
    (keyID : String) (n : Int) (ops : List String) :
    Saga svc.lib (svc.signReserved id wr w keyID n ops) s (fun l r s' => l = [] ∧
      (s' = released s w n ops ∨
        (∃ reason, s' = ((released s w n ops).updateWithdrawalState id .failed reason "" "").2) ∨
        (∃ txBytes, r = .ok () ∧ Assembled svc w wr n ops txBytes ∧
          s' = ((s.updateWithdrawalSignedTx id txBytes).2.updateWithdrawalState id .signed
            "" "" "").2))) := by
  unfold Service.signReserved
  refine Ends.bind (resolveBuildOpts_saga w) ?_
  rintro l (err | opts) s₁ ⟨rfl, rfl⟩
  · exact rollback_bind (ends_ret.mpr ⟨rfl, .inl rfl⟩)
  refine Ends.bind (buildUnsignedTx_saga _ w wr n ops opts) ?_
  rintro l (err | unsigned) s₂ ⟨rfl, rfl, hbuilt⟩
  · exact rollback_bind (ends_ret.mpr ⟨rfl, .inl rfl⟩)
  apply ends_ext
  rintro (err | resp)
  · exact rollback_bind (ends_store (ends_ret.mpr ⟨rfl, .inr (.inl ⟨_, rfl⟩)⟩))
  dsimp only
  split
  · exact rollback_bind (ends_store (ends_ret.mpr ⟨rfl, .inr (.inl ⟨_, rfl⟩)⟩))
  · rename_i signedBytes hassemble
    have hsaved := updateWithdrawal_ok hrow (fun w => { w with signedTxBytes := signedBytes })
    have hlookup : (s₂.updateWithdrawalSignedTx id signedBytes).2.withdrawals.lookup id =
        some { wr₁ with signedTxBytes := signedBytes } := by
      rw [Store.updateWithdrawalSignedTx, hsaved]
      exact AList.lookup_insert _
    refine ends_store_ok (congrArg Prod.fst hsaved) ?_
    refine ends_store_ok (updateWithdrawalState_ok hlookup _ _ _ _) ?_
    exact emit_ok_saga _ ⟨rfl, .inr (.inr ⟨_, rfl, ⟨_, _, _, hbuilt, hassemble⟩, rfl⟩)⟩

end Procedures

section Operations

variable {svc : Service} {s : Store}

lemma getWithdrawal_ok {id : UUID} {wr : WithdrawalRequest} (h : s.getWithdrawal id = .ok wr) :
    s.withdrawals.lookup id = some wr := by
  unfold Store.getWithdrawal at h
  split at h
  · cases h
  · rename_i w hw
    cases h
    exact hw

lemma getWallet_ok {id : UUID} {w : Wallet} (h : s.getWallet id = .ok w) :
    s.wallets.lookup id = some w := by
  unfold Store.getWallet at h
  split at h
  · cases h
  · rename_i w hw
    cases h
    exact hw

lemma getWithdrawal_saga {α : Type} {id : UUID} {f : Except Error WithdrawalRequest → Proc α}
    {Q : List Obs → α → Store → Prop} (herr : ∀ err, Saga lib (f (.error err)) s Q)
    (hok : ∀ wr, s.withdrawals.lookup id = some wr → Saga lib (f (.ok wr)) s Q) :
    Saga lib (store (.getWithdrawal id) >>= f) s Q := by
  apply ends_store
  change Saga lib (f (s.getWithdrawal id)) s Q
  cases h : s.getWithdrawal id with
  | error err => exact herr err
  | ok wr => exact hok wr (getWithdrawal_ok h)

lemma getWallet_saga {α : Type} {id : UUID} {f : Except Error Wallet → Proc α}
    {Q : List Obs → α → Store → Prop} (herr : ∀ err, Saga lib (f (.error err)) s Q)
    (hok : ∀ w, s.wallets.lookup id = some w → Saga lib (f (.ok w)) s Q) :
    Saga lib (store (.getWallet id) >>= f) s Q := by
  apply ends_store
  change Saga lib (f (s.getWallet id)) s Q
  cases h : s.getWallet id with
  | error err => exact herr err
  | ok w => exact hok w (getWallet_ok h)

lemma resolveKeyID_saga (walletID : UUID) :
    Saga svc.lib (svc.resolveKeyID walletID) s (fun l _ s' => s' = s ∧ l = []) := by
  unfold Service.resolveKeyID
  split
  · apply ends_ext
    rintro (err | k) <;> exact ends_ret.mpr ⟨rfl, rfl⟩
  · exact ends_ret.mpr ⟨rfl, rfl⟩

lemma constructAndSign_saga (id : UUID) :
    Saga svc.lib (svc.constructAndSign id) s (fun l r s' =>
      (l = [] ∧ s' = s) ∨
      (∃ wr w, s.withdrawals.lookup id = some wr ∧ wr.state = .whitelisted ∧
        s.wallets.lookup wr.walletID = some w ∧ w.chain = .bitcoin ∧ ¬ Funded svc.lib s wr ∧ l = [] ∧
        s' = (s.rollbackPendingNonce wr.walletID w.chain.string (-1)).2) ∨
      (∃ wr w n ops wr₁ s₁, s.withdrawals.lookup id = some wr ∧ wr.state = .whitelisted ∧
        s.wallets.lookup wr.walletID = some w ∧ Reserved s id wr w n ops wr₁ l s₁ ∧
        (s' = released s₁ w n ops ∨
          (∃ reason, s' = ((released s₁ w n ops).updateWithdrawalState id .failed reason "" "").2) ∨
          (∃ txBytes, r = .ok () ∧ Assembled svc w wr n ops txBytes ∧
            s' = ((s₁.updateWithdrawalSignedTx id txBytes).2.updateWithdrawalState id .signed
              "" "" "").2)))) := by
  refine getWithdrawal_saga (fun err => ends_ret.mpr (.inl ⟨rfl, rfl⟩)) ?_
  intro wr hrow
  dsimp only
  split
  · exact ends_ret.mpr (.inl ⟨rfl, rfl⟩)
  rename_i hstate
  refine getWallet_saga (fun err => ends_ret.mpr (.inl ⟨rfl, rfl⟩)) ?_
  intro w hw
  refine Ends.bind (resolveKeyID_saga _) ?_
  rintro l (err | keyID) s₁ ⟨rfl, rfl⟩
  · exact ends_ret.mpr (.inl ⟨rfl, rfl⟩)
  refine Ends.bind (reserve_saga hrow w) ?_
  rintro l r s₂ (⟨err, rfl, rfl, rfl | ⟨hbtc, hfunded, rfl⟩⟩ | ⟨n, ops, wr₁, rfl, hres⟩)
  · exact ends_ret.mpr (.inl ⟨rfl, rfl⟩)
  · exact ends_ret.mpr (.inr (.inl ⟨wr, w, hrow, not_not.mp hstate, hw, hbtc, hfunded, rfl, rfl⟩))
  · refine (signReserved_saga (hres.row hrow) wr w keyID n ops).mono ?_
    rintro l' _ s₃ ⟨rfl, hend⟩
    simp only [List.nil_append, List.append_nil]
    exact .inr (.inr ⟨wr, w, n, ops, wr₁, s₂, hrow, not_not.mp hstate, hw, hres, hend⟩)

lemma constructAndSign_outcome (id : UUID) :
    Saga svc.lib (svc.constructAndSign id) s (fun l _ s' => Outcome s (.constructAndSign id) l s') := by
  refine (constructAndSign_saga id).mono ?_
  rintro l _ s' (⟨rfl, rfl⟩ | ⟨wr, w, -, -, -, hbtc, -, rfl, rfl⟩ |
    ⟨wr, w, n, ops, wr₁, s₁, hrow, hwl, hw, hres, rfl | ⟨reason, rfl⟩ | ⟨txBytes, -, -, rfl⟩⟩)
  · exact .refused
  · exact .unfunded hbtc
  · exact .dropped hrow hwl hw hres
  · exact .unsigned hrow hwl hw hres
  · exact .signed hrow hwl hw hres

lemma commitReserved_saga {lib : Lib} (wr : WithdrawalRequest) (w : Wallet) :
    Saga lib (if w.chain.isEVM then
        match wr.nonceValue with
        | none => return ()
        | some n => do
          let _ ← commitNonce wr.walletID w.chain.string n
      else return ()) s (fun l _ s' => l = [] ∧ s' = (if w.chain.isEVM then
        match wr.nonceValue with
        | none => s
        | some n => (s.advanceBroadcastNonce wr.walletID w.chain.string n).2
      else s)) := by
  by_cases hevm : w.chain.isEVM = true
  · rw [if_pos hevm, if_pos hevm]
    cases wr.nonceValue with
    | none => exact ends_ret.mpr ⟨rfl, rfl⟩
    | some n => exact ends_store (ends_ret.mpr ⟨rfl, rfl⟩)
  · rw [if_neg hevm, if_neg hevm]
    exact ends_ret.mpr ⟨rfl, rfl⟩

lemma settle_saga {lib : Lib} (wr : WithdrawalRequest) (w : Wallet) (txHash : String) :
    Saga lib (Service.settle wr w txHash) s
      (fun l _ s' => l = [] ∧ s' = committed s wr w txHash) := by
  unfold Service.settle committed
  by_cases hbtc : w.chain = .bitcoin ∧ wr.reservedOutpoints.length > 0
  · simp only [if_pos hbtc]
    exact ends_store (commitReserved_saga wr w)
  · simp only [if_neg hbtc]
    exact commitReserved_saga wr w

lemma committed_withdrawals (s : Store) (wr : WithdrawalRequest) (w : Wallet) (txHash : String) :
    (committed s wr w txHash).withdrawals = s.withdrawals := by
  unfold committed Store.advanceBroadcastNonce Store.markUTXOsSpent
  grind

lemma committed_nonces (s : Store) (wr : WithdrawalRequest) (w : Wallet) (txHash : String) :
    ∃ s₁ : Store, s₁.nonces = s.nonces ∧ (committed s wr w txHash = s₁ ∨
      ∃ n, w.chain.isEVM ∧ wr.nonceValue = some n ∧
        committed s wr w txHash = (s₁.advanceBroadcastNonce wr.walletID w.chain.string n).2) := by
  refine ⟨if w.chain = .bitcoin ∧ wr.reservedOutpoints.length > 0 then
    (s.markUTXOsSpent wr.reservedOutpoints txHash).2 else s, ?_, ?_⟩
  · split <;> rfl
  · unfold committed
    by_cases hevm : w.chain.isEVM = true
    · simp only [if_pos hevm]
      cases hn : wr.nonceValue with
      | none => exact .inl rfl
      | some n => exact .inr ⟨n, hevm, rfl, rfl⟩
    · exact .inl (if_neg hevm)

lemma recordBroadcast_saga {id : UUID} {wr : WithdrawalRequest}
    (hrow : s.withdrawals.lookup id = some wr) (w : Wallet) (txHash : String) :
    Saga svc.lib (svc.recordBroadcast id wr w txHash) s (fun l _ s' => l = [] ∧
      s' = ((committed s wr w txHash).updateWithdrawalState id .broadcast "" txHash "").2) := by
  refine Ends.bind (settle_saga wr w txHash) ?_
  rintro l _ s₁ ⟨rfl, rfl⟩
  have hcommitted : (committed s wr w txHash).withdrawals.lookup id = some wr := by
    rw [committed_withdrawals]
    exact hrow
  refine ends_store_ok (updateWithdrawalState_ok hcommitted _ _ _ _) ?_
  exact emit_ok_saga _ ⟨rfl, rfl⟩

lemma broadcast_outcome (id : UUID) :
    Saga svc.lib (svc.broadcast id) s (fun l _ s' => Outcome s (.broadcast id) l s') := by
  refine getWithdrawal_saga (fun err => ends_ret.mpr .refused) ?_
  intro wr hrow
  dsimp only
  split
  · exact ends_ret.mpr .refused
  rename_i hstate
  refine getWallet_saga (fun err => ends_ret.mpr .refused) ?_
  intro w hw
  dsimp only
  split
  · exact ends_ret.mpr .refused
  have hsigned : wr.state = .signed := not_not.mp hstate
  apply ends_ext
  rintro (err | resp)
  · exact rollback_bind (ends_store (ends_ret.mpr (.rejected hrow hsigned hw)))
  · refine (recordBroadcast_saga hrow w resp.txHash).mono ?_
    rintro l _ s' ⟨rfl, rfl⟩
    exact .accepted hrow hsigned hw

lemma confirm_saga {lib : Lib} (id : UUID) (txHash : String) :
    Saga lib (svc.confirm id txHash) s (fun l _ s' => l = [] ∧
      ((∃ wr, s.withdrawals.lookup id = some wr ∧ wr.state = .broadcast ∧
          s' = (s.updateWithdrawalState id .confirmed "" txHash "").2) ∨
        ((∀ wr, s.withdrawals.lookup id = some wr → wr.state ≠ .broadcast) ∧ s' = s))) := by
  apply ends_store
  dsimp only [Store.handle, Store.getWithdrawal]
  cases hrow : s.withdrawals.lookup id with
  | none => exact ends_ret.mpr ⟨rfl, .inr ⟨nofun, rfl⟩⟩
  | some wr =>
    dsimp only
    split
    · rename_i hstate
      refine ends_ret.mpr ⟨rfl, .inr ⟨?_, rfl⟩⟩
      rintro _ ⟨⟩
      exact hstate
    · rename_i hstate
      refine ends_store_ok (updateWithdrawalState_ok hrow _ _ _ _) ?_
      exact emit_ok_saga _ ⟨rfl, .inl ⟨wr, rfl, not_not.mp hstate, rfl⟩⟩

lemma confirm_outcome (id : UUID) (txHash : String) :
    Saga svc.lib (svc.confirm id txHash) s (fun l _ s' => Outcome s (.confirm id txHash) l s') := by
  refine (confirm_saga id txHash).mono ?_
  rintro l r s' ⟨rfl, ⟨wr, hrow, hstate, rfl⟩ | ⟨-, rfl⟩⟩
  · exact .confirmed hrow hstate
  · exact .refused

lemma released_withdrawals (s : Store) (w : Wallet) (n : Int) (ops : List String) :
    (released s w n ops).withdrawals = s.withdrawals := by
  unfold released Store.rollbackPendingNonce Store.restoreUTXOs
  grind

lemma fail_outcome (id : UUID) (reason : String) :
    Saga svc.lib (svc.fail id reason) s (fun l _ s' => Outcome s (.fail id reason) l s') := by
  refine getWithdrawal_saga (fun err => ends_ret.mpr .refused) ?_
  intro wr hrow
  refine getWallet_saga (fun err => ends_ret.mpr .refused) ?_
  intro w hw
  have hreleased : (released s w (noncePtr wr) []).withdrawals.lookup id = some wr := by
    rw [released_withdrawals]
    exact hrow
  refine rollback_bind (ends_store_ok (updateWithdrawalState_ok hreleased _ _ _ _) ?_)
  exact emit_ok_saga _ (.failed hrow hw)

lemma onReorg_outcome (id : UUID) (ops : List String) :
    Saga svc.lib (Service.onReorg id ops) s (fun l _ s' => Outcome s (.onReorg id ops) l s') := by
  refine getWithdrawal_saga (fun err => ends_ret.mpr .refused) ?_
  intro wr hrow
  apply ends_store
  split
  · exact ends_ret.mpr (.restored hrow)
  · split
    · rename_i hstate
      refine ends_call.mpr ?_
      rintro r s₁ hs
      obtain ⟨rfl, rfl⟩ := Prod.mk.inj hs
      exact ends_ret.mpr (.demoted hrow hstate)
    · exact ends_ret.mpr (.restored hrow)

lemma createWithdrawal_cases (s : Store) (wr : WithdrawalRequest) :
    (∃ err, s.createWithdrawal wr = (.error err, s)) ∨
    ((s.createWithdrawal wr).1 = .ok () ∧ s.withdrawals.lookup wr.id = none ∧
      (s.createWithdrawal wr).2.withdrawals = s.withdrawals.insert wr.id wr) := by
  unfold Store.createWithdrawal
  dsimp only
  by_cases hid : wr.id ∈ s.withdrawals
  · rw [if_pos hid]
    exact .inl ⟨_, rfl⟩
  · rw [if_neg hid]
    split
    · exact .inl ⟨_, rfl⟩
    · exact .inr ⟨rfl, AList.lookup_eq_none.mpr hid, rfl⟩

lemma applyDecision_saga {lib : Lib} {wr : WithdrawalRequest}
    (hrow : s.withdrawals.lookup wr.id = some wr) (answer : PolicyAnswer) :
    Saga lib (Service.applyDecision wr answer) s (fun l _ s' => l = [] ∧
      ∃ state reason decisionID, (state = .whitelisted ∨ state = .failed) ∧
        s' = (s.updateWithdrawalState wr.id state reason "" decisionID).2) := by
  unfold Service.applyDecision
  have hrefuse : ∀ reason decisionID, Saga lib (Service.applyDecision.refuse wr reason decisionID) s
      (fun l _ s' => l = [] ∧ ∃ state reason decisionID, (state = .whitelisted ∨ state = .failed) ∧
        s' = (s.updateWithdrawalState wr.id state reason "" decisionID).2) := by
    intro reason decisionID
    exact ends_store (ends_ret.mpr ⟨rfl, .failed, reason, decisionID, .inr rfl, rfl⟩)
  split
  · split
    · refine ends_store_ok (updateWithdrawalState_ok hrow _ _ _ _) ?_
      exact ends_ret.mpr ⟨rfl, .whitelisted, _, _, .inl rfl, rfl⟩
    · exact hrefuse _ _
  · exact hrefuse _ _
  · exact hrefuse _ _

lemma create_outcome (id : UUID) (req : CreateRequest) :
    Saga svc.lib (svc.create id req) s (fun l _ s' => Outcome s (.create id req) l s') := by
  refine getWallet_saga (fun err => ends_ret.mpr .refused) ?_
  intro w _
  dsimp only
  split
  · exact ends_ret.mpr .refused
  split
  · exact ends_ret.mpr .refused
  apply ends_store
  dsimp only [Store.handle]
  rcases createWithdrawal_cases s (req.row id) with ⟨err, herr⟩ | ⟨hok, -, hrows⟩
  · rw [herr]
    exact ends_ret.mpr .refused
  · rw [hok]
    refine Ends.bind (emit_saga _) ?_
    rintro l _ s₁ ⟨rfl, rfl⟩
    apply ends_ext
    intro answer
    refine Ends.bind (emit_saga _) ?_
    rintro l _ s₂ ⟨rfl, rfl⟩
    have hrow : (s.createWithdrawal (req.row id)).2.withdrawals.lookup (req.row id).id =
        some (req.row id) := by
      rw [hrows, AList.lookup_insert]
    refine (applyDecision_saga hrow answer).mono ?_
    rintro l _ s₃ ⟨rfl, state, reason, decisionID, hstate, rfl⟩
    exact .created hok hstate

/-- Every execution of an operation ends in one of the listed outcomes. -/
theorem op_outcome (op : Op) : Saga svc.lib (op.proc svc) s (fun l _ s' => Outcome s op l s') := by
  cases op with
  | create id req =>
    refine Ends.bind (create_outcome id req) ?_
    intro l r s₁ h
    refine ends_ret.mpr ?_
    rw [List.append_nil]
    exact h
  | constructAndSign id => exact constructAndSign_outcome id
  | broadcast id => exact broadcast_outcome id
  | confirm id txHash => exact confirm_outcome id txHash
  | fail id reason => exact fail_outcome id reason
  | onReorg id ops => exact onReorg_outcome id ops

end Operations

end WalletManager.Proofs
