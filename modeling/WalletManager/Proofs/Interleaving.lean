import WalletManager.Proofs.Ownership

/-!
# No double spend under interleaving

Every operation of the saga except the reorg callback keeps the ownership of outputs, call by call,
whatever the operations on other withdrawals do in between.
-/

namespace WalletManager.Proofs

open Interaction Reservation

section Silent

variable {svc : Service}

lemma reserveNonceLoop_muted (walletID : UUID) (chain lockName : String) (attempts : Nat) :
    (reserveNonceLoop walletID chain lockName attempts).AllCalls Muted := by
  induction attempts with
  | zero => trivial
  | succ attempts ih =>
    refine ⟨trivial, ?_⟩
    rintro (err | ⟨token, ok⟩)
    · trivial
    · cases ok with
      | false => exact ih
      | true =>
        refine ⟨trivial, fun r => ⟨trivial, fun _ => ?_⟩⟩
        cases r <;> trivial

lemma reserveNonceLoop_silent (walletID : UUID) (chain lockName : String) (attempts : Nat) :
    (reserveNonceLoop walletID chain lockName attempts).AllCalls Silent :=
  (reserveNonceLoop_muted _ _ _ _).mono (fun _ => Muted.silent)

lemma rollbackNonce_muted (walletID : UUID) (chain : String) (n : Int) :
    (rollbackNonce walletID chain n).AllCalls Muted := by
  refine ⟨trivial, ?_⟩
  rintro (err | _) <;> trivial

lemma rollbackNonce_silent (walletID : UUID) (chain : String) (n : Int) :
    (rollbackNonce walletID chain n).AllCalls Silent :=
  (rollbackNonce_muted _ _ _).mono (fun _ => Muted.silent)

lemma emit_silent (e : AuditEvent) : (svc.emit e).AllCalls Silent := by
  unfold Service.emit
  split
  · exact ⟨trivial, fun _ => trivial⟩
  · trivial

lemma resolveKeyID_muted (walletID : UUID) : (svc.resolveKeyID walletID).AllCalls Muted := by
  unfold Service.resolveKeyID
  split
  · refine ⟨trivial, ?_⟩
    rintro (err | k) <;> trivial
  · trivial

lemma resolveKeyID_silent (walletID : UUID) : (svc.resolveKeyID walletID).AllCalls Silent :=
  (resolveKeyID_muted _).mono (fun _ => Muted.silent)

lemma resolveBuildOpts_muted (w : Wallet) : (svc.resolveBuildOpts w).AllCalls Muted := by
  unfold Service.resolveBuildOpts
  split
  · refine ⟨trivial, ?_⟩
    rintro (err | bk) <;> trivial
  split
  · refine ⟨trivial, ?_⟩
    rintro (err | sk) <;> trivial
  · trivial

lemma resolveBuildOpts_silent (w : Wallet) : (svc.resolveBuildOpts w).AllCalls Silent :=
  (resolveBuildOpts_muted _).mono (fun _ => Muted.silent)

lemma solanaBlockhash_muted (lib : Lib) (opts : BuildOpts) :
    (solanaBlockhash lib opts).AllCalls Muted := by
  unfold solanaBlockhash
  dsimp only
  split
  · refine ⟨trivial, ?_⟩
    rintro (err | fetched)
    · dsimp only [Prog.bind]
      split <;> trivial
    · trivial
  · trivial

lemma buildUnsignedTx_muted (lib : Lib) (evm : EVMParams) (w : Wallet) (wr : WithdrawalRequest)
    (n : Int) (ops : List String) (opts : BuildOpts) :
    (buildUnsignedTx lib evm w wr n ops opts).AllCalls Muted := by
  unfold buildUnsignedTx
  split
  · trivial
  split
  · trivial
  split
  · unfold buildSolanaUnsignedTx
    dsimp only
    split
    · trivial
    split
    · trivial
    refine (solanaBlockhash_muted lib opts).bind ?_
    rintro (err | blockhash) <;> trivial
  · trivial

lemma buildUnsignedTx_silent (lib : Lib) (evm : EVMParams) (w : Wallet) (wr : WithdrawalRequest)
    (n : Int) (ops : List String) (opts : BuildOpts) :
    (buildUnsignedTx lib evm w wr n ops opts).AllCalls Silent :=
  (buildUnsignedTx_muted _ _ _ _ _ _ _).mono (fun _ => Muted.silent)

end Silent

section Procedures

variable {α : Type} {svc : Service} {lib : Lib} {wallets : Table UUID Wallet} {id : UUID}
  {wr wr₁ : WithdrawalRequest} {w : Wallet} {n : Int} {ops : List String} {g : Stage}
  {Q : α → Stage → Prop}

lemma rollback_guarded (w : Wallet) (n : Int) (ops : List String) :
    Guarded lib wallets id (Service.rollback w n ops) (.holding wr ops)
      (fun _ g => g = .holding wr []) := by
  have hunlock : Guarded lib wallets id
      (if ops.length > 0 then do let _ ← unlock ops; pure () else pure ()) (.holding wr ops)
      (fun _ g => g = .holding wr []) := by
    split
    · exact guarded_restoreUTXOs (fun _ => rfl)
    · rename_i hops
      obtain rfl : ops = [] := List.length_eq_zero_iff.mp (by omega)
      rfl
  unfold Service.rollback
  by_cases hn : 0 ≤ n ∧ w.chain.isEVM = true
  · simp only [if_pos hn]
    exact guarded_silent (rollbackNonce_silent _ _ _) (fun _ => hunlock)
  · simp only [if_neg hn]
    exact hunlock

lemma rollback_guarded_bind {f : Unit → Proc α} (hf : Guarded lib wallets id (f ()) (.holding wr []) Q) :
    Guarded lib wallets id (Service.rollback w n ops >>= f) (.holding wr ops) Q := by
  refine Safe.bind ((rollback_guarded w n ops).mono ?_)
  rintro _ _ rfl
  exact hf

lemma rowHolds_state {answers : List (BroadcastRequest × Bool)} (state : WithdrawalState)
    (hlive : state.isLive → wr.state.isLive) (reason txHash decisionID : String) :
    rowHolds answers (some (Store.rowWithState wr state reason txHash decisionID)) ⊆
      rowHolds answers (some wr) := by
  rintro op ⟨_, ⟨⟩, hheld, hop⟩
  exact ⟨wr, rfl, hheld.imp_left hlive, hop⟩

lemma RowOk.state {state : WithdrawalState} (h : RowOk lib wallets wr) (hstate : state ≠ .signed)
    (reason txHash decisionID : String) :
    RowOk lib wallets (Store.rowWithState wr state reason txHash decisionID) :=
  ⟨h.plain, fun hsigned => absurd hsigned hstate⟩

lemma Settled.fail {answers : List (BroadcastRequest × Bool)}
    (h : Settled lib wallets answers (some wr)) (reason txHash decisionID : String) :
    Settled lib wallets answers (some (Store.rowWithState wr .failed reason txHash decisionID)) := by
  rcases h with h | ⟨_, req, ok, ⟨⟩, hanswers, hcarries, -⟩
  · exact .inl h
  · exact .inr ⟨_, req, ok, rfl, hanswers, hcarries, .inl rfl⟩

lemma guarded_fail {f : Except Error Unit → Proc α} (hg : g = .reading wr ∨ g = .holding wr [])
    {reason txHash decisionID : String} (hnext : ∀ g', g'.Done → Guarded lib wallets id (f (.ok ())) g' Q) :
    Guarded lib wallets id
      (store (.updateWithdrawalState id .failed reason txHash decisionID) >>= f) g Q := by
  refine guarded_state wr (.reading (Store.rowWithState wr .failed reason txHash decisionID)) ?_
    (fun h => h.state (by simp) _ _ _) ?_ (hnext _ trivial)
  · rcases hg with rfl | rfl <;> exact fun _ _ hok => hok.1
  · intro answers hok
    rcases hg with rfl | rfl
    · exact ⟨⟨rfl, hok.2.fail _ _ _⟩, rowHolds_state .failed (fun h => nomatch h) _ _ _⟩
    · constructor
      · refine ⟨rfl, ?_⟩
        rcases hok.2 with ⟨-, h⟩ | ⟨-, req, h, hcarries⟩
        · exact .inl h
        · exact .inr ⟨_, req, false, rfl, h, hcarries, .inl rfl⟩
      · rintro op ⟨_, ⟨⟩, hlive | ⟨req, hreq⟩, -⟩
        · cases hlive
        · rcases hok.2 with ⟨-, h⟩ | ⟨-, req', h, -⟩ <;> simp [h] at hreq

lemma emit_ok_guarded (e : AuditEvent) (hg : g.Done) :
    Guarded lib wallets id (do svc.emit e; return .ok ()) g
      (fun (_ : Except Error Unit) g => g.Done) :=
  guarded_silent (emit_silent e) (fun _ => hg)

lemma guarded_update {c : StoreCall} {a : c.Result} {f : Except Error c.Result → Proc α}
    (hwl : wr.state = .whitelisted) (change : WithdrawalRequest → WithdrawalRequest)
    (hstate : (change wr).state = wr.state)
    (hset : ∀ s : Store, s.withdrawals.lookup id = some wr → (s.handle lib c).1 = .ok a ∧
      (s.handle lib c).2 = (s.updateWithdrawal id change).2)
    (hplain : ∀ w, wallets.lookup (change wr).walletID = some w → w.chain ≠ .bitcoin →
      RowOk lib wallets wr → (change wr).reservedOutpoints = [])
    (hnext : Guarded lib wallets id (f (.ok a)) (.holding (change wr) ops) Q) :
    Guarded lib wallets id (store c >>= f) (.holding wr ops) Q := by
  refine guarded_write wr (change wr) (.holding (change wr) ops) (fun _ _ hok => hok.1) ?_ ?_ ?_ hnext
  · intro s hlookup
    obtain ⟨ha, hs⟩ := hset s hlookup
    rw [ha, hs]
    exact ⟨rfl, (RowSet.refl hlookup).update change, updateWithdrawal_wallets _ _ _,
      updateWithdrawal_utxos _ _ _⟩
  · intro hrow
    refine ⟨fun w hw hbtc => hplain w hw hbtc hrow, fun hsigned => ?_⟩
    rw [hstate, hwl] at hsigned
    cases hsigned
  · rintro answers ⟨-, ⟨-, h⟩ | ⟨hsigned, -⟩⟩
    · exact ⟨⟨rfl, .inl ⟨hstate.trans hwl, h⟩⟩, le_rfl⟩
    · rw [hwl] at hsigned
      cases hsigned

lemma selectForAmount_guarded (walletID : UUID) (amount : ℚ) :
    Guarded lib wallets id (selectForAmount lib walletID amount) (.holding wr []) (fun r g =>
      (∃ err, r = .error err ∧ g = .holding wr []) ∨
        ∃ ops total, r = .ok (ops, total) ∧ g = .holding wr ops) := by
  refine guarded_quiet (p := store (.listFreeUTXOs walletID)) ⟨trivial, fun _ => trivial⟩ ?_
  rintro (err | free)
  · exact .inl ⟨_, rfl, rfl⟩
  dsimp only
  split
  · exact .inl ⟨_, rfl, rfl⟩
  · exact guarded_lockUTXOs (fun err => .inl ⟨_, rfl, rfl⟩) (.inr ⟨_, _, rfl, rfl⟩)

lemma reserve_guarded (hrow : RowOk svc.lib wallets wr) (hwl : wr.state = .whitelisted)
    (hw : wallets.lookup wr.walletID = some w) :
    Guarded svc.lib wallets id (svc.reserve id wr w) (.holding wr []) (fun r g =>
      (∃ err, r = .error err ∧ g = .holding wr []) ∨
        ∃ n ops wr₁, r = .ok (n, ops) ∧ g = .holding wr₁ ops ∧ wr₁.state = .whitelisted ∧
          wr₁.walletID = wr.walletID ∧ wr₁.reservedOutpoints = ops) := by
  unfold Service.reserve
  split
  · rename_i hevm
    have hnone := hrow.plain w hw (isEVM_ne_bitcoin hevm)
    refine guarded_silent (reserveNonceLoop_silent _ _ _ _) ?_
    rintro (err | n)
    · exact .inl ⟨_, rfl, rfl⟩
    refine guarded_update (a := ()) hwl (fun w => { w with nonceValue := some n }) rfl ?_ ?_ ?_
    · exact fun s hlookup => ⟨congrArg Prod.fst (updateWithdrawal_ok hlookup _), rfl⟩
    · exact fun _ _ _ _ => hnone
    · exact .inr ⟨_, _, _, rfl, rfl, hwl, rfl, hnone⟩
  split
  · rename_i hbtc
    split
    · exact guarded_silent (rollbackNonce_silent _ _ _) (fun _ => .inl ⟨_, rfl, rfl⟩)
    · refine Safe.bind ((selectForAmount_guarded _ _).mono ?_)
      rintro r g (⟨err, rfl, rfl⟩ | ⟨ops, total, rfl, rfl⟩)
      · exact guarded_silent (rollbackNonce_silent _ _ _) (fun _ => .inl ⟨_, rfl, rfl⟩)
      refine guarded_update (a := ()) hwl (fun w => { w with reservedOutpoints := ops }) rfl ?_ ?_ ?_
      · exact fun s hlookup => ⟨congrArg Prod.fst (updateWithdrawal_ok hlookup _), rfl⟩
      · intro w' hw' hne
        rw [show wallets.lookup wr.walletID = some w' from hw'] at hw
        cases hw
        exact absurd hbtc hne
      · exact .inr ⟨_, _, _, rfl, rfl, hwl, rfl, rfl⟩
  · rename_i hbtc
    exact .inr ⟨_, _, wr, rfl, rfl, hwl, rfl, hrow.plain w hw hbtc⟩

lemma buildUnsignedTx_guarded (lib' : Lib) (evm : EVMParams) (w : Wallet) (wr : WithdrawalRequest)
    (n : Int) (ops : List String) (opts : BuildOpts) :
    Guarded lib wallets id (buildUnsignedTx lib' evm w wr n ops opts) g (fun r g' => g' = g ∧
      (w.chain = .bitcoin → r = buildBTCUnsignedTx lib' wr ops opts)) := by
  by_cases hbtc : w.chain = .bitcoin
  · unfold buildUnsignedTx
    rw [hbtc]
    exact ⟨rfl, fun _ => rfl⟩
  · have hquiet := (buildUnsignedTx_silent lib' evm w wr n ops opts).mono (fun _ => Silent.quiet)
    refine (Prog.AllCalls.guarded hquiet).mono ?_
    rintro r _ rfl
    exact ⟨rfl, fun h => absurd h hbtc⟩

lemma guarded_sign {txBytes : Bytes} {f : Except Error Unit → Proc α} (hwl : wr₁.state = .whitelisted)
    (hops : wr₁.reservedOutpoints = ops) (hcarries : Carries lib wallets wr₁ txBytes)
    (hbytes : wr₁.signedTxBytes = txBytes)
    (hnext : ∀ g', g'.Done → Guarded lib wallets id (f (.ok ())) g' Q) :
    Guarded lib wallets id (store (.updateWithdrawalState id .signed "" "" "") >>= f)
      (.holding wr₁ ops) Q := by
  refine guarded_state wr₁ (.reading (Store.rowWithState wr₁ .signed "" "" "")) (fun _ _ h => h.1) ?_ ?_
    (hnext _ trivial)
  · intro hrow
    refine ⟨hrow.plain, fun _ => ?_⟩
    rw [← hbytes] at hcarries
    exact hcarries
  · rintro answers ⟨-, ⟨-, h⟩ | ⟨hsigned, -⟩⟩
    · refine ⟨⟨rfl, .inl h⟩, ?_⟩
      rintro op ⟨_, ⟨⟩, -, hop⟩
      rw [← hops]
      exact hop
    · rw [hwl] at hsigned
      cases hsigned

lemma signReserved_guarded (hw : wallets.lookup wr.walletID = some w) (hwl : wr₁.state = .whitelisted)
    (hid : wr₁.walletID = wr.walletID) (hops : wr₁.reservedOutpoints = ops) (keyID : String) (n : Int) :
    Guarded svc.lib wallets id (svc.signReserved id wr w keyID n ops) (.holding wr₁ ops)
      (fun _ g => g.Done) := by
  have hdropped : (Stage.holding wr₁ []).Done := ⟨hwl, rfl⟩
  unfold Service.signReserved
  refine guarded_silent (resolveBuildOpts_silent w) ?_
  rintro (err | opts)
  · exact rollback_guarded_bind hdropped
  refine Safe.bind ((buildUnsignedTx_guarded _ _ w wr n ops opts).mono ?_)
  rintro r _ ⟨rfl, hbuilt⟩
  cases r with
  | error err => exact rollback_guarded_bind hdropped
  | ok unsigned =>
    refine guarded_quiet (p := ext (.sign ⟨keyID, unsigned.payload, wr.walletID⟩))
      ⟨trivial, fun _ => trivial⟩ ?_
    rintro (err | resp)
    · exact rollback_guarded_bind (guarded_fail (.inr rfl) (fun _ hg => hg))
    dsimp only
    split
    · exact rollback_guarded_bind (guarded_fail (.inr rfl) (fun _ hg => hg))
    · rename_i signedBytes hsign
      have hcarries : Carries svc.lib wallets wr₁ signedBytes := by
        intro w' hw' hbtc
        rw [hid, hw] at hw'
        cases hw'
        rw [hops]
        exact buildBTCUnsignedTx_spends (hbuilt hbtc).symm hsign
      refine guarded_update (a := ()) hwl (fun w => { w with signedTxBytes := signedBytes }) rfl ?_ ?_ ?_
      · exact fun s hlookup => ⟨congrArg Prod.fst (updateWithdrawal_ok hlookup _), rfl⟩
      · exact fun w' hw' hbtc hrow => hrow.plain w' hw' hbtc
      · exact guarded_sign hwl hops hcarries rfl (fun _ hg => emit_ok_guarded _ hg)

lemma constructAndSign_guarded :
    Guarded svc.lib wallets id (svc.constructAndSign id) .idle (fun _ g => g.Done) := by
  refine guarded_getWithdrawal (fun err => trivial) ?_
  intro wr hrow
  dsimp only
  split
  · exact .inl trivial
  rename_i hstate
  have hwl : wr.state = .whitelisted := not_not.mp hstate
  have hnothing : (Stage.holding wr []).Done := ⟨hwl, rfl⟩
  refine .inr ⟨hwl, guarded_getWallet (fun err => hnothing) ?_⟩
  intro w hw
  refine guarded_silent (resolveKeyID_silent _) ?_
  rintro (err | keyID)
  · exact hnothing
  refine Safe.bind ((reserve_guarded hrow hwl hw).mono ?_)
  rintro r g (⟨err, rfl, rfl⟩ | ⟨n, ops, wr₁, rfl, rfl, hwl₁, hid, hops⟩)
  · exact hnothing
  · exact signReserved_guarded hw hwl₁ hid hops keyID n

lemma settle_guarded (wr : WithdrawalRequest) (w : Wallet) (txHash : String) :
    Guarded lib wallets id (Service.settle wr w txHash) g (fun _ g' => g' = g) := by
  unfold Service.settle
  by_cases hbtc : w.chain = .bitcoin ∧ wr.reservedOutpoints.length > 0
  · have hevm : ¬ w.chain.isEVM = true := by simp [hbtc.1, Chain.isEVM]
    simp only [if_pos hbtc, if_neg hevm]
    refine guarded_markUTXOsSpent (fun _ => ?_)
    rfl
  · simp only [if_neg hbtc]
    split
    · split
      · rfl
      · exact guarded_quiet (p := commitNonce _ _ _) ⟨trivial, fun _ => trivial⟩ (fun _ => rfl)
    · rfl

lemma recordBroadcast_guarded (w : Wallet) (txHash : String) :
    Guarded svc.lib wallets id (svc.recordBroadcast id wr w txHash) (.accepted wr)
      (fun _ g => g.Done) := by
  refine Safe.bind ((settle_guarded wr w txHash).mono ?_)
  rintro _ _ rfl
  refine guarded_state wr (.reading (Store.rowWithState wr .broadcast "" txHash "")) (fun _ _ h => h.1)
    (fun h => h.state (by simp) _ _ _) ?_ (emit_ok_guarded _ trivial)
  rintro answers ⟨-, hsigned, req, h, hcarries⟩
  refine ⟨⟨rfl, .inr ⟨_, req, true, rfl, h, hcarries, .inr ⟨rfl, .inl rfl⟩⟩⟩, ?_⟩
  exact rowHolds_state .broadcast (fun _ => by rw [hsigned]; rfl) _ _ _

lemma broadcast_guarded :
    Guarded svc.lib wallets id (svc.broadcast id) .idle (fun _ g => g.Done) := by
  refine guarded_getWithdrawal (fun err => trivial) ?_
  intro wr hrow
  refine .inl ?_
  dsimp only
  split
  · trivial
  rename_i hstate
  have hsigned : wr.state = .signed := not_not.mp hstate
  refine guarded_getWallet (fun err => trivial) ?_
  intro w hw
  dsimp only
  split
  · trivial
  refine guarded_broadcastTx hsigned (hrow.signed hsigned) ?_ ?_
  · exact fun err => rollback_guarded_bind (guarded_fail (.inr rfl) (fun _ hg => hg))
  · exact fun resp => recordBroadcast_guarded w resp.txHash

lemma confirm_guarded (txHash : String) :
    Guarded svc.lib wallets id (svc.confirm id txHash) .idle (fun _ g => g.Done) := by
  refine guarded_getWithdrawal (fun err => trivial) ?_
  intro wr hrow
  refine .inl ?_
  dsimp only
  split
  · trivial
  rename_i hstate
  have hbroadcast : wr.state = .broadcast := not_not.mp hstate
  refine guarded_state wr (.reading (Store.rowWithState wr .confirmed "" txHash "")) (fun _ _ h => h.1)
    (fun h => h.state (by simp) _ _ _) ?_ (emit_ok_guarded _ trivial)
  rintro answers ⟨-, hsettled⟩
  refine ⟨⟨rfl, ?_⟩, rowHolds_state .confirmed (fun _ => by rw [hbroadcast]; rfl) _ _ _⟩
  rcases hsettled with h | ⟨_, req, ok, ⟨⟩, h, hcarries, hfailed | ⟨hok, -⟩⟩
  · exact .inl h
  · rw [hbroadcast] at hfailed
    cases hfailed
  · exact .inr ⟨_, req, ok, rfl, h, hcarries, .inr ⟨hok, .inr rfl⟩⟩

lemma fail_guarded (reason : String) :
    Guarded svc.lib wallets id (svc.fail id reason) .idle (fun _ g => g.Done) := by
  refine guarded_getWithdrawal (fun err => trivial) ?_
  intro wr hrow
  refine .inl (guarded_getWallet (fun err => trivial) ?_)
  intro w hw
  have hsilent : (Service.rollback w (noncePtr wr) []).AllCalls Silent := by
    unfold Service.rollback
    by_cases hn : 0 ≤ noncePtr wr ∧ w.chain.isEVM = true
    · simp only [if_pos hn]
      exact (rollbackNonce_silent _ _ _).bind (fun _ => trivial)
    · simp only [if_neg hn]
      trivial
  refine guarded_silent hsilent (fun _ => ?_)
  exact guarded_fail (.inl rfl) (fun _ hg => emit_ok_guarded _ hg)

lemma applyDecision_guarded (req : CreateRequest) (answer : PolicyAnswer) :
    Guarded lib wallets id (Service.applyDecision (req.row id) answer) (.reading (req.row id))
      (fun _ g => g.Done) := by
  have hrefuse : ∀ reason decisionID, Guarded lib wallets id
      (Service.applyDecision.refuse (req.row id) reason decisionID) (.reading (req.row id))
      (fun _ g => g.Done) :=
    fun reason decisionID => guarded_fail (.inl rfl) (fun _ hg => hg)
  unfold Service.applyDecision
  split
  · split
    · rename_i dec _ _ _
      refine guarded_state (req.row id)
        (.reading (Store.rowWithState (req.row id) .whitelisted "" "" dec.decisionID))
        (fun _ _ h => h.1) (fun h => h.state (by simp) _ _ _) ?_ trivial
      rintro answers ⟨-, hsettled⟩
      exact ⟨⟨rfl, .inl (hsettled.unasked (.inl rfl))⟩,
        rowHolds_state .whitelisted (fun h => nomatch h) _ _ _⟩
    · exact hrefuse _ _
  · exact hrefuse _ _
  · exact hrefuse _ _

lemma create_guarded (req : CreateRequest) :
    Guarded svc.lib wallets id (svc.create id req) .idle (fun _ g => g.Done) := by
  refine guarded_getWallet (fun err => trivial) ?_
  intro w _
  dsimp only
  split
  · trivial
  split
  · trivial
  refine guarded_createWithdrawal (fun err => trivial) ?_
  refine guarded_silent (emit_silent _) (fun _ => ?_)
  refine guarded_quiet (p := ext (.checkWhitelist _)) ⟨trivial, fun _ => trivial⟩ (fun answer => ?_)
  exact guarded_silent (emit_silent _) (fun _ => applyDecision_guarded req answer)

/-- Every operation except the reorg callback keeps the ownership of outputs. -/
theorem op_guarded (op : Op) (hop : ∀ ops, op ≠ .onReorg op.id ops) :
    Guarded svc.lib wallets op.id (op.proc svc) .idle (fun _ g => g.Done) := by
  cases op with
  | create id req => exact Safe.bind ((create_guarded req).mono (fun _ _ hg => hg))
  | constructAndSign id => exact constructAndSign_guarded
  | broadcast id => exact broadcast_guarded
  | confirm id txHash => exact confirm_guarded txHash
  | fail id reason => exact fail_guarded reason
  | onReorg id ops => exact absurd rfl (hop ops)

end Procedures

section Pools

variable {svc : Service} {wallets : List Wallet} {utxos : List UTXO}

def Spawns (svc : Service) (id : UUID) (p : Proc (Except Error Unit)) : Prop :=
  ∃ op : Op, op.id = id ∧ (∀ ops, op ≠ .onReorg id ops) ∧ p = op.proc svc

def Tracks (s s' : Store) : Prop := ∃ u, u.outpoint ∉ s.utxos ∧ s' = (s.insertUTXO u).2

abbrev SagaPool := Pool UUID Call Answer (Except Error Unit) Store

lemma tracks_freeOutpoints {s s' : Store} (h : Tracks s s') :
    s'.freeOutpoints ⊆ s.freeOutpoints ∪ {op | op ∉ s.utxos} := by
  obtain ⟨u, hu, rfl⟩ := h
  rintro op ⟨u', hu', hfree⟩
  rw [Store.insertUTXO, if_neg hu] at hu'
  dsimp only at hu'
  rw [lookup_insert_eq] at hu'
  split at hu'
  · rename_i hop
    exact .inr (by rwa [hop])
  · exact .inl ⟨u', hu', hfree⟩

lemma Ownership.tracks {lib : Lib} {W : Table UUID Wallet} {γ : UUID → Stage}
    {log : List (UUID × Event Call Answer)} {s s' : Store} (h : Ownership lib W γ log s)
    (ht : Tracks s s') : Ownership lib W γ log s' := by
  have hfree := tracks_freeOutpoints ht
  obtain ⟨u, hu, rfl⟩ := ht
  rw [Store.insertUTXO, if_neg hu] at hfree ⊢
  refine ⟨h.wallets_eq, h.rows, h.stages, h.exclusive.give (fun _ => le_rfl) hfree ?_, ?_⟩
  · intro id
    rw [Set.disjoint_left]
    exact fun op hheld hnew => hnew (h.tracked id hheld)
  · exact fun id op hop => (AList.mem_insert _).mpr (.inr (h.tracked id hop))

lemma Ownership.retire {lib : Lib} {W : Table UUID Wallet} {γ : UUID → Stage}
    {log : List (UUID × Event Call Answer)} {s : Store} (h : Ownership lib W γ log s) {id : UUID}
    (hdone : (γ id).Done) : Ownership lib W (Function.update γ id .idle) log s := by
  have hstage := h.stages id
  have hidle : Stage.idle.Ok lib W (gateway log id) (s.withdrawals.lookup id) ∧
      Stage.idle.holds (gateway log id) (s.withdrawals.lookup id) ⊆
        (γ id).holds (gateway log id) (s.withdrawals.lookup id) := by
    cases hg : γ id with
    | idle =>
      rw [hg] at hstage
      exact ⟨hstage, le_rfl⟩
    | reading wr =>
      rw [hg] at hstage
      exact ⟨hstage.2, le_rfl⟩
    | holding wr ops =>
      rw [hg] at hstage hdone
      obtain ⟨hrow, ⟨hwl, hunasked⟩ | ⟨hsigned, -⟩⟩ := hstage
      · refine ⟨.inl hunasked, ?_⟩
        rintro op ⟨wr', hrow', hlive | ⟨req, hreq⟩, -⟩
        · rw [hrow] at hrow'
          cases hrow'
          rw [hwl] at hlive
          cases hlive
        · simp [hunasked] at hreq
      · rw [hdone.1] at hsigned
        cases hsigned
    | accepted wr =>
      rw [hg] at hdone
      cases hdone
  have hholds : ∀ j, (Function.update γ id .idle j).holds (gateway log j) (s.withdrawals.lookup j) ⊆
      (γ j).holds (gateway log j) (s.withdrawals.lookup j) := by
    intro j
    by_cases hj : j = id
    · subst hj
      rw [Function.update_self]
      exact hidle.2
    · rw [Function.update_of_ne hj]
  refine ⟨h.wallets_eq, h.rows, ?_, ?_, fun j => (hholds j).trans (h.tracked j)⟩
  · intro j
    by_cases hj : j = id
    · subst hj
      rw [Function.update_self]
      exact hidle.1
    · rw [Function.update_of_ne hj]
      exact h.stages j
  · exact h.exclusive.give hholds Set.subset_union_left (fun _ => Set.disjoint_empty _)

/-- The ownership invariant holds in every reachable pool, and a withdrawal without a running
operation is in a stage in which operations return. -/
theorem ownership_reachable {P : SagaPool} (h : Pool.Reachable (memStep svc.lib) (Spawns svc) Tracks
      (Store.initial wallets utxos) P) :
    ∃ γ, Ownership svc.lib (Store.initial wallets utxos).wallets γ P.log P.shared ∧
      ∀ id, ¬ P.Running id → (γ id).Done := by
  have hinit : Ownership svc.lib (Store.initial wallets utxos).wallets (fun _ => .idle) []
      (Store.initial wallets utxos) := by
    have hnone : ∀ id, Stage.idle.holds (gateway [] id)
        ((Store.initial wallets utxos).withdrawals.lookup id) = ∅ := by
      intro id
      apply Set.eq_empty_of_forall_notMem
      rintro op ⟨wr, hrow, -⟩
      cases hrow
    refine ⟨rfl, nofun, fun id => .inl rfl, ⟨?_, ?_⟩, ?_⟩
    · intro i j _
      rw [hnone]
      exact Set.empty_disjoint _
    · intro i
      rw [hnone]
      exact Set.empty_disjoint _
    · intro i
      rw [hnone]
      exact Set.empty_subset _
  have hspawn : ∀ id p, Spawns svc id p →
      Guarded svc.lib (Store.initial wallets utxos).wallets id p .idle (fun _ g => g.Done) := by
    rintro id p ⟨op, rfl, hop, rfl⟩
    exact op_guarded op hop
  obtain ⟨γ, hI, hsafe⟩ := h.invariant Stage.idle Stage.Done trivial hinit
    (fun _ _ _ _ hI ht => hI.tracks ht) (fun _ _ _ _ hI hdone => hI.retire hdone) hspawn
  refine ⟨γ, hI, ?_⟩
  intro id hidle
  have hid := hsafe id
  cases hp : P.threads id with
  | none => rwa [hp] at hid
  | some p =>
    cases p with
    | ret a => rwa [hp] at hid
    | call c k => exact absurd ⟨c, k, hp⟩ hidle

def Rejected (P : SagaPool) (id : UUID) : Prop := ∃ req, (req, false) ∈ gateway P.log id

/-- Live withdrawals that are not rejected have disjoint outputs, none of them free. A rejected
one fails before its operation returns. Accepted transactions spend disjoint outputs. -/
structure NoDoubleSpend (lib : Lib) (P : SagaPool) : Prop where
  notFree : ∀ i a, P.shared.withdrawals.lookup i = some a → a.state.isLive → ¬ Rejected P i →
    ∀ op ∈ a.reservedOutpoints, op ∉ P.shared.freeOutpoints
  disjoint : ∀ i j a b, i ≠ j → P.shared.withdrawals.lookup i = some a →
    P.shared.withdrawals.lookup j = some b → a.state.isLive → b.state.isLive →
    ¬ Rejected P i → ¬ Rejected P j → ∀ op ∈ a.reservedOutpoints, op ∉ b.reservedOutpoints
  rejected : ∀ i, Rejected P i → ¬ P.Running i →
    ∃ a, P.shared.withdrawals.lookup i = some a ∧ a.state = .failed
  accepted : ∀ i j req req', i ≠ j → (req, true) ∈ gateway P.log i → (req', true) ∈ gateway P.log j →
    ∃ a b, P.shared.withdrawals.lookup i = some a ∧ P.shared.withdrawals.lookup j = some b ∧
      Carries lib P.shared.wallets a req.txBytes ∧ Carries lib P.shared.wallets b req'.txBytes ∧
      ∀ op ∈ a.reservedOutpoints, op ∉ b.reservedOutpoints

section Views

variable {lib : Lib} {W : Table UUID Wallet} {γ : UUID → Stage} {P : SagaPool} {id : UUID}

lemma Ownership.holds_of_live (h : Ownership lib W γ P.log P.shared) {wr : WithdrawalRequest}
    (hrow : P.shared.withdrawals.lookup id = some wr) (hlive : wr.state.isLive) (hrej : ¬ Rejected P id) :
    ∀ op ∈ wr.reservedOutpoints,
      op ∈ (γ id).holds (gateway P.log id) (P.shared.withdrawals.lookup id) := by
  intro op hop
  have hheld : op ∈ rowHolds (gateway P.log id) (P.shared.withdrawals.lookup id) :=
    ⟨wr, hrow, .inl hlive, hop⟩
  have hstage := h.stages id
  cases hg : γ id with
  | holding wr' ops =>
    rw [hg] at hstage
    obtain ⟨hrow', ⟨hwl, -⟩ | ⟨-, req, hanswers, -⟩⟩ := hstage
    · rw [hrow] at hrow'
      cases hrow'
      rw [hwl] at hlive
      cases hlive
    · exact absurd ⟨req, by simp [hanswers]⟩ hrej
  | idle => exact hheld
  | reading wr' => exact hheld
  | accepted wr' => exact hheld

lemma Ownership.holds_of_accepted (h : Ownership lib W γ P.log P.shared) {req : BroadcastRequest}
    (hreq : (req, true) ∈ gateway P.log id) :
    ∃ wr, P.shared.withdrawals.lookup id = some wr ∧ Carries lib W wr req.txBytes ∧
      ∀ op ∈ wr.reservedOutpoints,
        op ∈ (γ id).holds (gateway P.log id) (P.shared.withdrawals.lookup id) := by
  have hstage := h.stages id
  have hheld : ∀ wr, P.shared.withdrawals.lookup id = some wr → ∀ op ∈ wr.reservedOutpoints,
      op ∈ rowHolds (gateway P.log id) (P.shared.withdrawals.lookup id) :=
    fun wr hrow op hop => ⟨wr, hrow, .inr ⟨req, hreq⟩, hop⟩
  have hsettled : Settled lib W (gateway P.log id) (P.shared.withdrawals.lookup id) →
      ∃ wr, P.shared.withdrawals.lookup id = some wr ∧ Carries lib W wr req.txBytes := by
    rintro (hnone | ⟨wr, req', ok, hrow, hanswers, hcarries, -⟩)
    · simp [hnone] at hreq
    · obtain ⟨rfl, -⟩ : req = req' ∧ true = ok := by simpa [hanswers] using hreq
      exact ⟨wr, hrow, hcarries⟩
  cases hg : γ id with
  | idle =>
    rw [hg] at hstage
    obtain ⟨wr, hrow, hcarries⟩ := hsettled hstage
    exact ⟨wr, hrow, hcarries, hheld wr hrow⟩
  | reading wr' =>
    rw [hg] at hstage
    obtain ⟨wr, hrow, hcarries⟩ := hsettled hstage.2
    exact ⟨wr, hrow, hcarries, hheld wr hrow⟩
  | holding wr ops =>
    rw [hg] at hstage
    obtain ⟨-, ⟨-, hnone⟩ | ⟨-, req', hanswers, -⟩⟩ := hstage
    · simp [hnone] at hreq
    · simp [hanswers] at hreq
  | accepted wr =>
    rw [hg] at hstage
    obtain ⟨hrow, -, req', hanswers, hcarries⟩ := hstage
    obtain rfl : req = req' := by simpa [hanswers] using hreq
    exact ⟨wr, hrow, hcarries, hheld wr hrow⟩

lemma Ownership.failed_of_rejected (h : Ownership lib W γ P.log P.shared) (hdone : (γ id).Done)
    (hrej : Rejected P id) : ∃ wr, P.shared.withdrawals.lookup id = some wr ∧ wr.state = .failed := by
  obtain ⟨req, hreq⟩ := hrej
  rcases (h.retire hdone).stages id with hstage
  rw [Function.update_self] at hstage
  rcases hstage with hnone | ⟨wr, req', ok, hrow, hanswers, -, hfailed | ⟨rfl, -⟩⟩
  · simp [hnone] at hreq
  · exact ⟨wr, hrow, hfailed⟩
  · simp [hanswers] at hreq

end Views

theorem no_double_spend {P : SagaPool} (h : Pool.Reachable (memStep svc.lib) (Spawns svc) Tracks
    (Store.initial wallets utxos) P) : NoDoubleSpend svc.lib P := by
  obtain ⟨γ, hI, hdone⟩ := ownership_reachable h
  constructor
  · intro i a ha hlive hrej op hop
    exact Set.disjoint_left.mp (hI.exclusive.notFree i) (hI.holds_of_live ha hlive hrej op hop)
  · intro i j a b hij ha hb hla hlb hra hrb op hopa hopb
    exact Set.disjoint_left.mp (hI.exclusive.disjoint i j hij) (hI.holds_of_live ha hla hra op hopa)
      (hI.holds_of_live hb hlb hrb op hopb)
  · intro i hrej hidle
    exact hI.failed_of_rejected (hdone i hidle) hrej
  · intro i j req req' hij hreq hreq'
    obtain ⟨a, ha, hca, hheld⟩ := hI.holds_of_accepted hreq
    obtain ⟨b, hb, hcb, hheld'⟩ := hI.holds_of_accepted hreq'
    rw [← hI.wallets_eq] at hca hcb
    refine ⟨a, b, ha, hb, hca, hcb, ?_⟩
    intro op hopa hopb
    exact Set.disjoint_left.mp (hI.exclusive.disjoint i j hij) (hheld op hopa) (hheld' op hopb)

def playing (answers : (c : ExtCall) → c.Answer) (utxos : List UTXO) (schedule : List (Op ⊕ UUID)) :
    SagaPool :=
  (schedule.map (Sum.elim (fun op => .start op.id (op.proc referenceService)) .next)).foldl
    (Pool.play (answering answers)) ⟨Store.initial [btcWallet] utxos, fun _ => none, []⟩

lemma playing_reachable (answers : (c : ExtCall) → c.Answer) (utxos : List UTXO)
    (schedule : List (Op ⊕ UUID)) (hops : ∀ op, .inl op ∈ schedule → ∀ id l, op ≠ .onReorg id l) :
    Pool.Reachable (memStep referenceService.lib) (Spawns referenceService) Tracks
      (Store.initial [btcWallet] utxos) (playing answers utxos schedule) := by
  refine Pool.Reachable.init.play (answering_memStep answers) ?_
  intro id p hmem
  obtain ⟨op | j, hop, heq⟩ := List.mem_map.mp hmem
  · cases heq
    exact ⟨op, rfl, hops op hop op.id, rfl⟩
  · cases heq

def raceSchedule : List (Op ⊕ UUID) :=
  let both := [Sum.inr (UUID.ofByte 10), Sum.inr (UUID.ofByte 11)]
  [Sum.inl (Op.create (UUID.ofByte 10) (btcTransfer "1000")),
    Sum.inl (Op.create (UUID.ofByte 11) (btcTransfer "900"))] ++ (List.replicate 4 both).flatten ++
  [Sum.inl (Op.constructAndSign (UUID.ofByte 10)), Sum.inl (Op.constructAndSign (UUID.ofByte 11))] ++
    (List.replicate 8 both).flatten ++
  [Sum.inl (Op.constructAndSign (UUID.ofByte 11)), Sum.inl (Op.broadcast (UUID.ofByte 10))] ++
    (List.replicate 8 both).flatten ++
  Sum.inl (Op.broadcast (UUID.ofByte 11)) :: List.replicate 5 (Sum.inr (UUID.ofByte 11))

def racePool : SagaPool :=
  playing agree [btcOutput outpointA "1000", btcOutput outpointB "900"] raceSchedule

theorem no_double_spend_race :
    claimOf racePool.shared (UUID.ofByte 10) = some (btcWallet.id, .broadcast, none, [outpointA]) ∧
      claimOf racePool.shared (UUID.ofByte 11) = some (btcWallet.id, .broadcast, none, [outpointB]) ∧
      NoDoubleSpend referenceLib racePool := by
  obtain ⟨hfirst, hsecond⟩ :
      claimOf racePool.shared (UUID.ofByte 10) = some (btcWallet.id, .broadcast, none, [outpointA]) ∧
      claimOf racePool.shared (UUID.ofByte 11) = some (btcWallet.id, .broadcast, none, [outpointB]) := by
    decide +kernel
  refine ⟨hfirst, hsecond, ?_⟩
  have hreach := playing_reachable agree [btcOutput outpointA "1000", btcOutput outpointB "900"]
    raceSchedule (by simp [raceSchedule])
  exact no_double_spend hreach

def rejecting : (c : ExtCall) → c.Answer
  | .broadcastTx _ => .error ⟨"rejected", none⟩
  | c => agree c

def rejectedSchedule : List (Op ⊕ UUID) :=
  Sum.inl (Op.create (UUID.ofByte 10) (btcTransfer "1000")) :: List.replicate 4 (Sum.inr (UUID.ofByte 10)) ++
  Sum.inl (Op.constructAndSign (UUID.ofByte 10)) :: List.replicate 8 (Sum.inr (UUID.ofByte 10)) ++
  Sum.inl (Op.broadcast (UUID.ofByte 10)) :: List.replicate 4 (Sum.inr (UUID.ofByte 10)) ++
  Sum.inl (Op.create (UUID.ofByte 11) (btcTransfer "900")) :: List.replicate 4 (Sum.inr (UUID.ofByte 11)) ++
  Sum.inl (Op.constructAndSign (UUID.ofByte 11)) :: List.replicate 8 (Sum.inr (UUID.ofByte 11))

def rejectedPool : SagaPool :=
  playing rejecting [btcOutput outpointA "1000"] rejectedSchedule

theorem rejected_shares_outpoint :
    Pool.Reachable (memStep referenceService.lib) (Spawns referenceService) Tracks
        (Store.initial [btcWallet] [btcOutput outpointA "1000"]) rejectedPool ∧
      claimOf rejectedPool.shared (UUID.ofByte 10) = some (btcWallet.id, .signed, none, [outpointA]) ∧
      claimOf rejectedPool.shared (UUID.ofByte 11) = some (btcWallet.id, .signed, none, [outpointA]) :=
  ⟨playing_reachable _ _ _ (by simp [rejectedSchedule]), by decide +kernel⟩

end Pools

end WalletManager.Proofs
