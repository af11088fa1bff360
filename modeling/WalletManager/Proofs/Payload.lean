import WalletManager.Proofs.EvmEncoding
import WalletManager.Proofs.SagaCalls

/-!
# What is broadcast is what was requested

A signed row carries a transaction that was built for the request and the reservation on the row,
also after earlier attempts have left other reservations on it.
-/

namespace WalletManager.Proofs

open Interaction

section Builders

variable {lib : Lib} {wr : WithdrawalRequest} {unsigned : UnsignedTx} {signature txBytes : Bytes}

structure EVMPayment (lib : Lib) (wr : WithdrawalRequest) (amount : ℕ) (tx : LegacyTx) : Prop where
  nonce : wr.nonceValue = some (tx.nonce : Int)
  target : parseEVMAddress lib wr.toAddress = .ok tx.target
  targetLength : tx.target.length = 20
  value : tx.value = amount

/-- The transaction spends the outpoints of the row in order, and its only output pays the
amount to the script of the destination. -/
structure BTCPayment (lib : Lib) (wr : WithdrawalRequest) (amount : ℕ) (tx : MsgTx) : Prop where
  inputs : parseOutpoints lib wr.reservedOutpoints = .ok (tx.txIn.map TxIn.previousOutPoint)
  output : ∃ script, lib.addrScript wr.toAddress = .ok script ∧ tx.txOut = [⟨amount, script⟩]

lemma buildEVMUnsignedTx_congr (wr : WithdrawalRequest) {wr' : WithdrawalRequest}
    (htarget : wr'.toAddress = wr.toAddress) (hamount : wr'.amount = wr.amount)
    (evm : EVMParams) (w : Wallet) (n : Int) :
    buildEVMUnsignedTx lib evm w wr n = buildEVMUnsignedTx lib evm w wr' n := by
  unfold buildEVMUnsignedTx
  rw [htarget, hamount]

lemma buildBTCUnsignedTx_congr (wr : WithdrawalRequest) {wr' : WithdrawalRequest}
    (htarget : wr'.toAddress = wr.toAddress) (hamount : wr'.amount = wr.amount)
    (ops : List String) (opts : BuildOpts) :
    buildBTCUnsignedTx lib wr ops opts = buildBTCUnsignedTx lib wr' ops opts := by
  unfold buildBTCUnsignedTx
  rw [htarget, hamount]

lemma buildEVMUnsignedTx_payment {evm : EVMParams} {w : Wallet} {n : Int} {amount : ℕ}
    (hbuild : buildEVMUnsignedTx lib evm w wr n = .ok unsigned)
    (hsign : unsigned.assemble signature = .ok txBytes) (hrow : wr.nonceValue = some n)
    (hn : 0 ≤ n) (hmax : n < 2 ^ 63) (hlen : txBytes.length < 2 ^ 63)
    (hamount : bigIntSetString wr.amount = some (amount : Int)) :
    ∃ tx, decodeLegacyTx txBytes = some tx ∧ EVMPayment lib wr amount tx := by
  obtain ⟨tx, hbuilt⟩ := buildEVMUnsignedTx_ok hbuild
  obtain ⟨r, s, v, -, rfl⟩ := hbuilt.assembled signature txBytes hsign
  have htarget := hbuilt.target
  have hvalue := hbuilt.value
  rw [hbuilt.parts] at hlen ⊢
  have hnonce : n.toNat < 2 ^ 64 := by omega
  have hgas : evmGasLimit < 2 ^ 64 := by decide
  refine ⟨_, decodeLegacyTx_evmEncodeSignedTx hnonce hgas (by omega), ?_, htarget, ?_, ?_⟩
  · rw [hrow]
    simp [hn]
  · exact parseEVMAddress_length htarget
  · rw [hvalue, Option.some.injEq] at hamount
    rw [hamount, Int.natAbs_natCast]

lemma buildBTCUnsignedTx_payment {opts : BuildOpts} {amount : ℕ}
    (hbuild : buildBTCUnsignedTx lib wr wr.reservedOutpoints opts = .ok unsigned)
    (hsign : unsigned.assemble signature = .ok txBytes) (hmax : amount < 2 ^ 63)
    (hamount : lib.newFromString wr.amount = .ok (amount : ℚ)) :
    ∃ tx, lib.serialize tx = .ok txBytes ∧ BTCPayment lib wr amount tx := by
  obtain ⟨tx, amount', script, hserialize, hinputs, hamount', hscript, hout⟩ :=
    buildBTCUnsignedTx_serializes hbuild hsign
  rw [hamount] at hamount'
  cases hamount'
  rw [intPart_natCast hmax] at hout
  exact ⟨tx, hserialize, hinputs, script, hscript, hout⟩

end Builders

structure Built (svc : Service) (w : Wallet) (wr : WithdrawalRequest) : Prop where
  assembled : Assembled svc w wr (noncePtr wr) wr.reservedOutpoints wr.signedTxBytes
  numbered : w.chain.isEVM → 0 ≤ noncePtr wr

structure PayloadInv (svc : Service) (s : Store) : Prop where
  counters : Counters s
  signed : ∀ id wr, s.withdrawals.lookup id = some wr → wr.state = .signed →
    ∃ w, s.wallets.lookup wr.walletID = some w ∧ Built svc w wr

def SignedKept (s s' : Store) : Prop :=
  ∀ id wr, s'.withdrawals.lookup id = some wr → wr.state = .signed →
    s.withdrawals.lookup id = some wr

section Steps

variable {svc : Service} {s s₁ s' : Store} {id : UUID} {wr wr₁ : WithdrawalRequest} {w : Wallet}
  {n : Int} {ops : List String} {obs : List Obs} {op : Op}

lemma signedKept_of_eq (h : s'.withdrawals = s.withdrawals) : SignedKept s s' := by
  intro id wr hrow _
  rwa [← h]

lemma RowSet.signedKept (h : RowSet s s' id wr) (hstate : wr.state ≠ .signed) : SignedKept s s' := by
  intro j wr' hrow hsigned
  rcases h.lookup_cases hrow with ⟨-, rfl⟩ | ⟨-, hold⟩
  · exact absurd hsigned hstate
  · exact hold

lemma Outcome.signedKept (h : Outcome s op obs s') (hop : ∀ id, op ≠ .constructAndSign id) :
    SignedKept s s' := by
  cases h with
  | refused => exact signedKept_of_eq rfl
  | created hok hstate =>
    refine ((created_rowSet hok).state _ _ _ _).signedKept ?_
    rcases hstate with rfl | rfl <;> simp [Store.rowWithState]
  | unfunded | dropped | unsigned | signed => exact absurd rfl (hop _)
  | rejected hrow | failed hrow =>
    exact (((RowSet.refl hrow).released _ _ _).state _ _ _ _).signedKept (by simp [Store.rowWithState])
  | accepted hrow =>
    exact (((RowSet.refl hrow).committed _ _ _).state _ _ _ _).signedKept (by simp [Store.rowWithState])
  | confirmed hrow =>
    exact ((RowSet.refl hrow).state _ _ _ _).signedKept (by simp [Store.rowWithState])
  | restored => exact signedKept_of_eq rfl
  | demoted hrow =>
    exact (((RowSet.refl hrow).restored _).state _ _ _ _).signedKept (by simp [Store.rowWithState])

lemma Reserved.built {wr' : WithdrawalRequest} (h : Reserved s id wr w n ops wr₁ obs s₁)
    (hc : Counters s) (hasm : Assembled svc w wr n ops wr'.signedTxBytes)
    (htarget : wr'.toAddress = wr₁.toAddress) (hamount : wr'.amount = wr₁.amount)
    (hnonce : wr'.nonceValue = wr₁.nonceValue)
    (hops : wr'.reservedOutpoints = wr₁.reservedOutpoints) : Built svc w wr' := by
  obtain ⟨opts, unsigned, signature, hbuilt, hsign⟩ := hasm
  cases h with
  | evm hevm hn =>
    have hptr : noncePtr wr' = n := by
      rw [noncePtr, hnonce, Option.getD_some]
    refine ⟨⟨opts, unsigned, signature, ⟨?_, ?_⟩, hsign⟩, ?_⟩
    · intro _
      rw [hptr, hbuilt.1 hevm]
      exact buildEVMUnsignedTx_congr wr htarget hamount svc.evm w n
    · exact fun hbtc => absurd hbtc (isEVM_ne_bitcoin hevm)
    · intro _
      rw [hptr, hn]
      exact hc.nonneg _
  | bitcoin hbtc =>
    refine ⟨⟨opts, unsigned, signature, ⟨?_, ?_⟩, hsign⟩, ?_⟩
    · exact fun hevm => absurd hbtc (isEVM_ne_bitcoin hevm)
    · intro _
      rw [hops, hbuilt.2 hbtc]
      exact buildBTCUnsignedTx_congr wr htarget hamount ops opts
    · exact fun hevm => absurd hbtc (isEVM_ne_bitcoin hevm)
  | plain hevm hbtc =>
    refine ⟨⟨opts, unsigned, signature, ⟨?_, fun h => absurd h hbtc⟩, hsign⟩, ?_⟩
    · simp [hevm]
    · simp [hevm]

lemma PayloadInv.keep (h : PayloadInv svc s) (hc : Counters s') (hwallets : s'.wallets = s.wallets)
    (hkept : SignedKept s s') : PayloadInv svc s' := by
  refine ⟨hc, fun id wr hrow hsigned => ?_⟩
  rw [hwallets]
  exact h.signed id wr (hkept id wr hrow hsigned) hsigned

lemma PayloadInv.sign (h : PayloadInv svc s) (hc : Counters s') (hwallets : s'.wallets = s.wallets)
    (hset : RowSet s s' id wr) (hw : s.wallets.lookup wr.walletID = some w) (hbuilt : Built svc w wr) :
    PayloadInv svc s' := by
  refine ⟨hc, fun j wr' hrow hsigned => ?_⟩
  rw [hwallets]
  rcases hset.lookup_cases hrow with ⟨-, rfl⟩ | ⟨-, hold⟩
  · exact ⟨w, hw, hbuilt⟩
  · exact h.signed j wr' hold hsigned

theorem PayloadInv.step {tr : Trace} {a : Except Error Unit} (h : PayloadInv svc s)
    (he : Exec (memStep svc.lib) (op.proc svc) s tr a s') : PayloadInv svc s' := by
  have hout := op_outcome op tr a s' he
  have hc := hout.counters h.counters
  have hwallets := hout.wallets
  by_cases hop : ∀ id, op ≠ .constructAndSign id
  · exact h.keep hc hwallets (hout.signedKept hop)
  · simp only [not_forall, Decidable.not_not] at hop
    obtain ⟨id, rfl⟩ := hop
    rcases constructAndSign_saga id tr a s' he with ⟨-, rfl⟩ | ⟨wr, w, -, -, -, -, -, -, rfl⟩ |
      ⟨wr, w, n, ops, wr₁, s₁, hrow, hwl, hw, hres, rfl | ⟨reason, rfl⟩ | ⟨txBytes, -, hasm, rfl⟩⟩
    · exact h
    · exact h.keep hc hwallets (signedKept_of_eq (by simp))
    · refine h.keep hc hwallets (((hres.rowSet hrow).released _ _ _).signedKept ?_)
      rw [hres.fields.1, hwl]
      simp
    · refine h.keep hc hwallets ((((hres.rowSet hrow).released _ _ _).state _ _ _ _).signedKept ?_)
      simp [Store.rowWithState]
    · refine h.sign hc hwallets (((hres.rowSet hrow).update _).state _ _ _ _) ?_
        (hres.built h.counters hasm rfl rfl rfl rfl)
      have hid : wr₁.walletID = wr.walletID := hres.fields.2
      exact hid ▸ hw

end Steps

section Submissions

variable {svc : Service} {s s' : Store} {op : Op} {tr : Trace} {a : Except Error Unit}

lemma broadcast_submits (svc : Service) (id : UUID) : ∃ k,
    svc.broadcast id = .call (.store (.getWithdrawal id)) k ∧
      (∀ err, k (.error err) = .ret (.error err)) ∧
      ∀ wr, (k (.ok wr)).AllCalls (fun c => ∀ req, c = .ext (.broadcastTx req) →
        wr.state = .signed ∧ req.txBytes = wr.signedTxBytes) := by
  have hsilent : ∀ {wr : WithdrawalRequest} {states} (c : Call), Touches id states none c →
      ∀ req, c = .ext (.broadcastTx req) → wr.state = .signed ∧ req.txBytes = wr.signedTxBytes := by
    rintro wr states _ hc req rfl
    cases hc
  refine ⟨_, rfl, fun err => rfl, fun wr => ?_⟩
  dsimp only [Prog.bind]
  split
  · trivial
  rename_i hstate
  refine ⟨by simp, ?_⟩
  rintro (err | w)
  · trivial
  dsimp only [Prog.bind]
  split
  · trivial
  refine ⟨?_, ?_⟩
  · rintro req ⟨⟩
    exact ⟨Decidable.not_not.mp hstate, rfl⟩
  · rintro (err | resp)
    · refine Prog.AllCalls.mono (P := Touches id [.failed] none) hsilent ?_
      exact rollback_bind_touches ⟨⟨rfl, by simp⟩, fun _ => trivial⟩
    · exact (recordBroadcast_touches wr w resp.txHash).mono hsilent

lemma exec_submits (he : Exec (memStep svc.lib) (op.proc svc) s tr a s') {req : BroadcastRequest}
    {resp : ExtCall.Answer (.broadcastTx req)} (hreq : ⟨.ext (.broadcastTx req), resp⟩ ∈ tr) :
    ∃ wr, s.withdrawals.lookup op.id = some wr ∧ wr.state = .signed ∧
      req.txBytes = wr.signedTxBytes := by
  obtain ⟨states, hcalls⟩ := op_touches_own svc op
  have hparty : partyOf op = some .gateway := he.allCalls hcalls _ hreq
  cases op with
  | broadcast id =>
    obtain ⟨k, hproc, herr, hok⟩ := broadcast_submits svc id
    rw [show Op.proc svc (.broadcast id) = _ from hproc] at he
    obtain ⟨r, s₁, tr₁, hs, he, rfl⟩ := he
    obtain ⟨rfl, rfl⟩ := Prod.mk.inj (show (r, s₁) = (s.getWithdrawal id, s) from hs)
    have hreq' : ⟨.ext (.broadcastTx req), resp⟩ ∈ tr₁ := by
      rcases List.mem_cons.mp hreq with h | h
      · cases h
      · exact h
    cases hread : s₁.getWithdrawal id with
    | error err =>
      rw [hread, herr] at he
      obtain ⟨rfl, -⟩ := he
      cases hreq'
    | ok wr =>
      rw [hread] at he
      obtain ⟨hsigned, hbytes⟩ := he.allCalls (hok wr) _ hreq' req rfl
      exact ⟨wr, getWithdrawal_ok hread, hsigned, hbytes⟩
  | _ => cases hparty

end Submissions

/-- What Go's types guarantee of a row: the nonce is an `int64`, and a slice has fewer than
two to the power 63 bytes. -/
structure GoSized (wr : WithdrawalRequest) : Prop where
  nonce : ∀ n, wr.nonceValue = some n → n < 2 ^ 63
  bytes : wr.signedTxBytes.length < 2 ^ 63

/-- In every run, what an operation submits to the gateway are the signed bytes of its
withdrawal, and they pay the amount on the row to the destination on the row. -/
theorem broadcast_is_requested {svc : Service} {wallets : List Wallet} {utxos : List UTXO}
    {log : List (Entry Op Call Answer (Except Error Unit))} {s s' : Store} {op : Op} {tr : Trace}
    {a : Except Error Unit}
    (h : Runs (Op.proc svc) (memStep svc.lib) (fun _ _ => True) (Store.initial wallets utxos) log s)
    (he : Exec (memStep svc.lib) (op.proc svc) s tr a s') {req : BroadcastRequest}
    {resp : ExtCall.Answer (.broadcastTx req)} (hreq : ⟨.ext (.broadcastTx req), resp⟩ ∈ tr) :
    ∃ wr w, s.withdrawals.lookup op.id = some wr ∧ s.wallets.lookup wr.walletID = some w ∧
      req.txBytes = wr.signedTxBytes ∧
      ∀ amount : ℕ, amount < 2 ^ 63 →
        (w.chain.isEVM → GoSized wr → bigIntSetString wr.amount = some (amount : Int) →
          ∃ tx, decodeLegacyTx req.txBytes = some tx ∧ EVMPayment svc.lib wr amount tx) ∧
        (w.chain = .bitcoin → svc.lib.newFromString wr.amount = .ok (amount : ℚ) →
          ∃ tx, svc.lib.serialize tx = .ok req.txBytes ∧ BTCPayment svc.lib wr amount tx) := by
  have hinit : PayloadInv svc (Store.initial wallets utxos) :=
    ⟨(SagaInv.initial wallets utxos).counters, fun _ _ hrow => by cases hrow⟩
  have hinv : PayloadInv svc s :=
    Runs.invariant (I := fun _ s => PayloadInv svc s) hinit (fun _ _ _ _ _ _ hi _ he => hi.step he) h
  obtain ⟨wr, hrow, hsigned, hbytes⟩ := exec_submits he hreq
  obtain ⟨w, hw, ⟨opts, unsigned, signature, hbuilt, hsign⟩, hnonce⟩ := hinv.signed _ wr hrow hsigned
  rw [hbytes]
  refine ⟨wr, w, hrow, hw, rfl, fun amount hmax => ⟨fun hevm hsized hamount => ?_, fun hbtc hamount => ?_⟩⟩
  · have hvalue := noncePtr_nonneg (hnonce hevm)
    exact buildEVMUnsignedTx_payment (hbuilt.1 hevm).symm hsign hvalue (hnonce hevm)
      (hsized.nonce _ hvalue) hsized.bytes hamount
  · exact buildBTCUnsignedTx_payment (hbuilt.2 hbtc).symm hsign hmax hamount

lemma gatewayAnswer_some {e : Event Call Answer} {req : BroadcastRequest} {ok : Bool}
    (h : gatewayAnswer e = some (req, ok)) :
    ∃ resp : ExtCall.Answer (.broadcastTx req), e = ⟨.ext (.broadcastTx req), resp⟩ := by
  unfold gatewayAnswer at h
  split at h
  · cases h
    exact ⟨_, rfl⟩
  · cases h
    exact ⟨_, rfl⟩
  · cases h

def paidRun : List (Entry Op Call Answer (Except Error Unit)) × Store :=
  referenceRun agree (Store.initial [evmWallet] [])
    [.create (UUID.ofByte 10) (evmTransfer "2"), .constructAndSign (UUID.ofByte 10)]

def paidStep : Trace × Except Error Unit × Store :=
  referenceStep agree paidRun.2 (.broadcast (UUID.ofByte 10))

theorem broadcast_is_requested_evm : ∃ req tx, (req, true) ∈ paidStep.1.filterMap gatewayAnswer ∧
    decodeLegacyTx req.txBytes = some tx ∧ tx.nonce = 0 ∧ tx.value = 2 := by
  have hanswers : true ∈ (paidStep.1.filterMap gatewayAnswer).map Prod.snd := by decide +kernel
  have hrow : (paidRun.2.withdrawals.lookup (UUID.ofByte 10)).map (fun wr =>
      (wr.walletID, wr.amount, wr.nonceValue, decide (wr.signedTxBytes.length < 2 ^ 63))) =
      some (evmWallet.id, "2", some 0, true) := by decide +kernel
  have hwallet : paidRun.2.wallets.lookup evmWallet.id = some evmWallet := by decide +kernel
  obtain ⟨⟨req, ok⟩, hmem, rfl⟩ := List.mem_map.mp hanswers
  obtain ⟨e, he, hans⟩ := List.mem_filterMap.mp hmem
  obtain ⟨resp, rfl⟩ := gatewayAnswer_some hans
  have hrun := referenceRun_runs agree (fun _ _ => True) (Store.initial [evmWallet] [])
    [.create (UUID.ofByte 10) (evmTransfer "2"), .constructAndSign (UUID.ofByte 10)] (by simp)
  obtain ⟨wr, w, hlookup, hw, -, hpay⟩ := broadcast_is_requested hrun
    (referenceStep_exec agree paidRun.2 (.broadcast (UUID.ofByte 10))) he
  rw [show paidRun.2.withdrawals.lookup (UUID.ofByte 10) = some wr from hlookup] at hrow
  simp only [Option.map_some, Option.some.injEq, Prod.mk.injEq, decide_eq_true_eq] at hrow
  obtain ⟨hid, hamount, hnonce, hlen⟩ := hrow
  obtain rfl : evmWallet = w := by
    rw [hid] at hw
    exact Option.some.inj (hwallet.symm.trans hw)
  have hsized : GoSized wr := ⟨fun n hn => by rw [hnonce] at hn; cases hn; decide, hlen⟩
  have hvalue : bigIntSetString wr.amount = some ((2 : ℕ) : Int) := by
    rw [hamount]
    decide +kernel
  obtain ⟨tx, htx, hpayment⟩ := (hpay 2 (by decide)).1 rfl hsized hvalue
  refine ⟨req, tx, hmem, htx, ?_, hpayment.value⟩
  have hfirst := hpayment.nonce
  rw [hnonce] at hfirst
  simpa using hfirst.symm

end WalletManager.Proofs
