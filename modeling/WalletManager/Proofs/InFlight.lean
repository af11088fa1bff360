import WalletManager.Proofs.NonceSafety
import WalletManager.Proofs.Reference
import WalletManager.Storage.Postgres

/-!
# One withdrawal in flight per request

The memory store keeps the keys of the withdrawals in flight in a set of its own. The set and the
rows stay in step unless `Fail` or a reorg callback hits a final withdrawal.
-/

namespace WalletManager.Proofs

open Interaction

def dedupKey (wr : WithdrawalRequest) : String :=
  withdrawalDedupKey wr.walletID wr.toAddress wr.amount wr.asset

structure InFlightKeys (s : Store) : Prop where
  listed : ∀ id wr, s.withdrawals.lookup id = some wr → wr.state.inFlight →
    dedupKey wr ∈ s.inflightWithdrawals
  distinct : ∀ i j a b, s.withdrawals.lookup i = some a → s.withdrawals.lookup j = some b →
    a.state.inFlight → b.state.inFlight → dedupKey a = dedupKey b → i = j

/-- The condition on calls: `Fail` hits a final withdrawal only if no withdrawal in flight has
its key, and a reorg callback hits no confirmed one. -/
def KeepsKeys (s : Store) : Op → Prop
  | .fail id _ => ∀ wr j b, s.withdrawals.lookup id = some wr → wr.state.inFlight = false →
    s.withdrawals.lookup j = some b → b.state.inFlight → dedupKey b ≠ dedupKey wr
  | .onReorg id _ => ∀ wr, s.withdrawals.lookup id = some wr → wr.state ≠ .confirmed
  | _ => True

section Frames

variable (s : Store)

@[simp] lemma rollbackPendingNonce_inflight (walletID : UUID) (chain : String) (n : Int) :
    (s.rollbackPendingNonce walletID chain n).2.inflightWithdrawals = s.inflightWithdrawals := by
  unfold Store.rollbackPendingNonce
  grind

@[simp] lemma lockUTXOs_inflight (ops : List String) :
    (s.lockUTXOs ops).2.inflightWithdrawals = s.inflightWithdrawals := by
  unfold Store.lockUTXOs
  split <;> rfl

lemma released_inflight (w : Wallet) (n : Int) (ops : List String) :
    (released s w n ops).inflightWithdrawals = s.inflightWithdrawals := by
  unfold released Store.restoreUTXOs
  dsimp only
  split <;> split <;> simp

lemma committed_inflight (wr : WithdrawalRequest) (w : Wallet) (txHash : String) :
    (committed s wr w txHash).inflightWithdrawals = s.inflightWithdrawals := by
  unfold committed Store.advanceBroadcastNonce Store.markUTXOsSpent
  grind

lemma updateWithdrawal_inflight (id : UUID) (f : WithdrawalRequest → WithdrawalRequest) :
    (s.updateWithdrawal id f).2.inflightWithdrawals = s.inflightWithdrawals := by
  unfold Store.updateWithdrawal
  split <;> rfl

lemma updateWithdrawalState_inflight {s : Store} {id : UUID} {wr : WithdrawalRequest}
    (hrow : s.withdrawals.lookup id = some wr) (state : WithdrawalState)
    (reason txHash decisionID : String) :
    (s.updateWithdrawalState id state reason txHash decisionID).2.inflightWithdrawals =
      if state.inFlight then s.inflightWithdrawals else s.inflightWithdrawals.erase (dedupKey wr) := by
  unfold Store.updateWithdrawalState
  rw [hrow]
  cases state <;> rfl

end Frames

section Steps

variable {s s₁ s' : Store} {id : UUID} {wr wr₁ : WithdrawalRequest} {w : Wallet} {n : Int}
  {ops : List String} {obs : List Obs} {op : Op}

lemma InFlightKeys.congr (h : InFlightKeys s) (hrows : s'.withdrawals = s.withdrawals)
    (hkeys : s'.inflightWithdrawals = s.inflightWithdrawals) : InFlightKeys s' := by
  refine ⟨?_, ?_⟩
  · rw [hrows, hkeys]
    exact h.listed
  · rw [hrows]
    exact h.distinct

lemma InFlightKeys.alone (h : InFlightKeys s) (hrow : s.withdrawals.lookup id = some wr)
    (hin : wr.state.inFlight) {j : UUID} {b : WithdrawalRequest} (hj : j ≠ id)
    (hb : s.withdrawals.lookup j = some b) (hbin : b.state.inFlight) : dedupKey b ≠ dedupKey wr :=
  fun hkey => hj (h.distinct j id b wr hb hrow hbin hin hkey)

lemma InFlightKeys.set (h : InFlightKeys s) (hrow : s.withdrawals.lookup id = some wr)
    (hset : RowSet s s' id wr₁) (hkey : dedupKey wr₁ = dedupKey wr)
    (hin : wr₁.state.inFlight → wr.state.inFlight)
    (hlisted : ∀ j b, s'.withdrawals.lookup j = some b → b.state.inFlight →
      dedupKey b ∈ s.inflightWithdrawals → dedupKey b ∈ s'.inflightWithdrawals) :
    InFlightKeys s' := by
  have hold : ∀ j b, s'.withdrawals.lookup j = some b → b.state.inFlight →
      ∃ a, s.withdrawals.lookup j = some a ∧ a.state.inFlight ∧ dedupKey a = dedupKey b := by
    intro j b hb hbin
    rcases hset.lookup_cases hb with ⟨rfl, rfl⟩ | ⟨-, hold⟩
    · exact ⟨wr, hrow, hin hbin, hkey.symm⟩
    · exact ⟨b, hold, hbin, rfl⟩
  constructor
  · intro j b hb hbin
    obtain ⟨a, ha, hain, hab⟩ := hold j b hb hbin
    exact hlisted j b hb hbin (hab ▸ h.listed j a ha hain)
  · intro i j a b ha hb hain hbin hab
    obtain ⟨a₀, ha₀, hain₀, hka⟩ := hold i a ha hain
    obtain ⟨b₀, hb₀, hbin₀, hkb⟩ := hold j b hb hbin
    exact h.distinct i j a₀ b₀ ha₀ hb₀ hain₀ hbin₀ (hka.trans (hab.trans hkb.symm))

lemma InFlightKeys.update (h : InFlightKeys s) (hrow : s.withdrawals.lookup id = some wr)
    (f : WithdrawalRequest → WithdrawalRequest) (hkey : dedupKey (f wr) = dedupKey wr)
    (hstate : (f wr).state = wr.state) : InFlightKeys (s.updateWithdrawal id f).2 := by
  refine h.set hrow ((RowSet.refl hrow).update f) hkey (fun hin => hstate ▸ hin) ?_
  intro j b _ _ hmem
  rwa [updateWithdrawal_inflight]

theorem InFlightKeys.state (h : InFlightKeys s) (hrow : s.withdrawals.lookup id = some wr)
    (state : WithdrawalState) (reason txHash decisionID : String)
    (hin : state.inFlight → wr.state.inFlight)
    (halone : state.inFlight = false → ∀ j b, j ≠ id → s.withdrawals.lookup j = some b →
      b.state.inFlight → dedupKey b ≠ dedupKey wr) :
    InFlightKeys (s.updateWithdrawalState id state reason txHash decisionID).2 := by
  have hset := (RowSet.refl hrow).state state reason txHash decisionID
  refine h.set hrow hset rfl hin ?_
  intro j b hb hbin hmem
  rw [updateWithdrawalState_inflight hrow]
  split
  · exact hmem
  · rename_i hfinal
    refine Finset.mem_erase.mpr ⟨?_, hmem⟩
    rcases hset.lookup_cases hb with ⟨-, rfl⟩ | ⟨hj, hold⟩
    · exact absurd hbin hfinal
    · exact halone (Bool.eq_false_iff.mpr hfinal) j b hj hold hbin

lemma InFlightKeys.advance (h : InFlightKeys s) (hrow : s.withdrawals.lookup id = some wr)
    (hin : wr.state.inFlight) (state : WithdrawalState) (reason txHash decisionID : String) :
    InFlightKeys (s.updateWithdrawalState id state reason txHash decisionID).2 :=
  h.state hrow state reason txHash decisionID (fun _ => hin)
    (fun _ _ _ hj hb hbin => h.alone hrow hin hj hb hbin)

lemma InFlightKeys.released (h : InFlightKeys s) (w : Wallet) (n : Int) (ops : List String) :
    InFlightKeys (released s w n ops) :=
  h.congr (released_withdrawals _ _ _ _) (released_inflight _ _ _ _)

lemma created_inflight {req : CreateRequest} (hok : (s.createWithdrawal (req.row id)).1 = .ok ()) :
    dedupKey (req.row id) ∉ s.inflightWithdrawals ∧
      (s.createWithdrawal (req.row id)).2.inflightWithdrawals =
        insert (dedupKey (req.row id)) s.inflightWithdrawals := by
  unfold Store.createWithdrawal at hok ⊢
  dsimp only at hok ⊢
  split at hok
  · cases hok
  · split at hok
    · cases hok
    · rename_i hid hkey
      rw [if_neg hid, if_neg hkey]
      exact ⟨hkey, rfl⟩

lemma InFlightKeys.created (h : InFlightKeys s) {req : CreateRequest}
    (hok : (s.createWithdrawal (req.row id)).1 = .ok ()) :
    InFlightKeys (s.createWithdrawal (req.row id)).2 := by
  have hset := created_rowSet hok
  obtain ⟨hnew, hkeys⟩ := created_inflight hok
  constructor
  · intro j b hb hbin
    rw [hkeys]
    rcases hset.lookup_cases hb with ⟨-, rfl⟩ | ⟨-, hold⟩
    · exact Finset.mem_insert_self _ _
    · exact Finset.mem_insert_of_mem (h.listed j b hold hbin)
  · intro i j a b ha hb hain hbin hab
    rcases hset.lookup_cases ha with ⟨hi, rfl⟩ | ⟨-, hia⟩ <;>
      rcases hset.lookup_cases hb with ⟨hj, rfl⟩ | ⟨-, hjb⟩
    · exact hi.trans hj.symm
    · rw [hab] at hnew
      exact absurd (h.listed j b hjb hbin) hnew
    · rw [← hab] at hnew
      exact absurd (h.listed i a hia hain) hnew
    · exact h.distinct i j a b hia hjb hain hbin hab

lemma Reserved.inFlightKeys (h : Reserved s id wr w n ops wr₁ obs s₁)
    (hrow : s.withdrawals.lookup id = some wr) (hi : InFlightKeys s) : InFlightKeys s₁ := by
  cases h with
  | evm =>
    have hs : InFlightKeys (s.incrementPendingNonce wr.walletID w.chain.string).2 := hi.congr rfl rfl
    exact hs.update hrow _ rfl rfl
  | bitcoin =>
    have hs : InFlightKeys (s.lockUTXOs ops).2 := hi.congr (by simp) (by simp)
    exact hs.update (by rwa [lockUTXOs_withdrawals]) _ rfl rfl
  | plain => exact hi

theorem InFlightKeys.step (h : Outcome s op obs s') (hok : KeepsKeys s op) (hi : InFlightKeys s) :
    InFlightKeys s' := by
  cases h with
  | refused => exact hi
  | created hcreated =>
    exact (hi.created hcreated).advance (created_rowSet hcreated).row rfl _ _ _ _
  | unfunded => exact hi.congr (by simp) (by simp)
  | dropped hrow hwl hw hres => exact (hres.inFlightKeys hrow hi).released _ _ _
  | unsigned hrow hwl hw hres =>
    have hset := (hres.rowSet hrow).released
    refine ((hres.inFlightKeys hrow hi).released _ _ _).advance (hset _ _ _).row ?_ _ _ _ _
    rw [hres.fields.1, hwl]
    rfl
  | @signed id wr w n ops wr₁ obs s₁ txBytes hrow hwl hw hres =>
    have hset := (hres.rowSet hrow).update (fun w => { w with signedTxBytes := txBytes })
    refine InFlightKeys.advance ?_ hset.row ?_ _ _ _ _
    · exact (hres.inFlightKeys hrow hi).update (hres.rowSet hrow).row _ rfl rfl
    · change wr₁.state.inFlight = true
      rw [hres.fields.1, hwl]
      rfl
  | rejected hrow hsigned =>
    refine (hi.released _ _ _).advance ((RowSet.refl hrow).released _ _ _).row ?_ _ _ _ _
    rw [hsigned]
    rfl
  | accepted hrow hsigned =>
    refine InFlightKeys.advance ?_ ((RowSet.refl hrow).committed _ _ _).row ?_ _ _ _ _
    · exact hi.congr (committed_withdrawals _ _ _ _) (committed_inflight _ _ _ _)
    · rw [hsigned]
      rfl
  | confirmed hrow hbroadcast =>
    refine hi.advance hrow ?_ _ _ _ _
    rw [hbroadcast]
    rfl
  | @failed id wr w reason hrow hw =>
    have hset := (RowSet.refl hrow).released w (noncePtr wr) []
    refine (hi.released _ _ _).state hset.row .failed _ _ _ (fun h => by cases h) ?_
    intro _ j b hj hb hbin
    rw [released_withdrawals] at hb
    by_cases hin : wr.state.inFlight = true
    · exact hi.alone hrow hin hj hb hbin
    · exact hok wr j b hrow (Bool.eq_false_iff.mpr hin) hb hbin
  | restored => exact hi.congr rfl rfl
  | demoted hrow hconfirmed => exact absurd hconfirmed (hok _ hrow)

end Steps

lemma inFlightKeys_of_runs {svc : Service} {wallets : List Wallet} {utxos : List UTXO}
    {log : List (Entry Op Call Answer (Except Error Unit))} {s : Store}
    (h : Runs (Op.proc svc) (memStep svc.lib) KeepsKeys (Store.initial wallets utxos) log s) :
    InFlightKeys s := by
  refine Runs.invariant (I := fun _ s => InFlightKeys s) ?_ ?_ h
  · constructor
    · intro id wr hrow
      cases hrow
    · intro i j a b hrow
      cases hrow
  · intro log s op tr a s' hi hok he
    exact hi.step (op_outcome op tr a s' he) hok

def requestIn (s : Store) (id : UUID) : Option (WithdrawalState × CreateRequest) :=
  (s.withdrawals.lookup id).map (fun wr => (wr.state, requestOf wr))

lemma InFlightKeys.eq_of_request {s : Store} (h : InFlightKeys s) {i j : UUID}
    {st st' : WithdrawalState} {req : CreateRequest} (hi : requestIn s i = some (st, req))
    (hj : requestIn s j = some (st', req)) (hst : st.inFlight) (hst' : st'.inFlight) : i = j := by
  obtain ⟨a, ha, hareq⟩ := Option.map_eq_some_iff.mp hi
  obtain ⟨b, hb, hbreq⟩ := Option.map_eq_some_iff.mp hj
  simp only [Prod.mk.injEq] at hareq hbreq
  obtain ⟨rfl, rfl⟩ := hareq
  obtain ⟨rfl, hreq⟩ := hbreq
  obtain ⟨hwallet, hto, hasset, hamount⟩ := CreateRequest.mk.inj hreq
  refine h.distinct i j a b ha hb hst hst' ?_
  rw [dedupKey, dedupKey, hwallet, hto, hamount, hasset]

/-- At most one withdrawal in flight has a given wallet, address, amount and asset, in every
run whose calls meet `KeepsKeys`. -/
theorem one_in_flight_per_request {svc : Service} {wallets : List Wallet} {utxos : List UTXO}
    {log : List (Entry Op Call Answer (Except Error Unit))} {s : Store}
    (h : Runs (Op.proc svc) (memStep svc.lib) KeepsKeys (Store.initial wallets utxos) log s) :
    ∀ i j st st' req, requestIn s i = some (st, req) → requestIn s j = some (st', req) →
      st.inFlight → st'.inFlight → i = j := by
  intro i j st st' req hi hj hst hst'
  exact (inFlightKeys_of_runs h).eq_of_request hi hj hst hst'

def askedTwice : List (Entry Op Call Answer (Except Error Unit)) × Store :=
  referenceRun agree (Store.initial [evmWallet] [])
    [.create (UUID.ofByte 10) (evmTransfer "1"), .create (UUID.ofByte 11) (evmTransfer "1"),
      .constructAndSign (UUID.ofByte 10)]

theorem one_in_flight_per_request_twice :
    requestIn askedTwice.2 (UUID.ofByte 10) = some (.signed, evmTransfer "1") ∧
      ∀ j st, requestIn askedTwice.2 j = some (st, evmTransfer "1") → st.inFlight →
        UUID.ofByte 10 = j := by
  have hrow : requestIn askedTwice.2 (UUID.ofByte 10) = some (.signed, evmTransfer "1") := by
    decide +kernel
  have hrun := referenceRun_runs agree KeepsKeys (Store.initial [evmWallet] [])
    [.create (UUID.ofByte 10) (evmTransfer "1"), .create (UUID.ofByte 11) (evmTransfer "1"),
      .constructAndSign (UUID.ofByte 10)] (by simp [KeepsKeys])
  exact ⟨hrow, fun j st hj hst => one_in_flight_per_request hrun _ j _ st _ hrow hj rfl hst⟩

def failedAgain : List (Entry Op Call Answer (Except Error Unit)) × Store :=
  referenceRun agree (Store.initial [evmWallet] [])
    [.create (UUID.ofByte 10) (evmTransfer "1"), .fail (UUID.ofByte 10) "stuck",
      .create (UUID.ofByte 11) (evmTransfer "1"), .fail (UUID.ofByte 10) "stuck",
      .create (UUID.ofByte 12) (evmTransfer "1")]

def reorgedAfterRepeat : List (Entry Op Call Answer (Except Error Unit)) × Store :=
  referenceRun agree (Store.initial [evmWallet] [])
    [.create (UUID.ofByte 10) (evmTransfer "1"), .constructAndSign (UUID.ofByte 10),
      .broadcast (UUID.ofByte 10), .confirm (UUID.ofByte 10) "txhash",
      .create (UUID.ofByte 11) (evmTransfer "1"), .onReorg (UUID.ofByte 10) []]

theorem repeated_request_in_flight_twice :
    (Runs (Op.proc referenceService) (memStep referenceService.lib) NoReorg
        (Store.initial [evmWallet] []) failedAgain.1 failedAgain.2 ∧
      requestIn failedAgain.2 (UUID.ofByte 11) = some (.whitelisted, evmTransfer "1") ∧
      requestIn failedAgain.2 (UUID.ofByte 12) = some (.whitelisted, evmTransfer "1")) ∧
    (Runs (Op.proc referenceService) (memStep referenceService.lib) (fun _ _ => True)
        (Store.initial [evmWallet] []) reorgedAfterRepeat.1 reorgedAfterRepeat.2 ∧
      requestIn reorgedAfterRepeat.2 (UUID.ofByte 10) = some (.broadcast, evmTransfer "1") ∧
      requestIn reorgedAfterRepeat.2 (UUID.ofByte 11) = some (.whitelisted, evmTransfer "1")) := by
  constructor
  · exact ⟨referenceRun_runs _ _ _ _ (by simp [NoReorg]), by decide +kernel⟩
  · exact ⟨referenceRun_runs _ _ _ _ (by simp), by decide +kernel⟩

/-- The destination and the amount that the builder reads from a request on an EVM wallet. -/
def transferOf (lib : Lib) (req : CreateRequest) : Option (Bytes × Int) :=
  match parseEVMAddress lib req.toAddress with
  | .error _ => none
  | .ok target => (bigIntSetString req.amount).map (fun value => (target, value))

/-- The request spells its transfer plainly: lower-case hexadecimal digits, and a decimal number
without a plus sign or leading zeros. -/
def SpelledPlainly (lib : Lib) (req : CreateRequest) : Prop :=
  ∃ target value, transferOf lib req = some (target, value) ∧
    req.toAddress = "0x" ++ String.ofList (target.flatMap hexByte) ∧ req.amount = toString value

def CreatesOnly (_ : Store) : Op → Prop
  | .create _ _ => True
  | _ => False

/-- After any run of `Create` calls, two whitelisted withdrawals of a wallet and an asset differ
in the text of the address or of the amount; if both are spelled plainly, they are different
transfers. -/
theorem whitelisted_spelled_differently {svc : Service} {wallets : List Wallet} {utxos : List UTXO}
    {log : List (Entry Op Call Answer (Except Error Unit))} {s : Store}
    (h : Runs (Op.proc svc) (memStep svc.lib) CreatesOnly (Store.initial wallets utxos) log s) :
    ∀ i j a b, i ≠ j → requestIn s i = some (.whitelisted, a) →
      requestIn s j = some (.whitelisted, b) → a.walletID = b.walletID → a.asset = b.asset →
      (a.toAddress ≠ b.toAddress ∨ a.amount ≠ b.amount) ∧
        (SpelledPlainly svc.lib a → SpelledPlainly svc.lib b →
          transferOf svc.lib a ≠ transferOf svc.lib b) := by
  have hkeys : InFlightKeys s := by
    refine inFlightKeys_of_runs (h.mono (fun _ _ _ _ hstep => hstep) ?_)
    intro s op hok
    cases op with
    | create => trivial
    | _ => cases hok
  intro i j a b hij ha hb hwallet hasset
  have htext : a.toAddress ≠ b.toAddress ∨ a.amount ≠ b.amount := by
    by_contra hsame
    push Not at hsame
    have hab : a = b := by
      cases a
      cases b
      simp_all
    exact hij (hkeys.eq_of_request ha (hab ▸ hb) rfl rfl)
  refine ⟨htext, ?_⟩
  rintro ⟨ta, va, hta, hato, haamount⟩ ⟨tb, vb, htb, hbto, hbamount⟩ heq
  rw [hta, htb, Option.some.injEq, Prod.mk.injEq] at heq
  rcases htext with hto | hamount
  · exact hto (by rw [hato, hbto, heq.1])
  · exact hamount (by rw [haamount, hbamount, heq.2])

def plainRun : List (Entry Op Call Answer (Except Error Unit)) × Store :=
  referenceRun agree (Store.initial [evmWallet] [])
    [.create (UUID.ofByte 10) (evmTransfer "1"), .create (UUID.ofByte 11) (evmTransfer "2")]

theorem whitelisted_spelled_differently_plain :
    requestIn plainRun.2 (UUID.ofByte 10) = some (.whitelisted, evmTransfer "1") ∧
      requestIn plainRun.2 (UUID.ofByte 11) = some (.whitelisted, evmTransfer "2") ∧
      SpelledPlainly referenceLib (evmTransfer "1") ∧ SpelledPlainly referenceLib (evmTransfer "2") ∧
      transferOf referenceLib (evmTransfer "1") ≠ transferOf referenceLib (evmTransfer "2") := by
  obtain ⟨h10, h11⟩ : requestIn plainRun.2 (UUID.ofByte 10) = some (.whitelisted, evmTransfer "1") ∧
      requestIn plainRun.2 (UUID.ofByte 11) = some (.whitelisted, evmTransfer "2") := by decide +kernel
  have hone : SpelledPlainly referenceLib (evmTransfer "1") :=
    ⟨List.replicate 19 0 ++ [0xaa], 1, by decide +kernel⟩
  have htwo : SpelledPlainly referenceLib (evmTransfer "2") :=
    ⟨List.replicate 19 0 ++ [0xaa], 2, by decide +kernel⟩
  have hrun := referenceRun_runs agree CreatesOnly (Store.initial [evmWallet] [])
    [.create (UUID.ofByte 10) (evmTransfer "1"), .create (UUID.ofByte 11) (evmTransfer "2")]
    (by simp [CreatesOnly])
  have hdiff := whitelisted_spelled_differently hrun _ _ _ _ (by decide) h10 h11 rfl rfl
  exact ⟨h10, h11, hone, htwo, hdiff.2 hone htwo⟩

def capitalTransfer (amount : String) : CreateRequest :=
  ⟨evmWallet.id, "0x00000000000000000000000000000000000000AA", "ETH", amount⟩

def spelledThrice : List (Entry Op Call Answer (Except Error Unit)) × Store :=
  referenceRun agree (Store.initial [evmWallet] [])
    [.create (UUID.ofByte 10) (evmTransfer "1"), .create (UUID.ofByte 11) (evmTransfer "01"),
      .create (UUID.ofByte 12) (capitalTransfer "1")]

theorem same_transfer_whitelisted_thrice :
    Runs (Op.proc referenceService) (memStep referenceService.lib) CreatesOnly
        (Store.initial [evmWallet] []) spelledThrice.1 spelledThrice.2 ∧
      requestIn spelledThrice.2 (UUID.ofByte 10) = some (.whitelisted, evmTransfer "1") ∧
      requestIn spelledThrice.2 (UUID.ofByte 11) = some (.whitelisted, evmTransfer "01") ∧
      requestIn spelledThrice.2 (UUID.ofByte 12) = some (.whitelisted, capitalTransfer "1") ∧
      transferOf referenceLib (evmTransfer "1") = some (List.replicate 19 0 ++ [0xaa], 1) ∧
      transferOf referenceLib (evmTransfer "01") = some (List.replicate 19 0 ++ [0xaa], 1) ∧
      transferOf referenceLib (capitalTransfer "1") = some (List.replicate 19 0 ++ [0xaa], 1) :=
  ⟨referenceRun_runs _ _ _ _ (by simp [CreatesOnly]), by decide +kernel⟩

end WalletManager.Proofs
