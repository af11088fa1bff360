import WalletManager.Audit.Json
import WalletManager.Proofs.BalanceTransactions
import WalletManager.Proofs.Reference

/-!
# Concurrent updates of balances on Postgres

Any number of operations of the balance service run at the same time, beside procedures over the
other store operations, statement by statement and with any failures. No update is lost.
-/

namespace WalletManager.Proofs

open Interaction Relational

variable {T : Type} {db : Database} {em : EmitterService} {svc : BalanceService} {op : BalanceOp} {t : T}
  {g : SqlClient} {rows rows' : (k : RowKey) → Option k.Row} {u : List SqlEvent}

section Operations

def balanceRules (svc : BalanceService) (db : Database) (op : BalanceOp) : SqlRules :=
  ⟨Outside, fun pre u => pre = [] ∧ BalanceUnit svc db op u⟩

def Settles (svc : BalanceService) (db : Database) (op : BalanceOp) (g : SqlClient) : Prop :=
  (∃ u ∈ g.finished, BalanceUnit svc db op u) ∨
  ∃ ev id, op = .confirm ev ∧ [⟨.exec (.event (.existsOther ⟨id, ev.balanceEvent⟩)), .ok true⟩] ∈ g.finished

lemma inTx_conforms (op : BalanceOp) (hidle : g.phase = .idle) (hatt : g.attempted = []) :
    Conforms ((postgres db).client t (balanceRules svc db op))
      ((inTx (body svc op)).translate (Call.auditedSql db t em)) g
      (fun g' a => g'.phase = .unreachable ∨ g'.phase = .idle ∧
        (a = .ok () → ∃ u ∈ g'.finished, BalanceUnit svc db op u)) := by
  have htx : ∀ u, BalanceUnit svc db op u → (balanceRules svc db op).tx g.attempted u := fun u hu => ⟨hatt, hu⟩
  rw [inTx_translate]
  refine (sqlTx_conforms hidle (body_conforms op htx)).mono ?_
  rintro g' a (hun | ⟨hidle', -, hok⟩)
  · exact .inl hun
  · exact .inr ⟨hidle', hok ()⟩

lemma proc_conforms (op : BalanceOp) :
    Conforms ((postgres db).client t (balanceRules svc db op))
      ((op.proc svc).translate (Call.auditedSql db t em)) {}
      (fun g a => g.phase = .unreachable ∨ (a = .ok () → Settles svc db op g)) := by
  cases op with
  | confirm ev =>
    refine ((recordBalanceEventSql_conforms (fun _ h => h) ev.balanceEvent rfl).mono ?_).bind
    rintro g r ⟨hidle, hatt, hdup⟩
    cases r with
    | error err =>
      change Conforms _ (Prog.translate _ (if err.is = some .errDuplicateEvent then _ else _)) _ _
      split
      · rename_i his
        obtain ⟨id, hid⟩ := hdup err rfl his
        exact .inr (fun _ => .inr ⟨ev, id, rfl, hid⟩)
      · refine .inr (fun hok => ?_)
        cases hok
    | ok a =>
      refine Eq.mpr (congrArg (fun p => Conforms _ p g _) (Prog.translate_bind _ (inTx (svc.credit ev)) _)) ?_
      refine ((inTx_conforms (.confirm ev) hidle hatt).mono ?_).bind
      rintro g' r (hun | ⟨hidle', hok⟩)
      · exact Dialect.conforms_unreachable (translate_session _) hun (fun _ _ h => .inl h)
      cases r with
      | error err =>
        refine .inr (fun h => ?_)
        cases h
      | ok a =>
        have hsettles : Settles svc db (.confirm ev) g' := .inl (hok rfl)
        change Conforms _ (Prog.translate _ (if _ then _ else _)) _ _
        split
        · exact Dialect.conforms_other rfl (fun _ => .inr (fun _ => hsettles))
        · exact .inr (fun _ => hsettles)
  | reorg ev =>
    refine Eq.mpr (congrArg (fun p => Conforms _ p _ _) (Prog.translate_bind _ (inTx (svc.demote ev)) _)) ?_
    refine ((inTx_conforms (.reorg ev) rfl rfl).mono ?_).bind
    rintro g' r (hun | ⟨hidle', hok⟩)
    · exact Dialect.conforms_unreachable (translate_session _) hun (fun _ _ h => .inl h)
    cases r with
    | error err =>
      refine .inr (fun h => ?_)
      cases h
    | ok a =>
      obtain ⟨u, hu, hunit⟩ := hok rfl
      refine (Dialect.conforms_finished (autocommit_noTx (A := fun _ => True) (fun _ h => h) ?_
        (.inl ⟨hidle', trivial⟩))).mono ?_
      · have haudit : (BalanceService.applyReorgEvent.audit svc ev).AllCalls Autocommit := by
          unfold BalanceService.applyReorgEvent.audit
          split
          · exact ⟨trivial, fun _ => trivial⟩
          · trivial
        change Prog.AllCalls _ (if _ then _ else _)
        split
        · refine ⟨trivial, fun r => ?_⟩
          cases r with
          | error err => trivial
          | ok a => exact haudit
        · exact haudit
      · rintro g'' a ⟨-, hfinished⟩
        exact .inr (fun _ => .inl ⟨u, hfinished u hu, hunit⟩)
  | addLocked walletID asset amount =>
    refine (inTx_conforms (.addLocked walletID asset amount) rfl rfl).mono ?_
    intro g a h
    exact h.imp id (fun h hok => .inl (h.2 hok))
  | releaseLocked walletID asset amount =>
    refine (inTx_conforms (.releaseLocked walletID asset amount) rfl rfl).mono ?_
    intro g a h
    exact h.imp id (fun h hok => .inl (h.2 hok))

end Operations

/-! ## Any number of operations -/

section History

variable [DecidableEq T] {job : T → Option BalanceOp} {procs : T → Proc (Except Error Unit)}
  {P : SqlPool T (Except Error Unit)}

def jobRules (svc : BalanceService) (db : Database) : Option BalanceOp → SqlRules
  | some op => balanceRules svc db op
  | none => storeRules

lemma jobRules_auto (j : Option BalanceOp) : (jobRules svc db j).auto = Outside := by
  cases j <;> rfl

lemma outside_balance {e : SqlEvent} (hout : Outside e.call) (honce : (postgres db).Once e rows rows')
    (walletID : UUID) (asset : String) : rows' (.balance walletID asset) = rows (.balance walletID asset) := by
  by_cases hkey : (postgres db).key e = some (.balance walletID asset)
  swap
  · exact honce.untouched hkey
  obtain ⟨c, r⟩ := e
  cases c with
  | ext | newID | fresh => cases hkey
  | exec c =>
    cases c with
    | upsertBalance b => exact hout.elim
    | selectBalance walletID' asset' =>
      obtain ⟨eff, hrun, rfl⟩ := honce.effect rfl
      cases hrun
      exact congrFun (Function.update_eq_self ..) _
    | event c => cases c <;> cases hkey
    | _ => cases hkey

lemma storeUnit_balance (h : StoreUnit u) (walletID : UUID) (asset : String) :
    RowKey.balance walletID asset ∉ (postgres db).keys u := by
  intro hmem
  obtain ⟨e, he, hkey⟩ := List.mem_filterMap.mp hmem
  rcases h with ⟨l, rfl, -⟩ | ⟨walletID', chain, n, hunit⟩
  · obtain ⟨p, -, rfl⟩ := List.mem_map.mp he
    cases hkey
  · cases hunit with
    | first =>
      rcases List.mem_pair.mp he with rfl | rfl <;> cases hkey
    | next pn v =>
      rcases List.mem_pair.mp he with rfl | rfl <;> cases hkey

def committedOp (job : T → Option BalanceOp) (e : Committed T SqlCall SqlCall.Answer) : Option BalanceOp :=
  if e.inTx then job e.session else none

def BalanceOp.applyAt (svc : BalanceService) (db : Database) (walletID : UUID) (asset : String)
    (row : Option BalanceRow) (op : BalanceOp) : Option BalanceRow :=
  if op.walletID = walletID ∧ op.asset = asset then op.apply svc db row else row

lemma balanceUnit_row (h : BalanceUnit svc db op u) (hreplay : (postgres db).Replay rows u rows')
    (walletID : UUID) (asset : String) :
    rows' (.balance walletID asset) = BalanceOp.applyAt svc db walletID asset
      (rows (.balance walletID asset)) op := by
  unfold BalanceOp.applyAt
  rcases h with hupdates | ⟨rfl, hnone, -⟩
  · obtain ⟨hrow, hothers, -⟩ := hupdates.replay hreplay
    split
    · rename_i hkey
      obtain ⟨rfl, rfl⟩ := hkey
      exact hrow
    · rename_i hkey
      exact hothers walletID asset (fun heq => hkey ⟨(Prod.mk.inj heq).1.symm, (Prod.mk.inj heq).2.symm⟩)
  · obtain ⟨eff, hrun, hrows⟩ := (Dialect.replay_single.mp hreplay).effect rfl
    obtain ⟨hanswer, rfl⟩ := Prod.mk.inj hrun
    have hrow : rows (.balance op.walletID op.asset) = none := Except.ok.inj hanswer
    have hsame : rows' = rows := by
      rw [hrows]
      exact Function.update_eq_self ..
    rw [hsame]
    split
    · rename_i hkey
      obtain ⟨rfl, rfl⟩ := hkey
      rw [hrow, BalanceOp.apply, Option.map_none, hnone]
    · rfl

omit [DecidableEq T] in
lemma foldl_committedOp {β : Type} (f : β → BalanceOp → β)
    (l : List (Committed T SqlCall SqlCall.Answer)) (b : β) :
    l.foldl (fun b e => (committedOp job e).elim b (f b)) b =
      (((l.filter (fun e => (committedOp job e).isSome)).map Committed.session).filterMap job).foldl f b := by
  induction l generalizing b with
  | nil => rfl
  | cons e l ih =>
    cases hop : committedOp job e with
    | none =>
      rw [List.filter_cons_of_neg (by simp [hop]), List.foldl_cons, hop]
      exact ih b
    | some op =>
      have hjob : job e.session = some op := by
        unfold committedOp at hop
        split at hop
        · exact hop
        · cases hop
      rw [List.filter_cons_of_pos (by simp [hop]), List.foldl_cons, hop, List.map_cons,
        List.filterMap_cons_some hjob, List.foldl_cons]
      exact ih (f b op)

/-- What is known of an operation that has returned without an error and has written nothing: the event had
been recorded by another delivery, or there was no balance to demote. -/
def NothingToDo (log : List (T × Event (On T SqlCall) (On.Answer SqlCall.Answer))) (t : T) : BalanceOp → Prop
  | .confirm ev => ∃ id, (t, ⟨⟨t, .exec (.event (.existsOther ⟨id, ev.balanceEvent⟩))⟩, .ok true⟩) ∈ log
  | .reorg ev => (t, ⟨⟨t, .exec (.selectBalance ev.walletID ev.asset)⟩, .ok none⟩) ∈ log
  | .addLocked _ _ _ | .releaseLocked _ _ _ => False

omit [DecidableEq T] in
lemma Settles.cases {γ : T → SqlClient} {log : List (T × Event (On T SqlCall) (On.Answer SqlCall.Answer))}
    (h : Settles svc db op (γ t)) (hanswered : Answered γ log) :
    (∃ u ∈ (γ t).finished, Updates svc db op u) ∨ NothingToDo log t op := by
  rcases h with ⟨u, hu, hupdates | ⟨rfl, -, ev, rfl⟩⟩ | ⟨ev, id, rfl, hu⟩
  · exact .inl ⟨u, hu, hupdates⟩
  · exact .inr (hanswered t _ (Client.mem_events hu List.mem_cons_self))
  · exact .inr ⟨id, hanswered t _ (Client.mem_events hu List.mem_cons_self)⟩

lemma committed_once {γ : T → SqlClient} {s : PgEngine T}
    (h : ClientsInv (postgres db) (fun t => jobRules svc db (job t)) γ s) :
    ((s.history.filter (fun e => (committedOp job e).isSome)).map Committed.session).Nodup := by
  refine List.nodup_iff_count_le_one.mpr (fun t => ?_)
  cases hjob : job t with
  | none =>
    rw [List.count_eq_zero_of_not_mem]
    · exact Nat.zero_le _
    intro hmem
    obtain ⟨e, he, rfl⟩ := List.mem_map.mp hmem
    have hsome := (List.mem_filter.mp he).2
    simp [committedOp, hjob] at hsome
  | some op =>
    have hattempted : (γ t).attempted.length ≤ 1 := by
      have hallowed := h.allowed t
      rw [hjob] at hallowed
      cases hl : (γ t).attempted with
      | nil => exact Nat.zero_le _
      | cons u l =>
        cases l with
        | nil => exact Nat.le_refl _
        | cons v l =>
          rw [hl] at hallowed
          cases (hallowed [u] v l rfl).1
    calc _ ≤ (s.txs t).length := by
          rw [List.count, List.countP_map, List.countP_filter, Engine.txs, List.length_map,
            ← List.countP_eq_length_filter]
          refine List.countP_mono_left (fun e _ he => ?_)
          simp only [Function.comp, Bool.and_eq_true, beq_iff_eq] at he
          have hin : e.inTx = true := by
            by_contra hin
            simp [committedOp, hin] at he
          simp [he.1, hin]
      _ ≤ (γ t).attempted.length := (h.attempted t).length_le
      _ ≤ 1 := hattempted

/-- Whatever else runs at the same time, the balances are what the committed operations make of them one
after the other. -/
theorem balances_updated_serially (hops : ∀ t op, job t = some op → procs t = op.proc svc)
    (hothers : ∀ t, job t = none → (procs t).AllCalls Plain) (h : Concurrently db em rows procs P) :
    ∃ commits : List T, commits.Nodup ∧
      (∀ walletID asset, P.shared.rows (.balance walletID asset) =
        (commits.filterMap job).foldl (BalanceOp.applyAt svc db walletID asset) (rows (.balance walletID asset))) ∧
      ∀ t op, job t = some op → P.threads t = some (.ret (.ok ())) → t ∈ commits ∨ NothingToDo P.log t op := by
  have hconforms : ∀ t, Conforms ((postgres db).client t (jobRules svc db (job t)))
      ((procs t).translate (Call.auditedSql db t em)) {}
      (fun g a => g.phase = .unreachable ∨ ∀ op, job t = some op → a = .ok () → Settles svc db op g) := by
    intro t
    cases hjob : job t with
    | none =>
      refine (plain_noTx storeRules_permits (hothers t hjob) (.inl ⟨rfl, trivial⟩)).mono (fun g a _ => .inr ?_)
      intro op hop
      cases hop
    | some op =>
      rw [hops t op hjob]
      refine (proc_conforms op).mono (fun g a hg => hg.imp id (fun hg op' hop' => ?_))
      cases hop'
      exact hg
  obtain ⟨γ, hengine, hclients, hanswered, hQ⟩ := serial_of_conforms _ hconforms h
  refine ⟨_, committed_once hclients, fun walletID asset => ?_, fun t op hjob hret => ?_⟩
  · rw [← foldl_committedOp]
    refine hengine.serial.foldl (fun e row => (committedOp job e).elim row _) (fun e he rows rows' hreplay => ?_)
    unfold committedOp
    cases hin : e.inTx with
    | false =>
      obtain ⟨c, r, htrace, hout, -⟩ := hclients.auto e he hin
      rw [jobRules_auto] at hout
      rw [htrace] at hreplay
      exact outside_balance hout (Dialect.replay_single.mp hreplay) walletID asset
    | true =>
      obtain ⟨pre, hunit⟩ := hclients.tx_allowed he hin
      cases hjob : job e.session with
      | none =>
        rw [hjob] at hunit
        simpa using hreplay.untouched (storeUnit_balance hunit walletID asset)
      | some op =>
        rw [hjob] at hunit
        simpa using balanceUnit_row hunit.2 hreplay walletID asset
  · refine ((hQ t _ hret op hjob rfl).cases hanswered).imp ?_ id
    rintro ⟨u, hu, hupdates⟩
    obtain ⟨e, he, rfl, rfl⟩ := hclients.finished t u hu (fun _ _ hreplay => (hupdates.replay hreplay).2.2)
    refine List.mem_map_of_mem (List.mem_filter.mpr ⟨he, ?_⟩)
    cases hin : e.inTx with
    | true => simp [committedOp, hin, hjob]
    | false =>
      obtain ⟨c, r, htrace, -⟩ := hclients.auto e he hin
      obtain ⟨row, b, tail, htrace', -⟩ := hupdates
      cases htrace.symm.trans htrace'

def deposits : Bool → BalanceOp
  | false => .confirm (evmDeposit "2" 12 7 "a")
  | true => .confirm (evmDeposit "3" 12 8 "b")

def oneEach : (k : RowKey) → Option k.Row
  | .balance walletID asset => some ⟨{ walletID := walletID, asset := asset }, 1, 0, 0⟩
  | _ => none

/-- Both deposits read the balance before either writes it, and the one that writes later is refused. -/
theorem balances_updated_serially_conflict : ∃ P : SqlPool Bool (Except Error Unit),
    Concurrently referenceDatabase jsonEmitter oneEach (fun t => (deposits t).proc referenceBalances) P ∧
    P.shared.history.map (fun e => (e.session, e.inTx)) = [(false, false), (true, false), (false, true)] ∧
    ∃ commits : List Bool, commits.Nodup ∧
      (∀ walletID asset, P.shared.rows (.balance walletID asset) =
        (commits.filterMap (fun t => some (deposits t))).foldl
          (BalanceOp.applyAt referenceBalances referenceDatabase walletID asset)
          (oneEach (.balance walletID asset))) ∧
      ∀ t op, some (deposits t) = some op → P.threads t = some (.ret (.ok ())) →
        t ∈ commits ∨ NothingToDo P.log t op := by
  let first : BalanceEventRow := ⟨.ofByte 1, (evmDeposit "2" 12 7 "a").balanceEvent⟩
  let second : BalanceEventRow := ⟨.ofByte 2, (evmDeposit "3" 12 8 "b").balanceEvent⟩
  let one : BalanceRow := ⟨{ walletID := evmWallet.id, asset := "ETH" }, 1, 0, 0⟩
  let cur : Balance := PgStore.scanBalance referenceDatabase.numeric one
  obtain ⟨row, hrow⟩ : ∃ row, BalanceRow.ofBalance referenceDatabase.numeric
      (referenceBalances.creditedRow (evmDeposit "2" 12 7 "a") cur) = .ok row :=
    exists_ok_of_toBool (by decide +kernel)
  have hwrite : upsertRow (BalanceRow.ofBalance referenceDatabase.numeric
      (referenceBalances.creditedRow (evmDeposit "2" 12 7 "a") cur)) (some one) = (.ok (), .write (some row)) := by
    rw [hrow]
    rfl
  have h₀ : Concurrently referenceDatabase jsonEmitter oneEach
      (fun t => (deposits t).proc referenceBalances) _ := .refl
  have h₁ := h₀.step false .newID (UUID.ofByte 1) rfl (.other rfl)
  have h₂ := h₁.step false (.exec (.event (.insertOrIgnore first))) (.ok ()) rfl
    (.perform rfl rfl rfl rfl (fun _ => unlocked_of_other (.inl rfl) _))
  have h₃ := h₂.step true .newID (UUID.ofByte 2) rfl (.other rfl)
  have h₄ := h₃.step true (.exec (.event (.insertOrIgnore second))) (.ok ()) rfl
    (.perform rfl rfl rfl rfl (fun _ => unlocked_of_other (.inl rfl) _))
  have h₅ := h₄.step false (.exec (.event (.existsOther first))) (.ok false) rfl
    (.perform rfl rfl rfl rfl (fun _ => unlocked_of_other (.inl rfl) _))
  have h₆ := h₅.step true (.exec (.event (.existsOther second))) (.ok false) rfl
    (.perform rfl rfl rfl rfl (fun _ => unlocked_of_other (.inl rfl) _))
  have h₇ := h₆.step false (.exec .begin) (.ok ()) rfl (.begin rfl rfl rfl)
  have h₈ := h₇.step true (.exec .begin) (.ok ()) rfl (.begin rfl rfl rfl)
  have h₉ := h₈.step false (.exec (.selectBalance evmWallet.id "ETH")) (.ok (some one)) rfl
    (.execute rfl rfl rfl rfl (fun h => absurd rfl h))
  have h₁₀ := h₉.step true (.exec (.selectBalance evmWallet.id "ETH")) (.ok (some one)) rfl
    (.execute rfl rfl rfl rfl (fun h => absurd rfl h))
  have h₁₁ := h₁₀.step false (.exec (.upsertBalance _)) (.ok ()) rfl (.execute rfl rfl hwrite rfl (fun _ => ⟨by
    intro t' tx hne hactive
    obtain rfl : t' = true := by simpa using hne
    cases hactive
    rfl, rfl⟩))
  have h₁₂ := h₁₁.step false (.exec .commit) (.ok ()) rfl (.commit rfl rfl (.inl rfl))
  have h₁₃ := h₁₂.step true (.exec (.upsertBalance _))
    (.error ⟨"pq: could not serialize access due to concurrent update", none⟩) rfl (.failed rfl ⟨_, rfl, rfl⟩)
  have haborted : ∀ s : PgEngine Bool, s.session true = .aborted → s.session true ≠ .idle := by
    intro s hs hidle
    cases hs.symm.trans hidle
  have h₁₄ := h₁₃.step true (.exec .rollback) (.ok ()) rfl (.rollback rfl (haborted _ rfl) (.inl rfl))
  have hops : ∀ t op, some (deposits t) = some op →
      (deposits t).proc referenceBalances = op.proc referenceBalances := by
    intro t op hop
    cases hop
    rfl
  exact ⟨_, h₁₄, rfl, balances_updated_serially hops (by simp) h₁₄⟩

end History

end WalletManager.Proofs
