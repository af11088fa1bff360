import WalletManager.Storage.Sql
import WalletManager.Withdrawal.Reserve

/-!
# The transactions of the store operations

Which statements the operations of the Postgres store execute outside a transaction, and what the
transactions consist of that `LockUTXOs` and `IncrementPendingNonce` ask the database to commit. Every
program over the store operations keeps to these rules.
-/

namespace WalletManager.Proofs

open Interaction Relational

abbrev SqlEvent := Event SqlCall SqlCall.Answer

abbrev SqlClient := Client SqlCall SqlCall.Answer

abbrev SqlRules := Rules SqlCall SqlCall.Answer

/-! ## Statements and transactions -/

def Outside : SqlCall → Prop
  | .exec (.upsertBalance _) | .exec (.upsertNonce _) | .exec (.lockUTXO _) => False
  | .exec (.selectNonceForUpdate _ _) | .exec (.insertNonce _ _) | .exec (.updateNonce _ _ _ _) => False
  | _ => True

/-- The transaction of `LockUTXOs`: the outputs, with the number of rows that each statement changed. -/
def lockUnit (l : List (String × Int)) : List SqlEvent :=
  l.map (fun p => ⟨.exec (.lockUTXO p.1), .ok p.2⟩)

/-- The transaction of `IncrementPendingNonce`, and the nonce that it gives. -/
inductive NonceUnit (walletID : UUID) (chain : String) : Int → List SqlEvent → Prop
  | first : NonceUnit walletID chain 0
      [⟨.exec (.selectNonceForUpdate walletID chain), .ok none⟩, ⟨.exec (.insertNonce walletID chain), .ok ()⟩]
  | next (pn v : Int) : NonceUnit walletID chain pn
      [⟨.exec (.selectNonceForUpdate walletID chain), .ok (some (pn, v))⟩,
        ⟨.exec (.updateNonce walletID chain (pn + 1) (v + 1)), .ok ()⟩]

def StoreUnit (u : List SqlEvent) : Prop :=
  (∃ l, u = lockUnit l ∧ ∀ p ∈ l, p.2 ≠ 0) ∨ ∃ walletID chain n, NonceUnit walletID chain n u

def storeRules : SqlRules := ⟨Outside, fun _ u => StoreUnit u⟩

section Covered

variable {db : Database}

lemma lockUnit_covered {l : List (String × Int)} (h : ∀ p ∈ l, p.2 ≠ 0) : (postgres db).Covered (lockUnit l) := by
  intro k hk
  obtain ⟨e, he, hkey⟩ := List.mem_filterMap.mp hk
  obtain ⟨p, hp, rfl⟩ := List.mem_map.mp he
  refine ⟨_, he, ?_⟩
  obtain rfl : RowKey.utxo p.1 = k := Option.some.inj hkey
  refine ⟨_, rfl, ?_⟩
  intro row eff hrun heff
  have hzero : p.2 = 0 := by
    cases row with
    | none =>
      have := congrArg Prod.fst hrun
      simpa [updateRowIf] using this.symm
    | some row =>
      dsimp only [updateRowIf] at hrun
      split at hrun
      · rw [heff] at hrun
        cases congrArg Prod.snd hrun
      · have := congrArg Prod.fst hrun
        simpa using this.symm
  exact h p hp hzero

lemma NonceUnit.covered {walletID : UUID} {chain : String} {n : Int} {u : List SqlEvent}
    (h : NonceUnit walletID chain n u) : (postgres db).Covered u := by
  cases h with
  | first =>
    intro k hk
    obtain rfl : k = RowKey.nonce walletID chain := by
      simpa [Dialect.keys, Dialect.key, postgres, Statement.action] using hk
    refine ⟨⟨.exec (.insertNonce walletID chain), .ok ()⟩, by simp, _, rfl, ?_⟩
    rintro row eff hrun rfl
    cases row with
    | none => cases congrArg Prod.snd hrun
    | some row => cases congrArg Prod.fst hrun
  | next n v =>
    intro k hk
    obtain rfl : k = RowKey.nonce walletID chain := by
      simpa [Dialect.keys, Dialect.key, postgres, Statement.action] using hk
    refine ⟨⟨.exec (.selectNonceForUpdate walletID chain), .ok (some (n, v))⟩, by simp, _, rfl, ?_⟩
    rintro row eff hrun rfl
    cases row with
    | none => cases congrArg Prod.fst hrun
    | some row => cases congrArg Prod.snd hrun

end Covered

/-! ## Programs outside a transaction -/

section NoTx

variable {T : Type} {db : Database} {em : EmitterService} {t : T} {rules : SqlRules} {g : SqlClient}
  {A : List (List SqlEvent) → Prop}

def NoTx (A : List (List SqlEvent) → Prop) (g : SqlClient) : Prop :=
  g.phase = .idle ∧ A g.attempted ∨ g.phase = .unreachable

lemma not_fails_ok {c : Statement} {a : c.Result} : ¬ (postgres db).fails (.exec c) (.ok a) := by
  rintro ⟨err, h, -⟩
  cases h

lemma exec_session {T : Type} (t : T) (c : Statement) : (exec t c).AllCalls (fun c => c.session = t) :=
  ⟨rfl, fun _ => trivial⟩

lemma exec_noTx {c : Statement} {key : RowKey} {run : Option key.Row → Except Error c.Result × Effect key.Row}
    (haction : c.action db = .statement key run) (hauto : rules.auto (.exec c)) (hg : NoTx A g) :
    Conforms ((postgres db).client t rules) (exec t c) g (fun g _ => NoTx A g) := by
  rcases hg with ⟨hidle, hA⟩ | hun
  · exact Dialect.conforms_auto haction hidle hauto (fun r _ => .inl ⟨hidle, hA⟩) (fun r _ => .inl ⟨hidle, hA⟩)
  · exact Dialect.conforms_unreachable (exec_session t c) hun (fun _ _ h => .inr h)

lemma query_noTx (c : StoreCall) (hg : NoTx A g) :
    Conforms ((postgres db).client t rules) (exec t (.query c)) g (fun g _ => NoTx A g) :=
  Dialect.conforms_other rfl (fun _ => hg)

lemma execEach_noTx {stmt : String → SqlProc T (Except Error Unit)}
    (hstmt : ∀ op g, NoTx A g → Conforms ((postgres db).client t rules) (stmt op) g (fun g _ => NoTx A g))
    (ops : List String) (hg : NoTx A g) :
    Conforms ((postgres db).client t rules) (execEach stmt ops) g (fun g _ => NoTx A g) := by
  induction ops generalizing g with
  | nil => exact hg
  | cons op ops ih =>
    refine ((hstmt op g hg).mono ?_).bind
    intro g' r hg'
    cases r with
    | error err => exact hg'
    | ok a => exact ih hg'

lemma recordBalanceEventSql_conforms (hauto : ∀ c, Outside c → rules.auto c) (e : BalanceEvent)
    (hidle : g.phase = .idle) :
    Conforms ((postgres db).client t rules) (recordBalanceEventSql t e) g (fun g' r =>
      g'.phase = .idle ∧ g'.attempted = g.attempted ∧ ∀ err, r = .error err → err.is = some .errDuplicateEvent →
        ∃ id, [⟨.exec (.event (.existsOther ⟨id, e⟩)), .ok true⟩] ∈ g'.finished) := by
  refine Dialect.conforms_other rfl (fun id => ?_)
  refine Dialect.conforms_auto rfl hidle (hauto (.exec (.event (.insertOrIgnore ⟨id, e⟩))) trivial) ?_ ?_
  · intro r hr
    cases r with
    | error err => cases hr
    | ok a =>
      refine Dialect.conforms_auto rfl hidle (hauto (.exec (.event (.existsOther ⟨id, e⟩))) trivial) ?_ ?_
      · intro r hr
        cases r with
        | error err => cases hr
        | ok other =>
          cases other with
          | true => exact ⟨hidle, rfl, fun _ _ _ => ⟨id, List.mem_append_right _ List.mem_cons_self⟩⟩
          | false =>
            refine ⟨hidle, rfl, ?_⟩
            intro err herr
            cases herr
      · rintro r ⟨err, rfl, hnone⟩
        refine ⟨hidle, rfl, ?_⟩
        intro err' herr hdup
        cases herr
        cases hnone.symm.trans hdup
  · rintro r ⟨err, rfl, hnone⟩
    refine ⟨hidle, rfl, ?_⟩
    intro err' herr hdup
    cases herr
    cases hnone.symm.trans hdup

/-! ## Transactions -/

/-- How the function of a transaction ends: it may have failed, and if it returns a value then its
statements are ones that may be committed. -/
def BodyEnds (rules : SqlRules) (db : Database) {α : Type} (good : α → List SqlEvent → Prop) (g g' : SqlClient)
    (a : Except Error α) : Prop :=
  g'.phase = .unreachable ∨ g'.attempted = g.attempted ∧ g'.finished = g.finished ∧
    (g'.phase = .failed ∨ ∃ u, g'.phase = .running u ∧ ∀ x, a = .ok x →
      ((postgres db).ReadOnly u ∨ (postgres db).Covered u) ∧ rules.tx g.attempted u ∧ good x u)

def TxEnds (rules : SqlRules) {α : Type} (good : α → List SqlEvent → Prop) (g g' : SqlClient)
    (a : Except Error α) : Prop :=
  g'.phase = .unreachable ∨ g'.phase = .idle ∧
    (g'.attempted = g.attempted ∨ ∃ u, g'.attempted = g.attempted ++ [u] ∧ rules.tx g.attempted u) ∧
    ∀ x, a = .ok x → ∃ u ∈ g'.finished, good x u

lemma sqlTx_conforms {α : Type} {good : α → List SqlEvent → Prop} {body : SqlProc T (Except Error α)}
    (hidle : g.phase = .idle)
    (hbody : Conforms ((postgres db).client t rules) body { g with phase := .running [] }
      (BodyEnds rules db good g)) :
    Conforms ((postgres db).client t rules) (sqlTx t body) g (TxEnds rules good g) := by
  have hun : ∀ g' (a : Except Error α), g'.phase = .unreachable → TxEnds rules good g g' a := fun _ _ h => .inl h
  refine Dialect.conforms_begin rfl hidle ?_ ?_
  · intro r hr
    cases r with
    | error err => cases hr
    | ok a =>
      refine (hbody.mono ?_).bind
      intro g' a hends
      cases a with
      | error err =>
        rcases hends with hun' | ⟨hatt, -, hphase⟩
        · exact Dialect.conforms_unreachable ⟨rfl, fun _ => trivial⟩ hun' hun
        · refine Dialect.conforms_rollback rfl (hphase.imp id (fun h => ⟨h.choose, h.choose_spec.1⟩)) ?_
          intro r
          refine .inr ⟨rfl, .inl hatt, ?_⟩
          intro x hx
          cases hx
      | ok x =>
        rcases hends with hun' | ⟨hatt, -, hphase⟩
        · refine Dialect.conforms_unreachable ⟨rfl, fun r => ?_⟩ hun' hun
          cases r <;> trivial
        · rcases hphase with hfailed | ⟨u, hu, hok⟩
          · refine Dialect.conforms_commit_refused rfl hfailed ?_ ?_
            · intro r hr
              cases r with
              | error err => cases hr
              | ok a => exact .inl rfl
            · intro r hr
              cases r with
              | ok a => exact absurd hr not_fails_ok
              | error err =>
                refine .inr ⟨rfl, .inl hatt, ?_⟩
                intro y hy
                cases hy
          · obtain ⟨hlocked, htx, hgood⟩ := hok x rfl
            refine Dialect.conforms_commit rfl hu hlocked (hatt ▸ htx) ?_ ?_
            · intro r hr
              cases r with
              | error err => cases hr
              | ok a =>
                refine .inr ⟨rfl, .inr ⟨u, by rw [hatt], htx⟩, ?_⟩
                intro y hy
                cases hy
                exact ⟨u, List.mem_append_right _ List.mem_cons_self, hgood⟩
            · intro r hr
              cases r with
              | ok a => exact absurd hr not_fails_ok
              | error err =>
                refine .inr ⟨rfl, .inr ⟨u, by rw [hatt], htx⟩, ?_⟩
                intro y hy
                cases hy
  · intro r hr
    cases r with
    | ok a => exact absurd hr not_fails_ok
    | error err =>
      refine .inr ⟨hidle, .inl rfl, ?_⟩
      intro x hx
      cases hx

lemma lockEach_conforms (ops : List String) (u : List SqlEvent) (hg : g.phase = .running u) :
    Conforms ((postgres db).client t rules) (lockEach t ops) g (fun g' a =>
      g'.attempted = g.attempted ∧ g'.finished = g.finished ∧ (g'.phase = .failed ∨
        ∃ u', g'.phase = .running u' ∧ ∀ x, a = .ok x → ∃ l, u' = u ++ lockUnit l ∧ l.map Prod.fst = ops ∧
          ∀ p ∈ l, p.2 ≠ 0)) := by
  induction ops generalizing g u with
  | nil =>
    refine ⟨rfl, rfl, .inr ⟨u, hg, ?_⟩⟩
    intro x _
    exact ⟨[], (List.append_nil u).symm, rfl, by simp⟩
  | cons op ops ih =>
    refine Dialect.conforms_statement rfl hg ?_ ?_
    · intro r hr
      cases r with
      | error err => cases hr
      | ok n =>
        change Conforms _ (if n = 0 then _ else _) _ _
        split
        · refine ⟨rfl, rfl, .inr ⟨_, rfl, ?_⟩⟩
          intro x hx
          cases hx
        · rename_i hn
          refine (ih (u ++ [⟨.exec (.lockUTXO op), .ok n⟩]) rfl).mono ?_
          rintro g' a ⟨hatt, hfin, hphase⟩
          refine ⟨hatt, hfin, hphase.imp id ?_⟩
          rintro ⟨u', hu', hok⟩
          refine ⟨u', hu', fun x hx => ?_⟩
          obtain ⟨l, rfl, rfl, hl⟩ := hok x hx
          refine ⟨(op, n) :: l, by simp [lockUnit], rfl, ?_⟩
          simpa [hn] using hl
    · intro r hr
      cases r with
      | ok n => exact absurd hr not_fails_ok
      | error err => exact ⟨rfl, rfl, .inl rfl⟩

lemma incrementNonce_conforms (walletID : UUID) (chain : String) (hg : g.phase = .running [])
    (htx : ∀ n u, NonceUnit walletID chain n u → rules.tx g.attempted u) :
    Conforms ((postgres db).client t rules) (incrementNonce t walletID chain) g
      (BodyEnds rules db (fun x u => NonceUnit walletID chain x.1 u) g) := by
  refine Dialect.conforms_statement rfl hg ?_ ?_
  · intro r hr
    cases r with
    | error err => cases hr
    | ok n =>
      cases n with
      | none =>
        refine Dialect.conforms_statement rfl rfl ?_ ?_
        · intro r hr
          cases r with
          | error err => cases hr
          | ok a =>
            refine .inr ⟨rfl, rfl, .inr ⟨_, rfl, ?_⟩⟩
            intro x hx
            cases hx
            exact ⟨.inr NonceUnit.first.covered, htx _ _ .first, .first⟩
        · intro r hr
          cases r with
          | ok a => exact absurd hr not_fails_ok
          | error err => exact .inr ⟨rfl, rfl, .inl rfl⟩
      | some p =>
        refine Dialect.conforms_statement rfl rfl ?_ ?_
        · intro r hr
          cases r with
          | error err => cases hr
          | ok a =>
            refine .inr ⟨rfl, rfl, .inr ⟨_, rfl, ?_⟩⟩
            intro x hx
            cases hx
            exact ⟨.inr (NonceUnit.next p.1 p.2).covered, htx _ _ (.next p.1 p.2), .next p.1 p.2⟩
        · intro r hr
          cases r with
          | ok a => exact absurd hr not_fails_ok
          | error err => exact .inr ⟨rfl, rfl, .inl rfl⟩
  · intro r hr
    cases r with
    | ok n => exact absurd hr not_fails_ok
    | error err => exact .inr ⟨rfl, rfl, .inl rfl⟩

/-! ## The operations -/

structure Permits (rules : SqlRules) (A : List (List SqlEvent) → Prop) : Prop where
  auto : ∀ c, Outside c → rules.auto c
  tx : ∀ l u, A l → StoreUnit u → rules.tx l u
  kept : ∀ l u, A l → rules.tx l u → A (l ++ [u])

lemma storeRules_permits : Permits storeRules (fun _ => True) :=
  ⟨fun _ h => h, fun _ _ _ h => h, fun _ _ _ _ => trivial⟩

lemma TxEnds.noTx {α : Type} {good : α → List SqlEvent → Prop} {g' : SqlClient} {a : Except Error α}
    (h : TxEnds rules good g g' a) (hrules : Permits rules A) (hA : A g.attempted) : NoTx A g' := by
  rcases h with hun | ⟨hidle, hatt, -⟩
  · exact .inr hun
  · refine .inl ⟨hidle, ?_⟩
    rcases hatt with hatt | ⟨u, hatt, hu⟩
    · rw [hatt]
      exact hA
    · rw [hatt]
      exact hrules.kept _ _ hA hu

lemma lockUTXOsSql_conforms (hrules : Permits rules A) (ops : List String) (hidle : g.phase = .idle)
    (hA : A g.attempted) (hops : ops ≠ []) :
    Conforms ((postgres db).client t rules) (lockUTXOsSql t ops) g
      (TxEnds rules (fun _ u => ∃ l, u = lockUnit l ∧ l.map Prod.fst = ops ∧ ∀ p ∈ l, p.2 ≠ 0) g) := by
  have hlength : ops.length ≠ 0 := by simpa using hops
  rw [lockUTXOsSql, if_neg hlength]
  refine sqlTx_conforms hidle ((lockEach_conforms ops [] rfl).mono ?_)
  rintro g' a ⟨hatt, hfin, hphase⟩
  refine .inr ⟨hatt, hfin, hphase.imp id ?_⟩
  rintro ⟨u, hu, hok⟩
  refine ⟨u, hu, fun x hx => ?_⟩
  obtain ⟨l, rfl, hl, hne⟩ := hok x hx
  exact ⟨.inr (lockUnit_covered hne), hrules.tx _ _ hA (.inl ⟨l, rfl, hne⟩), l, rfl, hl, hne⟩

lemma incrementPendingNonce_conforms (hrules : Permits rules A) (walletID : UUID) (chain : String)
    (hidle : g.phase = .idle) (hA : A g.attempted) :
    Conforms ((postgres db).client t rules) (sqlTx t (incrementNonce t walletID chain)) g
      (TxEnds rules (fun x u => NonceUnit walletID chain x.1 u) g) :=
  sqlTx_conforms hidle
    (incrementNonce_conforms walletID chain rfl (fun n _ hu => hrules.tx _ _ hA (.inr ⟨walletID, chain, n, hu⟩)))

/-! ## The calls of a program -/

def Forward (t : T) (c : On T SqlCall) : Prop :=
  c.session = t ∧ match c.call with
    | .exec (.rollbackPendingNonce _ _ _) => False
    | _ => True

def KeepsNonces : Call → Prop
  | .store (.rollbackPendingNonce _ _ _) => False
  | _ => True

lemma sqlTx_forward {α : Type} {body : SqlProc T (Except Error α)} (h : body.AllCalls (Forward t)) :
    (sqlTx t body).AllCalls (Forward t) := by
  refine ⟨⟨rfl, trivial⟩, fun r => ?_⟩
  cases r with
  | error err => trivial
  | ok a =>
    refine h.bind (fun r => ?_)
    cases r with
    | error err => exact ⟨⟨rfl, trivial⟩, fun _ => trivial⟩
    | ok a =>
      refine ⟨⟨rfl, trivial⟩, fun r => ?_⟩
      cases r <;> trivial

lemma lockEach_forward (ops : List String) : (lockEach t ops).AllCalls (Forward t) := by
  induction ops with
  | nil => trivial
  | cons op ops ih =>
    refine ⟨⟨rfl, trivial⟩, fun r => ?_⟩
    cases r with
    | error err => trivial
    | ok n =>
      change Prog.AllCalls _ (if n = 0 then _ else _)
      split
      · trivial
      · exact ih

lemma incrementNonce_forward (walletID : UUID) (chain : String) :
    (incrementNonce t walletID chain).AllCalls (Forward t) := by
  refine ⟨⟨rfl, trivial⟩, fun r => ?_⟩
  cases r with
  | error err => trivial
  | ok n =>
    cases n with
    | none =>
      refine ⟨⟨rfl, trivial⟩, fun r => ?_⟩
      cases r <;> trivial
    | some p =>
      refine ⟨⟨rfl, trivial⟩, fun r => ?_⟩
      cases r <;> trivial

lemma execEach_forward {stmt : String → SqlProc T (Except Error Unit)}
    (hstmt : ∀ op, (stmt op).AllCalls (Forward t)) (ops : List String) :
    (execEach stmt ops).AllCalls (Forward t) := by
  induction ops with
  | nil => trivial
  | cons op ops ih =>
    refine (hstmt op).bind (fun r => ?_)
    cases r with
    | error err => trivial
    | ok a => exact ih

lemma recordBalanceEventSql_forward (e : BalanceEvent) : (recordBalanceEventSql t e).AllCalls (Forward t) := by
  refine ⟨⟨rfl, trivial⟩, fun id => ⟨⟨rfl, trivial⟩, fun r => ?_⟩⟩
  cases r with
  | error err => trivial
  | ok a =>
    refine ⟨⟨rfl, trivial⟩, fun r => ?_⟩
    cases r with
    | error err => trivial
    | ok other => cases other <;> trivial

lemma exec_forward {c : Statement} (hc : Forward t ⟨t, .exec c⟩) : (exec t c).AllCalls (Forward t) :=
  ⟨hc, fun _ => trivial⟩

lemma storeCall_forward (c : StoreCall) (hc : KeepsNonces (.store c)) : (c.sql db t).AllCalls (Forward t) := by
  cases c with
  | rollbackPendingNonce walletID chain target => exact hc.elim
  | getBalance walletID asset =>
    refine ⟨⟨rfl, trivial⟩, fun r => ?_⟩
    cases r with
    | error err => trivial
    | ok row => cases row <;> trivial
  | recordBalanceEvent e => exact recordBalanceEventSql_forward e
  | lockUTXOs outpoints =>
    change (lockUTXOsSql t outpoints).AllCalls _
    unfold lockUTXOsSql
    split
    · trivial
    · exact sqlTx_forward (lockEach_forward outpoints)
  | markUTXOsSpent outpoints txHash =>
    exact execEach_forward (fun op => exec_forward ⟨rfl, trivial⟩) outpoints
  | restoreUTXOs outpoints => exact execEach_forward (fun op => exec_forward ⟨rfl, trivial⟩) outpoints
  | pruneUTXOs outpoints => exact execEach_forward (fun op => exec_forward ⟨rfl, trivial⟩) outpoints
  | incrementPendingNonce walletID chain => exact sqlTx_forward (incrementNonce_forward walletID chain)
  | _ => exact ⟨⟨rfl, trivial⟩, fun _ => trivial⟩

def Audits : Call → Prop
  | .store (.nextAuditSeq _) | .store (.appendAuditEvent _) => True
  | _ => False

lemma emit_audits (em : EmitterService) (ev : Emission) (fresh : OutboxFresh) :
    (em.emit ev fresh).AllCalls Audits := by
  unfold EmitterService.emit
  split
  · trivial
  · split
    · exact ⟨trivial, fun _ => trivial⟩
    · refine ⟨trivial, fun r => ?_⟩
      cases r with
      | error err => trivial
      | ok seq => exact ⟨trivial, fun _ => trivial⟩

lemma audited_forward (c : Call) (hc : KeepsNonces c) : (c.auditedSql db t em).AllCalls (Forward t) := by
  cases c with
  | store c => exact storeCall_forward c hc
  | ext c =>
    cases c with
    | emit e =>
      refine ⟨⟨rfl, trivial⟩, fun fresh => ?_⟩
      refine (emit_audits em _ fresh).translate _ (fun c hc => ?_)
      cases c with
      | ext c => exact hc.elim
      | store c =>
        refine storeCall_forward c ?_
        cases c with
        | rollbackPendingNonce => exact hc.elim
        | _ => trivial
    | _ => exact ⟨⟨rfl, trivial⟩, fun _ => trivial⟩

lemma storeCall_session (c : StoreCall) : (c.sql db t).AllCalls (fun c => c.session = t) := by
  by_cases hc : KeepsNonces (.store c)
  · exact (storeCall_forward c hc).mono (fun _ h => h.1)
  · cases c with
    | rollbackPendingNonce walletID chain target => exact exec_session t _
    | _ => exact absurd trivial hc

lemma audited_session (c : Call) : (c.auditedSql db t em).AllCalls (fun c => c.session = t) := by
  cases c with
  | store c => exact storeCall_session c
  | ext c => exact (audited_forward (.ext c) trivial).mono (fun _ h => h.1)

/-! ## Programs of store operations -/

/-- The calls of programs that leave transactions to the store, and the balances and nonces to the
operations that compute them. -/
def Plain : Call → Prop
  | .store .beginTx | .store .commitTx | .store .rollbackTx => False
  | .store (.upsertBalance _) | .store (.upsertNonce _) => False
  | _ => True

def Autocommit : Call → Prop
  | .store (.lockUTXOs _) | .store (.incrementPendingNonce _ _) => False
  | c => Plain c

lemma storeCall_autocommit (hauto : ∀ c, Outside c → rules.auto c) (c : StoreCall) (hc : Autocommit (.store c))
    (hg : NoTx A g) : Conforms ((postgres db).client t rules) (c.sql db t) g (fun g _ => NoTx A g) := by
  rcases hg with ⟨hidle, hA⟩ | hun
  swap
  · exact Dialect.conforms_unreachable (storeCall_session c) hun (fun _ _ h => .inr h)
  have hg : NoTx A g := .inl ⟨hidle, hA⟩
  cases c with
  | beginTx | commitTx | rollbackTx => exact hc.elim
  | upsertBalance | upsertNonce | lockUTXOs | incrementPendingNonce => exact hc.elim
  | getBalance walletID asset =>
    refine ((exec_noTx rfl (hauto (.exec (.selectBalance walletID asset)) trivial) hg).mono ?_).bind
    intro g' r hg'
    cases r with
    | error err => exact hg'
    | ok row => cases row <;> exact hg'
  | recordBalanceEvent e =>
    refine (recordBalanceEventSql_conforms hauto e hidle).mono ?_
    rintro g' r ⟨hidle', hattempted, -⟩
    exact .inl ⟨hidle', hattempted ▸ hA⟩
  | insertUTXO u => exact exec_noTx rfl (hauto (.exec (.insertUTXO u)) trivial) hg
  | markUTXOsSpent ops txHash =>
    exact execEach_noTx (fun op g hg => exec_noTx rfl (hauto (.exec (.spendUTXO op txHash)) trivial) hg) ops hg
  | restoreUTXOs ops =>
    exact execEach_noTx (fun op g hg => exec_noTx rfl (hauto (.exec (.freeUTXO op)) trivial) hg) ops hg
  | pruneUTXOs ops =>
    exact execEach_noTx (fun op g hg => exec_noTx rfl (hauto (.exec (.deleteUTXO op)) trivial) hg) ops hg
  | advanceBroadcastNonce walletID chain nonce =>
    exact exec_noTx rfl (hauto (.exec (.advanceBroadcastNonce walletID chain nonce)) trivial) hg
  | rollbackPendingNonce walletID chain target =>
    exact exec_noTx rfl (hauto (.exec (.rollbackPendingNonce walletID chain target)) trivial) hg
  | nextAuditSeq walletID => exact exec_noTx rfl (hauto (.exec (.nextAuditSeq walletID)) trivial) hg
  | appendAuditEvent e => exact exec_noTx rfl (hauto (.exec (.insertAuditEvent e)) trivial) hg
  | markAuditDelivered id => exact exec_noTx rfl (hauto (.exec (.markAuditDelivered id)) trivial) hg
  | _ => exact query_noTx _ hg

lemma audited_autocommit (hauto : ∀ c, Outside c → rules.auto c) (c : Call) (hc : Autocommit c) (hg : NoTx A g) :
    Conforms ((postgres db).client t rules) (c.auditedSql db t em) g (fun g _ => NoTx A g) := by
  cases c with
  | store c => exact storeCall_autocommit hauto c hc hg
  | ext c =>
    cases c with
    | emit e =>
      refine Dialect.conforms_other rfl (fun fresh => ?_)
      refine (emit_audits em _ fresh).conforms_translate (fun c hc g hg => ?_) hg
      cases c with
      | ext c => exact hc.elim
      | store c =>
        cases c with
        | nextAuditSeq walletID => exact storeCall_autocommit hauto (.nextAuditSeq walletID) trivial hg
        | appendAuditEvent e => exact storeCall_autocommit hauto (.appendAuditEvent e) trivial hg
        | _ => exact hc.elim
    | _ => exact Dialect.conforms_other rfl (fun _ => hg)

theorem autocommit_noTx {α : Type} (hauto : ∀ c, Outside c → rules.auto c) {p : Proc α}
    (hp : p.AllCalls Autocommit)
    (hg : NoTx A g) :
    Conforms ((postgres db).client t rules) (p.translate (Call.auditedSql db t em)) g (fun g _ => NoTx A g) :=
  hp.conforms_translate (fun c hc _ hg => audited_autocommit hauto c hc hg) hg

lemma audited_noTx (hrules : Permits rules A) (c : Call) (hc : Plain c) (hg : NoTx A g) :
    Conforms ((postgres db).client t rules) (c.auditedSql db t em) g (fun g _ => NoTx A g) := by
  by_cases hauto : Autocommit c
  · exact audited_autocommit hrules.auto c hauto hg
  rcases hg with ⟨hidle, hA⟩ | hun
  swap
  · exact Dialect.conforms_unreachable (audited_session c) hun (fun _ _ h => .inr h)
  cases c with
  | ext c => exact absurd trivial hauto
  | store c =>
    cases c with
    | lockUTXOs ops =>
      by_cases hops : ops = []
      · subst hops
        exact .inl ⟨hidle, hA⟩
      · exact (lockUTXOsSql_conforms hrules ops hidle hA hops).mono (fun g' a h => h.noTx hrules hA)
    | incrementPendingNonce walletID chain =>
      exact (incrementPendingNonce_conforms hrules walletID chain hidle hA).mono (fun g' a h => h.noTx hrules hA)
    | _ => exact absurd hc hauto

theorem plain_noTx {α : Type} (hrules : Permits rules A) {p : Proc α} (hp : p.AllCalls Plain)
    (hg : NoTx A g) :
    Conforms ((postgres db).client t rules) (p.translate (Call.auditedSql db t em)) g (fun g _ => NoTx A g) :=
  hp.conforms_translate (fun c hc _ hg => audited_noTx hrules c hc hg) hg

end NoTx

lemma unlocked_of_other {s : PgEngine Bool} {t : Bool}
    (h : s.session (!t) = .idle ∨ s.session (!t) = .opened) (k : RowKey) : s.Unlocked t k := by
  intro t' tx hne hactive
  obtain rfl : t' = !t := Bool.eq_not.mpr hne
  rcases h with h | h <;> rw [h] at hactive <;> cases hactive

end WalletManager.Proofs
