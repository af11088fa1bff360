import WalletManager.Audit.Json
import WalletManager.Proofs.BalanceTransactions
import WalletManager.Proofs.Reference

/-!
# Concurrent reservations on Postgres

Any number of procedures lock outputs and reserve nonces at the same time, statement by statement
and with any failures. The transactions that the database commits can be executed one after the
other with the same answers, whether or not the locks around the reservations are kept.
-/

namespace WalletManager.Proofs

open Interaction Relational

variable {T α : Type} {db : Database} {em : EmitterService} {svc : BalanceService}
  {rows rows' : (k : RowKey) → Option k.Row}

section History

variable [DecidableEq T] {procs : T → Proc α} {P : SqlPool T α}

def StoreEntry (svc : BalanceService) (db : Database) (u : List SqlEvent) : Prop :=
  (∃ e : SqlEvent, u = [e] ∧ Outside e.call ∧ (postgres db).done e.call e.answer = true) ∨ StoreUnit u ∨
    ∃ op, BalanceUnit svc db op u

lemma concurrently_serial {Q : T → SqlClient → α → Prop}
    (hprocs : ∀ t, Conforms ((postgres db).client t (systemRules svc db))
      ((procs t).translate (Call.auditedSql db t em)) {} (fun g a => g.phase = .unreachable ∨ Q t g a))
    (h : Concurrently db em rows procs P) :
    ∃ γ : T → SqlClient, (postgres db).Replay rows (P.shared.history.flatMap Committed.trace) P.shared.rows ∧
      (∀ e ∈ P.shared.history, StoreEntry svc db e.trace) ∧
      (∀ t, ∀ u ∈ (γ t).finished, (postgres db).Modifies u →
        ∃ h ∈ P.shared.history, h.session = t ∧ h.trace = u) ∧
      ∀ t a, P.threads t = some (.ret a) → Q t (γ t) a := by
  obtain ⟨γ, hengine, hclients, -, hQ⟩ := serial_of_conforms (fun _ => systemRules svc db) hprocs h
  refine ⟨γ, hengine.serial, fun e he => ?_, hclients.finished, hQ⟩
  cases hin : e.inTx with
  | false =>
    obtain ⟨c, r, htrace, hout, hdone⟩ := hclients.auto e he hin
    exact .inl ⟨⟨c, r⟩, htrace, hout, hdone⟩
  | true =>
    obtain ⟨pre, hunit⟩ := hclients.tx_allowed he hin
    exact .inr hunit

end History

/-! ## Outputs -/

section Outputs

variable {op : String}

def Frees (op : String) (e : SqlEvent) : Prop :=
  e.call = .exec (.freeUTXO op) ∨ ∃ u : UTXO, u.outpoint = op ∧ u.lockState = .free ∧
    e.call = .exec (.insertUTXO u)

def NotFree (op : String) (rows : (k : RowKey) → Option k.Row) : Prop :=
  ∀ row : UTXORow, rows (.utxo op) = some row → row.utxo.lockState ≠ .free

lemma NotFree.of_untouched (h : NotFree op rows) (hrows : rows' (.utxo op) = rows (.utxo op)) :
    NotFree op rows' := by
  intro row hrow
  exact h row (hrows ▸ hrow)

lemma NotFree.elsewhere {e : SqlEvent} (honce : (postgres db).Once e rows rows') (h : NotFree op rows)
    (hkey : (postgres db).key e ≠ some (.utxo op)) : NotFree op rows' :=
  h.of_untouched (honce.untouched hkey)

lemma NotFree.statement {e : SqlEvent}
    {run : Option UTXORow → SqlCall.Answer e.call × Effect UTXORow} (h : NotFree op rows)
    (honce : (postgres db).Once e rows rows')
    (haction : (postgres db).action e.call = .statement (.utxo op) run)
    (hrun : ∀ old eff row, (∀ row, old = some row → row.utxo.lockState ≠ .free) →
      run old = (e.answer, eff) → eff.apply old = some row → row.utxo.lockState ≠ .free) :
    NotFree op rows' := by
  obtain ⟨eff, heff, rfl⟩ := honce.effect haction
  intro row hrow
  rw [Function.update_self] at hrow
  exact hrun _ eff row h heff hrow

lemma NotFree.once {e : SqlEvent} (honce : (postgres db).Once e rows rows') (hfree : ¬Frees op e)
    (h : NotFree op rows) : NotFree op rows' := by
  by_cases hkey : (postgres db).key e = some (.utxo op)
  swap
  · exact h.elsewhere honce hkey
  obtain ⟨c, r⟩ := e
  cases c with
  | ext | newID | fresh => cases hkey
  | exec c =>
    cases c with
    | insertUTXO u =>
      cases hkey
      refine h.statement honce rfl ?_
      rintro (_ | old) eff row hold hrun hrow
      · cases hvalue : db.numeric.input u.value with
        | error err =>
          simp only [insertRow, hvalue, Except.map] at hrun
          cases hrun
          cases hrow
        | ok value =>
          simp only [insertRow, hvalue, Except.map] at hrun
          cases hrun
          cases hrow
          exact fun hstate => hfree (.inr ⟨u, rfl, hstate, rfl⟩)
      · cases hrun
        exact hold row hrow
    | lockUTXO op' =>
      cases hkey
      refine h.statement honce rfl ?_
      rintro (_ | old) eff row hold hrun hrow
      · cases hrun
        cases hrow
      · have hlocked : old.utxo.lockState ≠ .free := hold old rfl
        simp only [updateRowIf, hlocked, decide_false, Bool.false_eq_true, if_false] at hrun
        cases hrun
        exact hold row hrow
    | spendUTXO op' txHash =>
      cases hkey
      refine h.statement honce rfl ?_
      rintro (_ | old) eff row hold hrun hrow
      · cases hrun
        cases hrow
      · cases hrun
        cases hrow
        simp
    | freeUTXO op' =>
      cases hkey
      exact absurd (.inl rfl) hfree
    | deleteUTXO op' =>
      cases hkey
      refine h.statement honce rfl ?_
      rintro (_ | old) eff row hold hrun hrow
      · cases hrun
        cases hrow
      · cases hrun
        cases hrow
    | event c => cases c <;> cases hkey
    | _ => cases hkey

lemma lockUTXO_once {n : Int} (hn : n ≠ 0) (honce : (postgres db).Once ⟨.exec (.lockUTXO op), .ok n⟩ rows rows') :
    ¬NotFree op rows ∧ NotFree op rows' := by
  obtain ⟨eff, hrun, rfl⟩ := honce.effect rfl
  cases hold : rows (.utxo op) with
  | none =>
    rw [hold] at hrun
    cases hrun
    exact absurd rfl hn
  | some old =>
    rw [hold] at hrun
    by_cases hstate : old.utxo.lockState = .free
    · simp only [updateRowIf, hstate, decide_true, if_true] at hrun
      cases hrun
      refine ⟨fun h => h old hold hstate, ?_⟩
      intro row hrow
      rw [Function.update_self] at hrow
      cases hrow
      simp
    · simp only [updateRowIf, hstate, decide_false, Bool.false_eq_true, if_false] at hrun
      cases hrun
      exact absurd rfl hn

lemma lockUTXO_frees_nothing {p : String × Int} : ¬Frees op ⟨.exec (.lockUTXO p.1), .ok p.2⟩ := by
  rintro (h | ⟨u, -, -, h⟩) <;> cases h

lemma lockUnit_replay {l : List (String × Int)} (hl : ∀ p ∈ l, p.2 ≠ 0) (hop : op ∈ l.map Prod.fst)
    (h : (postgres db).Replay rows (lockUnit l) rows') : ¬NotFree op rows ∧ NotFree op rows' := by
  induction l generalizing rows with
  | nil => cases hop
  | cons p l ih =>
    obtain ⟨rows₁, honce, hrest⟩ := h
    have hkept : NotFree op rows₁ → NotFree op rows' := by
      intro hlocked
      refine hrest.keeps_each hlocked ?_
      intro e he rows rows' honce hnot
      obtain ⟨q, -, rfl⟩ := List.mem_map.mp he
      exact hnot.once honce lockUTXO_frees_nothing
    by_cases hp : p.1 = op
    · subst hp
      obtain ⟨hfree, hlocked⟩ := lockUTXO_once (hl p List.mem_cons_self) honce
      exact ⟨hfree, hkept hlocked⟩
    · have hop' : op ∈ l.map Prod.fst := by
        rcases List.mem_cons.mp hop with hhead | htail
        · exact absurd hhead.symm hp
        · exact htail
      obtain ⟨hfree, hlocked⟩ := ih (fun q hq => hl q (List.mem_cons_of_mem _ hq)) hop' hrest
      exact ⟨fun hnot => hfree (hnot.once honce lockUTXO_frees_nothing), hlocked⟩

lemma replay_split {l pre mid post : List (Committed T SqlCall SqlCall.Answer)}
    {e₁ e₂ : Committed T SqlCall SqlCall.Answer} (hsplit : l = pre ++ e₁ :: (mid ++ e₂ :: post))
    (h : (postgres db).Replay rows (l.flatMap Committed.trace) rows') :
    ∃ r₁ r₂ r₃ r₄, (postgres db).Replay r₁ e₁.trace r₂ ∧
      (postgres db).Replay r₂ (mid.flatMap Committed.trace) r₃ ∧ (postgres db).Replay r₃ e₂.trace r₄ := by
  subst hsplit
  rw [List.flatMap_append, List.flatMap_cons, List.flatMap_append, List.flatMap_cons] at h
  obtain ⟨r₁, -, h⟩ := Dialect.replay_append.mp h
  obtain ⟨r₂, he₁, h⟩ := Dialect.replay_append.mp h
  obtain ⟨r₃, hmid, h⟩ := Dialect.replay_append.mp h
  obtain ⟨r₄, he₂, -⟩ := Dialect.replay_append.mp h
  exact ⟨r₁, r₂, r₃, r₄, he₁, hmid, he₂⟩

lemma freed_between {l pre mid post : List (Committed T SqlCall SqlCall.Answer)}
    {e₁ e₂ : Committed T SqlCall SqlCall.Answer} (hsplit : l = pre ++ e₁ :: (mid ++ e₂ :: post))
    (h : (postgres db).Replay rows (l.flatMap Committed.trace) rows') {l₁ l₂ : List (String × Int)}
    (he₁ : e₁.trace = lockUnit l₁) (he₂ : e₂.trace = lockUnit l₂) (hl₁ : ∀ p ∈ l₁, p.2 ≠ 0)
    (hl₂ : ∀ p ∈ l₂, p.2 ≠ 0) (hop₁ : op ∈ l₁.map Prod.fst) (hop₂ : op ∈ l₂.map Prod.fst) :
    ∃ e ∈ mid, ∃ ev ∈ e.trace, Frees op ev := by
  obtain ⟨r₁, r₂, r₃, r₄, hfirst, hmid, hsecond⟩ := replay_split hsplit h
  rw [he₁] at hfirst
  rw [he₂] at hsecond
  have hlocked := (lockUnit_replay hl₁ hop₁ hfirst).2
  have hfound := (lockUnit_replay hl₂ hop₂ hsecond).1
  by_contra hnone
  push Not at hnone
  refine hfound (hmid.keeps hlocked ?_)
  intro e he rows rows' hreplay hnot
  refine hreplay.keeps_each hnot ?_
  intro ev hev rows rows' honce hnot
  exact hnot.once honce (hnone e he ev hev)

end Outputs

section Selection

variable {t : T}

def Selected (g : SqlClient) (a : Except Error (List String × ℚ)) : Prop :=
  ∀ sel total, a = .ok (sel, total) → sel ≠ [] →
    ∃ l, lockUnit l ∈ g.finished ∧ l.map Prod.fst = sel ∧ ∀ p ∈ l, p.2 ≠ 0

lemma selectForAmount_conforms (lib : Lib) (walletID : UUID) (amount : ℚ) :
    Conforms ((postgres db).client t (systemRules svc db))
      ((selectForAmount lib walletID amount).translate (Call.auditedSql db t em)) {}
      (fun g a => g.phase = .unreachable ∨ Selected g a) := by
  refine Dialect.conforms_other rfl (fun r => ?_)
  cases r with
  | error err => exact .inr (fun _ _ h => by cases h)
  | ok free =>
    change Conforms _ (Prog.translate _ (ite _ _ _)) _ _
    split
    · exact .inr (fun _ _ h => by cases h)
    · generalize hsel : selectLoop lib amount
        (lib.sortSlice (fun a b => decide (parseDec lib b.value < parseDec lib a.value)) free) [] 0 = p
      obtain ⟨selected, total⟩ := p
      by_cases hne : selected = []
      · subst hne
        refine .inr ?_
        intro sel total' h hsel'
        cases h
        exact absurd rfl hsel'
      · refine ((lockUTXOsSql_conforms systemRules_permits selected rfl trivial hne).mono ?_).bind
        intro g a hends
        cases a with
        | error err => exact .inr (fun _ _ h => by cases h)
        | ok x =>
          rcases hends with hun | ⟨-, -, hgood⟩
          · exact .inl hun
          · obtain ⟨u, hu, l, rfl, hl, hl'⟩ := hgood x rfl
            refine .inr ?_
            intro sel total' h _
            cases h
            exact ⟨l, hu, hl, hl'⟩

variable [DecidableEq T] {procs : T → Proc (Except Error (List String × ℚ))}
  {P : SqlPool T (Except Error (List String × ℚ))}

omit [DecidableEq T] in
lemma lockUnit_modifies {l : List (String × Int)} (hl : ∀ p ∈ l, p.2 ≠ 0) (hne : l ≠ []) :
    (postgres db).Modifies (lockUnit l) := by
  obtain ⟨⟨op, n⟩, l, rfl⟩ := List.exists_cons_of_ne_nil hne
  rintro rows rows' ⟨rows₁, honce, -⟩
  have hn : n ≠ 0 := hl (op, n) List.mem_cons_self
  obtain ⟨eff, hrun, -⟩ := honce.effect rfl
  refine .inl ⟨_, _, eff, rfl, hrun, ?_⟩
  cases hrow : rows (.utxo op) with
  | none =>
    rw [hrow] at hrun
    cases hrun
    exact absurd rfl hn
  | some row =>
    rw [hrow] at hrun
    dsimp only [updateRowIf] at hrun
    split at hrun
    · cases hrun
      rfl
    · cases hrun
      exact absurd rfl hn

lemma lockUnit_injective : Function.Injective lockUnit := by
  apply List.map_injective_iff.mpr
  rintro ⟨op, n⟩ ⟨op', n'⟩ h
  cases h
  rfl

lemma NonceUnit.calls {walletID : UUID} {chain : String} {n : Int} {u : List SqlEvent} {ev : SqlEvent}
    (h : NonceUnit walletID chain n u) (hev : ev ∈ u) :
    ev.call = .exec (.selectNonceForUpdate walletID chain) ∨ ev.call = .exec (.insertNonce walletID chain) ∨
      ∃ pn v, ev.call = .exec (.updateNonce walletID chain pn v) := by
  cases h with
  | first =>
    rcases List.mem_cons.mp hev with rfl | hev
    · exact .inl rfl
    · rw [List.mem_singleton.mp hev]
      exact .inr (.inl rfl)
  | next pn v =>
    rcases List.mem_cons.mp hev with rfl | hev
    · exact .inl rfl
    · rw [List.mem_singleton.mp hev]
      exact .inr (.inr ⟨_, _, rfl⟩)

lemma lockUnit_changes {l : List (String × Int)} (h : StoreEntry svc db (lockUnit l)) : ∀ p ∈ l, p.2 ≠ 0 := by
  rcases h with ⟨e, he, hout, -⟩ | (⟨l', hl', hne⟩ | ⟨walletID, chain, n, hunit⟩) | ⟨op, hunit⟩
  · have hmem : e ∈ lockUnit l := by
      rw [he]
      exact List.mem_cons_self
    obtain ⟨p, -, rfl⟩ := List.mem_map.mp hmem
    exact hout.elim
  · rwa [lockUnit_injective hl']
  · intro p hp
    have hmem : (⟨.exec (.lockUTXO p.1), .ok p.2⟩ : SqlEvent) ∈ lockUnit l := List.mem_map_of_mem hp
    have hcall := hunit.calls hmem
    simp at hcall
  · intro p hp
    have hmem : (⟨.exec (.lockUTXO p.1), .ok p.2⟩ : SqlEvent) ∈ lockUnit l := List.mem_map_of_mem hp
    have hcall := hunit.calls hmem
    simp at hcall

lemma StoreEntry.frees {u : List SqlEvent} {op : String} {ev : SqlEvent} (h : StoreEntry svc db u) (hev : ev ∈ u)
    (hfrees : Frees op ev) : u = [ev] := by
  rcases h with ⟨e, rfl, -, -⟩ | (⟨l, rfl, -⟩ | ⟨walletID, chain, n, hunit⟩) | ⟨op', hunit⟩
  · rw [List.mem_singleton.mp hev]
  · obtain ⟨p, -, rfl⟩ := List.mem_map.mp hev
    exact absurd hfrees lockUTXO_frees_nothing
  · have hcall := hunit.calls hev
    rcases hfrees with hfree | ⟨v, -, -, hfree⟩ <;> rw [hfree] at hcall <;> simp at hcall
  · have hcall := hunit.calls hev
    rcases hfrees with hfree | ⟨v, -, -, hfree⟩ <;> rw [hfree] at hcall <;> simp at hcall

/-- Whatever procedures over the store run concurrently: a selection that returns outputs has locked them
in one transaction, and an output that two transactions have locked was set free between the two. -/
theorem outputs_locked_exclusively (lib : Lib) (hprocs : ∀ t, Composed svc (procs t))
    (h : Concurrently db em rows procs P) :
    (∀ t walletID amount sel total, procs t = selectForAmount lib walletID amount →
      P.threads t = some (.ret (.ok (sel, total))) → sel ≠ [] →
      ∃ e ∈ P.shared.history, e.session = t ∧ ∃ l, e.trace = lockUnit l ∧ l.map Prod.fst = sel) ∧
    ∀ pre e₁ mid e₂ post l₁ l₂ op, P.shared.history = pre ++ e₁ :: (mid ++ e₂ :: post) →
      e₁.trace = lockUnit l₁ → e₂.trace = lockUnit l₂ → op ∈ l₁.map Prod.fst → op ∈ l₂.map Prod.fst →
      ∃ e ∈ mid, ∃ ev, e.trace = [ev] ∧ Frees op ev := by
  have hconforms : ∀ t, Conforms ((postgres db).client t (systemRules svc db))
      ((procs t).translate (Call.auditedSql db t em)) {} (fun g a => g.phase = .unreachable ∨
        ∀ walletID amount, procs t = selectForAmount lib walletID amount → Selected g a) := by
    intro t
    by_cases hsel : ∃ walletID amount, procs t = selectForAmount lib walletID amount
    · obtain ⟨walletID, amount, hproc⟩ := hsel
      rw [hproc]
      exact (selectForAmount_conforms lib walletID amount).mono (fun g a hg => hg.imp id (fun hg _ _ _ => hg))
    · refine ((hprocs t).noTx (.inl ⟨rfl, trivial⟩)).mono (fun g a _ => .inr ?_)
      intro walletID amount hproc
      exact absurd ⟨walletID, amount, hproc⟩ hsel
  obtain ⟨γ, hserial, hentries, hfinished, hreturned⟩ := concurrently_serial hconforms h
  constructor
  · intro t walletID amount sel total hproc hret hne
    obtain ⟨l, hl, rfl, hchanged⟩ := hreturned t _ hret walletID amount hproc sel total rfl hne
    have hl' : l ≠ [] := by
      rintro rfl
      exact hne rfl
    obtain ⟨e, he, hsession, htrace⟩ := hfinished t _ hl (lockUnit_modifies hchanged hl')
    exact ⟨e, he, hsession, l, htrace, rfl⟩
  · intro pre e₁ mid e₂ post l₁ l₂ op hsplit he₁ he₂ hop₁ hop₂
    have hmem : ∀ e, e = e₁ ∨ e = e₂ ∨ e ∈ mid → e ∈ P.shared.history := by
      intro e he
      rw [hsplit]
      simp only [List.mem_append, List.mem_cons]
      tauto
    have hl₁ : ∀ p ∈ l₁, p.2 ≠ 0 := lockUnit_changes (he₁ ▸ hentries e₁ (hmem e₁ (.inl rfl)))
    have hl₂ : ∀ p ∈ l₂, p.2 ≠ 0 := lockUnit_changes (he₂ ▸ hentries e₂ (hmem e₂ (.inr (.inl rfl))))
    obtain ⟨e, he, ev, hev, hfrees⟩ := freed_between hsplit hserial he₁ he₂ hl₁ hl₂ hop₁ hop₂
    exact ⟨e, he, ev, (hentries e (hmem e (.inr (.inr he)))).frees hev hfrees, hfrees⟩

def sharedOutput : Bool → Proc (Except Error (List String × ℚ))
  | false => do
    match ← store (.lockUTXOs ["a:0"]) with
    | .error err => return .error err
    | .ok () => return (← unlock ["a:0"]).map (fun _ => ([], 0))
  | true => selectForAmount referenceLib UUID.nil 1

lemma sharedOutput_plain (t : Bool) : (sharedOutput t).AllCalls Plain := by
  cases t with
  | false =>
    refine ⟨trivial, fun r => ?_⟩
    cases r with
    | error err => trivial
    | ok a => exact ⟨trivial, fun _ => trivial⟩
  | true =>
    refine ⟨trivial, fun r => ?_⟩
    cases r with
    | error err => trivial
    | ok free =>
      dsimp only [Prog.bind]
      split
      · trivial
      · refine ⟨trivial, fun r => ?_⟩
        cases r <;> trivial

def freeRows : (k : RowKey) → Option k.Row
  | .utxo op => some ⟨{ outpoint := op, walletID := UUID.nil, value := "1", lockState := .free }, 1⟩
  | _ => none

def sharedRow (op : String) : UTXO := { outpoint := op, walletID := UUID.nil, value := "1", lockState := .free }

def lockReply : Except Error Unit → Proc (Except Error (List String × ℚ))
  | .error err => return .error (err.wrap "lock utxos")
  | .ok () => return .ok (["a:0"], 1)

lemma sharedOutput_selects : ∃ k, sharedOutput true = .call (.store (.listFreeUTXOs UUID.nil)) k ∧
    k (.ok [sharedRow "a:0", sharedRow "a:1"]) = store (.lockUTXOs ["a:0"]) >>= lockReply := by
  have hloop : selectLoop referenceLib 1 (referenceLib.sortSlice
      (fun a b => decide (parseDec referenceLib b.value < parseDec referenceLib a.value))
      [sharedRow "a:0", sharedRow "a:1"]) [] 0 = (["a:0"], 1) := by decide +kernel
  refine ⟨_, rfl, ?_⟩
  dsimp only [Prog.bind]
  rw [hloop]
  dsimp only
  rw [if_neg (lt_irrefl _)]
  congr 1
  funext r
  cases r <;> rfl

/-- Both sessions lock one output, and the first has set it free before the second selects it. -/
theorem outputs_locked_exclusively_twice : ∃ P : SqlPool Bool (Except Error (List String × ℚ)),
    Concurrently referenceDatabase jsonEmitter freeRows sharedOutput P ∧
    P.shared.history.map Committed.session = [false, false, true] ∧
    (∃ e ∈ P.shared.history, e.session = true ∧ ∃ l, e.trace = lockUnit l ∧ l.map Prod.fst = ["a:0"]) ∧
    ∃ e ∈ P.shared.history, e.session = false ∧ ∃ ev, e.trace = [ev] ∧ Frees "a:0" ev := by
  have h₀ : Concurrently referenceDatabase jsonEmitter freeRows sharedOutput _ := .refl
  have h₁ := h₀.step false (.exec .begin) (.ok ()) rfl (.begin rfl rfl rfl)
  obtain ⟨k, hlists, hlocks⟩ := sharedOutput_selects
  let run : Proc (Except Error (List String × ℚ)) → SqlProc Bool (Except Error (List String × ℚ)) :=
    Prog.translate (Call.auditedSql referenceDatabase true jsonEmitter)
  have h₂ := h₁.step true (.exec (.query (.listFreeUTXOs UUID.nil))) (.ok [sharedRow "a:0", sharedRow "a:1"])
    (congrArg (fun p => some (run p)) hlists) (.other rfl)
  have h₃ := h₂.step true (.exec .begin) (.ok ()) (congrArg (fun p => some (run p)) hlocks) (.begin rfl rfl rfl)
  have h₄ := h₃.step false (.exec (.lockUTXO "a:0")) (.ok 1) rfl
    (.execute rfl rfl rfl rfl (fun _ => ⟨unlocked_of_other (.inr rfl) _, rfl⟩))
  have h₅ := h₄.step false (.exec .commit) (.ok ()) rfl (.commit rfl rfl (.inl rfl))
  have h₆ := h₅.step false (.exec (.freeUTXO "a:0")) (.ok ()) rfl
    (.perform rfl rfl rfl rfl (fun _ => unlocked_of_other (.inr rfl) _))
  have h₇ := h₆.step true (.exec (.lockUTXO "a:0")) (.ok 1) rfl
    (.execute rfl rfl rfl rfl (fun _ => ⟨unlocked_of_other (.inl rfl) _, rfl⟩))
  have h₈ := h₇.step true (.exec .commit) (.ok ()) rfl (.commit rfl rfl (.inl rfl))
  have hprocs : ∀ t, Composed referenceBalances (sharedOutput t) := fun t => .plain (sharedOutput_plain t)
  obtain ⟨hselected, hexclusive⟩ := outputs_locked_exclusively referenceLib hprocs h₈
  obtain ⟨e, he, ev, htrace, hfrees⟩ := hexclusive [] _ [_] _ [] [("a:0", 1)] [("a:0", 1)] "a:0" rfl rfl rfl
    List.mem_cons_self List.mem_cons_self
  obtain rfl := List.mem_singleton.mp he
  exact ⟨_, h₈, rfl, hselected true _ _ _ _ rfl rfl (by simp), _,
    List.mem_cons_of_mem _ List.mem_cons_self, rfl, ev,
    htrace, hfrees⟩

end Selection

/-! ## Nonces -/

section Nonces

variable {walletID : UUID} {chain : String} {n : Int} {u : List SqlEvent}

lemma NonceUnit.replay (h : NonceUnit walletID chain n u) (hreplay : (postgres db).Replay rows u rows') :
    (∀ m : Nonce, rows (.nonce walletID chain) = some m → m.pendingNonce = n) ∧
    (∃ m : Nonce, rows' (.nonce walletID chain) = some m ∧ m.pendingNonce = n + 1) ∧
    (postgres db).WritesIn rows u := by
  cases h with
  | first =>
    obtain ⟨rows₁, hselect, rows₂, hinsert, rfl⟩ := hreplay
    obtain ⟨eff, hrun, hrows₁⟩ := hselect.effect rfl
    cases hrow : rows (.nonce walletID chain) with
    | some m =>
      rw [hrow] at hrun
      cases hrun
    | none =>
      rw [hrow] at hrun
      cases hrun
      have hsame : rows₁ (.nonce walletID chain) = none := by
        rw [hrows₁, Function.update_self]
        exact hrow
      obtain ⟨eff, hrun, rfl⟩ := hinsert.effect rfl
      have heff : eff = .write (some ⟨walletID, chain, 1, 0, 1⟩) := by
        rw [hsame] at hrun
        cases hrun
        rfl
      subst heff
      exact ⟨(fun m hm => by cases hm), ⟨_, Function.update_self .., rfl⟩,
        .inr ⟨rows₁, hselect, .inl ⟨_, _, _, rfl, hrun, rfl⟩⟩⟩
  | next n v =>
    obtain ⟨rows₁, hselect, rows₂, hupdate, rfl⟩ := hreplay
    obtain ⟨eff, hrun, hrows₁⟩ := hselect.effect rfl
    cases hrow : rows (.nonce walletID chain) with
    | none =>
      rw [hrow] at hrun
      cases hrun
    | some m =>
      rw [hrow] at hrun
      cases hrun
      have hsame : rows₁ (.nonce walletID chain) = some m := by
        rw [hrows₁, Function.update_self]
        exact hrow
      obtain ⟨eff, hrun, rfl⟩ := hupdate.effect rfl
      have heff : eff = .write (some { m with pendingNonce := m.pendingNonce + 1, version := m.version + 1 }) := by
        rw [hsame] at hrun
        cases hrun
        rfl
      subst heff
      refine ⟨fun m' hm' => ?_, ⟨_, Function.update_self .., rfl⟩,
        .inr ⟨rows₁, hselect, .inl ⟨_, _, _, rfl, hrun, rfl⟩⟩⟩
      cases hm'
      rfl

def Past (walletID : UUID) (chain : String) (n : Int) (rows : (k : RowKey) → Option k.Row) : Prop :=
  ∃ m : Nonce, rows (.nonce walletID chain) = some m ∧ n < m.pendingNonce

lemma Past.of_untouched (h : Past walletID chain n rows)
    (hrows : rows' (.nonce walletID chain) = rows (.nonce walletID chain)) : Past walletID chain n rows' := by
  obtain ⟨m, hm, hn⟩ := h
  exact ⟨m, hrows.trans hm, hn⟩

def RollsBack (walletID : UUID) (chain : String) (n : Int) (u : List SqlEvent) : Prop :=
  u = [⟨.exec (.rollbackPendingNonce walletID chain n), .ok 1⟩]

lemma Past.single {e : SqlEvent} (hout : Outside e.call) (honce : (postgres db).Once e rows rows')
    (hnot : ¬RollsBack walletID chain n [e]) (h : Past walletID chain n rows) : Past walletID chain n rows' := by
  by_cases hkey : (postgres db).key e = some (.nonce walletID chain)
  swap
  · exact h.of_untouched (honce.untouched hkey)
  obtain ⟨m, hm, hn⟩ := h
  obtain ⟨c, r⟩ := e
  cases c with
  | ext | newID | fresh => cases hkey
  | exec c =>
    cases c with
    | advanceBroadcastNonce walletID' chain' nonce =>
      cases hkey
      obtain ⟨eff, hrun, rfl⟩ := honce.effect rfl
      rw [hm] at hrun
      cases hrun
      exact ⟨_, Function.update_self .., hn⟩
    | rollbackPendingNonce walletID' chain' target =>
      cases hkey
      obtain ⟨eff, hrun, rfl⟩ := honce.effect rfl
      rw [hm] at hrun
      by_cases hpending : m.pendingNonce = target + 1
      · simp only [updateRowIf, hpending, decide_true, if_true] at hrun
        cases hrun
        have htarget : n ≠ target := by
          rintro rfl
          exact hnot rfl
        refine ⟨_, Function.update_self .., ?_⟩
        change n < target
        omega
      · simp only [updateRowIf, hpending, decide_false, Bool.false_eq_true, if_false] at hrun
        cases hrun
        exact ⟨m, (Function.update_self ..).trans hm, hn⟩
    | selectNonceForUpdate | insertNonce | updateNonce | upsertNonce => exact hout.elim
    | event c => cases c <;> cases hkey
    | _ => cases hkey

lemma NonceUnit.keys (h : NonceUnit walletID chain n u) {k : RowKey} (hk : k ∈ (postgres db).keys u) :
    k = .nonce walletID chain := by
  cases h <;> simpa [Dialect.keys, Dialect.key, postgres, Statement.action] using hk

lemma lockUnit_keys {l : List (String × Int)} {k : RowKey} (hk : k ∈ (postgres db).keys (lockUnit l)) :
    ∃ op, k = .utxo op := by
  obtain ⟨e, he, hkey⟩ := List.mem_filterMap.mp hk
  obtain ⟨p, -, rfl⟩ := List.mem_map.mp he
  exact ⟨p.1, (Option.some.inj hkey).symm⟩

lemma Past.entry (hentry : StoreEntry svc db u) (hreplay : (postgres db).Replay rows u rows')
    (hnot : ¬RollsBack walletID chain n u) (h : Past walletID chain n rows) : Past walletID chain n rows' := by
  rcases hentry with ⟨e, rfl, hout, -⟩ | (⟨l, rfl, -⟩ | ⟨walletID', chain', n', hunit⟩) | ⟨op, hunit⟩
  · exact h.single hout (Dialect.replay_single.mp hreplay) hnot
  · refine h.of_untouched (hreplay.untouched (fun hk => ?_))
    obtain ⟨op, hop⟩ := lockUnit_keys hk
    cases hop
  · by_cases hsame : RowKey.nonce walletID chain = .nonce walletID' chain'
    · cases hsame
      obtain ⟨m, hm, hn⟩ := h
      obtain ⟨hpending, ⟨m', hm', hpending'⟩, -⟩ := hunit.replay hreplay
      have hn' : m.pendingNonce = n' := hpending m hm
      exact ⟨m', hm', by omega⟩
    · exact h.of_untouched (hreplay.untouched (fun hk => hsame (hunit.keys hk)))
  · refine h.of_untouched (hreplay.untouched (fun hk => ?_))
    rcases hunit.keys hk with ⟨_, _, hk⟩ | ⟨_, hk⟩ | ⟨_, hk⟩ <;> cases hk

lemma later_nonce {l pre mid post : List (Committed T SqlCall SqlCall.Answer)}
    {e₁ e₂ : Committed T SqlCall SqlCall.Answer} {n₁ n₂ : Int} (hsplit : l = pre ++ e₁ :: (mid ++ e₂ :: post))
    (hserial : (postgres db).Replay rows (l.flatMap Committed.trace) rows')
    (hentries : ∀ e ∈ l, StoreEntry svc db e.trace) (he₁ : NonceUnit walletID chain n₁ e₁.trace)
    (he₂ : NonceUnit walletID chain n₂ e₂.trace) : n₁ < n₂ ∨ ∃ e ∈ mid, RollsBack walletID chain n₁ e.trace := by
  obtain ⟨r₁, r₂, r₃, r₄, hfirst, hmid, hsecond⟩ := replay_split hsplit hserial
  by_contra hnot
  push Not at hnot
  obtain ⟨hle, hnone⟩ := hnot
  obtain ⟨-, ⟨m, hm, hpending⟩, -⟩ := he₁.replay hfirst
  have hpast : Past walletID chain n₁ r₂ := ⟨m, hm, by omega⟩
  have hkept : Past walletID chain n₁ r₃ := by
    refine hmid.keeps hpast ?_
    intro e he rows rows' hreplay hpast
    refine hpast.entry (hentries e ?_) hreplay (hnone e he)
    rw [hsplit]
    simp [he]
  obtain ⟨m', hm', hn'⟩ := hkept
  have hfound : m'.pendingNonce = n₂ := (he₂.replay hsecond).1 m' hm'
  omega

lemma reserveNonceLoop_conforms {t : T} (lockName : String) (attempts : ℕ) (g : SqlClient) (hg : g.phase = .idle) :
    Conforms ((postgres db).client t (systemRules svc db))
      ((reserveNonceLoop walletID chain lockName attempts).translate (Call.auditedSql db t em)) g
      (fun g a => g.phase = .unreachable ∨ ∀ n, a = .ok n → ∃ u ∈ g.finished, NonceUnit walletID chain n u) := by
  induction attempts with
  | zero => exact .inr (fun _ h => by cases h)
  | succ attempts ih =>
    refine Dialect.conforms_other rfl (fun r => ?_)
    cases r with
    | error err => exact .inr (fun _ h => by cases h)
    | ok granted =>
      obtain ⟨token, ok⟩ := granted
      cases ok with
      | false => exact ih
      | true =>
        refine ((incrementPendingNonce_conforms systemRules_permits walletID chain hg trivial).mono ?_).bind
        intro g' a hends
        refine Dialect.conforms_other rfl (fun _ => ?_)
        cases a with
        | error err => exact .inr (fun _ h => by cases h)
        | ok x =>
          rcases hends with hun | ⟨-, -, hgood⟩
          · exact .inl hun
          · refine .inr (fun n h => ?_)
            cases h
            exact hgood x rfl

variable [DecidableEq T] {procs : T → Proc (Except Error Int)} {P : SqlPool T (Except Error Int)}

/-- Whatever procedures over the store run concurrently, and whoever is granted the locks: a reservation
that returns a nonce has committed it, and a later reservation of the same wallet and chain gives a higher
nonce unless this one has been rolled back between the two. -/
theorem nonces_reserved_in_order (hprocs : ∀ t, Composed svc (procs t)) (h : Concurrently db em rows procs P) :
    (∀ t walletID chain n, procs t = reserveNonce walletID chain → P.threads t = some (.ret (.ok n)) →
      ∃ e ∈ P.shared.history, e.session = t ∧ NonceUnit walletID chain n e.trace) ∧
    ∀ pre e₁ mid e₂ post walletID chain n₁ n₂, P.shared.history = pre ++ e₁ :: (mid ++ e₂ :: post) →
      NonceUnit walletID chain n₁ e₁.trace → NonceUnit walletID chain n₂ e₂.trace →
      n₁ < n₂ ∨ ∃ e ∈ mid, RollsBack walletID chain n₁ e.trace := by
  have hplain : ∀ t, Conforms ((postgres db).client t (systemRules svc db))
      ((procs t).translate (Call.auditedSql db t em)) {} (fun g a => g.phase = .unreachable ∨ True) := by
    intro t
    exact ((hprocs t).noTx (.inl ⟨rfl, trivial⟩)).mono (fun _ _ _ => .inr trivial)
  constructor
  · intro t walletID chain n hproc hret
    have hconforms : ∀ t, Conforms ((postgres db).client t (systemRules svc db))
        ((procs t).translate (Call.auditedSql db t em)) {} (fun g a => g.phase = .unreachable ∨
          (procs t = reserveNonce walletID chain → ∀ n, a = .ok n →
            ∃ u ∈ g.finished, NonceUnit walletID chain n u)) := by
      intro t
      by_cases hreserve : procs t = reserveNonce walletID chain
      · rw [hreserve]
        exact (reserveNonceLoop_conforms _ _ {} rfl).mono (fun g a hg => hg.imp id (fun hg _ => hg))
      · exact (hplain t).mono (fun g a _ => .inr (fun hproc => absurd hproc hreserve))
    obtain ⟨γ, -, -, hfinished, hreturned⟩ := concurrently_serial hconforms h
    obtain ⟨u, hu, hunit⟩ := hreturned t _ hret hproc n rfl
    obtain ⟨e, he, hsession, rfl⟩ := hfinished t u hu (fun rows rows' hreplay => (hunit.replay hreplay).2.2)
    exact ⟨e, he, hsession, hunit⟩
  · intro pre e₁ mid e₂ post walletID chain n₁ n₂ hsplit he₁ he₂
    obtain ⟨γ, hserial, hentries, -, -⟩ := concurrently_serial hplain h
    exact later_nonce hsplit hserial hentries he₁ he₂

lemma reserveNonce_calls {Q : Call → Prop} {walletID : UUID} {chain : String}
    (hacquire : ∀ name, Q (.ext (.acquire name 5))) (hrelease : ∀ name token, Q (.ext (.release name token)))
    (hincrement : Q (.store (.incrementPendingNonce walletID chain))) :
    (reserveNonce walletID chain).AllCalls Q := by
  unfold reserveNonce
  generalize "nonce:lock:" ++ walletID.string ++ ":" ++ chain = lockName
  induction 50 with
  | zero => trivial
  | succ attempts ih =>
    refine ⟨hacquire _, fun r => ?_⟩
    cases r with
    | error err => trivial
    | ok granted =>
      obtain ⟨token, ok⟩ := granted
      cases ok with
      | false => exact ih
      | true =>
        refine ⟨hincrement, fun r => ⟨hrelease _ _, fun _ => ?_⟩⟩
        cases r <;> trivial

lemma overlapping_reservations {β : Type} (reply : Except Error Int → β) : ∃ P : SqlPool Bool β,
    Concurrently referenceDatabase jsonEmitter freeRows
      (fun _ => reserveNonce UUID.nil "ethereum" >>= fun r => .ret (reply r)) P ∧
    P.threads false = some (.ret (reply (.ok 0))) ∧ P.threads true = some (.ret (reply (.ok 1))) ∧
    ∃ e₁ e₂, P.shared.history = [e₁, e₂] ∧ NonceUnit UUID.nil "ethereum" 0 e₁.trace ∧
      NonceUnit UUID.nil "ethereum" 1 e₂.trace := by
  have h₀ : Concurrently referenceDatabase jsonEmitter freeRows
      (fun _ : Bool => reserveNonce UUID.nil "ethereum" >>= fun r => .ret (reply r)) _ := .refl
  have h₁ := h₀.step false (.ext (.acquire _ 5)) (.ok ("", true)) rfl (.other rfl)
  have h₂ := h₁.step true (.ext (.acquire _ 5)) (.ok ("", true)) rfl (.other rfl)
  have h₃ := h₂.step false (.exec .begin) (.ok ()) rfl (.begin rfl rfl rfl)
  have h₄ := h₃.step true (.exec .begin) (.ok ()) rfl (.begin rfl rfl rfl)
  have h₅ := h₄.step false (.exec (.selectNonceForUpdate UUID.nil "ethereum")) (.ok none) rfl
    (.execute rfl rfl rfl rfl (fun h => absurd rfl h))
  have h₆ := h₅.step false (.exec (.insertNonce UUID.nil "ethereum")) (.ok ()) rfl
    (.execute rfl rfl rfl rfl (fun _ => ⟨unlocked_of_other (.inr rfl) _, rfl⟩))
  have h₇ := h₆.step false (.exec .commit) (.ok ()) rfl (.commit rfl rfl (.inl rfl))
  have h₈ := h₇.step true (.exec (.selectNonceForUpdate UUID.nil "ethereum")) (.ok (some (1, 1))) rfl
    (.execute rfl rfl rfl rfl (fun _ => ⟨unlocked_of_other (.inl rfl) _, rfl⟩))
  have h₉ := h₈.step true (.exec (.updateNonce UUID.nil "ethereum" 2 2)) (.ok ()) rfl
    (.execute rfl rfl rfl rfl (fun _ => ⟨unlocked_of_other (.inl rfl) _, rfl⟩))
  have h₁₀ := h₉.step true (.exec .commit) (.ok ()) rfl (.commit rfl rfl (.inl rfl))
  have h₁₁ := h₁₀.step false (.ext (.release _ "")) (.ok ()) rfl (.other rfl)
  have h₁₂ := h₁₁.step true (.ext (.release _ "")) (.ok ()) rfl (.other rfl)
  exact ⟨_, h₁₂, rfl, rfl, _, _, rfl, .first, .next 1 1⟩

theorem nonces_reserved_in_order_overlapping : ∃ P : SqlPool Bool (Except Error Int),
    Concurrently referenceDatabase jsonEmitter freeRows (fun _ => reserveNonce UUID.nil "ethereum") P ∧
    (∃ e ∈ P.shared.history, e.session = false ∧ NonceUnit UUID.nil "ethereum" 0 e.trace) ∧
    (∃ e ∈ P.shared.history, e.session = true ∧ NonceUnit UUID.nil "ethereum" 1 e.trace) ∧
    ∃ e₁ e₂, P.shared.history = [e₁, e₂] ∧ NonceUnit UUID.nil "ethereum" 0 e₁.trace ∧
      NonceUnit UUID.nil "ethereum" 1 e₂.trace ∧ (0 : Int) < 1 := by
  obtain ⟨P, hP, hfalse, htrue, e₁, e₂, hhistory, hfirst, hsecond⟩ := overlapping_reservations (fun r => r)
  rw [Prog.bind_ret] at hP
  have hprocs : ∀ _ : Bool, Composed referenceBalances (reserveNonce UUID.nil "ethereum") :=
    fun _ => .plain (reserveNonce_calls (fun _ => trivial) (fun _ _ => trivial) trivial)
  obtain ⟨hreturned, hordered⟩ := nonces_reserved_in_order hprocs hP
  refine ⟨P, hP, hreturned false _ _ 0 rfl hfalse, hreturned true _ _ 1 rfl htrue, e₁, e₂, hhistory, hfirst,
    hsecond, ?_⟩
  -- Nothing comes between the two.
  rcases hordered [] e₁ [] e₂ [] _ _ _ _ hhistory hfirst hsecond with hlt | ⟨e, he, -⟩
  · exact hlt
  · cases he

end Nonces

end WalletManager.Proofs
