import WalletManager.Interaction.Program
import Mathlib.Logic.Function.Basic

/-!
# Transactions over row versions

An engine keeps the committed version of each row, and clients execute statements on single rows over
sessions of their own. Outside a transaction a statement sees the committed row and commits at once. A
transaction sees the rows as they were at its first statement, and its own changes. A row that it locks
or writes must not be locked by another transaction and must not have been written since then, and it
stays locked until the transaction ends. Every statement may fail, which aborts the transaction, and a
commit or a statement outside a transaction may take effect although its client is told that it failed.

If every row that a transaction has seen is locked when it commits, then the committed rows are what
the committed statements make of the initial ones when they are executed one transaction after the
other, with the same answers.
-/

namespace Relational

open Interaction

/-! ## Statements -/

inductive Effect (V : Type)
  | read
  | lock
  | write (row : Option V)

namespace Effect

variable {V : Type}

def apply : Effect V → Option V → Option V
  | write row, _ => row
  | _, row => row

def writes : Effect V → Bool
  | write _ => true
  | _ => false

end Effect

/-- What a call asks of the engine, where `A` are the answers to it. -/
inductive Action (K : Type) (V : K → Type) (A : Type)
  | begin
  | commit
  | rollback
  | statement (key : K) (run : Option (V key) → A × Effect (V key))
  /-- The call is not for the engine. -/
  | other

/-- The calls of the clients, with the answers of executed ones and those of failures. -/
structure Dialect (C : Type) (R : C → Type) (K : Type) (V : K → Type) where
  action : (c : C) → Action K V (R c)
  done : (c : C) → R c → Bool
  fails : (c : C) → R c → Prop
  not_done : ∀ c r, fails c r → done c r = false

structure On (T C : Type) where
  session : T
  call : C

abbrev On.Answer {T C : Type} (R : C → Type) (c : On T C) : Type := R c.call

/-! ## The engine -/

inductive Hold (V : Type)
  | free
  | locked
  | written (row : Option V)

namespace Hold

variable {V : Type}

def row : Hold V → Option V → Option V
  | written row, _ => row
  | _, row => row

def after : Hold V → Effect V → Hold V
  | _, .write row => written row
  | free, .lock => locked
  | h, _ => h

end Hold

section Engine

variable (T C : Type) (R : C → Type) (K : Type) (V : K → Type)

structure Tx where
  /-- The committed rows at the first statement, with their versions. -/
  seen : (k : K) → Option (V k)
  seenVersion : K → ℕ
  hold : (k : K) → Hold (V k) := fun _ => .free
  trace : List (Event C R) := []
  wrote : Bool := false

inductive Session
  | idle
  /-- The transaction has not executed a statement yet. -/
  | opened
  | active (tx : Tx C R K V)
  /-- A statement has failed, and all later ones will. -/
  | aborted

structure Committed where
  session : T
  inTx : Bool
  trace : List (Event C R)

/-- The committed rows with their versions, the sessions, and what has been committed so far. -/
structure Engine where
  rows : (k : K) → Option (V k)
  version : K → ℕ
  session : T → Session C R K V
  history : List (Committed T C R)

end Engine

variable {T C : Type} {R : C → Type} {K : Type} {V : K → Type} [DecidableEq T] [DecidableEq K]

namespace Tx

def view (tx : Tx C R K V) (k : K) : Option (V k) := (tx.hold k).row (tx.seen k)

def execute (tx : Tx C R K V) (key : K) (eff : Effect (V key)) (e : Event C R) : Tx C R K V :=
  { tx with
    hold := Function.update tx.hold key ((tx.hold key).after eff)
    trace := tx.trace ++ [e]
    wrote := tx.wrote || eff.writes }

end Tx

namespace Engine

def start (rows : (k : K) → Option (V k)) : Engine T C R K V :=
  ⟨rows, fun _ => 0, fun _ => .idle, []⟩

variable (s : Engine T C R K V) (t : T)

def set (session : Session C R K V) : Engine T C R K V :=
  { s with session := Function.update s.session t session }

def tx : Option (Tx C R K V) :=
  match s.session t with
  | .opened => some { seen := s.rows, seenVersion := s.version }
  | .active tx => some tx
  | _ => none

def Unlocked (key : K) : Prop := ∀ t' tx, t' ≠ t → s.session t' = .active tx → tx.hold key = .free

def abort : Engine T C R K V :=
  match s.session t with
  | .idle => s
  | _ => s.set t .aborted

def perform (key : K) (eff : Effect (V key)) (e : Event C R) : Engine T C R K V :=
  match eff with
  | .write row =>
    { s with
      rows := Function.update s.rows key row
      version := Function.update s.version key (s.version key + 1)
      history := s.history ++ [⟨t, false, [e]⟩] }
  | _ => s

def commit (tx : Tx C R K V) : Engine T C R K V where
  rows k := (tx.hold k).row (s.rows k)
  version k := match tx.hold k with
    | .written _ => s.version k + 1
    | _ => s.version k
  session := Function.update s.session t .idle
  history := if tx.wrote then s.history ++ [⟨t, true, tx.trace⟩] else s.history

end Engine

namespace Dialect

variable (d : Dialect C R K V)

inductive Step (s : Engine T C R K V) : (c : On T C) → R c.call → Engine T C R K V → Prop
  | other {t : T} {c : C} {r : R c} : d.action c = .other → Step s ⟨t, c⟩ r s
  | begin {t : T} {c : C} {r : R c} :
    d.action c = .begin → s.session t = .idle → d.done c r = true → Step s ⟨t, c⟩ r (s.set t .opened)
  | beginFailed {t : T} {c : C} {r : R c} :
    d.action c = .begin → s.session t = .idle → d.fails c r → Step s ⟨t, c⟩ r s
  | execute {t : T} {c : C} {r : R c} {key : K} {run : Option (V key) → R c × Effect (V key)}
      {eff : Effect (V key)} {tx : Tx C R K V} :
    d.action c = .statement key run → s.tx t = some tx → run (tx.view key) = (r, eff) →
    d.done c r = true → (eff ≠ .read → s.Unlocked t key ∧ s.version key = tx.seenVersion key) →
    Step s ⟨t, c⟩ r (s.set t (.active (tx.execute key eff ⟨c, r⟩)))
  | perform {t : T} {c : C} {r : R c} {key : K} {run : Option (V key) → R c × Effect (V key)}
      {eff : Effect (V key)} :
    d.action c = .statement key run → s.session t = .idle → run (s.rows key) = (r, eff) →
    d.done c r = true → (eff ≠ .read → s.Unlocked t key) → Step s ⟨t, c⟩ r (s.perform t key eff ⟨c, r⟩)
  /-- The statement has been executed, but the answer is lost. -/
  | performInDoubt {t : T} {c : C} {r r₀ : R c} {key : K} {run : Option (V key) → R c × Effect (V key)}
      {eff : Effect (V key)} :
    d.action c = .statement key run → s.session t = .idle → run (s.rows key) = (r₀, eff) →
    d.done c r₀ = true → (eff ≠ .read → s.Unlocked t key) → d.fails c r →
    Step s ⟨t, c⟩ r (s.perform t key eff ⟨c, r₀⟩)
  | failed {t : T} {c : C} {r : R c} {key : K} {run : Option (V key) → R c × Effect (V key)} :
    d.action c = .statement key run → d.fails c r → Step s ⟨t, c⟩ r (s.abort t)
  | commit {t : T} {c : C} {r : R c} {tx : Tx C R K V} :
    d.action c = .commit → s.tx t = some tx → d.done c r = true ∨ d.fails c r →
    Step s ⟨t, c⟩ r (s.commit t tx)
  | commitFailed {t : T} {c : C} {r : R c} :
    d.action c = .commit → s.session t ≠ .idle → d.fails c r → Step s ⟨t, c⟩ r (s.set t .idle)
  | rollback {t : T} {c : C} {r : R c} :
    d.action c = .rollback → s.session t ≠ .idle → d.done c r = true ∨ d.fails c r →
    Step s ⟨t, c⟩ r (s.set t .idle)

/-! ## Serial execution -/

/-- The event is what a statement answers on these rows, and what it makes of them. -/
def Once (e : Event C R) (rows rows' : (k : K) → Option (V k)) : Prop :=
  ∃ key run eff, d.action e.call = .statement key run ∧ run (rows key) = (e.answer, eff) ∧
    rows' = Function.update rows key (eff.apply (rows key))

def Replay : ((k : K) → Option (V k)) → List (Event C R) → ((k : K) → Option (V k)) → Prop
  | rows, [], rows' => rows' = rows
  | rows, e :: u, rows' => ∃ rows₁, d.Once e rows rows₁ ∧ Replay rows₁ u rows'

def key (e : Event C R) : Option K :=
  match d.action e.call with
  | .statement key _ => some key
  | _ => none

def keys (u : List (Event C R)) : List K := u.filterMap d.key

/-- Whatever row it has seen, with this answer the statement has locked it. -/
def Locks (e : Event C R) (key : K) : Prop :=
  ∃ run, d.action e.call = .statement key run ∧ ∀ row eff, run row = (e.answer, eff) → eff ≠ .read

/-- Executed on these rows, one of the statements writes its row. -/
def WritesIn : ((k : K) → Option (V k)) → List (Event C R) → Prop
  | _, [] => False
  | rows, e :: u =>
    (∃ key run eff, d.action e.call = .statement key run ∧ run (rows key) = (e.answer, eff) ∧ eff.writes = true) ∨
      ∃ rows₁, d.Once e rows rows₁ ∧ WritesIn rows₁ u

/-- Wherever they have these answers, one of the statements writes its row. -/
def Modifies (u : List (Event C R)) : Prop := ∀ rows rows', d.Replay rows u rows' → d.WritesIn rows u

/-- Every row of the statements is locked by one of them. -/
def Covered (u : List (Event C R)) : Prop := ∀ k ∈ d.keys u, ∃ e ∈ u, d.Locks e k

/-- With these answers the statements have written no row. -/
def ReadOnly (u : List (Event C R)) : Prop :=
  ∀ e ∈ u, ∀ key run row eff, d.action e.call = .statement key run → run row = (e.answer, eff) →
    eff.writes = false

variable {d} {rows rows₁ rows' : (k : K) → Option (V k)} {u u' : List (Event C R)} {e : Event C R}

lemma replay_append : d.Replay rows (u ++ u') rows' ↔
    ∃ rows₁, d.Replay rows u rows₁ ∧ d.Replay rows₁ u' rows' := by
  induction u generalizing rows with
  | nil =>
    constructor
    · intro h
      exact ⟨rows, rfl, h⟩
    · rintro ⟨rows₁, rfl, h⟩
      exact h
  | cons e u ih =>
    constructor
    · rintro ⟨rows₁, hone, h⟩
      obtain ⟨rows₂, hu, hu'⟩ := ih.mp h
      exact ⟨rows₂, ⟨rows₁, hone, hu⟩, hu'⟩
    · rintro ⟨rows₂, ⟨rows₁, hone, hu⟩, hu'⟩
      exact ⟨rows₁, hone, ih.mpr ⟨rows₂, hu, hu'⟩⟩

lemma replay_single : d.Replay rows [e] rows' ↔ d.Once e rows rows' := by
  constructor
  · rintro ⟨rows₁, hone, rfl⟩
    exact hone
  · intro h
    exact ⟨rows', h, rfl⟩

omit [DecidableEq K] in
lemma key_eq {k : K} {run : Option (V k) → R e.call × Effect (V k)} (h : d.action e.call = .statement k run) :
    d.key e = some k := by
  unfold key
  rw [h]

lemma Once.effect (h : d.Once e rows rows') {key : K} {run : Option (V key) → R e.call × Effect (V key)}
    (haction : d.action e.call = .statement key run) :
    ∃ eff, run (rows key) = (e.answer, eff) ∧ rows' = Function.update rows key (eff.apply (rows key)) := by
  obtain ⟨key', run', eff, haction', hrun, hrows⟩ := h
  obtain ⟨rfl, hrr⟩ := Action.statement.inj (haction'.symm.trans haction)
  obtain rfl := eq_of_heq hrr
  exact ⟨eff, hrun, hrows⟩

lemma Once.unique (h : d.Once e rows rows₁) (h' : d.Once e rows rows') : rows₁ = rows' := by
  obtain ⟨key, run, eff, haction, hrun, rfl⟩ := h
  obtain ⟨eff', hrun', rfl⟩ := h'.effect haction
  rw [hrun] at hrun'
  cases hrun'
  rfl

lemma Replay.unique (h : d.Replay rows u rows₁) (h' : d.Replay rows u rows') : rows₁ = rows' := by
  induction u generalizing rows with
  | nil => exact Eq.trans h h'.symm
  | cons e u ih =>
    obtain ⟨m, hone, hu⟩ := h
    obtain ⟨m', hone', hu'⟩ := h'
    obtain rfl := hone.unique hone'
    exact ih hu hu'

lemma writesIn_concat (h : d.WritesIn rows (u ++ [e])) : d.WritesIn rows u ∨ ∃ rows₁, d.Replay rows u rows₁ ∧
    ∃ key run eff, d.action e.call = .statement key run ∧ run (rows₁ key) = (e.answer, eff) ∧
      eff.writes = true := by
  induction u generalizing rows with
  | nil =>
    rcases h with h | ⟨rows₁, -, hnil⟩
    · exact .inr ⟨rows, rfl, h⟩
    · exact hnil.elim
  | cons e' u ih =>
    rcases h with h | ⟨rows₁, hone, hu⟩
    · exact .inl (.inl h)
    · rcases ih hu with hu | ⟨rows₂, hreplay, hlast⟩
      · exact .inl (.inr ⟨rows₁, hone, hu⟩)
      · exact .inr ⟨rows₂, ⟨rows₁, hone, hreplay⟩, hlast⟩

lemma Once.untouched (h : d.Once e rows rows') {k : K} (hk : d.key e ≠ some k) : rows' k = rows k := by
  obtain ⟨key, run, eff, haction, -, rfl⟩ := h
  apply Function.update_of_ne
  rintro rfl
  exact hk (key_eq haction)

omit [DecidableEq K] in
lemma keys_cons_mem {k : K} : k ∈ d.keys (e :: u) ↔ d.key e = some k ∨ k ∈ d.keys u := by
  simp only [keys, List.mem_filterMap, List.mem_cons, exists_eq_or_imp]

lemma Replay.untouched (h : d.Replay rows u rows') {k : K} (hk : k ∉ d.keys u) : rows' k = rows k := by
  induction u generalizing rows with
  | nil => rw [h]
  | cons e u ih =>
    obtain ⟨rows₁, hone, hu⟩ := h
    rw [keys_cons_mem, not_or] at hk
    rw [ih hu hk.2, hone.untouched hk.1]

lemma Replay.congr {base : (k : K) → Option (V k)} (h : d.Replay rows u rows')
    (hbase : ∀ k ∈ d.keys u, base k = rows k) :
    d.Replay base u (fun k => if k ∈ d.keys u then rows' k else base k) := by
  induction u generalizing rows base with
  | nil => rfl
  | cons e u ih =>
    obtain ⟨rows₁, ⟨key, run, eff, haction, hrun, rfl⟩, hu⟩ := h
    have hkey : base key = rows key := hbase key (keys_cons_mem.mpr (.inl (key_eq haction)))
    refine ⟨Function.update base key (eff.apply (base key)), ⟨key, run, eff, haction, ?_, rfl⟩, ?_⟩
    · rw [hkey, hrun]
    have hupdated : ∀ k ∈ d.keys u, Function.update base key (eff.apply (base key)) k =
        Function.update rows key (eff.apply (rows key)) k := by
      intro k hk
      by_cases hkk : k = key
      · subst hkk
        rw [Function.update_self, Function.update_self, hkey]
      · rw [Function.update_of_ne hkk, Function.update_of_ne hkk]
        exact hbase k (keys_cons_mem.mpr (.inr hk))
    convert ih hu hupdated using 1
    funext k
    by_cases hk : k ∈ d.keys u
    · rw [if_pos hk, if_pos (keys_cons_mem.mpr (.inr hk))]
    · rw [if_neg hk]
      by_cases hkk : k = key
      · subst hkk
        rw [if_pos (keys_cons_mem.mpr (.inl (key_eq haction))), hu.untouched hk, Function.update_self,
          Function.update_self, hkey]
      · rw [if_neg, Function.update_of_ne hkk]
        rw [keys_cons_mem, not_or, key_eq haction]
        exact ⟨fun h => hkk (Option.some.inj h).symm, hk⟩

section Units

omit [DecidableEq T]

variable {J : ((k : K) → Option (V k)) → Prop} {l : List (Committed T C R)}

lemma Replay.keeps (h : d.Replay rows (l.flatMap Committed.trace) rows') (hJ : J rows)
    (hkeep : ∀ e ∈ l, ∀ rows rows', d.Replay rows e.trace rows' → J rows → J rows') : J rows' := by
  induction l generalizing rows with
  | nil =>
    rw [h]
    exact hJ
  | cons e l ih =>
    rw [List.flatMap_cons] at h
    obtain ⟨rows₁, he, hl⟩ := replay_append.mp h
    exact ih hl (hkeep e List.mem_cons_self _ _ he hJ) (fun e' he' => hkeep e' (List.mem_cons_of_mem _ he'))

lemma Replay.keeps_each {J : ((k : K) → Option (V k)) → Prop} (h : d.Replay rows u rows') (hJ : J rows)
    (hkeep : ∀ e ∈ u, ∀ rows rows', d.Once e rows rows' → J rows → J rows') : J rows' := by
  induction u generalizing rows with
  | nil =>
    rw [h]
    exact hJ
  | cons e u ih =>
    obtain ⟨rows₁, hone, hu⟩ := h
    exact ih hu (hkeep e List.mem_cons_self _ _ hone hJ) (fun e' he' => hkeep e' (List.mem_cons_of_mem _ he'))

lemma Replay.foldl {k : K} (h : d.Replay rows (l.flatMap Committed.trace) rows')
    (f : Committed T C R → Option (V k) → Option (V k))
    (hf : ∀ e ∈ l, ∀ rows rows', d.Replay rows e.trace rows' → rows' k = f e (rows k)) :
    rows' k = l.foldl (fun row e => f e row) (rows k) := by
  induction l generalizing rows with
  | nil => rw [h]; rfl
  | cons e l ih =>
    rw [List.flatMap_cons] at h
    obtain ⟨rows₁, he, hl⟩ := replay_append.mp h
    rw [ih hl (fun e' he' => hf e' (List.mem_cons_of_mem _ he')), hf e List.mem_cons_self _ _ he]
    rfl

end Units

end Dialect

/-! ## The invariant of the engine -/

section Lemmas

variable {V : Type} {h : Hold V} {eff : Effect V}

lemma Hold.row_after (row : Option V) : (h.after eff).row row = eff.apply (h.row row) := by
  cases h <;> cases eff <;> rfl

lemma Hold.after_ne_free (hne : h.after eff ≠ .free) : h ≠ .free ∨ eff ≠ .read := by
  cases eff with
  | read =>
    cases h with
    | free => exact absurd rfl hne
    | locked => exact .inl nofun
    | written row => exact .inl nofun
  | lock => exact .inr nofun
  | write row => exact .inr nofun

lemma Hold.ne_free_after (hne : h ≠ .free ∨ eff ≠ .read) : h.after eff ≠ .free := by
  cases h <;> cases eff <;> simp_all [Hold.after]

end Lemmas

namespace Tx

variable {tx : Tx C R K V} {key k : K} {eff : Effect (V key)} {e : Event C R}

lemma execute_hold_self : (tx.execute key eff e).hold key = (tx.hold key).after eff := Function.update_self ..

lemma execute_hold_of_ne (hk : k ≠ key) : (tx.execute key eff e).hold k = tx.hold k := Function.update_of_ne hk ..

lemma execute_wrote : (tx.execute key eff e).wrote = true ↔
    tx.wrote = true ∨ eff.writes = true := Bool.or_eq_true_iff

lemma view_execute : (tx.execute key eff e).view = Function.update tx.view key (eff.apply (tx.view key)) := by
  funext k
  by_cases hk : k = key
  · subst hk
    rw [Function.update_self, view, execute_hold_self, Hold.row_after]
    rfl
  · rw [Function.update_of_ne hk, view, execute_hold_of_ne hk]
    rfl

end Tx

namespace Engine

omit [DecidableEq K]

variable {s : Engine T C R K V} {t t' : T} {session : Session C R K V} {tx : Tx C R K V}

lemma set_session_self : (s.set t session).session t = session := Function.update_self ..

lemma set_session_of_ne (h : t' ≠ t) : (s.set t session).session t' = s.session t' := Function.update_of_ne h ..

lemma abort_idle (h : s.session t = .idle) : s.abort t = s := by
  unfold abort
  rw [h]

lemma abort_of_ne (h : s.session t ≠ .idle) : s.abort t = s.set t .aborted := by
  unfold abort
  split
  · rename_i hidle
    exact absurd hidle h
  · rfl

lemma commit_rows (k : K) : (s.commit t tx).rows k = (tx.hold k).row (s.rows k) := rfl

lemma commit_session_self : (s.commit t tx).session t = .idle := Function.update_self ..

lemma commit_session_of_ne (h : t' ≠ t) : (s.commit t tx).session t' = s.session t' := Function.update_of_ne h ..

end Engine

variable (d : Dialect C R K V)

/-- What holds of an open transaction, whatever the other sessions do. -/
structure TxInv (s : Engine T C R K V) (tx : Tx C R K V) : Prop where
  replay : d.Replay tx.seen tx.trace tx.view
  version_le : ∀ k, tx.seenVersion k ≤ s.version k
  unchanged : ∀ k, s.version k = tx.seenVersion k → s.rows k = tx.seen k
  held_unchanged : ∀ k, tx.hold k ≠ .free → s.version k = tx.seenVersion k
  locked_held : ∀ e ∈ tx.trace, ∀ k, d.Locks e k → tx.hold k ≠ .free
  held_touched : ∀ k, tx.hold k ≠ .free → k ∈ d.keys tx.trace
  written : ∀ k row, tx.hold k = .written row → tx.wrote = true
  wrote : tx.wrote = true → ¬ d.ReadOnly tx.trace
  writes : d.WritesIn tx.seen tx.trace → tx.wrote = true

structure EngineInv (rows₀ : (k : K) → Option (V k)) (s : Engine T C R K V) : Prop where
  serial : d.Replay rows₀ (s.history.flatMap Committed.trace) s.rows
  tx : ∀ t tx, s.session t = .active tx → TxInv d s tx
  apart : ∀ t t' tx tx', t ≠ t' → s.session t = .active tx → s.session t' = .active tx' →
    ∀ k, tx.hold k ≠ .free → tx'.hold k = .free

variable {d} {s : Engine T C R K V} {rows₀ : (k : K) → Option (V k)} {t : T} {tx : Tx C R K V}

omit [DecidableEq T] in
lemma EngineInv.start : EngineInv d rows₀ (Engine.start rows₀ : Engine T C R K V) :=
  ⟨rfl, nofun, nofun⟩

omit [DecidableEq T] in
lemma TxInv.fresh : TxInv d s { seen := s.rows, seenVersion := s.version } where
  replay := rfl
  version_le _ := Nat.le_refl _
  unchanged _ _ := rfl
  held_unchanged _ h := absurd rfl h
  locked_held _ h := nomatch h
  held_touched _ h := absurd rfl h
  written _ _ h := nomatch h
  wrote h := nomatch h
  writes h := nomatch h

omit [DecidableEq T] in
lemma EngineInv.of_tx (h : EngineInv d rows₀ s) (htx : s.tx t = some tx) :
    TxInv d s tx ∧ ∀ t' tx', t' ≠ t → s.session t' = .active tx' → ∀ k, tx.hold k ≠ .free →
      tx'.hold k = .free := by
  unfold Engine.tx at htx
  split at htx
  · cases htx
    exact ⟨.fresh, fun t' tx' _ _ k hk => absurd rfl hk⟩
  · rename_i hsession
    cases htx
    exact ⟨h.tx t tx hsession, fun t' tx' hne hs' => h.apart t t' tx tx' hne.symm hsession hs'⟩
  · cases htx

lemma EngineInv.set (h : EngineInv d rows₀ s) {session : Session C R K V} (hsession : ∀ tx, session ≠ .active tx) :
    EngineInv d rows₀ (s.set t session) := by
  have hactive : ∀ t' tx', (s.set t session).session t' = .active tx' → s.session t' = .active tx' := by
    intro t' tx' ht'
    by_cases htt : t' = t
    · subst htt
      rw [Engine.set_session_self] at ht'
      exact absurd ht' (hsession tx')
    · rwa [Engine.set_session_of_ne htt] at ht'
  refine ⟨h.serial, fun t' tx' ht' => ?_, fun t₁ t₂ tx₁ tx₂ hne h₁ h₂ => ?_⟩
  · exact { h.tx t' tx' (hactive t' tx' ht') with }
  · exact h.apart t₁ t₂ tx₁ tx₂ hne (hactive _ _ h₁) (hactive _ _ h₂)

lemma EngineInv.abort (h : EngineInv d rows₀ s) : EngineInv d rows₀ (s.abort t) := by
  unfold Engine.abort
  split
  · exact h
  · exact h.set nofun

section Execute

variable {c : C} {r : R c} {key : K} {run : Option (V key) → R c × Effect (V key)} {eff : Effect (V key)}

omit [DecidableEq T] in
lemma TxInv.execute (h : TxInv d s tx) (haction : d.action c = .statement key run)
    (hrun : run (tx.view key) = (r, eff)) (hversion : eff ≠ .read → s.version key = tx.seenVersion key) :
    TxInv d s (tx.execute key eff ⟨c, r⟩) := by
  have hheld : ∀ k, (tx.execute key eff ⟨c, r⟩).hold k ≠ .free → tx.hold k ≠ .free ∨ k = key ∧ eff ≠ .read := by
    intro k hk
    by_cases hkk : k = key
    · subst hkk
      rw [Tx.execute_hold_self] at hk
      exact (Hold.after_ne_free hk).imp id (fun heff => ⟨rfl, heff⟩)
    · rw [Tx.execute_hold_of_ne hkk] at hk
      exact .inl hk
  have hstays : ∀ k, tx.hold k ≠ .free → (tx.execute key eff ⟨c, r⟩).hold k ≠ .free := by
    intro k hk
    by_cases hkk : k = key
    · subst hkk
      rw [Tx.execute_hold_self]
      exact Hold.ne_free_after (.inl hk)
    · rwa [Tx.execute_hold_of_ne hkk]
  have hkeys : d.keys (tx.trace ++ [⟨c, r⟩]) = d.keys tx.trace ++ [key] := by
    rw [Dialect.keys, List.filterMap_append, Dialect.keys]
    simp [Dialect.key, haction]
  refine ⟨?_, h.version_le, h.unchanged, ?_, ?_, ?_, ?_, ?_, ?_⟩
  · rw [Tx.view_execute]
    exact Dialect.replay_append.mpr ⟨tx.view, h.replay,
      Dialect.replay_single.mpr ⟨key, run, eff, haction, hrun, rfl⟩⟩
  · intro k hk
    rcases hheld k hk with hk | ⟨rfl, heff⟩
    · exact h.held_unchanged k hk
    · exact hversion heff
  · intro e he k hlocks
    rcases List.mem_append.mp he with he | he
    · exact hstays k (h.locked_held e he k hlocks)
    · obtain rfl := List.mem_singleton.mp he
      obtain ⟨run', haction', hlock⟩ := hlocks
      obtain ⟨rfl, hrr⟩ := Action.statement.inj (haction.symm.trans haction')
      obtain rfl := eq_of_heq hrr
      rw [Tx.execute_hold_self]
      exact Hold.ne_free_after (.inr (hlock _ _ hrun))
  · intro k hk
    rw [Tx.execute, hkeys]
    rcases hheld k hk with hk | ⟨rfl, -⟩
    · exact List.mem_append_left _ (h.held_touched k hk)
    · exact List.mem_append_right _ List.mem_cons_self
  · intro k row hk
    rw [Tx.execute_wrote]
    by_cases hkk : k = key
    · subst hkk
      rw [Tx.execute_hold_self] at hk
      cases eff with
      | read => exact .inl (h.written k row hk)
      | lock =>
        left
        cases hhold : tx.hold k with
        | free =>
          rw [hhold] at hk
          cases hk
        | locked =>
          rw [hhold] at hk
          cases hk
        | written row' => exact h.written k row' hhold
      | write row' => exact .inr rfl
    · rw [Tx.execute_hold_of_ne hkk] at hk
      exact .inl (h.written k row hk)
  · intro hwrote hread
    rw [Tx.execute_wrote] at hwrote
    rcases hwrote with hwrote | hwrote
    · exact h.wrote hwrote (fun e he => hread e (List.mem_append_left _ he))
    · rw [hread ⟨c, r⟩ (List.mem_append_right _ List.mem_cons_self) key run _ eff haction hrun] at hwrote
      cases hwrote
  · intro hwrites
    rw [Tx.execute_wrote]
    rcases Dialect.writesIn_concat hwrites with hwrites | ⟨rows, hreplay, hlast⟩
    · exact .inl (h.writes hwrites)
    · obtain rfl := h.replay.unique hreplay
      obtain ⟨key', run', eff', haction', hrun', hwrite⟩ := hlast
      obtain ⟨rfl, hrr⟩ := Action.statement.inj (haction.symm.trans haction')
      obtain rfl := eq_of_heq hrr
      rw [hrun] at hrun'
      cases hrun'
      exact .inr hwrite

lemma EngineInv.execute (h : EngineInv d rows₀ s) (haction : d.action c = .statement key run)
    (htx : s.tx t = some tx) (hrun : run (tx.view key) = (r, eff))
    (hlock : eff ≠ .read → s.Unlocked t key ∧ s.version key = tx.seenVersion key) :
    EngineInv d rows₀ (s.set t (.active (tx.execute key eff ⟨c, r⟩))) := by
  obtain ⟨htxinv, hapart⟩ := h.of_tx htx
  have hnew : TxInv d s (tx.execute key eff ⟨c, r⟩) := htxinv.execute haction hrun (fun heff => (hlock heff).2)
  -- Where the transaction holds a row now, no other one does.
  have hothers : ∀ t' tx', t' ≠ t → s.session t' = .active tx' →
      ∀ k, (tx.execute key eff ⟨c, r⟩).hold k ≠ .free → tx'.hold k = .free := by
    intro t' tx' hne hs' k hk
    by_cases hkk : k = key
    · subst hkk
      rw [Tx.execute_hold_self] at hk
      rcases Hold.after_ne_free hk with hk | heff
      · exact hapart t' tx' hne hs' k hk
      · exact (hlock heff).1 t' tx' hne hs'
    · rw [Tx.execute_hold_of_ne hkk] at hk
      exact hapart t' tx' hne hs' k hk
  refine ⟨h.serial, fun t' tx' ht' => ?_, fun t₁ t₂ tx₁ tx₂ hne h₁ h₂ k hk => ?_⟩
  · by_cases htt : t' = t
    · subst htt
      rw [Engine.set_session_self] at ht'
      cases ht'
      exact { hnew with }
    · rw [Engine.set_session_of_ne htt] at ht'
      exact { h.tx t' tx' ht' with }
  · by_cases ht₁ : t₁ = t
    · subst ht₁
      rw [Engine.set_session_self] at h₁
      rw [Engine.set_session_of_ne hne.symm] at h₂
      cases h₁
      exact hothers t₂ tx₂ hne.symm h₂ k hk
    · rw [Engine.set_session_of_ne ht₁] at h₁
      by_cases ht₂ : t₂ = t
      · subst ht₂
        rw [Engine.set_session_self] at h₂
        cases h₂
        by_contra hk₂
        exact hk (hothers t₁ tx₁ ht₁ h₁ k hk₂)
      · rw [Engine.set_session_of_ne ht₂] at h₂
        exact h.apart t₁ t₂ tx₁ tx₂ hne h₁ h₂ k hk

omit [DecidableEq T] in
lemma TxInv.advance {s' : Engine T C R K V} (h : TxInv d s tx) (hle : ∀ k, s.version k ≤ s'.version k)
    (hrows : ∀ k, s'.version k = s.version k → s'.rows k = s.rows k)
    (hheld : ∀ k, tx.hold k ≠ .free → s'.version k = s.version k) : TxInv d s' tx where
  replay := h.replay
  version_le k := Nat.le_trans (h.version_le k) (hle k)
  unchanged k hk := by
    have hseen := h.version_le k
    have hs := hle k
    have hsame : s'.version k = s.version k := by omega
    rw [hrows k hsame, h.unchanged k (by omega)]
  held_unchanged k hk := (hheld k hk).trans (h.held_unchanged k hk)
  locked_held := h.locked_held
  held_touched := h.held_touched
  written := h.written
  wrote := h.wrote
  writes := h.writes

omit [DecidableEq T] in
lemma EngineInv.perform (h : EngineInv d rows₀ s) (haction : d.action c = .statement key run)
    (hidle : s.session t = .idle) (hrun : run (s.rows key) = (r, eff)) (hlock : eff ≠ .read → s.Unlocked t key) :
    EngineInv d rows₀ (s.perform t key eff ⟨c, r⟩) := by
  cases eff with
  | read => exact h
  | lock => exact h
  | write row =>
    refine ⟨?_, fun t' tx' ht' => ?_, h.apart⟩
    · unfold Engine.perform
      dsimp only
      rw [List.flatMap_append]
      exact Dialect.replay_append.mpr ⟨s.rows, h.serial,
        Dialect.replay_single.mpr ⟨key, run, .write row, haction, hrun, rfl⟩⟩
    · have hne : t' ≠ t := by
        rintro rfl
        have hactive : s.session t' = .active tx' := ht'
        rw [hidle] at hactive
        cases hactive
      have hfree : tx'.hold key = .free := hlock nofun t' tx' hne ht'
      apply (h.tx t' tx' ht').advance
      · intro k
        by_cases hk : k = key
        · subst hk
          simp [Engine.perform]
        · simp [Engine.perform, hk]
      · intro k hk
        by_cases hkk : k = key
        · subst hkk
          simp [Engine.perform] at hk
        · simp [Engine.perform, hkk]
      · intro k hk
        by_cases hkk : k = key
        · subst hkk
          exact absurd hfree hk
        · simp [Engine.perform, hkk]

end Execute

lemma TxInv.replay_commit (h : TxInv d s tx) (hcovered : d.Covered tx.trace) :
    d.Replay s.rows tx.trace (s.commit t tx).rows := by
  have hheld : ∀ k ∈ d.keys tx.trace, s.rows k = tx.seen k := by
    intro k hk
    obtain ⟨e, he, hlocks⟩ := hcovered k hk
    exact h.unchanged k (h.held_unchanged k (h.locked_held e he k hlocks))
  have hreplay := h.replay.congr hheld
  convert hreplay using 1
  funext k
  by_cases hk : k ∈ d.keys tx.trace
  · rw [if_pos hk, Engine.commit_rows, Tx.view, hheld k hk]
  · have hfree : tx.hold k = .free := by
      by_contra hne
      exact hk (h.held_touched k hne)
    rw [if_neg hk, Engine.commit_rows, hfree]
    rfl

lemma EngineInv.commit (h : EngineInv d rows₀ s) (htx : s.tx t = some tx)
    (hcovered : d.ReadOnly tx.trace ∨ d.Covered tx.trace) : EngineInv d rows₀ (s.commit t tx) := by
  obtain ⟨htxinv, hapart⟩ := h.of_tx htx
  have hactive : ∀ t' tx', (s.commit t tx).session t' = .active tx' → t' ≠ t ∧ s.session t' = .active tx' := by
    intro t' tx' ht'
    by_cases htt : t' = t
    · subst htt
      rw [Engine.commit_session_self] at ht'
      cases ht'
    · rw [Engine.commit_session_of_ne htt] at ht'
      exact ⟨htt, ht'⟩
  have hversion : ∀ k, (s.commit t tx).version k = s.version k ∨
      ((s.commit t tx).version k = s.version k + 1 ∧ tx.hold k ≠ .free) := by
    intro k
    unfold Engine.commit
    dsimp only
    split
    · rename_i row hk
      exact .inr ⟨rfl, by rw [hk]; nofun⟩
    · exact .inl rfl
  have hrows : ∀ k, (s.commit t tx).version k = s.version k → (s.commit t tx).rows k = s.rows k := by
    intro k hk
    unfold Engine.commit at hk ⊢
    dsimp only at hk ⊢
    cases hhold : tx.hold k with
    | free => rfl
    | locked => rfl
    | written row =>
      rw [hhold] at hk
      dsimp only at hk
      omega
  refine ⟨?_, fun t' tx' ht' => ?_, fun t₁ t₂ tx₁ tx₂ hne h₁ h₂ => ?_⟩
  · cases hwrote : tx.wrote with
    | true =>
      have hhistory : (s.commit t tx).history = s.history ++ [⟨t, true, tx.trace⟩] := by
        rw [Engine.commit, hwrote, if_pos rfl]
      rw [hhistory, List.flatMap_append]
      refine Dialect.replay_append.mpr ⟨s.rows, h.serial, ?_⟩
      have hlocked : d.Covered tx.trace := hcovered.resolve_left (htxinv.wrote hwrote)
      simpa using htxinv.replay_commit (t := t) hlocked
    | false =>
      have hhistory : (s.commit t tx).history = s.history := by
        rw [Engine.commit, hwrote]
        rfl
      have hsame : (s.commit t tx).rows = s.rows := by
        funext k
        unfold Engine.commit
        dsimp only
        cases hhold : tx.hold k with
        | free => rfl
        | locked => rfl
        | written row =>
          have := htxinv.written k row hhold
          rw [hwrote] at this
          cases this
      rw [hhistory, hsame]
      exact h.serial
  · obtain ⟨hne, hs'⟩ := hactive t' tx' ht'
    apply (h.tx t' tx' hs').advance _ hrows
    · intro k hk
      rcases hversion k with hk' | ⟨-, hheld⟩
      · exact hk'
      · exact absurd (hapart t' tx' hne hs' k hheld) hk
    · intro k
      rcases hversion k with hk | ⟨hk, -⟩
      · exact Nat.le_of_eq hk.symm
      · omega
  · exact h.apart t₁ t₂ tx₁ tx₂ hne (hactive _ _ h₁).2 (hactive _ _ h₂).2

end Relational
