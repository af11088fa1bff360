import WalletManager.Interaction.Protocol
import WalletManager.Relational.Snapshot

/-!
# Clients of an engine with transactions

The protocol between a client and its session: which statements the client executes outside a
transaction, and which transactions it asks the engine to commit. If every program that runs conforms to
such rules, then in every interleaving of their calls the engine's history is serial and is made of
what the rules allow.
-/

namespace Relational

open Interaction

section Client

variable (C : Type) (R : C → Type)

inductive Phase
  | idle
  | running (u : List (Event C R))
  | failed
  /-- The engine cannot have given the last answer. -/
  | unreachable

structure Client where
  phase : Phase C R := .idle
  /-- The transactions that it has asked to commit. -/
  attempted : List (List (Event C R)) := []
  /-- The statements and transactions that have been acknowledged. -/
  finished : List (List (Event C R)) := []

/-- The statements that a client may execute outside a transaction, and the transactions that it may
commit after the ones that it has tried before. -/
structure Rules where
  auto : C → Prop
  tx : List (List (Event C R)) → List (Event C R) → Prop

variable {C R}

def Client.events (g : Client C R) : List (Event C R) :=
  match g.phase with
  | .running u => u ++ g.finished.flatten
  | _ => g.finished.flatten

lemma Client.mem_events {g : Client C R} {u : List (Event C R)} {e : Event C R} (hu : u ∈ g.finished)
    (he : e ∈ u) :
    e ∈ g.events := by
  have hflatten : e ∈ g.finished.flatten := List.mem_flatten.mpr ⟨u, hu, he⟩
  unfold Client.events
  split
  · exact List.mem_append_right _ hflatten
  · exact hflatten

end Client

variable {T C : Type} {R : C → Type} {K : Type} {V : K → Type}

def Session.phase : Session C R K V → Phase C R
  | idle => .idle
  | opened => .running []
  | active tx => .running tx.trace
  | aborted => .failed

namespace Dialect

variable (d : Dialect C R K V)

def advance (g : Client C R) (c : C) (r : R c) : Client C R :=
  match d.action c, g.phase with
  | .begin, .idle => if d.done c r then { g with phase := .running [] } else g
  | .statement _ _, .idle => if d.done c r then { g with finished := g.finished ++ [[⟨c, r⟩]] } else g
  | .statement _ _, .running u =>
    { g with phase := if d.done c r then .running (u ++ [⟨c, r⟩]) else .failed }
  | .statement _ _, .failed => { g with phase := if d.done c r then .unreachable else .failed }
  | .commit, .running u =>
    { phase := .idle
      attempted := g.attempted ++ [u]
      finished := if d.done c r then g.finished ++ [u] else g.finished }
  | .commit, .failed => { g with phase := if d.done c r then .unreachable else .idle }
  | .rollback, .running _ | .rollback, .failed => { g with phase := .idle }
  | _, _ => g

def Admits (rules : Rules C R) (g : Client C R) (c : C) : Prop :=
  match d.action c, g.phase with
  | .statement _ _, .idle => rules.auto c
  | .commit, .running u => (d.ReadOnly u ∨ d.Covered u) ∧ rules.tx g.attempted u
  | .begin, .running _ | .begin, .failed | .commit, .idle | .rollback, .idle => False
  | _, _ => True

def Answers (c : C) (r : R c) : Prop := d.action c = .other ∨ d.done c r = true ∨ d.fails c r

def client (t : T) (rules : Rules C R) : Protocol (On T C) (On.Answer R) (Client C R) where
  possible c r := d.Answers c.call r
  next g c r g' := c.session = t ∧ d.Admits rules g c.call ∧ g' = d.advance g c.call r

variable {d} {t : T} {rules : Rules C R} {g : Client C R} {c : C} {α : Type}

lemma conforms_call {k : R c → Prog (On T C) (On.Answer R) α} {Q : Client C R → α → Prop}
    (hadmits : d.Admits rules g c)
    (hk : ∀ r, d.Answers c r → Conforms (d.client t rules) (k r) (d.advance g c r) Q) :
    Conforms (d.client t rules) (.call ⟨t, c⟩ k) g Q :=
  fun r hr => ⟨d.advance g c r, ⟨rfl, hadmits, rfl⟩, hk r hr⟩

lemma Answers.cases {r : R c} (h : d.Answers c r) (haction : d.action c ≠ .other) :
    d.done c r = true ∨ d.fails c r := h.resolve_left haction

section Calls

variable {k : R c → Prog (On T C) (On.Answer R) α} {Q : Client C R → α → Prop} {u : List (Event C R)}
  {key : K} {run : Option (V key) → R c × Effect (V key)}

lemma conforms_begin (haction : d.action c = .begin) (hphase : g.phase = .idle)
    (hdone : ∀ r, d.done c r = true → Conforms (d.client t rules) (k r) { g with phase := .running [] } Q)
    (hfailed : ∀ r, d.fails c r → Conforms (d.client t rules) (k r) g Q) :
    Conforms (d.client t rules) (.call ⟨t, c⟩ k) g Q := by
  refine conforms_call (by simp [Admits, haction, hphase]) (fun r hr => ?_)
  rcases hr.cases (by rw [haction]; simp) with hr | hr
  · simpa [advance, haction, hphase, hr] using hdone r hr
  · simpa [advance, haction, hphase, d.not_done c r hr] using hfailed r hr

lemma conforms_auto (haction : d.action c = .statement key run) (hphase : g.phase = .idle) (hauto : rules.auto c)
    (hdone : ∀ r, d.done c r = true →
      Conforms (d.client t rules) (k r) { g with finished := g.finished ++ [[⟨c, r⟩]] } Q)
    (hfailed : ∀ r, d.fails c r → Conforms (d.client t rules) (k r) g Q) :
    Conforms (d.client t rules) (.call ⟨t, c⟩ k) g Q := by
  refine conforms_call (by simpa [Admits, haction, hphase] using hauto) (fun r hr => ?_)
  rcases hr.cases (by rw [haction]; simp) with hr | hr
  · simpa [advance, haction, hphase, hr] using hdone r hr
  · simpa [advance, haction, hphase, d.not_done c r hr] using hfailed r hr

lemma conforms_statement (haction : d.action c = .statement key run) (hphase : g.phase = .running u)
    (hdone : ∀ r, d.done c r = true →
      Conforms (d.client t rules) (k r) { g with phase := .running (u ++ [⟨c, r⟩]) } Q)
    (hfailed : ∀ r, d.fails c r → Conforms (d.client t rules) (k r) { g with phase := .failed } Q) :
    Conforms (d.client t rules) (.call ⟨t, c⟩ k) g Q := by
  refine conforms_call (by simp [Admits, haction, hphase]) (fun r hr => ?_)
  rcases hr.cases (by rw [haction]; simp) with hr | hr
  · simpa [advance, haction, hphase, hr] using hdone r hr
  · simpa [advance, haction, hphase, d.not_done c r hr] using hfailed r hr

lemma conforms_refused (haction : d.action c = .statement key run) (hphase : g.phase = .failed)
    (hdone : ∀ r, d.done c r = true → Conforms (d.client t rules) (k r) { g with phase := .unreachable } Q)
    (hfailed : ∀ r, d.fails c r → Conforms (d.client t rules) (k r) { g with phase := .failed } Q) :
    Conforms (d.client t rules) (.call ⟨t, c⟩ k) g Q := by
  refine conforms_call (by simp [Admits, haction, hphase]) (fun r hr => ?_)
  rcases hr.cases (by rw [haction]; simp) with hr | hr
  · simpa [advance, haction, hphase, hr] using hdone r hr
  · simpa [advance, haction, hphase, d.not_done c r hr] using hfailed r hr

lemma conforms_commit (haction : d.action c = .commit) (hphase : g.phase = .running u)
    (hlocked : d.ReadOnly u ∨ d.Covered u) (htx : rules.tx g.attempted u)
    (hdone : ∀ r, d.done c r = true → Conforms (d.client t rules) (k r)
      { phase := .idle, attempted := g.attempted ++ [u], finished := g.finished ++ [u] } Q)
    (hfailed : ∀ r, d.fails c r → Conforms (d.client t rules) (k r)
      { g with phase := .idle, attempted := g.attempted ++ [u] } Q) :
    Conforms (d.client t rules) (.call ⟨t, c⟩ k) g Q := by
  refine conforms_call (by simpa [Admits, haction, hphase] using ⟨hlocked, htx⟩) (fun r hr => ?_)
  rcases hr.cases (by rw [haction]; simp) with hr | hr
  · simpa [advance, haction, hphase, hr] using hdone r hr
  · simpa [advance, haction, hphase, d.not_done c r hr] using hfailed r hr

lemma conforms_commit_refused (haction : d.action c = .commit) (hphase : g.phase = .failed)
    (hdone : ∀ r, d.done c r = true → Conforms (d.client t rules) (k r) { g with phase := .unreachable } Q)
    (hfailed : ∀ r, d.fails c r → Conforms (d.client t rules) (k r) { g with phase := .idle } Q) :
    Conforms (d.client t rules) (.call ⟨t, c⟩ k) g Q := by
  refine conforms_call (by simp [Admits, haction, hphase]) (fun r hr => ?_)
  rcases hr.cases (by rw [haction]; simp) with hr | hr
  · simpa [advance, haction, hphase, hr] using hdone r hr
  · simpa [advance, haction, hphase, d.not_done c r hr] using hfailed r hr

lemma conforms_rollback (haction : d.action c = .rollback) (hphase : g.phase = .failed ∨ ∃ u, g.phase = .running u)
    (hk : ∀ r, Conforms (d.client t rules) (k r) { g with phase := .idle } Q) :
    Conforms (d.client t rules) (.call ⟨t, c⟩ k) g Q := by
  rcases hphase with hphase | ⟨u, hphase⟩
  · refine conforms_call (by simp [Admits, haction, hphase]) (fun r _ => ?_)
    simpa [advance, haction, hphase] using hk r
  · refine conforms_call (by simp [Admits, haction, hphase]) (fun r _ => ?_)
    simpa [advance, haction, hphase] using hk r

end Calls

lemma conforms_other {k : R c → Prog (On T C) (On.Answer R) α} {Q : Client C R → α → Prop}
    (haction : d.action c = .other) (hk : ∀ r, Conforms (d.client t rules) (k r) g Q) :
    Conforms (d.client t rules) (.call ⟨t, c⟩ k) g Q := by
  refine conforms_call ?_ ?_
  · unfold Admits
    rw [haction]
    trivial
  · intro r _
    have hsame : d.advance g c r = g := by
      unfold advance
      rw [haction]
    rw [hsame]
    exact hk r

lemma conforms_unreachable {p : Prog (On T C) (On.Answer R) α} {Q : Client C R → α → Prop}
    (hp : p.AllCalls (fun c => c.session = t)) (hg : g.phase = .unreachable)
    (hQ : ∀ g a, g.phase = .unreachable → Q g a) : Conforms (d.client t rules) p g Q := by
  induction p with
  | ret a => exact hQ g a hg
  | call c k ih =>
    intro r _
    refine ⟨g, ⟨hp.1, ?_, ?_⟩, ih r (hp.2 r)⟩
    · unfold Admits
      rw [hg]
      cases d.action c.call <;> trivial
    · unfold advance
      rw [hg]
      cases d.action c.call <;> rfl

lemma advance_events (g : Client C R) (c : C) (r : R c) {e : Event C R} (he : e ∈ (d.advance g c r).events) :
    e ∈ g.events ∨ e = ⟨c, r⟩ := by
  unfold advance at he
  unfold Client.events at he ⊢
  cases haction : d.action c <;> cases hphase : g.phase <;> cases hdone : d.done c r <;>
    simp_all [or_comm, or_left_comm]

lemma advance_finished (g : Client C R) (c : C) (r : R c) {u : List (Event C R)} (hu : u ∈ g.finished) :
    u ∈ (d.advance g c r).finished := by
  unfold advance
  cases d.action c <;> cases g.phase <;> cases d.done c r <;> simp [hu]

lemma conforms_finished {p : Prog (On T C) (On.Answer R) α} {Q : Client C R → α → Prop}
    (h : Conforms (d.client t rules) p g Q) :
    Conforms (d.client t rules) p g (fun g' a => Q g' a ∧ ∀ u ∈ g.finished, u ∈ g'.finished) := by
  induction p generalizing g with
  | ret a => exact ⟨h, fun _ hu => hu⟩
  | call c k ih =>
    intro r hr
    obtain ⟨g', ⟨hsession, hadmits, rfl⟩, hk⟩ := h r hr
    refine ⟨_, ⟨hsession, hadmits, rfl⟩, (ih r hk).mono ?_⟩
    rintro g'' a ⟨hQ, hfinished⟩
    exact ⟨hQ, fun u hu => hfinished u (advance_finished g c.call r hu)⟩

end Dialect

/-! ## The history of an engine and its clients -/

variable [DecidableEq T]

def Engine.txs (s : Engine T C R K V) (t : T) : List (List (Event C R)) :=
  (s.history.filter (fun h => h.session = t ∧ h.inTx)).map Committed.trace

variable [DecidableEq K] (d : Dialect C R K V)

structure ClientsInv (rules : T → Rules C R) (γ : T → Client C R) (s : Engine T C R K V) : Prop where
  phase : ∀ t, (γ t).phase = (s.session t).phase
  allowed : ∀ t, Throughout (rules t).tx (γ t).attempted
  attempted : ∀ t, (s.txs t).Sublist (γ t).attempted
  auto : ∀ h ∈ s.history, h.inTx = false →
    ∃ c r, h.trace = [⟨c, r⟩] ∧ (rules h.session).auto c ∧ d.done c r = true
  finished : ∀ t, ∀ u ∈ (γ t).finished, d.Modifies u → ∃ h ∈ s.history, h.session = t ∧ h.trace = u

variable {d} {rules : T → Rules C R} {γ : T → Client C R} {s s' : Engine T C R K V} {t : T} {g : Client C R}

lemma ClientsInv.start {rows : (k : K) → Option (V k)} :
    ClientsInv d rules (fun _ => {}) (Engine.start rows) where
  phase _ := rfl
  allowed _ := throughout_nil
  attempted _ := .slnil
  auto _ h := nomatch h
  finished _ _ h := nomatch h

lemma ClientsInv.tx_allowed (h : ClientsInv d rules γ s) {e : Committed T C R} (he : e ∈ s.history)
    (hin : e.inTx = true) : ∃ pre, (rules e.session).tx pre e.trace := by
  have hmem : e.trace ∈ s.txs e.session := by
    refine List.mem_map_of_mem (List.mem_filter.mpr ⟨he, ?_⟩)
    simp [hin]
  obtain ⟨pre, post, hsplit⟩ := List.append_of_mem ((h.attempted e.session).subset hmem)
  exact ⟨pre, h.allowed e.session pre e.trace post hsplit⟩

lemma ClientsInv.quiet (h : ClientsInv d rules γ s) (hhistory : s'.history = s.history)
    (hothers : ∀ t', t' ≠ t → s'.session t' = s.session t') (hphase : g.phase = (s'.session t).phase)
    (hattempted : g.attempted = (γ t).attempted) (hfinished : g.finished = (γ t).finished) :
    ClientsInv d rules (Function.update γ t g) s' := by
  have hall : ∀ t', (Function.update γ t g t').attempted = (γ t').attempted ∧
      (Function.update γ t g t').finished = (γ t').finished ∧
      (Function.update γ t g t').phase = (s'.session t').phase := by
    apply (Function.forall_update_iff γ (fun t' g => g.attempted = (γ t').attempted ∧
      g.finished = (γ t').finished ∧ g.phase = (s'.session t').phase)).mpr
    refine ⟨⟨hattempted, hfinished, hphase⟩, fun t' hne => ⟨rfl, rfl, ?_⟩⟩
    rw [hothers t' hne, h.phase t']
  refine ⟨fun t' => (hall t').2.2, fun t' => ?_, fun t' => ?_, ?_, fun t' u hu => ?_⟩
  · rw [(hall t').1]
    exact h.allowed t'
  · rw [(hall t').1, Engine.txs, hhistory]
    exact h.attempted t'
  · rw [hhistory]
    exact h.auto
  · rw [(hall t').2.1] at hu
    rw [hhistory]
    exact h.finished t' u hu

section Steps

variable {c : C} {r : R c} {key : K} {run : Option (V key) → R c × Effect (V key)} {eff : Effect (V key)}
  {tx : Tx C R K V}

omit [DecidableEq T] [DecidableEq K] in
lemma Engine.tx_phase (htx : s.tx t = some tx) : (s.session t).phase = .running tx.trace := by
  unfold Engine.tx at htx
  split at htx
  · rename_i hsession
    cases htx
    rw [hsession]
    rfl
  · rename_i hsession
    cases htx
    rw [hsession]
    rfl
  · cases htx

omit [DecidableEq T] in
lemma Engine.perform_history (s : Engine T C R K V) (t : T) (eff : Effect (V key)) (e : Event C R) :
    (eff.writes = true ∧ (s.perform t key eff e).history = s.history ++ [⟨t, false, [e]⟩]) ∨
    (eff.writes = false ∧ (s.perform t key eff e).history = s.history) := by
  cases eff with
  | read => exact .inr ⟨rfl, rfl⟩
  | lock => exact .inr ⟨rfl, rfl⟩
  | write row => exact .inl ⟨rfl, rfl⟩

omit [DecidableEq T] in
lemma Engine.perform_session (s : Engine T C R K V) (e : Event C R) :
    (s.perform t key eff e).session = s.session := by
  cases eff <;> rfl

omit [DecidableEq K] in
lemma Engine.txs_concat {h : Committed T C R} (hhistory : s'.history = s.history ++ [h]) (t : T) :
    s'.txs t = if h.session = t ∧ h.inTx then s.txs t ++ [h.trace] else s.txs t := by
  rw [Engine.txs, hhistory, List.filter_append, List.map_append]
  by_cases hh : h.session = t ∧ h.inTx = true
  · rw [if_pos hh, List.filter_cons_of_pos (by simpa using hh)]
    rfl
  · rw [if_neg hh, List.filter_cons_of_neg (by simpa using hh)]
    exact List.append_nil _

lemma ClientsInv.perform (h : ClientsInv d rules γ s) (hauto : (rules t).auto c) (hdone : d.done c r = true)
    (haction : d.action c = .statement key run) (hrun : run (s.rows key) = (r, eff))
    (hphase : g.phase = (γ t).phase) (hattempted : g.attempted = (γ t).attempted)
    (hfinished : g.finished = (γ t).finished ∨ g.finished = (γ t).finished ++ [[⟨c, r⟩]]) :
    ClientsInv d rules (Function.update γ t g) (s.perform t key eff ⟨c, r⟩) := by
  have hsame : ∀ t', (Function.update γ t g t').attempted = (γ t').attempted ∧
      (Function.update γ t g t').phase = (γ t').phase := by
    apply (Function.forall_update_iff γ (fun t' g => g.attempted = (γ t').attempted ∧
      g.phase = (γ t').phase)).mpr
    exact ⟨⟨hattempted, hphase⟩, fun _ _ => ⟨rfl, rfl⟩⟩
  have htxs : ∀ t', (s.perform t key eff ⟨c, r⟩).txs t' = s.txs t' := by
    intro t'
    rcases s.perform_history t eff ⟨c, r⟩ with ⟨-, hh⟩ | ⟨-, hh⟩
    · rw [Engine.txs_concat hh, if_neg]
      rintro ⟨-, hin⟩
      cases hin
    · rw [Engine.txs, hh, Engine.txs]
  have hkept : ∀ e ∈ s.history, e ∈ (s.perform t key eff ⟨c, r⟩).history := by
    intro e he
    rcases s.perform_history t eff ⟨c, r⟩ with ⟨-, hh⟩ | ⟨-, hh⟩
    · rw [hh]
      exact List.mem_append_left _ he
    · rwa [hh]
  refine ⟨fun t' => ?_, fun t' => ?_, fun t' => ?_, fun e he hin => ?_, fun t' u hu hwrites => ?_⟩
  · rw [(hsame t').2, h.phase t', Engine.perform_session]
  · rw [(hsame t').1]
    exact h.allowed t'
  · rw [(hsame t').1, htxs t']
    exact h.attempted t'
  · rcases s.perform_history t eff ⟨c, r⟩ with ⟨-, hh⟩ | ⟨-, hh⟩
    · rw [hh] at he
      rcases List.mem_append.mp he with he | he
      · exact h.auto e he hin
      · obtain rfl := List.mem_singleton.mp he
        exact ⟨c, r, rfl, hauto, hdone⟩
    · rw [hh] at he
      exact h.auto e he hin
  · by_cases htt : t' = t
    · subst htt
      rw [Function.update_self] at hu
      have hold : u ∈ (γ t').finished ∨ u = [⟨c, r⟩] := by
        rcases hfinished with hf | hf
        · rw [hf] at hu
          exact .inl hu
        · rw [hf] at hu
          exact (List.mem_append.mp hu).imp id List.mem_singleton.mp
      rcases hold with hu | rfl
      · obtain ⟨e, he, hsession, htrace⟩ := h.finished t' u hu hwrites
        exact ⟨e, hkept e he, hsession, htrace⟩
      · have hreplay : d.Replay s.rows [⟨c, r⟩] (Function.update s.rows key (eff.apply (s.rows key))) :=
          Dialect.replay_single.mpr ⟨key, run, eff, haction, hrun, rfl⟩
        rcases hwrites _ _ hreplay with ⟨key', run', eff', haction', hrun', hwrite⟩ | ⟨_, -, hnil⟩
        · obtain ⟨rfl, hrr⟩ := Action.statement.inj (haction.symm.trans haction')
          obtain rfl := eq_of_heq hrr
          rw [hrun] at hrun'
          cases hrun'
          rcases s.perform_history t' eff ⟨c, r⟩ with ⟨-, hh⟩ | ⟨hnot, -⟩
          · exact ⟨⟨t', false, [⟨c, r⟩]⟩, by rw [hh]; exact List.mem_append_right _ List.mem_cons_self, rfl, rfl⟩
          · rw [hwrite] at hnot
            cases hnot
        · exact hnil.elim
    · rw [Function.update_of_ne htt] at hu
      obtain ⟨e, he, hsession, htrace⟩ := h.finished t' u hu hwrites
      exact ⟨e, hkept e he, hsession, htrace⟩

omit [DecidableEq K] in
lemma Engine.commit_history (s : Engine T C R K V) (t : T) (tx : Tx C R K V) :
    (tx.wrote = true ∧ (s.commit t tx).history = s.history ++ [⟨t, true, tx.trace⟩]) ∨
    (tx.wrote = false ∧ (s.commit t tx).history = s.history) := by
  cases hwrote : tx.wrote with
  | true => exact .inl ⟨rfl, if_pos hwrote⟩
  | false => exact .inr ⟨rfl, if_neg (by rw [hwrote]; exact Bool.false_ne_true)⟩

lemma ClientsInv.attempt {u : List (Event C R)} (h : ClientsInv d rules γ s)
    (hallowed : (rules t).tx (γ t).attempted u)
    (hothers : ∀ t', t' ≠ t → s'.session t' = s.session t') (hidle : s'.session t = .idle)
    (hhistory : s'.history = s.history ∨ s'.history = s.history ++ [⟨t, true, u⟩])
    (hphase : g.phase = .idle) (hattempted : g.attempted = (γ t).attempted ++ [u])
    (hfinished : g.finished = (γ t).finished ∨ g.finished = (γ t).finished ++ [u] ∧
      (d.Modifies u → s'.history = s.history ++ [⟨t, true, u⟩])) :
    ClientsInv d rules (Function.update γ t g) s' := by
  have hkept : ∀ e ∈ s.history, e ∈ s'.history := by
    intro e he
    rcases hhistory with hh | hh
    · rwa [hh]
    · rw [hh]
      exact List.mem_append_left _ he
  refine ⟨?_, ?_, ?_, fun e he hin => ?_, ?_⟩
  · apply (Function.forall_update_iff γ (fun t' g => g.phase = (s'.session t').phase)).mpr
    refine ⟨by rw [hphase, hidle]; rfl, fun t' hne => ?_⟩
    rw [hothers t' hne, h.phase t']
  · apply (Function.forall_update_iff γ (fun t' g => Throughout (rules t').tx g.attempted)).mpr
    refine ⟨?_, fun t' _ => h.allowed t'⟩
    rw [hattempted]
    exact (h.allowed t).concat hallowed
  · apply (Function.forall_update_iff γ (fun t' g => (s'.txs t').Sublist g.attempted)).mpr
    constructor
    · rw [hattempted]
      rcases hhistory with hh | hh
      · rw [Engine.txs, hh]
        exact (h.attempted t).trans (List.sublist_append_left _ _)
      · rw [Engine.txs_concat hh, if_pos ⟨rfl, rfl⟩]
        exact (h.attempted t).append_right _
    · intro t' hne
      rcases hhistory with hh | hh
      · rw [Engine.txs, hh]
        exact h.attempted t'
      · rw [Engine.txs_concat hh, if_neg (fun hh => hne hh.1.symm)]
        exact h.attempted t'
  · rcases hhistory with hh | hh
    · rw [hh] at he
      exact h.auto e he hin
    · rw [hh] at he
      rcases List.mem_append.mp he with he | he
      · exact h.auto e he hin
      · obtain rfl := List.mem_singleton.mp he
        cases hin
  · apply (Function.forall_update_iff γ (fun t' g => ∀ v ∈ g.finished, d.Modifies v →
      ∃ h ∈ s'.history, h.session = t' ∧ h.trace = v)).mpr
    have hold : ∀ t', ∀ v ∈ (γ t').finished, d.Modifies v →
        ∃ h ∈ s'.history, h.session = t' ∧ h.trace = v := by
      intro t' v hv hwrites
      obtain ⟨e, he, hsession, htrace⟩ := h.finished t' v hv hwrites
      exact ⟨e, hkept e he, hsession, htrace⟩
    refine ⟨fun v hv hwrites => ?_, fun t' _ => hold t'⟩
    rcases hfinished with hf | ⟨hf, hcommitted⟩
    · rw [hf] at hv
      exact hold t v hv hwrites
    · rw [hf] at hv
      rcases List.mem_append.mp hv with hv | hv
      · exact hold t v hv hwrites
      · obtain rfl := List.mem_singleton.mp hv
        refine ⟨⟨t, true, v⟩, ?_, rfl, rfl⟩
        rw [hcommitted hwrites]
        exact List.mem_append_right _ List.mem_cons_self

end Steps

variable {rows₀ : (k : K) → Option (V k)}

lemma ClientsInv.step (hengine : EngineInv d rows₀ s) (h : ClientsInv d rules γ s) {c : On T C} {r : R c.call}
    (hnext : (d.client t (rules t)).next (γ t) c r g) (hstep : d.Step s c r s') :
    EngineInv d rows₀ s' ∧ ClientsInv d rules (Function.update γ t g) s' := by
  obtain ⟨rfl, hadmits, rfl⟩ := hnext
  have hphase := h.phase c.session
  cases hstep with
  | @other t c r haction =>
    refine ⟨hengine, h.quiet rfl (fun _ _ => rfl) ?_ ?_ ?_⟩ <;> simp [Dialect.advance, haction, hphase]
  | @begin t c r haction hidle hdone =>
    rw [hidle] at hphase
    refine ⟨hengine.set (by simp), h.quiet rfl (fun t' hne => Engine.set_session_of_ne hne) ?_ ?_ ?_⟩ <;>
      simp [Dialect.advance, haction, hphase, hdone, Session.phase, Engine.set_session_self]
  | @beginFailed t c r haction hidle hfails =>
    have hdone := d.not_done c r hfails
    rw [hidle] at hphase
    refine ⟨hengine, h.quiet rfl (fun _ _ => rfl) ?_ ?_ ?_⟩ <;>
      simp [Dialect.advance, haction, hphase, hdone, hidle, Session.phase]
  | @execute t c r key run eff tx haction htx hrun hdone hlock =>
    rw [Engine.tx_phase htx] at hphase
    refine ⟨hengine.execute haction htx hrun hlock,
      h.quiet rfl (fun t' hne => Engine.set_session_of_ne hne) ?_ ?_ ?_⟩ <;>
      simp [Dialect.advance, haction, hphase, hdone, Session.phase, Engine.set_session_self, Tx.execute]
  | @perform t c r key run eff haction hidle hrun hdone hlock =>
    rw [hidle] at hphase
    have hauto : (rules t).auto c := by simpa [Dialect.Admits, haction, hphase, Session.phase] using hadmits
    refine ⟨hengine.perform haction hidle hrun hlock, h.perform hauto hdone haction hrun ?_ ?_ (.inr ?_)⟩ <;>
      simp [Dialect.advance, haction, hphase, hdone, Session.phase]
  | @performInDoubt t c r r₀ key run eff haction hidle hrun hdone₀ hlock hfails =>
    have hdone := d.not_done c r hfails
    rw [hidle] at hphase
    have hauto : (rules t).auto c := by simpa [Dialect.Admits, haction, hphase, Session.phase] using hadmits
    refine ⟨hengine.perform haction hidle hrun hlock, h.perform hauto hdone₀ haction hrun ?_ ?_ (.inl ?_)⟩ <;>
      simp [Dialect.advance, haction, hphase, hdone, Session.phase]
  | @failed t c r key run haction hfails =>
    have hdone := d.not_done c r hfails
    refine ⟨hengine.abort, ?_⟩
    cases hsession : s.session t with
    | idle =>
      rw [hsession] at hphase
      rw [Engine.abort_idle hsession]
      refine h.quiet rfl (fun _ _ => rfl) ?_ ?_ ?_ <;>
        simp [Dialect.advance, haction, hphase, hdone, hsession, Session.phase]
    | opened | active tx | aborted =>
      rw [hsession] at hphase
      rw [Engine.abort_of_ne (by simp [hsession])]
      refine h.quiet rfl (fun t' hne => Engine.set_session_of_ne hne) ?_ ?_ ?_ <;>
        simp [Dialect.advance, haction, hphase, hdone, Session.phase, Engine.set_session_self]
  | @commit t c r tx haction htx _ =>
    rw [Engine.tx_phase htx] at hphase
    have hcommit : (d.ReadOnly tx.trace ∨ d.Covered tx.trace) ∧ (rules t).tx (γ t).attempted tx.trace := by
      simpa [Dialect.Admits, haction, hphase] using hadmits
    refine ⟨hengine.commit htx hcommit.1, h.attempt hcommit.2 (fun t' hne => Engine.commit_session_of_ne hne)
      Engine.commit_session_self ?_ ?_ ?_ ?_⟩
    · rcases s.commit_history t tx with ⟨-, hh⟩ | ⟨-, hh⟩
      · exact .inr hh
      · exact .inl hh
    · simp [Dialect.advance, haction, hphase]
    · simp [Dialect.advance, haction, hphase]
    · cases hdone : d.done c r with
      | false =>
        left
        simp [Dialect.advance, haction, hphase, hdone]
      | true =>
        refine .inr ⟨by simp [Dialect.advance, haction, hphase, hdone], ?_⟩
        intro hmodifies
        have htxinv := (hengine.of_tx htx).1
        rcases s.commit_history t tx with ⟨-, hh⟩ | ⟨hnot, -⟩
        · exact hh
        · rw [htxinv.writes (hmodifies _ _ htxinv.replay)] at hnot
          cases hnot
  | @commitFailed t c r haction hnot hfails =>
    have hdone := d.not_done c r hfails
    refine ⟨hengine.set (by simp), ?_⟩
    cases hsession : s.session t with
    | idle => exact absurd hsession hnot
    | opened =>
      rw [hsession] at hphase
      have hcommit : (rules t).tx (γ t).attempted [] := by
        have := hadmits
        simp only [Dialect.Admits, haction, hphase, Session.phase] at this
        exact this.2
      refine h.attempt hcommit
        (fun t' hne => Engine.set_session_of_ne hne) Engine.set_session_self (.inl rfl) ?_ ?_ (.inl ?_) <;>
        simp [Dialect.advance, haction, hphase, hdone, Session.phase]
    | active tx =>
      rw [hsession] at hphase
      have hcommit : (rules t).tx (γ t).attempted tx.trace := by
        have := hadmits
        simp only [Dialect.Admits, haction, hphase, Session.phase] at this
        exact this.2
      refine h.attempt hcommit (fun t' hne => Engine.set_session_of_ne hne) Engine.set_session_self (.inl rfl)
        ?_ ?_ (.inl ?_) <;> simp [Dialect.advance, haction, hphase, hdone, Session.phase]
    | aborted =>
      rw [hsession] at hphase
      refine h.quiet rfl (fun t' hne => Engine.set_session_of_ne hne) ?_ ?_ ?_ <;>
        simp [Dialect.advance, haction, hphase, hdone, Session.phase, Engine.set_session_self]
  | @rollback t c r haction hnot _ =>
    refine ⟨hengine.set (by simp), ?_⟩
    cases hsession : s.session t with
    | idle => exact absurd hsession hnot
    | opened | active tx | aborted =>
      rw [hsession] at hphase
      refine h.quiet rfl (fun t' hne => Engine.set_session_of_ne hne) ?_ ?_ ?_ <;>
        simp [Dialect.advance, haction, hphase, Session.phase, Engine.set_session_self]

lemma Dialect.Step.answers {c : On T C} {r : R c.call} (h : d.Step s c r s') : d.Answers c.call r := by
  cases h with
  | other haction => exact .inl haction
  | begin _ _ hdone => exact .inr (.inl hdone)
  | beginFailed _ _ hfails => exact .inr (.inr hfails)
  | execute _ _ _ hdone => exact .inr (.inl hdone)
  | perform _ _ _ hdone => exact .inr (.inl hdone)
  | performInDoubt _ _ _ _ _ hfails => exact .inr (.inr hfails)
  | failed _ hfails => exact .inr (.inr hfails)
  | commit _ _ hr => exact .inr hr
  | commitFailed _ _ hfails => exact .inr (.inr hfails)
  | rollback _ _ hr => exact .inr hr

def Answered (γ : T → Client C R) (log : List (T × Event (On T C) (On.Answer R))) : Prop :=
  ∀ t, ∀ e ∈ (γ t).events, (t, ⟨⟨t, e.call⟩, e.answer⟩) ∈ log

omit [DecidableEq K] in
lemma Answered.step {log : List (T × Event (On T C) (On.Answer R))} (h : Answered γ log) {c : On T C}
    {r : R c.call}
    (hnext : (d.client t (rules t)).next (γ t) c r g) :
    Answered (Function.update γ t g) (log ++ [(t, ⟨c, r⟩)]) := by
  obtain ⟨rfl, -, rfl⟩ := hnext
  intro t' e he
  by_cases htt : t' = c.session
  · subst htt
    rw [Function.update_self] at he
    rcases Dialect.advance_events _ _ _ he with he | rfl
    · exact List.mem_append_left _ (h c.session e he)
    · exact List.mem_append_right _ List.mem_cons_self
  · rw [Function.update_of_ne htt] at he
    exact List.mem_append_left _ (h t' e he)

/-- In every interleaving of programs that conform to the rules of their clients, the committed rows are
those of a serial execution of what the rules allow. -/
theorem serial_of_conforms {α : Type} (rules : T → Rules C R) {progs : T → Prog (On T C) (On.Answer R) α}
    {Q : T → Client C R → α → Prop}
    (hprogs : ∀ t, Conforms (d.client t (rules t)) (progs t) {}
      (fun g a => g.phase = .unreachable ∨ Q t g a))
    {P : Pool T (On T C) (On.Answer R) α (Engine T C R K V)}
    (h : Pool.Leads d.Step (fun _ _ _ _ => True) (Pool.start (Engine.start rows₀) progs) P) :
    ∃ γ : T → Client C R, EngineInv d rows₀ P.shared ∧ ClientsInv d rules γ P.shared ∧ Answered γ P.log ∧
      ∀ t a, P.threads t = some (.ret a) → Q t (γ t) a := by
  obtain ⟨γ, ⟨⟨hengine, hclients⟩, hanswered⟩, hthreads⟩ := h.invariant
    (J := fun γ log s => (EngineInv d rows₀ s ∧ ClientsInv d rules γ s) ∧ Answered γ log) hprogs
    ⟨⟨.start, .start⟩, fun _ _ he => nomatch he⟩
    (fun _ _ _ _ _ hstep => hstep.answers)
    (fun _ _ _ _ _ _ _ _ hJ hnext _ hstep => ⟨hJ.1.2.step hJ.1.1 hnext hstep, hJ.2.step hnext⟩)
  refine ⟨γ, hengine, hclients, hanswered, fun t a hret => ?_⟩
  obtain ⟨p, hp, hconforms⟩ := hthreads t
  obtain rfl : p = .ret a := Option.some.inj (hp.symm.trans hret)
  refine hconforms.resolve_left (fun hunreachable => ?_)
  have hphase := hclients.phase t
  rw [hunreachable] at hphase
  cases hsession : P.shared.session t <;> rw [hsession] at hphase <;> cases hphase

/-! ## The statements of an engine -/

section Made

variable {P : On T C → Prop}

/-- The statements that have been executed, in transactions and outside, are among the given ones. -/
structure Engine.Made (P : On T C → Prop) (s : Engine T C R K V) : Prop where
  history : ∀ h ∈ s.history, ∀ e ∈ h.trace, P ⟨h.session, e.call⟩
  active : ∀ t tx, s.session t = .active tx → ∀ e ∈ tx.trace, P ⟨t, e.call⟩

omit [DecidableEq K] in
lemma Engine.Made.set (h : s.Made P) {session : Session C R K V}
    (hsession : ∀ tx, session = .active tx → ∀ e ∈ tx.trace, P ⟨t, e.call⟩) : (s.set t session).Made P := by
  refine ⟨h.history, fun t' tx hactive => ?_⟩
  by_cases htt : t' = t
  · subst htt
    rw [Engine.set_session_self] at hactive
    exact hsession tx hactive
  · rw [Engine.set_session_of_ne htt] at hactive
    exact h.active t' tx hactive

omit [DecidableEq T] [DecidableEq K] in
lemma Engine.Made.of_tx (h : s.Made P) {tx : Tx C R K V} (htx : s.tx t = some tx) :
    ∀ e ∈ tx.trace, P ⟨t, e.call⟩ := by
  unfold Engine.tx at htx
  split at htx
  · cases htx
    intro e he
    cases he
  · rename_i hsession
    cases htx
    exact h.active t _ hsession
  · cases htx

omit [DecidableEq T] in
lemma Engine.Made.perform (h : s.Made P) {c : C} {r : R c} (hc : P ⟨t, c⟩) (key : K) (eff : Effect (V key)) :
    (s.perform t key eff ⟨c, r⟩).Made P := by
  refine ⟨fun e he => ?_, fun t' tx hactive => h.active t' tx (by rwa [Engine.perform_session] at hactive)⟩
  rcases s.perform_history t eff ⟨c, r⟩ with ⟨-, hh⟩ | ⟨-, hh⟩
  · rw [hh] at he
    rcases List.mem_append.mp he with he | he
    · exact h.history e he
    · obtain rfl := List.mem_singleton.mp he
      intro ev hev
      obtain rfl := List.mem_singleton.mp hev
      exact hc
  · rw [hh] at he
    exact h.history e he

omit [DecidableEq K] in
lemma Engine.Made.commit (h : s.Made P) {tx : Tx C R K V} (htx : s.tx t = some tx) : (s.commit t tx).Made P := by
  refine ⟨fun e he => ?_, fun t' tx' hactive => ?_⟩
  · rcases s.commit_history t tx with ⟨-, hh⟩ | ⟨-, hh⟩
    · rw [hh] at he
      rcases List.mem_append.mp he with he | he
      · exact h.history e he
      · obtain rfl := List.mem_singleton.mp he
        exact h.of_tx htx
    · rw [hh] at he
      exact h.history e he
  · by_cases htt : t' = t
    · subst htt
      rw [Engine.commit_session_self] at hactive
      cases hactive
    · rw [Engine.commit_session_of_ne htt] at hactive
      exact h.active t' tx' hactive

lemma Engine.Made.step (h : s.Made P) {c : On T C} {r : R c.call} (hc : P c) (hstep : d.Step s c r s') :
    s'.Made P := by
  cases hstep with
  | other => exact h
  | beginFailed => exact h
  | begin | commitFailed | rollback =>
    refine h.set (fun tx htx => ?_)
    cases htx
  | execute _ htx =>
    refine h.set (fun tx' htx' e he => ?_)
    cases htx'
    rcases List.mem_append.mp he with he | he
    · exact h.of_tx htx e he
    · obtain rfl := List.mem_singleton.mp he
      exact hc
  | perform => exact h.perform hc _ _
  | performInDoubt => exact h.perform hc _ _
  | @failed t c r _ _ _ _ =>
    by_cases hidle : s.session t = .idle
    · rwa [Engine.abort_idle hidle]
    · rw [Engine.abort_of_ne hidle]
      refine h.set (fun tx htx => ?_)
      cases htx
  | commit _ htx => exact h.commit htx

/-- Whatever has been committed consists of calls that the programs make. -/
theorem history_calls {α : Type} {progs : T → Prog (On T C) (On.Answer R) α}
    {ok : List (T × Event (On T C) (On.Answer R)) → Engine T C R K V → T → On T C → Prop}
    (hprogs : ∀ t, (progs t).AllCalls P) {Q : Pool T (On T C) (On.Answer R) α (Engine T C R K V)}
    (h : Pool.Leads d.Step ok (Pool.start (Engine.start rows₀) progs) Q) {e : Committed T C R}
    (he : e ∈ Q.shared.history) : ∀ ev ∈ e.trace, P ⟨e.session, ev.call⟩ := by
  have hstart : (Engine.start rows₀ : Engine T C R K V).Made P := by
    refine ⟨fun e he => ?_, fun t tx htx => ?_⟩
    · cases he
    · cases htx
  have hmade := Pool.Leads.calls hprogs hstart (fun _ _ _ _ hmade hc hs => hmade.step hc hs) h
  exact hmade.history e he

end Made

end Relational
