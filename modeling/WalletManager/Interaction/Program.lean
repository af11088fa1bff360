import Mathlib.Data.List.Induction
import Mathlib.Tactic.Common

/-!
# Programs that make calls

A program either has returned or waits for the answer to a call. What a call does to
the state around the program, and which answers it may get, is a relation of its own,
so that one program has a sequential semantics (`Exec`) here and an interleaved one in
`Interaction.Pool`.
-/

namespace Interaction

/-- A program over the calls `C`, where the answer to `c` is a value of `R c`. -/
inductive Prog (C : Type) (R : C → Type) (α : Type) where
  | ret (a : α)
  | call (c : C) (k : R c → Prog C R α)

structure Event (C : Type) (R : C → Type) where
  call : C
  answer : R call

variable {C : Type} {R : C → Type} {α β σ : Type}

namespace Prog

def bind : Prog C R α → (α → Prog C R β) → Prog C R β
  | .ret a, f => f a
  | .call c k, f => .call c (fun r => (k r).bind f)

instance : Monad (Prog C R) where
  pure := .ret
  bind := bind

/-- Every call the program can make, in any branch, satisfies `P`. -/
def AllCalls (P : C → Prop) : Prog C R α → Prop
  | .ret _ => True
  | .call c k => P c ∧ ∀ r, (k r).AllCalls P

lemma AllCalls.bind {P : C → Prop} {p : Prog C R α} {f : α → Prog C R β}
    (hp : p.AllCalls P) (hf : ∀ a, (f a).AllCalls P) : (p >>= f).AllCalls P := by
  induction p with
  | ret a => exact hf a
  | call c k ih => exact ⟨hp.1, fun r => ih r (hp.2 r)⟩

lemma AllCalls.mono {P Q : C → Prop} (hPQ : ∀ c, P c → Q c) {p : Prog C R α}
    (hp : p.AllCalls P) : p.AllCalls Q := by
  induction p with
  | ret a => trivial
  | call c k ih => exact ⟨hPQ c hp.1, fun r => ih r (hp.2 r)⟩

/-- Every value the program can return, whatever it is answered, satisfies `P`. -/
def Returns (P : α → Prop) : Prog C R α → Prop
  | .ret a => P a
  | .call _ k => ∀ r, (k r).Returns P

lemma Returns.mono {P Q : α → Prop} (hPQ : ∀ a, P a → Q a) {p : Prog C R α} (hp : p.Returns P) :
    p.Returns Q := by
  induction p with
  | ret a => exact hPQ a hp
  | call c k ih => exact fun r => ih r (hp r)

lemma Returns.bind {P : β → Prop} (p : Prog C R α) {f : α → Prog C R β}
    (hf : ∀ a, (f a).Returns P) : (p >>= f).Returns P := by
  induction p with
  | ret a => exact hf a
  | call c k ih => exact fun r => ih r

def MayReturn : Prog C R α → α → Prop
  | .ret b, a => a = b
  | .call _ k, a => ∃ r, (k r).MayReturn a

end Prog

section Exec

variable (step : σ → (c : C) → R c → σ → Prop)

/-- `Exec step p s tr a s'`: run alone from `s`, the program makes the calls `tr`, returns
`a` and leaves the state `s'`. -/
def Exec : Prog C R α → σ → List (Event C R) → α → σ → Prop
  | .ret a, s, tr, b, s' => tr = [] ∧ b = a ∧ s' = s
  | .call c k, s, tr, b, s' =>
    ∃ r s₁ tr₁, step s c r s₁ ∧ Exec (k r) s₁ tr₁ b s' ∧ tr = ⟨c, r⟩ :: tr₁

variable {step}

theorem exec_bind {p : Prog C R α} {f : α → Prog C R β} {s s' : σ}
    {tr : List (Event C R)} {b : β} :
    Exec step (p >>= f) s tr b s' ↔
      ∃ a s₁ tr₁ tr₂, Exec step p s tr₁ a s₁ ∧ Exec step (f a) s₁ tr₂ b s' ∧ tr = tr₁ ++ tr₂ := by
  induction p generalizing s tr with
  | ret a =>
    constructor
    · intro h
      exact ⟨a, s, [], tr, ⟨rfl, rfl, rfl⟩, h, rfl⟩
    · rintro ⟨a', s₁, tr₁, tr₂, ⟨rfl, rfl, rfl⟩, h, rfl⟩
      exact h
  | call c k ih =>
    constructor
    · rintro ⟨r, s₁, tr₁, hs, h, rfl⟩
      obtain ⟨a, s₂, tr₂, tr₃, hp, hf, rfl⟩ := (ih r).mp h
      exact ⟨a, s₂, _, tr₃, ⟨r, s₁, tr₂, hs, hp, rfl⟩, hf, rfl⟩
    · rintro ⟨a, s₂, tr₁, tr₂, ⟨r, s₁, tr₃, hs, hp, rfl⟩, hf, rfl⟩
      exact ⟨r, s₁, tr₃ ++ tr₂, hs, (ih r).mpr ⟨a, s₂, tr₃, tr₂, hp, hf, rfl⟩, rfl⟩

lemma Exec.returns {P : α → Prop} {p : Prog C R α} {s s' : σ} {tr : List (Event C R)} {a : α}
    (h : Exec step p s tr a s') (hp : p.Returns P) : P a := by
  induction p generalizing s tr with
  | ret b =>
    obtain ⟨-, rfl, -⟩ := h
    exact hp
  | call c k ih =>
    obtain ⟨r, s₁, tr₁, -, h, -⟩ := h
    exact ih r h (hp r)

lemma Exec.mayReturn {p : Prog C R α} {s s' : σ} {tr : List (Event C R)} {a : α}
    (h : Exec step p s tr a s') : p.MayReturn a := by
  induction p generalizing s tr with
  | ret b => exact h.2.1
  | call c k ih =>
    obtain ⟨r, s₁, tr₁, -, h, -⟩ := h
    exact ⟨r, ih r h⟩

lemma Exec.allCalls {P : C → Prop} {p : Prog C R α} {s s' : σ} {tr : List (Event C R)} {a : α}
    (h : Exec step p s tr a s') (hp : p.AllCalls P) : ∀ e ∈ tr, P e.call := by
  induction p generalizing s tr with
  | ret b =>
    obtain ⟨rfl, -, -⟩ := h
    simp
  | call c k ih =>
    obtain ⟨r, s₁, tr₁, -, h, rfl⟩ := h
    intro e he
    rcases List.mem_cons.mp he with rfl | he
    · exact hp.1
    · exact ih r h (hp.2 r) e he

lemma Exec.mono {step' : σ → (c : C) → R c → σ → Prop}
    (hstep : ∀ s c r s', step s c r s' → step' s c r s') {p : Prog C R α} {s s' : σ}
    {tr : List (Event C R)} {a : α} (h : Exec step p s tr a s') : Exec step' p s tr a s' := by
  induction p generalizing s tr with
  | ret b => exact h
  | call c k ih =>
    obtain ⟨r, s₁, tr₁, hs, h, rfl⟩ := h
    exact ⟨r, s₁, tr₁, hstep _ _ _ _ hs, ih r h, rfl⟩

def Prog.run (env : σ → (c : C) → R c × σ) : Prog C R α → σ → List (Event C R) × α × σ
  | .ret a, s => ([], a, s)
  | .call c k, s =>
    let (r, s₁) := env s c
    let (tr, a, s') := (k r).run env s₁
    (⟨c, r⟩ :: tr, a, s')

theorem Prog.run_exec {env : σ → (c : C) → R c × σ}
    (henv : ∀ s c, step s c (env s c).1 (env s c).2) (p : Prog C R α) (s : σ) :
    Exec step p s (p.run env s).1 (p.run env s).2.1 (p.run env s).2.2 := by
  induction p generalizing s with
  | ret a => exact ⟨rfl, rfl, rfl⟩
  | call c k ih => exact ⟨_, _, _, henv s c, ih _ _, rfl⟩

def Prog.runsWithin (env : σ → (c : C) → R c × σ) (ok : σ → C → Bool) : Prog C R α → σ → Bool
  | .ret _, _ => true
  | .call c k, s => ok s c && (k (env s c).1).runsWithin env ok (env s c).2

lemma Prog.runsWithin_true {env : σ → (c : C) → R c × σ} (p : Prog C R α) (s : σ) :
    p.runsWithin env (fun _ _ => true) s = true := by
  induction p generalizing s with
  | ret a => rfl
  | call c k ih => exact ih _ _

theorem Prog.run_exec_within {env : σ → (c : C) → R c × σ} {ok : σ → C → Bool}
    (henv : ∀ s c, ok s c = true → step s c (env s c).1 (env s c).2) {p : Prog C R α} {s : σ}
    (h : p.runsWithin env ok s = true) : Exec step p s (p.run env s).1 (p.run env s).2.1 (p.run env s).2.2 := by
  induction p generalizing s with
  | ret a => exact ⟨rfl, rfl, rfl⟩
  | call c k ih =>
    obtain ⟨hok, hrest⟩ := Bool.and_eq_true_iff.mp h
    exact ⟨_, _, _, henv s c hok, ih _ hrest, rfl⟩

end Exec

section May

variable {step : σ → (c : C) → R c → σ → Prop} {s s₁ s' : σ}

/-- Some run of the program from `s` returns `a` and leaves `s'`. -/
def May (step : σ → (c : C) → R c → σ → Prop) (p : Prog C R α) (s : σ) (a : α) (s' : σ) : Prop :=
  ∃ tr, Exec step p s tr a s'

lemma may_ret {a : α} : May step (.ret a) s a s := ⟨[], rfl, rfl, rfl⟩

lemma may_call {c : C} {r : R c} {k : R c → Prog C R α} {a : α} (hs : step s c r s₁)
    (h : May step (k r) s₁ a s') : May step (.call c k) s a s' := by
  obtain ⟨tr, h⟩ := h
  exact ⟨_, r, s₁, tr, hs, h, rfl⟩

lemma May.bind {p : Prog C R α} {f : α → Prog C R β} {a : α} {b : β} (hp : May step p s a s₁)
    (hf : May step (f a) s₁ b s') : May step (p >>= f) s b s' := by
  obtain ⟨tr, hp⟩ := hp
  obtain ⟨tr', hf⟩ := hf
  exact ⟨_, exec_bind.mpr ⟨a, s₁, tr, tr', hp, hf, rfl⟩⟩

end May

section Along

variable (step : σ → (c : C) → R c → σ → Prop) (P : σ → C → Prop)

/-- Along every execution from `s`, each call is made in a state that allows it. -/
def Along : Prog C R α → σ → Prop
  | .ret _, _ => True
  | .call c k, s => P s c ∧ ∀ r s', step s c r s' → Along (k r) s'

variable {step P}

lemma Prog.AllCalls.along {Q : C → Prop} {I : σ → Prop} {p : Prog C R α} {s : σ}
    (hp : p.AllCalls Q) (hs : I s) (hstep : ∀ s c r s', I s → Q c → step s c r s' → I s')
    (hP : ∀ s c, I s → Q c → P s c) : Along step P p s := by
  induction p generalizing s with
  | ret a => trivial
  | call c k ih =>
    refine ⟨hP s c hs hp.1, ?_⟩
    intro r s' hs'
    exact ih r (hp.2 r) (hstep s c r s' hs hp.1 hs')

theorem along_bind {p : Prog C R α} {f : α → Prog C R β} {s : σ} :
    Along step P (p >>= f) s ↔
      Along step P p s ∧ ∀ tr a s', Exec step p s tr a s' → Along step P (f a) s' := by
  induction p generalizing s with
  | ret a =>
    constructor
    · intro h
      refine ⟨trivial, ?_⟩
      rintro tr b s' ⟨-, rfl, rfl⟩
      exact h
    · rintro ⟨-, h⟩
      exact h [] a s ⟨rfl, rfl, rfl⟩
  | call c k ih =>
    constructor
    · rintro ⟨hc, h⟩
      refine ⟨⟨hc, fun r s' hs => ((ih r).mp (h r s' hs)).1⟩, ?_⟩
      rintro tr a s' ⟨r, s₁, tr₁, hs, he, -⟩
      exact ((ih r).mp (h r s₁ hs)).2 tr₁ a s' he
    · rintro ⟨⟨hc, hp⟩, hf⟩
      refine ⟨hc, fun r s' hs => (ih r).mpr ⟨hp r s' hs, ?_⟩⟩
      intro tr a s'' he
      exact hf _ a s'' ⟨r, s', tr, hs, he, rfl⟩

end Along

section Ends

variable {Ob : Type} (step : σ → (c : C) → R c → σ → Prop) (obs : Event C R → Option Ob)

/-- Run alone from `s`, the program can only end with `Q`, which speaks about the observed
calls, the result and the state. -/
def Ends (p : Prog C R α) (s : σ) (Q : List Ob → α → σ → Prop) : Prop :=
  ∀ tr a s', Exec step p s tr a s' → Q (tr.filterMap obs) a s'

variable {step obs} {s : σ}

lemma ends_ret {a : α} {Q : List Ob → α → σ → Prop} : Ends step obs (.ret a) s Q ↔ Q [] a s := by
  constructor
  · intro h
    exact h [] a s ⟨rfl, rfl, rfl⟩
  · rintro h tr b s' ⟨rfl, rfl, rfl⟩
    exact h

lemma ends_call {c : C} {k : R c → Prog C R α} {Q : List Ob → α → σ → Prop} :
    Ends step obs (.call c k) s Q ↔ ∀ r s₁, step s c r s₁ →
      Ends step obs (k r) s₁ (fun l a s' => Q ((obs ⟨c, r⟩).toList ++ l) a s') := by
  have hobs : ∀ (r : R c) (tr : List (Event C R)),
      (⟨c, r⟩ :: tr : List (Event C R)).filterMap obs = (obs ⟨c, r⟩).toList ++ tr.filterMap obs := by
    intro r tr
    cases h : obs ⟨c, r⟩ <;> simp [h]
  constructor
  · intro h r s₁ hs tr a s' he
    rw [← hobs]
    exact h _ a s' ⟨r, s₁, tr, hs, he, rfl⟩
  · rintro h tr a s' ⟨r, s₁, tr₁, hs, he, rfl⟩
    rw [hobs]
    exact h r s₁ hs tr₁ a s' he

lemma ends_bind {p : Prog C R α} {f : α → Prog C R β} {Q : List Ob → β → σ → Prop} :
    Ends step obs (p >>= f) s Q ↔ Ends step obs p s
      (fun l a s₁ => Ends step obs (f a) s₁ (fun l' b s' => Q (l ++ l') b s')) := by
  constructor
  · intro h tr a s₁ hp tr' b s' hf
    rw [← List.filterMap_append]
    exact h _ b s' (exec_bind.mpr ⟨a, s₁, tr, tr', hp, hf, rfl⟩)
  · intro h tr b s' he
    obtain ⟨a, s₁, tr₁, tr₂, hp, hf, rfl⟩ := exec_bind.mp he
    rw [List.filterMap_append]
    exact h tr₁ a s₁ hp tr₂ b s' hf

lemma Ends.mono {p : Prog C R α} {Q Q' : List Ob → α → σ → Prop} (h : Ends step obs p s Q)
    (hQ : ∀ l a s', Q l a s' → Q' l a s') : Ends step obs p s Q' :=
  fun tr a s' he => hQ _ a s' (h tr a s' he)

lemma Ends.bind {p : Prog C R α} {f : α → Prog C R β} {P : List Ob → α → σ → Prop}
    {Q : List Ob → β → σ → Prop} (hp : Ends step obs p s P)
    (hf : ∀ l a s₁, P l a s₁ → Ends step obs (f a) s₁ (fun l' b s' => Q (l ++ l') b s')) :
    Ends step obs (p >>= f) s Q :=
  ends_bind.mpr (hp.mono hf)

lemma Prog.AllCalls.ends {Q : C → Prop} {I : σ → Prop} {p : Prog C R α} (hp : p.AllCalls Q) (hs : I s)
    (hstep : ∀ s c r s', I s → Q c → step s c r s' → I s') :
    Ends step obs p s (fun _ _ s' => I s') := by
  induction p generalizing s with
  | ret a => exact ends_ret.mpr hs
  | call c k ih =>
    refine ends_call.mpr ?_
    intro r s₁ hs₁
    exact ih r (hp.2 r) (hstep s c r s₁ hs hp.1 hs₁)

end Ends

section Yields

variable (step : σ → (c : C) → R c → σ → Prop)

/-- Run alone from `s`, the program can end, always with the result `a`, and leaves `s` as it is. -/
def Yields (p : Prog C R α) (s : σ) (a : α) : Prop :=
  (∃ tr, Exec step p s tr a s) ∧ ∀ tr b s', Exec step p s tr b s' → b = a ∧ s' = s

variable {step} {s : σ}

lemma yields_ret (a : α) : Yields step (.ret a : Prog C R α) s a := by
  refine ⟨⟨[], rfl, rfl, rfl⟩, ?_⟩
  rintro tr b s' ⟨-, rfl, rfl⟩
  exact ⟨rfl, rfl⟩

lemma yields_call {c : C} {k : R c → Prog C R α} {r : R c} {a : α}
    (hstep : ∀ r' s', step s c r' s' ↔ r' = r ∧ s' = s) (h : Yields step (k r) s a) :
    Yields step (.call c k) s a := by
  obtain ⟨⟨tr, htr⟩, honly⟩ := h
  refine ⟨⟨⟨c, r⟩ :: tr, r, s, tr, (hstep r s).mpr ⟨rfl, rfl⟩, htr, rfl⟩, ?_⟩
  rintro tr' b s' ⟨r', s₁, tr₁, hs, he, -⟩
  obtain ⟨rfl, rfl⟩ := (hstep r' s₁).mp hs
  exact honly tr₁ b s' he

theorem Yields.bind {p : Prog C R α} {f : α → Prog C R β} {a : α} {b : β} (hp : Yields step p s a)
    (hf : Yields step (f a) s b) : Yields step (p >>= f) s b := by
  obtain ⟨⟨tr, htr⟩, hponly⟩ := hp
  obtain ⟨⟨tr', htr'⟩, hfonly⟩ := hf
  refine ⟨⟨tr ++ tr', exec_bind.mpr ⟨a, s, tr, tr', htr, htr', rfl⟩⟩, ?_⟩
  intro tr'' c s' he
  obtain ⟨a', s₁, tr₁, tr₂, hpe, hfe, -⟩ := exec_bind.mp he
  obtain ⟨rfl, rfl⟩ := hponly tr₁ a' s₁ hpe
  exact hfonly tr₂ c s' hfe

lemma Yields.unique {p : Prog C R α} {a b : α} (ha : Yields step p s a) (hb : Yields step p s b) :
    b = a := by
  obtain ⟨⟨tr, htr⟩, -⟩ := hb
  exact (ha.2 tr b s htr).1

end Yields

structure Entry (O C : Type) (R : C → Type) (α : Type) where
  op : O
  trace : List (Event C R)
  result : α

section Runs

variable {O : Type} (prog : O → Prog C R α) (step : σ → (c : C) → R c → σ → Prop)
  (ok : σ → O → Prop) (s₀ : σ)

/-- Operations executed one at a time from `s₀`, each in a state where `ok` admits it. -/
inductive Runs : List (Entry O C R α) → σ → Prop
  | nil : Runs [] s₀
  | snoc {log : List (Entry O C R α)} {s s' : σ} {op : O} {tr : List (Event C R)} {a : α} :
    Runs log s → ok s op → Exec step (prog op) s tr a s' → Runs (log ++ [⟨op, tr, a⟩]) s'

variable {prog step ok s₀}

/-- What holds at the start and is kept by every admitted operation holds after every run. -/
theorem Runs.invariant {I : List (Entry O C R α) → σ → Prop} (h₀ : I [] s₀)
    (hstep : ∀ log s op tr a s', I log s → ok s op → Exec step (prog op) s tr a s' →
      I (log ++ [⟨op, tr, a⟩]) s')
    {log : List (Entry O C R α)} {s : σ} (h : Runs prog step ok s₀ log s) : I log s := by
  induction h with
  | nil => exact h₀
  | snoc _ hok he ih => exact hstep _ _ _ _ _ _ ih hok he

lemma Runs.mono {step' : σ → (c : C) → R c → σ → Prop} {ok' : σ → O → Prop}
    (hstep : ∀ s c r s', step s c r s' → step' s c r s') (hok : ∀ s op, ok s op → ok' s op)
    {log : List (Entry O C R α)} {s : σ} (h : Runs prog step ok s₀ log s) :
    Runs prog step' ok' s₀ log s := by
  induction h with
  | nil => exact .nil
  | snoc _ hs he ih => exact ih.snoc (hok _ _ hs) (he.mono hstep)

theorem Runs.trans {log log' : List (Entry O C R α)} {s s' : σ} (h : Runs prog step ok s₀ log s)
    (h' : Runs prog step ok s log' s') : Runs prog step ok s₀ (log ++ log') s' := by
  induction h' with
  | nil => rwa [List.append_nil]
  | snoc _ hs he ih =>
    rw [← List.append_assoc]
    exact ih.snoc hs he

theorem Runs.split {pre post : List (Entry O C R α)} {e : Entry O C R α} {s : σ}
    (h : Runs prog step ok s₀ (pre ++ e :: post) s) :
    ∃ s₁ s₂, Runs prog step ok s₀ pre s₁ ∧ ok s₁ e.op ∧
      Exec step (prog e.op) s₁ e.trace e.result s₂ ∧ Runs prog step ok s₂ post s := by
  induction post using List.reverseRecOn generalizing s with
  | nil =>
    generalize hl : pre ++ [e] = log at h
    cases h with
    | nil => simp at hl
    | snoc h hok he =>
      obtain ⟨rfl, rfl⟩ := List.append_singleton_inj.mp hl
      exact ⟨_, _, h, hok, he, .nil⟩
  | append_singleton post e' ih =>
    generalize hl : pre ++ e :: (post ++ [e']) = log at h
    cases h with
    | nil => simp at hl
    | snoc h hok he =>
      rw [← List.cons_append, ← List.append_assoc] at hl
      obtain ⟨rfl, rfl⟩ := List.append_singleton_inj.mp hl
      obtain ⟨s₁, s₂, hpre, hoke, hee, hpost⟩ := ih h
      exact ⟨s₁, s₂, hpre, hoke, hee, hpost.snoc hok he⟩

lemma Runs.eq_of_nil {s : σ} (h : Runs prog step ok s₀ [] s) : s = s₀ := by
  generalize hl : ([] : List (Entry O C R α)) = log at h
  cases h with
  | nil => rfl
  | snoc => simp at hl

lemma Runs.uncons {post : List (Entry O C R α)} {e : Entry O C R α} {s : σ}
    (h : Runs prog step ok s₀ (e :: post) s) :
    ∃ s₁, ok s₀ e.op ∧ Exec step (prog e.op) s₀ e.trace e.result s₁ ∧ Runs prog step ok s₁ post s := by
  obtain ⟨s₁, s₂, hnil, hok, he, hpost⟩ := Runs.split (show Runs prog step ok s₀ ([] ++ e :: post) s from h)
  rw [hnil.eq_of_nil] at hok he
  exact ⟨s₂, hok, he, hpost⟩

/-- Executes operations one after the other against an environment that answers every call. -/
def runAll (prog : O → Prog C R α) (env : σ → (c : C) → R c × σ) (s₀ : σ) (ops : List O) :
    List (Entry O C R α) × σ :=
  ops.foldl (fun (log, s) op =>
    let (tr, a, s') := (prog op).run env s
    (log ++ [⟨op, tr, a⟩], s')) ([], s₀)

theorem runs_runAll_within {env : σ → (c : C) → R c × σ} {q : σ → C → Bool}
    (henv : ∀ s c, q s c = true → step s c (env s c).1 (env s c).2) (ops : List O)
    (hok : ∀ i, (h : i < ops.length) → ok (runAll prog env s₀ (ops.take i)).2 ops[i] ∧
      (prog ops[i]).runsWithin env q (runAll prog env s₀ (ops.take i)).2 = true) :
    Runs prog step ok s₀ (runAll prog env s₀ ops).1 (runAll prog env s₀ ops).2 := by
  induction ops using List.reverseRecOn with
  | nil => exact .nil
  | append_singleton ops op ih =>
    have hrun := ih (by
      intro i h
      have hi := hok i (by simp; omega)
      rwa [List.take_append_of_le_length (Nat.le_of_lt h), List.getElem_append_left h] at hi)
    have hlast := hok ops.length (by simp)
    rw [List.take_left, List.getElem_concat_length rfl] at hlast
    have hnext := hrun.snoc hlast.1 (Prog.run_exec_within henv hlast.2)
    unfold runAll at hnext ⊢
    rw [List.foldl_append]
    exact hnext

theorem runs_runAll_of {env : σ → (c : C) → R c × σ}
    (henv : ∀ s c, step s c (env s c).1 (env s c).2) (ops : List O)
    (hok : ∀ i, (h : i < ops.length) → ok (runAll prog env s₀ (ops.take i)).2 ops[i]) :
    Runs prog step ok s₀ (runAll prog env s₀ ops).1 (runAll prog env s₀ ops).2 :=
  runs_runAll_within (q := fun _ _ => true) (fun s c _ => henv s c) ops
    (fun i h => ⟨hok i h, Prog.runsWithin_true _ _⟩)

lemma runs_runAll {env : σ → (c : C) → R c × σ}
    (henv : ∀ s c, step s c (env s c).1 (env s c).2) (ops : List O)
    (hok : ∀ op ∈ ops, ∀ s, ok s op) :
    Runs prog step ok s₀ (runAll prog env s₀ ops).1 (runAll prog env s₀ ops).2 :=
  runs_runAll_of henv ops (fun _ h => hok _ (List.getElem_mem h) _)

end Runs

end Interaction
