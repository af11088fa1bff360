import WalletManager.Interaction.Program
import Mathlib.Logic.Function.Basic

/-!
# Interleaved programs

A pool runs one program per slot and advances any of them by a single call at a time.
`Safe` is the proof rule for pools: a thread owns a ghost value, a pool invariant relates
the ghost values of all threads, the calls made so far and the shared state, and each
call of a thread may change only the ghost value of that thread.
-/

namespace Interaction

variable {C : Type} {R : C → Type} {α β σ T G : Type} [DecidableEq T]

/-- The shared state, the program of each slot, and all calls made so far. -/
structure Pool (T C : Type) (R : C → Type) (α σ : Type) where
  shared : σ
  threads : T → Option (Prog C R α)
  log : List (T × Event C R)

namespace Pool

def Running (P : Pool T C R α σ) (t : T) : Prop := ∃ c k, P.threads t = some (.call c k)

variable (step : σ → (c : C) → R c → σ → Prop) (spawns : T → Prog C R α → Prop)
  (env : σ → σ → Prop)

/-- One step of a pool: a thread makes its next call, a slot that is not running starts a
program, or the environment changes the shared state. -/
inductive Step : Pool T C R α σ → Pool T C R α σ → Prop
  | call {P : Pool T C R α σ} {t : T} {c : C} {k : R c → Prog C R α} {r : R c} {s : σ} :
    P.threads t = some (.call c k) → step P.shared c r s →
    Step P ⟨s, Function.update P.threads t (some (k r)), P.log ++ [(t, ⟨c, r⟩)]⟩
  | spawn {P : Pool T C R α σ} {t : T} {p : Prog C R α} :
    ¬ P.Running t → spawns t p →
    Step P ⟨P.shared, Function.update P.threads t (some p), P.log⟩
  | env {P : Pool T C R α σ} {s : σ} :
    env P.shared s → Step P ⟨s, P.threads, P.log⟩

/-- The pools reachable from an empty pool over `s₀`. -/
inductive Reachable (s₀ : σ) : Pool T C R α σ → Prop
  | init : Reachable s₀ ⟨s₀, fun _ => none, []⟩
  | next {P Q : Pool T C R α σ} : Reachable s₀ P → Step step spawns env P Q → Reachable s₀ Q

/-- The pools reachable when every call meets a condition on the calls made so far, the
shared state, the slot and the call. -/
inductive ReachableIf (ok : List (T × Event C R) → σ → T → C → Prop) (s₀ : σ) :
    Pool T C R α σ → Prop
  | init : ReachableIf ok s₀ ⟨s₀, fun _ => none, []⟩
  | call {P : Pool T C R α σ} {t : T} {c : C} {k : R c → Prog C R α} {r : R c} {s : σ} :
    ReachableIf ok s₀ P → P.threads t = some (.call c k) → ok P.log P.shared t c →
    step P.shared c r s →
    ReachableIf ok s₀ ⟨s, Function.update P.threads t (some (k r)), P.log ++ [(t, ⟨c, r⟩)]⟩
  | spawn {P : Pool T C R α σ} {t : T} {p : Prog C R α} :
    ReachableIf ok s₀ P → ¬ P.Running t → spawns t p →
    ReachableIf ok s₀ ⟨P.shared, Function.update P.threads t (some p), P.log⟩
  | env {P : Pool T C R α σ} {s : σ} :
    ReachableIf ok s₀ P → env P.shared s → ReachableIf ok s₀ ⟨s, P.threads, P.log⟩

end Pool

section Safe

variable (step : σ → (c : C) → R c → σ → Prop)
  (I : (T → G) → List (T × Event C R) → σ → Prop)

/-- Whatever the other threads do, each call of the program in slot `t` keeps the invariant
for some new ghost value of `t`, and the program returns with `Q`. -/
def Safe (t : T) : Prog C R α → G → (α → G → Prop) → Prop
  | .ret a, g, Q => Q a g
  | .call c k, g, Q => ∀ γ log s r s', γ t = g → I γ log s → step s c r s' →
    ∃ g', I (Function.update γ t g') (log ++ [(t, ⟨c, r⟩)]) s' ∧ Safe t (k r) g' Q

variable {step I}

lemma Safe.mono {t : T} {p : Prog C R α} {g : G} {Q Q' : α → G → Prop}
    (h : Safe step I t p g Q) (hQ : ∀ a g, Q a g → Q' a g) : Safe step I t p g Q' := by
  induction p generalizing g with
  | ret a => exact hQ a g h
  | call c k ih =>
    intro γ log s r s' hg hI hs
    obtain ⟨g', hI', h'⟩ := h γ log s r s' hg hI hs
    exact ⟨g', hI', ih r h'⟩

lemma Safe.bind {t : T} {p : Prog C R α} {f : α → Prog C R β} {g : G} {Q : β → G → Prop}
    (h : Safe step I t p g (fun a g' => Safe step I t (f a) g' Q)) :
    Safe step I t (p >>= f) g Q := by
  induction p generalizing g with
  | ret a => exact h
  | call c k ih =>
    intro γ log s r s' hg hI hs
    obtain ⟨g', hI', h'⟩ := h γ log s r s' hg hI hs
    exact ⟨g', hI', ih r h'⟩

lemma Prog.AllCalls.safe {P : C → Prop} {t : T} {p : Prog C R α} {g : G} (hp : p.AllCalls P)
    (hstep : ∀ γ log s c r s', γ t = g → I γ log s → P c → step s c r s' →
      I γ (log ++ [(t, ⟨c, r⟩)]) s') : Safe step I t p g (fun _ g' => g' = g) := by
  induction p with
  | ret a => rfl
  | call c k ih =>
    intro γ log s r s' hg hI hs
    refine ⟨g, ?_, ih r (hp.2 r)⟩
    rw [← hg, Function.update_eq_self]
    exact hstep γ log s c r s' hg hI hp.1 hs

/-- The pool rule. The invariant holds with every slot idle, the environment keeps it, every
program that may start is safe and ends with a ghost value that can be given up. Then it
holds in every reachable pool. -/
theorem Pool.Reachable.invariant {spawns : T → Prog C R α → Prop} {env : σ → σ → Prop} {s₀ : σ}
    (idle : G) (done : G → Prop) (hidle : done idle) (h₀ : I (fun _ => idle) [] s₀)
    (henv : ∀ γ log s s', I γ log s → env s s' → I γ log s')
    (hretire : ∀ γ log s t, I γ log s → done (γ t) → I (Function.update γ t idle) log s)
    (hspawn : ∀ t p, spawns t p → Safe step I t p idle (fun _ g => done g))
    {P : Pool T C R α σ} (h : Pool.Reachable step spawns env s₀ P) :
    ∃ γ, I γ P.log P.shared ∧ ∀ t, match P.threads t with
      | none => done (γ t)
      | some p => Safe step I t p (γ t) (fun _ g => done g) := by
  induction h with
  | init => exact ⟨fun _ => idle, h₀, fun _ => hidle⟩
  | @next P Q _ hs ih =>
    obtain ⟨γ, hI, hsafe⟩ := ih
    cases hs with
    | @call t c k r s ht hs =>
      have hsafet := hsafe t
      rw [ht] at hsafet
      obtain ⟨g', hI', h'⟩ := hsafet γ _ _ r s rfl hI hs
      refine ⟨Function.update γ t g', hI', fun t' => ?_⟩
      by_cases htt : t' = t
      · subst htt
        simpa using h'
      · simpa [htt] using hsafe t'
    | @spawn t p hrun hp =>
      have hdone : done (γ t) := by
        have hsafet := hsafe t
        cases hth : P.threads t with
        | none => rwa [hth] at hsafet
        | some q =>
          cases q with
          | ret a => rwa [hth] at hsafet
          | call c k => exact absurd ⟨c, k, hth⟩ hrun
      refine ⟨Function.update γ t idle, hretire _ _ _ t hI hdone, fun t' => ?_⟩
      by_cases htt : t' = t
      · subst htt
        simpa using hspawn t' p hp
      · simpa [htt] using hsafe t'
    | env he => exact ⟨γ, henv _ _ _ _ hI he, hsafe⟩

/-- The rule for invariants that depend only on which calls the programs can make: each
call that its slot may make and that meets the condition keeps the invariant. -/
theorem Pool.ReachableIf.invariant {spawns : T → Prog C R α → Prop} {env : σ → σ → Prop} {s₀ : σ}
    {ok : List (T × Event C R) → σ → T → C → Prop} {J : List (T × Event C R) → σ → Prop}
    {calls : T → C → Prop} (h₀ : J [] s₀) (hspawn : ∀ t p, spawns t p → p.AllCalls (calls t))
    (henv : ∀ log s s', J log s → env s s' → J log s')
    (hstep : ∀ log s t c r s', J log s → calls t c → ok log s t c → step s c r s' →
      J (log ++ [(t, ⟨c, r⟩)]) s')
    {P : Pool T C R α σ} (h : Pool.ReachableIf step spawns env ok s₀ P) : J P.log P.shared := by
  have hall : J P.log P.shared ∧ ∀ t p, P.threads t = some p → p.AllCalls (calls t) := by
    induction h with
    | init => exact ⟨h₀, fun t p hp => by cases hp⟩
    | @call P t c k r s _ ht hok hs ih =>
      obtain ⟨hJ, hcalls⟩ := ih
      have hp := hcalls t _ ht
      refine ⟨hstep _ _ _ _ _ _ hJ hp.1 hok hs, fun t' p' hp' => ?_⟩
      by_cases htt : t' = t
      · subst htt
        simp only [Function.update_self, Option.some.injEq] at hp'
        subst hp'
        exact hp.2 r
      · exact hcalls t' p' (by simpa [htt] using hp')
    | @spawn P t p _ _ hp ih =>
      obtain ⟨hJ, hcalls⟩ := ih
      refine ⟨hJ, fun t' p' hp' => ?_⟩
      by_cases htt : t' = t
      · subst htt
        simp only [Function.update_self, Option.some.injEq] at hp'
        subst hp'
        exact hspawn t' p hp
      · exact hcalls t' p' (by simpa [htt] using hp')
    | env _ he ih => exact ⟨henv _ _ _ ih.1 he, ih.2⟩
  exact hall.1

end Safe

section Play

variable {step : σ → (c : C) → R c → σ → Prop} {spawns : T → Prog C R α → Prop}
  {env : σ → σ → Prop} {s₀ : σ}

/-- A move of a scheduler: start a program in a slot, or let the slot make its next call. -/
inductive Move (T C : Type) (R : C → Type) (α : Type)
  | start (t : T) (p : Prog C R α)
  | next (t : T)

/-- Plays a move against a store that answers every call; a move that is not possible is
left out. -/
def Pool.play (answer : σ → (c : C) → R c × σ) (P : Pool T C R α σ) :
    Move T C R α → Pool T C R α σ
  | .start t p =>
    match P.threads t with
    | some (.call _ _) => P
    | _ => ⟨P.shared, Function.update P.threads t (some p), P.log⟩
  | .next t =>
    match P.threads t with
    | some (.call c k) =>
      let (r, s) := answer P.shared c
      ⟨s, Function.update P.threads t (some (k r)), P.log ++ [(t, ⟨c, r⟩)]⟩
    | _ => P

theorem Pool.Reachable.play {answer : σ → (c : C) → R c × σ}
    (hanswer : ∀ s c, step s c (answer s c).1 (answer s c).2) {P : Pool T C R α σ}
    (h : Pool.Reachable step spawns env s₀ P) {moves : List (Move T C R α)}
    (hmoves : ∀ t p, .start t p ∈ moves → spawns t p) :
    Pool.Reachable step spawns env s₀ (moves.foldl (Pool.play answer) P) := by
  induction moves generalizing P with
  | nil => exact h
  | cons m moves ih =>
    refine ih ?_ (fun t p hm => hmoves t p (List.mem_cons_of_mem _ hm))
    cases m with
    | start t p =>
      unfold Pool.play
      dsimp only
      split
      · exact h
      · rename_i hidle
        refine h.next (.spawn ?_ (hmoves t p (by simp)))
        rintro ⟨c, k, hrun⟩
        exact hidle c k hrun
    | next t =>
      unfold Pool.play
      dsimp only
      split
      · rename_i c k hrun
        exact h.next (.call hrun (hanswer _ _))
      · exact h

/-- Plays a move only if the call that it makes, if any, is allowed. -/
def Pool.playIf (ok : List (T × Event C R) → σ → T → C → Bool) (answer : σ → (c : C) → R c × σ)
    (P : Pool T C R α σ) (m : Move T C R α) : Pool T C R α σ :=
  match m with
  | .start _ _ => P.play answer m
  | .next t =>
    match P.threads t with
    | some (.call c _) => if ok P.log P.shared t c then P.play answer m else P
    | _ => P

theorem Pool.ReachableIf.playIf {answer : σ → (c : C) → R c × σ}
    {ok : List (T × Event C R) → σ → T → C → Bool}
    (hanswer : ∀ s c, step s c (answer s c).1 (answer s c).2) {P : Pool T C R α σ}
    (h : Pool.ReachableIf step spawns env (fun log s t c => ok log s t c = true) s₀ P)
    {moves : List (Move T C R α)} (hmoves : ∀ t p, .start t p ∈ moves → spawns t p) :
    Pool.ReachableIf step spawns env (fun log s t c => ok log s t c = true) s₀
      (moves.foldl (Pool.playIf ok answer) P) := by
  induction moves generalizing P with
  | nil => exact h
  | cons m moves ih =>
    refine ih ?_ (fun t p hm => hmoves t p (List.mem_cons_of_mem _ hm))
    cases m with
    | start t p =>
      unfold Pool.playIf Pool.play
      dsimp only
      split
      · exact h
      · rename_i hidle
        refine h.spawn ?_ (hmoves t p (by simp))
        rintro ⟨c, k, hrun⟩
        exact hidle c k hrun
    | next t =>
      unfold Pool.playIf
      dsimp only
      split
      · rename_i c k hrun
        split
        · rename_i hok
          unfold Pool.play
          simp only [hrun]
          exact h.call hrun hok (hanswer _ _)
        · exact h
      · exact h

end Play

end Interaction
