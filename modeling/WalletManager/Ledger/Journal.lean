import Mathlib.Data.List.Basic
import Mathlib.Logic.Function.Basic

/-!
# Journals

A journal is a list of notes about the standing of entities. `told x n` is the standing of `x` that
the note `n` reports, if it is about `x`; a journal determines the standing of an entity when its
last note about the entity reports it.
-/

namespace Journal

variable {X V N : Type}

section Covers

variable (tells : N → V → Prop)

/-- Every standing that changes from `v` to `v'` gets a new value, which one of the notes tells. -/
def Covers (v v' : X → Option V) (ns : List N) : Prop :=
  ∀ x, v' x ≠ v x → ∃ y, v' x = some y ∧ ∃ n ∈ ns, tells n y

variable {tells} {v v' v'' : X → Option V} {ns : List N}

lemma Covers.self (v : X → Option V) (ns : List N) : Covers tells v v ns := fun _ h => absurd rfl h

lemma Covers.trans (h : Covers tells v v' ns) (h' : Covers tells v' v'' ns) : Covers tells v v'' ns := by
  intro x hne
  by_cases hx : v'' x = v' x
  · rw [hx] at hne ⊢
    exact h x hne
  · exact h' x hx

lemma Covers.update [DecidableEq X] {x : X} {y : V} {n : N} (hn : n ∈ ns) (htells : tells n y) :
    Covers tells v (Function.update v x (some y)) ns := by
  intro x' hne
  by_cases hx : x' = x
  · subst hx
    exact ⟨y, Function.update_self .., n, hn, htells⟩
  · rw [Function.update_of_ne hx] at hne
    exact absurd rfl hne

end Covers

section Determines

variable (told : X → N → Option V) (tracked : X → Prop)

def lastTold (x : X) (ns : List N) : Option V := (ns.filterMap (told x)).getLast?

def Determines (v : X → Option V) (ns : List N) : Prop :=
  ∀ x y, tracked x → v x = some y → lastTold told x ns = some y

def Tracks (v v' : X → Option V) (ns : List N) : Prop :=
  ∀ x, tracked x → v' x = (lastTold told x ns).or (v x)

variable {told tracked} {v v' : X → Option V} {ms ns : List N}

lemma lastTold_append (x : X) : lastTold told x (ms ++ ns) = (lastTold told x ns).or (lastTold told x ms) := by
  rw [lastTold, List.filterMap_append, List.getLast?_append]
  rfl

theorem Determines.append (h : Determines told tracked v ms) (h' : Tracks told tracked v v' ns) :
    Determines told tracked v' (ms ++ ns) := by
  intro x y hx hy
  rw [h' x hx] at hy
  rw [lastTold_append]
  cases hlast : lastTold told x ns with
  | some z =>
    rw [hlast] at hy
    exact hy
  | none =>
    rw [hlast] at hy
    exact h x y hx hy

lemma Tracks.self (v : X → Option V) : Tracks told tracked v v [] := fun _ _ => rfl

lemma Tracks.untold (hsame : ∀ x, tracked x → v' x = v x) (huntold : ∀ n ∈ ns, ∀ x, tracked x → told x n = none) :
    Tracks told tracked v v' ns := by
  intro x hx
  have hnone : ns.filterMap (told x) = [] := List.filterMap_eq_nil_iff.mpr (fun n hn => huntold n hn x hx)
  rw [lastTold, hnone, hsame x hx]
  rfl

lemma Tracks.update [DecidableEq X] {x : X} {y : V} {n : N} (hlast : told x n = some y)
    (hothers : ∀ m ∈ ns ++ [n], ∀ x', x' ≠ x → tracked x' → told x' m = none) :
    Tracks told tracked v (Function.update v x (some y)) (ns ++ [n]) := by
  intro x' htracked
  rw [lastTold_append]
  by_cases hx : x' = x
  · subst hx
    simp [lastTold, hlast]
  · have hnone : ∀ m ∈ ns ++ [n], told x' m = none := fun m hm => hothers m hm x' hx htracked
    rw [Function.update_of_ne hx]
    simp only [lastTold]
    rw [List.filterMap_eq_nil_iff.mpr (fun m hm => hnone m (List.mem_append_left _ hm)),
      List.filterMap_eq_nil_iff.mpr (fun m hm => hnone m (List.mem_append_right _ hm))]
    rfl

end Determines

end Journal
