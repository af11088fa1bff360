import Mathlib.Data.List.Induction
import Mathlib.Order.Defs.LinearOrder
import Mathlib.Tactic.Common

/-!
# Rotation with a cooling period

The keys of one owner. At any time one of them is current; a key that is replaced cools until
a given time, and the first sweep after that time retires it. The phase of a key is a fold
over the events, and is characterised here by which events the history contains.
-/

namespace Rotation

section Since

variable {E : Type}

/-- At some event `φ` held of it and of the events before it, and all later events satisfy `ψ`. -/
def Since (φ : List E → E → Prop) (ψ : E → Prop) (history : List E) : Prop :=
  ∃ before e after, history = before ++ e :: after ∧ φ before e ∧ ∀ x ∈ after, ψ x

variable {φ : List E → E → Prop} {ψ : E → Prop}

lemma not_since_nil : ¬ Since φ ψ [] := by
  rintro ⟨before, e, after, h, -⟩
  simp at h

theorem since_append_singleton {history : List E} {e : E} :
    Since φ ψ (history ++ [e]) ↔ φ history e ∨ Since φ ψ history ∧ ψ e := by
  constructor
  · rintro ⟨before, x, after, heq, hφ, hψ⟩
    rcases List.eq_nil_or_concat after with rfl | ⟨after, y, rfl⟩
    · obtain ⟨rfl, hx⟩ := List.append_inj' heq rfl
      cases hx
      exact .inl hφ
    · rw [List.concat_eq_append] at heq hψ
      have heq' : history ++ [e] = (before ++ x :: after) ++ [y] := by
        rw [heq, List.append_assoc, List.cons_append]
      obtain ⟨rfl, hy⟩ := List.append_inj' heq' rfl
      cases hy
      exact .inr ⟨⟨before, x, after, rfl, hφ, fun z hz => hψ z (by simp [hz])⟩, hψ e (by simp)⟩
  · rintro (hφ | ⟨⟨before, x, after, rfl, hφ, hψ⟩, he⟩)
    · exact ⟨history, e, [], rfl, hφ, by simp⟩
    · refine ⟨before, x, after ++ [e], by simp, hφ, ?_⟩
      intro z hz
      rcases List.mem_append.mp hz with hz | hz
      · exact hψ z hz
      · rw [List.mem_singleton.mp hz]
        exact he

end Since

/-- What happens to the keys: one becomes current and lets its predecessor cool until `till`,
or the keys that have cooled off are retired. -/
inductive Change (K T : Type)
  | promote (k : K) (till : T)
  | sweep (now : T)
  deriving DecidableEq

inductive Phase (T : Type)
  | absent
  | current
  | cooling (till : T)
  | retired
  deriving DecidableEq

variable {K T : Type}

def Change.promoted : Change K T → Option K
  | .promote k _ => some k
  | .sweep _ => none

def latest (history : List (Change K T)) : Option K := (history.filterMap Change.promoted).getLast?

variable (history : List (Change K T))

@[simp] lemma latest_nil : latest ([] : List (Change K T)) = none := rfl

@[simp] lemma latest_append_promote (k : K) (till : T) :
    latest (history ++ [.promote k till]) = some k := by
  simp [latest, Change.promoted]

@[simp] lemma latest_append_sweep (now : T) : latest (history ++ [.sweep now]) = latest history := by
  simp [latest, Change.promoted]

variable [LT T]

/-- The key was replaced and has to cool until `till`. Since then it was not made current again,
and no sweep came after `till`. -/
def CoolingTill (k : K) (till : T) : List (Change K T) → Prop :=
  Since (fun before e => latest before = some k ∧ ∃ k', k' ≠ k ∧ e = .promote k' till)
    (fun e => e.promoted ≠ some k ∧ ∀ now, e = .sweep now → ¬ till < now)

variable [DecidableEq K] [DecidableLT T]

def Phase.replaced (till : T) : Phase T → Phase T
  | .current => .cooling till
  | st => st

def Phase.swept (now : T) : Phase T → Phase T
  | .cooling till => if till < now then .retired else .cooling till
  | st => st

def Phase.next (k : K) (st : Phase T) : Change K T → Phase T
  | .promote k' till => if k' = k then .current else st.replaced till
  | .sweep now => st.swept now

def phase (history : List (Change K T)) (k : K) : Phase T := history.foldl (Phase.next k) .absent

omit [LT T] [DecidableLT T] in
lemma Phase.replaced_eq_current (till : T) (st : Phase T) : st.replaced till ≠ .current := by
  cases st <;> simp [Phase.replaced]

lemma Phase.swept_eq_current {now : T} {st : Phase T} :
    st.swept now = .current ↔ st = .current := by
  cases st <;> simp [Phase.swept]
  split <;> simp

omit [LT T] [DecidableLT T] in
lemma Phase.replaced_eq_cooling {till till' : T} {st : Phase T} :
    st.replaced till = .cooling till' ↔ st = .current ∧ till = till' ∨ st = .cooling till' := by
  cases st <;> simp [Phase.replaced]

lemma Phase.swept_eq_cooling {now till : T} {st : Phase T} :
    st.swept now = .cooling till ↔ st = .cooling till ∧ ¬ till < now := by
  cases st with
  | cooling till' =>
    simp only [Phase.swept, Phase.cooling.injEq]
    split <;> grind
  | _ => simp [Phase.swept]

@[simp] lemma phase_nil (k : K) : phase ([] : List (Change K T)) k = .absent := rfl

lemma phase_append_singleton (e : Change K T) (k : K) :
    phase (history ++ [e]) k = (phase history k).next k e := by
  simp [phase]

@[simp] lemma phase_append_promote (k k' : K) (till : T) :
    phase (history ++ [.promote k' till]) k =
      if k' = k then .current else (phase history k).replaced till :=
  phase_append_singleton history _ k

@[simp] lemma phase_append_sweep (k : K) (now : T) :
    phase (history ++ [.sweep now]) k = (phase history k).swept now :=
  phase_append_singleton history _ k

variable {history} {k : K}

theorem phase_eq_current_iff : phase history k = .current ↔ latest history = some k := by
  induction history using List.reverseRecOn with
  | nil => simp
  | append_singleton history e ih =>
    cases e with
    | promote k' till =>
      rw [phase_append_promote, latest_append_promote]
      split
      · simp_all
      · rename_i hne
        simp [Phase.replaced_eq_current, hne]
    | sweep now => rw [phase_append_sweep, latest_append_sweep, Phase.swept_eq_current, ih]

theorem phase_eq_cooling_iff {till : T} :
    phase history k = .cooling till ↔ CoolingTill k till history := by
  induction history using List.reverseRecOn with
  | nil => simp [CoolingTill, not_since_nil]
  | append_singleton history e ih =>
    rw [CoolingTill, since_append_singleton]
    change _ ↔ _ ∨ CoolingTill k till history ∧ _
    rw [← ih, ← phase_eq_current_iff]
    cases e with
    | promote k' till' =>
      rw [phase_append_promote]
      by_cases hk : k' = k
      · simp [hk, Change.promoted]
      · rw [if_neg hk, Phase.replaced_eq_cooling]
        simp [Change.promoted, hk]
    | sweep now =>
      rw [phase_append_sweep, Phase.swept_eq_cooling]
      simp [Change.promoted]

theorem exists_latest (h : phase history k ≠ .absent) : ∃ k', latest history = some k' := by
  induction history using List.reverseRecOn with
  | nil => simp at h
  | append_singleton history e ih =>
    cases e with
    | promote k' till => exact ⟨k', latest_append_promote _ _ _⟩
    | sweep now =>
      rw [latest_append_sweep]
      apply ih
      intro habsent
      rw [phase_append_sweep, habsent] at h
      exact h rfl

end Rotation
