import Mathlib.Data.List.Induction
import Mathlib.Data.List.Nodup
import Mathlib.Data.List.Perm.Basic

/-!
# First deliveries

A stream may deliver a message several times, and messages are identified by a key. An
idempotent consumer acts on `firsts key l`, the first message of each key. It depends only
on the set of messages, up to order, when messages with equal keys are equal.
-/

namespace Ledger

variable {α K : Type*} [DecidableEq K] (key : α → K)

def firsts (l : List α) : List α :=
  l.foldl (fun acc a => if key a ∈ acc.map key then acc else acc ++ [a]) []

lemma firsts_append_singleton (l : List α) (a : α) :
    firsts key (l ++ [a]) = if key a ∈ (firsts key l).map key then firsts key l
      else firsts key l ++ [a] := by
  unfold firsts
  rw [List.foldl_append]
  rfl

lemma firsts_append_of_mem {l : List α} {a : α} (h : key a ∈ (firsts key l).map key) :
    firsts key (l ++ [a]) = firsts key l := by
  rw [firsts_append_singleton, if_pos h]

lemma firsts_append_of_notMem {l : List α} {a : α} (h : key a ∉ (firsts key l).map key) :
    firsts key (l ++ [a]) = firsts key l ++ [a] := by
  rw [firsts_append_singleton, if_neg h]

lemma mem_of_mem_firsts {l : List α} {a : α} (h : a ∈ firsts key l) : a ∈ l := by
  induction l using List.reverseRecOn with
  | nil => exact h
  | append_singleton l b ih =>
    rw [firsts_append_singleton] at h
    split at h
    · exact List.mem_append_left _ (ih h)
    · rcases List.mem_append.mp h with h | h
      · exact List.mem_append_left _ (ih h)
      · exact List.mem_append_right _ h

lemma mem_firsts_keys (l : List α) (k : K) : k ∈ (firsts key l).map key ↔ k ∈ l.map key := by
  induction l using List.reverseRecOn with
  | nil => rfl
  | append_singleton l a ih =>
    rw [firsts_append_singleton, List.map_append, List.mem_append, ← ih]
    split
    · rename_i ha
      constructor
      · exact .inl
      · rintro (h | h)
        · exact h
        · rwa [List.mem_singleton.mp h]
    · rw [List.map_append, List.mem_append]

lemma nodup_firsts_keys (l : List α) : ((firsts key l).map key).Nodup := by
  induction l using List.reverseRecOn with
  | nil => exact List.nodup_nil
  | append_singleton l a ih =>
    rw [firsts_append_singleton]
    split
    · exact ih
    · rename_i ha
      rw [List.map_append]
      refine List.Nodup.append ih (List.nodup_singleton _) ?_
      rw [List.map_singleton, List.disjoint_singleton]
      exact ha

lemma firsts_congr {K' : Type*} [DecidableEq K'] {key' : α → K'} {l : List α}
    (h : ∀ a ∈ l, ∀ b ∈ l, key a = key b ↔ key' a = key' b) : firsts key l = firsts key' l := by
  induction l using List.reverseRecOn with
  | nil => rfl
  | append_singleton l a ih =>
    have hl := ih (fun b hb c hc => h b (List.mem_append_left _ hb) c (List.mem_append_left _ hc))
    have hmem : key a ∈ (firsts key l).map key ↔ key' a ∈ (firsts key' l).map key' := by
      rw [← hl, List.mem_map, List.mem_map]
      have hkeys : ∀ b ∈ firsts key l, key b = key a ↔ key' b = key' a := by
        intro b hb
        exact h b (List.mem_append_left _ (mem_of_mem_firsts key hb)) a (by simp)
      constructor
      · rintro ⟨b, hb, heq⟩
        exact ⟨b, hb, (hkeys b hb).mp heq⟩
      · rintro ⟨b, hb, heq⟩
        exact ⟨b, hb, (hkeys b hb).mpr heq⟩
    rw [firsts_append_singleton, firsts_append_singleton, hl]
    simp only [hl] at hmem
    simp only [hmem]

def Consistent (l : List α) : Prop := ∀ a ∈ l, ∀ b ∈ l, key a = key b → a = b

variable {key}

lemma Consistent.mem_firsts {l : List α} (h : Consistent key l) {a : α} : a ∈ firsts key l ↔ a ∈ l := by
  refine ⟨mem_of_mem_firsts key, ?_⟩
  intro ha
  have hkey : key a ∈ (firsts key l).map key :=
    (mem_firsts_keys key l (key a)).mpr (List.mem_map_of_mem ha)
  obtain ⟨b, hb, heq⟩ := List.mem_map.mp hkey
  rwa [← h b (mem_of_mem_firsts key hb) a ha heq]

theorem firsts_perm {l l' : List α} (h : Consistent key l) (h' : Consistent key l')
    (hset : ∀ a, a ∈ l ↔ a ∈ l') : (firsts key l).Perm (firsts key l') := by
  refine (List.perm_ext_iff_of_nodup ?_ ?_).mpr ?_
  · exact (nodup_firsts_keys key l).of_map
  · exact (nodup_firsts_keys key l').of_map
  · intro a
    rw [h.mem_firsts, h'.mem_firsts, hset]

end Ledger
