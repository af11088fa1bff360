import Mathlib.Algebra.Order.Group.Int
import Mathlib.Data.List.Induction
import Mathlib.Data.List.Nodup
import Mathlib.Data.List.Perm.Basic
import Mathlib.Tactic.Common

/-!
# Numbers from a counter

A counter hands out numbers to holders. A holder makes its number final or gives it back; the
counter takes a number back only if it is the last one handed out, and a number that is given
back in any other case is lost. `book` is the account of a history of such acts: below the
counter there are exactly the numbers that are held, kept or lost, each of them once.
-/

namespace Allocation

inductive Act
  | take (n : ℤ)
  | keep (n : ℤ)
  | give (n : ℤ)
  deriving DecidableEq

/-- The numbers by what has become of them, the counter, and the bound of the final numbers. -/
structure Book where
  held : List ℤ := []
  kept : List ℤ := []
  lost : List ℤ := []
  next : ℤ := 0
  high : ℤ := 0

namespace Book

def post (b : Book) : Act → Book
  | .take n => { b with held := b.held ++ [n], next := b.next + 1 }
  | .keep n => { b with held := b.held.erase n, kept := b.kept ++ [n], high := max b.high (n + 1) }
  | .give n =>
    if b.next = n + 1 then { b with held := b.held.erase n, next := n }
    else { b with held := b.held.erase n, lost := b.lost ++ [n] }

def Owns (b : Book) : Act → Prop
  | .take _ => True
  | .keep n | .give n => n ∈ b.held

instance (b : Book) : (a : Act) → Decidable (b.Owns a)
  | .take _ => isTrue trivial
  | .keep n | .give n => inferInstanceAs (Decidable (n ∈ b.held))

def all (b : Book) : List ℤ := b.held ++ b.kept ++ b.lost

structure Sound (b : Book) : Prop where
  nonneg : 0 ≤ b.next
  nodup : b.all.Nodup
  mem_iff : ∀ n, n ∈ b.all ↔ 0 ≤ n ∧ n < b.next
  high : b.kept = [] ∧ b.high = 0 ∨ ∃ m ∈ b.kept, (∀ n ∈ b.kept, n ≤ m) ∧ b.high = m + 1

variable {b b' : Book} {n : ℤ} {a : Act}

lemma sound_empty : Sound {} := by
  refine ⟨le_refl 0, List.nodup_nil, ?_, .inl ⟨rfl, rfl⟩⟩
  intro n
  change n ∈ [] ↔ 0 ≤ n ∧ n < 0
  simp only [List.not_mem_nil, false_iff]
  omega

lemma mem_all : n ∈ b.all ↔ n ∈ b.held ∨ n ∈ b.kept ∨ n ∈ b.lost := by
  simp only [all, List.mem_append, or_assoc]

lemma all_take (n : ℤ) : (b.post (.take n)).all.Perm (n :: b.all) := by
  change (b.held ++ [n] ++ b.kept ++ b.lost).Perm _
  rw [all, List.append_assoc, List.append_assoc, List.singleton_append, List.append_assoc]
  exact List.perm_middle

lemma all_keep (hn : n ∈ b.held) : (b.post (.keep n)).all.Perm b.all := by
  have hheld : (n :: b.held.erase n ++ (b.kept ++ b.lost)).Perm b.all := by
    rw [all, List.append_assoc]
    exact (List.perm_cons_erase hn).symm.append_right _
  apply List.Perm.trans _ hheld
  change (b.held.erase n ++ (b.kept ++ [n]) ++ b.lost).Perm _
  rw [List.append_assoc, List.append_assoc, List.singleton_append, List.cons_append]
  apply List.Perm.trans _ List.perm_middle
  exact List.perm_middle.append_left _

lemma all_give_last (hn : n ∈ b.held) (hlast : b.next = n + 1) :
    (n :: (b.post (.give n)).all).Perm b.all := by
  rw [post, if_pos hlast]
  change (n :: (b.held.erase n ++ b.kept ++ b.lost)).Perm _
  rw [all, List.append_assoc, List.append_assoc, ← List.cons_append]
  exact (List.perm_cons_erase hn).symm.append_right _

lemma all_give_other (hn : n ∈ b.held) (hlast : b.next ≠ n + 1) :
    (b.post (.give n)).all.Perm b.all := by
  rw [post, if_neg hlast]
  change (b.held.erase n ++ b.kept ++ (b.lost ++ [n])).Perm _
  rw [← List.append_assoc]
  apply List.Perm.trans List.perm_append_comm
  rw [all, List.singleton_append, List.append_assoc, List.append_assoc, ← List.cons_append]
  exact (List.perm_cons_erase hn).symm.append_right _

lemma Sound.high_keep (h : b.Sound) (hn : 0 ≤ n) :
    ∃ m ∈ b.kept ++ [n], (∀ k ∈ b.kept ++ [n], k ≤ m) ∧ max b.high (n + 1) = m + 1 := by
  have hmem : n ∈ b.kept ++ [n] := List.mem_append_right _ (List.mem_singleton_self n)
  rcases h.high with ⟨hnil, hzero⟩ | ⟨m, hm, hle, heq⟩
  · refine ⟨n, hmem, ?_, by omega⟩
    rw [hnil]
    intro k hk
    exact (List.mem_singleton.mp hk).le
  · by_cases hmn : m ≤ n
    · refine ⟨n, hmem, ?_, by omega⟩
      intro k hk
      rcases List.mem_append.mp hk with hk | hk
      · exact (hle k hk).trans hmn
      · exact (List.mem_singleton.mp hk).le
    · refine ⟨m, List.mem_append_left _ hm, ?_, by omega⟩
      intro k hk
      rcases List.mem_append.mp hk with hk | hk
      · exact hle k hk
      · rw [List.mem_singleton.mp hk]
        omega

theorem Sound.post (h : b.Sound) (ha : b.Owns a) (hnext : ∀ n, a = .take n → n = b.next) :
    (b.post a).Sound := by
  cases a with
  | take n =>
    obtain rfl := hnext n rfl
    have hall := b.all_take b.next
    refine ⟨Int.add_nonneg h.nonneg zero_le_one, ?_, ?_, h.high⟩
    · apply hall.nodup_iff.mpr
      apply List.nodup_cons.mpr
      refine ⟨?_, h.nodup⟩
      intro hmem
      have hlt := ((h.mem_iff b.next).mp hmem).2
      omega
    · intro n
      have hnonneg := h.nonneg
      rw [hall.mem_iff, List.mem_cons, h.mem_iff]
      change _ ↔ 0 ≤ n ∧ n < b.next + 1
      omega
  | keep n =>
    have hheld : n ∈ b.held := ha
    have hn := (h.mem_iff n).mp (mem_all.mpr (.inl hheld))
    have hall := all_keep hheld
    refine ⟨h.nonneg, hall.nodup_iff.mpr h.nodup, ?_, .inr (h.high_keep hn.1)⟩
    intro k
    rw [hall.mem_iff]
    exact h.mem_iff k
  | give n =>
    have hheld : n ∈ b.held := ha
    have hn := (h.mem_iff n).mp (mem_all.mpr (.inl hheld))
    by_cases hlast : b.next = n + 1
    · have hall := all_give_last hheld hlast
      have hpost : (b.post (.give n)).next = n := by rw [Book.post, if_pos hlast]
      have hnodup := List.nodup_cons.mp (hall.nodup_iff.mpr h.nodup)
      refine ⟨by omega, hnodup.2, ?_, ?_⟩
      · intro k
        have hk : k = n ∨ k ∈ (b.post (.give n)).all ↔ 0 ≤ k ∧ k < b.next := by
          rw [← h.mem_iff, ← hall.mem_iff, List.mem_cons]
        rw [hpost]
        constructor
        · intro hmem
          have hne : k ≠ n := fun heq => hnodup.1 (heq ▸ hmem)
          have hlt := hk.mp (.inr hmem)
          omega
        · intro hlt
          rcases hk.mpr ⟨hlt.1, by omega⟩ with rfl | hmem
          · omega
          · exact hmem
      · rw [Book.post, if_pos hlast]
        exact h.high
    · have hall := all_give_other hheld hlast
      have hpost : (b.post (.give n)).next = b.next := by rw [Book.post, if_neg hlast]
      refine ⟨hpost.symm ▸ h.nonneg, hall.nodup_iff.mpr h.nodup, ?_, ?_⟩
      · intro k
        rw [hall.mem_iff, hpost]
        exact h.mem_iff k
      · rw [Book.post, if_neg hlast]
        exact h.high

lemma lost_give (n : ℤ) :
    (b.post (.give n)).lost = if b.next = n + 1 then b.lost else b.lost ++ [n] := by
  rw [Book.post]
  split <;> rfl

end Book

lemma forall_split_iff {α : Type} {l : List α} {P : List α → α → Prop} :
    (∀ pre a post, l = pre ++ a :: post → P pre a) ↔
      ∀ i, (h : i < l.length) → P (l.take i) l[i] := by
  constructor
  · intro hsplit i h
    apply hsplit (l.take i) l[i] (l.drop (i + 1))
    rw [List.getElem_cons_drop, List.take_append_drop]
  · rintro h pre a post rfl
    have hi := h pre.length (by simp)
    rwa [List.take_left, List.getElem_append_right le_rfl, getElem_congr_idx (Nat.sub_self _)] at hi

def book (acts : List Act) : Book := acts.foldl Book.post {}

lemma book_concat (acts : List Act) (a : Act) : book (acts ++ [a]) = (book acts).post a := by
  rw [book, List.foldl_append]
  rfl

def Owned (acts : List Act) : Prop :=
  ∀ pre a post, acts = pre ++ a :: post → (book pre).Owns a

variable {acts : List Act} {n : ℤ}

instance : Decidable (Owned acts) := decidable_of_iff' _ forall_split_iff

lemma Owned.append_left {acts' : List Act} (h : Owned (acts ++ acts')) : Owned acts := by
  intro pre a post hacts
  apply h pre a (post ++ acts')
  rw [hacts, List.append_assoc, List.cons_append]

lemma Owned.last {a : Act} (h : Owned (acts ++ [a])) : (book acts).Owns a :=
  h acts a [] rfl

theorem mem_lost : n ∈ (book acts).lost ↔
    ∃ pre post, acts = pre ++ .give n :: post ∧ (book pre).next ≠ n + 1 := by
  induction acts using List.reverseRecOn with
  | nil =>
    constructor
    · intro h
      cases h
    · rintro ⟨pre, post, h, -⟩
      simp at h
  | append_singleton acts a ih =>
    have hsplit : (∃ pre post, acts ++ [a] = pre ++ .give n :: post ∧ (book pre).next ≠ n + 1) ↔
        n ∈ (book acts).lost ∨ a = .give n ∧ (book acts).next ≠ n + 1 := by
      rw [ih]
      constructor
      · rintro ⟨pre, post, h, hne⟩
        rcases List.eq_nil_or_concat post with rfl | ⟨post, b, rfl⟩
        · obtain ⟨rfl, rfl⟩ := List.append_singleton_inj.mp h
          exact .inr ⟨rfl, hne⟩
        · rw [List.concat_eq_append, ← List.cons_append, ← List.append_assoc] at h
          exact .inl ⟨pre, post, (List.append_singleton_inj.mp h).1, hne⟩
      · rintro (⟨pre, post, rfl, hne⟩ | ⟨rfl, hne⟩)
        · exact ⟨pre, post ++ [a], by simp, hne⟩
        · exact ⟨acts, [], rfl, hne⟩
    rw [hsplit, book_concat]
    cases a with
    | take m | keep m =>
      change n ∈ (book acts).lost ↔ _
      simp
    | give m =>
      rw [Book.lost_give]
      grind

end Allocation
