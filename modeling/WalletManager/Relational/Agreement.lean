import Mathlib.Data.List.AList
import Mathlib.Data.List.Perm.Basic
import Mathlib.Data.List.Sort
import Mathlib.Data.Option.Basic
import Mathlib.Tactic.Common

/-!
# Stores that hold the same rows

Two listings agree when one is, up to order, the other row by row. A map agrees with a table when
its values do and each of them stands under its own key; then a key finds the same row in both, and
an insertion, an update or a removal under a key keeps the agreement.
-/

namespace Relational

section SameRows

variable {A B : Type} {R : A → B → Prop} {l l₁ : List A} {l' l₁' : List B} {a : A} {b : B}

def SameRows (R : A → B → Prop) (l : List A) (l' : List B) : Prop :=
  ∃ l₁, l.Perm l₁ ∧ List.Forall₂ R l₁ l'

lemma sameRows_nil : SameRows R [] [] := ⟨[], .nil, .nil⟩

lemma SameRows.perm_left (h : SameRows R l l') (hperm : l₁.Perm l) : SameRows R l₁ l' := by
  obtain ⟨k, hk, hrows⟩ := h
  exact ⟨k, hperm.trans hk, hrows⟩

lemma SameRows.perm_right (h : SameRows R l l') (hperm : l'.Perm l₁') : SameRows R l l₁' := by
  obtain ⟨k, hk, hrows⟩ := h
  have hcomp : (Relation.Comp List.Perm (List.Forall₂ R)) k l₁' := by
    rw [← List.forall₂_comp_perm_eq_perm_comp_forall₂]
    exact ⟨l', hrows, hperm⟩
  obtain ⟨k', hk', hrows'⟩ := hcomp
  exact ⟨k', hk.trans hk', hrows'⟩

lemma SameRows.concat (h : SameRows R l l') (hab : R a b) : SameRows R (l ++ [a]) (l' ++ [b]) := by
  obtain ⟨k, hk, hrows⟩ := h
  exact ⟨k ++ [a], hk.append_right [a], List.rel_append hrows (.cons hab .nil)⟩

lemma SameRows.exists_right (h : SameRows R l l') (ha : a ∈ l) : ∃ b ∈ l', R a b := by
  obtain ⟨k, hk, hrows⟩ := h
  obtain ⟨i, hi, rfl⟩ := List.mem_iff_getElem.mp (hk.mem_iff.mp ha)
  exact ⟨_, List.getElem_mem (hrows.length_eq ▸ hi), hrows.get hi _⟩

lemma SameRows.exists_left (h : SameRows R l l') (hb : b ∈ l') : ∃ a ∈ l, R a b := by
  obtain ⟨k, hk, hrows⟩ := h
  obtain ⟨i, hi, rfl⟩ := List.mem_iff_getElem.mp hb
  exact ⟨_, hk.mem_iff.mpr (List.getElem_mem (hrows.length_eq ▸ hi)), hrows.get _ hi⟩

lemma SameRows.length_eq (h : SameRows R l l') : l.length = l'.length := by
  obtain ⟨k, hk, hrows⟩ := h
  exact hk.length_eq.trans hrows.length_eq

lemma SameRows.filter {p : A → Bool} {q : B → Bool} (h : SameRows R l l')
    (hpq : ∀ a b, R a b → p a = q b) : SameRows R (l.filter p) (l'.filter q) := by
  obtain ⟨k, hk, hrows⟩ := h
  refine ⟨k.filter p, hk.filter p, List.rel_filter ?_ hrows⟩
  intro a b hab
  dsimp only
  rw [hpq a b hab]

lemma SameRows.map {C D : Type} {S : C → D → Prop} {f : A → C} {g : B → D} (h : SameRows R l l')
    (hfg : ∀ a b, R a b → S (f a) (g b)) : SameRows S (l.map f) (l'.map g) := by
  obtain ⟨k, hk, hrows⟩ := h
  exact ⟨k.map f, hk.map f, List.rel_map (fun a b hab => hfg a b hab) hrows⟩

lemma SameRows.map_mem {C D : Type} {S : C → D → Prop} {f : A → C} {g : B → D} (h : SameRows R l l')
    (hfg : ∀ a ∈ l, ∀ b ∈ l', R a b → S (f a) (g b)) : SameRows S (l.map f) (l'.map g) := by
  obtain ⟨k, hk, hrows⟩ := h
  refine ⟨k.map f, hk.map f, List.forall₂_map_left_iff.mpr (List.forall₂_map_right_iff.mpr ?_)⟩
  refine List.forall₂_iff_get.mpr ⟨hrows.length_eq, fun i hi hi' => ?_⟩
  exact hfg _ (hk.mem_iff.mpr (List.get_mem ..)) _ (List.get_mem ..) (hrows.get hi hi')

lemma SameRows.pairwise {S : A → A → Prop} {S' : B → B → Prop} (h : SameRows R l l') (hl' : l'.Pairwise S')
    (hsymm : ∀ a a', S a a' → S a' a)
    (hS : ∀ a b a' b', R a b → R a' b' → S' b b' → S a a') : l.Pairwise S := by
  obtain ⟨k, hk, hrows⟩ := h
  refine (hk.pairwise_iff (fun {a a'} => hsymm a a')).mpr ?_
  clear hk
  induction hrows with
  | nil => exact .nil
  | @cons a b k l' hab hrows ih =>
    obtain ⟨hhead, htail⟩ := List.pairwise_cons.mp hl'
    refine List.pairwise_cons.mpr ⟨fun a' ha' => ?_, ih htail⟩
    obtain ⟨b', hb', hab'⟩ := SameRows.exists_right ⟨k, .refl _, hrows⟩ ha'
    exact hS a b a' b' hab hab' (hhead b' hb')

lemma SameRows.find? {p : A → Bool} {q : B → Bool} (h : SameRows R l l')
    (hpq : ∀ a b, R a b → p a = q b) (hone : l.Pairwise (fun a a' => ¬(p a ∧ p a'))) :
    Option.Rel R (l.find? p) (l'.find? q) := by
  have hsome : ∀ a ∈ l, p a = true → l.find? p = some a := by
    intro a ha hpa
    obtain ⟨pre, post, rfl⟩ := List.append_of_mem ha
    refine List.find?_eq_some_iff_append.mpr ⟨hpa, pre, post, rfl, fun x hx => ?_⟩
    have hxa := (List.pairwise_append.mp hone).2.2 x hx a List.mem_cons_self
    simp only [hpa, and_true] at hxa
    simpa using hxa
  cases hfind : l'.find? q with
  | none =>
    have hnone : l.find? p = none := by
      refine List.find?_eq_none.mpr (fun a ha hpa => ?_)
      obtain ⟨b, hb, hab⟩ := h.exists_right ha
      exact List.find?_eq_none.mp hfind b hb (hpq a b hab ▸ hpa)
    rw [hnone]
    exact .none
  | some b =>
    obtain ⟨a, ha, hab⟩ := h.exists_left (List.mem_of_find?_eq_some hfind)
    rw [hsome a ha ((hpq a b hab).trans (List.find?_some hfind))]
    exact .some hab

lemma SameRows.forall₂ (h : SameRows R l l') (key : A → Int) (key' : B → Int)
    (hkey : ∀ a b, R a b → key a = key' b) (hl : l.Pairwise (fun a a' => key a ≤ key a'))
    (hl' : l'.Pairwise (fun b b' => key' b ≤ key' b')) (hinj : ∀ a ∈ l, ∀ a' ∈ l, key a = key a' → a = a') :
    List.Forall₂ R l l' := by
  obtain ⟨k, hk, hrows⟩ := h
  have hsorted : k.Pairwise (fun a a' => key a ≤ key a') := by
    clear hk
    induction hrows with
    | nil => exact .nil
    | @cons a b k l' hab hrows ih =>
      obtain ⟨hhead, htail⟩ := List.pairwise_cons.mp hl'
      refine List.pairwise_cons.mpr ⟨fun a' ha' => ?_, ih htail⟩
      obtain ⟨b', hb', hab'⟩ := SameRows.exists_right ⟨k, .refl _, hrows⟩ ha'
      rw [hkey a b hab, hkey a' b' hab']
      exact hhead b' hb'
  have heq : l = k := by
    refine List.Perm.eq_of_pairwise ?_ hl hsorted hk
    intro a a' ha ha' hle hle'
    exact hinj a ha a' (hk.mem_iff.mpr ha') (le_antisymm hle hle')
  rwa [heq]

end SameRows

section Represents

variable {K V Row : Type} [DecidableEq K] {key : V → K} {R : V → Row → Prop}
  {t : AList (fun _ : K => V)} {rows : List Row} {k : K} {v v' : V} {q : Row → Bool}

def values (t : AList (fun _ : K => V)) : List V := t.entries.map Sigma.snd

omit [DecidableEq K] in
lemma mem_values : v ∈ values t ↔ ∃ k, ⟨k, v⟩ ∈ t.entries := by
  unfold values
  rw [List.mem_map]
  constructor
  · rintro ⟨⟨k, v⟩, he, rfl⟩
    exact ⟨k, he⟩
  · rintro ⟨k, he⟩
    exact ⟨_, he, rfl⟩

structure Represents (key : V → K) (R : V → Row → Prop) (t : AList (fun _ : K => V)) (rows : List Row) :
    Prop where
  keyed : ∀ k v, t.lookup k = some v → key v = k
  same : SameRows R (values t) rows

lemma represents_empty : Represents key R ∅ [] where
  keyed k v h := by
    rw [AList.lookup_empty] at h
    cases h
  same := sameRows_nil

lemma Represents.lookup_of_mem (h : Represents key R t rows) (hv : v ∈ values t) :
    t.lookup (key v) = some v := by
  obtain ⟨k, he⟩ := mem_values.mp hv
  have hlookup := AList.mem_lookup_iff.mpr he
  rwa [h.keyed k v hlookup]

lemma Represents.mem_of_lookup (hv : t.lookup k = some v) : v ∈ values t :=
  mem_values.mpr ⟨k, AList.mem_lookup_iff.mp hv⟩

lemma Represents.eq_of_key (h : Represents key R t rows) (hv : v ∈ values t) (hv' : v' ∈ values t)
    (hkey : key v = key v') : v = v' := by
  have hlookup := h.lookup_of_mem hv
  rw [hkey, h.lookup_of_mem hv'] at hlookup
  exact (Option.some.inj hlookup).symm

lemma Represents.lookup (h : Represents key R t rows) (hq : ∀ v r, R v r → (key v = k ↔ q r = true)) :
    Option.Rel R (t.lookup k) (rows.find? q) := by
  cases ht : t.lookup k with
  | none =>
    have hnone : rows.find? q = none := by
      refine List.find?_eq_none.mpr (fun r hr hqr => ?_)
      obtain ⟨v, hv, hvr⟩ := h.same.exists_left hr
      rw [← (hq v r hvr).mpr hqr, h.lookup_of_mem hv] at ht
      cases ht
    rw [hnone]
    exact .none
  | some v =>
    obtain ⟨r, hr, hvr⟩ := h.same.exists_right (mem_of_lookup ht)
    have hqr := (hq v r hvr).mp (h.keyed k v ht)
    cases hfind : rows.find? q with
    | none => exact absurd hqr (List.find?_eq_none.mp hfind r hr)
    | some r' =>
      obtain ⟨v', hv', hvr'⟩ := h.same.exists_left (List.mem_of_find?_eq_some hfind)
      have hkey := (hq v' r' hvr').mpr (List.find?_some hfind)
      rw [h.eq_of_key (mem_of_lookup ht) hv' ((h.keyed k v ht).trans hkey.symm)]
      exact .some hvr'

lemma Represents.no_row (h : Represents key R t rows) (hk : t.lookup k = none)
    (hq : ∀ v r, R v r → (key v = k ↔ q r = true)) : ∀ r ∈ rows, ¬q r = true := by
  have hrel := h.lookup hq
  rw [hk] at hrel
  generalize hfind : rows.find? q = found at hrel
  cases hrel
  exact List.find?_eq_none.mp hfind

lemma Represents.row_of_key (h : Represents key R t rows) (hk : t.lookup k = some v)
    (hq : ∀ v r, R v r → (key v = k ↔ q r = true)) : ∀ r ∈ rows, q r = true → R v r := by
  intro r hr hqr
  obtain ⟨v', hv', hvr⟩ := h.same.exists_left hr
  have hkey := (hq v' r hvr).mpr hqr
  rwa [h.eq_of_key (mem_of_lookup hk) hv' ((h.keyed k v hk).trans hkey.symm)]

lemma Represents.exists_row (h : Represents key R t rows) (hk : t.lookup k = some v)
    (hq : ∀ v r, R v r → (key v = k ↔ q r = true)) : ∃ r ∈ rows, q r = true ∧ R v r := by
  obtain ⟨r, hr, hvr⟩ := h.same.exists_right (mem_of_lookup hk)
  exact ⟨r, hr, (hq v r hvr).mp (h.keyed k v hk), hvr⟩

lemma Represents.lookup_eq_none (h : Represents key R t rows) (hk : ∀ v, ∀ r ∈ rows, R v r → key v ≠ k) :
    t.lookup k = none := by
  cases hv : t.lookup k with
  | none => rfl
  | some v =>
    obtain ⟨r, hr, hvr⟩ := h.same.exists_right (mem_of_lookup hv)
    exact absurd (h.keyed k v hv) (hk v r hr hvr)

lemma Represents.insert_new (h : Represents key R t rows) (hk : t.lookup k = none) (hkey : key v = k)
    {r : Row} (hvr : R v r) : Represents key R (t.insert k v) (rows ++ [r]) := by
  constructor
  · intro k' v' hv'
    by_cases hkk : k' = k
    · rw [hkk, AList.lookup_insert] at hv'
      cases hv'
      exact hkey.trans hkk.symm
    · rw [AList.lookup_insert_ne hkk] at hv'
      exact h.keyed k' v' hv'
  · refine (h.same.concat hvr).perm_left ?_
    have hentries : (t.insert k v).entries = ⟨k, v⟩ :: t.entries :=
      AList.entries_insert_of_notMem (AList.lookup_eq_none.mp hk)
    unfold values
    rw [hentries, List.map_cons]
    exact (List.perm_append_singleton v _).symm

lemma values_split (hv : t.lookup k = some v) : ∃ l₁ l₂, values t = l₁ ++ v :: l₂ ∧
    values (t.erase k) = l₁ ++ l₂ ∧ ∀ v', values (t.insert k v') = v' :: (l₁ ++ l₂) := by
  have hk : k ∈ t.entries.keys := AList.mem_keys.mp (AList.lookup_isSome.mp (Option.isSome_of_eq_some hv))
  obtain ⟨v₁, l₁, l₂, -, hentries, herase⟩ := List.exists_of_kerase hk
  have hmem : (⟨k, v₁⟩ : (_ : K) × V) ∈ t.entries := by
    rw [hentries]
    exact List.mem_append_right _ List.mem_cons_self
  obtain rfl : v₁ = v := by
    have hlookup := AList.mem_lookup_iff.mpr hmem
    rw [hv] at hlookup
    exact (Option.some.inj hlookup).symm
  refine ⟨l₁.map Sigma.snd, l₂.map Sigma.snd, ?_, ?_, fun v' => ?_⟩
  · unfold values
    rw [hentries, List.map_append, List.map_cons]
  · unfold values
    rw [show (t.erase k).entries = _ from herase, List.map_append]
  · unfold values
    rw [AList.entries_insert, herase, List.map_cons, List.map_append]

lemma Represents.key_ne (h : Represents key R t rows) (hv : v ∈ values (t.erase k)) : key v ≠ k := by
  obtain ⟨k', he⟩ := mem_values.mp hv
  have hlookup := AList.mem_lookup_iff.mpr he
  by_cases hkk : k' = k
  · rw [hkk, AList.lookup_erase] at hlookup
    cases hlookup
  · rw [AList.lookup_erase_ne hkk] at hlookup
    exact fun hvk => hkk ((h.keyed k' v hlookup).symm.trans hvk)

lemma Represents.update (h : Represents key R t rows) (hv : t.lookup k = some v) (hkey : key v' = k)
    {g : Row → Row} (hq : ∀ v r, R v r → (key v = k ↔ q r = true)) (hg : ∀ r ∈ rows, R v r → R v' (g r)) :
    Represents key R (t.insert k v') (rows.map (fun r => if q r then g r else r)) := by
  constructor
  · intro k' w hw
    by_cases hkk : k' = k
    · rw [hkk, AList.lookup_insert] at hw
      cases hw
      exact hkey.trans hkk.symm
    · rw [AList.lookup_insert_ne hkk] at hw
      exact h.keyed k' w hw
  · obtain ⟨l₁, l₂, hvalues, herase, hinsert⟩ := values_split hv
    let f : V → V := fun w => if key w = k then v' else w
    have hothers : ∀ l : List V, (∀ w ∈ l, w ∈ l₁ ++ l₂) → l.map f = l := by
      intro l hl
      calc l.map f = l.map (fun w => w) :=
            List.map_congr_left (fun w hw => if_neg (h.key_ne (herase ▸ hl w hw)))
        _ = l := List.map_id' l
    have hmap : (values t).map f = l₁ ++ v' :: l₂ := by
      rw [hvalues, List.map_append, List.map_cons, show f v = v' from if_pos (h.keyed k v hv),
        hothers l₁ (fun w hw => List.mem_append_left _ hw),
        hothers l₂ (fun w hw => List.mem_append_right _ hw)]
    have hrows : SameRows R ((values t).map f) (rows.map (fun r => if q r then g r else r)) := by
      refine h.same.map_mem (fun w hw r hr hwr => ?_)
      by_cases hwk : key w = k
      · rw [show f w = v' from if_pos hwk, if_pos ((hq w r hwr).mp hwk)]
        rw [h.eq_of_key hw (mem_of_lookup hv) (hwk.trans (h.keyed k v hv).symm)] at hwr
        exact hg r hr hwr
      · rw [show f w = w from if_neg hwk, if_neg (fun hqr => hwk ((hq w r hwr).mpr hqr))]
        exact hwr
    refine hrows.perm_left ?_
    rw [hinsert, hmap]
    exact List.perm_middle.symm

lemma Represents.erase (h : Represents key R t rows) (hq : ∀ v r, R v r → (key v = k ↔ q r = true)) :
    Represents key R (t.erase k) (rows.filter (fun r => !q r)) := by
  constructor
  · intro k' w hw
    by_cases hkk : k' = k
    · rw [hkk, AList.lookup_erase] at hw
      cases hw
    · rw [AList.lookup_erase_ne hkk] at hw
      exact h.keyed k' w hw
  · have hvalues : values (t.erase k) = (values t).filter (fun w => decide (key w ≠ k)) := by
      cases hk : t.lookup k with
      | none =>
        have hkeys : k ∉ t.entries.keys := fun hmem => AList.lookup_eq_none.mp hk (AList.mem_keys.mpr hmem)
        have herase : (t.erase k).entries = t.entries := List.kerase_of_notMem_keys hkeys
        have hsame : values (t.erase k) = values t := by
          unfold values
          rw [herase]
        rw [hsame]
        refine (List.filter_eq_self.mpr (fun w hw => ?_)).symm
        exact decide_eq_true (h.key_ne (hsame ▸ hw))
      | some v =>
        obtain ⟨l₁, l₂, hvalues, herase, -⟩ := values_split hk
        have hothers : (l₁ ++ l₂).filter (fun w => decide (key w ≠ k)) = l₁ ++ l₂ :=
          List.filter_eq_self.mpr (fun w hw => decide_eq_true (h.key_ne (herase ▸ hw)))
        rw [herase, hvalues, ← hothers, List.filter_append, List.filter_append, List.filter_cons_of_neg]
        simp [h.keyed k v hk]
    rw [hvalues]
    refine h.same.filter (fun w r hwr => ?_)
    rw [Bool.eq_iff_iff, decide_eq_true_iff, Bool.not_eq_true', Ne, hq w r hwr, Bool.not_eq_true]

end Represents

section Lockstep

variable {S T Q : Type} (step₁ : S → Q → S) (step₂ : T → Q → T)

/-- At each request of the list the states that two machines are then in satisfy `P`. -/
def Lockstep (P : S → T → Q → Prop) : S → T → List Q → Prop
  | _, _, [] => True
  | s, t, q :: qs => P s t q ∧ Lockstep P (step₁ s q) (step₂ t q) qs

variable {step₁ step₂}

lemma Lockstep.and {P P' : S → T → Q → Prop} {s : S} {t : T} {qs : List Q}
    (h : Lockstep step₁ step₂ P s t qs) (h' : Lockstep step₁ step₂ P' s t qs) :
    Lockstep step₁ step₂ (fun s t q => P s t q ∧ P' s t q) s t qs := by
  induction qs generalizing s t with
  | nil => trivial
  | cons q qs ih => exact ⟨⟨h.1, h'.1⟩, ih h.2 h'.2⟩

theorem Lockstep.simulation {I : S → T → Prop} {P P' : S → T → Q → Prop} {s : S} {t : T} {qs : List Q}
    (h : Lockstep step₁ step₂ P s t qs)
    (hstep : ∀ s t q, I s t → P s t q → P' s t q ∧ I (step₁ s q) (step₂ t q)) (hI : I s t) :
    Lockstep step₁ step₂ P' s t qs := by
  induction qs generalizing s t with
  | nil => trivial
  | cons q qs ih =>
    obtain ⟨hP, htail⟩ := h
    obtain ⟨hP', hI'⟩ := hstep s t q hI hP
    exact ⟨hP', ih htail hI'⟩

end Lockstep

end Relational
