import Mathlib.Data.List.Pairwise
import Mathlib.Tactic.Common

/-!
# Tables with unique indexes

A table is a list of rows, no two of which have the same entry in one of its unique indexes. A
statement that would leave two such rows is refused as a whole, with the name of the index.
-/

namespace Relational

variable {Row : Type}

/-- A unique index: its name, and the entry of a row. A row without an entry is not indexed. -/
structure UniqueIndex (Row : Type) where
  name : String
  Key : Type
  [decEq : DecidableEq Key]
  key : Row → Option Key

attribute [instance] UniqueIndex.decEq

namespace UniqueIndex

def total {K : Type} [DecidableEq K] (name : String) (key : Row → K) : UniqueIndex Row :=
  ⟨name, K, fun r => some (key r)⟩

def filtered {K : Type} [DecidableEq K] (name : String) (cond : Row → Bool) (key : Row → K) :
    UniqueIndex Row :=
  ⟨name, K, fun r => if cond r then some (key r) else none⟩

variable (ix : UniqueIndex Row)

def Collide (a b : Row) : Prop := ix.key a ≠ none ∧ ix.key a = ix.key b

instance (a b : Row) : Decidable (ix.Collide a b) := inferInstanceAs (Decidable (_ ∧ _))

def Holds (rows : List Row) : Prop := rows.Pairwise (fun a b => ¬ix.Collide a b)

instance (rows : List Row) : Decidable (ix.Holds rows) := inferInstanceAs (Decidable (List.Pairwise _ _))

variable {ix} {rows : List Row} {p : Row → Bool} {f : Row → Row}

@[simp] lemma total_collide {K : Type} [DecidableEq K] {name : String} {key : Row → K} {a b : Row} :
    (total name key).Collide a b ↔ key a = key b := by
  simp [Collide, total]

@[simp] lemma filtered_collide {K : Type} [DecidableEq K] {name : String} {cond : Row → Bool} {key : Row → K}
    {a b : Row} : (filtered name cond key).Collide a b ↔ cond a ∧ cond b ∧ key a = key b := by
  by_cases ha : cond a <;> by_cases hb : cond b <;> simp [Collide, filtered, ha, hb]

lemma Holds.eq_of_collide (h : ix.Holds rows) {a b : Row} (ha : a ∈ rows) (hb : b ∈ rows)
    (hab : ix.Collide a b) : a = b := by
  by_contra hne
  have hsymm : Std.Symm (fun a b => ¬ix.Collide a b) :=
    ⟨fun x y hxy hyx => hxy ⟨hyx.2 ▸ hyx.1, hyx.2.symm⟩⟩
  exact h.forall ha hb hne hab

lemma holds_concat {row : Row} :
    ix.Holds (rows ++ [row]) ↔ ix.Holds rows ∧ ∀ r ∈ rows, ¬ix.Collide r row := by
  simp [Holds, List.pairwise_append]

lemma Holds.map (h : ix.Holds rows) (hf : ∀ r ∈ rows, ix.key (f r) = none ∨ ix.key (f r) = ix.key r) :
    ix.Holds (rows.map f) := by
  refine List.pairwise_map.mpr (h.imp_of_mem ?_)
  rintro a b ha hb hab ⟨hsome, heq⟩
  refine hab ⟨?_, ?_⟩
  · rwa [(hf a ha).resolve_left hsome] at hsome
  · rw [heq] at hsome
    rwa [(hf a ha).resolve_left (heq ▸ hsome), (hf b hb).resolve_left hsome] at heq

lemma Holds.map_one (h : ix.Holds rows) (hone : rows.Pairwise (fun a b => ¬(p a ∧ p b)))
    (hnew : ∀ a ∈ rows, p a → ∀ b ∈ rows, ¬p b → ¬ix.Collide (f a) b) :
    ix.Holds (rows.map (fun r => if p r then f r else r)) := by
  refine List.pairwise_map.mpr ((h.and hone).imp_of_mem ?_)
  rintro a b ha hb ⟨hab, hnot⟩
  by_cases hpa : p a <;> by_cases hpb : p b
  · exact absurd ⟨hpa, hpb⟩ hnot
  · rw [if_pos hpa, if_neg hpb]
    exact hnew a ha hpa b hb hpb
  · rw [if_neg hpa, if_pos hpb]
    rintro ⟨hsome, heq⟩
    exact hnew b hb hpb a ha hpa ⟨heq ▸ hsome, heq.symm⟩
  · rwa [if_neg hpa, if_neg hpb]

end UniqueIndex

structure IndexedTable (indexes : List (UniqueIndex Row)) where
  rows : List Row
  unique : ∀ ix ∈ indexes, ix.Holds rows

namespace IndexedTable

variable {indexes : List (UniqueIndex Row)}

instance : EmptyCollection (IndexedTable indexes) := ⟨[], fun _ _ => .nil⟩

/-- The table with these rows, or the name of an index that they violate. -/
def ofRows (rows : List Row) : Except String (IndexedTable indexes) :=
  if h : ∀ ix ∈ indexes, ix.Holds rows then .ok ⟨rows, h⟩
  else .error (((indexes.find? (fun ix => ¬ix.Holds rows)).map UniqueIndex.name).getD "")

variable (t : IndexedTable indexes) (p : Row → Bool) (f : Row → Row) (row : Row)

def insert : Except String (IndexedTable indexes) := ofRows (t.rows ++ [row])

/-- `INSERT … ON CONFLICT DO NOTHING` -/
def insertOrIgnore : IndexedTable indexes := (t.insert row).toOption.getD t

/-- `UPDATE … WHERE p` -/
def update : Except String (IndexedTable indexes) :=
  ofRows (t.rows.map (fun r => if p r then f r else r))

/-- `INSERT … ON CONFLICT … DO UPDATE`, where `p` are the rows in conflict. -/
def upsert : Except String (IndexedTable indexes) :=
  if t.rows.any p then t.update p f else t.insert row

def delete : IndexedTable indexes :=
  ⟨t.rows.filter (fun r => !p r), fun ix hix => (t.unique ix hix).sublist List.filter_sublist⟩

variable {t p f row}

lemma ofRows_ok {rows : List Row} (h : ∀ ix ∈ indexes, ix.Holds rows) :
    ofRows rows = .ok (⟨rows, h⟩ : IndexedTable indexes) := dif_pos h

lemma insert_cases (t : IndexedTable indexes) (row : Row) :
    (∃ t', t.insert row = .ok t' ∧ t'.rows = t.rows ++ [row] ∧
      ∀ ix ∈ indexes, ∀ r ∈ t.rows, ¬ix.Collide r row) ∨
    ∃ name, t.insert row = .error name ∧ ∃ ix ∈ indexes, ∃ r ∈ t.rows, ix.Collide r row := by
  by_cases h : ∀ ix ∈ indexes, ix.Holds (t.rows ++ [row])
  · exact .inl ⟨⟨_, h⟩, dif_pos h, rfl, fun ix hix => (UniqueIndex.holds_concat.mp (h ix hix)).2⟩
  · refine .inr ⟨_, dif_neg h, ?_⟩
    push Not at h
    obtain ⟨ix, hix, hnot⟩ := h
    by_contra hnone
    push Not at hnone
    exact hnot (UniqueIndex.holds_concat.mpr ⟨t.unique ix hix, hnone ix hix⟩)

lemma insertOrIgnore_cases (t : IndexedTable indexes) (row : Row) :
    (t.insertOrIgnore row).rows = t.rows ++ [row] ∨
      t.insertOrIgnore row = t ∧ ∃ ix ∈ indexes, ∃ r ∈ t.rows, ix.Collide r row := by
  unfold insertOrIgnore
  rcases insert_cases t row with ⟨t', hok, hrows, -⟩ | ⟨name, herr, hcollide⟩
  · rw [hok]
    exact .inl hrows
  · rw [herr]
    exact .inr ⟨rfl, hcollide⟩

lemma insert_ok (t : IndexedTable indexes) (row : Row)
    (h : ∀ ix ∈ indexes, ∀ r ∈ t.rows, ¬ix.Collide r row) :
    ∃ t', t.insert row = .ok t' ∧ t'.rows = t.rows ++ [row] := by
  rcases insert_cases t row with ⟨t', hok, hrows, -⟩ | ⟨name, -, ix, hix, r, hr, hcollide⟩
  · exact ⟨t', hok, hrows⟩
  · exact absurd hcollide (h ix hix r hr)

lemma update_ok (h : ∀ ix ∈ indexes, ix.Holds (t.rows.map (fun r => if p r then f r else r))) :
    ∃ t', t.update p f = .ok t' ∧ t'.rows = t.rows.map (fun r => if p r then f r else r) :=
  ⟨_, ofRows_ok h, rfl⟩

lemma update_ok_of_keys
    (h : ∀ ix ∈ indexes, ∀ r ∈ t.rows, p r → ix.key (f r) = none ∨ ix.key (f r) = ix.key r) :
    ∃ t', t.update p f = .ok t' ∧ t'.rows = t.rows.map (fun r => if p r then f r else r) := by
  refine update_ok (fun ix hix => (t.unique ix hix).map ?_)
  intro r hr
  split
  · rename_i hp
    exact h ix hix r hr hp
  · exact .inr rfl

lemma update_none (h : ∀ r ∈ t.rows, ¬p r = true) : t.update p f = .ok t := by
  have hmap : t.rows.map (fun r => if p r then f r else r) = t.rows := by
    calc _ = t.rows.map (fun r => r) := List.map_congr_left (fun r hr => if_neg (h r hr))
      _ = t.rows := List.map_id' _
  unfold update
  rw [hmap]
  exact ofRows_ok t.unique

lemma update_congr {p' : Row → Bool} (h : ∀ r ∈ t.rows, p r = p' r) : t.update p f = t.update p' f := by
  unfold update
  rw [List.map_congr_left (fun r hr => by rw [h r hr])]

end IndexedTable

/-- A loop that changes the first row with a property does what an update of all of them does, where
there is at most one. -/
lemma first_eq_map {p : Row → Prop} [DecidablePred p] {f : Row → Row} (loop : List Row → Option (List Row))
    (hnil : loop [] = none)
    (hcons : ∀ a l, loop (a :: l) = if p a then some (f a :: l) else (loop l).map (a :: ·))
    {rows rows' : List Row} (hone : rows.Pairwise (fun a b => ¬(p a ∧ p b))) (h : loop rows = some rows') :
    rows' = rows.map (fun r => if p r then f r else r) := by
  induction rows generalizing rows' with
  | nil =>
    rw [hnil] at h
    cases h
  | cons a rows ih =>
    obtain ⟨hhead, htail⟩ := List.pairwise_cons.mp hone
    rw [hcons] at h
    split at h
    · rename_i hpa
      cases h
      have hrest : rows.map (fun r => if p r then f r else r) = rows := by
        calc _ = rows.map (fun r => r) :=
              List.map_congr_left (fun r hr => if_neg (fun hpr => hhead r hr ⟨hpa, hpr⟩))
          _ = rows := List.map_id' _
      rw [List.map_cons, if_pos hpa, hrest]
    · rename_i hpa
      obtain ⟨rest, hrest, rfl⟩ := Option.map_eq_some_iff.mp h
      rw [List.map_cons, if_neg hpa, ih htail hrest]

lemma first_eq_none {p : Row → Prop} [DecidablePred p] {f : Row → Row} (loop : List Row → Option (List Row))
    (hnil : loop [] = none)
    (hcons : ∀ a l, loop (a :: l) = if p a then some (f a :: l) else (loop l).map (a :: ·))
    {rows : List Row} : loop rows = none ↔ ∀ r ∈ rows, ¬p r := by
  induction rows with
  | nil => simp [hnil]
  | cons a rows ih =>
    rw [hcons, List.forall_mem_cons]
    split
    · simp_all
    · simp_all

end Relational
