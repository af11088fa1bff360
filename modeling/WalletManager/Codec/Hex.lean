import WalletManager.Numeric.Positional

/-!
# Hexadecimal texts

The values of hexadecimal digits, of either case, the bytes that a text of such digits spells, and the
number that it is.
-/

namespace Hex

def digitValue (c : Char) : Option ℕ :=
  if 48 ≤ c.toNat ∧ c.toNat ≤ 57 then some (c.toNat - 48)
  else if 97 ≤ c.toNat ∧ c.toNat ≤ 102 then some (c.toNat - 87)
  else if 65 ≤ c.toNat ∧ c.toNat ≤ 70 then some (c.toNat - 55)
  else none

def Digits (cs : List Char) : Prop := ∀ c ∈ cs, ∃ n, digitValue c = some n

def nibbles (x : UInt8) : List ℕ := [x.toNat / 16, x.toNat % 16]

/-- The text has the digits of the bytes, two for each. -/
def Spells (cs : List Char) (b : List UInt8) : Prop := cs.map digitValue = (b.flatMap nibbles).map some

variable {c c' : Char} {cs cs' : List Char} {n : ℕ} {x : UInt8} {b b' : List UInt8}

lemma digitValue_bounds (h : digitValue c = some n) : n < 16 ∧ c.toNat < 128 := by
  unfold digitValue at h
  split at h
  · cases h
    omega
  · split at h
    · cases h
      omega
    · split at h
      · cases h
        omega
      · cases h

lemma digitValue_of_isDigit (h : c.isDigit) : digitValue c = some (c.toNat - 48) ∧ c.toNat - 48 < 10 := by
  simp only [Char.isDigit, Bool.and_eq_true, decide_eq_true_eq] at h
  have hrange : 48 ≤ c.toNat ∧ c.toNat ≤ 57 := ⟨h.1, h.2⟩
  exact ⟨if_pos hrange, by omega⟩

lemma forall_ascii {P : Char → Prop} (h : ∀ k : Fin 128, P (Char.ofNat k)) (hc : c.toNat < 128) : P c := by
  have hk := h ⟨c.toNat, hc⟩
  rwa [show ((⟨c.toNat, hc⟩ : Fin 128) : ℕ) = c.toNat from rfl, Char.ofNat_toNat] at hk

lemma forall_digit {P : Char → ℕ → Prop}
    (h : ∀ k : Fin 128, ∀ n ∈ digitValue (Char.ofNat k), P (Char.ofNat k) n) (hc : digitValue c = some n) :
    P c n :=
  forall_ascii (P := fun c => ∀ n ∈ digitValue c, P c n) h (digitValue_bounds hc).2 n hc

lemma exists_pair {α : Type} {l : List α} (h : l.length = 2 * (n + 1)) :
    ∃ a a' l', l = a :: a' :: l' ∧ l'.length = 2 * n := by
  obtain ⟨a, l, rfl⟩ := List.exists_cons_of_length_pos (by omega : 0 < l.length)
  rw [List.length_cons] at h
  obtain ⟨a', l, rfl⟩ := List.exists_cons_of_length_pos (by omega : 0 < l.length)
  rw [List.length_cons] at h
  exact ⟨a, a', l, rfl, by omega⟩

@[simp] lemma spells_nil : Spells [] b ↔ b = [] := by
  cases b <;> simp [Spells, nibbles]

@[simp] lemma spells_cons_nil : ¬Spells (c :: c' :: cs) [] := by
  simp [Spells]

@[simp] lemma spells_cons : Spells (c :: c' :: cs) (x :: b) ↔
    digitValue c = some (x.toNat / 16) ∧ digitValue c' = some (x.toNat % 16) ∧ Spells cs b := by
  simp [Spells, nibbles]

lemma length_nibbles (b : List UInt8) : (b.flatMap nibbles).length = 2 * b.length := by
  induction b with
  | nil => rfl
  | cons x b ih =>
    rw [List.flatMap_cons, List.length_append, ih, List.length_cons]
    simp only [nibbles, List.length_cons, List.length_nil]
    omega

lemma Spells.length (h : Spells cs b) : cs.length = 2 * b.length := by
  have hlen := congrArg List.length h
  rwa [List.length_map, List.length_map, length_nibbles] at hlen

lemma Spells.digits (h : Spells cs b) : Digits cs := by
  intro c hc
  have hmem : digitValue c ∈ (b.flatMap nibbles).map some := h ▸ List.mem_map_of_mem hc
  obtain ⟨n, -, hn⟩ := List.mem_map.mp hmem
  exact ⟨n, hn.symm⟩

lemma Spells.congr (h : cs.map digitValue = cs'.map digitValue) : Spells cs b ↔ Spells cs' b := by
  unfold Spells
  rw [h]

lemma Digits.congr (h : cs.map digitValue = cs'.map digitValue) (hcs : Digits cs) : Digits cs' := by
  intro c hc
  have hmem : digitValue c ∈ cs.map digitValue := h ▸ List.mem_map_of_mem hc
  obtain ⟨d, hd, hdc⟩ := List.mem_map.mp hmem
  rw [← hdc]
  exact hcs d hd

lemma exists_spells (hlen : cs.length = 2 * n) (h : Digits cs) : ∃ b, Spells cs b := by
  induction n generalizing cs with
  | zero =>
    obtain rfl := List.length_eq_zero_iff.mp hlen
    exact ⟨[], spells_nil.mpr rfl⟩
  | succ n ih =>
    obtain ⟨c, c', cs, rfl, hrest⟩ := exists_pair hlen
    obtain ⟨hi, hhi⟩ := h c (by simp)
    obtain ⟨lo, hlo⟩ := h c' (by simp)
    obtain ⟨b, hb⟩ := ih hrest fun d hd => h d (by simp [hd])
    have hhi' := (digitValue_bounds hhi).1
    have hlo' := (digitValue_bounds hlo).1
    have hbyte : (UInt8.ofNat (16 * hi + lo)).toNat = 16 * hi + lo := by
      rw [UInt8.toNat_ofNat', Nat.mod_eq_of_lt (by omega)]
    refine ⟨UInt8.ofNat (16 * hi + lo) :: b, spells_cons.mpr ⟨?_, ?_, hb⟩⟩
    · rw [hhi, hbyte]
      congr 1
      omega
    · rw [hlo, hbyte]
      congr 1
      omega

section Numbers

def values (cs : List Char) : List ℕ := cs.map (fun c => (digitValue c).getD 0)

lemma values_append : values (cs ++ cs') = values cs ++ values cs' := List.map_append

def significant (cs : List Char) : List ℕ := (values cs).dropWhile (· = 0)

def value (cs : List Char) : ℕ := Positional.value 16 (values cs)

lemma lt_of_mem_values {d : ℕ} (hd : d ∈ values cs) : d < 16 := by
  obtain ⟨c, -, rfl⟩ := List.mem_map.mp hd
  cases hc : digitValue c with
  | none => exact Nat.succ_pos 15
  | some n => exact (digitValue_bounds hc).1

lemma value_eq_iff : value cs = value cs' ↔ significant cs = significant cs' :=
  Positional.value_eq_iff (by decide) (fun _ => lt_of_mem_values) (fun _ => lt_of_mem_values)

lemma value_lt : value cs < 16 ^ cs.length := by
  have hlt : Positional.value 16 (values cs) < 16 ^ (values cs).length :=
    Positional.value_lt (by decide) fun _ => lt_of_mem_values
  rwa [values, List.length_map] at hlt

end Numbers

end Hex
