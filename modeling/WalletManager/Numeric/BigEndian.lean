import Mathlib.Data.Nat.Digits.Lemmas

/-!
# Big-endian bytes

The shortest big-endian byte string of a natural number, and the number that a byte string
denotes.
-/

namespace BigEndian

def bytes (n : ℕ) : List UInt8 := ((Nat.digits 256 n).map UInt8.ofNat).reverse

def value (b : List UInt8) : ℕ := Nat.ofDigits 256 (b.reverse.map UInt8.toNat)

@[simp]
lemma bytes_zero : bytes 0 = [] := rfl

lemma bytes_of_pos {n : ℕ} (hn : 0 < n) : bytes n = bytes (n / 256) ++ [UInt8.ofNat (n % 256)] := by
  simp [bytes, Nat.digits_def' (by decide : 1 < 256) hn]

lemma map_toNat_ofNat {l : List ℕ} (h : ∀ d ∈ l, d < 256) :
    (l.map UInt8.ofNat).map UInt8.toNat = l := by
  have hid : l.map (UInt8.toNat ∘ UInt8.ofNat) = l.map id := by
    refine List.map_congr_left (fun d hd => ?_)
    simpa using h d hd
  rw [List.map_map, hid, List.map_id]

@[simp]
theorem value_bytes (n : ℕ) : value (bytes n) = n := by
  have hdigits : ∀ d ∈ Nat.digits 256 n, d < 256 := fun d hd => Nat.digits_lt_base (by decide) hd
  rw [value, bytes, List.reverse_reverse, map_toNat_ofNat hdigits, Nat.ofDigits_digits]

lemma head_bytes (n : ℕ) : (bytes n).head? ≠ some 0 := by
  induction n using Nat.strong_induction_on with
  | _ n ih =>
    rcases Nat.eq_zero_or_pos n with rfl | hn
    · simp
    rw [bytes_of_pos hn]
    rcases Nat.eq_zero_or_pos (n / 256) with hq | hq
    · intro h
      simp only [hq, bytes_zero, List.nil_append, List.head?_cons, Option.some.injEq] at h
      have hzero := congrArg UInt8.toNat h
      simp at hzero
      omega
    · have hne : bytes (n / 256) ≠ [] := by
        rw [bytes_of_pos hq]
        simp
      rw [List.head?_append_of_ne_nil _ hne]
      exact ih _ (Nat.div_lt_self hn (by decide))

lemma length_bytes_le_iff {n k : ℕ} : (bytes n).length ≤ k ↔ n < 256 ^ k := by
  simpa [bytes] using Nat.digits_length_le_iff (by decide : 1 < 256) n

lemma toNat_lt_of_mem_map {l : List UInt8} {d : ℕ} (hd : d ∈ l.map UInt8.toNat) : d < 256 := by
  obtain ⟨x, -, rfl⟩ := List.mem_map.mp hd
  exact x.toNat_lt

lemma value_lt (b : List UInt8) : value b < 256 ^ b.length := by
  have hlt := Nat.ofDigits_lt_base_pow_length (by decide : 1 < 256)
    (fun _ hd => toNat_lt_of_mem_map hd : ∀ d ∈ b.reverse.map UInt8.toNat, d < 256)
  rwa [List.length_map, List.length_reverse] at hlt

lemma eq_of_value_eq {b b' : List UInt8} (hlen : b.length = b'.length) (h : value b = value b') : b = b' := by
  have hmap := Nat.ofDigits_inj_of_len_eq (by decide : 1 < 256) (by simpa using hlen)
    (fun _ hd => toNat_lt_of_mem_map hd) (fun _ hd => toNat_lt_of_mem_map hd) h
  have hrev := List.map_injective_iff.mpr (fun _ _ => UInt8.toNat_inj.mp) hmap
  exact List.reverse_inj.mp hrev

lemma length_bytes_value (b : List UInt8) :
    b = bytes (value b) ∨ (bytes (value b)).length < b.length := by
  rcases (length_bytes_le_iff.mpr (value_lt b)).lt_or_eq with hlt | heq
  · exact .inr hlt
  · exact .inl (eq_of_value_eq heq.symm (value_bytes _).symm)

lemma value_cons (x : UInt8) (b : List UInt8) : value (x :: b) = value b + 256 ^ b.length * x.toNat := by
  rw [value, List.reverse_cons, List.map_append, Nat.ofDigits_append, List.length_map, List.length_reverse,
    List.map_singleton, Nat.ofDigits_singleton, value]

lemma bytes_value {x : UInt8} {b : List UInt8} (hx : x ≠ 0) : bytes (value (x :: b)) = x :: b := by
  rcases length_bytes_value (x :: b) with heq | hlt
  · exact heq.symm
  · have hsmall := length_bytes_le_iff.mp (Nat.le_of_lt_succ hlt)
    have hpos : 0 < x.toNat := Nat.pos_of_ne_zero fun h0 => hx (UInt8.toNat_inj.mp h0)
    have hlarge := Nat.le_mul_of_pos_right (256 ^ b.length) hpos
    rw [value_cons] at hsmall
    omega

lemma length_bytes_le {n k : ℕ} (h : n < 256 ^ k) : (bytes n).length ≤ k := length_bytes_le_iff.mpr h

lemma length_bytes_pos {n : ℕ} (h : 0 < n) : 0 < (bytes n).length := by
  simp [bytes_of_pos h]

def padded (width n : ℕ) : List UInt8 := List.replicate (width - (bytes n).length) 0 ++ bytes n

lemma length_padded {width n : ℕ} (h : n < 256 ^ width) : (padded width n).length = width := by
  have hlen := length_bytes_le h
  rw [padded, List.length_append, List.length_replicate]
  omega

theorem append_zeros_eq_padded {width n : ℕ} (h : n < 256 ^ width) :
    bytes n ++ List.replicate (width - (bytes n).length) 0 = padded width n ↔
      n = 0 ∨ 256 ^ (width - 1) ≤ n := by
  rw [padded]
  constructor
  · intro heq
    by_contra hsmall
    rw [not_or, not_le] at hsmall
    obtain ⟨hne, hlt⟩ := hsmall
    have hpos := length_bytes_pos (Nat.pos_of_ne_zero hne)
    have hlen := length_bytes_le hlt
    obtain ⟨d, hd⟩ : ∃ d, width - (bytes n).length = d + 1 :=
      Nat.exists_eq_succ_of_ne_zero (by omega)
    have hhead := congrArg List.head? heq
    rw [hd, List.replicate_succ, List.cons_append, List.head?_cons,
      List.head?_append_of_ne_nil _ (List.ne_nil_of_length_pos hpos)] at hhead
    exact head_bytes n hhead
  · rintro (rfl | hfull)
    · simp
    · have hlen : ¬ (bytes n).length ≤ width - 1 := fun hle => by
        have hlt := length_bytes_le_iff.mp hle
        omega
      rw [show width - (bytes n).length = 0 by omega]
      simp

end BigEndian
