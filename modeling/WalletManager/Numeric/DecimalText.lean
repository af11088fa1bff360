import Mathlib.Algebra.Order.Field.Rat
import Mathlib.Data.List.TakeWhile
import Mathlib.Data.Nat.Log
import Mathlib.Data.Nat.Prime.Basic
import Mathlib.Data.Rat.Lemmas
import Mathlib.Tactic.FieldSimp
import Mathlib.Tactic.Positivity
import Mathlib.Tactic.Ring

/-!
# Decimal texts

Rational numbers with a finite decimal expansion, their texts and the parser for them. The
text of a number is canonical, so that writing a number and reading it back is the identity.
-/

namespace DecimalText

def IsDecimal (q : ℚ) : Prop := ∃ (m : ℤ) (k : ℕ), q * 10 ^ k = m

lemma isDecimal_zero : IsDecimal 0 := ⟨0, 0, by simp⟩

lemma IsDecimal.add {a b : ℚ} (ha : IsDecimal a) (hb : IsDecimal b) : IsDecimal (a + b) := by
  obtain ⟨m, k, hm⟩ := ha
  obtain ⟨n, l, hn⟩ := hb
  refine ⟨m * 10 ^ l + n * 10 ^ k, k + l, ?_⟩
  push_cast
  rw [← hm, ← hn]
  ring

lemma IsDecimal.neg {a : ℚ} (ha : IsDecimal a) : IsDecimal (-a) := by
  obtain ⟨m, k, hm⟩ := ha
  refine ⟨-m, k, ?_⟩
  push_cast
  rw [← hm]
  ring

lemma isDecimal_div (m : ℤ) (k : ℕ) : IsDecimal (m / 10 ^ k) := ⟨m, k, by field_simp⟩

lemma IsDecimal.den_dvd {q : ℚ} (h : IsDecimal q) : ∃ k, q.den ∣ 10 ^ k := by
  obtain ⟨m, k, hm⟩ := h
  refine ⟨k, ?_⟩
  have hq : q = ((m : ℤ) : ℚ) / ((10 ^ k : ℕ) : ℤ) := by
    push_cast
    rw [← hm]
    field_simp
  have hdvd := Rat.den_dvd m ((10 ^ k : ℕ) : ℤ)
  rw [Rat.divInt_eq_div, ← hq] at hdvd
  exact_mod_cast hdvd

section Digits

/-- The digits of `m`, with zeros in front so that there are more than `k` of them. -/
def digits (k m : ℕ) : List Char :=
  List.replicate (k + 1 - (Nat.toDigits 10 m).length) '0' ++ Nat.toDigits 10 m

lemma length_digits (k m : ℕ) : k < (digits k m).length := by
  unfold digits
  rw [List.length_append, List.length_replicate]
  omega

lemma isDigit_digits {k m : ℕ} {c : Char} (h : c ∈ digits k m) : c.isDigit := by
  rcases List.mem_append.mp h with h | h
  · rw [(List.mem_replicate.mp h).2]
    rfl
  · exact Nat.isDigit_of_mem_toDigits (by omega) (by omega) h

lemma ofDigitChars_digits (k m : ℕ) : Nat.ofDigitChars 10 (digits k m) 0 = m := by
  unfold digits
  rw [Nat.ofDigitChars_append, Nat.ofDigitChars_replicate_zero, Nat.mul_zero,
    Nat.ofDigitChars_ten_toDigits]

lemma isDigit_ne {c : Char} (h : c.isDigit) : c ≠ '.' ∧ c ≠ '-' ∧ c ≠ '+' := by
  refine ⟨?_, ?_, ?_⟩ <;> rintro rfl <;> exact absurd h (by decide)

end Digits

/-- The text of `m / 10 ^ k` for natural `m`, with exactly `k` digits after the point. -/
def unsigned (k m : ℕ) : List Char :=
  let ds := digits k m
  ds.take (ds.length - k) ++ (if k = 0 then [] else '.' :: ds.drop (ds.length - k))

/-- The text of `m / 10 ^ k`, with exactly `k` digits after the point. -/
def fixed (k : ℕ) (m : ℤ) : String :=
  String.ofList ((if m < 0 then ['-'] else []) ++ unsigned k m.natAbs)

lemma fixed_point {k : ℕ} (hk : k ≠ 0) (m : ℤ) :
    ∃ whole frac, (fixed k m).toList = whole ++ '.' :: frac ∧ frac.length = k := by
  have hlen := length_digits k m.natAbs
  refine ⟨(if m < 0 then ['-'] else []) ++
    (digits k m.natAbs).take ((digits k m.natAbs).length - k),
    (digits k m.natAbs).drop ((digits k m.natAbs).length - k), ?_, ?_⟩
  · rw [fixed, String.toList_ofList, unsigned, if_neg hk, List.append_assoc]
  · rw [List.length_drop]
    omega

def parseUnsigned (cs : List Char) : Option ℚ :=
  let whole := cs.takeWhile (· ≠ '.')
  let frac := (cs.dropWhile (· ≠ '.')).drop 1
  if whole ++ frac ≠ [] ∧ (whole ++ frac).all Char.isDigit then
    some (((Nat.ofDigitChars 10 (whole ++ frac) 0 : ℕ) : ℚ) / 10 ^ frac.length)
  else none

/-- Reads an optional sign, digits and an optional fraction. -/
def parse (s : String) : Option ℚ :=
  match s.toList with
  | '-' :: cs => (parseUnsigned cs).map (fun q => -q)
  | '+' :: cs => parseUnsigned cs
  | cs => parseUnsigned cs

/-- The least `k` from the given one on with `den ∣ 10 ^ k`, within the fuel. -/
def scaleFrom (den : ℕ) : ℕ → ℕ → ℕ
  | 0, k => k
  | fuel + 1, k => if den ∣ 10 ^ k then k else scaleFrom den fuel (k + 1)

def scale (q : ℚ) : ℕ := scaleFrom q.den (Nat.log2 q.den) 0

def format (q : ℚ) : String := fixed (scale q) (q.num * (10 ^ scale q / q.den))

lemma unsigned_split (k m : ℕ) :
    (unsigned k m).takeWhile (· ≠ '.') = (digits k m).take ((digits k m).length - k) ∧
    ((unsigned k m).dropWhile (· ≠ '.')).drop 1 = (digits k m).drop ((digits k m).length - k) := by
  have hdigit : ∀ c ∈ (digits k m).take ((digits k m).length - k), (decide (c ≠ '.')) = true :=
    fun c hc => by simpa using (isDigit_ne (isDigit_digits (List.mem_of_mem_take hc))).1
  unfold unsigned
  dsimp only
  rw [List.takeWhile_append_of_pos hdigit, List.dropWhile_append_of_pos hdigit]
  by_cases hk : k = 0
  · simp [hk]
  · simp [hk]

lemma parseUnsigned_unsigned (k m : ℕ) : parseUnsigned (unsigned k m) = some ((m : ℚ) / 10 ^ k) := by
  obtain ⟨hwhole, hfrac⟩ := unsigned_split k m
  have hlen := length_digits k m
  have hk : ((digits k m).drop ((digits k m).length - k)).length = k := by
    rw [List.length_drop]
    omega
  unfold parseUnsigned
  simp only [hwhole, hfrac, List.take_append_drop, ofDigitChars_digits, hk]
  rw [if_pos]
  constructor
  · intro hnil
    rw [hnil] at hlen
    simp at hlen
  · rw [List.all_eq_true]
    exact fun c hc => isDigit_digits hc

lemma parseUnsigned_digits {cs : List Char} (hne : cs ≠ []) (hall : cs.all Char.isDigit) :
    parseUnsigned cs = some (Nat.ofDigitChars 10 cs 0 : ℕ) := by
  have hpoint : ∀ c ∈ cs, decide (c ≠ '.') = true :=
    fun c hc => by simpa using (isDigit_ne (List.all_eq_true.mp hall c hc)).1
  have hwhole : cs.takeWhile (· ≠ '.') = cs := List.takeWhile_eq_self_iff.mpr hpoint
  have hfrac : cs.dropWhile (· ≠ '.') = [] := List.dropWhile_eq_nil_iff.mpr hpoint
  simp only [parseUnsigned, hwhole, hfrac]
  simp [hne, hall]

lemma unsigned_head (k m : ℕ) {c : Char} {cs : List Char} (h : unsigned k m = c :: cs) :
    c.isDigit := by
  have hlen := length_digits k m
  have hmem : c ∈ (digits k m).take ((digits k m).length - k) := by
    unfold unsigned at h
    dsimp only at h
    cases htake : (digits k m).take ((digits k m).length - k) with
    | nil =>
      have hzero := congrArg List.length htake
      rw [List.length_take, List.length_nil] at hzero
      omega
    | cons d ds =>
      rw [htake, List.cons_append] at h
      rw [(List.cons.inj h).1]
      exact List.mem_cons_self
  exact isDigit_digits (List.mem_of_mem_take hmem)

theorem parse_fixed (k : ℕ) (m : ℤ) : parse (fixed k m) = some ((m : ℚ) / 10 ^ k) := by
  have habs : ((m.natAbs : ℕ) : ℚ) = |(m : ℚ)| := by
    rw [Nat.cast_natAbs, Int.cast_abs]
  unfold parse fixed
  rw [String.toList_ofList]
  by_cases hneg : m < 0
  · have hm : (m : ℚ) < 0 := by exact_mod_cast hneg
    simp only [if_pos hneg, List.singleton_append, parseUnsigned_unsigned, Option.map_some, habs,
      abs_of_neg hm]
    congr 1
    ring
  · have hm : (0 : ℚ) ≤ m := by exact_mod_cast not_lt.mp hneg
    rw [if_neg hneg, List.nil_append]
    have hplain : parseUnsigned (unsigned k m.natAbs) = some ((m : ℚ) / 10 ^ k) := by
      rw [parseUnsigned_unsigned, habs, abs_of_nonneg hm]
    split
    · rename_i cs hcs
      exact absurd rfl (isDigit_ne (unsigned_head k m.natAbs hcs)).2.1
    · rename_i cs hcs
      exact absurd rfl (isDigit_ne (unsigned_head k m.natAbs hcs)).2.2
    · exact hplain

lemma scaleFrom_dvd {den j : ℕ} (hj : den ∣ 10 ^ j) (fuel k : ℕ) (hfuel : j ≤ k + fuel) :
    den ∣ 10 ^ scaleFrom den fuel k := by
  induction fuel generalizing k with
  | zero =>
    unfold scaleFrom
    exact hj.trans (pow_dvd_pow 10 (by omega))
  | succ fuel ih =>
    unfold scaleFrom
    split
    · assumption
    · exact ih (k + 1) (by omega)

/-- Only as many decimal places are needed as the denominator has binary digits. -/
lemma dvd_ten_pow_log2 {d j : ℕ} (h : d ∣ 10 ^ j) : d ∣ 10 ^ Nat.log2 d := by
  have hpos : d ≠ 0 := by
    rintro rfl
    simp at h
  rw [show (10 : ℕ) = 2 * 5 from rfl, mul_pow] at h
  obtain ⟨x, y, hx, hy, rfl⟩ := (Nat.dvd_mul).mp h
  obtain ⟨a, -, rfl⟩ := (Nat.dvd_prime_pow Nat.prime_two).mp hx
  obtain ⟨b, -, rfl⟩ := (Nat.dvd_prime_pow Nat.prime_five).mp hy
  have ha : a ≤ Nat.log2 (2 ^ a * 5 ^ b) := by
    apply (Nat.le_log2 hpos).mpr
    exact Nat.le_mul_of_pos_right _ (by positivity)
  have hb : b ≤ Nat.log2 (2 ^ a * 5 ^ b) := by
    apply (Nat.le_log2 hpos).mpr
    calc 2 ^ b ≤ 5 ^ b := Nat.pow_le_pow_left (by omega) b
      _ ≤ 2 ^ a * 5 ^ b := Nat.le_mul_of_pos_left _ (by positivity)
  rw [show (10 : ℕ) = 2 * 5 from rfl, mul_pow]
  exact Nat.mul_dvd_mul (pow_dvd_pow 2 ha) (pow_dvd_pow 5 hb)

/-- Writing a decimal and reading it back is the identity. -/
theorem parse_format {q : ℚ} (h : IsDecimal q) : parse (format q) = some q := by
  obtain ⟨j, hj⟩ := h.den_dvd
  have hlog := dvd_ten_pow_log2 hj
  have hdvd : q.den ∣ 10 ^ scale q := scaleFrom_dvd hlog _ 0 (by omega)
  obtain ⟨c, hc⟩ := hdvd
  have hden : (q.den : ℚ) ≠ 0 := by exact_mod_cast q.den_ne_zero
  have hpow : (10 : ℚ) ^ scale q = q.den * c := by exact_mod_cast hc
  have hquot : (10 : ℤ) ^ scale q / q.den = c := by
    have hint : (10 : ℤ) ^ scale q = q.den * c := by exact_mod_cast hc
    rw [hint]
    exact Int.mul_ediv_cancel_left _ (by exact_mod_cast q.den_ne_zero)
  have hc0 : (c : ℚ) ≠ 0 := by
    intro hzero
    rw [hzero, mul_zero] at hpow
    exact absurd hpow (by positivity)
  unfold format
  rw [parse_fixed, hquot, hpow]
  congr 1
  push_cast
  rw [mul_div_mul_right _ _ hc0]
  exact q.num_div_den

lemma parseUnsigned_isDecimal {cs : List Char} {q : ℚ} (h : parseUnsigned cs = some q) :
    IsDecimal q := by
  unfold parseUnsigned at h
  dsimp only at h
  split at h
  · cases h
    exact isDecimal_div (Nat.ofDigitChars 10 _ 0 : ℤ) _
  · cases h

theorem parse_isDecimal {s : String} {q : ℚ} (h : parse s = some q) : IsDecimal q := by
  unfold parse at h
  split at h
  · obtain ⟨a, ha, rfl⟩ := Option.map_eq_some_iff.mp h
    exact (parseUnsigned_isDecimal ha).neg
  · exact parseUnsigned_isDecimal h
  · exact parseUnsigned_isDecimal h

end DecimalText
