import Mathlib.Data.List.Basic
import Mathlib.Tactic.IntervalCases

/-!
# Base64 without padding, for URLs

Three bytes are written as four digits of six bits each, and one or two bytes at the end as two or three
digits. A reader skips line breaks and ignores the bits that are left over.
-/

namespace Base64Url

def digit (n : ℕ) : Char :=
  if n < 26 then Char.ofNat (65 + n)
  else if n < 52 then Char.ofNat (71 + n)
  else if n < 62 then Char.ofNat (n - 4)
  else if n = 62 then '-'
  else '_'

def value (c : Char) : Option ℕ :=
  if 'A' ≤ c ∧ c ≤ 'Z' then some (c.toNat - 65)
  else if 'a' ≤ c ∧ c ≤ 'z' then some (c.toNat - 71)
  else if '0' ≤ c ∧ c ≤ '9' then some (c.toNat + 4)
  else if c = '-' then some 62
  else if c = '_' then some 63
  else none

lemma value_digit {n : ℕ} (h : n < 64) : value (digit n) = some n := by
  interval_cases n <;> rfl

def sextets : List UInt8 → List ℕ
  | [] => []
  | [a] => [a.toNat / 4, a.toNat % 4 * 16]
  | [a, b] => [a.toNat / 4, a.toNat % 4 * 16 + b.toNat / 16, b.toNat % 16 * 4]
  | a :: b :: c :: rest =>
    a.toNat / 4 :: (a.toNat % 4 * 16 + b.toNat / 16) :: (b.toNat % 16 * 4 + c.toNat / 64) :: c.toNat % 64 ::
      sextets rest

def encode (b : List UInt8) : List Char := (sextets b).map digit

def octets : List ℕ → Option (List UInt8)
  | [] => some []
  | [_] => none
  | [a, b] => some [UInt8.ofNat (a * 4 + b / 16)]
  | [a, b, c] => some [UInt8.ofNat (a * 4 + b / 16), UInt8.ofNat (b % 16 * 16 + c / 4)]
  | a :: b :: c :: d :: rest => (octets rest).map (fun l =>
    UInt8.ofNat (a * 4 + b / 16) :: UInt8.ofNat (b % 16 * 16 + c / 4) :: UInt8.ofNat (c % 4 * 64 + d) :: l)

/-- The digits of a text, or the position of the first character that is none. -/
def digits (i : ℕ) : List Char → Except ℕ (List ℕ)
  | [] => .ok []
  | c :: cs =>
    if c = '\n' ∨ c = '\r' then digits (i + 1) cs
    else match value c with
      | none => .error i
      | some n => (digits (i + 1) cs).map (n :: ·)

def decode (s : List Char) : Except ℕ (List UInt8) :=
  match digits 0 s with
  | .error i => .error i
  | .ok l =>
    match octets l with
    | none => .error (s.length - 1)
    | some b => .ok b

lemma sextets_lt (b : List UInt8) : ∀ n ∈ sextets b, n < 64 := by
  induction b using sextets.induct with
  | case1 => simp [sextets]
  | case2 a =>
    have ha := a.toNat_lt
    simp only [sextets, List.forall_mem_cons, List.not_mem_nil, false_implies, implies_true, and_true]
    omega
  | case3 a b =>
    have ha := a.toNat_lt
    have hb := b.toNat_lt
    simp only [sextets, List.forall_mem_cons, List.not_mem_nil, false_implies, implies_true, and_true]
    omega
  | case4 a b c rest ih =>
    have ha := a.toNat_lt
    have hb := b.toNat_lt
    have hc := c.toNat_lt
    simp only [sextets, List.forall_mem_cons]
    exact ⟨by omega, by omega, by omega, by omega, ih⟩

lemma ofNat_toNat_eq {n : ℕ} {a : UInt8} (h : n = a.toNat) : UInt8.ofNat n = a := by
  rw [h, UInt8.ofNat_toNat]

lemma octets_sextets (b : List UInt8) : octets (sextets b) = some b := by
  induction b using sextets.induct with
  | case1 => rfl
  | case2 a =>
    have ha := a.toNat_lt
    rw [sextets, octets, ofNat_toNat_eq (a := a) (by omega)]
  | case3 a b =>
    have ha := a.toNat_lt
    have hb := b.toNat_lt
    rw [sextets, octets, ofNat_toNat_eq (a := a) (by omega), ofNat_toNat_eq (a := b) (by omega)]
  | case4 a b c rest ih =>
    have ha := a.toNat_lt
    have hb := b.toNat_lt
    have hc := c.toNat_lt
    rw [sextets, octets, ih, Option.map_some, ofNat_toNat_eq (a := a) (by omega),
      ofNat_toNat_eq (a := b) (by omega), ofNat_toNat_eq (a := c) (by omega)]

lemma digit_not_break {n : ℕ} (h : n < 64) : ¬(digit n = '\n' ∨ digit n = '\r') := by
  interval_cases n <;> decide

lemma digits_map {l : List ℕ} (h : ∀ n ∈ l, n < 64) (i : ℕ) : digits i (l.map digit) = .ok l := by
  induction l generalizing i with
  | nil => rfl
  | cons n l ih =>
    have hn := h n List.mem_cons_self
    rw [List.map_cons, digits, if_neg (digit_not_break hn), value_digit hn,
      ih (fun m hm => h m (List.mem_cons_of_mem _ hm))]
    rfl

theorem decode_encode (b : List UInt8) : decode (encode b) = .ok b := by
  rw [decode, encode, digits_map (sextets_lt b)]
  dsimp only
  rw [octets_sextets]

theorem not_mem_encode {c : Char} (hc : value c = none) (b : List UInt8) : c ∉ encode b := by
  intro hmem
  obtain ⟨n, hn, rfl⟩ := List.mem_map.mp hmem
  rw [value_digit (sextets_lt b n hn)] at hc
  cases hc

end Base64Url
