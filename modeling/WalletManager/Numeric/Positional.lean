import Mathlib.Data.Nat.Digits.Defs
import Mathlib.Data.List.TakeWhile
import Mathlib.Tactic.Common

/-!
# Numbers written with leading zeros

The digits of a number stand with the most significant one in front. Two texts of digits have the same
value exactly when they are equal up to leading zeros.
-/

namespace Positional

def value (b : ℕ) (ds : List ℕ) : ℕ := Nat.ofDigits b ds.reverse

variable {b d : ℕ} {ds ds' : List ℕ}

lemma value_append_singleton : value b (ds ++ [d]) = b * value b ds + d := by
  rw [value, List.reverse_append, List.reverse_singleton, List.singleton_append, Nat.ofDigits_cons, add_comm]
  rfl

lemma value_lt (hb : 1 < b) (hds : ∀ d ∈ ds, d < b) : value b ds < b ^ ds.length := by
  rw [← List.length_reverse]
  exact Nat.ofDigits_lt_base_pow_length hb fun d hd => hds d (List.mem_reverse.mp hd)

lemma digits_value (hb : 1 < b) (hds : ∀ d ∈ ds, d < b) :
    Nat.digits b (value b ds) = (ds.dropWhile (· = 0)).reverse := by
  induction ds with
  | nil => simp [value]
  | cons d ds ih =>
    by_cases hd : d = 0
    · have hvalue : value b (d :: ds) = value b ds := by
        rw [value, List.reverse_cons, Nat.ofDigits_append, hd, value]
        simp
      rw [hvalue, ih fun e he => hds e (by simp [he]), List.dropWhile_cons_of_pos (by simpa using hd)]
    · rw [List.dropWhile_cons_of_neg (by simpa using hd), value]
      refine Nat.digits_ofDigits b hb _ (fun e he => hds e (List.mem_reverse.mp he)) ?_
      intro hne
      simpa using hd

theorem value_eq_iff (hb : 1 < b) (hds : ∀ d ∈ ds, d < b) (hds' : ∀ d ∈ ds', d < b) :
    value b ds = value b ds' ↔ ds.dropWhile (· = 0) = ds'.dropWhile (· = 0) := by
  constructor
  · intro h
    apply List.reverse_inj.mp
    rw [← digits_value hb hds, ← digits_value hb hds', h]
  · intro h
    rw [← Nat.ofDigits_digits b (value b ds), digits_value hb hds, h, ← digits_value hb hds',
      Nat.ofDigits_digits]

end Positional
