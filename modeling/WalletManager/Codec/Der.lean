import WalletManager.Numeric.BigEndian

/-!
# DER signatures

The strict encoding of a signature, a pair of numbers: each of them in its shortest form, with a zero in
front where the first bit is set, behind its tag and its length. It is defined for numbers whose lengths
fit into one byte.
-/

namespace Der

open BigEndian

/-- The content of an integer; that of zero is one zero byte. -/
def content (n : ℕ) : List UInt8 :=
  if (bytes n).headD 0x80 < 0x80 then bytes n else 0 :: bytes n

def integer (n : ℕ) : List UInt8 := 0x02 :: UInt8.ofNat (content n).length :: content n

def signature (r s : ℕ) : List UInt8 :=
  0x30 :: UInt8.ofNat (integer r ++ integer s).length :: (integer r ++ integer s)

variable {b : List UInt8}

lemma length_integer (n : ℕ) : (integer n).length = (content n).length + 2 := rfl

lemma length_signature (r s : ℕ) : (signature r s).length = (content r).length + (content s).length + 6 := by
  simp only [signature, List.length_cons, List.length_append, length_integer]
  omega

lemma content_value (h : b.head? = some 0x30) : content (value b) = b := by
  obtain ⟨rest, rfl⟩ := List.head?_eq_some_iff.mp h
  have hsmall : (0x30 : UInt8) < 0x80 := by decide
  rw [content, bytes_value (by decide)]
  exact if_pos hsmall

/-- The two numbers behind each other, as 64 bytes, are never their DER signature. -/
theorem raw_ne_signature (hlen : b.length = 64) :
    b ≠ signature (value (b.take 32)) (value (b.drop 32)) := by
  intro heq
  have hfirst : b.head? = some 0x30 := by
    rw [heq]
    rfl
  have hr : content (value (b.take 32)) = b.take 32 := by
    refine content_value ?_
    rw [List.head?_take, if_neg (by decide), hfirst]
  -- the first number starts again four bytes later, so that the second one has the same first byte
  have hshift : (b.drop 4).take 32 = b.take 32 := by
    conv_lhs => rw [heq]
    simp only [signature, integer, hr, List.cons_append, List.drop_succ_cons, List.drop_zero]
    rw [List.take_append_of_le_length (by rw [List.length_take]; omega), List.take_take]
    rfl
  have hperiod : ∀ k ≤ 8, b[4 * k]? = b[0]? := by
    intro k
    induction k with
    | zero => exact fun _ => rfl
    | succ k ih =>
      intro hk
      rw [← ih (by omega)]
      have hget := congrArg (fun l => l[4 * k]?) hshift
      rw [List.getElem?_take_of_lt (by omega), List.getElem?_take_of_lt (by omega), List.getElem?_drop] at hget
      rw [← hget]
      congr 1
      omega
  have hs : content (value (b.drop 32)) = b.drop 32 := by
    refine content_value ?_
    rw [List.head?_drop, hperiod 8 le_rfl, ← List.head?_eq_getElem?, hfirst]
  have hcount := congrArg List.length heq
  rw [length_signature, hr, hs, List.length_take, List.length_drop] at hcount
  omega

end Der
