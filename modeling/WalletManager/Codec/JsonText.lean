import Mathlib.Tactic.Common
import WalletManager.Codec.Hex

/-!
# Texts of JSON

Strings with their escapes, as writers that also escape what HTML gives a meaning to put them, and lists
of items between commas. Each is written and read back, with what follows it.
-/

namespace JsonText

def quote : Char := '\x22'

def backslash : Char := '\x5c'

/-- The short escapes, by the letter after the backslash. -/
def shortEscapes : List (Char × Char) :=
  [(quote, quote), (backslash, backslash), ('b', '\x08'), ('f', '\x0c'), ('n', '\n'), ('r', '\x0d'), ('t', '\t')]

def escapeChar (c : Char) : List Char :=
  match shortEscapes.find? (fun e => e.2 = c) with
  | some e => [backslash, e.1]
  | none =>
    if c.toNat < 0x20 ∨ c = '<' ∨ c = '>' ∨ c = '&' then
      [backslash, 'u', '0', '0', Nat.digitChar (c.toNat / 16), Nat.digitChar (c.toNat % 16)]
    else if c.toNat = 0x2028 ∨ c.toNat = 0x2029 then
      [backslash, 'u', '2', '0', '2', Nat.digitChar (c.toNat % 16)]
    else [c]

def escaped (cs : List Char) : List Char := cs.flatMap escapeChar ++ [quote]

/-- The items with commas in between, and the closing bracket. -/
def joined (close : Char) : List (List Char) → List Char
  | [] => [close]
  | [x] => x ++ [close]
  | x :: xs => x ++ ',' :: joined close xs

def hexValue (cs : List Char) : ℕ := cs.foldl (fun n c => n * 16 + (Hex.digitValue c).getD 0) 0

/-- The rest of a string after its opening quote, and what follows it. -/
def readEscaped : List Char → Option (List Char × List Char)
  | [] => none
  | [c] => if c = quote then some ([], []) else none
  | c :: d :: rest =>
    if c = quote then some ([], d :: rest)
    else if c = backslash then
      if d = 'u' then
        match rest with
        | h₁ :: h₂ :: h₃ :: h₄ :: rest =>
          (readEscaped rest).map (Prod.map (Char.ofNat (hexValue [h₁, h₂, h₃, h₄]) :: ·) id)
        | _ => none
      else (readEscaped rest).map (Prod.map ((shortEscapes.lookup d).getD d :: ·) id)
    else (readEscaped (d :: rest)).map (Prod.map (c :: ·) id)

/-- Items up to the closing bracket, `fuel` of them at most, and what follows it. -/
def readItems {α : Type} (item : List Char → Option (α × List Char)) (close : Char) :
    ℕ → List Char → Option (List α × List Char)
  | 0, _ => none
  | fuel + 1, cs =>
    match item cs with
    | some (a, c :: rest) =>
      if c = close then some ([a], rest)
      else if c = ',' then (readItems item close fuel rest).map (Prod.map (a :: ·) id)
      else none
    | _ => none

section Strings

variable {c : Char} {rest : List Char}

lemma readEscaped_plain (hquote : c ≠ quote) (hback : c ≠ backslash) (hrest : rest ≠ []) :
    readEscaped (c :: rest) = (readEscaped rest).map (Prod.map (c :: ·) id) := by
  obtain ⟨d, rest, rfl⟩ := List.exists_cons_of_ne_nil hrest
  rw [readEscaped.eq_def]
  dsimp only
  rw [if_neg hquote, if_neg hback]

lemma readEscaped_unicode {a b c d : Char} :
    readEscaped (backslash :: 'u' :: a :: b :: c :: d :: rest) =
      (readEscaped rest).map (Prod.map (Char.ofNat (hexValue [a, b, c, d]) :: ·) id) := by
  rw [readEscaped, if_neg (by decide), if_pos rfl, if_pos rfl]

lemma hexValue_byte {n : ℕ} (h : n < 128) :
    hexValue ['0', '0', Nat.digitChar (n / 16), Nat.digitChar (n % 16)] = n := by
  have hall : ∀ k : Fin 128, hexValue ['0', '0', Nat.digitChar (k / 16), Nat.digitChar (k % 16)] = k := by decide
  exact hall ⟨n, h⟩

lemma readEscaped_escapeChar (hrest : rest ≠ []) :
    readEscaped (escapeChar c ++ rest) = (readEscaped rest).map (Prod.map (c :: ·) id) := by
  unfold escapeChar
  cases hshort : shortEscapes.find? (fun e => e.2 = c) with
  | some e =>
    have hletter : ∀ e ∈ shortEscapes, e.1 ≠ 'u' ∧ shortEscapes.lookup e.1 = some e.2 := by decide
    obtain ⟨hne, hlookup⟩ := hletter e (List.mem_of_find?_eq_some hshort)
    obtain rfl : e.2 = c := by simpa using List.find?_some hshort
    change readEscaped (backslash :: e.1 :: rest) = _
    rw [readEscaped.eq_def]
    dsimp only
    rw [if_neg (by decide), if_pos rfl, if_neg hne, hlookup]
    rfl
  | none =>
    dsimp only
    have hplain : c ≠ quote ∧ c ≠ backslash := by
      have hnone := List.find?_eq_none.mp hshort
      constructor
      · rintro rfl
        exact hnone (quote, quote) (by decide) (by decide)
      · rintro rfl
        exact hnone (backslash, backslash) (by decide) (by decide)
    split_ifs with hlow hline
    · have hascii : c.toNat < 128 := by
        rcases hlow with h | rfl | rfl | rfl
        · omega
        all_goals decide
      rw [List.cons_append, List.cons_append, List.cons_append, List.cons_append, List.cons_append,
        List.cons_append, List.nil_append, readEscaped_unicode, hexValue_byte hascii, Char.ofNat_toNat]
    · have hvalue : hexValue ['2', '0', '2', Nat.digitChar (c.toNat % 16)] = c.toNat := by
        rcases hline with h | h <;> rw [h] <;> decide
      rw [List.cons_append, List.cons_append, List.cons_append, List.cons_append, List.cons_append,
        List.cons_append, List.nil_append, readEscaped_unicode, hvalue, Char.ofNat_toNat]
    · exact readEscaped_plain hplain.1 hplain.2 hrest

theorem readEscaped_escaped (cs rest : List Char) : readEscaped (escaped cs ++ rest) = some (cs, rest) := by
  unfold escaped
  induction cs with
  | nil => cases rest <;> rw [readEscaped.eq_def] <;> rfl
  | cons c cs ih =>
    rw [List.flatMap_cons, List.append_assoc, List.append_assoc, readEscaped_escapeChar (by simp),
      ← List.append_assoc, ih]
    rfl

end Strings

section Lists

variable {α : Type} {item : List Char → Option (α × List Char)} {write : α → List Char} {close : Char}

lemma length_le_joined (close : Char) (xs : List (List Char)) : xs.length ≤ (joined close xs).length := by
  induction xs with
  | nil => exact Nat.zero_le _
  | cons x xs ih =>
    cases xs with
    | nil => simp [joined]
    | cons y ys =>
      simp only [joined, List.length_cons, List.length_append] at ih ⊢
      omega

theorem readItems_joined (hclose : close ≠ ',')
    (hitem : ∀ a c rest, c = ',' ∨ c = close → item (write a ++ c :: rest) = some (a, c :: rest))
    {xs : List α} (hne : xs ≠ []) (rest : List Char) {fuel : ℕ} (hfuel : xs.length ≤ fuel) :
    readItems item close fuel (joined close (xs.map write) ++ rest) = some (xs, rest) := by
  induction xs generalizing fuel with
  | nil => exact absurd rfl hne
  | cons a xs ih =>
    obtain ⟨fuel, rfl⟩ : ∃ k, fuel = k + 1 := ⟨fuel - 1, by simp at hfuel; omega⟩
    cases xs with
    | nil =>
      have hread := hitem a close rest (.inr rfl)
      simp [joined, readItems, hread]
    | cons b xs =>
      have hread := hitem a ',' (joined close ((b :: xs).map write) ++ rest) (.inl rfl)
      have hlen : (b :: xs).length ≤ fuel := by simpa using hfuel
      have hrest := ih (by simp) hlen
      have hcons : joined close ((a :: b :: xs).map write) ++ rest =
          write a ++ ',' :: (joined close ((b :: xs).map write) ++ rest) := by simp [joined]
      rw [hcons, readItems, hread]
      dsimp only
      rw [if_neg hclose.symm, if_pos rfl, hrest]
      rfl

end Lists

end JsonText
