import WalletManager.Proofs.AmountRoundTrip
import WalletManager.Withdrawal.Resolver

/-!
# Derivation paths

The Bitcoin deriver writes the path of an address, and the key of the address is later derived from
the change chain and the index that are read back from it. Every path that is written reads back,
and the reader takes other texts as well.
-/

namespace WalletManager.Proofs

section Numbers

variable {lib : Lib} {cs : List Char} {n : ℕ}

lemma decimalDigits_eq_some :
    decimalDigits cs = some n ↔ cs ≠ [] ∧ (∀ c ∈ cs, c.isDigit) ∧ n = Nat.ofDigitChars 10 cs 0 := by
  rw [decimalDigits, ← List.all_eq_true]
  split
  · rename_i h
    exact ⟨fun hn => ⟨h.1, h.2, (Option.some.inj hn).symm⟩, fun hn => congrArg some hn.2.2.symm⟩
  · rename_i h
    exact ⟨fun hn => (by cases hn), fun hn => absurd ⟨hn.1, hn.2.1⟩ h⟩

lemma toList_toString (n : ℕ) : (toString n).toList = Nat.toDigits 10 n := String.toList_ofList

lemma isDigit_of_mem_toString {n : ℕ} {c : Char} (h : c ∈ (toString n).toList) : c.isDigit := by
  rw [toList_toString] at h
  exact Nat.isDigit_of_mem_toDigits (by omega) (by omega) h

lemma decimalDigits_toString (n : ℕ) : decimalDigits (toString n).toList = some n := by
  refine decimalDigits_eq_some.mpr ⟨?_, fun c hc => isDigit_of_mem_toString hc, ?_⟩
  · rw [toList_toString]
    exact Nat.toDigits_ne_nil
  · rw [toList_toString, Nat.ofDigitChars_ten_toDigits]

lemma atoi_toString (lib : Lib) (h : n < 2 ^ 63) : atoi lib (toString n) = .ok (n : Int) := by
  unfold atoi
  rw [bigIntSetString_digits (decimalDigits_toString n)]
  dsimp only
  rw [if_pos (by omega)]

def IntText (cs : List Char) : Prop :=
  ∃ sign digits, cs = sign ++ digits ∧ digits ≠ [] ∧ (∀ c ∈ digits, c.isDigit) ∧
    ((sign = [] ∨ sign = ['+']) ∧ Nat.ofDigitChars 10 digits 0 < 2 ^ 63 ∨
      sign = ['-'] ∧ Nat.ofDigitChars 10 digits 0 ≤ 2 ^ 63)

lemma bigIntSetString_eq_some {s : String} {z : Int} : bigIntSetString s = some z ↔
    ∃ sign digits, s.toList = sign ++ digits ∧ digits ≠ [] ∧ (∀ c ∈ digits, c.isDigit) ∧
      ((sign = [] ∨ sign = ['+']) ∧ z = Nat.ofDigitChars 10 digits 0 ∨
        sign = ['-'] ∧ z = -(Nat.ofDigitChars 10 digits 0 : Int)) := by
  constructor
  · intro h
    unfold bigIntSetString at h
    split at h <;> obtain ⟨n, hn, rfl⟩ := Option.map_eq_some_iff.mp h <;>
      obtain ⟨hne, hdigits, rfl⟩ := decimalDigits_eq_some.mp hn
    · exact ⟨['-'], _, by assumption, hne, hdigits, .inr ⟨rfl, rfl⟩⟩
    · exact ⟨['+'], _, by assumption, hne, hdigits, .inl ⟨.inr rfl, rfl⟩⟩
    · exact ⟨[], _, rfl, hne, hdigits, .inl ⟨.inl rfl, rfl⟩⟩
  · rintro ⟨sign, digits, htext, hne, hdigits, hvalue⟩
    have hread := decimalDigits_eq_some.mpr ⟨hne, hdigits, rfl⟩
    rcases hvalue with ⟨rfl | rfl, rfl⟩ | ⟨rfl, rfl⟩
    · exact bigIntSetString_digits (by rw [htext]; exact hread)
    · simp [bigIntSetString, htext, hread]
    · simp [bigIntSetString, htext, hread]

lemma atoi_ok_iff (lib : Lib) {s : String} : (∃ z, atoi lib s = .ok z) ↔ IntText s.toList := by
  have hread : (∃ z, atoi lib s = .ok z) ↔ ∃ z, bigIntSetString s = some z ∧ -2 ^ 63 ≤ z ∧ z < 2 ^ 63 := by
    unfold atoi
    cases hz : bigIntSetString s with
    | none => simp
    | some z =>
      dsimp only
      split <;> simp_all
  rw [hread]
  simp only [bigIntSetString_eq_some]
  constructor
  · rintro ⟨z, ⟨sign, digits, htext, hne, hdigits, hvalue⟩, hmin, hmax⟩
    refine ⟨sign, digits, htext, hne, hdigits, ?_⟩
    rcases hvalue with ⟨hsign, rfl⟩ | ⟨hsign, rfl⟩
    · exact .inl ⟨hsign, by omega⟩
    · exact .inr ⟨hsign, by omega⟩
  · rintro ⟨sign, digits, htext, hne, hdigits, ⟨hsign, hrange⟩ | ⟨hsign, hrange⟩⟩
    · exact ⟨_, ⟨sign, digits, htext, hne, hdigits, .inl ⟨hsign, rfl⟩⟩, by omega, by omega⟩
    · exact ⟨_, ⟨sign, digits, htext, hne, hdigits, .inr ⟨hsign, rfl⟩⟩, by omega, by omega⟩

end Numbers

lemma mapError_ok {α : Type} {x : Except Error α} {f : Error → Error} {a : α}
    (h : x.mapError f = .ok a) : x = .ok a := by
  cases x with
  | error err => cases h
  | ok b => exact h

def btcPath (change index : ℕ) : String :=
  "m/84'/0'/0'/" ++ toString change ++ "/" ++ toString index

section Paths

variable {lib : Lib} {s : String} {change index : Int}

lemma splitOn_btcPath (change index : ℕ) : (btcPath change index).toList.splitOn '/' =
    ["m".toList, "84'".toList, "0'".toList, "0'".toList, (toString change).toList,
      (toString index).toList] := by
  have hnumber : ∀ n : ℕ, '/' ∉ (toString n).toList := fun n h =>
    absurd (isDigit_of_mem_toString h) (by decide)
  have hjoin : (btcPath change index).toList = ['/'].intercalate ["m".toList, "84'".toList, "0'".toList,
      "0'".toList, (toString change).toList, (toString index).toList] := by
    simp [btcPath, List.intercalate]
  rw [hjoin]
  refine List.splitOn_intercalate '/' ?_ (by simp)
  intro part hpart
  simp only [List.mem_cons, List.not_mem_nil, or_false] at hpart
  rcases hpart with rfl | rfl | rfl | rfl | rfl | rfl
  · decide
  · decide
  · decide
  · decide
  · exact hnumber change
  · exact hnumber index

lemma parseBTCPath_ok_iff : parseBTCPath lib s = .ok (change, index) ↔ ∃ purpose coin account x y,
    (trimSpace s).toList.splitOn '/' = ["m".toList, purpose, coin, account, x, y] ∧
    atoi lib (String.ofList x) = .ok change ∧ atoi lib (String.ofList y) = .ok index := by
  constructor
  · intro h
    unfold parseBTCPath at h
    split at h
    · rename_i purpose coin account x y hparts
      obtain ⟨a, ha, h⟩ := except_bind_ok h
      obtain ⟨b, hb, h⟩ := except_bind_ok h
      cases h
      have hlists := congrArg (List.map String.toList) hparts
      simp only [List.map_map, List.map_cons, List.map_nil] at hlists
      rw [show String.toList ∘ String.ofList = id from funext fun l => String.toList_ofList,
        List.map_id] at hlists
      refine ⟨_, _, _, _, _, hlists, ?_, ?_⟩
      · rw [String.ofList_toList]
        exact mapError_ok ha
      · rw [String.ofList_toList]
        exact mapError_ok hb
    · cases h
  · rintro ⟨purpose, coin, account, x, y, hparts, hx, hy⟩
    unfold parseBTCPath
    rw [hparts]
    simp only [List.map_cons, List.map_nil, String.ofList_toList, hx, hy]
    rfl

lemma isSpace_of_isDigit {c : Char} (h : c.isDigit) : isSpace c = false := by
  by_contra hspace
  simp only [isSpace, Bool.not_eq_false, decide_eq_true_eq] at hspace
  rcases hspace with hmem | hrange
  · simp only [List.mem_cons, List.not_mem_nil, or_false] at hmem
    rcases hmem with rfl | rfl | rfl | rfl | rfl | rfl | rfl | rfl | rfl | rfl | rfl | rfl | rfl | rfl <;>
      exact absurd h (by decide)
  · have hle : c.toNat ≤ 57 := by
      simp only [Char.isDigit, Bool.and_eq_true, decide_eq_true_eq] at h
      exact h.2
    omega

lemma trimSpace_of_ends {s : String} (hhead : ∀ c ∈ s.toList.head?, isSpace c = false)
    (hlast : ∀ c ∈ s.toList.getLast?, isSpace c = false) : trimSpace s = s := by
  have hkeep : ∀ l : List Char, (∀ c ∈ l.head?, isSpace c = false) → l.dropWhile isSpace = l := by
    intro l hl
    cases l with
    | nil => rfl
    | cons c l => rw [List.dropWhile_cons_of_neg (by rw [hl c rfl]; decide)]
  rw [trimSpace, hkeep _ hhead, hkeep _ (by rwa [List.head?_reverse]), List.reverse_reverse,
    String.ofList_toList]

lemma trimSpace_btcPath (change index : ℕ) : trimSpace (btcPath change index) = btcPath change index := by
  have htext : (btcPath change index).toList =
      "m/84'/0'/0'/".toList ++ (toString change).toList ++ "/".toList ++ (toString index).toList := by
    simp only [btcPath, String.toList_append]
  refine trimSpace_of_ends ?_ ?_
  · rw [htext]
    intro c hc
    obtain rfl : 'm' = c := Option.some.inj hc
    decide
  · rw [htext, List.getLast?_append_of_ne_nil _ (by rw [toList_toString]; exact Nat.toDigits_ne_nil)]
    intro c hc
    exact isSpace_of_isDigit (isDigit_of_mem_toString (List.mem_of_getLast? hc))

/-- The documented grammar, up to surrounding white space. -/
def InGrammar (s : String) (change index : Int) : Prop :=
  ∃ c i : ℕ, c ≤ 1 ∧ i < 2 ^ 31 ∧ trimSpace s = btcPath c i ∧ change = c ∧ index = i

/-- Six parts, of which the first is `m` and the last two are integers. -/
def SixParts (s : String) : Prop :=
  ∃ purpose coin account x y,
    (trimSpace s).toList.splitOn '/' = ["m".toList, purpose, coin, account, x, y] ∧ IntText x ∧ IntText y

lemma parseBTCPath_accepts_iff (lib : Lib) :
    (∃ change index, parseBTCPath lib s = .ok (change, index)) ↔ SixParts s := by
  constructor
  · rintro ⟨change, index, h⟩
    obtain ⟨purpose, coin, account, x, y, hparts, hx, hy⟩ := parseBTCPath_ok_iff.mp h
    refine ⟨purpose, coin, account, x, y, hparts, ?_, ?_⟩
    · simpa using (atoi_ok_iff lib).mp ⟨change, hx⟩
    · simpa using (atoi_ok_iff lib).mp ⟨index, hy⟩
  · rintro ⟨purpose, coin, account, x, y, hparts, hx, hy⟩
    obtain ⟨change, hchange⟩ := (atoi_ok_iff lib (s := String.ofList x)).mpr (by simpa using hx)
    obtain ⟨index, hindex⟩ := (atoi_ok_iff lib (s := String.ofList y)).mpr (by simpa using hy)
    exact ⟨change, index, parseBTCPath_ok_iff.mpr ⟨purpose, coin, account, x, y, hparts, hchange, hindex⟩⟩

lemma parseBTCPath_of_grammar (h : InGrammar s change index) : parseBTCPath lib s = .ok (change, index) := by
  obtain ⟨c, i, hc, hi, htrim, rfl, rfl⟩ := h
  refine parseBTCPath_ok_iff.mpr ⟨_, _, _, _, _, by rw [htrim, splitOn_btcPath], ?_, ?_⟩
  · rw [String.ofList_toList]
    exact atoi_toString lib (by omega)
  · rw [String.ofList_toList]
    exact atoi_toString lib (by omega)

/-- The reader follows the grammar on exactly those texts that are in it or do not have six parts with
`m` in front and integers at the end. It takes every other text with such parts for a path as well. -/
theorem parseBTCPath_grammar_iff (lib : Lib) (s : String) :
    (∀ change index, parseBTCPath lib s = .ok (change, index) ↔ InGrammar s change index) ↔
      (SixParts s → ∃ change index, InGrammar s change index) := by
  constructor
  · intro h hparts
    obtain ⟨change, index, hread⟩ := (parseBTCPath_accepts_iff lib).mpr hparts
    exact ⟨change, index, (h change index).mp hread⟩
  · intro h change index
    refine ⟨fun hread => ?_, parseBTCPath_of_grammar⟩
    obtain ⟨c, i, hin⟩ := h ((parseBTCPath_accepts_iff lib).mp ⟨change, index, hread⟩)
    have hsame := hread.symm.trans (parseBTCPath_of_grammar hin)
    cases hsame
    exact hin

end Paths

/-- The path of an Ethereum address, and one with a negative chain and leading zeros. -/
theorem other_paths_read :
    parseBTCPath referenceLib "m/44'/60'/0'/0/5" = .ok (0, 5) ∧
    parseBTCPath referenceLib "m/84'/0'/0'/-1/007" = .ok (-1, 7) ∧
    (¬∃ change index, InGrammar "m/44'/60'/0'/0/5" change index) ∧
    ¬∃ change index, InGrammar "m/84'/0'/0'/-1/007" change index := by
  have hethereum : parseBTCPath referenceLib "m/44'/60'/0'/0/5" = .ok (0, 5) := by rfl
  have hsigned : parseBTCPath referenceLib "m/84'/0'/0'/-1/007" = .ok (-1, 7) := by rfl
  refine ⟨hethereum, hsigned, ?_, ?_⟩
  · rintro ⟨change, index, c, i, -, -, htrim, -, -⟩
    have hparts := congrArg (fun t => (t.toList.splitOn '/').take 2) htrim
    simp only [splitOn_btcPath, List.take_succ_cons, List.take_zero] at hparts
    exact absurd hparts (by decide)
  · rintro ⟨change, index, hin⟩
    have hsame := hsigned.symm.trans (parseBTCPath_of_grammar hin)
    obtain ⟨c, i, -, -, -, rfl, -⟩ := hin
    simp only [Except.ok.injEq, Prod.mk.injEq] at hsame
    omega

end WalletManager.Proofs
