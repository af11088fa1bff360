import WalletManager.Codec.Hex
import WalletManager.Deriver.Secp
import WalletManager.Proofs.DerivationPaths

/-!
# The spellings of an EVM address

The derivers write an address in the capitalization of EIP-55, and the transaction builder reads it
back. Whatever the hash function is, the capitalization depends on the digits alone, and the reader
looks at nothing but the digits.
-/

namespace WalletManager.Proofs

open Hex

section Bytes

lemma utf8_eq (s : String) : utf8 s = s.toList.flatMap String.utf8EncodeChar := by
  change s.toByteArray.data.toList = _
  rw [← String.utf8Encode_toList]
  simp [List.utf8Encode]

lemma utf8EncodeChar_ascii {c : Char} (h : c.toNat < 128) :
    String.utf8EncodeChar c = [UInt8.ofNat c.toNat] := by
  have hle : c.val.toNat ≤ 127 := by
    change c.toNat ≤ 127
    omega
  exact if_pos hle

lemma utf8_ascii {s : String} (h : ∀ c ∈ s.toList, c.toNat < 128) :
    utf8 s = s.toList.map (fun c => UInt8.ofNat c.toNat) := by
  rw [utf8_eq]
  generalize s.toList = cs at h
  induction cs with
  | nil => rfl
  | cons c cs ih =>
    rw [List.flatMap_cons, utf8EncodeChar_ascii (h c (by simp)), ih fun d hd => h d (by simp [hd])]
    rfl

lemma ascii_of_utf8EncodeChar {c : Char} (h : ∀ x ∈ String.utf8EncodeChar c, x < 128) : c.toNat < 128 := by
  by_contra hc
  have hbig : ¬c.val.toNat ≤ 127 := fun hle => hc (by change c.val.toNat < 128; omega)
  unfold String.utf8EncodeChar at h
  rw [if_neg hbig] at h
  have hfirst : ∀ {n : ℕ} {rest : List UInt8}, 128 ≤ n → n < 256 →
      ¬∀ x ∈ UInt8.ofNat n :: rest, x < 128 := by
    intro n rest hle hlt hall
    have hn := UInt8.lt_iff_toNat_lt.mp (hall _ List.mem_cons_self)
    rw [UInt8.toNat_ofNat', Nat.mod_eq_of_lt (by omega), show (128 : UInt8).toNat = 128 from rfl] at hn
    omega
  split at h
  · exact hfirst (by omega) (by omega) h
  · split at h
    · exact hfirst (by omega) (by omega) h
    · exact hfirst (by omega) (by omega) h

lemma ascii_of_utf8 {s : String} (h : ∀ x ∈ utf8 s, x < 128) : ∀ c ∈ s.toList, c.toNat < 128 := by
  intro c hc
  refine ascii_of_utf8EncodeChar fun x hx => h x ?_
  rw [utf8_eq]
  exact List.mem_flatMap.mpr ⟨c, hc, hx⟩

end Bytes

section Reading

variable {lib : Lib} {s : String} {c : Char} {cs cs' : List Char} {b out : Bytes} {n : ℕ}

lemma hexNibble_ascii (h : c.toNat < 128) :
    hexNibble (UInt8.ofNat c.toNat) = (digitValue c).map UInt8.ofNat :=
  forall_ascii (P := fun c => hexNibble (UInt8.ofNat c.toNat) = (digitValue c).map UInt8.ofNat) (by decide) h

lemma lt_of_hexNibble {x v : UInt8} (h : hexNibble x = some v) : x < 128 := by
  by_contra hx
  rw [UInt8.not_lt] at hx
  have h57 : ¬x ≤ 57 := fun hle => absurd (UInt8.le_trans hx hle) (by decide)
  have h102 : ¬x ≤ 102 := fun hle => absurd (UInt8.le_trans hx hle) (by decide)
  have h70 : ¬x ≤ 70 := fun hle => absurd (UInt8.le_trans hx hle) (by decide)
  simp [hexNibble, h57, h102, h70] at h

lemma pair_toNat : ∀ hi lo : Fin 16, UInt8.ofNat hi <<< 4 ||| UInt8.ofNat lo = UInt8.ofNat (16 * hi + lo) := by
  decide

lemma lt_of_hexPairs (hlen : b.length = 2 * n) (h : hexPairs b = some out) : ∀ x ∈ b, x < 128 := by
  induction n generalizing b out with
  | zero => simp [List.length_eq_zero_iff.mp hlen]
  | succ n ih =>
    obtain ⟨hi, lo, b, rfl, hrest⟩ := exists_pair hlen
    unfold hexPairs at h
    obtain ⟨v, hv, h⟩ := Option.bind_eq_some_iff.mp h
    obtain ⟨v', hv', h⟩ := Option.bind_eq_some_iff.mp h
    obtain ⟨out', hout, -⟩ := Option.bind_eq_some_iff.mp h
    intro x hx
    rcases List.mem_cons.mp hx with rfl | hx
    · exact lt_of_hexNibble hv
    · rcases List.mem_cons.mp hx with rfl | hx
      · exact lt_of_hexNibble hv'
      · exact ih hrest hout x hx

lemma pair_eq_iff {hi lo : ℕ} (hhi : hi < 16) (hlo : lo < 16) {x : UInt8} :
    UInt8.ofNat hi <<< 4 ||| UInt8.ofNat lo = x ↔ hi = x.toNat / 16 ∧ lo = x.toNat % 16 := by
  rw [pair_toNat ⟨hi, hhi⟩ ⟨lo, hlo⟩, ← UInt8.toNat_inj, UInt8.toNat_ofNat',
    Nat.mod_eq_of_lt (by dsimp only; omega)]
  dsimp only
  omega

lemma hexPairs_eq_some (hlen : cs.length = 2 * n) (hascii : ∀ c ∈ cs, c.toNat < 128) :
    hexPairs (cs.map (fun c => UInt8.ofNat c.toNat)) = some out ↔ Spells cs out := by
  induction n generalizing cs out with
  | zero =>
    obtain rfl := List.length_eq_zero_iff.mp hlen
    simp [hexPairs, eq_comm]
  | succ n ih =>
    obtain ⟨c, c', cs, rfl, hrest⟩ := exists_pair hlen
    have ih : ∀ out, hexPairs (cs.map (fun c => UInt8.ofNat c.toNat)) = some out ↔ Spells cs out :=
      fun out => ih hrest fun d hd => hascii d (by simp [hd])
    rw [List.map_cons, List.map_cons, hexPairs, hexNibble_ascii (hascii c (by simp)),
      hexNibble_ascii (hascii c' (by simp))]
    cases out with
    | nil => cases digitValue c <;> cases digitValue c' <;> simp [Option.bind_eq_some_iff]
    | cons x out =>
      rw [spells_cons, ← ih]
      cases hhi : digitValue c with
      | none => simp
      | some hi =>
        cases hlo : digitValue c' with
        | none => simp
        | some lo =>
          have hpair := pair_eq_iff (digitValue_bounds hhi).1 (digitValue_bounds hlo).1 (x := x)
          simp only [Option.map_some, Option.bind_eq_bind, Option.bind_some, Option.some.injEq, ← and_assoc,
            ← hpair]
          simp [Option.bind_eq_some_iff, and_comm]

lemma eq_of_ofNat_toNat {k : ℕ} (hc : c.toNat < 128) (hk : k < 128) (h : UInt8.ofNat c.toNat = UInt8.ofNat k) :
    c = Char.ofNat k := by
  have hnat := congrArg UInt8.toNat h
  rw [UInt8.toNat_ofNat', UInt8.toNat_ofNat', Nat.mod_eq_of_lt (by omega), Nat.mod_eq_of_lt (by omega)] at hnat
  rw [← hnat, Char.ofNat_toNat]

lemma utf8_0x : utf8 "0x" = [UInt8.ofNat 48, UInt8.ofNat 120] := by decide

lemma parseEVMAddress_ok_iff : parseEVMAddress lib s = .ok b ↔
    ∃ cs, (trimSpace s).toList = '0' :: 'x' :: cs ∧ cs.length = 40 ∧ Spells cs b := by
  constructor
  · intro h
    simp only [parseEVMAddress] at h
    split at h
    · cases h
    rename_i hform
    split at h
    · cases h
    rename_i out hout
    cases h
    rw [not_or, not_not, not_not] at hform
    obtain ⟨hmark, hlen⟩ := hform
    have hascii : ∀ c ∈ (trimSpace s).toList, c.toNat < 128 := by
      refine ascii_of_utf8 fun x hx => ?_
      rw [← List.take_append_drop 2 (utf8 (trimSpace s)), List.mem_append, hmark, utf8_0x] at hx
      rcases hx with hx | hx
      · simp only [List.mem_cons, List.not_mem_nil, or_false] at hx
        rcases hx with rfl | rfl <;> decide
      · exact lt_of_hexPairs (n := 20) (by rw [List.length_drop, hlen]) hout x hx
    rw [utf8_ascii hascii] at hmark hlen hout
    generalize (trimSpace s).toList = cs at *
    rw [List.length_map] at hlen
    obtain ⟨c, c', cs, rfl, hrest⟩ := exists_pair (n := 20) hlen
    simp only [List.map_cons, List.take_succ_cons, List.take_zero, utf8_0x, List.cons.injEq, and_true] at hmark
    refine ⟨cs, ?_, hrest, ?_⟩
    · rw [eq_of_ofNat_toNat (hascii c (by simp)) (by decide) hmark.1,
        eq_of_ofNat_toNat (hascii c' (by simp)) (by decide) hmark.2]
    · exact (hexPairs_eq_some (n := 20) hrest fun d hd => hascii d (by simp [hd])).mp hout
  · rintro ⟨cs, htrim, hlen, hspells⟩
    have hdigits : ∀ c ∈ cs, c.toNat < 128 := by
      intro c hc
      obtain ⟨n, hn⟩ := hspells.digits c hc
      exact (digitValue_bounds hn).2
    have hascii : ∀ c ∈ (trimSpace s).toList, c.toNat < 128 := by
      rw [htrim]
      simpa using hdigits
    have hbytes : utf8 (trimSpace s) = utf8 "0x" ++ cs.map (fun c => UInt8.ofNat c.toNat) := by
      rw [utf8_ascii hascii, htrim, utf8_0x]
      rfl
    have hpairs := (hexPairs_eq_some (n := 20) hlen hdigits).mpr hspells
    simp only [parseEVMAddress]
    rw [hbytes, if_neg (by simp [utf8_0x, hlen]), List.drop_left' (by rw [utf8_0x]; rfl), hpairs]

end Reading

section Writing

variable {lib : Lib} {cs cs' : List Char} {b : Bytes}

lemma digitValue_hexDigit : ∀ n : Fin 16, digitValue (hexDigit n) = some n := by decide

lemma spells_hexEncode (b : Bytes) : Spells (hexEncode b) b := by
  induction b with
  | nil => exact spells_nil.mpr rfl
  | cons x b ih =>
    have hlt := x.toNat_lt
    exact spells_cons.mpr ⟨digitValue_hexDigit ⟨x.toNat / 16, by omega⟩,
      digitValue_hexDigit ⟨x.toNat % 16, by omega⟩, ih⟩

lemma toLower_of_digitValue {c : Char} {n : ℕ} (h : digitValue c = some n) : c.toLower = hexDigit n :=
  forall_digit (P := fun c n => c.toLower = hexDigit n) (by decide) h

lemma map_toLower_eq (hcs : Digits cs) :
    cs.map Char.toLower = (cs.map digitValue).map (fun v => hexDigit (v.getD 0)) := by
  rw [List.map_map]
  refine List.map_congr_left fun c hc => ?_
  obtain ⟨n, hn⟩ := hcs c hc
  rw [toLower_of_digitValue hn, Function.comp_apply, hn, Option.getD_some]

lemma eip55Checksum_prefix (hcs : Digits cs) :
    eip55Checksum lib ('0' :: 'x' :: cs) = eip55Checksum lib cs := by
  conv_rhs => unfold eip55Checksum
  dsimp only
  split
  · obtain ⟨n, hn⟩ := hcs 'x' (by simp)
    cases hn
  · rfl

lemma eip55Checksum_congr (hcs : Digits cs) (h : cs.map digitValue = cs'.map digitValue) :
    eip55Checksum lib cs = eip55Checksum lib cs' := by
  have hcs' := hcs.congr h
  rw [← eip55Checksum_prefix hcs, ← eip55Checksum_prefix hcs']
  simp only [eip55Checksum, map_toLower_eq hcs, map_toLower_eq hcs', h]

lemma digitValue_capital : ∀ n : Fin 16, (hexDigit n).isDigit = false →
    digitValue (Char.ofNat ((hexDigit n).toNat - 32)) = some n := by decide

lemma eip55Checksum_digits (lib : Lib) (hcs : Digits cs) :
    ∃ out, eip55Checksum lib cs = '0' :: 'x' :: out ∧ out.map digitValue = cs.map digitValue := by
  rw [← eip55Checksum_prefix hcs]
  refine ⟨_, rfl, ?_⟩
  refine List.ext_getElem (by simp) ?_
  intro i hi hi'
  have hlen : i < cs.length := by simpa using hi'
  obtain ⟨n, hn⟩ := hcs cs[i] (List.getElem_mem hlen)
  have hdigit := digitValue_hexDigit ⟨n, (digitValue_bounds hn).1⟩
  have hcapital := digitValue_capital ⟨n, (digitValue_bounds hn).1⟩
  simp only [List.getElem_map, List.getElem_mapIdx, toLower_of_digitValue hn, hn]
  split
  · exact hdigit
  · rename_i hletter
    split
    · exact hcapital (by simpa using hletter)
    · exact hdigit

lemma isSpace_of_digitValue {c : Char} {n : ℕ} (h : digitValue c = some n) : isSpace c = false :=
  forall_digit (P := fun c _ => isSpace c = false) (by decide) h

lemma trimSpace_spelled (hcs : Digits cs) :
    trimSpace (String.ofList ('0' :: 'x' :: cs)) = String.ofList ('0' :: 'x' :: cs) := by
  refine trimSpace_of_ends ?_ ?_
  · intro c hc
    rw [String.toList_ofList] at hc
    obtain rfl := Option.some.inj hc
    decide
  · intro c hc
    rw [String.toList_ofList] at hc
    rcases List.mem_cons.mp (List.mem_of_getLast? hc) with rfl | hmem
    · decide
    · rcases List.mem_cons.mp hmem with rfl | hmem
      · decide
      · obtain ⟨n, hn⟩ := hcs c hmem
        exact isSpace_of_digitValue hn

lemma parse_eip55Checksum (hb : b.length = 20) :
    parseEVMAddress lib (String.ofList (eip55Checksum lib (hexEncode b))) = .ok b := by
  have hspells := spells_hexEncode b
  have hcs : Digits (hexEncode b) := hspells.digits
  obtain ⟨out, hout, hdigits⟩ := eip55Checksum_digits lib hcs
  have hspelled : Spells out b := (Spells.congr hdigits).mpr hspells
  refine parseEVMAddress_ok_iff.mpr ⟨out, ?_, ?_, hspelled⟩
  · rw [hout, trimSpace_spelled (hcs.congr hdigits.symm), String.toList_ofList]
  · rw [hspelled.length, hb]

end Writing

/-- The texts of an address that the checksum function is given: forty digits, with `0x` or without. -/
def AddressText (text digits : List Char) : Prop :=
  digits.length = 40 ∧ Digits digits ∧ (text = digits ∨ text = '0' :: 'x' :: digits)

/-- For any hash function: the checksummed text of an address reads back as the address. The checksum
is the same for all texts of the same digits, also for its own result. The reader takes exactly `0x`
and forty digits, up to white space around them, for the bytes that they spell, and so takes texts of
the same digits for the same address. -/
theorem address_spellings (lib : Lib) :
    (∀ b : Bytes, b.length = 20 →
      parseEVMAddress lib (String.ofList (eip55Checksum lib (hexEncode b))) = .ok b) ∧
    (∀ text text' digits digits', AddressText text digits → AddressText text' digits' →
      digits.map digitValue = digits'.map digitValue → eip55Checksum lib text = eip55Checksum lib text') ∧
    (∀ text digits, AddressText text digits →
      eip55Checksum lib (eip55Checksum lib text) = eip55Checksum lib text) ∧
    (∀ s b, parseEVMAddress lib s = .ok b ↔
      ∃ digits, (trimSpace s).toList = '0' :: 'x' :: digits ∧ digits.length = 40 ∧ Spells digits b) ∧
    (∀ s, (∃ b, parseEVMAddress lib s = .ok b) ↔
      ∃ digits, (trimSpace s).toList = '0' :: 'x' :: digits ∧ digits.length = 40 ∧ Digits digits) ∧
    (∀ s s' digits digits', digits.length = 40 → Digits digits →
      digits.map digitValue = digits'.map digitValue → (trimSpace s).toList = '0' :: 'x' :: digits →
      (trimSpace s').toList = '0' :: 'x' :: digits' → parseEVMAddress lib s = parseEVMAddress lib s') := by
  have hchecksum : ∀ text digits, AddressText text digits →
      eip55Checksum lib text = eip55Checksum lib digits := by
    rintro text digits ⟨-, hdigits, rfl | rfl⟩
    · rfl
    · exact eip55Checksum_prefix hdigits
  refine ⟨fun b hb => parse_eip55Checksum hb, ?_, ?_, fun s b => parseEVMAddress_ok_iff, ?_, ?_⟩
  · intro text text' digits digits' h h' hsame
    rw [hchecksum text digits h, hchecksum text' digits' h']
    exact eip55Checksum_congr h.2.1 hsame
  · intro text digits h
    rw [hchecksum text digits h]
    obtain ⟨out, hout, hdigits⟩ := eip55Checksum_digits lib h.2.1
    have hhex := h.2.1.congr hdigits.symm
    rw [hout, eip55Checksum_prefix hhex, eip55Checksum_congr hhex hdigits, hout]
  · intro s
    simp only [parseEVMAddress_ok_iff]
    constructor
    · rintro ⟨b, digits, htrim, hlen, hspells⟩
      exact ⟨digits, htrim, hlen, hspells.digits⟩
    · rintro ⟨digits, htrim, hlen, hdigits⟩
      obtain ⟨b, hspells⟩ := exists_spells (n := 20) hlen hdigits
      exact ⟨b, digits, htrim, hlen, hspells⟩
  · intro s s' digits digits' hlen hdigits hsame htrim htrim'
    obtain ⟨b, hspells⟩ := exists_spells (n := 20) hlen hdigits
    have hspells' : Spells digits' b := (Spells.congr hsame).mp hspells
    have hlen' : digits'.length = 40 := by rw [hspells'.length, ← hspells.length, hlen]
    exact (parseEVMAddress_ok_iff.mpr ⟨digits, htrim, hlen, hspells⟩).trans
      (parseEVMAddress_ok_iff.mpr ⟨digits', htrim', hlen', hspells'⟩).symm

theorem address_spellings_letters :
    let digits := "022b971dff0c43305e691ded7a14367af19d6407".toList
    let text := "0x022b971dFF0C43305e691DEd7a14367AF19D6407"
    eip55Checksum referenceLib digits = text.toList ∧
    eip55Checksum referenceLib (digits.map Char.toUpper) = eip55Checksum referenceLib ('0' :: 'x' :: digits) ∧
    eip55Checksum referenceLib text.toList = text.toList ∧
    ∃ b, hexEncode b = digits ∧ parseEVMAddress referenceLib text = .ok b := by
  dsimp only
  obtain ⟨hread, hsame, hagain, -⟩ := address_spellings referenceLib
  obtain ⟨htext, hlen, hlower, hupper⟩ :
      let digits := "022b971dff0c43305e691ded7a14367af19d6407".toList
      eip55Checksum referenceLib digits = "0x022b971dFF0C43305e691DEd7a14367AF19D6407".toList ∧
        digits.length = 40 ∧ digits.all (fun c => (digitValue c).isSome) ∧
        (digits.map Char.toUpper).map digitValue = digits.map digitValue := by
    decide +kernel
  have hdigits : Digits "022b971dff0c43305e691ded7a14367af19d6407".toList :=
    fun c hc => Option.isSome_iff_exists.mp (List.all_eq_true.mp hlower c hc)
  refine ⟨htext, hsame _ _ _ _ ⟨by rw [List.length_map, hlen], hdigits.congr hupper.symm, .inl rfl⟩
    ⟨hlen, hdigits, .inr rfl⟩ hupper, ?_, wordBytes 0x022b971dff0c43305e691ded7a14367af19d6407 |>.drop 12, ?_, ?_⟩
  · have hfixed := hagain _ _ ⟨hlen, hdigits, .inl rfl⟩
    rwa [htext] at hfixed
  · decide +kernel
  · have hb := hread (wordBytes 0x022b971dff0c43305e691ded7a14367af19d6407 |>.drop 12) (by decide +kernel)
    rwa [show hexEncode _ = "022b971dff0c43305e691ded7a14367af19d6407".toList by decide +kernel, htext,
      String.ofList_toList] at hb

end WalletManager.Proofs
