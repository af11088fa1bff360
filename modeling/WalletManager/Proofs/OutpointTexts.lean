import WalletManager.Codec.Hex
import WalletManager.Proofs.BuiltTransactions
import WalletManager.Proofs.DerivationPaths
import WalletManager.Proofs.Keys
import Mathlib.Data.Nat.Digits.Lemmas

/-!
# The texts of outpoints

Rows and locks of outputs are kept under the texts of their outpoints, and transactions are built
from what the texts are read as. The reader takes several texts for the same output, while the store
takes them for different ones.
-/

namespace WalletManager.Proofs

open Hex

section Reading

variable {lib : Lib} {s s' : String} {op op' : OutPoint}

lemma splitOutpoint_eq_some {cs txid vout : List Char} (h : splitOutpoint cs = some (txid, vout)) :
    cs = txid ++ ':' :: vout ∧ ':' ∉ txid := by
  induction cs generalizing txid with
  | nil => cases h
  | cons c cs ih =>
    unfold splitOutpoint at h
    split at h
    · rename_i hc
      cases h
      exact ⟨by rw [hc]; rfl, by simp⟩
    · rename_i hc
      obtain ⟨⟨txid', vout'⟩, hrest, heq⟩ := Option.map_eq_some_iff.mp h
      cases heq
      obtain ⟨rfl, hnot⟩ := ih hrest
      exact ⟨rfl, by simpa [hnot] using Ne.symm hc⟩

/-- What is assumed of `chainhash.NewHashFromStr`: the text is a number of hexadecimal digits, and the
hash has its bytes, the least significant one first. -/
structure HexHashes (lib : Lib) : Prop where
  hash : ∀ s h, lib.newHashFromStr s = .ok h →
    Digits s.toList ∧ h.length = 32 ∧ Nat.ofDigits 256 (h.map UInt8.toNat) = value s.toList

lemma HexHashes.eq_iff (hlib : HexHashes lib) {h h' : Bytes} (hs : lib.newHashFromStr s = .ok h)
    (hs' : lib.newHashFromStr s' = .ok h') : h = h' ↔ significant s.toList = significant s'.toList := by
  obtain ⟨-, hlen, hvalue⟩ := hlib.hash s h hs
  obtain ⟨-, hlen', hvalue'⟩ := hlib.hash s' h' hs'
  rw [← value_eq_iff, ← hvalue, ← hvalue']
  constructor
  · rintro rfl
    rfl
  · intro heq
    have hbyte : ∀ b : Bytes, ∀ d ∈ b.map UInt8.toNat, d < 256 := by
      intro b d hd
      obtain ⟨x, -, rfl⟩ := List.mem_map.mp hd
      exact x.toNat_lt
    refine List.map_injective_iff.mpr (fun _ _ => UInt8.toNat_inj.mp) ?_
    exact Nat.ofDigits_inj_of_len_eq (by decide) (by simp [hlen, hlen']) (hbyte h) (hbyte h') heq

lemma ofDigitChars_eq {cs : List Char} (h : ∀ c ∈ cs, c.isDigit) :
    Nat.ofDigitChars 10 cs 0 = Positional.value 10 (values cs) := by
  induction cs using List.reverseRecOn with
  | nil => rfl
  | append_singleton cs c ih =>
    have hc := (digitValue_of_isDigit (h c (by simp))).1
    rw [Nat.ofDigitChars_append, ih fun d hd => h d (by simp [hd]), values_append,
      show values [c] = [c.toNat - 48] by simp [values, hc], Positional.value_append_singleton]
    rfl

lemma parseUint_value {vout : String} {n : ℕ} (h : parseUint lib vout 32 = .ok n) :
    (∀ c ∈ vout.toList, c.isDigit) ∧ n = Positional.value 10 (values vout.toList) := by
  obtain ⟨-, hdigits, rfl⟩ := decimalDigits_eq_some.mp (parseUint_digits h)
  exact ⟨hdigits, ofDigitChars_eq hdigits⟩

lemma lt_ten_of_digits {cs : List Char} (h : ∀ c ∈ cs, c.isDigit) : ∀ d ∈ values cs, d < 10 := by
  intro d hd
  obtain ⟨c, hc, rfl⟩ := List.mem_map.mp hd
  obtain ⟨hvalue, hlt⟩ := digitValue_of_isDigit (h c hc)
  rw [hvalue]
  exact hlt

/-- The texts differ at most in the case and the leading zeros of the hash and the leading zeros of the
index. -/
def Respelled (s s' : String) : Prop :=
  ∃ txid vout txid' vout', s.toList = txid ++ ':' :: vout ∧ s'.toList = txid' ++ ':' :: vout' ∧
    ':' ∉ txid ∧ ':' ∉ txid' ∧ significant txid = significant txid' ∧ significant vout = significant vout'

lemma parseOutpoint_ok (h : parseOutpoint lib s = .ok op) : ∃ txid vout,
    s.toList = txid ++ ':' :: vout ∧ ':' ∉ txid ∧ lib.newHashFromStr (String.ofList txid) = .ok op.hash ∧
    (∀ c ∈ vout, c.isDigit) ∧ op.index = Positional.value 10 (values vout) := by
  unfold parseOutpoint at h
  split at h
  · cases h
  rename_i txid vout hsplit
  split at h
  · cases h
  rename_i hash hhash
  split at h
  · cases h
  rename_i index hindex
  cases h
  obtain ⟨htext, hcolon⟩ := splitOutpoint_eq_some hsplit
  have hread := parseUint_value hindex
  rw [String.toList_ofList] at hread
  exact ⟨txid, vout, htext, hcolon, hhash, hread⟩

lemma parseOutpoint_eq_iff (hlib : HexHashes lib) (h : parseOutpoint lib s = .ok op)
    (h' : parseOutpoint lib s' = .ok op') : op = op' ↔ Respelled s s' := by
  obtain ⟨txid, vout, htext, hcolon, hhash, hdigits, hindex⟩ := parseOutpoint_ok h
  obtain ⟨txid', vout', htext', hcolon', hhash', hdigits', hindex'⟩ := parseOutpoint_ok h'
  have hsame : op = op' ↔ significant txid = significant txid' ∧ significant vout = significant vout' := by
    have hhashes := hlib.eq_iff hhash hhash'
    have hindices := Positional.value_eq_iff (by decide) (lt_ten_of_digits hdigits) (lt_ten_of_digits hdigits')
    rw [← hindex, ← hindex'] at hindices
    rw [String.toList_ofList, String.toList_ofList] at hhashes
    obtain ⟨hash, index⟩ := op
    obtain ⟨hash', index'⟩ := op'
    rw [OutPoint.mk.injEq]
    exact and_congr hhashes hindices
  rw [hsame]
  constructor
  · rintro ⟨htx, hv⟩
    exact ⟨txid, vout, txid', vout', htext, htext', hcolon, hcolon', htx, hv⟩
  · rintro ⟨txid₁, vout₁, txid₁', vout₁', htext₁, htext₁', hcolon₁, hcolon₁', htx, hv⟩
    obtain ⟨rfl, rfl⟩ := append_sep_inj hcolon hcolon₁ (htext.symm.trans htext₁)
    obtain ⟨rfl, rfl⟩ := append_sep_inj hcolon' hcolon₁' (htext'.symm.trans htext₁')
    exact ⟨htx, hv⟩

end Reading

/-- The reader tells two accepted texts apart exactly when they are not spellings of the same outpoint,
and the inputs that are built from different texts are different exactly when no two of these are. -/
theorem parseOutpoint_injective_iff {lib : Lib} (hlib : HexHashes lib) :
    (∀ s s' op op', parseOutpoint lib s = .ok op → parseOutpoint lib s' = .ok op' →
      ((op = op' → s = s') ↔ (Respelled s s' → s = s'))) ∧
    (∀ wr ops opts unsigned, buildBTCUnsignedTx lib wr ops opts = .ok unsigned → ops.Nodup →
      ∃ amount tx, BuildsBTC lib wr ops opts unsigned amount tx ∧
        ((tx.txIn.map TxIn.previousOutPoint).Nodup ↔ ∀ s ∈ ops, ∀ s' ∈ ops, Respelled s s' → s = s')) := by
  constructor
  · intro s s' op op' h h'
    rw [parseOutpoint_eq_iff hlib h h']
  · intro wr ops opts unsigned hbuild hnodup
    obtain ⟨amount, tx, htx⟩ := buildBTCUnsignedTx_ok hbuild
    obtain ⟨hread, houts⟩ := parseOutpoints_ok htx.inputs
    refine ⟨amount, tx, htx, ?_⟩
    rw [houts, List.nodup_map_iff_inj_on hnodup]
    refine forall₂_congr fun s hs => forall₂_congr fun s' hs' => ?_
    rw [parseOutpoint_eq_iff hlib (hread s hs) (hread s' hs')]

def hexHashFromStr (s : String) : Except Error Bytes :=
  if s.toList.length ≤ 64 ∧ s.toList.all (fun c => (digitValue c).isSome) then
    .ok ((Nat.digits 256 (value s.toList) ++
      List.replicate (32 - (Nat.digits 256 (value s.toList)).length) 0).map UInt8.ofNat)
  else .error ⟨"encoding/hex: invalid byte", none⟩

def hexLib : Lib := { referenceLib with newHashFromStr := hexHashFromStr }

lemma hexLib_hashes : HexHashes hexLib := by
  constructor
  intro s h hs
  change hexHashFromStr s = .ok h at hs
  unfold hexHashFromStr at hs
  split at hs
  · rename_i htext
    cases hs
    have hdigits : Digits s.toList := fun c hc => Option.isSome_iff_exists.mp (List.all_eq_true.mp htext.2 c hc)
    have hlength : (Nat.digits 256 (value s.toList)).length ≤ 32 := by
      refine (Nat.digits_length_le_iff (by decide) _).mpr (value_lt.trans_le ?_)
      calc 16 ^ s.toList.length ≤ 16 ^ 64 := Nat.pow_le_pow_right (by decide) htext.1
        _ = 256 ^ 32 := by decide
    have hbytes : ∀ d ∈ Nat.digits 256 (value s.toList) ++
        List.replicate (32 - (Nat.digits 256 (value s.toList)).length) 0,
        (UInt8.toNat ∘ UInt8.ofNat) d = id d := by
      intro d hd
      have hlt : d < 256 := by
        rcases List.mem_append.mp hd with hd | hd
        · exact Nat.digits_lt_base (by decide) hd
        · rw [List.eq_of_mem_replicate hd]
          decide
      exact (UInt8.toNat_ofNat').trans (Nat.mod_eq_of_lt hlt)
    refine ⟨hdigits, ?_, ?_⟩
    · simp only [List.length_map, List.length_append, List.length_replicate]
      omega
    · rw [List.map_map, List.map_congr_left hbytes, List.map_id, Nat.ofDigits_append_replicate_zero,
        Nat.ofDigits_digits]
  · cases hs

def repeatedOutpoint (c : Char) (vout : String) : String := String.ofList (List.replicate 64 c) ++ ":" ++ vout

lemma repeatedOutpoint_text (c : Char) (vout : String) :
    (repeatedOutpoint c vout).toList = List.replicate 64 c ++ ':' :: vout.toList := by
  simp [repeatedOutpoint]

lemma splitOutpoint_append {txid vout : List Char} (h : ':' ∉ txid) :
    splitOutpoint (txid ++ ':' :: vout) = some (txid, vout) := by
  induction txid with
  | nil => rfl
  | cons c txid ih =>
    rw [List.mem_cons, not_or] at h
    rw [List.cons_append, splitOutpoint, if_neg (Ne.symm h.1), ih h.2]
    rfl

lemma repeatedOutpoint_read {c : Char} {n : ℕ} (hc : digitValue c = some n) (hcolon : ':' ≠ c) {vout : String}
    {index : ℕ} (hvout : parseUint hexLib vout 32 = .ok index) :
    ∃ op, parseOutpoint hexLib (repeatedOutpoint c vout) = .ok op := by
  have hsplit : splitOutpoint (List.replicate 64 c ++ ':' :: vout.toList) =
      some (List.replicate 64 c, vout.toList) := splitOutpoint_append (by simpa using hcolon)
  have hhash : ∃ hash, hexLib.newHashFromStr (String.ofList (List.replicate 64 c)) = .ok hash :=
    ⟨_, if_pos ⟨by simp, by simp [hc]⟩⟩
  obtain ⟨hash, hhash⟩ := hhash
  refine ⟨⟨hash, index⟩, ?_⟩
  rw [parseOutpoint, repeatedOutpoint_text, hsplit]
  dsimp only
  rw [hhash, String.ofList_toList, hvout]

lemma respelled_repeated {c c' : Char} {n : ℕ} (hc : digitValue c = some n) (hc' : digitValue c' = some n)
    (hcolon : ':' ≠ c) (hcolon' : ':' ≠ c') :
    Respelled (repeatedOutpoint c "0") (repeatedOutpoint c' "00") := by
  refine ⟨_, _, _, _, repeatedOutpoint_text c "0", repeatedOutpoint_text c' "00", by simpa using hcolon,
    by simpa using hcolon', ?_, by decide⟩
  rw [significant, significant, values, values, List.map_replicate, List.map_replicate, hc, hc']

theorem parseOutpoint_injective_iff_letters : ∃ op op',
    parseOutpoint hexLib (repeatedOutpoint 'a' "0") = .ok op ∧
    parseOutpoint hexLib (repeatedOutpoint 'b' "0") = .ok op' ∧
    ((op = op' → repeatedOutpoint 'a' "0" = repeatedOutpoint 'b' "0") ↔
      (Respelled (repeatedOutpoint 'a' "0") (repeatedOutpoint 'b' "0") →
        repeatedOutpoint 'a' "0" = repeatedOutpoint 'b' "0")) := by
  have hvout : parseUint hexLib "0" 32 = .ok 0 := rfl
  obtain ⟨op, hop⟩ := repeatedOutpoint_read (c := 'a') (n := 10) (by decide) (by decide) hvout
  obtain ⟨op', hop'⟩ := repeatedOutpoint_read (c := 'b') (n := 11) (by decide) (by decide) hvout
  exact ⟨op, op', hop, hop', (parseOutpoint_injective_iff hexLib_hashes).1 _ _ op op' hop hop'⟩

/-- Two spellings of one outpoint are two rows of the store, and a transaction from both has the same
input twice. -/
theorem respelled_outpoint_twice :
    repeatedOutpoint 'a' "0" ≠ repeatedOutpoint 'A' "00" ∧
    ((({} : Store).insertUTXO (btcOutput (repeatedOutpoint 'a' "0") "1")).2.insertUTXO
      (btcOutput (repeatedOutpoint 'A' "00") "1")).1 = .ok () ∧
    ∃ op, parseOutpoint hexLib (repeatedOutpoint 'a' "0") = .ok op ∧
      parseOutpoint hexLib (repeatedOutpoint 'A' "00") = .ok op ∧
      parseOutpoints hexLib [repeatedOutpoint 'a' "0", repeatedOutpoint 'A' "00"] = .ok [op, op] := by
  have hvout : parseUint hexLib "0" 32 = .ok 0 := rfl
  have hvout' : parseUint hexLib "00" 32 = .ok 0 := rfl
  obtain ⟨op, hop⟩ := repeatedOutpoint_read (c := 'a') (n := 10) (by decide) (by decide) hvout
  obtain ⟨op', hop'⟩ := repeatedOutpoint_read (c := 'A') (n := 10) (by decide) (by decide) hvout'
  obtain rfl : op = op' := (parseOutpoint_eq_iff hexLib_hashes hop hop').mpr
    (respelled_repeated (n := 10) (by decide) (by decide) (by decide) (by decide))
  refine ⟨by decide, by decide, op, hop, hop', ?_⟩
  simp only [parseOutpoints, hop, hop']
  rfl

end WalletManager.Proofs
