import WalletManager.Audit.Json
import WalletManager.Proofs.AuditNotes
import WalletManager.Proofs.DerivationPaths

/-!
# Reading audit payloads

The JSON of a payload determines its fields: a reader for the texts that payloads have finds each of them
again.
-/

namespace WalletManager.Proofs

open JsonText

/-! ## The reader -/

def readString : List Char → Option (String × List Char)
  | '\x22' :: cs => (readEscaped cs).map (Prod.map String.ofList id)
  | _ => none

def isIntChar (c : Char) : Bool := c.isDigit || c = '-'

def readInt (cs : List Char) : Option (Int × List Char) :=
  (bigIntSetString (String.ofList (cs.takeWhile isIntChar))).map (·, cs.dropWhile isIntChar)

def readValue : List Char → Option (AuditValue × List Char)
  | '\x22' :: cs => (readString ('\x22' :: cs)).map (Prod.map .text id)
  | '[' :: cs => (readItems readString ']' cs.length cs).map (Prod.map .texts id)
  -- The literals `null`, `true` and `false`.
  | 'n' :: cs => some (.texts [], cs.drop 3)
  | 't' :: cs => some (.bool true, cs.drop 3)
  | 'f' :: cs => some (.bool false, cs.drop 4)
  | cs => (readInt cs).map (Prod.map .int id)

def readField (cs : List Char) : Option ((String × AuditValue) × List Char) := do
  let (key, rest) ← readString cs
  let (value, rest) ← readValue (rest.drop 1)
  return ((key, value), rest)

def readObject (cs : List Char) : Option (List (String × AuditValue)) :=
  match cs.drop 1 with
  | ['\x7d'] => some []
  | cs => (readItems readField '\x7d' cs.length cs).map Prod.fst

def jsonFieldOf (b : Bytes) (key : String) : Option AuditValue := do
  let text ← String.fromUTF8? ⟨b.toArray⟩
  let fields ← readObject text.toList
  fields.lookup key

/-! ## What is written is read back -/

section Values

variable {c : Char} {rest : List Char}

lemma readString_jsonString (s : String) (rest : List Char) :
    readString (jsonString s ++ rest) = some (s, rest) := by
  change (readEscaped (escaped s.toList ++ rest)).map (Prod.map String.ofList id) = _
  rw [readEscaped_escaped, Option.map_some, Prod.map_apply, String.ofList_toList]
  rfl

lemma toString_int (n : Int) : bigIntSetString (toString n) = some n ∧ (toString n).toList ≠ [] ∧
    ∀ c ∈ (toString n).toList, isIntChar c = true := by
  cases n with
  | ofNat n =>
    change bigIntSetString (toString n) = some (n : Int) ∧ (toString n).toList ≠ [] ∧ _
    refine ⟨bigIntSetString_digits (decimalDigits_toString n), ?_, fun c hc => ?_⟩
    · rw [toList_toString]
      exact Nat.toDigits_ne_nil
    · rw [isIntChar, isDigit_of_mem_toString hc, Bool.true_or]
  | negSucc n =>
    have htext : (toString (Int.negSucc n)).toList = '-' :: (toString (n + 1)).toList := by
      change ("-" ++ toString (n + 1)).toList = _
      rw [String.toList_append]
      rfl
    rw [htext]
    refine ⟨?_, List.cons_ne_nil _ _, ?_⟩
    · unfold bigIntSetString
      rw [htext]
      simp only [decimalDigits_toString]
      rfl
    · intro c hc
      rcases List.mem_cons.mp hc with rfl | hc
      · rfl
      · rw [isIntChar, isDigit_of_mem_toString hc, Bool.true_or]

lemma readInt_toString (n : Int) (hc : isIntChar c = false) :
    readInt ((toString n).toList ++ c :: rest) = some (n, c :: rest) := by
  obtain ⟨hvalue, -, hchars⟩ := toString_int n
  unfold readInt
  rw [List.takeWhile_append_of_pos hchars, List.dropWhile_append_of_pos hchars,
    List.takeWhile_cons_of_neg (by simp [hc]), List.dropWhile_cons_of_neg (by simp [hc]), List.append_nil,
    String.ofList_toList, hvalue]
  rfl

lemma readItems_jsonString {l : List String} (hl : l ≠ []) (rest : List Char) {fuel : ℕ}
    (hfuel : l.length ≤ fuel) :
    readItems readString ']' fuel (joined ']' (l.map jsonString) ++ rest) = some (l, rest) :=
  readItems_joined (by decide) (fun s c rest _ => readString_jsonString s (c :: rest)) hl rest hfuel

lemma readValue_json (v : AuditValue) (hc : isIntChar c = false) :
    readValue (v.json ++ c :: rest) = some (v, c :: rest) := by
  cases v with
  | text s =>
    change (readString (jsonString s ++ c :: rest)).map _ = _
    rw [readString_jsonString]
    rfl
  | int n =>
    obtain ⟨-, hne, hchars⟩ := toString_int n
    have hread : readInt ((toString n).toList ++ c :: rest) = some (n, c :: rest) := readInt_toString n hc
    change readValue ((toString n).toList ++ c :: rest) = _
    obtain ⟨d, ds, hds⟩ := List.exists_cons_of_ne_nil hne
    have hd : isIntChar d = true := hchars d (by rw [hds]; exact List.mem_cons_self)
    rw [hds] at hread ⊢
    unfold readValue
    split
    all_goals first
    | (rename_i heq
       obtain rfl := (List.cons.inj heq).1
       cases hd)
    | (rw [hread]
       rfl)
  | texts l =>
    cases l with
    | nil => rfl
    | cons s l =>
      change (readItems readString ']' _ (joined ']' ((s :: l).map jsonString) ++ c :: rest)).map _ = _
      rw [readItems_jsonString (by simp)]
      · rfl
      · have hle := length_le_joined ']' ((s :: l).map jsonString)
        rw [List.length_map] at hle
        exact hle.trans (List.length_append ▸ Nat.le_add_right _ _)
  | bool b => cases b <;> rfl

lemma readField_jsonField (f : String × AuditValue) (hc : c = ',' ∨ c = '\x7d') :
    readField (jsonField f ++ c :: rest) = some (f, c :: rest) := by
  have hchar : isIntChar c = false := by rcases hc with rfl | rfl <;> rfl
  unfold readField jsonField
  rw [List.append_assoc, readString_jsonString]
  change (readValue (f.2.json ++ c :: rest)).bind _ = _
  rw [readValue_json f.2 hchar]
  rfl

end Values

lemma readObject_fields (fields : List (String × AuditValue)) :
    readObject ('\x7b' :: joined '\x7d' (fields.map jsonField)) = some fields := by
  cases fields with
  | nil => rfl
  | cons f fields =>
    have hread : ∀ fuel, (f :: fields).length ≤ fuel →
        readItems readField '\x7d' fuel (joined '\x7d' ((f :: fields).map jsonField) ++ []) =
          some (f :: fields, []) :=
      fun fuel => readItems_joined (by decide) (fun f c rest hc => readField_jsonField f hc) (by simp) []
    have hhead : ∃ cs, joined '\x7d' ((f :: fields).map jsonField) = quote :: cs := by
      cases fields <;> exact ⟨_, rfl⟩
    have hle := length_le_joined '\x7d' ((f :: fields).map jsonField)
    rw [List.length_map] at hle
    unfold readObject
    rw [List.drop_one, List.tail_cons]
    split
    · rename_i heq
      obtain ⟨cs, hcs⟩ := hhead
      rw [hcs] at heq
      exact absurd (List.cons.inj heq).1 (by decide)
    · rw [List.append_nil] at hread
      rw [hread _ hle]
      rfl

lemma fromUTF8_utf8 (s : String) : String.fromUTF8? ⟨(utf8 s).toArray⟩ = some s := by
  have hbytes : (⟨(utf8 s).toArray⟩ : ByteArray) = s.toUTF8 := by
    unfold utf8
    rw [Array.toArray_toList]
  rw [hbytes]
  exact dif_pos s.isValidUTF8

lemma lookup_perm {V : Type} {p q : List (String × V)} (h : p.Perm q) (hkeys : (p.map Prod.fst).Nodup)
    (key : String) : p.lookup key = q.lookup key := by
  induction h with
  | nil => rfl
  | cons f _ ih =>
    obtain ⟨k, v⟩ := f
    rw [List.lookup_cons, List.lookup_cons, ih (List.nodup_cons.mp hkeys).2]
  | swap f g l =>
    obtain ⟨k, v⟩ := f
    obtain ⟨k', v'⟩ := g
    have hne : k' ≠ k := by
      rintro rfl
      simp at hkeys
    simp only [List.lookup_cons]
    by_cases hk : key = k
    · have hk' : (key == k') = false := by simpa using fun h => hne (h.symm.trans hk)
      rw [hk']
    · have hk' : (key == k) = false := by simpa using hk
      rw [hk']
  | trans h _ ih ih' => exact (ih hkeys).trans (ih' ((h.map Prod.fst).nodup_iff.mp hkeys))

/-- Every field of a payload can be read from its JSON. -/
theorem jsonEmitter_readable : Readable jsonEmitter jsonFieldOf := by
  refine ⟨fun p => ⟨_, rfl⟩, ?_⟩
  rintro p b hb hkeys k
  obtain rfl := Except.ok.inj hb
  have hperm := List.perm_insertionSort (fun a b : String × AuditValue => a.1.toList ≤ b.1.toList) p
  unfold jsonFieldOf
  rw [fromUTF8_utf8]
  change (readObject (String.ofList (payloadJSON p)).toList).bind _ = _
  rw [String.toList_ofList, payloadJSON, readObject_fields]
  exact lookup_perm hperm (((hperm.map Prod.fst).nodup_iff).mpr hkeys) k

end WalletManager.Proofs
