import WalletManager.Numeric.BigEndian

/-!
# Recursive length prefix encoding

Items are byte strings and lists of items. `encode` writes the shortest form of every length,
and `decode` accepts only that form and no trailing bytes. Strings and lists share one
framing, so the round trip rests on one lemma about frames.
-/

namespace Rlp

inductive Item
  | str (b : List UInt8)
  | list (items : List Item)

/-- A payload behind its length. Up to 55 bytes the length is part of the first byte. -/
def frame (offset : ℕ) (payload : List UInt8) : List UInt8 :=
  if payload.length ≤ 55 then UInt8.ofNat (offset + payload.length) :: payload
  else
    let size := BigEndian.bytes payload.length
    UInt8.ofNat (offset + 55 + size.length) :: (size ++ payload)

/-- The bytes announce a payload of `n` bytes. Other than the encoder, the format lets a length be
written out that would fit into the first byte, and with leading zeros. -/
inductive Announces (offset n : ℕ) : List UInt8 → Prop
  | short (h : n ≤ 55) : Announces offset n [UInt8.ofNat (offset + n)]
  | long {size : List UInt8} (hpos : 0 < size.length) (hlen : size.length ≤ 8) (h : BigEndian.value size = n) :
    Announces offset n (UInt8.ofNat (offset + 55 + size.length) :: size)

/-- Every other announcement of the payload is longer. -/
structure MinimalHeader (offset n : ℕ) (header : List UInt8) : Prop where
  announces : Announces offset n header
  shortest : ∀ other, Announces offset n other → other = header ∨ header.length < other.length

def isByte : List UInt8 → Bool
  | [b] => b.toNat < 128
  | _ => false

def encodeStr (b : List UInt8) : List UInt8 := if isByte b then b else frame 128 b

mutual

def Item.encode : Item → List UInt8
  | .str b => encodeStr b
  | .list items => frame 192 (encodeAll items)

def encodeAll : List Item → List UInt8
  | [] => []
  | item :: items => item.encode ++ encodeAll items

end

def takeExactly (n : ℕ) (b : List UInt8) : Option (List UInt8 × List UInt8) :=
  if n ≤ b.length then some (b.take n, b.drop n) else none

/-- A length that is written out has no leading zero and could not be part of the first byte. -/
def takeSize (k : ℕ) (b : List UInt8) : Option (ℕ × List UInt8) := do
  let (size, rest) ← takeExactly k b
  if size.head? = some 0 ∨ BigEndian.value size ≤ 55 then none
  else some (BigEndian.value size, rest)

/-- The payload behind the first byte `first`, and what follows it. -/
def takePayload (offset first : ℕ) (b : List UInt8) : Option (List UInt8 × List UInt8) :=
  if first ≤ offset + 55 then takeExactly (first - offset) b
  else do
    let (n, rest) ← takeSize (first - offset - 55) b
    takeExactly n rest

inductive Frame
  | str (b : List UInt8)
  | list (payload : List UInt8)

def takeFrame : List UInt8 → Option (Frame × List UInt8)
  | [] => none
  | first :: b =>
    if first.toNat < 128 then some (.str [first], b)
    else if first.toNat < 192 then do
      let (payload, rest) ← takePayload 128 first.toNat b
      if isByte payload then none else some (.str payload, rest)
    else do
      let (payload, rest) ← takePayload 192 first.toNat b
      some (.list payload, rest)

/-- All items of a byte string. Every item is nested less deep than the string is long. -/
def decodeAll : ℕ → List UInt8 → Option (List Item)
  | 0, _ => none
  | _ + 1, [] => some []
  | fuel + 1, first :: b =>
    match takeFrame (first :: b) with
    | none => none
    | some (.str x, rest) => (decodeAll fuel rest).map (.str x :: ·)
    | some (.list payload, rest) =>
      (decodeAll fuel payload).bind fun items => (decodeAll fuel rest).map (.list items :: ·)

def decode (b : List UInt8) : Option Item :=
  match decodeAll (b.length + 1) b with
  | some [item] => some item
  | _ => none

section Frames

variable {offset : ℕ} {payload rest : List UInt8}

lemma takeExactly_append (b rest : List UInt8) :
    takeExactly b.length (b ++ rest) = some (b, rest) := by
  simp [takeExactly]

lemma takePayload_frame (rest : List UInt8) (hoffset : offset + 63 < 256) (hsize : payload.length < 256 ^ 8) :
    ∃ first b, frame offset payload = first :: b ∧ offset ≤ first.toNat ∧ first.toNat ≤ offset + 63 ∧
      takePayload offset first.toNat (b ++ rest) = some (payload, rest) := by
  unfold frame
  by_cases hshort : payload.length ≤ 55
  · have hfirst : (UInt8.ofNat (offset + payload.length)).toNat = offset + payload.length := by
      rw [UInt8.toNat_ofNat']
      exact Nat.mod_eq_of_lt (by omega)
    refine ⟨_, _, if_pos hshort, by omega, by omega, ?_⟩
    rw [takePayload, hfirst, if_pos (by omega), Nat.add_sub_cancel_left]
    exact takeExactly_append payload rest
  · have hlen := BigEndian.length_bytes_le hsize
    have hpos : 0 < (BigEndian.bytes payload.length).length := BigEndian.length_bytes_pos (by omega)
    have hfirst : (UInt8.ofNat (offset + 55 + (BigEndian.bytes payload.length).length)).toNat =
        offset + 55 + (BigEndian.bytes payload.length).length := by
      rw [UInt8.toNat_ofNat']
      exact Nat.mod_eq_of_lt (by omega)
    refine ⟨_, _, if_neg hshort, by omega, by omega, ?_⟩
    have hsub : offset + 55 + (BigEndian.bytes payload.length).length - offset - 55 =
      (BigEndian.bytes payload.length).length := by omega
    have hcanon : ¬ ((BigEndian.bytes payload.length).head? = some 0 ∨ payload.length ≤ 55) :=
      fun h => h.elim (BigEndian.head_bytes _) hshort
    rw [takePayload, hfirst, if_neg (by omega), hsub, List.append_assoc, takeSize, takeExactly_append]
    simp only [Option.bind_eq_bind, Option.bind_some, BigEndian.value_bytes, if_neg hcanon]
    exact takeExactly_append payload rest

lemma length_frame (offset : ℕ) (payload : List UInt8) :
    payload.length < (frame offset payload).length := by
  unfold frame
  split
  · simp
  · simp only [List.length_cons, List.length_append]
    omega

/-- A frame is the shortest announcement of its payload, and the payload. -/
theorem frame_minimal (offset : ℕ) (hsize : payload.length < 256 ^ 8) :
    ∃ header, MinimalHeader offset payload.length header ∧ frame offset payload = header ++ payload := by
  unfold frame
  split
  · rename_i hshort
    refine ⟨_, ⟨.short hshort, ?_⟩, rfl⟩
    intro other hother
    cases hother with
    | short => exact .inl rfl
    | long hpos => exact .inr (by simpa using hpos)
  · rename_i hlong
    have hpos : 0 < (BigEndian.bytes payload.length).length := BigEndian.length_bytes_pos (by omega)
    have hlen : (BigEndian.bytes payload.length).length ≤ 8 := BigEndian.length_bytes_le hsize
    refine ⟨_, ⟨.long hpos hlen (BigEndian.value_bytes _), ?_⟩, rfl⟩
    intro other hother
    cases hother with
    | short hshort => exact absurd hshort hlong
    | @long size _ _ hvalue =>
      rcases BigEndian.length_bytes_value size with heq | hlt
      · rw [hvalue] at heq
        rw [heq]
        exact .inl rfl
      · rw [hvalue] at hlt
        exact .inr (by simpa using hlt)

lemma takeFrame_list (hsize : payload.length < 256 ^ 8) :
    takeFrame (frame 192 payload ++ rest) = some (.list payload, rest) := by
  obtain ⟨first, b, hframe, hle, -, htake⟩ :=
    takePayload_frame rest (by decide : 192 + 63 < 256) hsize
  rw [hframe, List.cons_append, takeFrame, if_neg (by omega), if_neg (by omega), htake]
  rfl

lemma takeFrame_str (b : List UInt8) (hsize : b.length < 256 ^ 8) :
    takeFrame (encodeStr b ++ rest) = some (.str b, rest) := by
  unfold encodeStr
  by_cases hbyte : isByte b = true
  · rw [if_pos hbyte]
    cases b with
    | nil => cases hbyte
    | cons x b =>
      cases b with
      | nil =>
        simp only [isByte, decide_eq_true_eq] at hbyte
        simp [takeFrame, hbyte]
      | cons y b => cases hbyte
  · rw [if_neg hbyte]
    obtain ⟨first, tail, hframe, hge, hle, htake⟩ :=
      takePayload_frame rest (by decide : 128 + 63 < 256) hsize
    rw [hframe, List.cons_append, takeFrame, if_neg (by omega), if_pos (by omega), htake]
    simp [hbyte]

end Frames

section RoundTrip

variable {fuel : ℕ} {b rest : List UInt8}

lemma decodeAll_str {x : List UInt8} (h : takeFrame b = some (.str x, rest)) :
    decodeAll (fuel + 1) b = (decodeAll fuel rest).map (.str x :: ·) := by
  cases b with
  | nil => cases h
  | cons first b => rw [decodeAll, h]

lemma decodeAll_list {payload : List UInt8} {items : List Item}
    (h : takeFrame b = some (.list payload, rest)) (hitems : decodeAll fuel payload = some items) :
    decodeAll (fuel + 1) b = (decodeAll fuel rest).map (.list items :: ·) := by
  cases b with
  | nil => cases h
  | cons first b =>
    rw [decodeAll, h]
    simp only [hitems, Option.bind_some]

lemma length_encodeStr (b : List UInt8) : b.length ≤ (encodeStr b).length ∧ 0 < (encodeStr b).length := by
  unfold encodeStr
  split
  · rename_i hbyte
    refine ⟨le_rfl, List.length_pos_iff.mpr ?_⟩
    rintro rfl
    cases hbyte
  · have hlen := length_frame 128 b
    omega

theorem decodeAll_encodeAll (items : List Item) (hfuel : (encodeAll items).length < fuel)
    (hsize : (encodeAll items).length < 256 ^ 8) : decodeAll fuel (encodeAll items) = some items := by
  induction fuel generalizing items with
  | zero => omega
  | succ fuel ih =>
    cases items with
    | nil => rfl
    | cons item items =>
      rw [encodeAll, List.length_append] at hfuel hsize
      rw [encodeAll]
      cases item with
      | str x =>
        rw [Item.encode] at hfuel hsize ⊢
        have hlen := length_encodeStr x
        rw [decodeAll_str (takeFrame_str x (by omega)), ih items (by omega) (by omega)]
        rfl
      | list inner =>
        rw [Item.encode] at hfuel hsize ⊢
        have hlen := length_frame 192 (encodeAll inner)
        have hinner := ih inner (by omega) (by omega)
        rw [decodeAll_list (takeFrame_list (by omega)) hinner, ih items (by omega) (by omega)]
        rfl

/-- Every item shorter than 256 to the eighth is read back. -/
theorem decode_encode (item : Item) (hsize : item.encode.length < 256 ^ 8) :
    decode item.encode = some item := by
  have hall := decodeAll_encodeAll [item] (by simp [encodeAll] : _ < item.encode.length + 1)
    (by simpa [encodeAll] using hsize)
  simp only [encodeAll, List.append_nil] at hall
  rw [decode, hall]

end RoundTrip

end Rlp
