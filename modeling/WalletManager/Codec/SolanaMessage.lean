import Mathlib.Algebra.Group.Nat.Defs
import Mathlib.Data.Nat.Notation
import Mathlib.Tactic.Common

/-!
# Legacy Solana messages

A message is a header of three bytes, the account keys, a blockhash and the instructions. Lists
stand behind their length, which is written in groups of seven bits and at most 65535. `decode`
accepts the shortest form of every length and no trailing bytes.
-/

namespace SolanaMessage

abbrev Key := Vector UInt8 32

structure Header where
  requiredSignatures : UInt8
  readonlySigned : UInt8
  readonlyUnsigned : UInt8
  deriving DecidableEq

/-- An instruction refers to its program and its accounts by their positions among the keys. -/
structure Instruction where
  program : UInt8
  accounts : List UInt8
  data : List UInt8
  deriving DecidableEq

structure Message where
  header : Header
  keys : List Key
  blockhash : Key
  instructions : List Instruction
  deriving DecidableEq

section Lengths

def encodeCount (n : ℕ) : List UInt8 :=
  if n < 128 then [UInt8.ofNat n]
  else if n < 16384 then [UInt8.ofNat (128 + n % 128), UInt8.ofNat (n / 128)]
  else [UInt8.ofNat (128 + n % 128), UInt8.ofNat (128 + n / 128 % 128), UInt8.ofNat (n / 16384)]

def takeByte : List UInt8 → Option (UInt8 × List UInt8)
  | [] => none
  | x :: b => some (x, b)

/-- A last group of zero would not be the shortest form. -/
def takeCount (b : List UInt8) : Option (ℕ × List UInt8) := do
  let (x, b) ← takeByte b
  if x.toNat < 128 then return (x.toNat, b)
  let (y, b) ← takeByte b
  if y.toNat = 0 then none
  if y.toNat < 128 then return (x.toNat - 128 + 128 * y.toNat, b)
  let (z, b) ← takeByte b
  if z.toNat = 0 ∨ 3 < z.toNat then none
  return (x.toNat - 128 + 128 * (y.toNat - 128) + 16384 * z.toNat, b)

lemma toNat_ofNat_of_lt {n : ℕ} (h : n < 256) : (UInt8.ofNat n).toNat = n := by
  rw [UInt8.toNat_ofNat']
  exact Nat.mod_eq_of_lt h

lemma takeCount_encodeCount {n : ℕ} (h : n < 65536) (rest : List UInt8) :
    takeCount (encodeCount n ++ rest) = some (n, rest) := by
  have hlow : (UInt8.ofNat (128 + n % 128)).toNat = 128 + n % 128 := toNat_ofNat_of_lt (by omega)
  unfold encodeCount
  split
  · rename_i hn
    have hx := toNat_ofNat_of_lt (by omega : n < 256)
    simp [takeCount, takeByte, hx, hn]
  split
  · rename_i hn
    have hy := toNat_ofNat_of_lt (by omega : n / 128 < 256)
    simp only [takeCount, takeByte, List.cons_append, List.nil_append, Option.bind_eq_bind, Option.bind_some,
      hlow, hy]
    rw [if_neg (by omega), if_neg (by omega), if_pos (by omega)]
    simp
    omega
  · have hmid : (UInt8.ofNat (128 + n / 128 % 128)).toNat = 128 + n / 128 % 128 :=
      toNat_ofNat_of_lt (by omega)
    have hz := toNat_ofNat_of_lt (by omega : n / 16384 < 256)
    simp only [takeCount, takeByte, List.cons_append, List.nil_append, Option.bind_eq_bind, Option.bind_some,
      hlow, hmid, hz]
    rw [if_neg (by omega), if_neg (by omega), if_neg (by omega), if_neg (by omega)]
    simp
    omega

end Lengths

section Lists

variable {α : Type} {encode : α → List UInt8} {take : List UInt8 → Option (α × List UInt8)}

def takeMany (take : List UInt8 → Option (α × List UInt8)) : ℕ → List UInt8 → Option (List α × List UInt8)
  | 0, b => some ([], b)
  | n + 1, b => do
    let (x, b) ← take b
    let (xs, b) ← takeMany take n b
    return (x :: xs, b)

def encodeVec (encode : α → List UInt8) (xs : List α) : List UInt8 :=
  encodeCount xs.length ++ xs.flatMap encode

def takeVec (take : List UInt8 → Option (α × List UInt8)) (b : List UInt8) :
    Option (List α × List UInt8) := do
  let (n, b) ← takeCount b
  takeMany take n b

lemma takeMany_flatMap {xs : List α} (h : ∀ x ∈ xs, ∀ rest, take (encode x ++ rest) = some (x, rest))
    (rest : List UInt8) : takeMany take xs.length (xs.flatMap encode ++ rest) = some (xs, rest) := by
  induction xs with
  | nil => rfl
  | cons x xs ih =>
    rw [List.length_cons, takeMany, List.flatMap_cons, List.append_assoc, h x List.mem_cons_self]
    simp [ih (fun y hy => h y (List.mem_cons_of_mem x hy))]

theorem takeVec_encodeVec {xs : List α} (hlen : xs.length < 65536)
    (h : ∀ x ∈ xs, ∀ rest, take (encode x ++ rest) = some (x, rest)) (rest : List UInt8) :
    takeVec take (encodeVec encode xs ++ rest) = some (xs, rest) := by
  rw [takeVec, encodeVec, List.append_assoc, takeCount_encodeCount hlen]
  exact takeMany_flatMap h rest

end Lists

section Messages

def takeKey (b : List UInt8) : Option (Key × List UInt8) :=
  if h : 32 ≤ b.length then some (⟨(b.take 32).toArray, by simp [h]⟩, b.drop 32) else none

def encodeBytes (b : List UInt8) : List UInt8 := encodeVec (fun x => [x]) b

def Instruction.encode (ix : Instruction) : List UInt8 :=
  ix.program :: (encodeBytes ix.accounts ++ encodeBytes ix.data)

def takeInstruction (b : List UInt8) : Option (Instruction × List UInt8) := do
  let (program, b) ← takeByte b
  let (accounts, b) ← takeVec takeByte b
  let (data, b) ← takeVec takeByte b
  return (⟨program, accounts, data⟩, b)

def Header.encode (h : Header) : List UInt8 := [h.requiredSignatures, h.readonlySigned, h.readonlyUnsigned]

def Message.encode (m : Message) : List UInt8 :=
  m.header.encode ++ (encodeVec Vector.toList m.keys ++ (m.blockhash.toList ++
    encodeVec Instruction.encode m.instructions))

def decode (b : List UInt8) : Option Message := do
  let (x, b) ← takeByte b
  let (y, b) ← takeByte b
  let (z, b) ← takeByte b
  let (keys, b) ← takeVec takeKey b
  let (blockhash, b) ← takeKey b
  let (instructions, b) ← takeVec takeInstruction b
  if b = [] then return ⟨⟨x, y, z⟩, keys, blockhash, instructions⟩ else none

/-- All lists of the message have a length that can be written. -/
structure Message.Writable (m : Message) : Prop where
  keys : m.keys.length < 65536
  instructions : m.instructions.length < 65536
  parts : ∀ ix ∈ m.instructions, ix.accounts.length < 65536 ∧ ix.data.length < 65536

lemma takeKey_append (key : Key) (rest : List UInt8) : takeKey (key.toList ++ rest) = some (key, rest) := by
  have hlen : 32 ≤ (key.toList ++ rest).length := by simp
  rw [takeKey, dif_pos hlen]
  simp [Vector.toList]

lemma takeBytes_encodeBytes {b : List UInt8} (h : b.length < 65536) (rest : List UInt8) :
    takeVec takeByte (encodeBytes b ++ rest) = some (b, rest) :=
  takeVec_encodeVec h (fun _ _ _ => rfl) rest

lemma takeInstruction_encode {ix : Instruction} (h : ix.accounts.length < 65536 ∧ ix.data.length < 65536)
    (rest : List UInt8) : takeInstruction (ix.encode ++ rest) = some (ix, rest) := by
  rw [takeInstruction, Instruction.encode, List.cons_append, takeByte]
  simp [takeBytes_encodeBytes h.1, takeBytes_encodeBytes h.2]

theorem decode_encode {m : Message} (h : m.Writable) : decode m.encode = some m := by
  have hinstructions := takeVec_encodeVec h.instructions (fun ix hix => takeInstruction_encode (h.parts ix hix)) []
  rw [List.append_nil] at hinstructions
  simp only [decode, Message.encode, Header.encode, List.cons_append, List.nil_append, takeByte,
    Option.bind_eq_bind, Option.bind_some]
  rw [takeVec_encodeVec h.keys (fun key _ => takeKey_append key)]
  simp [takeKey_append, hinstructions]

end Messages

section Transfers

def leBytes (width n : ℕ) : List UInt8 := (List.range width).map (fun i => UInt8.ofNat (n / 256 ^ i))

/-- The data of `SystemInstruction::Transfer`: the index of the variant, then the lamports. -/
def transferData (lamports : ℕ) : List UInt8 := leBytes 4 2 ++ leBytes 8 lamports

def systemProgram : Key := Vector.replicate 32 0

def Message.accountsOf (m : Message) (ix : Instruction) : Option (List Key) :=
  ix.accounts.mapM (fun i => m.keys[i.toNat]?)

def Message.IsTransfer (m : Message) (sender target : Key) (lamports : ℕ) (blockhash : Key) : Prop :=
  m.blockhash = blockhash ∧ ∃ ix, m.instructions = [ix] ∧ m.keys[ix.program.toNat]? = some systemProgram ∧
    m.accountsOf ix = some [sender, target] ∧ ix.data = transferData lamports

end Transfers

end SolanaMessage
