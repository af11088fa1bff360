import WalletManager.Lib

/-!
# Numbers and bytes

The conversions of `strconv`, `math/big`, `encoding/binary` and the builtin `copy` that the
transaction builder and the derivers use.
-/

namespace WalletManager

def decimalDigits (cs : List Char) : Option Nat :=
  if cs ≠ [] ∧ cs.all Char.isDigit then some (Nat.ofDigitChars 10 cs 0) else none

/-- `big.Int.SetString` in base 10: an optional sign and digits, nothing else. -/
def bigIntSetString (s : String) : Option Int :=
  match s.toList with
  | '-' :: cs => (decimalDigits cs).map (fun n : Nat => -(n : Int))
  | '+' :: cs => (decimalDigits cs).map (fun n : Nat => (n : Int))
  | cs => (decimalDigits cs).map (fun n : Nat => (n : Int))

/-- `strconv.ParseUint` in base 10 for words of `bits` bits. -/
def parseUint (lib : Lib) (s : String) (bits : Nat) : Except Error Nat :=
  match decimalDigits s.toList with
  | none => .error ⟨"strconv.ParseUint: parsing " ++ lib.quote s ++ ": invalid syntax", none⟩
  | some n =>
    if n < 2 ^ bits then .ok n
    else .error ⟨"strconv.ParseUint: parsing " ++ lib.quote s ++ ": value out of range", none⟩

/-- The big-endian bytes of a number without leading zeros, `fuel` bytes at most. -/
def bigEndian : Nat → Nat → Bytes
  | 0, _ => []
  | fuel + 1, n => if n = 0 then [] else bigEndian fuel (n / 256) ++ [UInt8.ofNat n]

/-- `big.Int.Bytes`: the bytes of the absolute value. -/
def bigIntBytes (n : Int) : Bytes := bigEndian (n.natAbs.log2 / 8 + 1) n.natAbs

/-- `big.Int.SetBytes` -/
def bigIntSetBytes (b : Bytes) : Int := b.foldl (fun acc x => acc * 256 + x.toNat) 0

/-- The eight bytes of `binary.LittleEndian.PutUint64`. -/
def putUint64 (n : Nat) : Bytes := (List.range 8).map (fun i => UInt8.ofNat (n / 256 ^ i))

/-- `strconv.Atoi` -/
def atoi (lib : Lib) (s : String) : Except Error Int :=
  match bigIntSetString s with
  | none => .error ⟨"strconv.Atoi: parsing " ++ lib.quote s ++ ": invalid syntax", none⟩
  | some n =>
    if -2 ^ 63 ≤ n ∧ n < 2 ^ 63 then .ok n
    else .error ⟨"strconv.Atoi: parsing " ++ lib.quote s ++ ": value out of range", none⟩

/-- `copy` into a zero array. -/
def copyArray (n : Nat) (b : Bytes) : Vector UInt8 n := Vector.ofFn (fun i => b.getD i 0)

lemma toList_copyArray {n : Nat} {b : Bytes} (h : b.length = n) : (copyArray n b).toList = b := by
  subst h
  refine List.ext_getElem (by simp) ?_
  intro i hi hi'
  simp [copyArray]

end WalletManager
