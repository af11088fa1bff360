import WalletManager.Balance.Service
import WalletManager.Numeric.DecimalText
import WalletManager.Storage.Postgres
import WalletManager.Wallet.Service
import WalletManager.Withdrawal.Service
import Mathlib.Data.List.Sort

/-!
# A reference instance of the imported packages

`referenceLib` computes the imported functions where they are simple, and tabulates the
hashes of the transactions that the concrete runs of this development build. Its decimals
obey the laws that the balance results ask of the decimal package.
-/

namespace WalletManager.Proofs

open Interaction

/-- What the balance results ask of the decimal package: the empty text is no number, numbers
that come from texts have a finite expansion, and the text of such a number reads back as it. -/
structure LawfulDecimal (lib : Lib) : Prop where
  empty : ∀ q, lib.newFromString "" ≠ .ok q
  parsed : ∀ s q, lib.newFromString s = .ok q → DecimalText.IsDecimal q
  roundTrip : ∀ q, DecimalText.IsDecimal q → lib.newFromString (lib.decimalString q) = .ok q

section Decimals

variable {lib : Lib}

lemma parseDec_isDecimal (hlib : LawfulDecimal lib) (s : String) : DecimalText.IsDecimal (parseDec lib s) := by
  unfold parseDec
  split
  · exact DecimalText.isDecimal_zero
  · split
    · exact DecimalText.isDecimal_zero
    · rename_i d hd
      exact hlib.parsed s d hd

lemma parseDec_decimalString (hlib : LawfulDecimal lib) {q : ℚ} (hq : DecimalText.IsDecimal q) :
    parseDec lib (lib.decimalString q) = q := by
  have hround := hlib.roundTrip q hq
  unfold parseDec
  rw [if_neg, hround]
  intro hempty
  rw [hempty] at hround
  exact hlib.empty q hround

end Decimals

/-- What the results on key mappings ask of `sort.Slice`: it permutes the list, and sorts it
when it is given the order of a key. -/
structure LawfulSort (lib : Lib) : Prop where
  perm : ∀ {α : Type} (less : α → α → Bool) (l : List α), (lib.sortSlice less l).Perm l
  sorted : ∀ {α : Type} (key : α → Int) (l : List α),
    (lib.sortSlice (fun a b => decide (key a < key b)) l).Pairwise (fun a b => key a ≤ key b)

def referenceNewFromString (s : String) : Except Error ℚ :=
  match DecimalText.parse s with
  | none => .error ⟨"can't convert " ++ s ++ " to decimal", none⟩
  | some q => .ok q

def littleEndian (k n : Nat) : Bytes := (List.range k).map (fun i => UInt8.ofNat (n / 256 ^ i))

/-- The wire format of a transaction with fewer than 253 inputs, outputs and witness bytes. -/
def referenceSerialize (tx : MsgTx) : Bytes :=
  littleEndian 4 tx.version.toNat ++ [0, 1] ++ [UInt8.ofNat tx.txIn.length] ++
    tx.txIn.flatMap (fun i => i.previousOutPoint.hash ++ littleEndian 4 i.previousOutPoint.index ++
      [0] ++ littleEndian 4 i.sequence) ++ [UInt8.ofNat tx.txOut.length] ++
    tx.txOut.flatMap (fun o => littleEndian 8 o.value.toNat ++ [UInt8.ofNat o.pkScript.length] ++
      o.pkScript) ++
    tx.txIn.flatMap (fun i => [UInt8.ofNat i.witness.length] ++
      i.witness.flatMap (fun item => [UInt8.ofNat item.length] ++ item)) ++ littleEndian 4 0

/-- Byte strings and their Keccak-256 digests, read as numbers: what is signed for transfers of 1, 2
and 5 wei with nonce 0 and of 1 and 2 wei with nonce 1; then, for the generator of the group and the
first two keys of `evmXpub`, the coordinates and the text of the address. -/
def keccakTable : List (ℕ × ℕ) := [
  (0xe380843b9aca008252089400000000000000000000000000000000000000aa0180018080,
    0x90598059bf03a58f7c6febc64e90f28cebc47e39b0c748218802182be284cb7b),
  (0xe380843b9aca008252089400000000000000000000000000000000000000aa0280018080,
    0xd45236c2da6fb460bef5865fe8b9567f92ddc1754627ec59d88041fc675c4361),
  (0xe380843b9aca008252089400000000000000000000000000000000000000aa0580018080,
    0xba05f6ced9689ca9e56862b16b10a8a162cf3fddc1801e5362915acb138682d2),
  (0xe301843b9aca008252089400000000000000000000000000000000000000aa0180018080,
    0x3b79223adeea13a84f1ddf26ef6cfae909244d396f5015b443e5b385f069dc5f),
  (0xe301843b9aca008252089400000000000000000000000000000000000000aa0280018080,
    0x937c96f7573b0c6e9856a34c6ba27ff3b2fa7889f85ed71e263ea520842d89b7),
  (0x79be667ef9dcbbac55a06295ce870b07029bfcdb2dce28d959f2815b16f81798 * 256 ^ 32 +
      0x483ada7726a3c4655da4fbfc0e1108a8fd17b448a68554199c47d08ffb10d4b8,
    0xc0a6c424ac7157ae408398df7e5f4552091a69125d5dfcb7b8c2659029395bdf),
  (0x37653566343535323039316136393132356435646663623762386332363539303239333935626466,
    0xa8aaec6aceafa450816b295770adcd144ce18d630d6ce74288aa4f1569eda4ca),
  (0x844a5d329470697de9926c9c98839ea33b6dd9507a896194ae2b91d71faa16d6 * 256 ^ 32 +
      0x4b9c486b7a6395543027bc6e8c99e1967fb41718e1ab1ef66585c5c55470ca1d,
    0x97d0f996a427cc5ca2f7f2bd022b971dff0c43305e691ded7a14367af19d6407),
  (0x30323262393731646666306334333330356536393164656437613134333637616631396436343037,
    0x2f164da4c89fa260d2990cf6767ecd7fc75c9a34b8acf91609a7c40404bcde3c),
  (0x170acbbcb89dd0e364ce51c96770fa24d7be16e486183c390f9d0bcb520df8e6 * 256 ^ 32 +
      0xc492b81d94df540ce7e7104493f38ae0956eb30e252a5280c05b034c584fc5cf,
    0xcba737d81dd2b4c1f118150fbb7a182240010703dc81d6b1eff630ca02a169fd),
  (0x62623761313832323430303130373033646338316436623165666636333063613032613136396664,
    0x53494bc28d4f91fc748fb65699798edc7e33c09bb84cafe0579f7737ea7bb2a1)]

def wordBytes (n : ℕ) : Bytes := (littleEndian 32 n).reverse

def referenceKeccak (b : Bytes) : Bytes :=
  ((keccakTable.lookup (bigIntSetBytes b).toNat).map wordBytes).getD []

/-- The signing hashes of payments from the first outputs of the transactions `aa…aa` and `bb…bb`: by
the key hash, the spent transactions, the index and the amount of the input, and the payment. -/
def sigHashTable : List ((ℕ × List ℕ × ℕ × Int × List Int) × ℕ) := [
  ((0, [0xaa], 0, 1000, [1000]), 0x8f3749aaaf59cfccf1b688e01f58f2bcf477e4dec79ee32ee0bbe80e0e9d0c34),
  ((0, [0xaa], 0, 900, [900]), 0x42c208e9140b74b4a6f50e13345049526f105e51adf64b80b269bcb95794c25e),
  ((0, [0xbb], 0, 900, [900]), 0x3ab9af130bc9515c4866188fb7412d1abb8a98127c340c1ce44dffcdf04912e8),
  ((0, [0xaa, 0xbb], 0, 500, [1000]),
    0xb200aeea945a4f1c28236b6dc832bb21be19b784d589baa23794ebff8a5a1459),
  ((0, [0xaa, 0xbb], 1, 500, [1000]),
    0xad381ac764cbde862e006b1ece354bd8d3e0927b8e6cba4824dc97823b64e829),
  ((0x35d98b00b5227268bb8911ae690581c1c51b8c30, [0xaa], 0, 1000, [1000]),
    0xd009c013612b2dce95745488653c6b1401fe8d70307f20d8d98641ca713769c3)]

def referenceSigHash (pkScript : Bytes) (tx : MsgTx) (i : ℕ) (amount : Int) : Except Error Bytes :=
  match sigHashTable.lookup ((bigIntSetBytes (pkScript.drop 2)).toNat,
    tx.txIn.map (fun i => (i.previousOutPoint.hash.headD 0).toNat), i, amount, tx.txOut.map TxOut.value) with
  | some hash => .ok (wordBytes hash)
  | none => .error ⟨"not tabulated", none⟩

def referenceAddrScript (addr : String) : Except Error Bytes :=
  if addr = "bc1qw508d6qejxtdg4y5r3zarvary0c5xw7kv8f3t4" then
    .ok [0x00, 0x14, 0x75, 0x1e, 0x76, 0xe8, 0x19, 0x91, 0x96, 0xd4, 0x54, 0x94, 0x1c, 0x45, 0xd1,
      0xb3, 0xa3, 0x23, 0xf1, 0x43, 0x3b, 0xd6]
  else .error ⟨"not tabulated", none⟩

def referenceHashFromStr (s : String) : Except Error Bytes :=
  match hexPairs (utf8 s) with
  | none => .error ⟨"encoding/hex: invalid byte", none⟩
  | some b => if b.length ≤ 32 then .ok (b.reverse ++ List.replicate (32 - b.length) 0)
    else .error ⟨"max hash string length is 64 bytes", none⟩

def referenceLib : Lib where
  quote s := "\"" ++ s ++ "\""
  sortSlice less l := l.insertionSort (fun a b => less b a = false)
  newFromString := referenceNewFromString
  decimalString := DecimalText.format
  keccak256 := referenceKeccak
  sha256 _ := []
  base58Decode _ := []
  addrScript := referenceAddrScript
  p2wpkhScript h := [0x00, 0x14] ++ h
  newHashFromStr := referenceHashFromStr
  calcWitnessSigHash pkScript _ tx i amount := referenceSigHash pkScript tx i amount
  serialize tx := .ok (referenceSerialize tx)

theorem referenceLib_lawful : LawfulDecimal referenceLib := by
  constructor
  · intro q h
    change referenceNewFromString "" = .ok q at h
    have hnone : DecimalText.parse "" = none := by decide +kernel
    rw [referenceNewFromString, hnone] at h
    cases h
  · intro s q h
    change referenceNewFromString s = .ok q at h
    unfold referenceNewFromString at h
    split at h
    · cases h
    · rename_i q' hq
      cases h
      exact DecimalText.parse_isDecimal hq
  · intro q hq
    change referenceNewFromString (DecimalText.format q) = .ok q
    unfold referenceNewFromString
    rw [DecimalText.parse_format hq]

theorem referenceLib_sorts : LawfulSort referenceLib := by
  constructor
  · intro α less l
    exact List.perm_insertionSort _ l
  · intro α key l
    have htotal : Std.Total (fun a b : α => decide (key b < key a) = false) :=
      ⟨fun a b => by simpa using le_total (key a) (key b)⟩
    have htrans : IsTrans α (fun a b : α => decide (key b < key a) = false) :=
      ⟨fun a b c hab hbc => by simpa using le_trans (by simpa using hab) (by simpa using hbc)⟩
    refine (List.pairwise_insertionSort (fun a b => decide (key b < key a) = false) l).imp ?_
    intro a b hab
    simpa using hab

/-- Rounding to 18 decimal places, half away from zero. -/
def roundNumeric (q : ℚ) : Int :=
  if q < 0 then -(1 / 2 - q * 10 ^ 18).floor else (q * 10 ^ 18 + 1 / 2).floor

def referenceNumeric : Numeric where
  input text := match DecimalText.parse text with
    | none => .error ⟨"pq: invalid input syntax for type numeric", none⟩
    | some q =>
      if (roundNumeric q).natAbs < 10 ^ 38 then .ok (roundNumeric q / 10 ^ 18)
      else .error ⟨"pq: numeric field overflow", none⟩
  output q := DecimalText.fixed 18 (q * 10 ^ 18).num

/-- A database that keeps payloads as they are and orders texts by their code points. -/
def referenceDatabase : Database where
  numeric := referenceNumeric
  jsonb b := .ok b
  orderBy less l := referenceLib.sortSlice less l
  collation a b := decide (a < b)

lemma exists_ok_of_toBool {α : Type} {r : Except Error α} (h : r.toBool = true) : ∃ a, r = .ok a := by
  cases r with
  | error err => cases h
  | ok a => exact ⟨a, rfl⟩

def referenceService : Service := { lib := referenceLib }

def evmWallet : Wallet :=
  { id := UUID.ofByte 1, chain := .ethereum, type := .hot, state := .active, keyID := "key" }

def evmTransfer (amount : String) : CreateRequest :=
  ⟨evmWallet.id, "0x00000000000000000000000000000000000000aa", "ETH", amount⟩

def btcWallet : Wallet :=
  { id := UUID.ofByte 2, chain := .bitcoin, type := .hot, state := .active, keyID := "key" }

def btcTransfer (amount : String) : CreateRequest :=
  ⟨btcWallet.id, "bc1qw508d6qejxtdg4y5r3zarvary0c5xw7kv8f3t4", "BTC", amount⟩

def solWallet : Wallet :=
  { id := UUID.ofByte 3, chain := .solana, type := .hot, state := .active, keyID := "key" }

def outpointA : String := "aaaaaaaaaaaaaaaaaaaaaaaaaaaaaaaaaaaaaaaaaaaaaaaaaaaaaaaaaaaaaaaa:0"

def outpointB : String := "bbbbbbbbbbbbbbbbbbbbbbbbbbbbbbbbbbbbbbbbbbbbbbbbbbbbbbbbbbbbbbbb:0"

def outpointC : String := "cccccccccccccccccccccccccccccccccccccccccccccccccccccccccccccccc:0"

def outpointD : String := "cccccccccccccccccccccccccccccccccccccccccccccccccccccccccccccccc:1"

def btcOutput (outpoint value : String) : UTXO :=
  { outpoint := outpoint, walletID := btcWallet.id, value := value, lockState := .free }

def agree : (c : ExtCall) → c.Answer
  | .acquire _ _ => .ok ("token", true)
  | .release _ _ => .ok ()
  | .checkWhitelist _ => ⟨some ⟨true, "decision", ""⟩, none⟩
  | .sign _ => .ok ⟨27 :: List.replicate 64 1⟩
  | .broadcastTx _ => .ok ⟨"txhash"⟩
  | .resolveActiveKeyID _ => .ok "key"
  | .btcPubKeyHash _ => .ok ⟨Vector.replicate 20 0, none⟩
  | .solanaFrom _ => .ok ⟨Vector.replicate 32 0⟩
  | .fetchRecentBlockhash => .error errNoSolanaRPC
  | .emit _ => .ok ()
  | .onConfirmedDecrease _ _ => ()
  | .cacheGet _ => .ok ("", false)
  | .cacheSet _ _ => .ok ()
  | .requestFunding _ => .ok ()
  | .deliver _ => .ok ()

def answering (answers : (c : ExtCall) → c.Answer) (s : Store) : (c : Call) → Answer c × Store
  | .store c => s.handle referenceLib c
  | .ext c => (answers c, s)

lemma answering_memStep (answers : (c : ExtCall) → c.Answer) (s : Store) (c : Call) :
    memStep referenceLib s c (answering answers s c).1 (answering answers s c).2 := by
  cases c <;> rfl

def referenceStep (answers : (c : ExtCall) → c.Answer) (s : Store) (op : Op) :
    Trace × Except Error Unit × Store :=
  (op.proc referenceService).run (answering answers) s

lemma referenceStep_exec (answers : (c : ExtCall) → c.Answer) (s : Store) (op : Op) :
    Exec (memStep referenceService.lib) (op.proc referenceService) s (referenceStep answers s op).1
      (referenceStep answers s op).2.1 (referenceStep answers s op).2.2 :=
  Prog.run_exec (answering_memStep answers) _ s

def referenceRun (answers : (c : ExtCall) → c.Answer) (s₀ : Store) (ops : List Op) :
    List (Entry Op Call Answer (Except Error Unit)) × Store :=
  runAll (Op.proc referenceService) (answering answers) s₀ ops

lemma referenceRun_runs (answers : (c : ExtCall) → c.Answer) (ok : Store → Op → Prop) (s₀ : Store)
    (ops : List Op) (hok : ∀ op ∈ ops, ∀ s, ok s op) :
    Runs (Op.proc referenceService) (memStep referenceService.lib) ok s₀
      (referenceRun answers s₀ ops).1 (referenceRun answers s₀ ops).2 :=
  runs_runAll (answering_memStep answers) ops hok

def referenceBalances : BalanceService := { lib := referenceLib, config := ⟨12, 6, 7⟩ }

def evmDeposit (amount : String) (confirmations blockHeight : Int) (eventID : String) :
    ConfirmationEvent :=
  ⟨evmWallet.id, "ETH", amount, confirmations, blockHeight, eventID, false, .ethereum⟩

def balanceRun (s₀ : Store) (ops : List BalanceOp) :
    List (Entry BalanceOp Call Answer (Except Error Unit)) × Store :=
  runAll (BalanceOp.proc referenceBalances) (answering agree) s₀ ops

lemma balanceRun_runs (ok : Store → BalanceOp → Prop) (s₀ : Store) (ops : List BalanceOp)
    (hok : ∀ op ∈ ops, ∀ s, ok s op) :
    Runs (BalanceOp.proc referenceBalances) (memStep referenceBalances.lib) ok s₀
      (balanceRun s₀ ops).1 (balanceRun s₀ ops).2 :=
  runs_runAll (answering_memStep agree) ops hok

def referenceProvisioning : Provisioning where
  wallets := { lib := referenceLib }
  keys := { keyCoolingPeriod := 10, durationString := Int.repr }

def provisionRun (ops : List ProvisionOp) :
    List (Entry ProvisionOp Call Answer (Except Error Unit)) × Store :=
  runAll (ProvisionOp.proc referenceProvisioning) (answering agree) {} ops

lemma provisionRun_runs (ops : List ProvisionOp) :
    Runs (ProvisionOp.proc referenceProvisioning) (memStep referenceProvisioning.wallets.lib)
      (fun _ _ => True) {} (provisionRun ops).1 (provisionRun ops).2 :=
  runs_runAll (answering_memStep agree) ops (by simp)

def requestOf (wr : WithdrawalRequest) : CreateRequest :=
  ⟨wr.walletID, wr.toAddress, wr.asset, wr.amount⟩

def claimOf (s : Store) (id : UUID) : Option (UUID × WithdrawalState × Option Int × List String) :=
  (s.withdrawals.lookup id).map
    (fun wr => (wr.walletID, wr.state, wr.nonceValue, wr.reservedOutpoints))

lemma claimOf_eq {s : Store} {id walletID : UUID} {state : WithdrawalState} {n : Option Int}
    {ops : List String} (h : claimOf s id = some (walletID, state, n, ops)) :
    ∃ wr, s.withdrawals.lookup id = some wr ∧ wr.walletID = walletID ∧ wr.state = state ∧
      wr.nonceValue = n ∧ wr.reservedOutpoints = ops := by
  obtain ⟨wr, hwr, heq⟩ := Option.map_eq_some_iff.mp h
  simp only [Prod.mk.injEq] at heq
  exact ⟨wr, hwr, heq⟩

end WalletManager.Proofs
