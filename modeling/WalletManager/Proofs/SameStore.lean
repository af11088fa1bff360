import WalletManager.Proofs.Keys
import WalletManager.Proofs.Reference
import WalletManager.Relational.Agreement

/-!
# A memory store and a database with the same rows

Rows are the same up to times and the text of amounts. `Agree` says that every table of the database
holds the rows of the memory store, and that the database has a row for each event key that the
memory store has recorded.
-/

namespace WalletManager.Proofs

open Relational

/-- What the comparison asks of the database: a column returns a text of the number that it holds, and
`ORDER BY` permutes the rows, and sorts them when it is given the order of a key. -/
structure LawfulDatabase (lib : Lib) (db : Database) : Prop where
  numeric : ∀ text q, db.numeric.input text = .ok q → lib.newFromString (db.numeric.output q) = .ok q
  perm : ∀ {α : Type} (less : α → α → Bool) (l : List α), (db.orderBy less l).Perm l
  sorted : ∀ {α : Type} (key : α → Int) (l : List α),
    (db.orderBy (fun a b => decide (key a < key b)) l).Pairwise (fun a b => key a ≤ key b)

lemma referenceNumeric_read {text : String} {q : ℚ} (h : referenceNumeric.input text = .ok q) :
    referenceNewFromString (referenceNumeric.output q) = .ok q := by
  unfold referenceNumeric at h ⊢
  dsimp only at h ⊢
  split at h
  · cases h
  · split at h
    · rename_i q' _ _
      have hq := Except.ok.inj h
      have hscaled : (q * 10 ^ 18).num = roundNumeric q' := by
        rw [← hq, div_mul_cancel₀ _ (by positivity), Rat.num_intCast]
      unfold referenceNewFromString
      rw [hscaled, DecimalText.parse_fixed, hq]
    · cases h

theorem referenceDatabase_lawful : LawfulDatabase referenceLib referenceDatabase where
  numeric _ _ h := referenceNumeric_read h
  perm less l := referenceLib_sorts.perm less l
  sorted key l := referenceLib_sorts.sorted key l

section Rows

variable (lib : Lib) (db : Database)

def SameNumber (text text' : String) : Prop :=
  ∃ q, lib.newFromString text = .ok q ∧ lib.newFromString text' = .ok q

def SameAddress (a b : Address) : Prop := b = { a with createdAt := b.createdAt }

def SameMapping (m n : KeyMapping) : Prop := n = { m with activeFrom := n.activeFrom }

def SameBalance (b c : Balance) : Prop :=
  c = { b with confirmed := c.confirmed, pending := c.pending, locked := c.locked } ∧
    SameNumber lib b.confirmed c.confirmed ∧ SameNumber lib b.pending c.pending ∧
    SameNumber lib b.locked c.locked

def SameUTXO (u v : UTXO) : Prop := v = { u with value := v.value } ∧ SameNumber lib u.value v.value

def SameWithdrawal (w v : WithdrawalRequest) : Prop :=
  v = { w with amount := v.amount } ∧ SameNumber lib w.amount v.amount

def SameFunding (f g : FundingRequest) : Prop :=
  g = { f with amount := g.amount } ∧ SameNumber lib f.amount g.amount

structure HoldsNumber (text : String) (q : ℚ) : Prop where
  written : lib.newFromString text = .ok q
  read : lib.newFromString (db.numeric.output q) = .ok q

variable {lib db}

section Mappings

variable {n n' : KeyMapping} (h : SameMapping n n')
include h

lemma SameMapping.keyID : n.keyID = n'.keyID := (congrArg KeyMapping.keyID h).symm

lemma SameMapping.rotationState : n.rotationState = n'.rotationState :=
  (congrArg KeyMapping.rotationState h).symm

lemma SameMapping.activeTo : n.activeTo = n'.activeTo := (congrArg KeyMapping.activeTo h).symm

end Mappings

lemma HoldsNumber.sameNumber {text : String} {q : ℚ} (h : HoldsNumber lib db text q) :
    SameNumber lib text (db.numeric.output q) := ⟨q, h.written, h.read⟩

variable (lib db)

structure BalanceAs (b : Balance) (row : BalanceRow) : Prop where
  balance : row.balance = b
  confirmed : HoldsNumber lib db b.confirmed row.confirmed
  pending : HoldsNumber lib db b.pending row.pending
  locked : HoldsNumber lib db b.locked row.locked

structure UTXOAs (u : UTXO) (row : UTXORow) : Prop where
  utxo : row.utxo = u
  value : HoldsNumber lib db u.value row.value

structure WithdrawalAs (w : WithdrawalRequest) (row : WithdrawalRow) : Prop where
  request : row.request = w
  amount : HoldsNumber lib db w.amount row.amount

structure FundingAs (f : FundingRequest) (row : FundingRow) : Prop where
  request : row.request = f
  amount : HoldsNumber lib db f.amount row.amount

variable {lib db}

lemma BalanceAs.read {b : Balance} {row : BalanceRow} (h : BalanceAs lib db b row) :
    SameBalance lib b (PgStore.scanBalance db.numeric row) := by
  obtain rfl := h.balance
  exact ⟨rfl, h.confirmed.sameNumber, h.pending.sameNumber, h.locked.sameNumber⟩

lemma UTXOAs.read {u : UTXO} {row : UTXORow} (h : UTXOAs lib db u row) :
    SameUTXO lib u (PgStore.scanUTXO db.numeric row) := by
  obtain rfl := h.utxo
  exact ⟨rfl, h.value.sameNumber⟩

lemma WithdrawalAs.read {w : WithdrawalRequest} {row : WithdrawalRow} (h : WithdrawalAs lib db w row) :
    SameWithdrawal lib w (PgStore.scanWithdrawal db.numeric row) := by
  obtain rfl := h.request
  exact ⟨rfl, h.amount.sameNumber⟩

lemma FundingAs.read {f : FundingRequest} {row : FundingRow} (h : FundingAs lib db f row) :
    SameFunding lib f (PgStore.scanFunding db.numeric row) := by
  obtain rfl := h.request
  exact ⟨rfl, h.amount.sameNumber⟩

end Rows

structure Agree (lib : Lib) (db : Database) (m : Store) (p : PgStore) : Prop where
  wallets : Represents Wallet.id Eq m.wallets p.wallets.rows
  addresses : Represents Address.id SameAddress m.addresses p.addresses.rows
  balances : Represents (fun b => balanceKey b.walletID b.asset) (BalanceAs lib db) m.balances
    p.balances.rows
  events : ∀ key, key ∈ m.balanceEvents ↔ ∃ row ∈ p.balanceEvents.rows, row.event.key = key
  utxos : Represents UTXO.outpoint (UTXOAs lib db) m.utxos p.utxos.rows
  nonces : Represents (fun n => nonceKey n.walletID n.chain) Eq m.nonces p.nonces.rows
  withdrawals : Represents WithdrawalRequest.id (WithdrawalAs lib db) m.withdrawals p.withdrawals.rows
  mappings : ∀ walletID, SameRows SameMapping (m.mappings walletID)
    (p.keyMappings.rows.filter (fun n => n.walletID = walletID))
  funding : Represents FundingRequest.id (FundingAs lib db) m.fundingReq p.fundingRequests.rows
  outbox : SameRows Eq m.auditOutbox p.auditOutbox.rows
  seqs : ∀ walletID, m.auditSeqCounters.lookup walletID =
    (p.auditSeq.rows.find? (fun row => row.walletID = walletID)).map AuditSeqRow.seq

lemma agree_empty (lib : Lib) (db : Database) (txColumns : Bool) :
    Agree lib db {} { txColumns := txColumns } where
  wallets := represents_empty
  addresses := represents_empty
  balances := represents_empty
  events key := by
    refine iff_of_false (Finset.notMem_empty key) ?_
    rintro ⟨row, hrow, -⟩
    cases hrow
  utxos := represents_empty
  nonces := represents_empty
  withdrawals := represents_empty
  mappings walletID := sameRows_nil
  funding := represents_empty
  outbox := sameRows_nil
  seqs walletID := rfl

/-- Both calls succeed with related results, or both fail with the same sentinel or none. -/
inductive SameOutcome {α β : Type} (R : α → β → Prop) : Except Error α → Except Error β → Prop
  | ok {a : α} {b : β} : R a b → SameOutcome R (.ok a) (.ok b)
  | error {err err' : Error} : err.is = err'.is → SameOutcome R (.error err) (.error err')

def failure {α : Type} : Except Error α → Option (Option Sentinel)
  | .ok _ => none
  | .error err => some err.is

lemma SameOutcome.failure_eq {α β : Type} {R : α → β → Prop} {x : Except Error α} {y : Except Error β}
    (h : SameOutcome R x y) : failure x = failure y := by
  cases h with
  | ok _ => rfl
  | error herr => exact congrArg some herr

lemma rel_map_right {α β γ : Type} {R : α → β → Prop} {R' : α → γ → Prop} {g : β → γ} {x : Option α} {y : Option β}
    (h : Option.Rel R x y) (hg : ∀ a b, R a b → R' a (g b)) : Option.Rel R' x (y.map g) := by
  cases h with
  | none => exact .none
  | some hab => exact .some (hg _ _ hab)

lemma sameOutcome_row {α β : Type} {R : α → β → Prop} {x : Option α} {y : Option β} {x' : Except Error α}
    (h : Option.Rel R x y) (hsome : ∀ a, x = some a → x' = .ok a)
    (hnone : x = none → ∃ err, x' = .error err ∧ err.is = some .errNoRows) :
    SameOutcome R x' (PgStore.queryRow y) := by
  cases h with
  | none =>
    obtain ⟨err, rfl, hrows⟩ := hnone rfl
    exact .error hrows
  | some hab =>
    rw [hsome _ rfl]
    exact .ok hab

end WalletManager.Proofs
