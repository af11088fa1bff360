import WalletManager.Storage.Postgres

/-!
# Nested transactions

`InTx` of both stores around any operations. The memory store joins a nested transaction to the outer
one, whose snapshot it restores when the outer function fails. The Postgres store begins a new database
transaction at every `InTx`, on a connection of its own: its operations see the committed state as of
their first statement, and a commit does not wait for the outer transaction. A transaction that has to
wait for a lock of an outer one would never return; such waits are left out.
-/

namespace WalletManager

/-- A function passed to `InTx`. -/
inductive TxBody
  | done (r : Except Error Unit)
  | op (rq : Request) (k : Except Error rq.call.Result → TxBody)
  | inTx (body : TxBody) (k : Except Error Unit → TxBody)

namespace TxBody

def runMem (lib : Lib) : TxBody → Store → Except Error Unit × Store
  | .done r, s => (r, s)
  | .op rq k, s =>
    let (r, s₁) := s.handle lib rq.call
    (k r).runMem lib s₁
  | .inTx body k, s =>
    let (r, s₁) := body.runMem lib s.beginTx.2
    match r with
    | .error err => (k (.error err)).runMem lib s₁.rollbackTx.2
    | .ok () => (k (.ok ())).runMem lib s₁.commitTx.2

end TxBody

def Store.inTx (lib : Lib) (s : Store) (fn : TxBody) : Except Error Unit × Store :=
  (TxBody.inTx fn .done).runMem lib s

/-- The operations that open a transaction themselves. -/
def StoreCall.opensTx : StoreCall → Bool
  | lockUTXOs outpoints => outpoints ≠ []
  | incrementPendingNonce _ _ | rotateKeyMapping _ _ _ _ => true
  | _ => false

/-- What a transaction sees: the committed state at its first statement, and with its own changes. -/
structure PgView where
  base : PgStore
  current : PgStore

structure PgTx where
  view : Option PgView := none
  /-- A statement has failed, and all later ones are refused. -/
  aborted : Bool := false

def errAborted : Error :=
  ⟨"pq: current transaction is aborted, commands ignored until end of transaction block", none⟩

/-- Every failed statement aborts the transaction; `sql.ErrNoRows` and `ErrDuplicateEvent` are no failures
of a statement. -/
def aborts {α : Type} : Except Error α → Bool
  | .error err => err.is = none
  | .ok _ => false

section Postgres

-- `merge base current committed` commits changes of `base` that led to `current`.
variable (db : Database) (merge : PgStore → PgStore → PgStore → Except Error PgStore)

/-- An operation with the transaction in its context. -/
def PgStore.handleIn (s : PgStore) (tx : PgTx) (rq : Request) :
    Except Error rq.call.Result × PgStore × PgTx :=
  if rq.call.opensTx then
    let (r, s') := s.handle db rq
    (r, s', tx)
  else if tx.aborted then (.error errAborted, s, tx)
  else
    let view := tx.view.getD ⟨s, s⟩
    let (r, current) := view.current.handle db rq
    (r, s, { view := some { view with current := current }, aborted := aborts r })

def PgStore.commit (s : PgStore) (tx : PgTx) : Except Error PgStore :=
  if tx.aborted then .error ⟨"pq: Could not complete operation in a failed transaction", none⟩
  else match tx.view with
    | none => .ok s
    | some view => merge view.base view.current s

/-- Runs the function with a transaction in its context; `s` is the committed state. -/
def TxBody.runPg : TxBody → PgStore → PgTx → Except Error Unit × PgStore × PgTx
  | .done r, s, tx => (r, s, tx)
  | .op rq k, s, tx =>
    let (r, s₁, tx₁) := s.handleIn db tx rq
    (k r).runPg s₁ tx₁
  | .inTx body k, s, tx =>
    let (r, s₁, tx₁) := body.runPg s {}
    match r with
    | .error err => (k (.error err)).runPg s₁ tx
    | .ok () =>
      match s₁.commit merge tx₁ with
      | .error err => (k (.error err)).runPg s₁ tx
      | .ok s₂ => (k (.ok ())).runPg s₂ tx

/-- `postgres.Store.InTx` outside any transaction. -/
def PgStore.inTx (s : PgStore) (fn : TxBody) : Except Error Unit × PgStore :=
  let (r, s', _) := (TxBody.inTx fn .done).runPg db merge s {}
  (r, s')

end Postgres

end WalletManager
