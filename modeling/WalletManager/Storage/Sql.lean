import WalletManager.Audit.Emitter
import WalletManager.Interaction.Translation
import WalletManager.Relational.Clients
import WalletManager.Storage.Postgres

/-!
# The Postgres store, statement by statement

The operations of `postgres.Store` on the balances, outputs, nonces and the audit outbox as the SQL
statements that they send, with `InTx` around those that open a transaction. A statement is about one row,
which it finds by a unique index. Statements on the other tables, and reads outside a transaction, may
answer anything here. A call of the services becomes the program of its statements, and
an event for the audit log the two statements of the emitter.
-/

namespace WalletManager

open Interaction Relational

/-! ## Statements -/

/-- A row, by a unique index of its table. -/
inductive RowKey
  | balance (walletID : UUID) (asset : String)
  | balanceEvent (event : BalanceEvent)
  | utxo (outpoint : String)
  | nonce (walletID : UUID) (chain : String)
  | auditSeq (walletID : UUID)
  | auditOutbox (id : UUID)
  deriving DecidableEq

/-- What a row has besides its key; of a balance event that is the identity of the row. -/
abbrev RowKey.Row : RowKey → Type
  | balance _ _ => BalanceRow
  | balanceEvent _ => UUID
  | utxo _ => UTXORow
  | nonce _ _ => Nonce
  | auditSeq _ => Int
  | auditOutbox _ => AuditOutboxEvent

inductive Statement
  | begin
  | commit
  | rollback
  | selectBalance (walletID : UUID) (asset : String)
  | upsertBalance (b : Balance)
  | event (c : EventCall)
  | insertUTXO (u : UTXO)
  /-- `UPDATE utxos SET lock_state='LOCKED' … AND lock_state='FREE'` -/
  | lockUTXO (outpoint : String)
  | spendUTXO (outpoint txHash : String)
  | freeUTXO (outpoint : String)
  | deleteUTXO (outpoint : String)
  | selectNonceForUpdate (walletID : UUID) (chain : String)
  | insertNonce (walletID : UUID) (chain : String)
  | updateNonce (walletID : UUID) (chain : String) (pendingNonce version : Int)
  | advanceBroadcastNonce (walletID : UUID) (chain : String) (nonce : Int)
  | rollbackPendingNonce (walletID : UUID) (chain : String) (target : Int)
  | upsertNonce (n : Nonce)
  | nextAuditSeq (walletID : UUID)
  | insertAuditEvent (e : AuditOutboxEvent)
  | markAuditDelivered (id : UUID)
  /-- A statement on another table, or one that only reads. -/
  | query (c : StoreCall)

abbrev Statement.Result : Statement → Type
  | selectBalance _ _ => Option BalanceRow
  | event (.existsOther _) => Bool
  | lockUTXO _ | rollbackPendingNonce _ _ _ => Int
  | selectNonceForUpdate _ _ => Option (Int × Int)
  | nextAuditSeq _ => Int
  | query c => c.Result
  | begin | commit | rollback | upsertBalance _ | event (.insertOrIgnore _) | insertUTXO _ => Unit
  | spendUTXO _ _ | freeUTXO _ | deleteUTXO _ | insertNonce _ _ | updateNonce _ _ _ _ => Unit
  | advanceBroadcastNonce _ _ _ | upsertNonce _ | insertAuditEvent _ | markAuditDelivered _ => Unit

/-- A statement, a call to another party, or new identifiers. -/
inductive SqlCall
  | exec (c : Statement)
  | ext (c : ExtCall)
  | newID
  | fresh

abbrev SqlCall.Answer : SqlCall → Type
  | exec c => Except Error c.Result
  | ext c => c.Answer
  | newID => UUID
  | fresh => OutboxFresh

section Rows

variable {V : Type}

/-- `INSERT`, where `row` is the new row or the reason why it is refused. -/
def insertRow (index : String) (row : Except Error V) : Option V → Except Error Unit × Effect V
  | some _ => (.error (uniqueViolation index), .read)
  | none =>
    match row with
    | .error err => (.error err, .read)
    | .ok row => (.ok (), .write (some row))

/-- `UPDATE … WHERE` the key is given. -/
def updateRow (f : V → V) : Option V → Except Error Unit × Effect V
  | some row => (.ok (), .write (some (f row)))
  | none => (.ok (), .read)

/-- `UPDATE … WHERE` the key is given and the row satisfies `p`, with the number of rows that it changed. -/
def updateRowIf (p : V → Bool) (f : V → V) : Option V → Except Error Int × Effect V
  | some row => if p row then (.ok 1, .write (some (f row))) else (.ok 0, .read)
  | none => (.ok 0, .read)

/-- `INSERT … ON CONFLICT … DO UPDATE` to the same row. -/
def upsertRow (row : Except Error V) (_ : Option V) : Except Error Unit × Effect V :=
  match row with
  | .error err => (.error err, .read)
  | .ok row => (.ok (), .write (some row))

end Rows

def BalanceRow.ofBalance (numeric : Numeric) (b : Balance) : Except Error BalanceRow := do
  let confirmed ← numeric.input b.confirmed
  let pending ← numeric.input b.pending
  let locked ← numeric.input b.locked
  return ⟨b, confirmed, pending, locked⟩

/-- The row that a statement is about, and what it does with it. -/
def Statement.action (db : Database) : (c : Statement) → Action RowKey RowKey.Row (Except Error c.Result)
  | begin => .begin
  | commit => .commit
  | rollback => .rollback
  | selectBalance walletID asset => .statement (.balance walletID asset) (fun row => (.ok row, .read))
  | upsertBalance b =>
    .statement (.balance b.walletID b.asset) (upsertRow (BalanceRow.ofBalance db.numeric b))
  | event (.insertOrIgnore row) =>
    .statement (.balanceEvent row.event) (fun
      | some _ => (.ok (), .read)
      | none => (.ok (), .write (some row.id)))
  | event (.existsOther row) =>
    .statement (.balanceEvent row.event) (fun id => (.ok (id.any (· ≠ row.id)), .read))
  | insertUTXO u =>
    .statement (.utxo u.outpoint) (insertRow "utxos_pkey" ((db.numeric.input u.value).map (UTXORow.mk u)))
  | lockUTXO op =>
    .statement (.utxo op) (updateRowIf (fun row => row.utxo.lockState = .free)
      (fun row => { row with utxo.lockState := .locked }))
  | spendUTXO op txHash =>
    .statement (.utxo op) (updateRow (fun row =>
      { row with utxo := { row.utxo with lockState := .spent, txHash := txHash } }))
  | freeUTXO op =>
    .statement (.utxo op) (updateRow (fun row =>
      { row with utxo := { row.utxo with lockState := .free, txHash := "" } }))
  | deleteUTXO op =>
    .statement (.utxo op) (fun
      | some _ => (.ok (), .write none)
      | none => (.ok (), .read))
  -- `FOR UPDATE` locks the row that it finds.
  | selectNonceForUpdate walletID chain =>
    .statement (.nonce walletID chain) (fun
      | some n => (.ok (some (n.pendingNonce, n.version)), .lock)
      | none => (.ok none, .read))
  | insertNonce walletID chain =>
    .statement (.nonce walletID chain) (insertRow "nonces_pkey" (.ok ⟨walletID, chain, 1, 0, 1⟩))
  | updateNonce walletID chain pendingNonce version =>
    .statement (.nonce walletID chain) (updateRow (fun n =>
      { n with pendingNonce := pendingNonce, version := version }))
  | advanceBroadcastNonce walletID chain nonce =>
    .statement (.nonce walletID chain) (updateRow (fun n =>
      { n with broadcastNonce := max n.broadcastNonce (nonce + 1) }))
  | rollbackPendingNonce walletID chain target =>
    .statement (.nonce walletID chain) (updateRowIf (fun n => n.pendingNonce = target + 1)
      (fun n => { n with pendingNonce := target }))
  | upsertNonce n => .statement (.nonce n.walletID n.chain) (upsertRow (.ok n))
  | nextAuditSeq walletID =>
    .statement (.auditSeq walletID) (fun row =>
      let seq := (row.map (· + 1)).getD 1
      (.ok seq, .write (some seq)))
  | insertAuditEvent e =>
    .statement (.auditOutbox e.id) (insertRow "audit_outbox_pkey"
      ((db.jsonb e.payload).map (fun payload => { e with payload := payload, delivered := false, attempts := 0 })))
  | markAuditDelivered id =>
    .statement (.auditOutbox id) (updateRow (fun e => { e with delivered := true, attempts := e.attempts + 1 }))
  | query _ => .other

/-- The calls to the database. A failure of a statement is none of the errors that the code looks for. -/
def postgres (db : Database) : Dialect SqlCall SqlCall.Answer RowKey RowKey.Row where
  action
    | .exec c => c.action db
    | .ext _ | .newID | .fresh => .other
  done
    | .exec _, r => r.isOk
    | .ext _, _ | .newID, _ | .fresh, _ => true
  fails
    | .exec _, r => ∃ err, r = .error err ∧ err.is = none
    | .ext _, _ | .newID, _ | .fresh, _ => False
  not_done c r h := by
    cases c with
    | exec c =>
      obtain ⟨err, rfl, -⟩ := h
      rfl
    | ext | newID | fresh => exact h.elim

/-! ## The operations -/

/-- A procedure whose calls name the session of its context. -/
abbrev SqlProc (T α : Type) := Prog (On T SqlCall) (On.Answer SqlCall.Answer) α

section Operations

variable {T : Type} (db : Database) (ctx : T)

def exec (c : Statement) : SqlProc T (Except Error c.Result) := .call ⟨ctx, .exec c⟩ .ret

/-- `postgres.Store.InTx`, where the function returns a value. -/
def sqlTx {α : Type} (body : SqlProc T (Except Error α)) : SqlProc T (Except Error α) := do
  match ← exec ctx .begin with
  | .error err => return .error err
  | .ok () =>
    match ← body with
    | .error err =>
      let _ ← exec ctx .rollback
      return .error err
    | .ok a =>
      match ← exec ctx .commit with
      | .error err => return .error err
      | .ok () => return .ok a

def getBalanceSql (walletID : UUID) (asset : String) : SqlProc T (Except Error Balance) := do
  match ← exec ctx (.selectBalance walletID asset) with
  | .error err => return .error err
  | .ok none => return .error errNoRows
  | .ok (some row) => return .ok (PgStore.scanBalance db.numeric row)

def recordBalanceEventSql (e : BalanceEvent) : SqlProc T (Except Error Unit) := do
  let id ← (.call ⟨ctx, .newID⟩ .ret : SqlProc T UUID)
  (recordBalanceEvent ⟨id, e⟩).translate (fun
    | .insertOrIgnore row => exec ctx (.event (.insertOrIgnore row))
    | .existsOther row => exec ctx (.event (.existsOther row)))

def lockEach : List String → SqlProc T (Except Error Unit)
  | [] => return .ok ()
  | op :: ops => do
    match ← exec ctx (.lockUTXO op) with
    | .error err => return .error err
    | .ok n => if n = 0 then return .error ⟨"utxo not free: " ++ op, none⟩ else lockEach ops

def lockUTXOsSql (outpoints : List String) : SqlProc T (Except Error Unit) :=
  if outpoints.length = 0 then return .ok () else sqlTx ctx (lockEach ctx outpoints)

def execEach (stmt : String → SqlProc T (Except Error Unit)) : List String → SqlProc T (Except Error Unit)
  | [] => return .ok ()
  | op :: ops => do
    match ← stmt op with
    | .error err => return .error err
    | .ok () => execEach stmt ops

/-- The function that `IncrementPendingNonce` passes to `InTx`. -/
def incrementNonce (walletID : UUID) (chain : String) : SqlProc T (Except Error (Int × Int)) := do
  match ← exec ctx (.selectNonceForUpdate walletID chain) with
  | .error err => return .error err
  | .ok none =>
    match ← exec ctx (.insertNonce walletID chain) with
    | .error err => return .error err
    | .ok () => return .ok (0, 1)
  | .ok (some (pn, v)) =>
    match ← exec ctx (.updateNonce walletID chain (pn + 1) (v + 1)) with
    | .error err => return .error err
    | .ok () => return .ok (pn, v + 1)

/-- The statements of a store operation. -/
def StoreCall.sql : (c : StoreCall) → SqlProc T (Except Error c.Result)
  | beginTx => exec ctx .begin
  | commitTx => exec ctx .commit
  | rollbackTx => exec ctx .rollback
  | getBalance walletID asset => getBalanceSql db ctx walletID asset
  | upsertBalance b => exec ctx (.upsertBalance b)
  | recordBalanceEvent e => recordBalanceEventSql ctx e
  | insertUTXO u => exec ctx (.insertUTXO u)
  | lockUTXOs outpoints => lockUTXOsSql ctx outpoints
  | markUTXOsSpent outpoints txHash => execEach (fun op => exec ctx (.spendUTXO op txHash)) outpoints
  | restoreUTXOs outpoints => execEach (fun op => exec ctx (.freeUTXO op)) outpoints
  | pruneUTXOs outpoints => execEach (fun op => exec ctx (.deleteUTXO op)) outpoints
  | incrementPendingNonce walletID chain => sqlTx ctx (incrementNonce ctx walletID chain)
  | advanceBroadcastNonce walletID chain nonce => exec ctx (.advanceBroadcastNonce walletID chain nonce)
  | rollbackPendingNonce walletID chain target => exec ctx (.rollbackPendingNonce walletID chain target)
  | upsertNonce n => exec ctx (.upsertNonce n)
  | nextAuditSeq walletID => exec ctx (.nextAuditSeq walletID)
  | appendAuditEvent e => exec ctx (.insertAuditEvent e)
  | markAuditDelivered id => exec ctx (.markAuditDelivered id)
  | c => exec ctx (.query c)

def Call.sql : (c : Call) → SqlProc T (Answer c)
  | .store c => c.sql db ctx
  | .ext c => .call ⟨ctx, .ext c⟩ .ret

/-- The calls of the services, where their events go to the outbox over the same session. -/
def Call.auditedSql (em : EmitterService) : (c : Call) → SqlProc T (Answer c)
  | .ext (.emit e) => do
    let fresh ← (.call ⟨ctx, .fresh⟩ .ret : SqlProc T OutboxFresh)
    (em.emit ⟨e.eventType, some e.walletID, e.payload⟩ fresh).translate (Call.sql db ctx)
  | c => c.sql db ctx

end Operations

/-! ## Concurrent clients -/

abbrev PgEngine (T : Type) := Engine T SqlCall SqlCall.Answer RowKey RowKey.Row

abbrev SqlPool (T α : Type) := Pool T (On T SqlCall) (On.Answer SqlCall.Answer) α (PgEngine T)

/-- The pools that the procedures lead to when they all run at the same time, each over a session of its
own, one statement or call at a time. -/
def Concurrently {T α : Type} [DecidableEq T] (db : Database) (em : EmitterService)
    (rows : (k : RowKey) → Option k.Row) (procs : T → Proc α) (P : SqlPool T α) : Prop :=
  Pool.Leads (postgres db).Step (fun _ _ _ _ => True)
    (Pool.start (Engine.start rows) (fun t => (procs t).translate (Call.auditedSql db t em))) P

lemma Concurrently.step {T α : Type} [DecidableEq T] {db : Database} {em : EmitterService}
    {rows : (k : RowKey) → Option k.Row} {procs : T → Proc α} {P : SqlPool T α}
    (h : Concurrently db em rows procs P) (t : T) (c : SqlCall) (r : c.Answer)
    {k : c.Answer → SqlProc T α} {s : PgEngine T} (ht : P.threads t = some (.call ⟨t, c⟩ k))
    (hs : (postgres db).Step P.shared ⟨t, c⟩ r s) :
    Concurrently db em rows procs ⟨s, Function.update P.threads t (some (k r)), P.log ++ [(t, ⟨⟨t, c⟩, r⟩)]⟩ :=
  Pool.Leads.call h ht trivial hs

end WalletManager
