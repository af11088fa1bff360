import WalletManager.Relational.Table
import WalletManager.Storage.Calls
import Mathlib.Data.Rat.Defs

/-!
# The Postgres store

`postgres.Store` as SQL statements over the tables and unique indexes of `schema.sql`. A statement
that fails leaves the database as it was. An amount column is a `NUMERIC(38,18)`: what is read back
is the text of the number, not the text that was written. Creation and update times are left out,
and an empty list of outpoints is Go's nil slice.
-/

namespace WalletManager

open Relational

/-- The database's `NUMERIC(38,18)`: the value it takes from a parameter, and its text. -/
structure Numeric where
  input : String → Except Error ℚ
  output : ℚ → String

/-- What the statements rely on besides the tables. -/
structure Database : Type 1 where
  numeric : Numeric
  /-- The text that a `JSONB` column returns for a parameter. -/
  jsonb : Bytes → Except Error Bytes
  /-- `ORDER BY`, in an unspecified order among equal rows. -/
  orderBy : {α : Type} → (α → α → Bool) → List α → List α
  /-- The order of texts. -/
  collation : String → String → Bool

/-! ## Rows and indexes -/

/-- A row of `balances`; of the balance the amounts are not stored. -/
structure BalanceRow where
  balance : Balance
  confirmed : ℚ
  pending : ℚ
  locked : ℚ

structure BalanceEventRow where
  id : UUID
  event : BalanceEvent
  deriving DecidableEq

structure UTXORow where
  utxo : UTXO
  value : ℚ

/-- A row of `withdrawal_requests`; every column but the amount holds what it was given. -/
structure WithdrawalRow where
  request : WithdrawalRequest
  amount : ℚ

structure FundingRow where
  request : FundingRequest
  amount : ℚ

structure AuditSeqRow where
  walletID : UUID
  seq : Int

/-- The states of the partial index `withdrawal_inflight_dedup`. -/
def WithdrawalState.inFlight : WithdrawalState → Bool
  | pending | whitelisted | signed | broadcast => true
  | confirmed | failed => false

abbrev walletIndexes : List (UniqueIndex Wallet) :=
  [.total "wallets_pkey" Wallet.id,
    .total "wallets_chain_key_id_key" (fun w => (w.chain.string, w.keyID))]

abbrev addressIndexes : List (UniqueIndex Address) :=
  [.total "addresses_pkey" Address.id,
    .total "addresses_wallet_id_index_change_key" (fun a => (a.walletID, a.index, a.change)),
    .total "addresses_chain_address_key" (fun a => (a.chain.string, a.address)),
    .filtered "addresses_one_active_per_wallet" (fun a => a.state = .active) Address.walletID]

abbrev balanceIndexes : List (UniqueIndex BalanceRow) :=
  [.total "balances_pkey" (fun b => (b.balance.walletID, b.balance.asset))]

abbrev balanceEventIndexes : List (UniqueIndex BalanceEventRow) :=
  [.total "balance_events_pkey" BalanceEventRow.id,
    .total "balance_events_wallet_id_asset_block_height_event_id_key" BalanceEventRow.event]

abbrev utxoIndexes : List (UniqueIndex UTXORow) := [.total "utxos_pkey" (fun u => u.utxo.outpoint)]

abbrev nonceIndexes : List (UniqueIndex Nonce) :=
  [.total "nonces_pkey" (fun n => (n.walletID, n.chain))]

abbrev withdrawalIndexes : List (UniqueIndex WithdrawalRow) :=
  [.total "withdrawal_requests_pkey" (fun w => w.request.id),
    .filtered "withdrawal_inflight_dedup" (fun w => w.request.state.inFlight)
      (fun w => (w.request.walletID, w.request.toAddress, w.amount, w.request.asset))]

abbrev keyMappingIndexes : List (UniqueIndex KeyMapping) :=
  [.total "key_mappings_pkey" (fun m => (m.walletID, m.keyID)),
    .filtered "key_mappings_one_current" (fun m => m.rotationState = .current) KeyMapping.walletID]

abbrev fundingIndexes : List (UniqueIndex FundingRow) :=
  [.total "funding_requests_pkey" (fun f => f.request.id),
    .filtered "funding_open_dedup" (fun f => f.request.state = .requested)
      (fun f => (f.request.walletID, f.request.asset))]

abbrev auditOutboxIndexes : List (UniqueIndex AuditOutboxEvent) :=
  [.total "audit_outbox_pkey" AuditOutboxEvent.id,
    .total "audit_outbox_event_id_key" AuditOutboxEvent.eventID]

abbrev auditSeqIndexes : List (UniqueIndex AuditSeqRow) := [.total "audit_seq_pkey" AuditSeqRow.walletID]

structure PgStore where
  wallets : IndexedTable walletIndexes := ∅
  addresses : IndexedTable addressIndexes := ∅
  balances : IndexedTable balanceIndexes := ∅
  balanceEvents : IndexedTable balanceEventIndexes := ∅
  utxos : IndexedTable utxoIndexes := ∅
  nonces : IndexedTable nonceIndexes := ∅
  withdrawals : IndexedTable withdrawalIndexes := ∅
  keyMappings : IndexedTable keyMappingIndexes := ∅
  fundingRequests : IndexedTable fundingIndexes := ∅
  auditOutbox : IndexedTable auditOutboxIndexes := ∅
  auditSeq : IndexedTable auditSeqIndexes := ∅
  /-- `withdrawal_requests` has the columns `reserved_outpoints` and `signed_tx_bytes`, which the second
  migration adds to `schema.sql`. -/
  txColumns : Bool := true

/-! ## Failures of a statement -/

def uniqueViolation (index : String) : Error :=
  ⟨"pq: duplicate key value violates unique constraint \"" ++ index ++ "\"", none⟩

def foreignKeyViolation (table : String) : Error :=
  ⟨"pq: insert or update on table \"" ++ table ++ "\" violates foreign key constraint \"" ++ table ++
    "_wallet_id_fkey\"", none⟩

def int4 (n : Int) : Except Error Unit :=
  if -2 ^ 31 ≤ n ∧ n < 2 ^ 31 then .ok ()
  else .error ⟨"pq: value \"" ++ n.repr ++ "\" is out of range for type integer", none⟩

def nullableInt4 : Option Int → Except Error Unit
  | none => .ok ()
  | some n => int4 n

/-- `pq.Array` of a nil slice is NULL. -/
def outpointArray (outpoints : List String) : Except Error Unit :=
  if outpoints = [] then
    .error ⟨"pq: null value in column \"reserved_outpoints\" violates not-null constraint", none⟩
  else .ok ()

def unique {α : Type} : Except String α → Except Error α
  | .error index => .error (uniqueViolation index)
  | .ok a => .ok a

/-- `COALESCE(NULLIF(new, ''), old)` -/
def coalesce (new old : String) : String := if new = "" then old else new

/-! ## The operations -/

inductive EventCall
  | insertOrIgnore (row : BalanceEventRow)
  | existsOther (row : BalanceEventRow)

abbrev EventAnswer : EventCall → Type
  | .insertOrIgnore _ => Except Error Unit
  | .existsOther _ => Except Error Bool

abbrev EventTable := IndexedTable balanceEventIndexes

def EventTable.handle (t : EventTable) : (c : EventCall) → EventAnswer c × EventTable
  | .insertOrIgnore row => (.ok (), t.insertOrIgnore row)
  | .existsOther row => (.ok (t.rows.any (fun r => r.event = row.event ∧ r.id ≠ row.id)), t)

/-- `RecordBalanceEvent`, statement by statement. -/
def recordBalanceEvent (row : BalanceEventRow) : Interaction.Prog EventCall EventAnswer (Except Error Unit) :=
  .call (.insertOrIgnore row) fun
    | .error err => .ret (.error err)
    | .ok () => .call (.existsOther row) fun
      | .error err => .ret (.error err)
      | .ok true => .ret (.error errDuplicateEvent)
      | .ok false => .ret (.ok ())

namespace PgStore

variable (db : Database) (numeric : Numeric) (s : PgStore)

def exec (stmt : Except Error PgStore) : Except Error Unit × PgStore :=
  match stmt with
  | .error err => (.error err, s)
  | .ok s' => (.ok (), s')

/-- The same statement for each outpoint; those before a failure have been executed. -/
def execEach (stmt : PgStore → String → Except Error PgStore) :
    PgStore → List String → Except Error Unit × PgStore
  | s, [] => (.ok (), s)
  | s, op :: ops =>
    match stmt s op with
    | .error err => (.error err, s)
    | .ok s' => execEach stmt s' ops

def references (table : String) (walletID : UUID) : Except Error Unit :=
  if s.wallets.rows.any (fun w => w.id = walletID) then .ok () else .error (foreignKeyViolation table)

/-- A statement that names the columns of the second migration. -/
def needsTxColumns : Except Error Unit :=
  if s.txColumns then .ok () else .error ⟨"pq: column \"reserved_outpoints\" does not exist", none⟩

def queryRow {α : Type} : Option α → Except Error α
  | none => .error errNoRows
  | some a => .ok a

def createWallet (w : Wallet) : Except Error Unit × PgStore :=
  s.exec do
    nullableInt4 w.rotationDays
    nullableInt4 w.rotationAfterReceives
    let wallets ← unique (s.wallets.insert w)
    return { s with wallets := wallets }

def getWallet (id : UUID) : Except Error Wallet := queryRow (s.wallets.rows.find? (fun w => w.id = id))

def updateWalletState (id : UUID) (state : WalletState) : Except Error Unit × PgStore :=
  s.exec do
    let wallets ← unique (s.wallets.update (fun w => w.id = id) (fun w => { w with state := state }))
    return { s with wallets := wallets }

/-- The order by creation time is left out. -/
def listWallets (chain type state : String) : List Wallet :=
  s.wallets.rows.filter (fun w => (chain = "" ∨ w.chain.string = chain) ∧
    (type = "" ∨ w.type.string = type) ∧ (state = "" ∨ w.state.string = state))

def insertAddress (a : Address) : Except Error Unit × PgStore :=
  s.exec do
    int4 a.index
    int4 a.change
    int4 a.receiveCount
    let addresses ← unique (s.addresses.insert a)
    s.references "addresses" a.walletID
    return { s with addresses := addresses }

def getActiveAddress (walletID : UUID) : Except Error Address :=
  queryRow (s.addresses.rows.find? (fun a => a.walletID = walletID ∧ a.state = .active))

def getAddress (id : UUID) : Except Error Address := queryRow (s.addresses.rows.find? (fun a => a.id = id))

def listAddresses (walletID : UUID) : List Address :=
  db.orderBy (fun a b => a.change < b.change ∨ a.change = b.change ∧ a.index < b.index)
    (s.addresses.rows.filter (fun a => a.walletID = walletID))

def deprecateAddress (id : UUID) : Except Error Unit × PgStore :=
  s.exec do
    let addresses ← unique (s.addresses.update (fun a => a.id = id) (fun a => { a with state := .deprecated }))
    return { s with addresses := addresses }

def nextAddressIndex (chain : String) (change : Int) : Except Error Int := do
  int4 change
  let rows := s.addresses.rows.filter (fun a => a.chain.string = chain ∧ a.change = change)
  let idx := (rows.map Address.index).max?.getD (-1) + 1
  int4 idx
  return idx

def incrementReceiveCount (id : UUID) : Except Error Unit × PgStore :=
  s.exec do
    (s.addresses.rows.filter (fun a => a.id = id)).forM (fun a => int4 (a.receiveCount + 1))
    let addresses ← unique (s.addresses.update (fun a => a.id = id)
      (fun a => { a with receiveCount := a.receiveCount + 1 }))
    return { s with addresses := addresses }

def isBalance (walletID : UUID) (asset : String) (row : BalanceRow) : Bool :=
  row.balance.walletID = walletID ∧ row.balance.asset = asset

def upsertBalance (b : Balance) : Except Error Unit × PgStore :=
  s.exec do
    let confirmed ← numeric.input b.confirmed
    let pending ← numeric.input b.pending
    let locked ← numeric.input b.locked
    let row : BalanceRow := ⟨b, confirmed, pending, locked⟩
    let balances ← unique (s.balances.upsert (isBalance b.walletID b.asset) (fun _ => row) row)
    if !s.balances.rows.any (isBalance b.walletID b.asset) then s.references "balances" b.walletID
    return { s with balances := balances }

def scanBalance (row : BalanceRow) : Balance :=
  { row.balance with
    confirmed := numeric.output row.confirmed
    pending := numeric.output row.pending
    locked := numeric.output row.locked }

def getBalance (walletID : UUID) (asset : String) : Except Error Balance :=
  queryRow ((s.balances.rows.find? (isBalance walletID asset)).map (scanBalance numeric))

def listBalances (walletID : UUID) : List Balance :=
  (db.orderBy (fun a b => db.collation a.balance.asset b.balance.asset)
    (s.balances.rows.filter (fun row => row.balance.walletID = walletID))).map (scanBalance db.numeric)

def recordBalanceEvent (row : BalanceEventRow) : Except Error Unit × PgStore :=
  let (_, r, balanceEvents) := (WalletManager.recordBalanceEvent row).run EventTable.handle s.balanceEvents
  (r, { s with balanceEvents := balanceEvents })

def insertUTXO (u : UTXO) : Except Error Unit × PgStore :=
  s.exec do
    let value ← numeric.input u.value
    int4 u.confirmations
    let utxos ← unique (s.utxos.insert ⟨u, value⟩)
    s.references "utxos" u.walletID
    return { s with utxos := utxos }

def scanUTXO (row : UTXORow) : UTXO := { row.utxo with value := numeric.output row.value }

def listFreeUTXOs (walletID : UUID) : List UTXO :=
  (db.orderBy (fun a b => db.collation a.utxo.outpoint b.utxo.outpoint)
    (s.utxos.rows.filter (fun row => row.utxo.walletID = walletID ∧ row.utxo.lockState = .free))).map
      (scanUTXO db.numeric)

/-- The body of the loop of `LockUTXOs`, with the check of the number of rows that it changed. -/
def lockUTXO (op : String) : Except Error PgStore := do
  let free : UTXORow → Bool := fun row => row.utxo.outpoint = op ∧ row.utxo.lockState = .free
  let utxos ← unique (s.utxos.update free (fun row => { row with utxo.lockState := .locked }))
  if s.utxos.rows.countP free = 0 then throw ⟨"utxo not free: " ++ op, none⟩
  return { s with utxos := utxos }

/-- The loop runs in a transaction, so that a failure undoes all of it. -/
def lockUTXOs (outpoints : List String) : Except Error Unit × PgStore := s.exec (outpoints.foldlM lockUTXO s)

/-- `UPDATE utxos … WHERE outpoint=$1` -/
def updateUTXO (f : UTXO → UTXO) (s : PgStore) (op : String) : Except Error PgStore := do
  let utxos ← unique (s.utxos.update (fun row => row.utxo.outpoint = op)
    (fun row => { row with utxo := f row.utxo }))
  return { s with utxos := utxos }

def markUTXOsSpent (outpoints : List String) (txHash : String) : Except Error Unit × PgStore :=
  execEach (updateUTXO (fun u => { u with lockState := .spent, txHash := txHash })) s outpoints

def restoreUTXOs (outpoints : List String) : Except Error Unit × PgStore :=
  execEach (updateUTXO (fun u => { u with lockState := .free, txHash := "" })) s outpoints

def pruneUTXOs (outpoints : List String) : Except Error Unit × PgStore :=
  execEach (fun s op => .ok { s with utxos := s.utxos.delete (fun row => row.utxo.outpoint = op) }) s outpoints

def isNonce (walletID : UUID) (chain : String) (n : Nonce) : Bool := n.walletID = walletID ∧ n.chain = chain

def getNonce (walletID : UUID) (chain : String) : Nonce :=
  (s.nonces.rows.find? (isNonce walletID chain)).getD { walletID := walletID, chain := chain }

def upsertNonce (n : Nonce) : Except Error Unit × PgStore :=
  s.exec do
    int4 n.version
    let nonces ← unique (s.nonces.upsert (isNonce n.walletID n.chain) (fun _ => n) n)
    if !s.nonces.rows.any (isNonce n.walletID n.chain) then s.references "nonces" n.walletID
    return { s with nonces := nonces }

/-- The two statements run in a transaction. -/
def incrementPendingNonce (walletID : UUID) (chain : String) : Except Error (Int × Int) × PgStore :=
  match s.nonces.rows.find? (isNonce walletID chain) with
  | none =>
    let (r, s') := s.exec do
      let nonces ← unique (s.nonces.insert ⟨walletID, chain, 1, 0, 1⟩)
      s.references "nonces" walletID
      return { s with nonces := nonces }
    (r.map (fun _ => (0, 1)), s')
  | some n =>
    let (r, s') := s.exec do
      int4 (n.version + 1)
      let nonces ← unique (s.nonces.update (isNonce walletID chain)
        (fun row => { row with pendingNonce := n.pendingNonce + 1, version := n.version + 1 }))
      return { s with nonces := nonces }
    (r.map (fun _ => (n.pendingNonce, n.version + 1)), s')

def advanceBroadcastNonce (walletID : UUID) (chain : String) (nonce : Int) : Except Error Unit × PgStore :=
  s.exec do
    let nonces ← unique (s.nonces.update (isNonce walletID chain)
      (fun n => { n with broadcastNonce := max n.broadcastNonce (nonce + 1) }))
    return { s with nonces := nonces }

def rollbackPendingNonce (walletID : UUID) (chain : String) (target : Int) : Except Error Int × PgStore :=
  let affected : Nonce → Bool := fun n => isNonce walletID chain n ∧ n.pendingNonce = target + 1
  let (r, s') := s.exec do
    let nonces ← unique (s.nonces.update affected (fun n => { n with pendingNonce := target }))
    return { s with nonces := nonces }
  (r.map (fun _ => (s.nonces.rows.countP affected : Int)), s')

def createWithdrawal (w : WithdrawalRequest) : Except Error Unit × PgStore :=
  s.exec do
    s.needsTxColumns
    let amount ← numeric.input w.amount
    outpointArray w.reservedOutpoints
    let withdrawals ← unique (s.withdrawals.insert ⟨w, amount⟩)
    s.references "withdrawal_requests" w.walletID
    return { s with withdrawals := withdrawals }

def scanWithdrawal (row : WithdrawalRow) : WithdrawalRequest :=
  { row.request with amount := numeric.output row.amount }

def getWithdrawal (id : UUID) : Except Error WithdrawalRequest := do
  s.needsTxColumns
  queryRow ((s.withdrawals.rows.find? (fun row => row.request.id = id)).map (scanWithdrawal numeric))

/-- The order by creation time is left out. -/
def listWithdrawals (walletID : UUID) (state : String) : Except Error (List WithdrawalRequest) := do
  s.needsTxColumns
  return (s.withdrawals.rows.filter (fun row => (walletID = UUID.nil ∨ row.request.walletID = walletID) ∧
    (state = "" ∨ row.request.state.string = state))).map (scanWithdrawal numeric)

/-- `UPDATE withdrawal_requests … WHERE id=$1` -/
def updateWithdrawal (id : UUID) (f : WithdrawalRequest → WithdrawalRequest) : Except Error PgStore := do
  let withdrawals ← unique (s.withdrawals.update (fun row => row.request.id = id)
    (fun row => { row with request := f row.request }))
  return { s with withdrawals := withdrawals }

def updateWithdrawalState (id : UUID) (state : WithdrawalState) (reason txHash policyDecisionID : String) :
    Except Error Unit × PgStore :=
  s.exec (s.updateWithdrawal id (fun w => { w with
    state := state
    failureReason := coalesce reason w.failureReason
    txHash := coalesce txHash w.txHash
    policyDecisionID := coalesce policyDecisionID w.policyDecisionID }))

def updateWithdrawalNonce (id : UUID) (nonce : Int) : Except Error Unit × PgStore :=
  s.exec (s.updateWithdrawal id (fun w => { w with nonceValue := some nonce }))

def updateWithdrawalOutpoints (id : UUID) (outpoints : List String) : Except Error Unit × PgStore :=
  s.exec do
    s.needsTxColumns
    -- NULL violates the constraint only where there is a row to update.
    if s.withdrawals.rows.any (fun row => row.request.id = id) then outpointArray outpoints
    s.updateWithdrawal id (fun w => { w with reservedOutpoints := outpoints })

def updateWithdrawalSignedTx (id : UUID) (txBytes : Bytes) : Except Error Unit × PgStore :=
  s.exec do
    s.needsTxColumns
    s.updateWithdrawal id (fun w => { w with signedTxBytes := txBytes })

def bindKeyMapping (m : KeyMapping) : Except Error Unit × PgStore :=
  s.exec do
    let keyMappings ← unique (s.keyMappings.insert m)
    s.references "key_mappings" m.walletID
    return { s with keyMappings := keyMappings }

def resolveActiveKey (walletID : UUID) : Except Error (List KeyMapping) :=
  let out := db.orderBy (fun a b => decide (a.activeFrom < b.activeFrom))
    (s.keyMappings.rows.filter (fun m => m.walletID = walletID ∧
      (m.rotationState = .current ∨ m.rotationState = .cooling)))
  if out = [] then .error errNoRows else .ok out

def isKeyMapping (walletID : UUID) (keyID : String) (m : KeyMapping) : Bool :=
  m.walletID = walletID ∧ m.keyID = keyID

/-- The argument `now` is the reading of both clocks. The two statements run in a transaction. -/
def rotateKeyMapping (walletID : UUID) (newKeyID : String) (cooling now : Int) :
    Except Error Unit × PgStore :=
  s.exec do
    let cooled ← unique (s.keyMappings.update
      (fun m => m.walletID = walletID ∧ m.rotationState = .current)
      (fun m => { m with rotationState := .cooling, activeTo := some (now + cooling) }))
    let keyMappings ← unique (cooled.upsert (isKeyMapping walletID newKeyID)
      (fun m => { m with rotationState := .current, activeFrom := now, activeTo := none })
      ⟨walletID, newKeyID, now, none, .current⟩)
    if !cooled.rows.any (isKeyMapping walletID newKeyID) then s.references "key_mappings" walletID
    return { s with keyMappings := keyMappings }

def expireCooling (now : Int) : Except Error Unit × PgStore :=
  s.exec do
    let keyMappings ← unique (s.keyMappings.update
      (fun m => m.rotationState = .cooling ∧ m.activeTo.any (· < now))
      (fun m => { m with rotationState := .retired }))
    return { s with keyMappings := keyMappings }

def createFundingRequest (f : FundingRequest) : Except Error Unit × PgStore :=
  s.exec do
    let amount ← numeric.input f.amount
    let fundingRequests ← unique (s.fundingRequests.insert ⟨f, amount⟩)
    s.references "funding_requests" f.walletID
    return { s with fundingRequests := fundingRequests }

def scanFunding (row : FundingRow) : FundingRequest :=
  { row.request with amount := numeric.output row.amount }

def getOpenFundingRequest (walletID : UUID) (asset : String) : Except Error FundingRequest :=
  queryRow ((s.fundingRequests.rows.find? (fun row => row.request.walletID = walletID ∧
    row.request.asset = asset ∧ row.request.state = .requested)).map (scanFunding numeric))

/-- The order by creation time is left out. -/
def listFundingRequests (walletID : UUID) (state : String) : List FundingRequest :=
  (s.fundingRequests.rows.filter (fun row => (walletID = UUID.nil ∨ row.request.walletID = walletID) ∧
    (state = "" ∨ row.request.state.string = state))).map (scanFunding numeric)

def updateFundingState (id : UUID) (state : FundingState) (treasuryBatchID : String) :
    Except Error Unit × PgStore :=
  s.exec do
    let fundingRequests ← unique (s.fundingRequests.update (fun row => row.request.id = id)
      (fun row => { row with request := { row.request with
        state := state
        treasuryBatchID := coalesce treasuryBatchID row.request.treasuryBatchID } }))
    return { s with fundingRequests := fundingRequests }

def appendAuditEvent (e : AuditOutboxEvent) : Except Error Unit × PgStore :=
  s.exec do
    let payload ← db.jsonb e.payload
    let auditOutbox ← unique
      (s.auditOutbox.insert { e with payload := payload, delivered := false, attempts := 0 })
    return { s with auditOutbox := auditOutbox }

def listUndeliveredAuditEvents (limit : Int) : Except Error (List AuditOutboxEvent) :=
  if limit < 0 then .error ⟨"pq: LIMIT must not be negative", none⟩
  else .ok ((db.orderBy (fun a b => decide (a.seq < b.seq))
    (s.auditOutbox.rows.filter (fun e => !e.delivered))).take limit.toNat)

def markAuditDelivered (id : UUID) : Except Error Unit × PgStore :=
  s.exec do
    (s.auditOutbox.rows.filter (fun e => e.id = id)).forM (fun e => int4 (e.attempts + 1))
    let auditOutbox ← unique (s.auditOutbox.update (fun e => e.id = id)
      (fun e => { e with delivered := true, attempts := e.attempts + 1 }))
    return { s with auditOutbox := auditOutbox }

def nextAuditSeq (walletID : UUID) : Except Error Int × PgStore :=
  let seq := match s.auditSeq.rows.find? (fun row => row.walletID = walletID) with
    | none => 1
    | some row => row.seq + 1
  let (r, s') := s.exec do
    let auditSeq ← unique (s.auditSeq.upsert (fun row => row.walletID = walletID)
      (fun row => { row with seq := row.seq + 1 }) ⟨walletID, 1⟩)
    return { s with auditSeq := auditSeq }
  (r.map (fun _ => seq), s')

end PgStore

def StoreCall.isOperation : StoreCall → Bool
  | beginTx | commitTx | rollbackTx => false
  | _ => true

/-- A call of an operation; `rowID` is the identity that a balance event's row gets. -/
structure Request where
  call : StoreCall
  operation : call.isOperation = true
  rowID : UUID

def PgStore.handle (db : Database) (s : PgStore) : (rq : Request) → Except Error rq.call.Result × PgStore
  | ⟨.beginTx, h, _⟩ | ⟨.commitTx, h, _⟩ | ⟨.rollbackTx, h, _⟩ => nomatch h
  | ⟨.createWallet w, _, _⟩ => s.createWallet w
  | ⟨.getWallet id, _, _⟩ => (s.getWallet id, s)
  | ⟨.updateWalletState id state, _, _⟩ => s.updateWalletState id state
  | ⟨.insertAddress a _, _, _⟩ => s.insertAddress a
  | ⟨.getActiveAddress walletID, _, _⟩ => (s.getActiveAddress walletID, s)
  | ⟨.listAddresses walletID, _, _⟩ => (.ok (s.listAddresses db walletID), s)
  | ⟨.deprecateAddress id, _, _⟩ => s.deprecateAddress id
  | ⟨.nextAddressIndex chain change, _, _⟩ => (s.nextAddressIndex chain change, s)
  | ⟨.incrementReceiveCount id, _, _⟩ => s.incrementReceiveCount id
  | ⟨.upsertBalance b, _, _⟩ => s.upsertBalance db.numeric b
  | ⟨.getBalance walletID asset, _, _⟩ => (s.getBalance db.numeric walletID asset, s)
  | ⟨.recordBalanceEvent e, _, rowID⟩ => s.recordBalanceEvent ⟨rowID, e⟩
  | ⟨.insertUTXO u, _, _⟩ => s.insertUTXO db.numeric u
  | ⟨.listFreeUTXOs walletID, _, _⟩ => (.ok (s.listFreeUTXOs db walletID), s)
  | ⟨.lockUTXOs outpoints, _, _⟩ => s.lockUTXOs outpoints
  | ⟨.markUTXOsSpent outpoints txHash, _, _⟩ => s.markUTXOsSpent outpoints txHash
  | ⟨.restoreUTXOs outpoints, _, _⟩ => s.restoreUTXOs outpoints
  | ⟨.incrementPendingNonce walletID chain, _, _⟩ => s.incrementPendingNonce walletID chain
  | ⟨.advanceBroadcastNonce walletID chain nonce, _, _⟩ => s.advanceBroadcastNonce walletID chain nonce
  | ⟨.rollbackPendingNonce walletID chain target, _, _⟩ => s.rollbackPendingNonce walletID chain target
  | ⟨.createWithdrawal w, _, _⟩ => s.createWithdrawal db.numeric w
  | ⟨.getWithdrawal id, _, _⟩ => (s.getWithdrawal db.numeric id, s)
  | ⟨.updateWithdrawalState id state reason txHash policyDecisionID, _, _⟩ =>
    s.updateWithdrawalState id state reason txHash policyDecisionID
  | ⟨.updateWithdrawalNonce id nonce, _, _⟩ => s.updateWithdrawalNonce id nonce
  | ⟨.updateWithdrawalOutpoints id outpoints, _, _⟩ => s.updateWithdrawalOutpoints id outpoints
  | ⟨.updateWithdrawalSignedTx id txBytes, _, _⟩ => s.updateWithdrawalSignedTx id txBytes
  | ⟨.bindKeyMapping m _, _, _⟩ => s.bindKeyMapping m
  | ⟨.resolveActiveKey walletID, _, _⟩ => (s.resolveActiveKey db walletID, s)
  | ⟨.rotateKeyMapping walletID newKeyID cooling now, _, _⟩ => s.rotateKeyMapping walletID newKeyID cooling now
  | ⟨.expireCooling now, _, _⟩ => s.expireCooling now
  | ⟨.listWallets chain type state, _, _⟩ => (.ok (s.listWallets chain type state), s)
  | ⟨.getAddress id, _, _⟩ => (s.getAddress id, s)
  | ⟨.listBalances walletID, _, _⟩ => (.ok (s.listBalances db walletID), s)
  | ⟨.pruneUTXOs outpoints, _, _⟩ => s.pruneUTXOs outpoints
  | ⟨.getNonce walletID chain, _, _⟩ => (.ok (s.getNonce walletID chain), s)
  | ⟨.upsertNonce n, _, _⟩ => s.upsertNonce n
  | ⟨.listWithdrawals walletID state, _, _⟩ => (s.listWithdrawals db.numeric walletID state, s)
  | ⟨.createFundingRequest f, _, _⟩ => s.createFundingRequest db.numeric f
  | ⟨.getOpenFundingRequest walletID asset, _, _⟩ => (s.getOpenFundingRequest db.numeric walletID asset, s)
  | ⟨.listFundingRequests walletID state, _, _⟩ => (.ok (s.listFundingRequests db.numeric walletID state), s)
  | ⟨.updateFundingState id state treasuryBatchID, _, _⟩ => s.updateFundingState id state treasuryBatchID
  | ⟨.appendAuditEvent e, _, _⟩ => s.appendAuditEvent db e
  | ⟨.listUndeliveredAuditEvents limit, _, _⟩ => (s.listUndeliveredAuditEvents db limit, s)
  | ⟨.markAuditDelivered id, _, _⟩ => s.markAuditDelivered id
  | ⟨.nextAuditSeq walletID, _, _⟩ => s.nextAuditSeq walletID

end WalletManager
