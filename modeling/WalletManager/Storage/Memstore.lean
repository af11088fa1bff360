import WalletManager.Lib
import Mathlib.Data.Finset.Basic

/-!
# The in-memory store

`Tables` is the data of `memstore.Store`, and `Store` adds the bookkeeping of the one
open transaction. Every operation returns its Go results together with the next store.
-/

namespace WalletManager

inductive WithdrawalState
  | pending
  | whitelisted
  | signed
  | broadcast
  | confirmed
  | failed
  deriving DecidableEq, Repr

def WithdrawalState.string : WithdrawalState → String
  | pending => "PENDING"
  | whitelisted => "WHITELISTED"
  | signed => "SIGNED"
  | broadcast => "BROADCAST"
  | confirmed => "CONFIRMED"
  | failed => "FAILED"

inductive UTXOLockState
  | free
  | locked
  | spent
  deriving DecidableEq, Repr

def UTXOLockState.string : UTXOLockState → String
  | free => "FREE"
  | locked => "LOCKED"
  | spent => "SPENT"

inductive FundingState
  | requested
  | approved
  | settled
  | rejected
  deriving DecidableEq, Repr

def FundingState.string : FundingState → String
  | requested => "REQUESTED"
  | approved => "APPROVED"
  | settled => "SETTLED"
  | rejected => "REJECTED"

inductive RotationState
  | current
  | cooling
  | retired
  deriving DecidableEq, Repr

/-- The balance row of a wallet and asset; the amounts are decimal texts. -/
structure Balance where
  walletID : UUID
  asset : String
  confirmed : String := ""
  pending : String := ""
  locked : String := ""
  lastBlockSeen : Int := 0
  deriving DecidableEq

structure BalanceEvent where
  walletID : UUID
  asset : String
  blockHeight : Int
  eventID : String
  deriving DecidableEq

structure UTXO where
  outpoint : String
  walletID : UUID
  value : String
  lockState : UTXOLockState
  txHash : String := ""
  scriptType : String := ""
  confirmations : Int := 0
  deriving DecidableEq

structure Nonce where
  walletID : UUID
  chain : String
  pendingNonce : Int := 0
  broadcastNonce : Int := 0
  version : Int := 0
  deriving DecidableEq

structure WithdrawalRequest where
  id : UUID
  walletID : UUID
  toAddress : String
  asset : String
  amount : String
  state : WithdrawalState
  policyDecisionID : String := ""
  failureReason : String := ""
  txHash : String := ""
  nonceValue : Option Int := none
  reservedOutpoints : List String := []
  signedTxBytes : Bytes := []
  deriving DecidableEq

structure KeyMapping where
  walletID : UUID
  keyID : String
  activeFrom : Int
  activeTo : Option Int
  rotationState : RotationState
  deriving DecidableEq

structure FundingRequest where
  id : UUID
  walletID : UUID
  asset : String
  amount : String
  state : FundingState
  treasuryBatchID : String := ""
  reason : String := ""
  deriving DecidableEq

structure AuditOutboxEvent where
  id : UUID
  eventID : UUID
  walletID : Option UUID
  eventType : String
  payload : Bytes
  seq : Int
  delivered : Bool := false
  attempts : Int := 0
  deriving DecidableEq

structure Tables where
  wallets : Table UUID Wallet := ∅
  addresses : Table UUID Address := ∅
  balances : Table String Balance := ∅
  balanceEvents : Finset String := ∅
  utxos : Table String UTXO := ∅
  nonces : Table String Nonce := ∅
  withdrawals : Table UUID WithdrawalRequest := ∅
  keyMappings : Table UUID (List KeyMapping) := ∅
  inflightWithdrawals : Finset String := ∅
  fundingReq : Table UUID FundingRequest := ∅
  auditOutbox : List AuditOutboxEvent := []
  auditSeqCounters : Table UUID Int := ∅

/-- The store: its tables, how many `InTx` calls are open, and the snapshot that the
outermost of them took. -/
structure Store extends Tables where
  depth : Nat := 0
  snapshot : Tables := {}

def balanceKey (walletID : UUID) (asset : String) : String := walletID.string ++ "|" ++ asset

def nonceKey (walletID : UUID) (chain : String) : String := walletID.string ++ "|" ++ chain

def withdrawalDedupKey (walletID : UUID) (toAddress amount asset : String) : String :=
  walletID.string ++ "|" ++ toAddress ++ "|" ++ amount ++ "|" ++ asset

def BalanceEvent.key (e : BalanceEvent) : String :=
  e.walletID.string ++ "|" ++ e.asset ++ "|" ++ e.blockHeight.repr ++ "|" ++ e.eventID

def Table.mapValues {K V : Type} (f : V → V) (t : Table K V) : Table K V :=
  ⟨t.entries.map (.map id (fun _ => f)), t.nodupKeys.map₂ (fun _ => f) t.entries⟩

namespace Store

def beginTx (s : Store) : Except Error Unit × Store :=
  if s.depth = 0 then (.ok (), { s with depth := 1, snapshot := s.toTables })
  else (.ok (), { s with depth := s.depth + 1 })

def commitTx (s : Store) : Except Error Unit × Store := (.ok (), { s with depth := s.depth - 1 })

/-- Closes a transaction whose body failed: the outermost one restores the snapshot. -/
def rollbackTx (s : Store) : Except Error Unit × Store :=
  if s.depth ≤ 1 then (.ok (), { s with toTables := s.snapshot, depth := 0 })
  else (.ok (), { s with depth := s.depth - 1 })

def getWallet (s : Store) (id : UUID) : Except Error Wallet :=
  match s.wallets.lookup id with
  | none => .error (errNoRows.wrap "wallet not found")
  | some w => .ok w

def createWallet (s : Store) (w : Wallet) : Except Error Unit × Store :=
  if w.id ∈ s.wallets then (.error ⟨"wallet already exists", none⟩, s)
  else (.ok (), { s with wallets := s.wallets.insert w.id w })

def updateWalletState (s : Store) (id : UUID) (state : WalletState) : Except Error Unit × Store :=
  match s.wallets.lookup id with
  | none => (.error (errNoRows.wrap "wallet not found"), s)
  | some w => (.ok (), { s with wallets := s.wallets.insert id { w with state := state } })

/-- The rows of a table, in an unspecified order, as the source iterates over a map. -/
def rows {K V : Type} (t : Table K V) : List V := t.entries.map Sigma.snd

/-- An empty text filters nothing. -/
def matchesFilter (filter text : String) : Bool := filter = "" ∨ text = filter

def listWallets (lib : Lib) (s : Store) (chain type state : String) : List Wallet :=
  lib.sortSlice (fun a b => decide (a.id.string < b.id.string))
    ((rows s.wallets).filter (fun w => matchesFilter chain w.chain.string ∧
      matchesFilter type w.type.string ∧ matchesFilter state w.state.string))

/-- The rows of the address table; the source iterates over a map, in an unspecified order. -/
def addressRows (s : Store) : List Address := s.addresses.entries.map Sigma.snd

/-- The argument `now` is the reading of the clock. -/
def insertAddress (s : Store) (a : Address) (now : Int) : Except Error Unit × Store :=
  if a.id ∈ s.addresses then (.error ⟨"address exists", none⟩, s)
  else if a.state = .active ∧
      s.addressRows.any (fun ex => ex.walletID = a.walletID ∧ ex.state = .active) then
    (.error ⟨"active address already exists for wallet", none⟩, s)
  else
    let cp := if a.createdAt = 0 then { a with createdAt := now } else a
    (.ok (), { s with addresses := s.addresses.insert a.id cp })

def getActiveAddress (s : Store) (walletID : UUID) : Except Error Address :=
  match s.addressRows.find? (fun a => a.walletID = walletID ∧ a.state = .active) with
  | none => .error (errNoRows.wrap "no active address")
  | some a => .ok a

def getAddress (s : Store) (id : UUID) : Except Error Address :=
  match s.addresses.lookup id with
  | none => .error (errNoRows.wrap "address not found")
  | some a => .ok a

def listAddresses (lib : Lib) (s : Store) (walletID : UUID) : List Address :=
  lib.sortSlice (fun a b => if a.change ≠ b.change then a.change < b.change else a.index < b.index)
    (s.addressRows.filter (fun a => a.walletID = walletID))

/-- The row update shared by `DeprecateAddress` and `IncrementReceiveCount`. -/
def updateAddress (s : Store) (id : UUID) (f : Address → Address) : Except Error Unit × Store :=
  match s.addresses.lookup id with
  | none => (.error (errNoRows.wrap "address not found"), s)
  | some a => (.ok (), { s with addresses := s.addresses.insert id (f a) })

def deprecateAddress (s : Store) (id : UUID) : Except Error Unit × Store :=
  s.updateAddress id (fun a => { a with state := .deprecated })

def incrementReceiveCount (s : Store) (id : UUID) : Except Error Unit × Store :=
  s.updateAddress id (fun a => { a with receiveCount := a.receiveCount + 1 })

def nextAddressIndex (s : Store) (chain : String) (change : Int) : Int :=
  s.addressRows.foldl (fun maxIdx a =>
    if a.chain.string = chain ∧ a.change = change ∧ a.index > maxIdx then a.index else maxIdx) (-1) + 1

def upsertBalance (s : Store) (b : Balance) : Except Error Unit × Store :=
  (.ok (), { s with balances := s.balances.insert (balanceKey b.walletID b.asset) b })

def getBalance (s : Store) (walletID : UUID) (asset : String) : Except Error Balance :=
  match s.balances.lookup (balanceKey walletID asset) with
  | none => .error (errNoRows.wrap "balance not found")
  | some b => .ok b

/-- The source selects by the text of the map's keys. -/
def listBalances (lib : Lib) (s : Store) (walletID : UUID) : List Balance :=
  lib.sortSlice (fun a b => decide (a.asset < b.asset))
    ((s.balances.entries.filter
      (fun e => (walletID.string ++ "|").toList.isPrefixOf e.1.toList)).map Sigma.snd)

def recordBalanceEvent (s : Store) (e : BalanceEvent) : Except Error Unit × Store :=
  if e.key ∈ s.balanceEvents then (.error errDuplicateEvent, s)
  else (.ok (), { s with balanceEvents := insert e.key s.balanceEvents })

def insertUTXO (s : Store) (u : UTXO) : Except Error Unit × Store :=
  if u.outpoint ∈ s.utxos then (.error ⟨"utxo exists", none⟩, s)
  else (.ok (), { s with utxos := s.utxos.insert u.outpoint u })

def listFreeUTXOs (lib : Lib) (s : Store) (walletID : UUID) : List UTXO :=
  lib.sortSlice (fun a b => decide (a.outpoint < b.outpoint))
    ((s.utxos.entries.map Sigma.snd).filter
      (fun u => u.walletID = walletID ∧ u.lockState = .free))

/-- The first loop of `LockUTXOs`: every listed outpoint exists and is free. -/
def checkFree (utxos : Table String UTXO) : List String → Except Error Unit
  | [] => .ok ()
  | op :: ops =>
    match utxos.lookup op with
    | none => .error ⟨"utxo not found: " ++ op, none⟩
    | some u =>
      if u.lockState = .free then checkFree utxos ops
      else .error ⟨"utxo not free: " ++ op ++ " state=" ++ u.lockState.string, none⟩

/-- The update loop over a list of outpoints: it stops at the first unknown one and keeps
what it has changed before. -/
def updateEach (f : UTXO → UTXO) :
    List String → Table String UTXO → Except Error Unit × Table String UTXO
  | [], utxos => (.ok (), utxos)
  | op :: ops, utxos =>
    match utxos.lookup op with
    | none => (.error ⟨"utxo not found: " ++ op, none⟩, utxos)
    | some u => updateEach f ops (utxos.insert op (f u))

def lockUTXOs (s : Store) (outpoints : List String) : Except Error Unit × Store :=
  match checkFree s.utxos outpoints with
  | .error err => (.error err, s)
  | .ok () =>
    (.ok (), { s with utxos :=
      (updateEach (fun u => { u with lockState := .locked }) outpoints s.utxos).2 })

def markUTXOsSpent (s : Store) (outpoints : List String) (txHash : String) :
    Except Error Unit × Store :=
  let (r, utxos) :=
    updateEach (fun u => { u with lockState := .spent, txHash := txHash }) outpoints s.utxos
  (r, { s with utxos := utxos })

def restoreUTXOs (s : Store) (outpoints : List String) : Except Error Unit × Store :=
  let (r, utxos) :=
    updateEach (fun u => { u with lockState := .free, txHash := "" }) outpoints s.utxos
  (r, { s with utxos := utxos })

def pruneUTXOs (s : Store) (outpoints : List String) : Except Error Unit × Store :=
  (.ok (), { s with utxos := outpoints.foldl (fun utxos op => utxos.erase op) s.utxos })

/-- The nonce row of a key, or a fresh one where there is none yet. -/
def nonceRow (s : Store) (walletID : UUID) (chain : String) : Nonce :=
  (s.nonces.lookup (nonceKey walletID chain)).getD { walletID := walletID, chain := chain }

def getNonce (s : Store) (walletID : UUID) (chain : String) : Nonce := s.nonceRow walletID chain

def upsertNonce (s : Store) (n : Nonce) : Except Error Unit × Store :=
  (.ok (), { s with nonces := s.nonces.insert (nonceKey n.walletID n.chain) n })

/-- The counters are `int64`. As whole numbers they are exact up to `2 ^ 63` reservations of a wallet
on a chain; this function, `advanceBroadcastNonce` and `rollbackPendingNonce` are modelled below
that bound. -/
def incrementPendingNonce (s : Store) (walletID : UUID) (chain : String) :
    Except Error (Int × Int) × Store :=
  let n := s.nonceRow walletID chain
  let val := n.pendingNonce
  let n := { n with pendingNonce := val + 1, version := n.version + 1 }
  (.ok (val, n.version), { s with nonces := s.nonces.insert (nonceKey walletID chain) n })

def advanceBroadcastNonce (s : Store) (walletID : UUID) (chain : String) (nonce : Int) :
    Except Error Unit × Store :=
  let n := s.nonceRow walletID chain
  let n := if nonce + 1 > n.broadcastNonce then { n with broadcastNonce := nonce + 1 } else n
  (.ok (), { s with nonces := s.nonces.insert (nonceKey walletID chain) n })

/-- Decrements the pending nonce to `target` only when it is `target + 1`; returns the number of
rows changed. -/
def rollbackPendingNonce (s : Store) (walletID : UUID) (chain : String) (target : Int) :
    Except Error Int × Store :=
  match s.nonces.lookup (nonceKey walletID chain) with
  | none => (.ok 0, s)
  | some n =>
    if n.pendingNonce = target + 1 then
      let n := { n with pendingNonce := target, version := n.version + 1 }
      (.ok 1, { s with nonces := s.nonces.insert (nonceKey walletID chain) n })
    else (.ok 0, s)

def createWithdrawal (s : Store) (w : WithdrawalRequest) : Except Error Unit × Store :=
  if w.id ∈ s.withdrawals then (.error ⟨"withdrawal exists", none⟩, s)
  else
    let key := withdrawalDedupKey w.walletID w.toAddress w.amount w.asset
    if key ∈ s.inflightWithdrawals then (.error errDuplicateWithdrawal, s)
    else (.ok (), { s with
      inflightWithdrawals := insert key s.inflightWithdrawals
      withdrawals := s.withdrawals.insert w.id w })

def getWithdrawal (s : Store) (id : UUID) : Except Error WithdrawalRequest :=
  match s.withdrawals.lookup id with
  | none => .error (errNoRows.wrap "withdrawal not found")
  | some w => .ok w

/-- The rows of a wallet and state; the nil identifier and the empty text select all. The source
sorts them by their creation times, which the model does not keep. -/
def listWithdrawals (s : Store) (walletID : UUID) (state : String) : List WithdrawalRequest :=
  (rows s.withdrawals).filter (fun w =>
    (walletID = UUID.nil ∨ w.walletID = walletID) ∧ matchesFilter state w.state.string)

/-- The row update shared by the four `UpdateWithdrawal` operations. -/
def updateWithdrawal (s : Store) (id : UUID) (f : WithdrawalRequest → WithdrawalRequest) :
    Except Error Unit × Store :=
  match s.withdrawals.lookup id with
  | none => (.error (errNoRows.wrap "withdrawal not found"), s)
  | some w => (.ok (), { s with withdrawals := s.withdrawals.insert id (f w) })

def orKeep (new old : String) : String := if new ≠ "" then new else old

def rowWithState (w : WithdrawalRequest) (state : WithdrawalState)
    (reason txHash policyDecisionID : String) : WithdrawalRequest :=
  { w with
    state := state
    failureReason := orKeep reason w.failureReason
    txHash := orKeep txHash w.txHash
    policyDecisionID := orKeep policyDecisionID w.policyDecisionID }

def updateWithdrawalState (s : Store) (id : UUID) (state : WithdrawalState)
    (reason txHash policyDecisionID : String) : Except Error Unit × Store :=
  match s.withdrawals.lookup id with
  | none => (.error (errNoRows.wrap "withdrawal not found"), s)
  | some w =>
    let inflight :=
      if state = .confirmed ∨ state = .failed then
        s.inflightWithdrawals.erase (withdrawalDedupKey w.walletID w.toAddress w.amount w.asset)
      else s.inflightWithdrawals
    (.ok (), { s with
      inflightWithdrawals := inflight
      withdrawals := s.withdrawals.insert id (rowWithState w state reason txHash policyDecisionID) })

def updateWithdrawalNonce (s : Store) (id : UUID) (nonce : Int) : Except Error Unit × Store :=
  s.updateWithdrawal id (fun w => { w with nonceValue := some nonce })

def updateWithdrawalOutpoints (s : Store) (id : UUID) (outpoints : List String) :
    Except Error Unit × Store :=
  s.updateWithdrawal id (fun w => { w with reservedOutpoints := outpoints })

def updateWithdrawalSignedTx (s : Store) (id : UUID) (txBytes : Bytes) :
    Except Error Unit × Store :=
  s.updateWithdrawal id (fun w => { w with signedTxBytes := txBytes })

/-- The mappings of a wallet, in the order in which they were added. -/
def mappings (s : Store) (walletID : UUID) : List KeyMapping :=
  (s.keyMappings.lookup walletID).getD []

/-- The argument `now` is the reading of the clock. -/
def bindKeyMapping (s : Store) (m : KeyMapping) (now : Int) : Except Error Unit × Store :=
  if (s.mappings m.walletID).any
      (fun ex => ex.rotationState = .current ∧ m.rotationState = .current) then
    (.error ⟨"current key mapping already exists", none⟩, s)
  else
    let cp := if m.activeFrom = 0 then { m with activeFrom := now } else m
    (.ok (), { s with
      keyMappings := s.keyMappings.insert m.walletID (s.mappings m.walletID ++ [cp]) })

def resolveActiveKey (lib : Lib) (s : Store) (walletID : UUID) : Except Error (List KeyMapping) :=
  let out := ((s.keyMappings.lookup walletID).getD []).filter
    (fun m => m.rotationState = .current ∨ m.rotationState = .cooling)
  if out = [] then .error (errNoRows.wrap "no active key mapping")
  else .ok (lib.sortSlice (fun a b => decide (a.activeFrom < b.activeFrom)) out)

/-- The first loop of `RotateKeyMapping`: the current mapping starts to cool. -/
def demote (activeTo : Int) (m : KeyMapping) : KeyMapping :=
  if m.rotationState = .current then
    { m with rotationState := .cooling, activeTo := some activeTo }
  else m

/-- The second loop: the first mapping of the key becomes current, if there is one. -/
def promote (keyID : String) (now : Int) : List KeyMapping → Option (List KeyMapping)
  | [] => none
  | m :: ms =>
    if m.keyID = keyID then
      some ({ m with rotationState := .current, activeTo := none, activeFrom := now } :: ms)
    else (promote keyID now ms).map (m :: ·)

def rotateKeyMapping (s : Store) (walletID : UUID) (newKeyID : String) (cooling now : Int) :
    Except Error Unit × Store :=
  let mappings := (s.mappings walletID).map (demote (now + cooling))
  let mappings := (promote newKeyID now mappings).getD
    (mappings ++ [⟨walletID, newKeyID, now, none, .current⟩])
  (.ok (), { s with keyMappings := s.keyMappings.insert walletID mappings })

/-- The body of the loop of `ExpireCooling`. -/
def retire (now : Int) (m : KeyMapping) : KeyMapping :=
  if m.rotationState = .cooling ∧ m.activeTo.any (· < now) then
    { m with rotationState := .retired }
  else m

def expireCooling (s : Store) (now : Int) : Except Error Unit × Store :=
  (.ok (), { s with keyMappings := s.keyMappings.mapValues (List.map (retire now)) })

def isOpen (walletID : UUID) (asset : String) (f : FundingRequest) : Bool :=
  f.walletID = walletID ∧ f.asset = asset ∧ f.state = .requested

def createFundingRequest (s : Store) (f : FundingRequest) : Except Error Unit × Store :=
  if (rows s.fundingReq).any (isOpen f.walletID f.asset) then (.error errDuplicateFunding, s)
  else (.ok (), { s with fundingReq := s.fundingReq.insert f.id f })

def getOpenFundingRequest (s : Store) (walletID : UUID) (asset : String) :
    Except Error FundingRequest :=
  match (rows s.fundingReq).find? (isOpen walletID asset) with
  | none => .error (errNoRows.wrap "no open funding request")
  | some f => .ok f

/-- The requests of a wallet and state, as `listWithdrawals` selects withdrawals. -/
def listFundingRequests (s : Store) (walletID : UUID) (state : String) : List FundingRequest :=
  (rows s.fundingReq).filter (fun f =>
    (walletID = UUID.nil ∨ f.walletID = walletID) ∧ matchesFilter state f.state.string)

def updateFundingState (s : Store) (id : UUID) (state : FundingState) (treasuryBatchID : String) :
    Except Error Unit × Store :=
  match s.fundingReq.lookup id with
  | none => (.error (errNoRows.wrap "funding request not found"), s)
  | some f =>
    let f := { f with state := state, treasuryBatchID := orKeep treasuryBatchID f.treasuryBatchID }
    (.ok (), { s with fundingReq := s.fundingReq.insert id f })

def appendAuditEvent (s : Store) (e : AuditOutboxEvent) : Except Error Unit × Store :=
  if s.auditOutbox.any (fun ex => ex.eventID = e.eventID) then (.error errDuplicateAudit, s)
  else (.ok (), { s with auditOutbox := s.auditOutbox ++ [e] })

/-- A limit that is not positive is none. -/
def listUndeliveredAuditEvents (lib : Lib) (s : Store) (limit : Int) : List AuditOutboxEvent :=
  let out := lib.sortSlice (fun a b => decide (a.seq < b.seq))
    (s.auditOutbox.filter (fun e => !e.delivered))
  if limit > 0 ∧ out.length > limit then out.take limit.toNat else out

/-- The loop of `MarkAuditDelivered`: the first row with the identifier is delivered, if there
is one. -/
def deliver (id : UUID) : List AuditOutboxEvent → Option (List AuditOutboxEvent)
  | [] => none
  | e :: es =>
    if e.id = id then some ({ e with delivered := true, attempts := e.attempts + 1 } :: es)
    else (deliver id es).map (e :: ·)

def markAuditDelivered (s : Store) (id : UUID) : Except Error Unit × Store :=
  match deliver id s.auditOutbox with
  | none => (.error (errNoRows.wrap "audit event not found"), s)
  | some outbox => (.ok (), { s with auditOutbox := outbox })

def nextAuditSeq (s : Store) (walletID : UUID) : Except Error Int × Store :=
  let seq := (s.auditSeqCounters.lookup walletID).getD 0 + 1
  (.ok seq, { s with auditSeqCounters := s.auditSeqCounters.insert walletID seq })

end Store

end WalletManager
