import WalletManager.Withdrawal.Reserve
import WalletManager.Withdrawal.TxBuilder

/-!
# The withdrawal saga

`withdrawal.Service`: each operation is a procedure over the calls it makes. The
identifier that `Create` draws from `uuid.NewV7` is a parameter of the operation.
-/

namespace WalletManager

open Interaction

structure CreateRequest where
  walletID : UUID
  toAddress : String
  asset : String
  amount : String
  deriving DecidableEq

def CreateRequest.row (req : CreateRequest) (id : UUID) : WithdrawalRequest where
  id := id
  walletID := req.walletID
  toAddress := req.toAddress
  asset := req.asset
  amount := req.amount
  state := .pending

/-- The service's configuration: which of its optional collaborators are set. -/
structure Service where
  lib : Lib
  evm : EVMParams := {}
  hasKeyLookup : Bool := false
  hasAudit : Bool := false
  hasBTCKeys : Bool := false
  hasSolanaKeys : Bool := false
  hasSolanaBlockhash : Bool := false

def noncePtr (wr : WithdrawalRequest) : Int := wr.nonceValue.getD (-1)

def decisionID (answer : PolicyAnswer) : String :=
  match answer.err, answer.dec with
  | some _, _ => "error"
  | none, none => "nil"
  | none, some dec => dec.decisionID

namespace Service

variable (svc : Service)

def emit (e : AuditEvent) : Proc Unit :=
  if svc.hasAudit then do
    let _ ← ext (.emit e)
    return ()
  else return ()

def rollback (w : Wallet) (n : Int) (ops : List String) : Proc Unit := do
  if 0 ≤ n ∧ w.chain.isEVM then
    let _ ← rollbackNonce w.id w.chain.string n
  if ops.length > 0 then
    let _ ← unlock ops

def resolveBuildOpts (w : Wallet) : Proc (Except Error BuildOpts) := do
  if svc.hasBTCKeys ∧ w.chain = .bitcoin then
    match ← ext (.btcPubKeyHash w.id) with
    | .error err => return .error (err.wrap "resolve btc keys")
    | .ok bk => return .ok { btc := bk, hasSolanaBlockhash := svc.hasSolanaBlockhash }
  else if svc.hasSolanaKeys ∧ w.chain = .solana then
    match ← ext (.solanaFrom w.id) with
    | .error err => return .error (err.wrap "resolve solana keys")
    | .ok sk => return .ok { solana := sk, hasSolanaBlockhash := svc.hasSolanaBlockhash }
  else return .ok { hasSolanaBlockhash := svc.hasSolanaBlockhash }

/-- The end of `Create`: what a policy answer does to the pending withdrawal. -/
def applyDecision (wr : WithdrawalRequest) (answer : PolicyAnswer) :
    Proc (Except Error WithdrawalRequest) := do
  match answer.err, answer.dec with
  | none, some dec =>
    if dec.approved then
      match ← store (.updateWithdrawalState wr.id .whitelisted "" "" dec.decisionID) with
      | .error err => return .error err
      | .ok () => return .ok { wr with state := .whitelisted, policyDecisionID := dec.decisionID }
    else refuse (if dec.reason ≠ "" then dec.reason else "policy_error") dec.decisionID
  | some _, some dec =>
    refuse (if dec.reason ≠ "" then dec.reason else "policy_error") dec.decisionID
  | _, none => refuse "policy_error" ""
where
  refuse (reason decisionID : String) : Proc (Except Error WithdrawalRequest) := do
    let _ ← store (.updateWithdrawalState wr.id .failed reason "" decisionID)
    return .ok { wr with
      state := .failed, failureReason := reason, policyDecisionID := decisionID }

def create (id : UUID) (req : CreateRequest) : Proc (Except Error WithdrawalRequest) := do
  match ← store (.getWallet req.walletID) with
  | .error err => return .error (err.wrap "get wallet")
  | .ok w =>
    if w.state = .retired then return .error errWalletRetired
    else if w.state = .paused then return .error ⟨"wallet is paused", none⟩
    else
      match ← store (.createWithdrawal (req.row id)) with
      | .error err => return .error (err.wrap "create withdrawal")
      | .ok () =>
        svc.emit ⟨"withdrawal.created", req.walletID, [("id", .text id.string),
          ("to", .text req.toAddress), ("asset", .text req.asset), ("amount", .text req.amount)]⟩
        let answer ← ext (.checkWhitelist ⟨req.walletID.string, req.toAddress, req.asset, req.amount⟩)
        svc.emit ⟨"withdrawal.whitelist_checked", req.walletID,
          [("id", .text id.string), ("decision_id", .text (decisionID answer))]⟩
        applyDecision (req.row id) answer

/-- The reservation stage of `ConstructAndSign`: the reserved nonce (`-1` for none) and
the reserved outpoints. -/
def reserve (id : UUID) (wr : WithdrawalRequest) (w : Wallet) :
    Proc (Except Error (Int × List String)) := do
  if w.chain.isEVM then
    match ← reserveNonce wr.walletID w.chain.string with
    | .error err => return .error (err.wrap "reserve nonce")
    | .ok n =>
      let _ ← store (.updateWithdrawalNonce id n)
      return .ok (n, [])
  else if w.chain = .bitcoin then
    match svc.lib.newFromString wr.amount with
    | .error err =>
      let _ ← rollbackNonce wr.walletID w.chain.string (-1)
      return .error (err.wrap "parse btc amount")
    | .ok amount =>
      match ← selectForAmount svc.lib wr.walletID amount with
      | .error err =>
        let _ ← rollbackNonce wr.walletID w.chain.string (-1)
        return .error (err.wrap "select utxos")
      | .ok (ops, _) =>
        match ← store (.updateWithdrawalOutpoints id ops) with
        | .error err =>
          rollback w (-1) ops
          return .error (err.wrap "persist outpoints")
        | .ok () => return .ok (-1, ops)
  else return .ok (-1, [])

/-- The rest of `ConstructAndSign`, with the resources it has to release on failure. -/
def signReserved (id : UUID) (wr : WithdrawalRequest) (w : Wallet) (keyID : String)
    (reservedNonce : Int) (reservedOutpoints : List String) : Proc (Except Error Unit) := do
  match ← svc.resolveBuildOpts w with
  | .error err =>
    rollback w reservedNonce reservedOutpoints
    return .error (err.wrap "resolve build opts")
  | .ok opts =>
    match ← buildUnsignedTx svc.lib svc.evm w wr reservedNonce reservedOutpoints opts with
    | .error err =>
      rollback w reservedNonce reservedOutpoints
      return .error (err.wrap "build unsigned tx")
    | .ok unsigned =>
      match ← ext (.sign ⟨keyID, unsigned.payload, wr.walletID⟩) with
      | .error err =>
        rollback w reservedNonce reservedOutpoints
        let _ ← store (.updateWithdrawalState id .failed "sign_failed" "" "")
        return .error (err.wrap "sign")
      | .ok resp =>
        match unsigned.assemble resp.signature with
        | .error err =>
          rollback w reservedNonce reservedOutpoints
          let _ ← store (.updateWithdrawalState id .failed "assemble_failed" "" "")
          return .error (err.wrap "assemble signed tx")
        | .ok signedBytes =>
          match ← store (.updateWithdrawalSignedTx id signedBytes) with
          | .error err =>
            rollback w reservedNonce reservedOutpoints
            return .error (err.wrap "persist signed tx")
          | .ok () =>
            match ← store (.updateWithdrawalState id .signed "" "" "") with
            | .error err => return .error err
            | .ok () =>
              svc.emit ⟨"withdrawal.signed", wr.walletID, [("id", .text id.string),
                ("nonce", .int reservedNonce), ("utxos", .texts reservedOutpoints),
                ("signed_bytes_len", .int signedBytes.length)]⟩
              return .ok ()

def resolveKeyID (walletID : UUID) : Proc (Except Error String) := do
  if svc.hasKeyLookup then
    match ← ext (.resolveActiveKeyID walletID) with
    | .error err => return .error (err.wrap "resolve key")
    | .ok k => return .ok k
  else return .ok ""

def constructAndSign (id : UUID) : Proc (Except Error Unit) := do
  match ← store (.getWithdrawal id) with
  | .error err => return .error err
  | .ok wr =>
    if wr.state ≠ .whitelisted then
      return .error ⟨"withdrawal not in whitelisted state (is " ++ wr.state.string ++ ")", none⟩
    else match ← store (.getWallet wr.walletID) with
      | .error err => return .error err
      | .ok w =>
        match ← svc.resolveKeyID wr.walletID with
        | .error err => return .error err
        | .ok keyID =>
          match ← svc.reserve id wr w with
          | .error err => return .error err
          | .ok (reservedNonce, reservedOutpoints) =>
            svc.signReserved id wr w keyID reservedNonce reservedOutpoints

/-- The reserved resources of an accepted transaction become final. -/
def settle (wr : WithdrawalRequest) (w : Wallet) (txHash : String) : Proc Unit := do
  if w.chain = .bitcoin ∧ wr.reservedOutpoints.length > 0 then
    let _ ← markSpent wr.reservedOutpoints txHash
  if w.chain.isEVM then
    match wr.nonceValue with
    | none => return ()
    | some n =>
      let _ ← commitNonce wr.walletID w.chain.string n

/-- The end of `Broadcast`, after the gateway has accepted the transaction. -/
def recordBroadcast (id : UUID) (wr : WithdrawalRequest) (w : Wallet) (txHash : String) :
    Proc (Except Error Unit) := do
  settle wr w txHash
  match ← store (.updateWithdrawalState id .broadcast "" txHash "") with
  | .error err => return .error err
  | .ok () =>
    svc.emit ⟨"withdrawal.broadcast", wr.walletID,
      [("id", .text id.string), ("tx_hash", .text txHash)]⟩
    return .ok ()

def broadcast (id : UUID) : Proc (Except Error Unit) := do
  match ← store (.getWithdrawal id) with
  | .error err => return .error err
  | .ok wr =>
    if wr.state ≠ .signed then
      return .error ⟨"withdrawal not signed (is " ++ wr.state.string ++ ")", none⟩
    else match ← store (.getWallet wr.walletID) with
      | .error err => return .error err
      | .ok w =>
        if wr.signedTxBytes.length = 0 then
          return .error ⟨"withdrawal " ++ id.string ++ " has no signed tx bytes", none⟩
        else match ← ext (.broadcastTx ⟨w.chain.string, wr.signedTxBytes, wr.walletID⟩) with
          | .error err =>
            rollback w (noncePtr wr) wr.reservedOutpoints
            let _ ← store (.updateWithdrawalState id .failed "broadcast_failed" "" "")
            return .error (err.wrap "broadcast")
          | .ok resp => svc.recordBroadcast id wr w resp.txHash

def confirm (id : UUID) (txHash : String) : Proc (Except Error Unit) := do
  match ← store (.getWithdrawal id) with
  | .error err => return .error err
  | .ok wr =>
    if wr.state ≠ .broadcast then
      return .error ⟨"withdrawal not broadcast (is " ++ wr.state.string ++ ")", none⟩
    else match ← store (.updateWithdrawalState id .confirmed "" txHash "") with
      | .error err => return .error err
      | .ok () =>
        svc.emit ⟨"withdrawal.confirmed", wr.walletID,
          [("id", .text id.string), ("tx_hash", .text txHash)]⟩
        return .ok ()

/-- Unlike its siblings, `Fail` looks at no state before it releases the nonce. -/
def fail (id : UUID) (reason : String) : Proc (Except Error Unit) := do
  match ← store (.getWithdrawal id) with
  | .error err => return .error err
  | .ok wr =>
    match ← store (.getWallet wr.walletID) with
    | .error err => return .error err
    | .ok w =>
      rollback w (noncePtr wr) []
      match ← store (.updateWithdrawalState id .failed reason "" "") with
      | .error err => return .error err
      | .ok () =>
        svc.emit ⟨"withdrawal.failed", wr.walletID,
          [("id", .text id.string), ("reason", .text reason)]⟩
        return .ok ()

def onReorg (id : UUID) (outpoints : List String) : Proc (Except Error Unit) := do
  match ← store (.getWithdrawal id) with
  | .error err => return .error err
  | .ok wr =>
    match ← restoreOnReorg outpoints with
    | .error err => return .error err
    | .ok () =>
      if wr.state = .confirmed then store (.updateWithdrawalState id .broadcast "reorg" "" "")
      else return .ok ()

end Service

inductive Op
  | create (id : UUID) (req : CreateRequest)
  | constructAndSign (id : UUID)
  | broadcast (id : UUID)
  | confirm (id : UUID) (txHash : String)
  | fail (id : UUID) (reason : String)
  | onReorg (id : UUID) (outpoints : List String)
  deriving DecidableEq

def Op.id : Op → UUID
  | create id _ | constructAndSign id | broadcast id | confirm id _ | fail id _ | onReorg id _ => id

def Op.proc (svc : Service) : Op → Proc (Except Error Unit)
  | create id req => do return (← svc.create id req).map (fun _ => ())
  | constructAndSign id => svc.constructAndSign id
  | broadcast id => svc.broadcast id
  | confirm id txHash => svc.confirm id txHash
  | fail id reason => svc.fail id reason
  | onReorg id outpoints => Service.onReorg id outpoints

/-- The operations that move nonces: those of the nonce service, which the allocate endpoint
offers for any chain text, and those of the saga. -/
inductive NonceUse
  | direct (op : NonceOp)
  | saga (op : Op)
  deriving DecidableEq

def NonceUse.proc (svc : Service) : NonceUse → Proc (Except Error (Option Int))
  | direct op => op.proc
  | saga op => do return (← op.proc svc).map (fun _ => none)

end WalletManager
