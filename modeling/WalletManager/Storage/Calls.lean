import WalletManager.Interaction.Program
import WalletManager.Storage.Memstore

/-!
# Calls of the services

A service is a program over two kinds of calls: operations of `storage.Store`, and calls
to the other parties (locks, policy engine, signer, gateway, key resolvers, treasury, audit
and the derivation cache). The memory store answers the former; the latter may answer anything.
-/

namespace WalletManager

open Interaction

/-- The operations of `storage.Store`; an `InTx` call is split into its two ends. -/
inductive StoreCall
  | beginTx
  | commitTx
  | rollbackTx
  | createWallet (w : Wallet)
  | getWallet (id : UUID)
  | updateWalletState (id : UUID) (state : WalletState)
  | insertAddress (a : Address) (now : Int)
  | getActiveAddress (walletID : UUID)
  | listAddresses (walletID : UUID)
  | deprecateAddress (id : UUID)
  | nextAddressIndex (chain : String) (change : Int)
  | incrementReceiveCount (id : UUID)
  | upsertBalance (b : Balance)
  | getBalance (walletID : UUID) (asset : String)
  | recordBalanceEvent (e : BalanceEvent)
  | insertUTXO (u : UTXO)
  | listFreeUTXOs (walletID : UUID)
  | lockUTXOs (outpoints : List String)
  | markUTXOsSpent (outpoints : List String) (txHash : String)
  | restoreUTXOs (outpoints : List String)
  | incrementPendingNonce (walletID : UUID) (chain : String)
  | advanceBroadcastNonce (walletID : UUID) (chain : String) (nonce : Int)
  | rollbackPendingNonce (walletID : UUID) (chain : String) (target : Int)
  | createWithdrawal (w : WithdrawalRequest)
  | getWithdrawal (id : UUID)
  | updateWithdrawalState (id : UUID) (state : WithdrawalState)
      (reason txHash policyDecisionID : String)
  | updateWithdrawalNonce (id : UUID) (nonce : Int)
  | updateWithdrawalOutpoints (id : UUID) (outpoints : List String)
  | updateWithdrawalSignedTx (id : UUID) (txBytes : Bytes)
  | bindKeyMapping (m : KeyMapping) (now : Int)
  | resolveActiveKey (walletID : UUID)
  | rotateKeyMapping (walletID : UUID) (newKeyID : String) (cooling now : Int)
  | expireCooling (now : Int)
  | listWallets (chain type state : String)
  | getAddress (id : UUID)
  | listBalances (walletID : UUID)
  | pruneUTXOs (outpoints : List String)
  | getNonce (walletID : UUID) (chain : String)
  | upsertNonce (n : Nonce)
  | listWithdrawals (walletID : UUID) (state : String)
  | createFundingRequest (f : FundingRequest)
  | getOpenFundingRequest (walletID : UUID) (asset : String)
  | listFundingRequests (walletID : UUID) (state : String)
  | updateFundingState (id : UUID) (state : FundingState) (treasuryBatchID : String)
  | appendAuditEvent (e : AuditOutboxEvent)
  | listUndeliveredAuditEvents (limit : Int)
  | markAuditDelivered (id : UUID)
  | nextAuditSeq (walletID : UUID)

abbrev StoreCall.Result : StoreCall → Type
  | getWallet _ => Wallet
  | getActiveAddress _ => Address
  | listAddresses _ => List Address
  | nextAddressIndex _ _ => Int
  | getBalance _ _ => Balance
  | listFreeUTXOs _ => List UTXO
  | incrementPendingNonce _ _ => Int × Int
  | rollbackPendingNonce _ _ _ => Int
  | getWithdrawal _ => WithdrawalRequest
  | resolveActiveKey _ => List KeyMapping
  | listWallets _ _ _ => List Wallet
  | getAddress _ => Address
  | listBalances _ => List Balance
  | getNonce _ _ => Nonce
  | listWithdrawals _ _ => List WithdrawalRequest
  | getOpenFundingRequest _ _ => FundingRequest
  | listFundingRequests _ _ => List FundingRequest
  | listUndeliveredAuditEvents _ => List AuditOutboxEvent
  | nextAuditSeq _ => Int
  | beginTx | commitTx | rollbackTx | upsertBalance _ | recordBalanceEvent _ | insertUTXO _ => Unit
  | lockUTXOs _ | markUTXOsSpent _ _ | restoreUTXOs _ | advanceBroadcastNonce _ _ _ => Unit
  | createWithdrawal _ | updateWithdrawalState _ _ _ _ _ | updateWithdrawalNonce _ _ => Unit
  | updateWithdrawalOutpoints _ _ | updateWithdrawalSignedTx _ _ => Unit
  | createWallet _ | bindKeyMapping _ _ | rotateKeyMapping _ _ _ _ | expireCooling _ => Unit
  | updateWalletState _ _ | insertAddress _ _ | deprecateAddress _ | incrementReceiveCount _ => Unit
  | pruneUTXOs _ | upsertNonce _ | createFundingRequest _ | updateFundingState _ _ _ => Unit
  | appendAuditEvent _ | markAuditDelivered _ => Unit

def Store.handle (lib : Lib) (s : Store) : (c : StoreCall) → Except Error c.Result × Store
  | .beginTx => s.beginTx
  | .commitTx => s.commitTx
  | .rollbackTx => s.rollbackTx
  | .createWallet w => s.createWallet w
  | .getWallet id => (s.getWallet id, s)
  | .updateWalletState id state => s.updateWalletState id state
  | .insertAddress a now => s.insertAddress a now
  | .getActiveAddress walletID => (s.getActiveAddress walletID, s)
  | .listAddresses walletID => (.ok (s.listAddresses lib walletID), s)
  | .deprecateAddress id => s.deprecateAddress id
  | .nextAddressIndex chain change => (.ok (s.nextAddressIndex chain change), s)
  | .incrementReceiveCount id => s.incrementReceiveCount id
  | .upsertBalance b => s.upsertBalance b
  | .getBalance walletID asset => (s.getBalance walletID asset, s)
  | .recordBalanceEvent e => s.recordBalanceEvent e
  | .insertUTXO u => s.insertUTXO u
  | .listFreeUTXOs walletID => (.ok (s.listFreeUTXOs lib walletID), s)
  | .lockUTXOs outpoints => s.lockUTXOs outpoints
  | .markUTXOsSpent outpoints txHash => s.markUTXOsSpent outpoints txHash
  | .restoreUTXOs outpoints => s.restoreUTXOs outpoints
  | .incrementPendingNonce walletID chain => s.incrementPendingNonce walletID chain
  | .advanceBroadcastNonce walletID chain nonce => s.advanceBroadcastNonce walletID chain nonce
  | .rollbackPendingNonce walletID chain target => s.rollbackPendingNonce walletID chain target
  | .createWithdrawal w => s.createWithdrawal w
  | .getWithdrawal id => (s.getWithdrawal id, s)
  | .updateWithdrawalState id state reason txHash policyDecisionID =>
    s.updateWithdrawalState id state reason txHash policyDecisionID
  | .updateWithdrawalNonce id nonce => s.updateWithdrawalNonce id nonce
  | .updateWithdrawalOutpoints id outpoints => s.updateWithdrawalOutpoints id outpoints
  | .updateWithdrawalSignedTx id txBytes => s.updateWithdrawalSignedTx id txBytes
  | .bindKeyMapping m now => s.bindKeyMapping m now
  | .resolveActiveKey walletID => (s.resolveActiveKey lib walletID, s)
  | .rotateKeyMapping walletID newKeyID cooling now =>
    s.rotateKeyMapping walletID newKeyID cooling now
  | .expireCooling now => s.expireCooling now
  | .listWallets chain type state => (.ok (s.listWallets lib chain type state), s)
  | .getAddress id => (s.getAddress id, s)
  | .listBalances walletID => (.ok (s.listBalances lib walletID), s)
  | .pruneUTXOs outpoints => s.pruneUTXOs outpoints
  | .getNonce walletID chain => (.ok (s.getNonce walletID chain), s)
  | .upsertNonce n => s.upsertNonce n
  | .listWithdrawals walletID state => (.ok (s.listWithdrawals walletID state), s)
  | .createFundingRequest f => s.createFundingRequest f
  | .getOpenFundingRequest walletID asset => (s.getOpenFundingRequest walletID asset, s)
  | .listFundingRequests walletID state => (.ok (s.listFundingRequests walletID state), s)
  | .updateFundingState id state treasuryBatchID => s.updateFundingState id state treasuryBatchID
  | .appendAuditEvent e => s.appendAuditEvent e
  | .listUndeliveredAuditEvents limit => (.ok (s.listUndeliveredAuditEvents lib limit), s)
  | .markAuditDelivered id => s.markAuditDelivered id
  | .nextAuditSeq walletID => s.nextAuditSeq walletID

structure CheckRequest where
  walletID : String
  toAddress : String
  asset : String
  amount : String
  deriving DecidableEq

structure CheckResponse where
  approved : Bool
  decisionID : String
  reason : String
  deriving DecidableEq

/-- The pair of results of `CheckWhitelist`, either of which may be nil. -/
structure PolicyAnswer where
  dec : Option CheckResponse
  err : Option Error
  deriving DecidableEq

structure SignRequest where
  keyID : String
  txBytes : Bytes
  walletID : UUID
  deriving DecidableEq

structure SignResponse where
  signature : Bytes
  deriving DecidableEq

structure BroadcastRequest where
  chain : String
  txBytes : Bytes
  walletID : UUID
  deriving DecidableEq

structure BroadcastResponse where
  txHash : String
  deriving DecidableEq

/-- The wallet's P2WPKH key material; the compressed key may be nil. -/
structure BTCKeys where
  pubKeyHash : Vector UInt8 20
  compressedPubKey : Option Bytes
  deriving DecidableEq

structure SolanaKeys where
  sender : Vector UInt8 32
  deriving DecidableEq

inductive AuditValue
  | text (s : String)
  | int (n : Int)
  | texts (l : List String)
  | bool (b : Bool)
  deriving DecidableEq

structure AuditEvent where
  eventType : String
  walletID : UUID
  payload : List (String × AuditValue)
  deriving DecidableEq

structure TreasuryRequest where
  fundingRequestID : UUID
  walletID : UUID
  asset : String
  amount : String
  idempotencyKey : String
  reason : String
  deriving DecidableEq

inductive ExtCall
  | acquire (name : String) (ttlSeconds : Nat)
  | release (name token : String)
  | checkWhitelist (req : CheckRequest)
  | sign (req : SignRequest)
  | broadcastTx (req : BroadcastRequest)
  | resolveActiveKeyID (walletID : UUID)
  | btcPubKeyHash (walletID : UUID)
  | solanaFrom (walletID : UUID)
  | fetchRecentBlockhash
  | emit (e : AuditEvent)
  | onConfirmedDecrease (walletID : UUID) (asset : String)
  | cacheGet (key : String)
  | cacheSet (key value : String)
  | requestFunding (req : TreasuryRequest)
  | deliver (events : List AuditOutboxEvent)

abbrev ExtCall.Answer : ExtCall → Type
  | acquire _ _ => Except Error (String × Bool)
  | checkWhitelist _ => PolicyAnswer
  | sign _ => Except Error SignResponse
  | broadcastTx _ => Except Error BroadcastResponse
  | resolveActiveKeyID _ => Except Error String
  | btcPubKeyHash _ => Except Error BTCKeys
  | solanaFrom _ => Except Error SolanaKeys
  | fetchRecentBlockhash => Except Error (Vector UInt8 32)
  | cacheGet _ => Except Error (String × Bool)
  | release _ _ | emit _ | cacheSet _ _ | requestFunding _ | deliver _ => Except Error Unit
  | onConfirmedDecrease _ _ => Unit

inductive Call
  | store (c : StoreCall)
  | ext (c : ExtCall)

abbrev Answer : Call → Type
  | .store c => Except Error c.Result
  | .ext c => c.Answer

abbrev Proc (α : Type) := Prog Call Answer α

abbrev Trace := List (Event Call Answer)

def store (c : StoreCall) : Proc (Except Error c.Result) := .call (.store c) .ret

def ext (c : ExtCall) : Proc c.Answer := .call (.ext c) .ret

/-- How the memory store and the other parties answer a call when no store operation is
disturbed from outside. -/
def memStep (lib : Lib) (s : Store) : (c : Call) → Answer c → Store → Prop
  | .store c, r, s' => (r, s') = s.handle lib c
  | .ext _, _, s' => s' = s

/-- `Store.InTx`: the body runs between the two ends of a transaction. -/
def inTx (body : Proc (Except Error Unit)) : Proc (Except Error Unit) := do
  match ← store .beginTx with
  | .error err => return .error err
  | .ok () =>
    match ← body with
    | .error err =>
      let _ ← store .rollbackTx
      return .error err
    | .ok () => store .commitTx

end WalletManager
