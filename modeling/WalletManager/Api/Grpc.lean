import WalletManager.Api.AuthToken
import WalletManager.Balance.Service
import WalletManager.KeyMapping.Service
import WalletManager.Withdrawal.Service

/-!
# The internal gRPC server

The unary methods of `wallet.WalletService`. The server hands its interceptor to the method
handlers, which are written by hand and decide whether to call it.
-/

namespace WalletManager

open Interaction

structure ResolveKeyIDRequest where
  walletID : String
  deriving DecidableEq

structure OnConfirmationRequest where
  txHash : String
  walletID : String
  asset : String
  amount : String
  confirmations : Int
  blockHeight : Int
  eventID : String
  isFinalized : Bool
  withdrawalID : String
  deriving DecidableEq

structure OnReorgRequest where
  blockHeight : Int
  walletID : String
  asset : String
  eventID : String
  outpoints : List String
  withdrawalID : String
  deriving DecidableEq

inductive Response
  | resolved (keyIDs : List String) (currentKeyID : String)
  | empty
  deriving DecidableEq

/-- What the server takes from the packages for identifiers and JSON. -/
structure RpcLib where
  /-- `uuid.Parse` -/
  parseUUID : String → Except Error UUID
  unmarshalResolveKeyID : Bytes → Except Error ResolveKeyIDRequest
  unmarshalOnConfirmation : Bytes → Except Error OnConfirmationRequest
  unmarshalOnReorg : Bytes → Except Error OnReorgRequest

abbrev UnaryServerInterceptor :=
  CallContext → String → Proc (Except Status Response) → Proc (Except Status Response)

structure Server where
  lib : RpcLib
  balances : BalanceService
  withdrawals : Service
  interceptor : UnaryServerInterceptor

/-- The server; none where `SecretFromEnv` does not return. -/
def newServer (tokens : TokenLib) (lib : RpcLib) (balances : BalanceService) (withdrawals : Service)
    (env : Env) : Option Server :=
  (secretFromEnv env).map (fun (secret, bypass) =>
    ⟨lib, balances, withdrawals, grpcUnaryInterceptor tokens secret bypass⟩)

def chainOfAsset (asset : String) : Chain :=
  if asset = "btc" ∨ asset = "bitcoin" then .bitcoin
  else if asset = "sol" ∨ asset = "solana" then .solana
  else .ethereum

namespace Server

variable (srv : Server)

/-- The handlers get the result of decoding the request, and the interceptor last. -/
def resolveKeyIDHandler (_ : CallContext) (dec : Except Error ResolveKeyIDRequest)
    (_ : UnaryServerInterceptor) : Proc (Except Status Response) := do
  match dec with
  | .error err => return .error ⟨.invalidArgument, "decode: " ++ err.message⟩
  | .ok req =>
    match srv.lib.parseUUID req.walletID with
    | .error err => return .error ⟨.invalidArgument, "invalid wallet_id: " ++ err.message⟩
    | .ok wid =>
      match ← resolveActive wid with
      | .error err => return .error ⟨.notFound, "resolve key: " ++ err.message⟩
      | .ok mappings =>
        return .ok (.resolved (mappings.map KeyMapping.keyID) (mappings.foldl (fun current m =>
          if m.rotationState = .current then m.keyID else current) ""))

def onConfirmationHandler (_ : CallContext) (dec : Except Error OnConfirmationRequest)
    (_ : UnaryServerInterceptor) : Proc (Except Status Response) := do
  match dec with
  | .error err => return .error ⟨.invalidArgument, "decode: " ++ err.message⟩
  | .ok req =>
    if req.withdrawalID ≠ "" then
      match srv.lib.parseUUID req.withdrawalID with
      | .error err => return .error ⟨.invalidArgument, "invalid withdrawal id: " ++ err.message⟩
      | .ok wid =>
        match ← srv.withdrawals.confirm wid req.txHash with
        | .error err => return .error ⟨.internal, "confirm: " ++ err.message⟩
        | .ok () => return .ok .empty
    else if req.walletID ≠ "" then
      match srv.lib.parseUUID req.walletID with
      | .error err => return .error ⟨.invalidArgument, "invalid wallet id: " ++ err.message⟩
      | .ok wid =>
        match ← srv.balances.applyConfirmationEvent ⟨wid, req.asset, req.amount, req.confirmations,
            req.blockHeight, req.eventID, req.isFinalized, chainOfAsset req.asset⟩ with
        | .error err => return .error ⟨.internal, "apply confirmation: " ++ err.message⟩
        | .ok () => return .ok .empty
    else return .ok .empty

def onReorgHandler (_ : CallContext) (dec : Except Error OnReorgRequest)
    (_ : UnaryServerInterceptor) : Proc (Except Status Response) := do
  match dec with
  | .error err => return .error ⟨.invalidArgument, "decode: " ++ err.message⟩
  | .ok req =>
    if req.withdrawalID ≠ "" then
      match srv.lib.parseUUID req.withdrawalID with
      | .error err => return .error ⟨.invalidArgument, "invalid withdrawal id: " ++ err.message⟩
      | .ok wid =>
        match ← Service.onReorg wid req.outpoints with
        | .error err => return .error ⟨.internal, "withdrawal reorg: " ++ err.message⟩
        | .ok () => reorgBalance req
    else reorgBalance req
where
  reorgBalance (req : OnReorgRequest) : Proc (Except Status Response) := do
    if req.walletID ≠ "" then
      match srv.lib.parseUUID req.walletID with
      | .error err => return .error ⟨.invalidArgument, "invalid wallet id: " ++ err.message⟩
      | .ok wid =>
        match ← srv.balances.applyReorgEvent ⟨wid, req.asset, req.blockHeight, req.eventID,
            req.outpoints⟩ with
        | .error err => return .error ⟨.internal, "apply reorg: " ++ err.message⟩
        | .ok () => return .ok .empty
    else return .ok .empty

end Server

/-- The methods that `registerMethods` registers. -/
inductive Method
  | resolveKeyID
  | onConfirmation
  | onReorg
  deriving DecidableEq

def Method.fullMethod : Method → String
  | resolveKeyID => "/wallet.WalletService/ResolveKeyID"
  | onConfirmation => "/wallet.WalletService/OnConfirmation"
  | onReorg => "/wallet.WalletService/OnReorg"

/-- A unary call: the library runs the method's handler and passes it the interceptor. -/
def Server.serve (srv : Server) (m : Method) (ctx : CallContext) (body : Bytes) :
    Proc (Except Status Response) :=
  match m with
  | .resolveKeyID =>
    srv.resolveKeyIDHandler ctx (srv.lib.unmarshalResolveKeyID body) srv.interceptor
  | .onConfirmation =>
    srv.onConfirmationHandler ctx (srv.lib.unmarshalOnConfirmation body) srv.interceptor
  | .onReorg => srv.onReorgHandler ctx (srv.lib.unmarshalOnReorg body) srv.interceptor

end WalletManager
