import WalletManager.Api.Grpc
import WalletManager.Api.Rest
import WalletManager.Audit.Emitter

/-!
# The running process

What `main` starts: the REST and gRPC servers over the same services, the drains of the audit outbox,
and the evaluations that a confirmed decrease of a balance triggers. Each request, drain and
evaluation runs in a goroutine of its own.
-/

namespace WalletManager

open Interaction

structure Deployment (F : Type) : Type 1 where
  tokens : TokenLib
  secret : String
  bypass : Bool
  rest : RestServer F
  rpc : RpcLib
  emitter : EmitterService

inductive Job
  | rest (r : HttpRequest) (fresh : RestFresh)
  | grpc (m : Method) (ctx : CallContext) (body : Bytes)
  | drain
  | evaluate (id walletID : UUID) (asset : String)

inductive Reply
  | http (resp : HttpResponse)
  | grpc (r : Except Status Response)
  | done (r : Except Error Unit)

namespace Deployment

variable {F : Type} (d : Deployment F)

def server : Server :=
  ⟨d.rpc, d.rest.services.balances, d.rest.services.withdrawals, grpcUnaryInterceptor d.tokens d.secret d.bypass⟩

def run : Job → Proc Reply
  | .rest r fresh => do return .http (← d.rest.serve d.tokens d.secret d.bypass fresh r)
  | .grpc m ctx body => do return .grpc (← d.server.serve m ctx body)
  | .drain => do return .done (← d.emitter.drain)
  | .evaluate id walletID asset => do
    return .done (← d.rest.services.funding.evaluateAndRequest id walletID asset)

end Deployment

end WalletManager
