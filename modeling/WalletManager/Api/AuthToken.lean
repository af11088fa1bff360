import WalletManager.Codec.Base64Url
import WalletManager.Storage.Calls

/-!
# Service tokens

HS256 tokens for service-to-service calls, and the interceptor that checks them on gRPC calls.
-/

namespace WalletManager

open Interaction

structure Claims where
  sub : String
  iat : Int
  exp : Int
  deriving DecidableEq

/-- What the checks take from the crypto and encoding packages. -/
structure TokenLib where
  hmacSHA256 : (key message : Bytes) → Bytes
  /-- `base64.RawURLEncoding` -/
  encode : Bytes → String
  decode : String → Except Error Bytes
  unmarshalClaims : Bytes → Except Error Claims

/-- What `SecretFromEnv` reads of its surroundings. -/
structure Env where
  serviceTokenSecret : String
  devMode : String
  testing : Bool

/-- The secret, and whether checks are bypassed; `none` where the process exits. -/
def secretFromEnv (env : Env) : Option (String × Bool) :=
  if env.serviceTokenSecret ≠ "" then some (env.serviceTokenSecret, false)
  else if env.devMode = "1" ∨ env.testing then some ("", true)
  else none

def verify (lib : TokenLib) (token secret : String) : Except Error Claims :=
  match (token.toList.splitOn '.').map String.ofList with
  | [head, body, sig] =>
    if lib.encode (lib.hmacSHA256 (utf8 secret) (utf8 (head ++ "." ++ body))) ≠ sig then
      .error ⟨"invalid signature", none⟩
    else match lib.decode body with
      | .error err => .error (err.wrap "decode payload")
      | .ok payload =>
        match lib.unmarshalClaims payload with
        | .error err => .error (err.wrap "parse payload")
        | .ok claims => .ok claims
  | _ => .error ⟨"malformed token", none⟩

inductive Code
  | invalidArgument
  | notFound
  | internal
  | unauthenticated
  deriving DecidableEq, Repr

structure Status where
  code : Code
  message : String
  deriving DecidableEq

/-- The incoming context of a call: its metadata, if there is any, and the time in seconds. -/
structure CallContext where
  metadata : Option (Table String (List String))
  now : Int

def grpcSkipMethods : List String :=
  ["/grpc.health.v1.Health/Check", "/grpc.reflection.v1alpha.ServerReflectionInfo",
    "/grpc.reflection.v1.ServerReflectionInfo"]

def trimPrefix (s pre : String) : String :=
  if pre.toList <+: s.toList then String.ofList (s.toList.drop pre.toList.length) else s

def bearerToken (md : Table String (List String)) : String :=
  match (md.lookup "authorization").getD [] with
  | v :: _ => trimPrefix v "Bearer "
  | [] => ""

/-- The token of a call: the bearer token, and otherwise the service token. -/
def callToken (md : Table String (List String)) : String :=
  if bearerToken md ≠ "" then bearerToken md
  else match (md.lookup "x-service-token").getD [] with
    | v :: _ => v
    | [] => ""

/-- `GRPCUnaryInterceptor`, where `handler` is the call of the wrapped handler. -/
def grpcUnaryInterceptor {α : Type} (lib : TokenLib) (secret : String) (bypass : Bool)
    (ctx : CallContext) (fullMethod : String) (handler : Proc (Except Status α)) :
    Proc (Except Status α) :=
  if bypass ∨ fullMethod ∈ grpcSkipMethods then handler
  else match ctx.metadata with
    | none => return .error ⟨.unauthenticated, "missing metadata"⟩
    | some md =>
      if callToken md = "" then
        return .error ⟨.unauthenticated, "missing or malformed Authorization metadata"⟩
      else match verify lib (callToken md) secret with
        | .error err => return .error ⟨.unauthenticated, err.message⟩
        | .ok claims =>
          if ctx.now > claims.exp then return .error ⟨.unauthenticated, "token expired"⟩
          else handler

/-! ## Issuing tokens -/

def rawURLEncode (b : Bytes) : String := String.ofList (Base64Url.encode b)

def rawURLDecode (s : String) : Except Error Bytes :=
  match Base64Url.decode s.toList with
  | .error i => .error ⟨"illegal base64 data at input byte " ++ toString i, none⟩
  | .ok b => .ok b

/-- The crypto and JSON packages of a service that issues tokens and checks them. -/
structure TokenIssuer where
  hmacSHA256 : (key message : Bytes) → Bytes
  marshalHeader : List (String × String) → Except Error Bytes
  marshalClaims : Claims → Except Error Bytes
  unmarshalClaims : Bytes → Except Error Claims

namespace TokenIssuer

variable (iss : TokenIssuer)

def lib : TokenLib where
  hmacSHA256 := iss.hmacSHA256
  encode := rawURLEncode
  decode := rawURLDecode
  unmarshalClaims := iss.unmarshalClaims

def sign (header : List (String × String)) (claims : Claims) (secret : String) : Except Error String := do
  let hb ← iss.marshalHeader header
  let cb ← iss.marshalClaims claims
  let head := rawURLEncode hb
  let body := rawURLEncode cb
  let sig := rawURLEncode (iss.hmacSHA256 (utf8 secret) (utf8 (head ++ "." ++ body)))
  return head ++ "." ++ body ++ "." ++ sig

/-- `Issue` at the time `now`, in seconds. -/
def issue (serviceName secret : String) (now : Int) : Except Error String :=
  if secret = "" then .error ⟨"authtoken: secret is required to issue a token", none⟩
  else iss.sign [("alg", "HS256"), ("typ", "JWT")] ⟨serviceName, now, now + 24 * 3600⟩ secret

end TokenIssuer

end WalletManager
