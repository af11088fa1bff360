import WalletManager.Api.AuthToken
import WalletManager.Codec.Hex
import WalletManager.Manager

/-!
# The REST server

The routes of the control plane, the token middleware in front of them, and their handlers. A handler
decodes its request, runs one operation of a service and writes a status and a body. The encoding of the
bodies, headers and request timeouts are left out.
-/

namespace WalletManager

open Interaction

/-- The bytes of an escaped path, if its escapes are valid. -/
def unescapePath : List Char → Option Bytes
  | [] => some []
  | '%' :: a :: b :: rest =>
    match Hex.digitValue a, Hex.digitValue b with
    | some x, some y => (unescapePath rest).map (UInt8.ofNat (16 * x + y) :: ·)
    | _, _ => none
  | '%' :: _ => none
  | c :: rest => (unescapePath rest).map (utf8 (String.singleton c) ++ ·)

/-- A request as the server has parsed it. -/
structure HttpRequest where
  method : String
  path : String
  /-- The path as it was sent; empty where it is the usual spelling of the path. -/
  rawPath : String := ""
  escaped : rawPath = "" ∨ unescapePath rawPath.toList = some (utf8 path) := by exact .inl rfl
  query : List (String × String) := []
  /-- The first `Authorization` header, if there is one, and otherwise empty. -/
  authorization : String := ""
  body : Bytes := []
  /-- The time of the check, in seconds. -/
  now : Int
  deriving DecidableEq

def HttpRequest.get (r : HttpRequest) (name : String) : String := (r.query.lookup name).getD ""

structure BalanceResp where
  asset : String
  confirmed : String
  pending : String
  locked : String
  deriving DecidableEq

inductive Body
  | error (message : String)
  | unauthorized (message : String)
  | health
  | readiness (status : String) (checks : List (String × String))
  | wallet (w : Wallet)
  | wallets (l : List Wallet)
  | address (a : Address)
  | addresses (l : List Address)
  | balances (l : List BalanceResp)
  | requested
  | withdrawal (w : WithdrawalRequest)
  | withdrawals (l : List WithdrawalRequest)
  | fundingRequests (l : List FundingRequest)
  | nonce (n : Int)
  /-- The router's own replies. -/
  | text (message : String)
  deriving DecidableEq

structure HttpResponse where
  status : ℕ
  body : Body
  deriving DecidableEq

abbrev Handler := HttpRequest → Proc HttpResponse

/-! ## The token middleware -/

def skipPaths : List String := ["/healthz", "/readyz", "/metrics"]

def unauthorized (message : String) : Proc HttpResponse := return ⟨401, .unauthorized message⟩

def middleware (lib : TokenLib) (secret : String) (bypass : Bool) (h : Handler) (r : HttpRequest) :
    Proc HttpResponse :=
  if bypass ∨ r.path ∈ skipPaths then h r
  else if ¬"Bearer ".toList <+: r.authorization.toList then
    unauthorized "missing or malformed Authorization header"
  else match verify lib (trimPrefix r.authorization "Bearer ") secret with
    | .error err => unauthorized err.message
    | .ok claims => if r.now > claims.exp then unauthorized "token expired" else h r

/-! ## Routes -/

inductive Endpoint
  | healthz
  | readyz
  | createWallet
  | getWallet
  | listWallets
  | getAddresses
  | deriveAddress
  | getBalances
  | createFundingRequest
  | listFundingRequests
  | allocateNonce
  | createWithdrawal
  | listWithdrawals
  | getWithdrawal
  deriving DecidableEq

inductive Segment
  | lit (s : String)
  /-- `{id}` -/
  | id
  deriving DecidableEq

structure Route where
  method : String
  pattern : List Segment
  endpoint : Endpoint
  deriving DecidableEq

def routes : List Route :=
  [⟨"GET", [.lit "healthz"], .healthz⟩,
   ⟨"GET", [.lit "readyz"], .readyz⟩,
   ⟨"POST", [.lit "v1", .lit "wallets"], .createWallet⟩,
   ⟨"GET", [.lit "v1", .lit "wallets", .id], .getWallet⟩,
   ⟨"GET", [.lit "v1", .lit "wallets"], .listWallets⟩,
   ⟨"GET", [.lit "v1", .lit "wallets", .id, .lit "addresses"], .getAddresses⟩,
   ⟨"POST", [.lit "v1", .lit "wallets", .id, .lit "addresses", .lit "derive"], .deriveAddress⟩,
   ⟨"GET", [.lit "v1", .lit "wallets", .id, .lit "balances"], .getBalances⟩,
   ⟨"POST", [.lit "v1", .lit "wallets", .id, .lit "funding-request"], .createFundingRequest⟩,
   ⟨"GET", [.lit "v1", .lit "wallets", .id, .lit "funding-requests"], .listFundingRequests⟩,
   ⟨"POST", [.lit "v1", .lit "wallets", .id, .lit "nonce", .lit "allocate"], .allocateNonce⟩,
   ⟨"POST", [.lit "v1", .lit "withdrawals"], .createWithdrawal⟩,
   ⟨"GET", [.lit "v1", .lit "withdrawals"], .listWithdrawals⟩,
   ⟨"GET", [.lit "v1", .lit "withdrawals", .id], .getWithdrawal⟩]

def Segment.chars (id : String) : Segment → List Char
  | lit s => '/' :: s.toList
  | .id => '/' :: id.toList

def Route.path (route : Route) (id : String) : List Char := route.pattern.flatMap (Segment.chars id)

inductive Routed
  | found (endpoint : Endpoint) (id : String)
  | methodNotAllowed
  | notFound
  deriving DecidableEq

/-- What is assumed of the router: it looks at the path as it was sent, where that differs, and finds a
handler only for a path of the handler's route. -/
structure LawfulRouter (route : HttpRequest → Routed) : Prop where
  found : ∀ r endpoint id, route r = .found endpoint id → ∃ rt ∈ routes, rt.method = r.method ∧
    rt.endpoint = endpoint ∧ rt.path id = (if r.rawPath = "" then r.path else r.rawPath).toList

/-! ## Handlers -/

structure CreateWalletReq where
  chain : String
  type : String
  label : String
  keyID : String
  deriving DecidableEq

structure FundingReq where
  asset : String
  amount : String
  reason : String
  deriving DecidableEq

structure CreateWithdrawalReq where
  walletID : String
  toAddress : String
  asset : String
  amount : String
  deriving DecidableEq

structure AllocateNonceReq where
  chain : String
  deriving DecidableEq

def chainOf (s : String) : Chain :=
  ([.ethereum, .polygon, .arbitrum, .base, .optimism, .solana, .bitcoin].find?
    (fun c => c.string = s)).getD (.other s)

/-- What the handlers take from the packages for identifiers and JSON. -/
structure RestLib where
  /-- `uuid.Parse` -/
  parseUUID : String → Except Error UUID
  decodeCreateWallet : Bytes → Except Error CreateWalletReq
  decodeFunding : Bytes → Except Error FundingReq
  decodeCreateWithdrawal : Bytes → Except Error CreateWithdrawalReq
  decodeAllocateNonce : Bytes → Except Error AllocateNonceReq

/-- What a request draws from outside: new identifiers, the clocks of a derivation, and the outcomes of the
readiness checks. -/
structure RestFresh where
  id : UUID
  keyID : UUID
  derivation : Fresh
  checks : List (String × Bool) := []
  deriving DecidableEq

structure RestServer (F : Type) : Type 1 where
  lib : RestLib
  /-- The router of `go-chi` with the routes of `NewRouter`. -/
  route : HttpRequest → Routed
  services : Manager F
  hasNonce : Bool := true

def writeError (status : ℕ) (err : Error) : Proc HttpResponse := return ⟨status, .error err.message⟩

def readyz (checks : List (String × Bool)) : HttpResponse :=
  let results := checks.map (fun c => (c.1, if c.2 then "ok" else "down"))
  let failed := checks.countP (fun c => !c.2)
  if failed = checks.length ∧ checks.length > 0 then ⟨503, .readiness "not ready" results⟩
  else if failed > 0 then ⟨200, .readiness "degraded" results⟩
  else ⟨200, .readiness "ready" results⟩

namespace RestServer

variable {F : Type} (srv : RestServer F)

def withID (id : String) (h : UUID → Proc HttpResponse) : Proc HttpResponse :=
  match srv.lib.parseUUID id with
  | .error err => writeError 400 err
  | .ok id => h id

def createWallet (fresh : RestFresh) (r : HttpRequest) : Proc HttpResponse := do
  match srv.lib.decodeCreateWallet r.body with
  | .error err => writeError 400 err
  | .ok req =>
    match ← srv.services.wallets.create fresh.id fresh.keyID
      ⟨chainOf req.chain, req.type, req.label, req.keyID⟩ with
    | .error err => writeError 400 err
    | .ok w => return ⟨201, .wallet w⟩

def getWallet (id : String) : Proc HttpResponse :=
  srv.withID id fun id => do
    match ← WalletService.get id with
    | .error err =>
      if err.is = some .errNoRows then writeError 404 ⟨"wallet not found", none⟩ else writeError 500 err
    | .ok w => return ⟨200, .wallet w⟩

def listWallets (r : HttpRequest) : Proc HttpResponse := do
  match ← store (.listWallets (r.get "chain") (r.get "type") (r.get "state")) with
  | .error err => writeError 500 err
  | .ok l => return ⟨200, .wallets l⟩

def derived (status : ℕ) : Except Error Address → Proc HttpResponse
  | .error err => if err.is = some .errWalletRetired then writeError 409 err else writeError 500 err
  | .ok a => return ⟨status, .address a⟩

def getAddresses (fresh : RestFresh) (id : String) (r : HttpRequest) : Proc HttpResponse :=
  srv.withID id fun id => do
    if r.get "derive" = "true" then
      derived 200 (← srv.services.rotation.deriveAddress id false fresh.derivation)
    else match ← store (.listAddresses id) with
      | .error err => writeError 500 err
      | .ok l => return ⟨200, .addresses l⟩

def deriveAddress (fresh : RestFresh) (id : String) : Proc HttpResponse :=
  srv.withID id fun id => do
    derived 201 (← srv.services.rotation.deriveAddress id true fresh.derivation)

def getBalances (id : String) : Proc HttpResponse :=
  srv.withID id fun id => do
    match ← store (.listBalances id) with
    | .error err => writeError 500 err
    | .ok l => return ⟨200, .balances (l.map (fun b => ⟨b.asset, b.confirmed, b.pending, b.locked⟩))⟩

def createFundingRequest (fresh : RestFresh) (id : String) (r : HttpRequest) : Proc HttpResponse :=
  srv.withID id fun id => do
    match srv.lib.decodeFunding r.body with
    | .error err => writeError 400 err
    | .ok req =>
      match ← srv.services.funding.manualRequest fresh.id id req.asset req.amount req.reason with
      | .error err =>
        if err.is = some .errDuplicateFunding then writeError 409 err
        else if err.is = some .errWalletRetired then writeError 409 err
        else writeError 500 err
      | .ok () => return ⟨201, .requested⟩

def createWithdrawal (fresh : RestFresh) (r : HttpRequest) : Proc HttpResponse := do
  match srv.lib.decodeCreateWithdrawal r.body with
  | .error err => writeError 400 err
  | .ok req =>
    match srv.lib.parseUUID req.walletID with
    | .error _ => writeError 400 ⟨"invalid wallet_id", none⟩
    | .ok walletID =>
      match ← srv.services.withdrawals.create fresh.id ⟨walletID, req.toAddress, req.asset, req.amount⟩ with
      | .error err => if err.is = some .errDuplicateWithdrawal then writeError 409 err else writeError 500 err
      | .ok w => return ⟨201, .withdrawal w⟩

def getWithdrawal (id : String) : Proc HttpResponse :=
  srv.withID id fun id => do
    match ← store (.getWithdrawal id) with
    | .error err =>
      if err.is = some .errNoRows then writeError 404 ⟨"withdrawal not found", none⟩ else writeError 500 err
    | .ok w => return ⟨200, .withdrawal w⟩

def listWithdrawals (r : HttpRequest) : Proc HttpResponse := do
  if r.get "wallet_id" = "" then list UUID.nil
  else match srv.lib.parseUUID (r.get "wallet_id") with
    | .error _ => writeError 400 ⟨"invalid wallet_id", none⟩
    | .ok walletID => list walletID
where
  list (walletID : UUID) : Proc HttpResponse := do
    match ← store (.listWithdrawals walletID (r.get "state")) with
    | .error err => writeError 500 err
    | .ok l => return ⟨200, .withdrawals l⟩

def listFundingRequests (id : String) (r : HttpRequest) : Proc HttpResponse :=
  srv.withID id fun id => do
    match ← store (.listFundingRequests id (r.get "state")) with
    | .error err => writeError 500 err
    | .ok l => return ⟨200, .fundingRequests l⟩

def allocateNonce (id : String) (r : HttpRequest) : Proc HttpResponse :=
  srv.withID id fun id => do
    if srv.hasNonce = false then writeError 503 ⟨"nonce service unavailable", none⟩
    else match srv.lib.decodeAllocateNonce r.body with
      | .error err => writeError 400 err
      | .ok req =>
        if req.chain = "" then writeError 400 ⟨"chain is required", none⟩
        else match ← reserveNonce id req.chain with
          | .error err => writeError 500 err
          | .ok n => return ⟨200, .nonce n⟩

def handle (fresh : RestFresh) (r : HttpRequest) (id : String) : Endpoint → Proc HttpResponse
  | .healthz => return ⟨200, .health⟩
  | .readyz => return readyz fresh.checks
  | .createWallet => srv.createWallet fresh r
  | .getWallet => srv.getWallet id
  | .listWallets => listWallets r
  | .getAddresses => srv.getAddresses fresh id r
  | .deriveAddress => srv.deriveAddress fresh id
  | .getBalances => srv.getBalances id
  | .createFundingRequest => srv.createFundingRequest fresh id r
  | .listFundingRequests => srv.listFundingRequests id r
  | .allocateNonce => srv.allocateNonce id r
  | .createWithdrawal => srv.createWithdrawal fresh r
  | .listWithdrawals => srv.listWithdrawals r
  | .getWithdrawal => srv.getWithdrawal id

/-- The router behind the middleware. -/
def dispatch (fresh : RestFresh) (r : HttpRequest) : Proc HttpResponse :=
  match srv.route r with
  | .found endpoint id => srv.handle fresh r id endpoint
  | .methodNotAllowed => return ⟨405, .text ""⟩
  | .notFound => return ⟨404, .text "404 page not found\n"⟩

/-- `NewRouter`, with the secret that it has read from its environment. -/
def serve (tokens : TokenLib) (secret : String) (bypass : Bool) (fresh : RestFresh) (r : HttpRequest) :
    Proc HttpResponse :=
  middleware tokens secret bypass (srv.dispatch fresh) r

end RestServer

end WalletManager
