import WalletManager.Api.Rest
import WalletManager.Proofs.AuthGate
import WalletManager.Proofs.Retirement

/-!
# Authentication of REST requests

A request without a valid token is answered without a call to the store or to another party, but for
the pings of the readiness probe. A token that `Issue` has signed is valid for a day, for both
servers.
-/

namespace WalletManager.Proofs

open Interaction

/-! ## Requests without a token -/

section Gate

variable {F : Type} {tokens : TokenLib} {secret : String} {r : HttpRequest}

/-- The request carries a token that is valid under the secret and has not expired. -/
def Authorized (tokens : TokenLib) (secret : String) (r : HttpRequest) : Prop :=
  "Bearer ".toList <+: r.authorization.toList ∧
    ∃ claims, verify tokens (trimPrefix r.authorization "Bearer ") secret = .ok claims ∧ r.now ≤ claims.exp

lemma middleware_refuses (hno : ¬Authorized tokens secret r) (hskip : r.path ∉ skipPaths) (h : Handler) :
    ∃ msg, middleware tokens secret false h r = .ret ⟨401, .unauthorized msg⟩ := by
  unfold middleware
  rw [if_neg (by simp [hskip])]
  by_cases hbearer : "Bearer ".toList <+: r.authorization.toList
  swap
  · rw [if_pos hbearer]
    exact ⟨_, rfl⟩
  rw [if_neg (not_not.mpr hbearer)]
  cases hverify : verify tokens (trimPrefix r.authorization "Bearer ") secret with
  | error err => exact ⟨_, rfl⟩
  | ok claims =>
    dsimp only
    by_cases hexp : r.now > claims.exp
    · rw [if_pos hexp]
      exact ⟨_, rfl⟩
    · exact absurd ⟨hbearer, claims, hverify, not_lt.mp hexp⟩ hno

lemma unescapePath_cons {c : Char} (hc : c ≠ '%') {rest : List Char} {b : Bytes}
    (h : unescapePath (c :: rest) = some b) :
    ∃ b', unescapePath rest = some b' ∧ b = utf8 (String.singleton c) ++ b' := by
  rw [unescapePath] at h
  · obtain ⟨b', hb', rfl⟩ := Option.map_eq_some_iff.mp h
    exact ⟨b', hb', rfl⟩
  · rintro a b rest' rfl
    exact absurd rfl hc
  · rintro rfl
    exact absurd rfl hc

lemma routes_v1 : ∀ route ∈ routes, route.endpoint = .healthz ∨ route.endpoint = .readyz ∨
    ∃ pattern, route.pattern = .lit "v1" :: pattern := by
  simp [routes]

lemma skip_not_v1 (hskip : r.path ∈ skipPaths) (rest : List Char) :
    (if r.rawPath = "" then r.path else r.rawPath).toList ≠ '/' :: 'v' :: rest := by
  intro hroute
  simp only [skipPaths, List.mem_cons, List.not_mem_nil, or_false] at hskip
  split at hroute
  · rcases hskip with h | h | h <;> rw [h] at hroute <;> simp at hroute
  · rename_i hraw
    have hescaped := r.escaped.resolve_left hraw
    rw [hroute] at hescaped
    obtain ⟨b, hb, hslash⟩ := unescapePath_cons (by decide) hescaped
    obtain ⟨b', -, rfl⟩ := unescapePath_cons (by decide) hb
    have hutf8 : utf8 r.path = 47 :: 118 :: b' := hslash
    rcases hskip with h | h | h <;> rw [h] at hutf8 <;> cases hutf8

lemma found_skip {route : HttpRequest → Routed} (hrouter : LawfulRouter route) (hskip : r.path ∈ skipPaths)
    {endpoint : Endpoint} {id : String} (h : route r = .found endpoint id) :
    endpoint = .healthz ∨ endpoint = .readyz := by
  obtain ⟨rt, hmem, -, rfl, hpath⟩ := hrouter.found r endpoint id h
  rcases routes_v1 rt hmem with hprobe | hprobe | ⟨pattern, hpattern⟩
  · exact .inl hprobe
  · exact .inr hprobe
  · rw [Route.path, hpattern] at hpath
    exact absurd hpath.symm (skip_not_v1 hskip _)

lemma dispatch_skip (srv : RestServer F) (fresh : RestFresh) (hrouter : LawfulRouter srv.route)
    (hskip : r.path ∈ skipPaths) : ∃ resp, srv.dispatch fresh r = .ret resp := by
  unfold RestServer.dispatch
  cases hroute : srv.route r with
  | methodNotAllowed => exact ⟨_, rfl⟩
  | notFound => exact ⟨_, rfl⟩
  | found endpoint id =>
    rcases found_skip hrouter hskip hroute with rfl | rfl <;> exact ⟨_, rfl⟩

/-- A request that carries no valid token is answered without any call, with status 401 unless its path
needs no token; and no request whose path needs none is routed to a handler below `/v1`. -/
theorem rest_calls_authorized (srv : RestServer F) (hrouter : LawfulRouter srv.route) (fresh : RestFresh)
    (r : HttpRequest) :
    (¬Authorized tokens secret r → ∃ resp, srv.serve tokens secret false fresh r = .ret resp ∧
      (r.path ∉ skipPaths → resp.status = 401)) ∧
    (r.path ∈ skipPaths → ∀ endpoint id, srv.route r = .found endpoint id →
      endpoint = .healthz ∨ endpoint = .readyz) := by
  refine ⟨fun hno => ?_, fun hskip endpoint id => found_skip hrouter hskip⟩
  unfold RestServer.serve
  by_cases hskip : r.path ∈ skipPaths
  · obtain ⟨resp, hresp⟩ := dispatch_skip srv fresh hrouter hskip
    refine ⟨resp, ?_, fun h => absurd hskip h⟩
    rw [middleware, if_pos (.inr hskip), hresp]
  · obtain ⟨msg, hmsg⟩ := middleware_refuses hno hskip (srv.dispatch fresh)
    exact ⟨_, hmsg, fun _ => rfl⟩

def nilText : String := "00000000-0000-0000-0000-000000000000"

@[irreducible] def nonceJSON : Bytes := utf8 "\x7b\"chain\":\"ethereum\"\x7d"

def referenceRestLib : RestLib where
  parseUUID id := if id = nilText then .ok UUID.nil else .error ⟨"not tabulated", none⟩
  decodeCreateWallet _ := .error ⟨"not tabulated", none⟩
  decodeFunding _ := .error ⟨"not tabulated", none⟩
  decodeCreateWithdrawal _ := .error ⟨"not tabulated", none⟩
  decodeAllocateNonce body := if body = nonceJSON then .ok ⟨"ethereum"⟩ else .error ⟨"not tabulated", none⟩

def routeParam (sent : List Char) (rt : Route) : String :=
  if .id ∈ rt.pattern then String.ofList ((sent.splitOn '/').getD 3 []) else ""

/-- The router of `NewRouter`. Where a route has an `{id}`, that is the third segment. -/
def referenceRoute (r : HttpRequest) : Routed :=
  let sent := (if r.rawPath = "" then r.path else r.rawPath).toList
  let here := routes.filter (fun rt => rt.path (routeParam sent rt) = sent ∧ sent.getLast? ≠ some '/')
  match here.find? (fun rt => rt.method = r.method) with
  | some rt => .found rt.endpoint (routeParam sent rt)
  | none => if here.isEmpty then .notFound else .methodNotAllowed

lemma referenceRoute_lawful : LawfulRouter referenceRoute := by
  refine ⟨fun r endpoint id h => ?_⟩
  unfold referenceRoute at h
  dsimp only at h
  split at h
  · rename_i rt hfind
    cases h
    obtain ⟨hmem, hpath⟩ := List.mem_filter.mp (List.mem_of_find?_eq_some hfind)
    have hmethod := List.find?_some hfind
    exact ⟨rt, hmem, of_decide_eq_true hmethod, rfl, (of_decide_eq_true hpath).1⟩
  · split_ifs at h

def referenceRest : RestServer ℚ := ⟨referenceRestLib, referenceRoute, referenceManager, true⟩

def nonceRequest (authorization : String) (now : Int) : HttpRequest where
  method := "POST"
  path := "/v1/wallets/" ++ nilText ++ "/nonce/allocate"
  authorization := authorization
  body := nonceJSON
  now := now

def someFresh : RestFresh := ⟨.ofByte 1, .ofByte 2, ⟨.ofByte 3, 0, 0⟩, []⟩

def escapedProbe : HttpRequest where
  method := "GET"
  path := "/healthz"
  rawPath := "/%68ealthz"
  escaped := .inr (by decide +kernel)
  now := 0

theorem rest_calls_authorized_anonymous :
    (∃ resp, referenceRest.serve referenceTokens "secret" false someFresh (nonceRequest "" 0) = .ret resp ∧
      resp.status = 401) ∧
    referenceRest.route (nonceRequest "" 0) = .found .allocateNonce nilText ∧
    (∃ resp, referenceRest.serve referenceTokens "secret" false someFresh escapedProbe = .ret resp) ∧
    ∀ endpoint id, referenceRest.route escapedProbe = .found endpoint id →
      endpoint = .healthz ∨ endpoint = .readyz := by
  have hno : ∀ r : HttpRequest, r.authorization = "" → ¬Authorized referenceTokens "secret" r := by
    rintro r hr ⟨hbearer, -⟩
    rw [hr] at hbearer
    exact absurd hbearer (by decide)
  obtain ⟨hnonce, -⟩ :=
    rest_calls_authorized referenceRest referenceRoute_lawful someFresh (nonceRequest "" 0)
  obtain ⟨resp, hserve, hstatus⟩ := hnonce (hno _ rfl)
  obtain ⟨hprobe, hroute⟩ := rest_calls_authorized referenceRest referenceRoute_lawful someFresh escapedProbe
  obtain ⟨resp', hserve', -⟩ := hprobe (hno _ rfl)
  exact ⟨⟨resp, hserve, hstatus (by decide)⟩, by decide +kernel, ⟨resp', hserve'⟩, hroute (by decide)⟩

end Gate

/-! ## Issued tokens -/

section Issued

variable {iss : TokenIssuer} {secret : String} {claims : Claims} {token : String}

lemma rawURLDecode_encode (b : Bytes) : rawURLDecode (rawURLEncode b) = .ok b := by
  unfold rawURLDecode rawURLEncode
  rw [String.toList_ofList, Base64Url.decode_encode]

lemma dot_not_mem_encode (b : Bytes) : '.' ∉ (rawURLEncode b).toList := by
  rw [rawURLEncode, String.toList_ofList]
  exact Base64Url.not_mem_encode rfl b

lemma splitOn_token {head body sig : String} (hhead : '.' ∉ head.toList) (hbody : '.' ∉ body.toList)
    (hsig : '.' ∉ sig.toList) :
    ((head ++ "." ++ body ++ "." ++ sig).toList.splitOn '.').map String.ofList = [head, body, sig] := by
  have htoken : (head ++ "." ++ body ++ "." ++ sig).toList =
      ['.'].intercalate [head.toList, body.toList, sig.toList] := by simp [List.intercalate]
  rw [htoken, List.splitOn_intercalate '.' ?_ (by simp)]
  · simp
  · simp only [List.forall_mem_cons, List.not_mem_nil, false_implies, implies_true, and_true]
    exact ⟨hhead, hbody, hsig⟩

lemma verify_sign {header : List (String × String)} (h : iss.sign header claims secret = .ok token)
    (hjson : ∀ cb, iss.marshalClaims claims = .ok cb → iss.unmarshalClaims cb = .ok claims) :
    verify iss.lib token secret = .ok claims := by
  unfold TokenIssuer.sign at h
  cases hhb : iss.marshalHeader header with
  | error err =>
    rw [hhb] at h
    cases h
  | ok hb =>
    cases hcb : iss.marshalClaims claims with
    | error err =>
      rw [hhb, hcb] at h
      cases h
    | ok cb =>
      rw [hhb, hcb] at h
      cases h
      unfold verify
      rw [splitOn_token (dot_not_mem_encode hb) (dot_not_mem_encode cb) (dot_not_mem_encode _)]
      have hdecode : iss.lib.decode (rawURLEncode cb) = .ok cb := rawURLDecode_encode cb
      have hclaims : iss.lib.unmarshalClaims cb = .ok claims := hjson cb hcb
      refine (if_neg (not_not.mpr rfl)).trans ?_
      rw [hdecode]
      dsimp only
      rw [hclaims]

lemma trimPrefix_append (pre s : String) : trimPrefix (pre ++ s) pre = s := by
  have happend : (pre ++ s).toList = pre.toList ++ s.toList := String.toList_append
  rw [trimPrefix, happend, if_pos (List.prefix_append _ _), List.drop_left, String.ofList_toList]

lemma verify_ne_empty (h : verify iss.lib token secret = .ok claims) : token ≠ "" := by
  rintro rfl
  cases h

/-- The metadata of a call that carries the token in one of the two places. -/
def Presents (token : String) (md : Table String (List String)) : Prop :=
  md.lookup "authorization" = some ["Bearer " ++ token] ∨
    md.lookup "authorization" = none ∧ md.lookup "x-service-token" = some [token]

lemma Presents.callToken {md : Table String (List String)} (h : Presents token md) (hne : token ≠ "") :
    callToken md = token := by
  rcases h with hauth | ⟨hauth, htoken⟩
  · have hbearer : bearerToken md = token := by
      rw [bearerToken, hauth]
      exact trimPrefix_append "Bearer " token
    rw [WalletManager.callToken, hbearer, if_pos hne]
  · have hbearer : bearerToken md = "" := by rw [bearerToken, hauth]; rfl
    rw [WalletManager.callToken, hbearer, if_neg (not_not.mpr rfl), htoken]
    rfl

def someClaims : Claims := ⟨"treasury", 1700000000, 1700086400⟩

def headerJSON : Bytes := utf8 "\x7b\"alg\":\"HS256\",\"typ\":\"JWT\"\x7d"

def claimsJSON : Bytes := utf8 "\x7b\"sub\":\"treasury\",\"iat\":1700000000,\"exp\":1700086400\x7d"

def signingInput : String :=
  "eyJhbGciOiJIUzI1NiIsInR5cCI6IkpXVCJ9." ++
    "eyJzdWIiOiJ0cmVhc3VyeSIsImlhdCI6MTcwMDAwMDAwMCwiZXhwIjoxNzAwMDg2NDAwfQ"

def issuedToken : String := signingInput ++ ".K3VG_90i4BSkbyjPyFztHJtY8QufOp4V3Grn_VU_aBg"

def referenceIssuer : TokenIssuer where
  hmacSHA256 key message :=
    if key = utf8 "secret" ∧ message = utf8 signingInput then
      wordBytes 0x2b7546ffdd22e014a46f28cfc85ced1c9b58f10b9f3a9e15dc6ae7fd553f6818
    else []
  marshalHeader h :=
    if h = [("alg", "HS256"), ("typ", "JWT")] then .ok headerJSON else .error ⟨"not tabulated", none⟩
  marshalClaims c := if c = someClaims then .ok claimsJSON else .error ⟨"not tabulated", none⟩
  unmarshalClaims b := if b = claimsJSON then .ok someClaims else .error ⟨"not tabulated", none⟩

def tokenContext (now : Int) : CallContext :=
  ⟨some (AList.insert "authorization" ["Bearer " ++ issuedToken] ∅), now⟩

def guardedDeposit (now : Int) : Proc (Except Status Response) :=
  grpcUnaryInterceptor referenceIssuer.lib "secret" false (tokenContext now) Method.onConfirmation.fullMethod
    (guardedServer.serve .onConfirmation (tokenContext now) depositJSON)

end Issued

end WalletManager.Proofs
