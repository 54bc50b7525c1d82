import TenantAuth.Credential.Login
import TenantAuth.Credential.LoginRequest
import TenantAuth.Access.Pipeline
import TenantAuth.Access.Policy
import TenantAuth.Settings
import TenantAuth.Calendar.Moment
import TenantAuth.Http.Cors
import TenantAuth.Http.Router

/-!
# The portal service

The service behind the portal's HTTP interface: password login, the caller's identity, tenant
configuration, the tenant list and unlocking accounts. Each protected endpoint runs the access
stages and then acts for the tenant named in `X-Tenant-ID`, or else the caller's own. An endpoint
ends with a JSON document or with a fault, an unfit body or an unreadable one.
-/

namespace TenantAuth

namespace Portal

/-- The version the service reports. -/
def version : String := "0.1.0"

/-- The portal service and the state it keeps between requests. -/
structure Service where
  /-- The settings it was built from. -/
  settings : Settings
  /-- The credential store. -/
  users : CredentialStore
  /-- Password logins, over the tenant directory and the token service. -/
  authenticator : Authenticator
  /-- The role allow-lists of protected operations. -/
  policy : AccessPolicy
  /-- The delegated identity verifier. -/
  verifier : Delegated.Verifier
  /-- What the identity provider answers for each verification strategy. -/
  identityProvider : String → Delegated.Outcome

/-- The methods browsers may use across origins. -/
def corsMethods : List String := ["GET", "POST", "DELETE", "PUT", "PATCH"]

/-- The request headers browsers may send across origins. -/
def corsHeaders : List String := ["Authorization", "Content-Type", "X-Tenant-ID", "X-Request-ID"]

/-- How a request can end other than with a document. -/
inductive Failure where
  /-- A fault of the handler: auth refusals are shown, any other fault is a server error. -/
  | fault (f : Fault)
  /-- The request does not fit the endpoint. -/
  | unprocessable (issues : List Issue)
  /-- The body cannot be read. -/
  | unreadableBody

/-- What handling a request gave: the service after it, the document or failure, and the
identity provider strategies it called. -/
structure Exchange where
  /-- The service after the request. -/
  service : Service
  /-- The answer. -/
  result : Except Failure Datum
  /-- The strategies called while verifying a delegated token. -/
  called : List String := []

/-- The endpoints of the service. -/
inductive Endpoint where
  | login
  | me
  | unlockUser
  | tenantConfig
  | listTenants
  | health
  | root

/-- The routes of the service. -/
def routes : List (Http.Route Endpoint) :=
  [⟨Http.template "/api/v1/auth/login", ["POST"], .login⟩,
   ⟨Http.template "/api/v1/auth/me", ["GET"], .me⟩,
   ⟨Http.template "/api/v1/admin/users/\x7buser_id\x7d/unlock", ["POST"], .unlockUser⟩,
   ⟨Http.template "/api/v1/tenant/config", ["GET"], .tenantConfig⟩,
   ⟨Http.template "/api/v1/system/tenants", ["GET"], .listTenants⟩,
   ⟨Http.template "/health", ["GET"], .health⟩,
   ⟨Http.template "/", ["GET"], .root⟩]

namespace Service

/-- Builds the service: the tenant directory over the table and the fallback file, the token
service with the signing secret, the delegated verifier and the access policy, in that
order. -/
def create (settings : Settings) (tenantRecords : List TenantRecord)
    (tenantFile policyFile : Option String) (identityProvider : String → Delegated.Outcome)
    (users : CredentialStore) : Except Fault Service := do
  let tenants ← TenantDirectory.make tenantRecords tenantFile settings.assetBaseUrl
  let tokens ← TokenService.make (← settings.signingSecret) settings.jwtAlgorithm
    (.inl settings.tokenClockSkewSeconds)
  let verifier ← settings.verifier none
  let policy ← AccessPolicy.ofFile policyFile
  let authenticator : Authenticator :=
    { tenants := tenants, tokens := tokens,
      maxFailedAttempts := settings.maxFailedLoginAttempts,
      bcryptRounds := .int settings.bcryptRounds }
  return { settings, users, policy, verifier, identityProvider, authenticator }

/-- The cross-origin rules of the service. -/
def cors (s : Service) : Http.CorsPolicy :=
  ⟨s.settings.allowedOrigins, corsMethods, corsHeaders, true, 600⟩

end Service

/-- The bearer token of an `Authorization` value: the part after the first space, stripped,
when the scheme is `Bearer` in any case and both parts are present. -/
def bearerToken : Option String → Option String
  | none => none
  | some value =>
    match value.splitOn " " with
    | scheme :: rest@(_ :: _) =>
      let param := Blank.strip (" ".intercalate rest)
      if scheme.isEmpty || param.isEmpty || Http.asciiLower scheme != "bearer" then none
      else some param
    | _ => none

namespace Service

/-- Finds the caller of a request at a time, with the strategies the delegated verifier
called. Where the pipeline consults the delegated verifier and it fails, the request fails
with its fault. -/
def authenticate (s : Service) (req : Http.Request) (now : Int) :
    Except Fault Principal × List String :=
  let token := Datum.ofOption (bearerToken (req.header? "authorization"))
  match s.verifier.verify Delegated.Verifier.planner s.identityProvider token with
  | .ok report =>
    let (r, ran) := Access.authenticate s.authenticator.tokens now (some fun _ => report) token
    (r, (ran.map (·.called)).getD [])
  | .error f =>
    let (r, ran) := Access.authenticate s.authenticator.tokens now (some fun _ => {}) token
    (if ran.isSome then .error f else r, [])

/-- Runs the access stages of a protected operation. -/
def access (s : Service) (req : Http.Request) (now : Int) (operation : String)
    (tenantScoped : Bool) : Except Fault AccessContext × List String :=
  let (principal, called) := s.authenticate req now
  let header := Datum.ofOption (req.header? "x-tenant-id")
  let r := principal.bind fun p =>
    (Access.authorize p (s.policy.allowedRoles (.str operation)) header tenantScoped none).mapError
      (·.2)
  (r, called)

end Service

/-- Whether a body of a content type is read as JSON: when no type is given, or the type is
`application/json` or `application/...+json`. A type that is not `main/sub` counts as
plain text. -/
def isJsonType : Option String → Bool
  | none => true
  | some value =>
    let ctype := Http.asciiLower (Blank.strip ((value.splitOn ";").headD ""))
    match ctype.splitOn "/" with
    | [main, sub] => main == "application" && (sub == "json" || sub.endsWith "+json")
    | _ => false

/-- The byte order mark a UTF-8 body may start with. -/
def byteOrderMark : Char := Char.ofNat 0xFEFF

/-- The value of a request body: none for an empty body, the JSON value of a JSON body, the
text of any other. -/
def bodyValue (req : Http.Request) : Except Failure Datum :=
  if req.body.isEmpty then .ok .none
  else if isJsonType (req.header? "content-type") then
    let cs := req.body.toList
    let text := String.ofList (if cs.head? == some byteOrderMark then cs.drop 1 else cs)
    match Json.decode text with
    | .ok v => .ok v
    | .error (.malformed m remaining) =>
      .error (.unprocessable [⟨.jsonInvalid m, [.index (text.length - remaining)], .dict []⟩])
    | .error .tooManyDigits | .error .tooDeep => .error .unreadableBody
  else .ok (.str req.body)

/-- The login request in a body. -/
def loginRequest (req : Http.Request) : Except Failure LoginRequest := do
  match ← bodyValue req with
  | .none => throw (.unprocessable [⟨.missing, [], .none⟩])
  | v => (LoginRequest.read .modelAttributesType v).mapError .unprocessable

/-- The answer to a successful login. -/
def loginAnswer (r : LoginResult) : Datum :=
  Datum.record [("success", .bool true), ("token", .str r.token), ("tokenType", .str "bearer"),
    ("expiresIn", .int r.expiresIn),
    ("user", Datum.record [("id", .str r.user.id), ("tenantId", r.tenantId),
      ("username", .str r.user.username), ("name", .str r.user.name),
      ("role", .str r.user.role.value),
      ("linkedPatientId", Datum.ofOption r.user.linkedPatientId)]),
    ("tenant", Datum.record [("id", .str r.tenant.id), ("name", .str r.tenant.name),
      ("branding", r.tenant.branding.toDatum)])]

/-- The caller as the identity endpoint shows it. -/
def principalAnswer : Principal → Except Fault Datum
  | .service email => .ok <| Datum.record [("kind", .str "service"), ("userId", .none),
      ("tenantId", .none), ("username", .none), ("name", .none), ("role", .none),
      ("linkedPatientId", .none), ("email", .str email), ("expiresAt", .none)]
  | .user c =>
    match Timestamp.isoUtc? c.exp with
    | none => .error .overflow
    | some expires => .ok <| Datum.record [("kind", .str "user"), ("userId", .str c.userId),
        ("tenantId", Datum.ofOption c.tenantId), ("username", .str c.username),
        ("name", .str c.name), ("role", .str c.role.value),
        ("linkedPatientId", Datum.ofOption c.linkedPatientId), ("email", .none),
        ("expiresAt", .str expires)]

/-- An account after unlocking, as the unlock endpoint shows it. -/
def unlockAnswer (a : Account) : Datum :=
  Datum.record [("id", .str a.id), ("tenantId", Datum.ofOption a.tenantId),
    ("username", .str a.username), ("isLocked", .bool a.isLocked),
    ("failedLoginAttempts", .int a.failedLoginAttempts)]

namespace Service

/-- An exchange that leaves the service as it was. -/
def answer (s : Service) (r : Except Fault Datum) (called : List String := []) : Exchange :=
  ⟨s, r.mapError .fault, called⟩

/-- Password login. -/
def login (s : Service) (req : Http.Request) (now : Int) : Exchange :=
  match loginRequest req with
  | .error f => ⟨s, .error f, []⟩
  | .ok body =>
    let (users, r) := s.authenticator.login s.users (.str body.tenantId) body.username
      (.str body.password) now
    ⟨{ s with users }, (r.map loginAnswer).mapError .fault, []⟩

/-- The caller's identity. -/
def me (s : Service) (req : Http.Request) (now : Int) : Exchange :=
  let (ctx, called) := s.access req now "auth:me" false
  s.answer (do principalAnswer (← ctx).principal) called

/-- The configuration of the tenant the request acts for. -/
def tenantConfig (s : Service) (req : Http.Request) (now : Int) : Exchange :=
  let (ctx, called) := s.access req now "tenant:read_config" true
  s.answer (do
    let ctx ← ctx
    if !ctx.tenantId.truthy then throw (.rejected .missingTenantHeader)
    return (← s.authenticator.tenants.withDefaults ctx.tenantId).toDatum) called

/-- Every known tenant. -/
def listTenants (s : Service) (req : Http.Request) (now : Int) : Exchange :=
  let (ctx, called) := s.access req now "system:list_tenants" false
  s.answer (do
    let _ ← ctx
    let configs ← s.authenticator.tenants.list
    return Datum.record [("tenants", .list (configs.map TenantConfig.toDatum)),
      ("total", .int configs.length)]) called

/-- Unlocks an account. A tenant administrator reaches only accounts of the tenant the
request acts for; an account elsewhere is reported as not found. -/
def unlockUser (s : Service) (req : Http.Request) (now : Int) (userId : String) : Exchange :=
  let (ctx, called) := s.access req now "users:unlock" true
  let notFound : Except Fault (Option Account × CredentialStore) := .error (.rejected .userNotFound)
  let r : Except Fault (Option Account × CredentialStore) := do
    let ctx ← ctx
    let some target ← s.users.get? userId | notFound
    let (actor, outside) := match ctx.principal with
      | .service email => (email, false)
      | .user c =>
        (c.userId, c.role != Role.systemAdmin && target.tenantId != ctx.tenantId.asString?)
    if outside then throw (.rejected .userNotFound)
    s.users.unlock userId (some actor) now
  match r with
  | .ok (some a, users) => ⟨{ s with users }, .ok (unlockAnswer a), called⟩
  | .ok (none, _) => s.answer (.error (.rejected .userNotFound)) called
  | .error f => s.answer (.error f) called

/-- Runs an endpoint with the path parameters of its route. -/
def run (s : Service) (req : Http.Request) (now : Int) (params : List (String × String)) :
    Endpoint → Exchange
  | .login => s.login req now
  | .me => s.me req now
  | .unlockUser => s.unlockUser req now ((params.lookup "user_id").getD "")
  | .tenantConfig => s.tenantConfig req now
  | .listTenants => s.listTenants req now
  | .health => s.answer (.ok (Datum.record [("status", .str "healthy"), ("version", .str version)]))
  | .root => s.answer (.ok (Datum.record [("name", .str "Discharge Portal API"),
      ("version", .str version), ("docs", .str "/docs"), ("health", .str "/health")]))

end Service

theorem bearerToken_none : bearerToken none = none := rfl

end Portal

end TenantAuth
