import TenantAuth.Datum.Json
import TenantAuth.Delegated.Verifier
import TenantAuth.Schema.Lax
import TenantAuth.Text.Case

/-!
# Service settings

The configuration the service starts from, with its defaults and bounds; unknown settings are
refused. Two values are derived: the signing secret (without one, production refuses to start and
other environments use a development secret) and the client id of delegated identity tokens (else
the service account key file's `client_id`).
-/

namespace TenantAuth

/-- The service configuration. -/
structure Settings where
  /-- The deployment environment. -/
  environment : String := "development"
  /-- The signing secret of session tokens. -/
  jwtSecret : String := ""
  /-- The signing algorithm of session tokens. -/
  jwtAlgorithm : String := "HS256"
  /-- The tolerance on token times, in seconds. -/
  tokenClockSkewSeconds : Int := 30
  /-- The bcrypt cost of new password hashes. -/
  bcryptRounds : Int := 12
  /-- Failed logins before an account locks. -/
  maxFailedLoginAttempts : Int := 3
  /-- Where the credential store lives. -/
  databaseUrl : String := "sqlite:///./discharge_portal.db"
  /-- The tenant configuration file. -/
  tenantConfigPath : String := "config/tenants.yaml"
  /-- The access policy file. -/
  policyPath : String := "gateway/policies.yaml"
  /-- The base URL of tenant logos and icons. -/
  assetBaseUrl : String := "https://storage.googleapis.com/discharge-portal-assets"
  /-- The expected audience of delegated identity tokens. -/
  googleClientId : String := ""
  /-- The service account key file. -/
  serviceAccountPath : String := ""
  /-- The identity provider's token-information endpoint. -/
  tokeninfoUrl : String := "https://oauth2.googleapis.com/tokeninfo"
  /-- The issuers of delegated identity tokens. -/
  delegatedIssuers : List String := Delegated.defaultIssuers
  /-- Host suffixes of the platform's own services. -/
  serviceAudienceSuffixes : List String := [".run.app"]
  /-- The time budget of identity provider calls, in seconds. -/
  delegatedTimeoutSeconds : Float := 5.0
  /-- The origins allowed to call the service from a browser. -/
  allowedOrigins : List String := ["http://localhost:3000"]
  /-- The least level of log events written. -/
  logLevel : String := "INFO"
  /-- Whether log events are written as JSON. -/
  logJson : Bool := false

namespace Settings

/-- The names of the settings, in order. -/
def names : List String :=
  ["ENVIRONMENT", "JWT_SECRET", "JWT_ALGORITHM", "TOKEN_CLOCK_SKEW_SECONDS", "BCRYPT_ROUNDS",
   "MAX_FAILED_LOGIN_ATTEMPTS", "DATABASE_URL", "TENANT_CONFIG_PATH", "POLICY_PATH",
   "ASSET_BASE_URL", "GOOGLE_CLIENT_ID", "SERVICE_ACCOUNT_PATH", "TOKENINFO_URL",
   "DELEGATED_ISSUERS", "SERVICE_AUDIENCE_SUFFIXES", "DELEGATED_TIMEOUT_SECONDS",
   "ALLOWED_ORIGINS", "LOG_LEVEL", "LOG_JSON"]

/-- The secret used outside production when none is configured. -/
def developmentSecret : String := "dev-only-discharge-portal-secret-change-me"

/-- An integer at least a bound. -/
def atLeast (lo : Int) : Datum → Except IssueKind Int :=
  Checked.bounded Lax.integer (lo ≤ ·) (.greaterThanEqual (.int lo))

/-- An integer within bounds. -/
def within (lo hi : Int) (d : Datum) : Except IssueKind Int := do
  let n ← atLeast lo d
  if n ≤ hi then pure n else throw (.lessThanEqual (.int hi))

/-- A list of texts. -/
def texts : Datum → Checked (List String) := Checked.items Lax.text

/-- Reads settings from named values. -/
def read (doc : Datum) : Checked Settings :=
  match doc with
  | .dict es =>
    let d : Settings := {}
    let str (name : String) (dflt : String) := Checked.optional es name dflt Lax.text
    let r := (str "ENVIRONMENT" d.environment).and <|
      (str "JWT_SECRET" d.jwtSecret).and <|
      (str "JWT_ALGORITHM" d.jwtAlgorithm).and <|
      (Checked.optional es "TOKEN_CLOCK_SKEW_SECONDS" d.tokenClockSkewSeconds (within 0 60)).and <|
      (Checked.optional es "BCRYPT_ROUNDS" d.bcryptRounds (within 10 16)).and <|
      (Checked.optional es "MAX_FAILED_LOGIN_ATTEMPTS" d.maxFailedLoginAttempts (atLeast 1)).and <|
      (str "DATABASE_URL" d.databaseUrl).and <|
      (str "TENANT_CONFIG_PATH" d.tenantConfigPath).and <|
      (str "POLICY_PATH" d.policyPath).and <|
      (str "ASSET_BASE_URL" d.assetBaseUrl).and <|
      (str "GOOGLE_CLIENT_ID" d.googleClientId).and <|
      (str "SERVICE_ACCOUNT_PATH" d.serviceAccountPath).and <|
      (str "TOKENINFO_URL" d.tokeninfoUrl).and <|
      (Checked.optionalWith es "DELEGATED_ISSUERS" d.delegatedIssuers texts).and <|
      (Checked.optionalWith es "SERVICE_AUDIENCE_SUFFIXES" d.serviceAudienceSuffixes texts).and <|
      (Checked.optional es "DELEGATED_TIMEOUT_SECONDS" d.delegatedTimeoutSeconds
        (Checked.bounded Lax.number (· > 0) (.greaterThan (.int 0)))).and <|
      (Checked.optionalWith es "ALLOWED_ORIGINS" d.allowedOrigins texts).and <|
      (str "LOG_LEVEL" d.logLevel).and <|
      Checked.optional es "LOG_JSON" d.logJson Lax.boolean
    (r.closed (Checked.extras es names)).map
      fun (env, secret, alg, skew, rounds, attempts, db, tenants, policy, assets, client, key,
          info, issuers, suffixes, timeout, origins, level, json) =>
        ⟨env, secret, alg, skew, rounds, attempts, db, tenants, policy, assets, client, key, info,
          issuers, suffixes, timeout, origins, level, json⟩
  | _ => .error [⟨.modelType "Settings", [], doc⟩]

/-- Whether the service runs in production. -/
def isProduction (s : Settings) : Bool := Case.lower s.environment == "production"

/-- The signing secret of session tokens. -/
def signingSecret (s : Settings) : Except Fault String :=
  if !s.jwtSecret.isEmpty then .ok s.jwtSecret
  else if s.isProduction then .error (.misconfigured "JWT_SECRET must be set when ENVIRONMENT=production")
  else .ok developmentSecret

/-- The expected audience of delegated identity tokens, given the text of the service account
key file when it exists. An unreadable key file gives none; a key file that is JSON but not an
object has no fields to read, and one that nests too deep for the reader is a fault. -/
def clientId (s : Settings) (keyFile : Option String) : Except Fault Datum :=
  if !s.googleClientId.isEmpty then .ok (.str s.googleClientId)
  else if s.serviceAccountPath.isEmpty then .ok .none
  else match keyFile with
    | none => .ok .none
    | some text => match Json.decode text with
      | .error .tooDeep => .error .tooDeep
      | .error _ => .ok .none
      | .ok (.dict es) =>
        let v := (Datum.lookup es (.str "client_id")).getD .none
        .ok (if v.truthy then v else .none)
      | .ok _ => .error .noAttribute

/-- The delegated identity verifier these settings describe. -/
def verifier (s : Settings) (keyFile : Option String) : Except Fault Delegated.Verifier := do
  pure { clientId := ← s.clientId keyFile, issuers := s.delegatedIssuers.map .str,
         suffixes := .list (s.serviceAudienceSuffixes.map .str), tokeninfoUrl := s.tokeninfoUrl,
         timeoutSeconds := s.delegatedTimeoutSeconds, clockSkewSeconds := s.tokenClockSkewSeconds }

end Settings

end TenantAuth
