import TenantAuth.Credential.Store
import TenantAuth.Session.Token
import TenantAuth.Tenant.Directory

/-!
# Password login

A login looks the account up, refuses a disabled or locked one, counts a wrong password (answered as
a locked account when this attempt reached the limit, else as invalid credentials), clears the
counter on a right one while the row is unlocked, checks the tenant, and signs the session token.
Failures of the counter bookkeeping never change the answer, and a tenant lookup that cannot reach
the store counts as an unknown tenant.
-/

namespace TenantAuth

/-- What a successful login hands back. -/
structure LoginResult where
  /-- The signed session token. -/
  token : String
  /-- Seconds until the token expires. -/
  expiresIn : Int
  /-- The account as it was read at lookup, before this login's writes. -/
  user : Account
  /-- The tenant the session acts in. -/
  tenantId : Datum
  /-- That tenant's configuration. -/
  tenant : TenantConfig

/-- Password logins against a credential store and a tenant directory. -/
structure Authenticator where
  /-- Where tenants are looked up. -/
  tenants : TenantDirectory
  /-- Signs the session tokens. -/
  tokens : TokenService
  /-- Failed attempts in a row that lock an account. -/
  maxFailedAttempts : Int := 3
  /-- The bcrypt cost stored hashes are brought up to. -/
  bcryptRounds : Datum := .int 12
  /-- The salt of the next new hash, drawn at random; nothing here depends on its value. -/
  salt : Vector UInt8 16 := Vector.replicate 16 0

namespace Authenticator

/-- The session identity of an account acting in a tenant, checked as a session identity
document. -/
def identity (user : Account) (tenantId : Datum) : Except Fault Identity :=
  let doc := Datum.record [("user_id", .str user.id), ("tenant_id", tenantId),
    ("username", .str user.username), ("name", .str user.name), ("role", .str user.role.value),
    ("linked_patient_id", Datum.ofOption user.linkedPatientId)]
  match Identity.read doc with
  | .ok i => .ok i
  | .error issues => .error (.invalid issues)

/-- Counts a wrong password and gives the refusal that goes with it. -/
def refuse (auth : Authenticator) (users : CredentialStore) (user : Account) (now : Int) :
    CredentialStore × Fault :=
  match users.recordFailed user.id auth.maxFailedAttempts now with
  | .ok (some (_, true), users') => (users', .rejected .accountLocked)
  | .ok (_, users') => (users', .rejected .invalidCredentials)
  | .error _ => (users, .rejected .invalidCredentials)

/-- Clears the counter after a right password, with a fresh hash when the stored one is
cheaper than the configured cost. Fails when the row is locked by now. -/
def accept (auth : Authenticator) (users : CredentialStore) (user : Account) (password : Datum)
    (now : Int) : CredentialStore × Except Fault Unit :=
  let newHash : Except Fault (Option String) := do
    if ← Password.needsRehash (.str user.passwordHash) auth.bcryptRounds then
      return some (← Password.hash auth.salt password auth.bcryptRounds)
    else return none
  match newHash with
  | .error f => (users, .error f)
  | .ok h =>
    match users.recordSuccess user.id now h with
    | .ok (true, users') => (users', .ok ())
    | .ok (false, users') => (users', .error (.rejected .accountLocked))
    | .error f => if f.isStore then (users, .ok ()) else (users, .error f)

/-- Whether a tenant may be logged into: known and active. A store that cannot be read
counts as a no. -/
def tenantOpen (auth : Authenticator) (tenantId : Datum) : Except Fault Bool :=
  match auth.tenants.exists? tenantId with
  | .ok b => .ok b
  | .error f => if f.isStore then .ok false else .error f

/-- The token and configuration for an admitted account in a requested tenant. -/
def issue (auth : Authenticator) (user : Account) (tenantId : Datum) (now : Int) :
    Except Fault LoginResult := do
  if user.role != .systemAdmin then
    if !(← auth.tenantOpen tenantId) then throw (.rejected .tenantNotFound)
  let effective := Account.effectiveTenant user.role (Datum.ofOption user.tenantId) tenantId
  let token ← auth.tokens.issue (← identity user effective) now
  let tenant ← auth.tenants.withDefaults effective
  return { token, expiresIn := sessionLifetime, user, tenantId := effective, tenant }

/-- Logs in with a tenant, a login name and a password at a time; gives the store after the
login's bookkeeping with the answer. -/
def login (auth : Authenticator) (users : CredentialStore) (tenantId : Datum)
    (username : String) (password : Datum) (now : Int) :
    CredentialStore × Except Fault LoginResult :=
  match users.find? tenantId username with
  | .error f => (users, .error f)
  | .ok none => (users, .error (.rejected .invalidCredentials))
  | .ok (some user) =>
    if !user.isActive then (users, .error (.rejected .accountDisabled))
    else if user.isLocked then (users, .error (.rejected .accountLocked))
    else
      match Password.verify password (.str user.passwordHash) with
      | .error f => (users, .error f)
      | .ok false =>
        let (users', f) := auth.refuse users user now
        (users', .error f)
      | .ok true =>
        match auth.accept users user password now with
        | (users', .error f) => (users', .error f)
        | (users', .ok ()) => (users', auth.issue user tenantId now)

/-- An unknown login name is refused without touching the store. -/
theorem login_unknown (auth : Authenticator) (users : CredentialStore) (tenantId : Datum)
    (username : String) (password : Datum) (now : Int)
    (h : users.find? tenantId username = .ok none) :
    auth.login users tenantId username password now =
      (users, .error (.rejected .invalidCredentials)) := by
  simp [login, h]

end Authenticator

end TenantAuth
