import TenantAuth.Password
import TenantAuth.Role
import TenantAuth.Datum.Column

/-!
# Accounts

A user account as the credential store holds it: identity, role, the bcrypt hash of the password,
the lock state with its failed-attempt counter, and the times and actors of its creation and last
change. Times are seconds since the epoch, and only system administrators have no tenant. An account
is made from a document of column values at a time, and a change names one column and its new value.
-/

namespace TenantAuth

/-- The reason recorded when too many failed logins lock an account. -/
def lockReasonMaxAttempts : String := "exceeded maximum failed login attempts"

/-- A user account. -/
structure Account where
  /-- The unique identifier. -/
  id : String
  /-- The owning tenant; none only for system administrators. -/
  tenantId : Option String := none
  /-- The login name, unique within a tenant. -/
  username : String
  /-- The display name. -/
  name : String
  /-- The contact email. -/
  email : Option String := none
  /-- The portal role. -/
  role : Role := .clinician
  /-- The patient whose records the account may see. -/
  linkedPatientId : Option String := none
  /-- The bcrypt hash of the password. -/
  passwordHash : String
  /-- Disabled accounts cannot log in. -/
  isActive : Bool := true
  /-- Locked accounts cannot log in. -/
  isLocked : Bool := false
  /-- When the account was locked. -/
  lockedAt : Option Int := none
  /-- Why the account was locked. -/
  lockedReason : Option String := none
  /-- Consecutive failed logins since the last success. -/
  failedLoginAttempts : Int := 0
  /-- When the last failed login happened. -/
  lastFailedLoginAt : Option Int := none
  /-- When the last successful login happened. -/
  lastSuccessfulLoginAt : Option Int := none
  /-- When the account was created. -/
  createdAt : Int := 0
  /-- When the account was last changed. -/
  updatedAt : Int := 0
  /-- Who created the account. -/
  createdBy : Option String := none
  /-- Who changed the account last. -/
  updatedBy : Option String := none
deriving DecidableEq, Repr

namespace Account

/-- The tenant placed in a session token: a system administrator acts in the tenant they
logged in through; everyone else in their own tenant, or the requested one when they have
none. -/
def effectiveTenant (role : Role) (ownTenant requested : Datum) : Datum :=
  if role == .systemAdmin then requested
  else if ownTenant.truthy then ownTenant else requested

/-- The account as a summary document; times are shown only as whether they are set, and
the hash only by its cost. -/
def summary (a : Account) : Datum :=
  Datum.record [("id", .str a.id), ("tenant_id", Datum.ofOption a.tenantId),
    ("username", .str a.username), ("name", .str a.name), ("email", Datum.ofOption a.email),
    ("role", .str a.role.value), ("linked_patient_id", Datum.ofOption a.linkedPatientId),
    ("is_active", .bool a.isActive), ("is_locked", .bool a.isLocked),
    ("locked_reason", Datum.ofOption a.lockedReason), ("locked_at_set", .bool a.lockedAt.isSome),
    ("failed_login_attempts", .int a.failedLoginAttempts),
    ("last_failed_login_set", .bool a.lastFailedLoginAt.isSome),
    ("last_successful_login_set", .bool a.lastSuccessfulLoginAt.isSome),
    ("hash_rounds", .int (Password.roundsOf a.passwordHash)),
    ("created_by", Datum.ofOption a.createdBy), ("updated_by", Datum.ofOption a.updatedBy)]

/-- A field of a document: its value, or a fault when it is missing. -/
def need (entries : List (Datum × Datum)) (name : String) : Except Fault Datum :=
  match Datum.lookup entries (.str name) with
  | some v => .ok v
  | none => .error .missingKey

/-- A field of a document, or a default when it is missing. -/
def field (entries : List (Datum × Datum)) (name : String) (dflt : Datum) : Datum :=
  (Datum.lookup entries (.str name)).getD dflt

/-- An account from a document of its columns, made at a time. The password comes as
`password_hash`, or as `password` hashed at cost `rounds` (4 when not given) with a salt; the
name defaults to the username and the role to clinician. -/
def ofDocument (now : Int) (salt : Vector UInt8 16) (doc : Datum) : Except Fault Account := do
  let entries ← match doc with
    | .dict es => pure es
    | _ => throw .wrongType
  let passwordHash ← match field entries "password_hash" .none with
    | .str h => if h.isEmpty then hashed entries else pure h
    | d => if d.truthy then Column.text d else hashed entries
  let id ← Column.text (← need entries "id")
  let usernameValue ← need entries "username"
  let username ← Column.text usernameValue
  let role ← Role.ofDatum (field entries "role" (.str "clinician"))
  return {
    id, username, role, passwordHash,
    tenantId := ← Column.optionalText (field entries "tenant_id" .none),
    name := ← Column.text (field entries "name" usernameValue),
    email := ← Column.optionalText (field entries "email" .none),
    linkedPatientId := ← Column.optionalText (field entries "linked_patient_id" .none),
    isActive := ← Column.flag (field entries "is_active" (.bool true)),
    isLocked := ← Column.flag (field entries "is_locked" (.bool false)),
    failedLoginAttempts := ← Column.integer (field entries "failed_login_attempts" (.int 0)),
    lockedReason := ← Column.optionalText (field entries "locked_reason" .none),
    createdAt := now, updatedAt := now }
where
  /-- The hash of the document's password at its cost. -/
  hashed (entries : List (Datum × Datum)) : Except Fault String := do
    Password.hash salt (← need entries "password") (field entries "rounds" (.int 4))

/-- The columns an account has. -/
def columns : List String :=
  ["id", "tenant_id", "username", "name", "email", "role", "linked_patient_id",
   "password_hash", "is_active", "is_locked", "locked_at", "locked_reason",
   "failed_login_attempts", "last_failed_login_at", "last_successful_login_at", "created_at",
   "updated_at", "created_by", "updated_by"]

/-- The message for a change of a column accounts do not have. -/
def unknownColumnMessage (column : String) : String :=
  "\"UserRecord\" object has no field \"" ++ column ++ "\""

/-- A time column can only be cleared. -/
def clearedTime : Datum → Except Fault (Option Int)
  | .none => .ok none
  | _ => .error .columnMismatch

/-- The account with one column set to a value. -/
def change (a : Account) (column : String) (v : Datum) : Except Fault Account :=
  match column with
  | "id" => return { a with id := ← Column.text v }
  | "tenant_id" => return { a with tenantId := ← Column.optionalText v }
  | "username" => return { a with username := ← Column.text v }
  | "name" => return { a with name := ← Column.text v }
  | "email" => return { a with email := ← Column.optionalText v }
  | "role" => return { a with role := ← Role.ofDatum v }
  | "linked_patient_id" => return { a with linkedPatientId := ← Column.optionalText v }
  | "password_hash" => return { a with passwordHash := ← Column.text v }
  | "is_active" => return { a with isActive := ← Column.flag v }
  | "is_locked" => return { a with isLocked := ← Column.flag v }
  | "locked_at" => return { a with lockedAt := ← clearedTime v }
  | "locked_reason" => return { a with lockedReason := ← Column.optionalText v }
  | "failed_login_attempts" => return { a with failedLoginAttempts := ← Column.integer v }
  | "last_failed_login_at" => return { a with lastFailedLoginAt := ← clearedTime v }
  | "last_successful_login_at" => return { a with lastSuccessfulLoginAt := ← clearedTime v }
  | "created_at" => do
    let _ ← clearedTime v
    return a
  -- any value will do: a change stamps its own time and actor over these
  | "updated_at" | "updated_by" => return a
  | "created_by" => return { a with createdBy := ← Column.optionalText v }
  | other => .error (.badValue (unknownColumnMessage other))

end Account

end TenantAuth
