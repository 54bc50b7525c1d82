import TenantAuth.Credential.Account

/-!
# The credential store

The users table: accounts in the order they were added, keyed by id, with a username unique within
each tenant. It answers lookups by tenant and username and keeps the bookkeeping of logins, a failed
attempt counting and locking against the counter as it was before it, and a successful one resetting
only an unlocked account. The identity columns never change after an account is added, and once the
table is gone every operation fails.
-/

namespace TenantAuth

/-- The users table, or none once it is gone. -/
structure CredentialStore where
  /-- The accounts, in the order they were added. -/
  accounts : Option (List Account)

namespace CredentialStore

/-- A store without accounts. -/
def empty : CredentialStore := ⟨some []⟩

/-- The store after its table is dropped. -/
def dropTable (_ : CredentialStore) : CredentialStore := ⟨none⟩

/-- The accounts; fails once the table is gone. -/
def rows (s : CredentialStore) : Except Fault (List Account) :=
  match s.accounts with
  | some rs => .ok rs
  | none => .error .storeUnavailable

/-- A text a lookup is made with; text carrying a lone surrogate cannot be bound. -/
def bound (t : String) : Except Fault Unit :=
  if Surrogate.carries t then .error .unencodable else .ok ()

/-- The account with a login name in a tenant. A tenant that is empty or absent looks among
accounts without a tenant; a tenant without such an account falls back to a system
administrator without a tenant of that login name. The earliest added account wins. -/
def find? (s : CredentialStore) (tenantId : Datum) (username : String) :
    Except Fault (Option Account) := do
  let rs ← s.rows
  bound username
  if let .str t := tenantId then bound t
  let inTenant (a : Account) : Bool :=
    a.username == username &&
      (if tenantId.truthy then (a.tenantId.map (fun t => Datum.sameKey (.str t) tenantId)).getD false
       else a.tenantId.isNone)
  match rs.find? inTenant with
  | some a => return some a
  | none =>
    if tenantId.truthy then
      return rs.find? fun a => a.username == username && a.tenantId.isNone && a.role == .systemAdmin
    else return none

/-- The account with an id. -/
def get? (s : CredentialStore) (userId : String) : Except Fault (Option Account) := do
  let rs ← s.rows
  bound userId
  return rs.find? (·.id == userId)

/-- Whether two accounts clash on a key of the table: the id, or the login name within one
tenant. -/
def clashes (a b : Account) : Bool :=
  a.id == b.id || (a.tenantId.isSome && a.tenantId == b.tenantId && a.username == b.username)

/-- Replaces the accounts, refusing a table where two accounts clash. -/
def withRows (rs : List Account) : Except Fault CredentialStore :=
  let pairs := rs.zipIdx.flatMap fun (a, i) => (rs.drop (i + 1)).map (a, ·)
  if pairs.any fun (a, b) => clashes a b then .error .constraintViolated
  else .ok ⟨some rs⟩

/-- The message for an account of a tenant role without a tenant. -/
def tenantRequiredMessage : String := "Only system_admin users may have no tenant"

/-- Adds an account, recording who added it. Only system administrators may lack a tenant. -/
def create (s : CredentialStore) (a : Account) (actor : Option String) :
    Except Fault (Account × CredentialStore) := do
  if a.role != .systemAdmin && (a.tenantId.map (!·.isEmpty)).getD false == false then
    throw (.badValue tenantRequiredMessage)
  let a := { a with createdBy := actor, updatedBy := actor }
  let s' ← withRows ((← s.rows) ++ [a])
  return (a, s')

/-- The columns a change may not touch. -/
def immutableColumns : List String := ["id", "tenant_id", "created_at", "created_by"]

/-- The message for a change that touches identity columns, listing them in order. -/
def immutableMessage (columns : List String) : String :=
  "Immutable user fields: [" ++ ", ".intercalate (columns.map fun c => (Datum.str c).repr) ++ "]"

/-- Applies column changes to an account at a time and records when and by whom; none when
there is no such account. -/
def update (s : CredentialStore) (userId : String) (actor : Option String) (now : Int)
    (changes : List (String × Datum)) : Except Fault (Option Account × CredentialStore) := do
  let forbidden := (immutableColumns.filter fun c => changes.any (·.1 == c)).mergeSort
    (fun x y => !(y < x))
  if !forbidden.isEmpty then throw (.badValue (immutableMessage forbidden))
  let rs ← s.rows
  match rs.find? (·.id == userId) with
  | none => return (none, s)
  | some a =>
    if let some (c, _) := changes.find? (fun e => !Account.columns.contains e.1) then
      throw (.badValue (Account.unknownColumnMessage c))
    let a ← changes.foldlM (fun a (c, v) => a.change c v) a
    let a := { a with updatedAt := now, updatedBy := actor }
    let s' ← withRows (rs.map fun b => if b.id == userId then a else b)
    return (some a, s')

/-- The counter and lock state after a failed login, or none when there is no such account.
-/
def recordFailed (s : CredentialStore) (userId : String) (maxAttempts : Int) (now : Int) :
    Except Fault (Option (Int × Bool) × CredentialStore) := do
  let rs ← s.rows
  match rs.find? (·.id == userId) with
  | none => return (none, s)
  | some a =>
    let reaches := a.failedLoginAttempts + 1 ≥ maxAttempts
    let newlyLocked := reaches && !a.isLocked
    let a' := { a with
      failedLoginAttempts := a.failedLoginAttempts + 1,
      lastFailedLoginAt := some now,
      isLocked := reaches || a.isLocked,
      lockedAt := if newlyLocked then some now else a.lockedAt,
      lockedReason := if newlyLocked then some lockReasonMaxAttempts else a.lockedReason,
      updatedAt := now }
    return (some (a'.failedLoginAttempts, a'.isLocked),
      ⟨some (rs.map fun b => if b.id == userId then a' else b)⟩)

/-- Clears the counter after a successful login, storing a new hash if one is given; only
while the account is unlocked. Tells whether it applied. -/
def recordSuccess (s : CredentialStore) (userId : String) (now : Int)
    (newHash : Option String) : Except Fault (Bool × CredentialStore) := do
  let rs ← s.rows
  match rs.find? (fun a => a.id == userId && !a.isLocked) with
  | none => return (false, s)
  | some a =>
    let a' := { a with
      failedLoginAttempts := 0,
      lastSuccessfulLoginAt := some now,
      passwordHash := match newHash with
        | some h => if h.isEmpty then a.passwordHash else h
        | none => a.passwordHash,
      updatedAt := now }
    return (true, ⟨some (rs.map fun b => if b.id == userId then a' else b)⟩)

/-- Clears the lock and the counter of an account at a time. -/
def unlock (s : CredentialStore) (userId : String) (actor : Option String) (now : Int) :
    Except Fault (Option Account × CredentialStore) :=
  s.update userId actor now
    [("is_locked", .bool false), ("locked_at", .none), ("locked_reason", .none),
     ("failed_login_attempts", .int 0)]

/-- The accounts ordered by id. -/
def byId (s : CredentialStore) : Except Fault (List Account) := do
  return (← s.rows).mergeSort fun a b => !(b.id < a.id)

theorem create_requires_tenant (s : CredentialStore) (a : Account) (actor : Option String)
    (h : a.role ≠ .systemAdmin) (hn : a.tenantId = none) :
    s.create a actor = .error (.badValue tenantRequiredMessage) := by
  simp [create, h, hn]
  rfl

end CredentialStore

end TenantAuth
