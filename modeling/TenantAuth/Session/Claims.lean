import TenantAuth.Schema.Lax

/-!
# Session identities and claims

A session token speaks for an *identity* (user, tenant, names, role, linked patient), and every role
but the system administrator needs a tenant. The token's *claims* add the kind tag `session` and the
issue and expiry times, a session lasting exactly one day, and both are read under a closed schema.
-/

namespace TenantAuth

/-- The seconds a session lasts. -/
def sessionLifetime : Int := 86400

/-- Who a session token speaks for. -/
structure Identity where
  /-- The account's identifier. -/
  userId : String
  /-- The tenant the session acts in; none only for system administrators. -/
  tenantId : Option String := none
  /-- The login name. -/
  username : String
  /-- The display name. -/
  name : String
  /-- The portal role. -/
  role : Role
  /-- The patient whose records the account may see. -/
  linkedPatientId : Option String := none
deriving DecidableEq, Repr

/-- The full payload of a session token. -/
structure Claims extends Identity where
  /-- Issue time, in seconds since the epoch. -/
  iat : Int
  /-- Expiry time, in seconds since the epoch. -/
  exp : Int
deriving DecidableEq, Repr

namespace Identity

/-- The field names of an identity, in order. -/
def fieldNames : List String :=
  ["user_id", "tenant_id", "username", "name", "role", "linked_patient_id"]

/-- The message when a role other than system administrator has no tenant. -/
def tenantRequiredMessage : String :=
  "tenant_id is required for every role except system_admin"

/-- Whether an identity has the tenant its role needs. -/
def hasRequiredTenant (i : Identity) : Bool :=
  i.role == .systemAdmin || (i.tenantId.map (!·.isEmpty)).getD false

/-- The rule an identity must satisfy once its fields are well-formed. -/
def check (doc : Datum) (i : Identity) : Checked Identity :=
  if i.hasRequiredTenant then .ok i
  else .error [⟨.valueError tenantRequiredMessage, [], doc⟩]

/-- Reads the identity fields of a mapping. -/
def fields (doc : Datum) (entries : List (Datum × Datum)) : Checked Identity :=
  let r := (Checked.required doc entries "user_id" Lax.text).and <|
    (Checked.optional entries "tenant_id" none Lax.optionalText).and <|
    (Checked.required doc entries "username" Lax.text).and <|
    (Checked.required doc entries "name" Lax.text).and <|
    (Checked.required doc entries "role" Lax.role).and <|
    Checked.optional entries "linked_patient_id" none Lax.optionalText
  r.map fun (u, t, n, d, ro, l) => ⟨u, t, n, d, ro, l⟩

/-- Reads an identity from a document. -/
def read (doc : Datum) : Checked Identity :=
  match doc with
  | .dict entries => do
    let i ← (fields doc entries).closed (Checked.extras entries fieldNames)
    check doc i
  | _ => .error [⟨.modelType "SessionIdentity", [], doc⟩]

/-- The identity as a document, fields in order. -/
def toDatum (i : Identity) : Datum :=
  Datum.record [("user_id", .str i.userId), ("tenant_id", Datum.ofOption i.tenantId),
    ("username", .str i.username), ("name", .str i.name), ("role", .str i.role.value),
    ("linked_patient_id", Datum.ofOption i.linkedPatientId)]

end Identity

namespace Claims

/-- The field names of claims, in order. -/
def fieldNames : List String := Identity.fieldNames ++ ["typ", "iat", "exp"]

/-- The kind tag of session claims. -/
def kindTag : String := "session"

/-- The message when the expiry is not one session after the issue time. -/
def lifetimeMessage : String := "exp must equal iat + session lifetime"

/-- The claims of an identity issued at a time. -/
def ofIdentity (i : Identity) (issuedAt : Int) : Claims :=
  { i with iat := issuedAt, exp := issuedAt + sessionLifetime }

/-- Reads claims from a document: the identity fields, the kind tag (which may be left out),
and the two times; then the tenant rule and the fixed lifetime. -/
def read (doc : Datum) : Checked Claims :=
  match doc with
  | .dict entries => do
    let r := (Identity.fields doc entries).and <|
      (Checked.optional entries "typ" kindTag (Lax.literal kindTag)).and <|
      (Checked.required doc entries "iat" Lax.integer).and <|
      Checked.required doc entries "exp" Lax.integer
    let (i, _, iat, exp) ← r.closed (Checked.extras entries fieldNames)
    let i ← Identity.check doc i
    if exp == iat + sessionLifetime then pure { i with iat, exp }
    else throw [⟨.valueError lifetimeMessage, [], doc⟩]
  | _ => .error [⟨.modelType "SessionClaims", [], doc⟩]

/-- The claims as a document, fields in order. -/
def toDatum (c : Claims) : Datum :=
  match c.toIdentity.toDatum with
  | .dict es => .dict (es ++ [(.str "typ", .str kindTag), (.str "iat", .int c.iat),
      (.str "exp", .int c.exp)])
  | d => d

theorem ofIdentity_exp (i : Identity) (t : Int) :
    (ofIdentity i t).exp = (ofIdentity i t).iat + sessionLifetime := rfl

end Claims

end TenantAuth
