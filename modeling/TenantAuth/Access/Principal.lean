import TenantAuth.Session.Claims

/-!
# Callers

A caller is either a person, known by the claims of their session token, or a trusted
service, known by the email its delegated identity token proved. A service has no role and
no tenant. What a protected handler receives is the caller together with the tenant the
request acts for.
-/

namespace TenantAuth

/-- Who is calling. -/
inductive Principal where
  /-- A person with a session. -/
  | user (claims : Claims)
  /-- A trusted service. -/
  | service (email : String)
deriving DecidableEq, Repr

namespace Principal

/-- The tenant of a caller; services have none. -/
def tenantId : Principal → Option String
  | .user c => c.tenantId
  | .service _ => none

/-- Whether the caller is a service. -/
def isService : Principal → Bool
  | .user _ => false
  | .service _ => true

/-- The caller as a document: its kind and its claims or email. -/
def toDatum : Principal → Datum
  | .user c => Datum.record [("kind", .str "user"), ("claims", c.toDatum)]
  | .service e => Datum.record [("kind", .str "service"), ("email", .str e)]

end Principal

/-- What a protected handler receives: the caller and the tenant the request acts for. -/
structure AccessContext where
  /-- The caller. -/
  principal : Principal
  /-- The tenant: the requested one, or else the caller's own. -/
  tenantId : Datum

end TenantAuth
