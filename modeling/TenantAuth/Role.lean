import TenantAuth.Datum.Whole

/-!
# Portal roles

The closed set of roles an account can hold. A system administrator is the only role that
belongs to no tenant and the only one exempt from tenant isolation.
-/

namespace TenantAuth

/-- A portal role. -/
inductive Role where
  /-- A patient, who sees only their own records. -/
  | patient
  /-- A clinician of a hospital. -/
  | clinician
  /-- A medical expert reviewing content. -/
  | expert
  /-- The administrator of one tenant. -/
  | tenantAdmin
  /-- The administrator of the whole platform. -/
  | systemAdmin
deriving DecidableEq, Repr, Inhabited

namespace Role

/-- Every role, in declaration order. -/
def all : List Role := [.patient, .clinician, .expert, .tenantAdmin, .systemAdmin]

/-- The stored spelling of a role. -/
def value : Role → String
  | .patient => "patient"
  | .clinician => "clinician"
  | .expert => "expert"
  | .tenantAdmin => "tenant_admin"
  | .systemAdmin => "system_admin"

/-- The role with a stored spelling. -/
def ofValue? (s : String) : Option Role :=
  all.find? (·.value == s)

/-- The choices a role field lists when it refuses a value. -/
def expected : String :=
  "'patient', 'clinician', 'expert', 'tenant_admin' or 'system_admin'"

/-- The role a dynamic value names; anything that is not the spelling of a role is refused
with its own text in the message, or with the fault of writing that text out. -/
def ofDatum : Datum → Except Fault Role
  | .str s => match ofValue? s with
    | some r => .ok r
    | none => .error (.badValue ((Datum.str s).repr ++ " is not a valid Role"))
  | d => do .error (.badValue ((← d.repr?) ++ " is not a valid Role"))

/-- Roles are ordered by their spelling. -/
def sortKey (r : Role) : String := r.value

theorem ofValue?_value (r : Role) : ofValue? r.value = some r := by
  cases r <;> decide

end Role

end TenantAuth
