import TenantAuth.Role
import TenantAuth.Datum.Compare
import TenantAuth.Yaml.Document
import TenantAuth.Text.Blank

/-!
# Access policies

An access policy names, for each protected operation, the roles allowed to invoke it, and denies by
default. It is built from a mapping of operation names to role lists, directly or from the
`operations` entry of a YAML file; a role list is gone through as a value, so a bare role name is
read letter by letter and refused.
-/

namespace TenantAuth

/-- Operation names and the roles allowed to invoke each. -/
structure AccessPolicy where
  /-- Each operation's name and allowed roles, without repeats, in the file's order. -/
  rules : List (Datum × List Role)

namespace AccessPolicy

/-- The policy that admits nothing. -/
def empty : AccessPolicy := ⟨[]⟩

/-- The roles of one allow-list. -/
def roleSet (roles : Datum) : Except Fault (List Role) := do
  let items ← if roles.truthy then Datum.members roles else pure []
  let rs ← items.mapM Role.ofDatum
  return rs.eraseDups

/-- The policy given by a mapping of operation names to role lists. -/
def ofOperations (operations : Datum) : Except Fault AccessPolicy :=
  match operations.unwrap with
  | .dict entries => do
    let rules ← entries.mapM fun (name, roles) => do
      return (name, ← roleSet roles)
    return ⟨rules⟩
  | _ => .error .noAttribute

/-- The policy a configuration document gives: its `operations` mapping, where an empty or
absent document or entry means no operations. -/
def ofConfig (config : Datum) : Except Fault AccessPolicy :=
  match (if config.truthy then config else .dict []).unwrap with
  | .dict entries =>
    let operations := (Datum.lookup entries (.str "operations")).getD (.dict [])
    ofOperations (if operations.truthy then operations else .dict [])
  | _ => .error .noAttribute

/-- The policy of a file: the YAML text it holds, or none when it does not exist. -/
def ofFile : Option String → Except Fault AccessPolicy
  | none => .ok empty
  | some text => do ofConfig (← Yaml.load (Lines.unify text))

/-- The roles allowed to invoke an operation; none for an unknown one. -/
def allowedRoles (p : AccessPolicy) (operation : Datum) : Except Fault (List Role) :=
  if !operation.isKey then .error .wrongType
  else .ok (((p.rules.find? fun r => Datum.sameKey r.1 operation).map (·.2)).getD [])

/-- Whether a role may invoke an operation. -/
def isAllowed (p : AccessPolicy) (operation : Datum) (role : Role) : Except Fault Bool := do
  return (← p.allowedRoles operation).contains role

/-- The names of the operations the policy lists. -/
def operations (p : AccessPolicy) : List Datum :=
  p.rules.map (·.1)

/-- The policy file shipped with the service. -/
def packagedText : String :=
  "# Role allow-lists per protected operation.
# Deny-by-default: an operation missing here admits no human role.
# Service principals (delegated identity) are not subject to these lists.

operations:
  auth:me:
    - patient
    - clinician
    - expert
    - tenant_admin
    - system_admin

  tenant:read_config:
    - patient
    - clinician
    - expert
    - tenant_admin
    - system_admin

  users:unlock:
    - tenant_admin
    - system_admin

  system:list_tenants:
    - system_admin

  patients:read_discharge_summaries:
    - patient
    - clinician
    - expert
    - tenant_admin
    - system_admin
"

theorem allowedRoles_empty (operation : Datum) (h : operation.isKey = true) :
    empty.allowedRoles operation = .ok [] := by
  simp [allowedRoles, empty, h]

end AccessPolicy

end TenantAuth
