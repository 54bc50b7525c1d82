import TenantAuth.Schema.Lax
import TenantAuth.Text.Blank

/-!
# Login requests

The body of a password login: tenant, username and password, under camelCase names (the snake-case
name is accepted, and the camelCase one wins). Lengths are checked first (tenant 1 to 128, username
1 to 256, password 1 to 1024 characters); the tenant and username are then stripped of blanks and
must not be left empty.
-/

namespace TenantAuth

/-- A login request. -/
structure LoginRequest where
  /-- The tenant the user logs in through. -/
  tenantId : String
  /-- The login name. -/
  username : String
  /-- The password, exactly as typed. -/
  password : String
deriving DecidableEq, Repr

namespace LoginRequest

/-- Reads text within length bounds; its characters are counted, so text carrying a lone
surrogate is refused as no Unicode text. -/
def boundedText (least greatest : Nat) (d : Datum) : Except IssueKind String := do
  let s ← Lax.text d
  if Surrogate.carries s then throw .stringUnicode
  if s.length < least then throw (.stringTooShort least)
  if s.length > greatest then throw (.stringTooLong greatest)
  pure s

/-- Reads text within length bounds, stripped of surrounding blanks, and not blank. -/
def strippedText (least greatest : Nat) (d : Datum) : Except IssueKind String := do
  let s ← boundedText least greatest d
  let t := Blank.strip s
  if t.isEmpty then throw (.valueError "must not be blank")
  pure t

/-- Reads a login request from a body; a body that is not a mapping raises `notMapping`. -/
def read (notMapping : IssueKind) (body : Datum) : Checked LoginRequest :=
  match body with
  | .dict entries =>
    let r := (Checked.aliased body entries "tenantId" "tenant_id" (strippedText 1 128)).and <|
      (Checked.aliased body entries "username" "username" (strippedText 1 256)).and <|
      Checked.aliased body entries "password" "password" (boundedText 1 1024)
    r.map fun (t, u, p) => ⟨t, u, p⟩
  | _ => .error [⟨notMapping, [], body⟩]

/-- The request with its field names. -/
def toDatum (r : LoginRequest) : Datum :=
  Datum.record [("tenant_id", .str r.tenantId), ("username", .str r.username),
    ("password", .str r.password)]

/-- The request with its camelCase field names. -/
def toAliasDatum (r : LoginRequest) : Datum :=
  Datum.record [("tenantId", .str r.tenantId), ("username", .str r.username),
    ("password", .str r.password)]

end LoginRequest

end TenantAuth
