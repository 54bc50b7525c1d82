import TenantAuth.Datum.Whole
import TenantAuth.Session.Claims
import TenantAuth.Session.Jws

/-!
# The session token service

Issues and checks the service's own session tokens, carrying the closed claim set of `Claims` under
the service's secret and valid from issue to expiry with a tolerance of `clockSkew` seconds.
Checking answers `none` for anything the service refuses, and faults only on a time claim with no
whole number at all and on a secret from which no key can be built.
-/

namespace TenantAuth

/-- The signing configuration of session tokens. -/
structure TokenService where
  /-- The signing secret; never empty. -/
  secret : String
  /-- The name of the signing algorithm. -/
  algorithm : String := "HS256"
  /-- The seconds of tolerance on the validity window: a whole number or a double. -/
  clockSkew : Int ⊕ Float := .inl 30

namespace TokenService

/-- A token service, which needs a secret. -/
def make (secret : String) (algorithm : String := "HS256") (clockSkew : Int ⊕ Float := .inl 30) :
    Except Fault TokenService :=
  if secret.isEmpty then .error (.badValue "TokenService requires a signing secret")
  else .ok ⟨secret, algorithm, clockSkew⟩

/-- Signs a session token for an identity issued at a time. -/
def issue (svc : TokenService) (identity : Identity) (issuedAt : Int) : Except Fault String :=
  Jws.sign svc.algorithm svc.secret (Claims.ofIdentity identity issuedAt).toDatum

/-- A time claim as a whole number: `none` when the value is a wrong value for one, a fault
when it has no whole number at all. -/
def timeClaim (v : Datum) : Except Fault (Option Int) :=
  match Datum.toInt v with
  | .ok n => .ok (some n)
  | .error (.badValue _) => .ok none
  | .error f => .error f

/-- Whether a whole time `t` lies before `now - skew`: exactly for a whole tolerance, and for
a double by rounding `now - skew` to a double and comparing `t` with it exactly. -/
def precedes (t now : Int) : Int ⊕ Float → Bool
  | .inl skew => t < now - skew
  | .inr skew => Double.compareInt? (Double.ofInt now - skew) t == some .gt

/-- Whether a whole time `t` lies after `now + skew`, in the same way. -/
def follows (t now : Int) : Int ⊕ Float → Bool
  | .inl skew => t > now + skew
  | .inr skew => Double.compareInt? (Double.ofInt now + skew) t == some .lt

/-- Checks a token at a time and returns its claims. -/
def verify (svc : TokenService) (token : Datum) (now : Int) : Except Fault (Option Claims) := do
  let .str t := token | return none
  if t.isEmpty then return none
  let some payload ← Jws.verify svc.algorithm svc.secret t | return none
  let some iatValue := Datum.lookup payload (.str "iat") | return none
  let some expValue := Datum.lookup payload (.str "exp") | return none
  let some _ ← timeClaim iatValue | return none
  if let some nbfValue := Datum.lookup payload (.str "nbf") then
    let some nbf ← timeClaim nbfValue | return none
    if follows nbf now svc.clockSkew then return none
  let some exp ← timeClaim expValue | return none
  if precedes exp now svc.clockSkew then return none
  match Claims.read (.dict payload) with
  | .ok c => pure (some c)
  | .error _ => pure none

end TokenService

end TenantAuth
