import TenantAuth.Access.Principal
import TenantAuth.Delegated.Verifier
import TenantAuth.Session.Token

/-!
# The access pipeline

Every protected request passes four stages in order, and the first that refuses ends it:
authentication (a session token, then a delegated identity), the role check against the operation's
allowed roles, tenant isolation for tenant-scoped operations, and patient scoping for patient
resources. Services pass the role, tenant and patient stages.
-/

namespace TenantAuth

/-- The stages of the access pipeline. -/
inductive Stage where
  /-- Finding the caller. -/
  | authenticate
  /-- Checking the caller's role. -/
  | authorizeRole
  /-- Checking the caller's tenant. -/
  | tenantIsolation
  /-- Checking the addressed patient. -/
  | patientAccess
deriving DecidableEq, Repr

/-- The name of a stage. -/
def Stage.name : Stage → String
  | .authenticate => "authenticate"
  | .authorizeRole => "authorize_role"
  | .tenantIsolation => "tenant_isolation"
  | .patientAccess => "patient_access"

namespace Access

/-- The caller a session token proves, if any; a missing token proves nobody. -/
def sessionPrincipal (tokens : TokenService) (now : Int) (token : Datum) :
    Except Fault (Option Principal) := do
  if !token.truthy then return none
  pure ((← tokens.verify token now).map Principal.user)

/-- Finds the caller of a request: the session token first, then the delegated verifier if
there is one. Also returns the delegated verifier's report when it ran. The delegated verifier
here answers every token; where the service's verifier fails instead, the service ends the
request with that fault (`Portal.Service.authenticate`). -/
def authenticate (tokens : TokenService) (now : Int)
    (delegated : Option (Datum → Delegated.Report)) (token : Datum) :
    Except Fault Principal × Option Delegated.Report :=
  if !token.truthy then (.error (.rejected .authenticationRequired), none)
  else match sessionPrincipal tokens now token with
    | .error f => (.error f, none)
    | .ok (some p) => (.ok p, none)
    | .ok none =>
      match delegated with
      | some verify =>
        let report := verify token
        match report.identity with
        | some i => (.ok (.service i.email), some report)
        | none => (.error (.rejected .authenticationRequired), some report)
      | none => (.error (.rejected .authenticationRequired), none)

/-- Checks the caller's role against the allowed roles. -/
def authorizeRole (p : Principal) (allowed : List Role) : Except Fault Unit :=
  match p with
  | .service _ => .ok ()
  | .user c => if allowed.contains c.role then .ok () else .error (.rejected .forbidden)

/-- Checks that a person acts only in their own tenant. -/
def enforceTenantIsolation (p : Principal) (header : Datum) : Except Fault Unit :=
  match p with
  | .service _ => .ok ()
  | .user c =>
    if c.role == .systemAdmin then .ok ()
    else if !header.truthy then .error (.rejected .missingTenantHeader)
    else match header, c.tenantId with
      | .str h, some t => if h == t then .ok () else .error (.rejected .tenantAccessDenied)
      | _, _ => .error (.rejected .tenantAccessDenied)

/-- Checks that a patient addresses only their own patient. -/
def enforcePatientAccess (p : Principal) (patientId : Datum) : Except Fault Unit :=
  match p with
  | .service _ => .ok ()
  | .user c =>
    if c.role != .patient then .ok ()
    else match c.linkedPatientId with
      | some linked =>
        if !patientId.truthy || linked.isEmpty then .ok ()
        else if patientId.equal (.str linked) then .ok ()
        else .error (.rejected .patientAccessDenied)
      | none => .ok ()

/-- The tenant a request acts for: the requested one if given, else the caller's own. -/
def effectiveTenant (p : Principal) (header : Datum) : Datum :=
  if header.truthy then header else Datum.ofOption p.tenantId

/-- A fault together with the stage that raised it. -/
abbrev StageFault := Stage × Fault

/-- Runs a stage, marking its fault with the stage. -/
def inStage {α : Type} (s : Stage) (r : Except Fault α) : Except StageFault α :=
  r.mapError (s, ·)

/-- The stages after authentication: role, tenant (when scoped) and patient (when a patient
is addressed). -/
def authorize (p : Principal) (allowed : Except Fault (List Role)) (header : Datum)
    (tenantScoped : Bool) (patientId : Option Datum) : Except StageFault AccessContext := do
  let roles ← inStage .authorizeRole allowed
  inStage .authorizeRole (authorizeRole p roles)
  if tenantScoped then inStage .tenantIsolation (enforceTenantIsolation p header)
  if let some pid := patientId then inStage .patientAccess (enforcePatientAccess p pid)
  pure ⟨p, effectiveTenant p header⟩

/-- The whole pipeline of a protected request: authenticate the bearer token, then the stages
after it under the operation's allowed roles; the first stage that refuses ends the request.
Also returns the delegated verifier's report when it ran. -/
def pipeline (tokens : TokenService) (now : Int) (delegated : Option (Datum → Delegated.Report))
    (token : Datum) (allowed : Except Fault (List Role)) (header : Datum) (tenantScoped : Bool)
    (patientId : Option Datum) : Except StageFault AccessContext × Option Delegated.Report :=
  let (principal, report) := authenticate tokens now delegated token
  (inStage .authenticate principal >>= fun p => authorize p allowed header tenantScoped patientId,
    report)

end Access

end TenantAuth
