import Mathlib
import TenantAuth.Access.Policy
import TenantAuth.Proofs.AccessStages

/-!
# The decision of the access pipeline

`Access.pipeline_decision` states the decision of the pipeline for every token, policy, operation,
header and addressed patient on which the session check does not fault: the refusal of the first
stage whose condition fails (`RolePasses`, `TenantPasses`, `PatientPasses`), in the order
authentication, role, tenant, patient, and the delegated verifier consulted only for a present token
without a valid session. `Access.authenticate` takes a delegated verifier that answers every token;
the service's own verifier can fault, and the service then ends the request with that fault before
this decision is taken (`Portal.Service.authenticate_of_ok`).
-/

namespace TenantAuth

namespace AccessPolicy

/-- The roles a policy allows for an operation named by text: its allow-list, and none for an
operation it does not list. -/
def rolesOf (p : AccessPolicy) (operation : String) : List Role :=
  ((p.rules.find? fun r => Datum.sameKey r.1 (.str operation)).map (·.2)).getD []

theorem allowedRoles_str (p : AccessPolicy) (operation : String) :
    p.allowedRoles (.str operation) = .ok (p.rolesOf operation) := by
  simp [allowedRoles, rolesOf, Datum.isKey]

theorem rolesOf_unlisted {p : AccessPolicy} {operation : String}
    (unlisted : ∀ r ∈ p.rules, Datum.sameKey r.1 (.str operation) = false) :
    p.rolesOf operation = [] := by
  have missing : p.rules.find? (fun r => Datum.sameKey r.1 (.str operation)) = none :=
    List.find?_eq_none.mpr fun r member => by simp [unlisted r member]
  simp [rolesOf, missing]

end AccessPolicy

namespace Access

/-- The caller a bearer token proves, given what the session check answered: nobody for a
missing token; the person of the session when it checks out; otherwise the service the delegated
verifier names, when there is a verifier and it names one. -/
def provenCaller (token : Datum) (session : Option Claims)
    (delegated : Option (Datum → Delegated.Report)) : Option Principal :=
  if token.truthy then
    match session with
    | some c => some (.user c)
    | none => (delegated.bind fun verify => (verify token).identity).map fun i => .service i.email
  else none

section Authentication

variable {tokens : TokenService} {now : Int} {delegated : Option (Datum → Delegated.Report)}
  {token : Datum} {session : Option Claims}

theorem sessionPrincipal_eq (verified : tokens.verify token now = .ok session) :
    sessionPrincipal tokens now token =
      .ok (if token.truthy then session.map .user else none) := by
  by_cases present : token.truthy
  · simp [sessionPrincipal, present, verified, bind, Except.bind, pure, Except.pure]
  · simp [sessionPrincipal, present, pure, Except.pure]

/-- Authentication finds the caller the token proves, and otherwise asks for authentication. -/
theorem authenticate_fst (verified : tokens.verify token now = .ok session) :
    (authenticate tokens now delegated token).1 =
      match provenCaller token session delegated with
      | some p => .ok p
      | none => .error (.rejected .authenticationRequired) := by
  have checked := sessionPrincipal_eq verified
  by_cases present : token.truthy
  · rcases session with _ | c
    · rcases delegated with _ | verify
      · simp [authenticate, provenCaller, present, checked]
      · rcases named : (verify token).identity with _ | i
        · simp [authenticate, provenCaller, present, checked, named]
        · simp [authenticate, provenCaller, present, checked, named]
    · simp [authenticate, provenCaller, present, checked]
  · simp [authenticate, provenCaller, present]

theorem authenticate_snd (verified : tokens.verify token now = .ok session) :
    (authenticate tokens now delegated token).2 =
      if token.truthy ∧ session = none then delegated.map (· token) else none := by
  have checked := sessionPrincipal_eq verified
  by_cases present : token.truthy
  · rcases session with _ | c
    · rcases delegated with _ | verify
      · simp [authenticate, present, checked]
      · rcases named : (verify token).identity with _ | i
        · simp [authenticate, present, checked, named]
        · simp [authenticate, present, checked, named]
    · simp [authenticate, present, checked]
  · simp [authenticate, present]

theorem pipeline_fst {allowed : Except Fault (List Role)} {header : Datum} {isScoped : Bool}
    {pid : Option Datum} (verified : tokens.verify token now = .ok session) :
    (pipeline tokens now delegated token allowed header isScoped pid).1 =
      match provenCaller token session delegated with
      | some p => authorize p allowed header isScoped pid
      | none => .error (.authenticate, .rejected .authenticationRequired) := by
  show (inStage .authenticate (authenticate tokens now delegated token).1 >>= fun p =>
    authorize p allowed header isScoped pid) = _
  rw [authenticate_fst verified]
  cases provenCaller token session delegated <;> rfl

end Authentication

/-- The refusals of the later stages, in the order the stages run. -/
def laterRefusals : List StageFault :=
  [(.authorizeRole, .rejected .forbidden), (.tenantIsolation, .rejected .missingTenantHeader),
    (.tenantIsolation, .rejected .tenantAccessDenied), (.patientAccess, .rejected .patientAccessDenied)]

theorem authorize_refusals {p : Principal} {roles : List Role} {header : Datum} {isScoped : Bool}
    {pid : Option Datum} :
    (authorize p (.ok roles) header isScoped pid = .error (.authorizeRole, .rejected .forbidden) ↔
      ¬RolePasses p roles) ∧
    (authorize p (.ok roles) header isScoped pid =
        .error (.tenantIsolation, .rejected .missingTenantHeader) ↔
      RolePasses p roles ∧ isScoped = true ∧
        ∃ c, p = .user c ∧ c.role ≠ .systemAdmin ∧ header.truthy = false) ∧
    (authorize p (.ok roles) header isScoped pid =
        .error (.tenantIsolation, .rejected .tenantAccessDenied) ↔
      RolePasses p roles ∧ isScoped = true ∧
        ∃ c, p = .user c ∧ c.role ≠ .systemAdmin ∧ header.truthy = true ∧
          ¬∃ t, c.tenantId = some t ∧ header = .str t) ∧
    (authorize p (.ok roles) header isScoped pid =
        .error (.patientAccess, .rejected .patientAccessDenied) ↔
      RolePasses p roles ∧ (isScoped = true → TenantPasses p header) ∧
        ∃ id, pid = some id ∧ ¬PatientPasses p id) ∧
    ∀ refusal, authorize p (.ok roles) header isScoped pid = .error refusal →
      refusal ∈ laterRefusals := by
  refine ⟨?_, ?_, ?_, ?_, ?_⟩
  · simp [authorize_eq_error, authorizeRole_eq_error]
  · simp [authorize_eq_error, enforceTenantIsolation_eq_error]
  · simp [authorize_eq_error, enforceTenantIsolation_eq_error]
  · simp [authorize_eq_error, enforcePatientAccess_eq_error]
  · rintro ⟨stage, f⟩ refused
    rcases authorize_eq_error.mp refused with
      ⟨rfl, role⟩ | ⟨rfl, -, -, tenant⟩ | ⟨rfl, -, -, id, -, patient⟩
    · obtain ⟨rfl, -⟩ := authorizeRole_eq_error.mp role
      simp [laterRefusals]
    · obtain ⟨c, -, -, ⟨-, rfl⟩ | ⟨-, -, rfl⟩⟩ := enforceTenantIsolation_eq_error.mp tenant <;>
        simp [laterRefusals]
    · obtain ⟨rfl, -⟩ := enforcePatientAccess_eq_error.mp patient
      simp [laterRefusals]

/-- The decision on a protected request whose session check answers, under a delegated verifier that
answers every token: the first stage that refuses decides. -/
theorem pipeline_decision (tokens : TokenService) (now : Int)
    (delegated : Option (Datum → Delegated.Report)) (token : Datum) (policy : AccessPolicy)
    (operation : String) (header : Datum) (isScoped : Bool) (pid : Option Datum)
    {session : Option Claims} (verified : tokens.verify token now = .ok session) :
    let decision := pipeline tokens now delegated token (policy.allowedRoles (.str operation))
      header isScoped pid
    let caller := provenCaller token session delegated
    let roles := policy.rolesOf operation
    decision.2 = (if token.truthy ∧ session = none then delegated.map (· token) else none) ∧
    (decision.1 = .error (.authenticate, .rejected .authenticationRequired) ↔ caller = none) ∧
    (∀ p, caller = some p →
      (decision.1 = .error (.authorizeRole, .rejected .forbidden) ↔ ¬RolePasses p roles) ∧
      (decision.1 = .error (.tenantIsolation, .rejected .missingTenantHeader) ↔
        RolePasses p roles ∧ isScoped = true ∧
          ∃ c, p = .user c ∧ c.role ≠ .systemAdmin ∧ header.truthy = false) ∧
      (decision.1 = .error (.tenantIsolation, .rejected .tenantAccessDenied) ↔
        RolePasses p roles ∧ isScoped = true ∧
          ∃ c, p = .user c ∧ c.role ≠ .systemAdmin ∧ header.truthy = true ∧
            ¬∃ t, c.tenantId = some t ∧ header = .str t) ∧
      (decision.1 = .error (.patientAccess, .rejected .patientAccessDenied) ↔
        RolePasses p roles ∧ (isScoped = true → TenantPasses p header) ∧
          ∃ id, pid = some id ∧ ¬PatientPasses p id) ∧
      ∀ ctx, decision.1 = .ok ctx ↔
        RolePasses p roles ∧ (isScoped = true → TenantPasses p header) ∧
          (∀ id, pid = some id → PatientPasses p id) ∧ ⟨p, effectiveTenant p header⟩ = ctx) ∧
    (∀ refusal, decision.1 = .error refusal →
      refusal = (.authenticate, .rejected .authenticationRequired) ∨ refusal ∈ laterRefusals) ∧
    ((∀ r ∈ policy.rules, Datum.sameKey r.1 (.str operation) = false) →
      ∀ c, caller = some (.user c) → decision.1 = .error (.authorizeRole, .rejected .forbidden)) := by
  intro decision caller roles
  have decided : decision.1 = match caller with
      | some p => authorize p (.ok roles) header isScoped pid
      | none => .error (.authenticate, .rejected .authenticationRequired) := by
    rw [← AccessPolicy.allowedRoles_str]
    exact pipeline_fst verified
  have reported : decision.2 = _ := authenticate_snd verified
  clear_value decision caller
  -- from here on the decision is the authentication's answer, then the later stages'
  refine ⟨reported, ?_, ?_, ?_, ?_⟩
  · rw [decided]
    cases caller with
    | none => simp
    | some p =>
      simp only [reduceCtorEq, iff_false]
      intro refused
      have later := authorize_refusals.2.2.2.2 _ refused
      simp [laterRefusals] at later
  · intro p found
    rw [decided, found]
    obtain ⟨forbidden, missing, denied, patient, -⟩ := @authorize_refusals p roles header isScoped pid
    exact ⟨forbidden, missing, denied, patient, fun ctx => by simp [authorize_eq_ok]⟩
  · intro refusal refused
    rw [decided] at refused
    cases caller with
    | none =>
      cases refused
      exact .inl rfl
    | some p => exact .inr (authorize_refusals.2.2.2.2 refusal refused)
  · intro unlisted c found
    rw [decided, found]
    apply authorize_refusals.1.mpr
    simp [RolePasses, roles, AccessPolicy.rolesOf_unlisted unlisted]

/-- The decision on a request without a token for the tenant-scoped unlock operation. -/
theorem pipeline_decision_anonymous :
    let tokens : TokenService := ⟨"secret", "HS256", .inl 30⟩
    let policy : AccessPolicy := ⟨[(.str "users:unlock", [.tenantAdmin, .systemAdmin])]⟩
    let decision := pipeline tokens 1700000000 none .none (policy.allowedRoles (.str "users:unlock"))
      .none true none
    let caller := provenCaller .none none none
    let roles := policy.rolesOf "users:unlock"
    tokens.verify .none 1700000000 = .ok none ∧
    decision.2 = (if Datum.none.truthy ∧ (none : Option Claims) = none then
      (none : Option (Datum → Delegated.Report)).map (· .none) else none) ∧
    (decision.1 = .error (.authenticate, .rejected .authenticationRequired) ↔ caller = none) ∧
    (∀ p, caller = some p →
      (decision.1 = .error (.authorizeRole, .rejected .forbidden) ↔ ¬RolePasses p roles) ∧
      (decision.1 = .error (.tenantIsolation, .rejected .missingTenantHeader) ↔
        RolePasses p roles ∧ true = true ∧
          ∃ c, p = .user c ∧ c.role ≠ .systemAdmin ∧ Datum.none.truthy = false) ∧
      (decision.1 = .error (.tenantIsolation, .rejected .tenantAccessDenied) ↔
        RolePasses p roles ∧ true = true ∧
          ∃ c, p = .user c ∧ c.role ≠ .systemAdmin ∧ Datum.none.truthy = true ∧
            ¬∃ t, c.tenantId = some t ∧ Datum.none = .str t) ∧
      (decision.1 = .error (.patientAccess, .rejected .patientAccessDenied) ↔
        RolePasses p roles ∧ (true = true → TenantPasses p .none) ∧
          ∃ id, (none : Option Datum) = some id ∧ ¬PatientPasses p id) ∧
      ∀ ctx, decision.1 = .ok ctx ↔
        RolePasses p roles ∧ (true = true → TenantPasses p .none) ∧
          (∀ id, (none : Option Datum) = some id → PatientPasses p id) ∧
          ⟨p, effectiveTenant p .none⟩ = ctx) ∧
    (∀ refusal, decision.1 = .error refusal →
      refusal = (.authenticate, .rejected .authenticationRequired) ∨ refusal ∈ laterRefusals) ∧
    ((∀ r ∈ policy.rules, Datum.sameKey r.1 (.str "users:unlock") = false) →
      ∀ c, caller = some (.user c) → decision.1 = .error (.authorizeRole, .rejected .forbidden)) := by
  intro tokens policy decision caller roles
  have verified : tokens.verify .none 1700000000 = .ok none := rfl
  exact ⟨verified, pipeline_decision tokens 1700000000 none .none policy "users:unlock" .none true none
    verified⟩

end Access

end TenantAuth
