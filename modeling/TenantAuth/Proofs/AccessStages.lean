import Mathlib
import TenantAuth.Access.Pipeline

/-!
# What the stages of the access pipeline let through

`Access.authorize` runs the role check, tenant isolation (for tenant-scoped operations) and
patient scoping in turn, and returns the caller with the tenant the request acts for. This file
states what each stage accepts (`authorizeRole_eq_ok`, `enforceTenantIsolation_eq_ok`,
`enforcePatientAccess_eq_ok`), what the whole of them accepts (`authorize_eq_ok`), and the
consequence the tenant-scoped handlers rely on: a person other than a system administrator gets
through a tenant-scoped operation only by naming their own, non-empty tenant, and then that
tenant is the one the request acts for (`authorize_scoped_user`).
-/

namespace TenantAuth

namespace Access

/-! ## What each stage lets through -/

/-- The role check lets a caller through: a service, or a person whose role is allowed. -/
def RolePasses (p : Principal) (allowed : List Role) : Prop :=
  match p with
  | .user c => c.role ∈ allowed
  | .service _ => True

/-- Tenant isolation lets a caller through: a service, a system administrator, or a person whose
request names their own tenant, which is not empty. -/
def TenantPasses (p : Principal) (header : Datum) : Prop :=
  match p with
  | .user c => c.role ≠ .systemAdmin → ∃ t, c.tenantId = some t ∧ t ≠ "" ∧ header = .str t
  | .service _ => True

/-- Patient scoping lets a caller through for an addressed patient: anyone but a patient linked
to a patient, and such a patient when the id is empty or is the linked patient's. -/
def PatientPasses (p : Principal) (id : Datum) : Prop :=
  match p with
  | .user c => c.role = .patient → ∀ linked, c.linkedPatientId = some linked → linked ≠ "" →
      id.truthy = true → id.equal (.str linked) = true
  | .service _ => True

section Stages

variable {p : Principal} {f : Fault}

theorem authorizeRole_eq_ok {allowed : List Role} :
    authorizeRole p allowed = .ok () ↔ RolePasses p allowed := by
  cases p with
  | user c => by_cases admitted : c.role ∈ allowed <;> simp [authorizeRole, RolePasses, admitted]
  | service e => simp [authorizeRole, RolePasses]

/-- The role check refuses only a person whose role is not allowed, and as forbidden. -/
theorem authorizeRole_eq_error {allowed : List Role} :
    authorizeRole p allowed = .error f ↔ f = .rejected .forbidden ∧ ¬RolePasses p allowed := by
  cases p with
  | user c =>
    by_cases admitted : c.role ∈ allowed <;> simp [authorizeRole, RolePasses, admitted, eq_comm]
  | service e => simp [authorizeRole, RolePasses]

theorem enforceTenantIsolation_user_eq_ok {c : Claims} (nonAdmin : c.role ≠ .systemAdmin)
    (header : Datum) :
    enforceTenantIsolation (.user c) header = .ok () ↔
      ∃ t, c.tenantId = some t ∧ t ≠ "" ∧ header = .str t := by
  have notAdmin : (c.role == .systemAdmin) = false := by simpa using nonAdmin
  unfold enforceTenantIsolation
  simp only [notAdmin, Bool.false_eq_true, if_false]
  constructor
  · intro passed
    split at passed
    · cases passed
    · next named =>
      -- only a text header equal to the person's tenant gets past the last check
      split at passed
      · next h t own =>
        have same : h = t := by simpa using passed
        subst same
        refine ⟨h, own, ?_, rfl⟩
        simpa using named
      · cases passed
  · rintro ⟨t, own, nonempty, rfl⟩
    simp [own, nonempty]

theorem enforceTenantIsolation_eq_ok {header : Datum} :
    enforceTenantIsolation p header = .ok () ↔ TenantPasses p header := by
  cases p with
  | user c =>
    by_cases admin : c.role = .systemAdmin
    · simp [enforceTenantIsolation, TenantPasses, admin]
    · rw [enforceTenantIsolation_user_eq_ok admin]
      simp [TenantPasses, admin]
  | service e => simp [enforceTenantIsolation, TenantPasses]

theorem enforceTenantIsolation_of_unnamed {c : Claims} (nonAdmin : c.role ≠ .systemAdmin)
    {header : Datum} (unnamed : header.truthy = false) :
    enforceTenantIsolation (.user c) header = .error (.rejected .missingTenantHeader) := by
  have notAdmin : (c.role == .systemAdmin) = false := by simpa using nonAdmin
  simp [enforceTenantIsolation, notAdmin, unnamed]

theorem enforceTenantIsolation_of_named {c : Claims} (nonAdmin : c.role ≠ .systemAdmin)
    {header : Datum} (named : header.truthy = true) :
    enforceTenantIsolation (.user c) header = .ok () ∨
      enforceTenantIsolation (.user c) header = .error (.rejected .tenantAccessDenied) := by
  have notAdmin : (c.role == .systemAdmin) = false := by simpa using nonAdmin
  unfold enforceTenantIsolation
  simp only [notAdmin, named, Bool.not_true, Bool.false_eq_true, if_false]
  split
  · split <;> simp
  · simp

/-- Tenant isolation refuses only a person other than a system administrator. -/
theorem enforceTenantIsolation_eq_error {header : Datum} :
    enforceTenantIsolation p header = .error f ↔
      ∃ c, p = .user c ∧ c.role ≠ .systemAdmin ∧
        ((header.truthy = false ∧ f = .rejected .missingTenantHeader) ∨
          (header.truthy = true ∧ (¬∃ t, c.tenantId = some t ∧ header = .str t) ∧
            f = .rejected .tenantAccessDenied)) := by
  cases p with
  | service e => simp [enforceTenantIsolation]
  | user c =>
    by_cases admin : c.role = .systemAdmin
    · simp [enforceTenantIsolation, admin]
    cases named : header.truthy
    · rw [enforceTenantIsolation_of_unnamed admin named]
      simp [admin, eq_comm (a := f)]
    -- a named tenant is refused exactly when it is not the person's own
    have passes := enforceTenantIsolation_user_eq_ok admin header
    have nonempty : ∀ t, header = .str t → t ≠ "" := by
      rintro t rfl rfl
      simp at named
    rcases enforceTenantIsolation_of_named admin named with passed | denied
    · obtain ⟨t, own, -, rfl⟩ := passes.mp passed
      simp [passed, own]
    · have apart : ¬∃ t, c.tenantId = some t ∧ header = .str t := by
        rintro ⟨t, own, same⟩
        rw [passes.mpr ⟨t, own, nonempty t same, same⟩] at denied
        cases denied
      rw [denied]
      constructor
      · rintro ⟨⟩
        exact ⟨c, rfl, admin, .inr ⟨rfl, apart, rfl⟩⟩
      · rintro ⟨c', same, -, ⟨unnamed, -⟩ | ⟨-, -, rfl⟩⟩
        · simp at unnamed
        · rfl

theorem enforcePatientAccess_eq_ok {id : Datum} :
    enforcePatientAccess p id = .ok () ↔ PatientPasses p id := by
  cases p with
  | service e => simp [enforcePatientAccess, PatientPasses]
  | user c =>
    by_cases patient : c.role = .patient
    · cases linked : c.linkedPatientId with
      | none => simp [enforcePatientAccess, PatientPasses, linked]
      | some l =>
        by_cases addressed : id.truthy = true ∧ l ≠ ""
        · simp [enforcePatientAccess, PatientPasses, patient, linked, addressed]
        · simp only [not_and_or, ne_eq, not_not, Bool.not_eq_true] at addressed
          rcases addressed with unaddressed | empty
          · simp [enforcePatientAccess, PatientPasses, patient, linked, unaddressed]
          · simp [enforcePatientAccess, PatientPasses, patient, linked, empty]
    · simp [enforcePatientAccess, PatientPasses, patient]

theorem enforcePatientAccess_passes_or_denies (id : Datum) :
    enforcePatientAccess p id = .ok () ∨
      enforcePatientAccess p id = .error (.rejected .patientAccessDenied) := by
  unfold enforcePatientAccess
  repeat' split
  all_goals simp

/-- Patient scoping refuses only a patient linked to a patient who addresses another one. -/
theorem enforcePatientAccess_eq_error {id : Datum} :
    enforcePatientAccess p id = .error f ↔
      f = .rejected .patientAccessDenied ∧ ¬PatientPasses p id := by
  rw [← enforcePatientAccess_eq_ok]
  rcases enforcePatientAccess_passes_or_denies (p := p) id with passed | denied
  · simp [passed]
  · simp [denied, eq_comm]

end Stages

/-! ## The stages together -/

/-- The later stages admit a caller exactly when each stage that runs passes. -/
theorem authorize_eq_ok {p : Principal} {allowed : Except Fault (List Role)} {header : Datum}
    {isScoped : Bool} {pid : Option Datum} {ctx : AccessContext} :
    authorize p allowed header isScoped pid = .ok ctx ↔
      ∃ roles, allowed = .ok roles ∧ RolePasses p roles ∧
        (isScoped = true → TenantPasses p header) ∧
        (∀ id, pid = some id → PatientPasses p id) ∧
        ⟨p, effectiveTenant p header⟩ = ctx := by
  simp only [← authorizeRole_eq_ok, ← enforceTenantIsolation_eq_ok, ← enforcePatientAccess_eq_ok]
  rcases allowed with f | roles
  · simp [authorize, inStage, Except.mapError, bind, Except.bind]
  rcases role : authorizeRole p roles with f | ⟨⟩
  · simp [authorize, inStage, Except.mapError, bind, Except.bind, role]
  -- the tenant and patient stages pass or stop the request, when they run
  rcases tenant : enforceTenantIsolation p header with f | ⟨⟩ <;> cases isScoped <;>
    rcases pid with _ | id <;>
    try rcases patient : enforcePatientAccess p id with g | ⟨⟩
  all_goals simp [authorize, inStage, Except.mapError, bind, Except.bind, pure, Except.pure, *]

/-- Under known allowed roles, the later stages refuse at the first stage that does. -/
theorem authorize_eq_error {p : Principal} {roles : List Role} {header : Datum} {isScoped : Bool}
    {pid : Option Datum} {stage : Stage} {f : Fault} :
    authorize p (.ok roles) header isScoped pid = .error (stage, f) ↔
      (stage = .authorizeRole ∧ authorizeRole p roles = .error f) ∨
      (stage = .tenantIsolation ∧ RolePasses p roles ∧ isScoped = true ∧
        enforceTenantIsolation p header = .error f) ∨
      (stage = .patientAccess ∧ RolePasses p roles ∧ (isScoped = true → TenantPasses p header) ∧
        ∃ id, pid = some id ∧ enforcePatientAccess p id = .error f) := by
  simp only [← authorizeRole_eq_ok, ← enforceTenantIsolation_eq_ok]
  rcases role : authorizeRole p roles with g | ⟨⟩
  · simp [authorize, inStage, Except.mapError, bind, Except.bind, role, and_comm, eq_comm]
  rcases tenant : enforceTenantIsolation p header with g | ⟨⟩ <;> cases isScoped <;>
    rcases pid with _ | id <;>
    try rcases patient : enforcePatientAccess p id with h | ⟨⟩
  all_goals simp [authorize, inStage, Except.mapError, bind, Except.bind, pure, Except.pure,
    eq_comm (b := stage), *]

/-- A person other than a system administrator passes a tenant-scoped operation only in their own
tenant. -/
theorem authorize_scoped_user {c : Claims} (nonAdmin : c.role ≠ .systemAdmin)
    {allowed : Except Fault (List Role)} {header : Datum} {pid : Option Datum} {ctx : AccessContext}
    (passed : authorize (.user c) allowed header true pid = .ok ctx) :
    ∃ t, c.tenantId = some t ∧ t ≠ "" ∧ header = .str t ∧ ctx = ⟨.user c, .str t⟩ := by
  obtain ⟨roles, -, -, isolated, -, rfl⟩ := authorize_eq_ok.mp passed
  obtain ⟨t, own, nonempty, rfl⟩ := (enforceTenantIsolation_user_eq_ok nonAdmin header).mp
    (enforceTenantIsolation_eq_ok.mpr (isolated rfl))
  exact ⟨t, own, nonempty, rfl, by simp [effectiveTenant, nonempty]⟩

end Access

end TenantAuth
