import TenantAuth.Proofs.AccountKeys
import TenantAuth.Proofs.Contention
import TenantAuth.Proofs.HashAcceptance
import TenantAuth.Proofs.TokenRoundTrip

/-!
# The decision table of a password login

A login answers with the first of its checks that settles it, in the order lookup, activity, lock,
password, bookkeeping write, tenant and token, and `Authenticator.login_decision` says every login
on a keyed table answers by `Authenticator.LoginTable`. An unknown login name is refused exactly as
a wrong password is, the counter reaches the answer only through the lock (`login_counter_blind`),
and a token needs a signer that can sign and a readable tenant document.
-/

namespace TenantAuth

namespace Account

/-- The session identity of an account acting in a tenant: its id, login name, display name,
role and linked patient, with that tenant. -/
def identityIn (a : Account) (t : String) : Identity :=
  { userId := a.id, tenantId := some t, username := a.username, name := a.name, role := a.role,
    linkedPatientId := a.linkedPatientId }

end Account

namespace TokenService

/-- A token service that can sign a session issued at `now`: its algorithm is a keyed-hash
one, its secret carries no lone surrogate and is no asymmetric key or certificate, and the
issue and expiry times can be written out. -/
structure CanSign (svc : TokenService) (now : Int) : Prop where
  named : ∃ alg, Jws.Algorithm.ofName? svc.algorithm = some alg
  usable : (Surrogate.carries svc.secret || Jws.isAsymmetric (Jws.bytes svc.secret)) = false
  early : now.natAbs < 10 ^ Json.maxIntDigits
  late : (now + sessionLifetime).natAbs < 10 ^ Json.maxIntDigits

theorem issue_of_unusable {svc : TokenService} {alg : Jws.Algorithm}
    (named : Jws.Algorithm.ofName? svc.algorithm = some alg)
    (unusable : (Surrogate.carries svc.secret || Jws.isAsymmetric (Jws.bytes svc.secret)) = true)
    (x : Identity) (now : Int) (early : now.natAbs < 10 ^ Json.maxIntDigits)
    (late : (now + sessionLifetime).natAbs < 10 ^ Json.maxIntDigits) :
    svc.issue x now = .error .signing := by
  simp [issue, Jws.sign, named, Claims.hasLongInt_toDatum (Claims.ofIdentity x now) early late,
    unusable]

/-- A service that can sign gives a token for every identity. -/
theorem issue_of_canSign {svc : TokenService} {now : Int} (signs : svc.CanSign now)
    (x : Identity) : ∃ token, svc.issue x now = .ok token := by
  obtain ⟨alg, named⟩ := signs.named
  exact ⟨_, Jws.sign_eq named (Claims.hasLongInt_toDatum _ signs.early signs.late) signs.usable⟩

end TokenService

namespace TenantDirectory

/-- A directory that reads a tenant's document: its lookup of the tenant fails only when the
store cannot be read, never on the shape of the document. -/
def Readable (d : TenantDirectory) (t : String) : Prop :=
  ∀ f, d.get? (.str t) = .error f → f.isStore = true

theorem withDefaults_of_readable {d : TenantDirectory} {t : String} (readable : d.Readable t) :
    ∃ c, d.withDefaults (.str t) = .ok c := by
  cases looked : d.get? (.str t) with
  | ok found =>
    cases found with
    | some c => exact ⟨c, by simp [withDefaults, looked, bind, Except.bind, pure, Except.pure]⟩
    | none =>
      exact ⟨d.defaultConfig t, by simp [withDefaults, looked, bind, Except.bind, pure, Except.pure]⟩
  | error f =>
    exact ⟨d.defaultConfig t, by simp [withDefaults, looked, readable f looked, bind, Except.bind,
      pure, Except.pure]⟩

end TenantDirectory

namespace Authenticator

open Account CredentialStore

variable (auth : Authenticator) {rs : List Account} {a : Account} {t u : String}

/-! ## The identity and the tenant of a session -/

theorem identity_eq (a : Account) (t : String) :
    identity a (.str t) =
      if (a.identityIn t).hasRequiredTenant then .ok (a.identityIn t)
      else .error (.invalid [⟨.valueError Identity.tenantRequiredMessage, [],
        Datum.record [("user_id", .str a.id), ("tenant_id", .str t),
          ("username", .str a.username), ("name", .str a.name), ("role", .str a.role.value),
          ("linked_patient_id", Datum.ofOption a.linkedPatientId)]⟩]) := by
  unfold identity
  rw [Datum.record]
  simp only [Identity.read, Identity.fields, Checked.required, Checked.optional,
    Datum.lookup_record]
  cases linked : a.linkedPatientId <;>
    simp [List.lookup, Checked.at', Lax.text, Lax.optionalText, Lax.role_value, Checked.and,
      Checked.closed, Checked.extras, Identity.check, Identity.fieldNames, Except.mapError,
      Except.map, bind, Except.bind, Account.identityIn, Datum.ofOption, linked] <;>
    split_ifs <;> rfl

theorem effectiveTenant_of_find? (found : find? ⟨some rs⟩ (.str t) u = .ok (some a)) :
    Account.effectiveTenant a.role (Datum.ofOption a.tenantId) (.str t) = .str t := by
  rw [find?_eq_pick rs (bindable_of_find? found).1] at found
  obtain ⟨-, -, ⟨-, own⟩ | ⟨-, tenantless⟩ | ⟨-, admin⟩⟩ := pick_str_cases (Except.ok.inj found)
  · simp [Account.effectiveTenant, own, Datum.ofOption]
  · simp [Account.effectiveTenant, tenantless, Datum.ofOption, Datum.truthy]
  · simp [Account.effectiveTenant, admin]

/-- The empty tenant is not open: no tenant has the empty id. -/
theorem tenantOpen_empty : auth.tenantOpen (.str "") = .ok false := by
  simp [tenantOpen, TenantDirectory.exists?, TenantDirectory.get?_empty, bind, Except.bind, pure,
    Except.pure]

/-! ## The last stage: tenant check and token -/

theorem issue_of_closed (tenantId : Datum) (notAdmin : a.role ≠ .systemAdmin)
    (closed : auth.tenantOpen tenantId = .ok false) (now : Int) :
    auth.issue a tenantId now = .error (.rejected .tenantNotFound) := by
  simp [issue, notAdmin, closed, bind, Except.bind, throw, throwThe, MonadExceptOf.throw]

/-- The last stage lets through a system administrator or anyone at a known, active tenant. -/
theorem admitted_of_issue {tenantId : Datum} {now : Int} {R : LoginResult}
    (issued : auth.issue a tenantId now = .ok R) :
    a.role = .systemAdmin ∨ auth.tenantOpen tenantId = .ok true := by
  by_cases admin : a.role = .systemAdmin
  · exact .inl admin
  · refine .inr ?_
    cases gate : auth.tenantOpen tenantId with
    | error f => simp [issue, admin, gate, bind, Except.bind] at issued
    | ok opened =>
      cases opened
      · simp [issue, admin, gate, bind, Except.bind, throw, throwThe, MonadExceptOf.throw] at issued
      · rfl

/-- An account let through has the tenant its session identity needs. -/
theorem required_of_admitted (admitted : a.role = .systemAdmin ∨ auth.tenantOpen (.str t) = .ok true) :
    (a.identityIn t).hasRequiredTenant = true := by
  rcases admitted with admin | opened
  · simp [Identity.hasRequiredTenant, Account.identityIn, admin]
  · have given : t ≠ "" := by
      rintro rfl
      rw [tenantOpen_empty] at opened
      cases opened
    simp [Identity.hasRequiredTenant, Account.identityIn, given]

/-- Past the tenant check, the last stage signs the account's identity in the tenant logged into. -/
theorem issue_of_admitted (found : find? ⟨some rs⟩ (.str t) u = .ok (some a))
    (admitted : a.role = .systemAdmin ∨ auth.tenantOpen (.str t) = .ok true) (now : Int) :
    auth.issue a (.str t) now =
      auth.tokens.issue (a.identityIn t) now >>= fun token =>
        auth.tenants.withDefaults (.str t) >>= fun tenant =>
          .ok { token, expiresIn := sessionLifetime, user := a, tenantId := .str t, tenant } := by
  have tenant := effectiveTenant_of_find? found
  have required := required_of_admitted auth admitted
  simp only [issue, tenant]
  rcases admitted with admin | opened
  · simp [admin, identity_eq, required, bind, Except.bind, pure, Except.pure]
  · simp [opened, identity_eq, required, bind, Except.bind, pure, Except.pure]

/-- An admitted account gets a session when the service can sign and the tenant's document reads. -/
theorem issue_of_open (found : find? ⟨some rs⟩ (.str t) u = .ok (some a))
    (admitted : a.role = .systemAdmin ∨ auth.tenantOpen (.str t) = .ok true) {now : Int}
    (signs : auth.tokens.CanSign now) (readable : auth.tenants.Readable t) :
    ∃ R, auth.issue a (.str t) now = .ok R := by
  obtain ⟨token, signed⟩ := TokenService.issue_of_canSign signs (a.identityIn t)
  obtain ⟨config, configured⟩ := TenantDirectory.withDefaults_of_readable readable
  exact ⟨_, by rw [issue_of_admitted auth found admitted, signed, configured]; rfl⟩

theorem issue_counter (a : Account) (n : Int) (tenantId : Datum) (now : Int) :
    auth.issue { a with failedLoginAttempts := n } tenantId now =
      (auth.issue a tenantId now).map fun R => { R with user := { a with failedLoginAttempts := n } } := by
  have same : identity { a with failedLoginAttempts := n } = identity a := rfl
  simp only [issue, same]
  generalize Account.effectiveTenant a.role (Datum.ofOption a.tenantId) tenantId = effective
  -- the tenant check reads the role, and the identity, the token and the configuration after
  -- it are the same for both: only the account handed back differs
  by_cases admin : a.role = .systemAdmin
  · cases read : identity a effective with
    | error f => simp [admin, bind, Except.bind, Except.map]
    | ok i =>
      cases signed : auth.tokens.issue i now <;> cases configured : auth.tenants.withDefaults effective <;>
        simp [admin, signed, bind, Except.bind, Except.map, pure, Except.pure]
  · cases gate : auth.tenantOpen tenantId with
    | error g => simp [admin, bind, Except.bind, Except.map]
    | ok opened =>
      cases opened
      · simp [admin, bind, Except.bind, Except.map, throw, throwThe, MonadExceptOf.throw]
      · cases read : identity a effective with
        | error f => simp [admin, bind, Except.bind, Except.map]
        | ok i =>
          cases signed : auth.tokens.issue i now <;>
            cases configured : auth.tenants.withDefaults effective <;>
            simp [admin, signed, bind, Except.bind, Except.map, pure, Except.pure]

/-! ## The checks before the last stage -/

/-- A login on a disabled account is refused as disabled and writes nothing. -/
theorem login_of_disabled (found : find? ⟨some rs⟩ (.str t) u = .ok (some a))
    (inactive : a.isActive = false) (password : Datum) (now : Int) :
    auth.login ⟨some rs⟩ (.str t) u password now = (⟨some rs⟩, .error (.rejected .accountDisabled)) := by
  simp [login, found, inactive]

theorem writeStage_refused (keyed : Keyed rs) (found : find? ⟨some rs⟩ (.str t) u = .ok (some a))
    {r : Int} (rounds : auth.bcryptRounds = .int r) (low : 4 ≤ r) (high : r ≤ 31) {p : String}
    (matched : Password.verify (.str p) (.str a.passwordHash) = .ok true) (now : Int)
    {cur : Account} (same : SameIdentity a cur) (locked : cur.isLocked = true) :
    auth.writeStage ⟨some (replaceRow rs cur)⟩ a (.str p) now =
      (⟨some (replaceRow rs cur)⟩, .answered (.error (.rejected .accountLocked))) := by
  have member := mem_of_find? found
  obtain ⟨newHash, accepted⟩ := accept_of_match auth (keyed_replaceRow keyed member same)
    (mem_replaceRow member same) same.id.symm rounds low high matched now
  simp [writeStage, matched, accepted, locked]

theorem login_counter_blind (keyed : Keyed rs)
    (found : find? ⟨some rs⟩ (.str t) u = .ok (some a)) {r : Int}
    (rounds : auth.bcryptRounds = .int r) (low : 4 ≤ r) (high : r ≤ 31) (p : String) (now n : Int)
    (sameLock : (a.afterFailure auth.maxFailedAttempts now).isLocked =
      ({ a with failedLoginAttempts := n }.afterFailure auth.maxFailedAttempts now).isLocked) :
    (auth.login ⟨some (replaceRow rs { a with failedLoginAttempts := n })⟩ (.str t) u (.str p)
        now).2 =
      (auth.login ⟨some rs⟩ (.str t) u (.str p) now).2.map
        fun R => { R with user := { a with failedLoginAttempts := n } } := by
  have same : SameIdentity a { a with failedLoginAttempts := n } := ⟨rfl, rfl, rfl, rfl, rfl⟩
  have member := mem_of_find? found
  have keyed' := keyed_replaceRow keyed member same
  have found' := find?_replaceRow keyed member same found
  -- the lookup finds the other version, which passes the same checks
  rcases Bool.eq_false_or_eq_true a.isActive with active | inactive
  swap
  · rw [login_of_disabled auth found inactive, login_of_disabled auth found' inactive]
    rfl
  rcases Bool.eq_false_or_eq_true a.isLocked with locked | locked
  swap
  · rcases Password.verify_str p (.str a.passwordHash) with matched | mismatch
    · obtain ⟨_, step⟩ := login_of_match auth keyed found active locked rounds low high matched now
      obtain ⟨_, step'⟩ :=
        login_of_match auth keyed' found' active locked rounds low high matched now
      rw [step, step']
      exact issue_counter auth a n (.str t) now
    · rw [login_of_mismatch auth keyed found active locked mismatch now,
        login_of_mismatch auth keyed' found' active locked mismatch now, ← sameLock]
      rfl
  · rw [login_of_locked auth found active locked, login_of_locked auth found' active locked]
    rfl

/-! ## The table -/

/-- The decision table of a login in tenant `t` by login name `u` with password `p` at `now`,
over a table `rs`, for the answer `answer`: each row is a check and what it answers. -/
structure LoginTable (rs : List Account) (t u p : String) (now : Int)
    (answer : Except Fault LoginResult) : Prop where
  /-- No account of that name: invalid credentials, the same answer as a wrong password. -/
  unknown : find? ⟨some rs⟩ (.str t) u = .ok none → answer = .error (.rejected .invalidCredentials)
  /-- A disabled account, whatever its lock and the password. -/
  disabled : ∀ a, find? ⟨some rs⟩ (.str t) u = .ok (some a) → a.isActive = false →
    answer = .error (.rejected .accountDisabled)
  /-- An active account that is locked, whatever the password. -/
  locked : ∀ a, find? ⟨some rs⟩ (.str t) u = .ok (some a) → a.isActive = true →
    a.isLocked = true → answer = .error (.rejected .accountLocked)
  /-- A wrong password: a locked account when the failure written leaves the account locked,
  invalid credentials otherwise. -/
  mismatch : ∀ a, find? ⟨some rs⟩ (.str t) u = .ok (some a) → a.isActive = true →
    a.isLocked = false → Password.verify (.str p) (.str a.passwordHash) = .ok false →
    answer = .error (.rejected (if (a.afterFailure auth.maxFailedAttempts now).isLocked then
      .accountLocked else .invalidCredentials))
  /-- A right password of anyone but a system administrator, at a tenant that is not known and
  active. -/
  tenantClosed : ∀ a, find? ⟨some rs⟩ (.str t) u = .ok (some a) → a.isActive = true →
    a.isLocked = false → Password.verify (.str p) (.str a.passwordHash) = .ok true →
    a.role ≠ .systemAdmin → auth.tenantOpen (.str t) = .ok false →
    answer = .error (.rejected .tenantNotFound)
  /-- A right password of a system administrator, or at a known and active tenant: a session,
  when the service can sign it and the directory reads the tenant's document. -/
  admitted : ∀ a, find? ⟨some rs⟩ (.str t) u = .ok (some a) → a.isActive = true →
    a.isLocked = false → Password.verify (.str p) (.str a.passwordHash) = .ok true →
    (a.role = .systemAdmin ∨ auth.tenantOpen (.str t) = .ok true) →
    auth.tokens.CanSign now → auth.tenants.Readable t → ∃ R, answer = .ok R
  /-- A right password whose write meets the row locked since the lookup: the write is
  refused, and the answer is a locked account. -/
  refused : ∀ a, find? ⟨some rs⟩ (.str t) u = .ok (some a) →
    Password.verify (.str p) (.str a.passwordHash) = .ok true →
    ∀ cur, SameIdentity a cur → cur.isLocked = true →
    auth.writeStage ⟨some (replaceRow rs cur)⟩ a (.str p) now =
      (⟨some (replaceRow rs cur)⟩, .answered (.error (.rejected .accountLocked)))
  /-- The counter reaches the answer only through the lock a failure leaves. -/
  counterBlind : ∀ a, find? ⟨some rs⟩ (.str t) u = .ok (some a) → ∀ n : Int,
    (a.afterFailure auth.maxFailedAttempts now).isLocked =
      ({ a with failedLoginAttempts := n }.afterFailure auth.maxFailedAttempts now).isLocked →
    (auth.login ⟨some (replaceRow rs { a with failedLoginAttempts := n })⟩ (.str t) u (.str p)
        now).2 = answer.map fun R => { R with user := { a with failedLoginAttempts := n } }

/-- Every login on a keyed table, under a cost bcrypt takes, answers by the decision table. -/
theorem login_decision (keyed : Keyed rs) {r : Int} (rounds : auth.bcryptRounds = .int r)
    (low : 4 ≤ r) (high : r ≤ 31) (t u p : String) (now : Int) :
    auth.LoginTable rs t u p now (auth.login ⟨some rs⟩ (.str t) u (.str p) now).2 where
  unknown none := by rw [login_unknown auth _ _ _ _ _ none]
  disabled _ found inactive := by rw [login_of_disabled auth found inactive]
  locked _ found active locked := by rw [login_of_locked auth found active locked]
  mismatch _ found active unlocked mismatch := by
    rw [login_of_mismatch auth keyed found active unlocked mismatch now]
  tenantClosed _ found active unlocked matched notAdmin closed := by
    obtain ⟨_, step⟩ := login_of_match auth keyed found active unlocked rounds low high matched now
    rw [step]
    exact issue_of_closed auth _ notAdmin closed now
  admitted _ found active unlocked matched opened signs readable := by
    obtain ⟨_, step⟩ := login_of_match auth keyed found active unlocked rounds low high matched now
    rw [step]
    exact issue_of_open auth found opened signs readable
  refused _ found matched _ same locked :=
    writeStage_refused auth keyed found rounds low high matched now same locked
  counterBlind _ found n sameLock :=
    login_counter_blind auth keyed found rounds low high p now n sameLock

/-- The table for a wrong password on a clinician of the tenant `demo`. -/
theorem login_decision_clinician :
    let clinician : Account :=
      { id := "u1", tenantId := some "demo", username := "s.johnson", name := "S. Johnson",
        passwordHash := "$2b$04$abcdefghijklmnopqrstuv" }
    let auth : Authenticator :=
      { tenants := ⟨some [], [], ""⟩, tokens := ⟨"secret", "HS256", .inl 30⟩,
        bcryptRounds := .int 4 }
    Keyed [clinician] ∧ auth.bcryptRounds = .int 4 ∧ (4 : Int) ≤ 4 ∧ (4 : Int) ≤ 31 ∧
      auth.LoginTable [clinician] "demo" "s.johnson" "wrong" 1
        (auth.login ⟨some [clinician]⟩ (.str "demo") "s.johnson" (.str "wrong") 1).2 := by
  intro clinician auth
  have keyed : Keyed [clinician] := by decide
  exact ⟨keyed, rfl, by decide, by decide,
    login_decision auth keyed rfl (by decide) (by decide) "demo" "s.johnson" "wrong" 1⟩

/-- A clinician of the tenant `demo` whose stored hash is made, at cost 4, from the password
`pw-123456`. -/
def demoClinician : Account :=
  { id := "u1", tenantId := some "demo", username := "s.johnson", name := "S. Johnson",
    passwordHash := Bcrypt.hash .b 4 (List.replicate 16 0) (Jws.bytes "pw-123456") }

theorem find?_demoClinician :
    find? ⟨some [demoClinician]⟩ (.str "demo") "s.johnson" = .ok (some demoClinician) :=
  find?_of_member (List.pairwise_singleton _ _) (List.mem_singleton_self _) rfl rfl (by decide)
    ⟨by decide, by rintro _ ⟨⟩; decide⟩

theorem verify_demoClinician :
    Password.verify (.str "pw-123456") (.str demoClinician.passwordHash) = .ok true := by
  have encoded : Password.bytesOf (.str "pw-123456") = .ok (Jws.bytes "pw-123456") := by
    simp [Password.bytesOf, Surrogate.utf8?, Jws.bytes,
      show Surrogate.carries "pw-123456" = false by decide]
  exact Password.verify_hash encoded (by decide +kernel) .b (by decide) (by simp)

/-- The right password of `demoClinician`, under cost 4, reaches the last stage. -/
theorem login_demoClinician (rounds : auth.bcryptRounds = .int 4) :
    ∃ newHash, auth.login ⟨some [demoClinician]⟩ (.str "demo") "s.johnson" (.str "pw-123456") 1 =
      (⟨some (replaceRow [demoClinician] (demoClinician.afterSuccess 1 newHash))⟩,
        auth.issue demoClinician (.str "demo") 1) :=
  login_of_match auth (List.pairwise_singleton _ _) find?_demoClinician rfl rfl rounds
    (by decide) (by decide) verify_demoClinician 1

/-- Under a public-key secret, a right password gets the signer's fault and no session. -/
theorem login_decision_publicKey :
    let auth : Authenticator :=
      { tenants := ⟨some [{ id := "demo", name := "Demo" }], [], ""⟩,
        tokens := ⟨"-----BEGIN PUBLIC KEY-----\nMFkw\n-----END PUBLIC KEY-----\n", "HS256", .inl 30⟩,
        bcryptRounds := .int 4 }
    (auth.login ⟨some [demoClinician]⟩ (.str "demo") "s.johnson" (.str "pw-123456") 1).2 =
      .error .signing := by
  intro auth
  obtain ⟨newHash, logged⟩ := login_demoClinician auth rfl
  have opened : auth.tenantOpen (.str "demo") = .ok true := by cbv
  have unusable : (Surrogate.carries auth.tokens.secret ||
      Jws.isAsymmetric (Jws.bytes auth.tokens.secret)) = true := by cbv
  have refused := TokenService.issue_of_unusable (rfl : Jws.Algorithm.ofName? "HS256" = some .hs256)
    unusable (demoClinician.identityIn "demo") 1 (Json.lt_ten_pow_maxIntDigits (by decide))
    (Json.lt_ten_pow_maxIntDigits (by decide))
  rw [logged, issue_of_admitted auth find?_demoClinician (.inr opened), refused]
  rfl

end Authenticator

end TenantAuth
