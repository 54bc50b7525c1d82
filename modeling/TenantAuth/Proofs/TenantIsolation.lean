import Mathlib
import TenantAuth.Proofs.AccessDecision
import TenantAuth.Proofs.LoginResult
import TenantAuth.Proofs.TokenSoundness
import TenantAuth.Proofs.UnlockEndpoint

/-!
# Tenant isolation from login to access

A person other than a system administrator is bound to one tenant from login to every access:

* a login that hands back a session for such a person names a tenant, which is the account's
  own, and the session's token verifies only to claims of that tenant, whichever key accepts it
  and whenever it is checked (`TokenService.eq_paired_of_verify`);
* a tenant-scoped operation admits such a person only when the request names a tenant, which is
  the one of the claims the bearer token verified to, and the request then acts for it
  (`Portal.Service.access_tenant`).

So the token of a login in one tenant never opens a tenant-scoped operation of another
(`Authenticator.tenant_isolation`).
-/

namespace TenantAuth

namespace Claims

/-- Claims as the JSON reader gives them back: each text with its split surrogate pairs joined. -/
def paired (c : Claims) : Claims :=
  { c with
    userId := Json.pairedText c.userId
    tenantId := c.tenantId.map Json.pairedText
    username := Json.pairedText c.username
    name := Json.pairedText c.name
    linkedPatientId := c.linkedPatientId.map Json.pairedText }

theorem reread_ofOption_map (o : Option String) :
    Json.reread (Datum.ofOption o) = Datum.ofOption (o.map Json.pairedText) := by
  cases o <;> rfl

theorem parse_render_paired (c : Claims) (early : c.iat.natAbs < 10 ^ Json.maxIntDigits)
    (late : c.exp.natAbs < 10 ^ Json.maxIntDigits) :
    Json.parse (Json.render true c.toDatum) = .ok c.paired.toDatum := by
  have plain : ∀ s : String, Surrogate.carries s = false → Json.pairedText s = s :=
    fun _ uncarried => Json.pairedText_of_carries uncarried
  rw [toDatum_eq, Json.parse_render_record _ (by simp)]
  · simp only [List.map_cons, List.map_nil, reread_ofOption_map, Json.reread_value,
      Json.reread_plain (show Surrogate.carries kindTag = false by decide)]
    rfl
  · simp only [List.forall_mem_cons, List.not_mem_nil, IsEmpty.forall_iff, forall_const, and_true]
    and_intros <;> exact plain _ (by decide)
  · simp only [List.forall_mem_cons, List.not_mem_nil, IsEmpty.forall_iff, forall_const, and_true]
    and_intros <;> first | exact .str _ | exact Json.scalar_ofOption _ | exact .int early | exact .int late

theorem hasRequiredTenant_paired (c : Claims) :
    c.paired.hasRequiredTenant = c.hasRequiredTenant := by
  cases tenant : c.tenantId <;>
    simp [paired, Identity.hasRequiredTenant, tenant, Json.isEmpty_pairedText]

end Claims

namespace TokenService

theorem eq_paired_of_verify {svc : TokenService} {x : Identity} {now later : Int} {token : String}
    {c : Claims} (issued : svc.issue x now = .ok token) (tenant : x.hasRequiredTenant = true)
    (accepted : svc.verify (.str token) later = .ok (some c)) :
    c = (Claims.ofIdentity x now).paired := by
  obtain ⟨early, late⟩ := Claims.times_of_hasLongInt _ (Jws.short_of_sign issued)
  obtain ⟨es, -, -, signed, -, -, -, valid⟩ := verify_eq_some accepted
  obtain ⟨alg, signingInput, checked⟩ := Jws.verify_sign issued
  rw [checked, Jws.readJson_bytes (Claims.parse_render_paired _ early late)] at signed
  -- the payload handed on is the document of the claims read back, whichever key signs
  have payload : Datum.dict es = (Claims.ofIdentity x now).paired.toDatum := by
    cases signs : (Jws.keys svc.secret >>= Jws.anyKeySigns alg signingInput
      (alg.digest.hmac (Jws.bytes svc.secret) signingInput)) with
    | error f =>
      rw [signs] at signed
      simp [bind, Except.bind] at signed
    | ok keyed =>
      rw [signs] at signed
      cases keyed <;> simp [bind, Except.bind, pure, Except.pure, Except.map] at signed
      rw [Claims.toDatum_eq, Datum.entries?_record, Option.some.injEq] at signed
      rw [Claims.toDatum_eq, Datum.record, signed]
  have read := Claims.read_toDatum (Claims.ofIdentity x now).paired
    (by rw [Claims.hasRequiredTenant_paired]; exact tenant) rfl
  rw [← payload, valid] at read
  exact Except.ok.inj read

end TokenService

namespace CredentialStore

open Account

theorem tenantId_of_find? {rs : List Account} {a : Account} {t u : String}
    (found : find? ⟨some rs⟩ (.str t) u = .ok (some a)) (given : t ≠ "")
    (nonAdmin : a.role ≠ .systemAdmin) : a.tenantId = some t := by
  rw [find?_eq_pick rs (bindable_of_find? found).1] at found
  obtain ⟨-, -, ⟨-, own⟩ | ⟨empty, -⟩ | ⟨-, admin⟩⟩ := pick_str_cases (Except.ok.inj found)
  · exact own
  · exact absurd empty given
  · exact absurd admin nonAdmin

end CredentialStore

namespace Portal

namespace Service

theorem session_of_provenCaller {token : Datum} {session : Option Claims}
    {delegated : Option (Datum → Delegated.Report)} {c : Claims}
    (proven : Access.provenCaller token session delegated = some (.user c)) : session = some c := by
  unfold Access.provenCaller at proven
  split at proven
  · rcases session with _ | c'
    · rcases delegated with _ | verify
      · cases proven
      · simp [Option.map_eq_some_iff] at proven
    · simpa using proven
  · cases proven

theorem verify_of_authenticate {s : Service} {req : Http.Request} {now : Int} {c : Claims}
    (authenticated : (s.authenticate req now).1 = .ok (.user c)) :
    s.authenticator.tokens.verify (Datum.ofOption (bearerToken (req.header? "authorization")))
      now = .ok (some c) := by
  obtain ⟨d, found⟩ := authenticate_of_ok authenticated
  cases verified : s.authenticator.tokens.verify
      (Datum.ofOption (bearerToken (req.header? "authorization"))) now with
  | error f =>
    -- a session check that faults ends authentication with that fault
    by_cases present : (Datum.ofOption (bearerToken (req.header? "authorization"))).truthy
    · simp [Access.authenticate, Access.sessionPrincipal, present, verified, bind,
        Except.bind] at found
    · simp [Access.authenticate, present] at found
  | ok session =>
    rw [Access.authenticate_fst verified] at found
    split at found
    · next p proven =>
      cases found
      rw [session_of_provenCaller proven]
    · cases found

theorem verify_of_access {s : Service} {req : Http.Request} {now : Int} {operation : String}
    {isScoped : Bool} {ctx : AccessContext} (admitted : (s.access req now operation isScoped).1 = .ok ctx)
    {c : Claims} (person : ctx.principal = .user c) :
    (s.authenticate req now).1 = .ok (.user c) ∧
      s.authenticator.tokens.verify (Datum.ofOption (bearerToken (req.header? "authorization")))
        now = .ok (some c) := by
  obtain ⟨p, authenticated, passed⟩ := access_eq_ok.mp admitted
  -- the later stages hand on the caller authentication found
  obtain ⟨roles, -, -, -, -, rfl⟩ := Access.authorize_eq_ok.mp passed
  cases person
  exact ⟨authenticated, verify_of_authenticate authenticated⟩

theorem access_tenant {s : Service} {req : Http.Request} {now : Int} {operation : String}
    {ctx : AccessContext} (admitted : (s.access req now operation true).1 = .ok ctx) {c : Claims}
    (person : ctx.principal = .user c) (nonAdmin : c.role ≠ .systemAdmin) :
    ∃ h, h ≠ "" ∧ Datum.ofOption (req.header? "x-tenant-id") = .str h ∧
      s.authenticator.tokens.verify (Datum.ofOption (bearerToken (req.header? "authorization")))
        now = .ok (some c) ∧ c.tenantId = some h ∧ ctx.tenantId = .str h := by
  obtain ⟨authenticated, verified⟩ := verify_of_access admitted person
  obtain ⟨p, authenticated', passed⟩ := access_eq_ok.mp admitted
  obtain rfl : p = .user c := Except.ok.inj (authenticated'.symm.trans authenticated)
  obtain ⟨h, own, nonempty, named, rfl⟩ := Access.authorize_scoped_user nonAdmin passed
  exact ⟨h, nonempty, named, verified, own, rfl⟩

end Service

end Portal

namespace Authenticator

open CredentialStore

variable (auth : Authenticator)

/-- A login's token opens a tenant-scoped operation for a person only in the tenant logged into. -/
theorem tenant_isolation (users : CredentialStore) (t u : String) (p : Datum) (now : Int)
    {R : LoginResult} (succeeded : (auth.login users (.str t) u p now).2 = .ok R)
    (nonAdmin : R.user.role ≠ .systemAdmin) :
    t ≠ "" ∧ R.user.tenantId = some t ∧
      (∀ later c, auth.tokens.verify (.str R.token) later = .ok (some c) →
        c.tenantId = some t ∧ c.role = R.user.role) ∧
      (∀ (s : Portal.Service) (req : Http.Request) (later : Int) (operation : String)
        (ctx : AccessContext) (c : Claims), (s.access req later operation true).1 = .ok ctx →
        ctx.principal = .user c → c.role ≠ .systemAdmin →
        ∃ h, h ≠ "" ∧ Datum.ofOption (req.header? "x-tenant-id") = .str h ∧
          s.authenticator.tokens.verify
            (Datum.ofOption (Portal.bearerToken (req.header? "authorization"))) later =
            .ok (some c) ∧ c.tenantId = some h ∧ ctx.tenantId = .str h) ∧
      ∀ (s : Portal.Service) (req : Http.Request) (later : Int) (operation : String)
        (ctx : AccessContext) (c : Claims), s.authenticator.tokens = auth.tokens →
        Portal.bearerToken (req.header? "authorization") = some R.token →
        (s.access req later operation true).1 = .ok ctx → ctx.principal = .user c →
        ctx.tenantId = .str t := by
  obtain ⟨rs, a, -, found, issued⟩ := issue_of_login auth succeeded
  obtain ⟨made, signed, -, required⟩ := eq_of_issue auth found issued
  have user : R.user = a := by rw [made]
  rw [user] at nonAdmin ⊢
  -- anyone but a system administrator was let through at an open tenant, which is no empty one
  have given : t ≠ "" := by
    rcases admitted_of_issue auth issued with admin | opened
    · exact absurd admin nonAdmin
    · rintro rfl
      rw [tenantOpen_empty] at opened
      cases opened
  have own := tenantId_of_find? found given nonAdmin
  have plain : Json.pairedText t = t :=
    Json.pairedText_of_carries ((bindable_of_find? found).1.2 t rfl)
  -- the token verifies only to the claims issued, of the tenant logged into
  have claimed : ∀ later c, auth.tokens.verify (.str R.token) later = .ok (some c) →
      c.tenantId = some t ∧ c.role = a.role := by
    intro later c accepted
    rw [TokenService.eq_paired_of_verify signed required accepted]
    simp [Claims.paired, Claims.ofIdentity, Account.identityIn, plain]
  refine ⟨given, own, claimed,
    fun _ _ _ _ _ _ admitted person => Portal.Service.access_tenant admitted person, ?_⟩
  intro s req later operation ctx c sameTokens bearer admitted person
  -- the person admitted is the one of the token's claims, so of the tenant logged into
  have verified := (Portal.Service.verify_of_access admitted person).2
  rw [bearer, sameTokens] at verified
  obtain ⟨tenant, role⟩ := claimed later c verified
  obtain ⟨h, -, -, -, own', acts⟩ := Portal.Service.access_tenant admitted person (role ▸ nonAdmin)
  rw [acts, ← Option.some.inj (own'.symm.trans tenant)]

/-- The session of a clinician of `demo` is bound to `demo`. -/
theorem tenant_isolation_clinician :
    ∃ R, (demoAuthenticator.login ⟨some [demoClinician]⟩ (.str "demo") "s.johnson"
        (.str "pw-123456") 1).2 = .ok R ∧ R.user.role ≠ .systemAdmin ∧
      R.user.tenantId = some "demo" ∧
      ∀ later c, demoAuthenticator.tokens.verify (.str R.token) later = .ok (some c) →
        c.tenantId = some "demo" := by
  obtain ⟨R, succeeded, user⟩ := login_demoAuthenticator
  have nonAdmin : R.user.role ≠ .systemAdmin := by
    rw [user]
    decide
  obtain ⟨-, own, claimed, -⟩ :=
    tenant_isolation demoAuthenticator _ "demo" "s.johnson" (.str "pw-123456") 1 succeeded nonAdmin
  exact ⟨R, succeeded, nonAdmin, own, fun later c accepted => (claimed later c accepted).1⟩

end Authenticator

end TenantAuth
