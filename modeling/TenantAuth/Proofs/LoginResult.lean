import Mathlib
import TenantAuth.Proofs.LoginDecision

/-!
# What a successful login hands back

A login that hands back a result (`Authenticator.login_result`) has signed in the tenant
logged into, for a session's lifetime, and its token verifies, under a secret that names itself
as its only key and a whole tolerance, to the claims of the account read in that tenant, issued
at the time of the login, until the session and the tolerance have passed.

The configuration handed back with it has the tenant id as identifier, whether it comes from the
tenants table or is made of defaults; a fallback document may name an identifier of its own
(`TenantDirectory.FallbackId`), and that identifier is handed back in place of the tenant the
token carries (`Authenticator.login_result_fallbackId`).
-/

namespace TenantAuth

namespace Jws

/-- A payload that signed holds no integer too long to write. -/
theorem short_of_sign {algorithm secret : String} {payload : Datum} {token : String}
    (signed : sign algorithm secret payload = .ok token) : payload.hasLongInt = false := by
  unfold sign at signed
  split at signed
  · cases signed
  · split at signed
    · cases signed
    · simp_all

end Jws

namespace Claims

/-- Claims with no integer too long to write have times that can be written out. -/
theorem times_of_hasLongInt (c : Claims) (short : c.toDatum.hasLongInt = false) :
    c.iat.natAbs < 10 ^ Json.maxIntDigits ∧ c.exp.natAbs < 10 ^ Json.maxIntDigits := by
  have shown : Datum.maxShownDigits = Json.maxIntDigits := rfl
  rw [toDatum_eq] at short
  cases c.tenantId <;> cases c.linkedPatientId <;>
    simp_all [Datum.record, Datum.ofOption, Datum.hasLongInt, Datum.anyLongIntEntry]

end Claims

namespace TokenService

/-- An issued token verifies to the claims issued until a session and the tolerance have passed. -/
theorem verify_of_issue {svc : TokenService} {k : Int} {x : Identity} {now : Int} {token : String}
    (issued : svc.issue x now = .ok token) (selfKeyed : Jws.keys svc.secret = .ok [.str svc.secret])
    (skew : svc.clockSkew = .inl k) (tenant : x.hasRequiredTenant = true)
    (unsplit : ∀ s ∈ x.texts, Json.splitPair s.toList = false) (later : Int) :
    svc.verify (.str token) later =
      .ok (if later ≤ now + sessionLifetime + k then some (Claims.ofIdentity x now) else none) := by
  -- the signer took the payload, so its times can be written out and read back
  obtain ⟨early, late⟩ := Claims.times_of_hasLongInt _ (Jws.short_of_sign issued)
  obtain ⟨alg, -, rfl⟩ := Jws.eq_segments_of_sign issued
  have checked := Jws.verify_sign_self issued selfKeyed
  rw [Jws.readJson_bytes (Claims.parse_render_toDatum _ unsplit early late)] at checked
  exact verify_of_claims (Jws.isEmpty_segments ..) checked (Claims.read_toDatum _ tenant rfl) skew later

end TokenService

namespace TenantDirectory

theorem id_of_build {d : TenantDirectory} {s : String} {doc : Datum} {c : TenantConfig}
    (built : d.build s doc = .ok (some c)) :
    ∃ entries, doc.unwrap = .dict entries ∧
      Lax.text (orElse ((Datum.lookup entries (.str "id")).getD .none) s) = .ok c.id := by
  unfold build at built
  dsimp only at built
  split at built
  rotate_left
  · simp [bind, Except.bind, throw, throwThe, MonadExceptOf.throw] at built
  rename_i entries unwrapped
  refine ⟨entries, unwrapped, ?_⟩
  simp only [pure, Except.pure, bind, Except.bind, throw, throwThe, MonadExceptOf.throw] at built
  repeat' split at built
  all_goals try cases built
  -- what is left is the document that validates, whose id is the text read last
  rename_i idRead _ _ _
  revert idRead
  cases Lax.text (orElse ((Datum.lookup entries (.str "id")).getD .none) s) <;>
    simp [Except.toOption]

theorem text_orElse {v : Datum} {s name : String} (read : Lax.text (orElse v s) = .ok name) :
    name = s ∨ v.truthy = true ∧ Lax.text v = .ok name := by
  unfold orElse at read
  split at read
  · exact .inr ⟨‹_›, read⟩
  · exact .inl (by simpa [Lax.text] using read.symm)

theorem id_of_build_record {d : TenantDirectory} {r : TenantRecord} {c : TenantConfig}
    (built : d.build r.id r.toDatum = .ok (some c)) : c.id = r.id := by
  obtain ⟨entries, unwrapped, read⟩ := id_of_build built
  simp only [TenantRecord.toDatum, Datum.record, Datum.unwrap, Datum.dict.injEq] at unwrapped
  subst unwrapped
  simp only [Datum.lookup_record, List.lookup] at read
  rcases text_orElse read with same | ⟨-, named⟩
  · exact same
  · simpa [Lax.text] using named.symm

theorem id_of_build_doc {d : TenantDirectory} {t : String} {doc : Datum} {c : TenantConfig}
    (built : d.build t doc = .ok (some c)) :
    c.id = t ∨ ∃ entries v, doc.unwrap = .dict entries ∧
      Datum.lookup entries (.str "id") = some v ∧ v.truthy = true ∧ Lax.text v = .ok c.id := by
  obtain ⟨entries, unwrapped, read⟩ := id_of_build built
  rcases text_orElse read with same | ⟨truthy, named⟩
  · exact .inl same
  · cases idEntry : Datum.lookup entries (.str "id") with
    | none => simp [idEntry, Datum.truthy] at truthy
    | some v =>
      rw [idEntry] at truthy named
      exact .inr ⟨entries, v, unwrapped, idEntry, truthy, named⟩

/-- A tenant the table does not list, whose fallback document names an identifier `name` of its
own: a non-empty `id` whose text is `name`. -/
structure FallbackId (d : TenantDirectory) (t name : String) : Prop where
  unlisted : ∃ rs, d.records = some rs ∧ ∀ r ∈ rs, r.id ≠ t
  own : ∃ doc entries v, d.fallback.lookup t = some doc ∧ doc.unwrap = .dict entries ∧
    Datum.lookup entries (.str "id") = some v ∧ v.truthy = true ∧ Lax.text v = .ok name

theorem id_of_get? {d : TenantDirectory} {t : String} {c : TenantConfig}
    (found : d.get? (.str t) = .ok (some c)) : c.id = t ∨ d.FallbackId t c.id := by
  unfold get? at found
  have keyed : identityOf (.str t) = .ok (.str t) := by
    simp [identityOf, Datum.isKey, bind, Except.bind, pure, Except.pure]
  simp only [keyed, bind, Except.bind, pure, Except.pure] at found
  -- an empty id finds nothing
  split at found
  · cases found
  cases rows : d.rows with
  | error f => simp [rows] at found
  | ok rs =>
    cases text : Column.optionalText (.str t) with
    | error f => simp [rows, text] at found
    | ok key =>
      have named : key = some t := by
        simp only [Column.optionalText, Column.text] at text
        split at text <;> simp_all [Except.map]
      subst named
      simp only [rows, text, Option.bind_some] at found
      have listed : d.records = some rs := by
        unfold TenantDirectory.rows at rows
        split at rows <;> simp_all
      cases row : rs.find? (·.id == t) with
      | some r =>
        -- a row of the table, whose own id is the tenant id
        have own : r.id = t := by simpa using List.find?_some row
        rw [row, Datum.display_str, ← own] at found
        exact .inl ((id_of_build_record found).trans own)
      | none =>
        rw [row] at found
        cases listedDoc : d.fallback.lookup t with
        | none => simp [listedDoc] at found
        | some doc =>
          rw [listedDoc] at found
          rcases id_of_build_doc found with same | ⟨entries, v, named⟩
          · exact .inl same
          · refine .inr ⟨⟨rs, listed, fun r member same => ?_⟩,
              ⟨doc, entries, v, listedDoc, named⟩⟩
            simpa [same] using List.find?_eq_none.mp row r member

theorem id_of_withDefaults {d : TenantDirectory} {t : String} {c : TenantConfig}
    (configured : d.withDefaults (.str t) = .ok c) : c.id = t ∨ d.FallbackId t c.id := by
  unfold withDefaults at configured
  cases looked : d.get? (.str t) with
  | ok found =>
    cases found with
    | some c' =>
      simp only [looked, bind, Except.bind, pure, Except.pure, Except.ok.injEq] at configured
      exact configured ▸ id_of_get? looked
    | none =>
      simp only [looked, bind, Except.bind, pure, Except.pure, Except.ok.injEq] at configured
      exact .inl (configured ▸ rfl)
  | error f =>
    by_cases store : f.isStore
    · simp only [looked, store, if_true, bind, Except.bind, pure, Except.pure,
        Except.ok.injEq] at configured
      exact .inl (configured ▸ rfl)
    · simp [looked, store, bind, Except.bind, throw, throwThe, MonadExceptOf.throw] at configured

end TenantDirectory

namespace Authenticator

open CredentialStore

variable (auth : Authenticator)

/-- A login that hands back a result hands back the last stage's for the account read. -/
theorem issue_of_login {users : CredentialStore} {t u : String} {p : Datum} {now : Int}
    {R : LoginResult} (succeeded : (auth.login users (.str t) u p now).2 = .ok R) :
    ∃ rs a, users = ⟨some rs⟩ ∧ find? ⟨some rs⟩ (.str t) u = .ok (some a) ∧
      auth.issue a (.str t) now = .ok R := by
  obtain ⟨accounts⟩ := users
  cases accounts with
  | none => simp [login, find?, CredentialStore.rows, bind, Except.bind] at succeeded
  | some rs =>
    unfold login at succeeded
    split at succeeded
    · cases succeeded
    · cases succeeded
    · rename_i a found
      refine ⟨rs, a, rfl, found, ?_⟩
      -- every branch before the last stage answers with a fault
      repeat' split at succeeded
      all_goals try cases succeeded
      exact succeeded

/-- What the last stage hands back: the account, its tenant, the signed token and the configuration.
-/
theorem eq_of_issue {rs : List Account} {a : Account} {t u : String} {now : Int} {R : LoginResult}
    (found : find? ⟨some rs⟩ (.str t) u = .ok (some a)) (issued : auth.issue a (.str t) now = .ok R) :
    R = { token := R.token, expiresIn := sessionLifetime, user := a,
          tenantId := .str t, tenant := R.tenant } ∧
      auth.tokens.issue (a.identityIn t) now = .ok R.token ∧
      auth.tenants.withDefaults (.str t) = .ok R.tenant ∧ (a.identityIn t).hasRequiredTenant = true := by
  have admitted := admitted_of_issue auth issued
  rw [issue_of_admitted auth found admitted] at issued
  obtain ⟨token, signed, rest⟩ := Except.bind_eq_ok.mp issued
  obtain ⟨tenant, configured, made⟩ := Except.bind_eq_ok.mp rest
  cases made
  exact ⟨rfl, signed, configured, required_of_admitted auth admitted⟩

/-- A login's result acts in the tenant logged into, and its token verifies to the account's claims
for a session. -/
theorem login_result (users : CredentialStore) (t u : String) (p : Datum) (now : Int)
    {R : LoginResult} (succeeded : (auth.login users (.str t) u p now).2 = .ok R) {k : Int}
    (selfKeyed : Jws.keys auth.tokens.secret = .ok [.str auth.tokens.secret])
    (skew : auth.tokens.clockSkew = .inl k)
    (unsplit : ∀ s ∈ (R.user.identityIn t).texts, Json.splitPair s.toList = false) :
    R.tenantId = .str t ∧ R.expiresIn = 86400 ∧
      (∀ later, auth.tokens.verify (.str R.token) later =
        .ok (if later ≤ now + 86400 + k then some (Claims.ofIdentity (R.user.identityIn t) now)
          else none)) ∧
      (R.tenant.id = t ∨ auth.tenants.FallbackId t R.tenant.id) := by
  obtain ⟨rs, a, -, found, issued⟩ := issue_of_login auth succeeded
  obtain ⟨made, signed, configured, required⟩ := eq_of_issue auth found issued
  -- the result names the account read, in the tenant logged into
  have user : R.user = a := by rw [made]
  have tenant : R.tenantId = .str t := by rw [made]
  have lifetime : R.expiresIn = sessionLifetime := by rw [made]
  refine ⟨tenant, lifetime, fun later => ?_, TenantDirectory.id_of_withDefaults configured⟩
  rw [user] at unsplit ⊢
  exact TokenService.verify_of_issue signed selfKeyed skew required unsplit later


theorem canSign_sample : ({ secret := "s3cret-key" } : TokenService).CanSign 1 :=
  ⟨⟨.hs256, rfl⟩, by cbv, Json.lt_ten_pow_maxIntDigits (by decide),
    Json.lt_ten_pow_maxIntDigits (by decide)⟩

/-- Password logins over a tenants table that lists `demo`, under the sample service and cost 4. -/
def demoAuthenticator : Authenticator :=
  { tenants := ⟨some [{ id := "demo", name := "Demo" }], [], ""⟩,
    tokens := { secret := "s3cret-key" }, bcryptRounds := .int 4 }

/-- The right password of `demoClinician` gets a session for that account. -/
theorem login_demoAuthenticator :
    ∃ R, (demoAuthenticator.login ⟨some [demoClinician]⟩ (.str "demo") "s.johnson"
        (.str "pw-123456") 1).2 = .ok R ∧ R.user = demoClinician := by
  obtain ⟨newHash, logged⟩ := login_demoClinician demoAuthenticator rfl
  have opened : demoAuthenticator.tenantOpen (.str "demo") = .ok true := by cbv
  have readable : demoAuthenticator.tenants.Readable "demo" := by
    intro f failed
    have looked : (demoAuthenticator.tenants.get? (.str "demo")).toOption.isSome = true := by cbv
    rw [failed] at looked
    cases looked
  obtain ⟨R, issued⟩ := issue_of_open demoAuthenticator find?_demoClinician (.inr opened)
    canSign_sample readable
  exact ⟨R, by rw [logged, issued],
    by rw [(eq_of_issue demoAuthenticator find?_demoClinician issued).1]⟩

/-- A clinician of `demo` logs in, and the token verifies to the clinician's claims. -/
theorem login_result_clinician :
    ∃ R, (demoAuthenticator.login ⟨some [demoClinician]⟩ (.str "demo") "s.johnson"
        (.str "pw-123456") 1).2 = .ok R ∧ R.tenantId = .str "demo" ∧ R.expiresIn = 86400 ∧
      demoAuthenticator.tokens.verify (.str R.token) 1 =
        .ok (some (Claims.ofIdentity (demoClinician.identityIn "demo") 1)) ∧
      R.tenant.id = "demo" := by
  obtain ⟨R, succeeded, user⟩ := login_demoAuthenticator
  have unsplit : ∀ s ∈ (R.user.identityIn "demo").texts, Json.splitPair s.toList = false := by
    intro s member
    simp only [user, Identity.texts, Account.identityIn, demoClinician, List.mem_append,
      List.mem_cons, List.not_mem_nil, or_false, Option.toList_some, Option.toList_none] at member
    rcases member with ((rfl | rfl | rfl) | rfl) <;> exact Json.splitPair_of_carries (by decide)
  obtain ⟨tenant, lifetime, verified, named⟩ :=
    login_result demoAuthenticator _ "demo" "s.johnson" (.str "pw-123456") 1 succeeded
      (show Jws.keys "s3cret-key" = _ by rfl) rfl unsplit
  refine ⟨R, succeeded, tenant, lifetime, ?_, ?_⟩
  · rw [verified, if_pos (by decide), user]
  · rcases named with same | ⟨_, ⟨doc, -, -, listed, -⟩⟩
    · exact same
    · cases listed

/-- A fallback document naming its own identifier hands it back with the session. -/
theorem login_result_fallbackId :
    let auth : Authenticator :=
      { tenants := ⟨some [], [("demo", .dict [(.str "id", .str "other"), (.str "name", .str "Demo")])], ""⟩,
        tokens := { secret := "s3cret-key" }, bcryptRounds := .int 4 }
    ∃ R, (auth.login ⟨some [demoClinician]⟩ (.str "demo") "s.johnson" (.str "pw-123456") 1).2 =
        .ok R ∧ R.tenantId = .str "demo" ∧ R.tenant.id = "other" := by
  intro auth
  obtain ⟨newHash, logged⟩ := login_demoClinician auth rfl
  have opened : auth.tenantOpen (.str "demo") = .ok true := by cbv
  obtain ⟨token, signed⟩ := TokenService.issue_of_canSign canSign_sample (demoClinician.identityIn "demo")
  have named : (auth.tenants.withDefaults (.str "demo")).map (·.id) = .ok "other" := by cbv
  cases configured : auth.tenants.withDefaults (.str "demo") with
  | error f => simp [configured, Except.map] at named
  | ok config =>
    simp only [configured, Except.map, Except.ok.injEq] at named
    let R : LoginResult :=
      { token, expiresIn := sessionLifetime, user := demoClinician, tenantId := .str "demo",
        tenant := config }
    refine ⟨R, ?_, rfl, named⟩
    rw [logged, issue_of_admitted auth find?_demoClinician (.inr opened), signed, configured]
    rfl

end Authenticator

end TenantAuth
