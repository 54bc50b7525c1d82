import Mathlib
import TenantAuth.Portal.Service
import TenantAuth.Proofs.AccessDecision
import TenantAuth.Proofs.HashUpgrade
import TenantAuth.Proofs.LoginResult
import TenantAuth.Proofs.StoreRuns

/-!
# Who can unlock an account

The unlock endpoint runs the access pipeline for `users:unlock` as a tenant-scoped operation and
refuses a person outside the account's tenant as it refuses a missing account. It writes exactly
when the pipeline admits the caller and the caller may unlock the account (`Principal.mayUnlock`),
and then it changes that account alone, stamped with the time and the caller
(`Portal.Service.unlockUser_frame`). Tenant isolation has already forced the tenant acted for to be
the session's (`Access.authorize_scoped_user`).
-/

namespace TenantAuth

theorem Except.mapError_eq_ok {ε ε' α : Type} {x : Except ε α} {f : ε → ε'} {a : α} :
    x.mapError f = .ok a ↔ x = .ok a := by
  cases x <;> simp [Except.mapError]

namespace Principal

/-- The name a change is recorded under: a person's user id, a service's email. -/
def actor : Principal → String
  | .user c => c.userId
  | .service email => email

/-- Whether a caller may unlock an account: a service, a system administrator, or a person whose
session names the account's tenant. -/
def mayUnlock (p : Principal) (a : Account) : Bool :=
  match p with
  | .user c => c.role == .systemAdmin || a.tenantId == c.tenantId
  | .service _ => true

end Principal

namespace CredentialStore

theorem row?_replaceRow_of_ne (rs : List Account) (b : Account) {y : String} (other : y ≠ b.id) :
    row? ⟨some (replaceRow rs b)⟩ y = row? ⟨some rs⟩ y := by
  rw [row?_replaceRow_eq]
  cases found : row? ⟨some rs⟩ y with
  | none => rfl
  | some z =>
    have named := (mem_of_row? found).2
    have differs : (z.id == b.id) = false := by simpa [named] using other
    simp only [Option.map_some, differs, Bool.false_eq_true, if_false]

theorem get?_eq {rs : List Account} {x : String} (plain : Surrogate.carries x = false) :
    get? ⟨some rs⟩ x = .ok (rs.find? (·.id == x)) := by
  simp [get?, rows, bound, plain, bind, Except.bind, pure, Except.pure]

end CredentialStore

namespace Jws

set_option maxRecDepth 20000 in
theorem isBlank_symbol (v : Nat) : Blank.isBlank (Base64.symbol v) = false := by
  by_cases small : v < 64
  · revert v
    unfold Base64.symbol
    rw [Base64.urlSymbols_eq]
    decide
  · have outside : Base64.symbol v = 'A' := by
      simp [Base64.symbol, Array.getD, Base64.urlSymbols_eq, show ¬ v < 64 from small]
    rw [outside]
    decide

theorem isBlank_segments (h p s : List UInt8) :
    ∀ c ∈ (segments h p s).toList, Blank.isBlank c = false := by
  rw [segments_eq, String.toList_ofList]
  intro c member
  simp only [List.mem_append, List.mem_cons] at member
  rcases member with inH | rfl | inP | rfl | inS
  · obtain ⟨v, rfl⟩ := Base64.mem_encode inH
    exact isBlank_symbol v
  · decide
  · obtain ⟨v, rfl⟩ := Base64.mem_encode inP
    exact isBlank_symbol v
  · decide
  · obtain ⟨v, rfl⟩ := Base64.mem_encode inS
    exact isBlank_symbol v

end Jws

namespace Portal

theorem bearerToken_bearer {t : String} (nonempty : t.isEmpty = false)
    (plain : ∀ c ∈ t.toList, Blank.isBlank c = false) :
    bearerToken (some ("Bearer " ++ t)) = some t := by
  have noSpace : ' ' ∉ t.toList := fun member => absurd (plain ' ' member) (by decide)
  have parts : ("Bearer " ++ t).splitOn " " = ["Bearer", t] := by
    have chars : ("Bearer " ++ t).toList =
        [' '].intercalate [['B', 'e', 'a', 'r', 'e', 'r'], t.toList] := by
      simp [List.intercalate]
    have spelled : "Bearer " ++ t =
        String.ofList ([' '].intercalate [['B', 'e', 'a', 'r', 'e', 'r'], t.toList]) := by
      rw [← chars, String.ofList_toList]
    rw [spelled, show (" " : String) = String.ofList [' '] from rfl,
      Text.splitOn_intercalate (by simp [noSpace]) (by simp)]
    simp
  -- a credential without blanks has nothing to strip
  have stripped : Blank.strip t = t := by
    have kept : ∀ cs : List Char, (∀ c ∈ cs, Blank.isBlank c = false) →
        cs.dropWhile Blank.isBlank = cs := by
      intro cs clean
      cases cs with
      | nil => rfl
      | cons c cs => simp [clean c List.mem_cons_self]
    have cleanReverse : ∀ c ∈ t.toList.reverse, Blank.isBlank c = false :=
      fun c member => plain c (List.mem_reverse.mp member)
    simp [Blank.strip, Blank.trimChars, kept _ plain, kept _ cleanReverse]
  simp [bearerToken, parts, stripped, nonempty, Http.asciiLower]

namespace Service

/-- What a request's authentication finds, the access pipeline finds under some delegated answer. -/
theorem authenticate_of_ok {s : Service} {req : Http.Request} {now : Int} {p : Principal}
    (authenticated : (s.authenticate req now).1 = .ok p) :
    ∃ d, (Access.authenticate s.authenticator.tokens now (some d)
      (Datum.ofOption (bearerToken (req.header? "authorization")))).1 = .ok p := by
  simp only [authenticate] at authenticated
  split at authenticated
  · exact ⟨_, authenticated⟩
  · -- a verifier that faults ends the request only once it was asked
    split at authenticated
    · cases authenticated
    · exact ⟨_, authenticated⟩

theorem authenticate_of_session {s : Service} {req : Http.Request} {now : Int} {c : Claims}
    (verified : s.authenticator.tokens.verify
      (Datum.ofOption (bearerToken (req.header? "authorization"))) now = .ok (some c)) :
    (s.authenticate req now).1 = .ok (.user c) := by
  have present : (Datum.ofOption (bearerToken (req.header? "authorization"))).truthy = true := by
    cases token : Datum.ofOption (bearerToken (req.header? "authorization")) with
    | str t =>
      rw [token] at verified
      cases empty : t.isEmpty
      · simp [Datum.truthy, empty]
      · simp [TokenService.verify, empty, pure, Except.pure] at verified
    | _ => simp [token, TokenService.verify, pure, Except.pure] at verified
  have found : ∀ d, (Access.authenticate s.authenticator.tokens now d
      (Datum.ofOption (bearerToken (req.header? "authorization")))) = (.ok (.user c), none) := by
    intro d
    simp [Access.authenticate, Access.sessionPrincipal, present, verified, bind, Except.bind,
      pure, Except.pure]
  simp only [authenticate]
  split <;> simp [found]

/-- The access pipeline admits a request iff its caller is found and the later stages pass. -/
theorem access_eq_ok {s : Service} {req : Http.Request} {now : Int} {operation : String}
    {isScoped : Bool} {ctx : AccessContext} :
    (s.access req now operation isScoped).1 = .ok ctx ↔
      ∃ p, (s.authenticate req now).1 = .ok p ∧
        Access.authorize p (s.policy.allowedRoles (.str operation))
          (Datum.ofOption (req.header? "x-tenant-id")) isScoped none = .ok ctx := by
  have unfolded : (s.access req now operation isScoped).1 = ((s.authenticate req now).1 >>= fun p =>
      (Access.authorize p (s.policy.allowedRoles (.str operation))
        (Datum.ofOption (req.header? "x-tenant-id")) isScoped none).mapError (·.2)) := rfl
  simp only [unfolded, Except.bind_eq_ok, Except.mapError_eq_ok]

theorem tenant_of_admitted {s : Service} {req : Http.Request} {now : Int} {operation : String}
    {ctx : AccessContext} (admitted : (s.access req now operation true).1 = .ok ctx) {c : Claims}
    (person : ctx.principal = .user c) (nonAdmin : c.role ≠ .systemAdmin) :
    ∃ t, c.tenantId = some t ∧ ctx.tenantId = .str t := by
  obtain ⟨p, -, passed⟩ := access_eq_ok.mp admitted
  have caller : p = .user c := by
    rw [← person]
    obtain ⟨roles, -, -, -, -, rfl⟩ := Access.authorize_eq_ok.mp passed
    rfl
  subst caller
  obtain ⟨t, own, -, -, rfl⟩ := Access.authorize_scoped_user nonAdmin passed
  exact ⟨t, own, rfl⟩

section Unlock

open CredentialStore

variable {s : Service} {req : Http.Request} {now : Int} {x : String}

theorem unlockUser_of_refused {f : Fault}
    (refused : (s.access req now "users:unlock" true).1 = .error f) :
    s.unlockUser req now x = s.answer (.error f) (s.access req now "users:unlock" true).2 := by
  rcases access : s.access req now "users:unlock" true with ⟨r, called⟩
  rw [access] at refused
  cases refused
  simp only [unlockUser, access, bind, Except.bind]

theorem unlockUser_of_reachable {ctx : AccessContext} {rs : List Account} {a : Account}
    (stored : s.users = ⟨some rs⟩) (keyed : Keyed rs) (plain : Surrogate.carries a.id = false)
    (admitted : (s.access req now "users:unlock" true).1 = .ok ctx) (member : a ∈ rs)
    (reach : ctx.principal.mayUnlock a = true) :
    s.unlockUser req now a.id =
      ⟨{ s with users := ⟨some (replaceRow rs (a.afterUnlock (some ctx.principal.actor) now))⟩ },
        .ok (unlockAnswer (a.afterUnlock (some ctx.principal.actor) now)),
        (s.access req now "users:unlock" true).2⟩ := by
  have found : s.users.get? a.id = .ok (some a) := by
    rw [stored, CredentialStore.get?_eq plain, find?_id keyed member]
  have written := CredentialStore.unlock_eq keyed member (some ctx.principal.actor) now
  rw [← stored] at written
  -- a person who is no system administrator reaches only accounts of the tenant acted for
  have sameTenant : ∀ c, ctx.principal = .user c → c.role ≠ .systemAdmin →
      a.tenantId = ctx.tenantId.asString? := by
    intro c person nonAdmin
    obtain ⟨t, own, acting⟩ := tenant_of_admitted admitted person nonAdmin
    have shared : a.tenantId = c.tenantId := by
      simpa [Principal.mayUnlock, person, nonAdmin] using reach
    rw [shared, own, acting]
    rfl
  rcases access : s.access req now "users:unlock" true with ⟨r, called⟩
  rw [access] at admitted
  cases admitted
  cases person : ctx.principal with
  | service email =>
    simp only [person, Principal.actor] at written
    simp [unlockUser, access, found, person, Principal.actor, written, bind, Except.bind]
  | user c =>
    simp only [person, Principal.actor] at written
    have within : ¬(c.role ≠ .systemAdmin ∧ a.tenantId ≠ ctx.tenantId.asString?) :=
      fun ⟨nonAdmin, outside⟩ => outside (sameTenant c person nonAdmin)
    simp only [ne_eq] at within
    simp [unlockUser, access, found, person, Principal.actor, written, bind, Except.bind, within]

theorem unlockUser_of_unreachable {ctx : AccessContext} {rs : List Account}
    (stored : s.users = ⟨some rs⟩) (plain : Surrogate.carries x = false)
    (admitted : (s.access req now "users:unlock" true).1 = .ok ctx)
    (unreachable : ∀ a ∈ rs, a.id = x → ctx.principal.mayUnlock a = false) :
    s.unlockUser req now x =
      s.answer (.error (.rejected .userNotFound)) (s.access req now "users:unlock" true).2 := by
  rcases found : rs.find? (·.id == x) with _ | a
  · have missing : s.users.get? x = .ok none := by
      rw [stored, CredentialStore.get?_eq plain, found]
    rcases access : s.access req now "users:unlock" true with ⟨r, called⟩
    rw [access] at admitted
    cases admitted
    simp [unlockUser, access, missing, bind, Except.bind]
  · have present : s.users.get? x = .ok (some a) := by
      rw [stored, CredentialStore.get?_eq plain, found]
    obtain ⟨member, named⟩ := CredentialStore.mem_of_find?_id found
    have barred := unreachable a member named
    -- only a person who is no system administrator can be barred, and then by the tenant acted for
    cases person : ctx.principal with
    | service email => simp [Principal.mayUnlock, person] at barred
    | user c =>
      have nonAdmin : c.role ≠ .systemAdmin := by
        intro admin
        simp [Principal.mayUnlock, person, admin] at barred
      obtain ⟨t, own, acting⟩ := tenant_of_admitted admitted person nonAdmin
      have outside : a.tenantId ≠ ctx.tenantId.asString? := by
        have apart : a.tenantId ≠ c.tenantId := by
          simpa [Principal.mayUnlock, person, nonAdmin] using barred
        rwa [acting, Datum.asString?, ← own]
      rcases access : s.access req now "users:unlock" true with ⟨r, called⟩
      rw [access] at admitted
      cases admitted
      simp [unlockUser, access, present, person, nonAdmin, outside, bind, Except.bind, throw,
        throwThe, MonadExceptOf.throw]

/-- The unlock endpoint writes only the account the admitted caller may unlock, stamped with the
time and the caller; any other request changes nothing. -/
theorem unlockUser_frame (s : Service) (req : Http.Request) (now : Int) (x : String)
    {rs : List Account} (stored : s.users = ⟨some rs⟩) (keyed : Keyed rs)
    (plain : Surrogate.carries x = false) :
    (s.unlockUser req now x).called = (s.access req now "users:unlock" true).2 ∧
    (∀ ctx a, (s.access req now "users:unlock" true).1 = .ok ctx → a ∈ rs → a.id = x →
      ctx.principal.mayUnlock a = true →
      (s.unlockUser req now x).service =
          { s with users := ⟨some (replaceRow rs (a.afterUnlock (some ctx.principal.actor) now))⟩ } ∧
        (s.unlockUser req now x).result =
          .ok (unlockAnswer (a.afterUnlock (some ctx.principal.actor) now)) ∧
        (s.unlockUser req now x).service.users.row? x =
          some (a.afterUnlock (some ctx.principal.actor) now) ∧
        ∀ y ≠ x, (s.unlockUser req now x).service.users.row? y = s.users.row? y) ∧
    (∀ f, (s.access req now "users:unlock" true).1 = .error f →
      (s.unlockUser req now x).service = s ∧ (s.unlockUser req now x).result = .error (.fault f)) ∧
    (∀ ctx, (s.access req now "users:unlock" true).1 = .ok ctx →
      (∀ a ∈ rs, a.id = x → ctx.principal.mayUnlock a = false) →
      (s.unlockUser req now x).service = s ∧
        (s.unlockUser req now x).result = .error (.fault (.rejected .userNotFound))) := by
  refine ⟨?called, ?written, ?refused, ?unreachable⟩
  case called =>
    rcases admitted : (s.access req now "users:unlock" true).1 with f | ctx
    · rw [unlockUser_of_refused admitted]
      rfl
    · by_cases reachable : ∃ a ∈ rs, a.id = x ∧ ctx.principal.mayUnlock a = true
      · obtain ⟨a, member, rfl, reach⟩ := reachable
        rw [unlockUser_of_reachable stored keyed plain admitted member reach]
      · have barred : ∀ a ∈ rs, a.id = x → ctx.principal.mayUnlock a = false := by
          simpa using reachable
        rw [unlockUser_of_unreachable stored plain admitted barred]
        rfl
  case written =>
    intro ctx a admitted member named reach
    subst named
    have same := Account.sameIdentity_afterUnlock a (some ctx.principal.actor) now
    rw [unlockUser_of_reachable stored keyed plain admitted member reach]
    refine ⟨rfl, rfl, row?_replaceRow keyed member same, fun y other => ?_⟩
    rw [stored]
    exact row?_replaceRow_of_ne rs _ (same.id ▸ other)
  case refused =>
    intro f refused
    rw [unlockUser_of_refused refused]
    exact ⟨rfl, rfl⟩
  case unreachable =>
    intro ctx admitted barred
    rw [unlockUser_of_unreachable stored plain admitted barred]
    exact ⟨rfl, rfl⟩

/-- A tenant administrator of `demo` unlocks a clinician of `demo` but not an account of another
tenant. -/
theorem unlockUser_frame_tenantAdmin :
    let now : Int := 1700000000
    let tokens : TokenService := { secret := "s3cret-key" }
    let admin : Identity :=
      { userId := "a1", tenantId := some "demo", username := "admin", name := "A",
        role := .tenantAdmin }
    let clinician : Account :=
      { id := "u1", tenantId := some "demo", username := "s.johnson", name := "S. Johnson",
        passwordHash := "", isLocked := true, failedLoginAttempts := 3 }
    let outsider : Account :=
      { id := "u2", tenantId := some "other", username := "s.johnson", name := "S. Johnson",
        passwordHash := "", isLocked := true, failedLoginAttempts := 3 }
    ∃ token, tokens.issue admin now = .ok token ∧
      let req : String → Http.Request := fun id =>
        { method := "POST", target := "/api/v1/admin/users/" ++ id ++ "/unlock",
          headers := [("authorization", "Bearer " ++ token), ("x-tenant-id", "demo")] }
      let s : Service :=
        { settings := {}, users := ⟨some [clinician, outsider]⟩,
          policy := ⟨[(.str "users:unlock", [.tenantAdmin])]⟩, verifier := {},
          identityProvider := fun _ => .refused .none,
          authenticator := { tenants := ⟨some [], [], ""⟩, tokens := tokens } }
      (s.unlockUser (req "u1") now "u1").service.users =
          ⟨some [clinician.afterUnlock (some "a1") now, outsider]⟩ ∧
        (s.unlockUser (req "u1") now "u1").result =
          .ok (unlockAnswer (clinician.afterUnlock (some "a1") now)) ∧
        (s.unlockUser (req "u2") now "u2").service = s ∧
        (s.unlockUser (req "u2") now "u2").result = .error (.fault (.rejected .userNotFound)) := by
  intro now tokens admin clinician outsider
  have unsplit : ∀ t ∈ admin.texts, Json.splitPair t.toList = false := by
    intro t member
    simp only [Identity.texts, admin, List.mem_append, List.mem_cons, List.not_mem_nil, or_false,
      Option.toList_some, Option.toList_none] at member
    rcases member with ((rfl | rfl | rfl) | rfl) <;> exact Json.splitPair_of_carries (by decide)
  have signs : tokens.CanSign now := ⟨⟨.hs256, rfl⟩, by cbv,
    Json.lt_ten_pow_maxIntDigits (by decide), Json.lt_ten_pow_maxIntDigits (by decide)⟩
  obtain ⟨token, issued⟩ := TokenService.issue_of_canSign signs admin
  refine ⟨token, issued, ?_⟩
  intro req s
  -- the token is three segments, so the header bears it as it is, and it checks out
  obtain ⟨alg, -, shaped⟩ := Jws.eq_segments_of_sign issued
  have borne : ∀ id, bearerToken ((req id).header? "authorization") = some token := by
    intro id
    have named : (req id).header? "authorization" = some ("Bearer " ++ token) := by
      simp [req, Http.Request.header?, Http.lookupHeader]
    have nonempty : token.isEmpty = false := by
      rw [shaped]
      exact Jws.isEmpty_segments _ _ _
    have plain : ∀ c ∈ token.toList, Blank.isBlank c = false := by
      rw [shaped]
      exact Jws.isBlank_segments _ _ _
    rw [named, bearerToken_bearer nonempty plain]
  have verified := TokenService.verify_of_issue issued (show Jws.keys "s3cret-key" = _ by rfl)
    rfl rfl unsplit now
  rw [if_pos (by decide)] at verified
  have tenantNamed : ∀ id, Datum.ofOption ((req id).header? "x-tenant-id") = .str "demo" := by
    intro id
    have other : (Http.asciiLower "authorization" == Http.asciiLower "x-tenant-id") = false := by
      decide
    simp [req, Http.Request.header?, Http.lookupHeader, Datum.ofOption, other]
  let ctx : AccessContext := ⟨.user (Claims.ofIdentity admin now), .str "demo"⟩
  have admitted : ∀ id, (s.access (req id) now "users:unlock" true).1 = .ok ctx := by
    intro id
    refine access_eq_ok.mpr ⟨_, authenticate_of_session (by rw [borne]; exact verified), ?_⟩
    rw [tenantNamed]
    simp [s, admin, ctx, Access.authorize, AccessPolicy.allowedRoles, Access.inStage,
      Access.authorizeRole, Access.enforceTenantIsolation, Access.effectiveTenant, Claims.ofIdentity,
      bind, Except.bind, pure, Except.pure, Datum.truthy, Datum.isKey, Datum.sameKey,
      Datum.asNumber?, Except.mapError]
  have keyed : Keyed [clinician, outsider] := by decide
  obtain ⟨-, written, -, -⟩ := unlockUser_frame s (req "u1") now "u1" rfl keyed (by decide)
  obtain ⟨service, result, -, -⟩ :=
    written ctx clinician (admitted "u1") List.mem_cons_self rfl rfl
  obtain ⟨-, -, -, barred⟩ := unlockUser_frame s (req "u2") now "u2" rfl keyed (by decide)
  obtain ⟨unchanged, notFound⟩ := barred ctx (admitted "u2") (by
    intro a member named
    simp only [List.mem_cons, List.not_mem_nil, or_false] at member
    rcases member with rfl | rfl
    · exact absurd named (by decide)
    · rfl)
  refine ⟨?_, result, unchanged, notFound⟩
  rw [service]
  simp [replaceRow, clinician, outsider, Account.afterUnlock]
  rfl

end Unlock

end Service

end Portal

end TenantAuth
