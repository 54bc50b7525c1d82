import TenantAuth.Proofs.LoginDecision
import TenantAuth.Portal.Service

/-!
# What a password login writes

Each way a login can end has its own writes (`Authenticator.LoginWrites`): a refusal before the
password writes nothing, a wrong password changes only the failure bookkeeping of the account found
(`Account.FailureFrame`), and a right password only its counter, success time, hash and change time
while the row is unlocked (`Account.SuccessFrame`). No other account changes, and a login exchange
of the portal changes the service in its credential store alone (`Portal.Service.login_service`).
-/

namespace TenantAuth

namespace Account

/-- `b` is `a` with at most the bookkeeping of a failed login changed: the counter, the time
of the last failure, the lock with its time and reason, and the time of the last change. -/
def FailureFrame (a b : Account) : Prop :=
  b = { a with
    failedLoginAttempts := b.failedLoginAttempts, lastFailedLoginAt := b.lastFailedLoginAt,
    isLocked := b.isLocked, lockedAt := b.lockedAt, lockedReason := b.lockedReason,
    updatedAt := b.updatedAt }

/-- `b` is `a` with at most the bookkeeping of a successful login changed: the counter set to
zero, the time of the last success, the stored hash and the time of the last change. -/
def SuccessFrame (a b : Account) : Prop :=
  b = { a with
    failedLoginAttempts := 0, lastSuccessfulLoginAt := b.lastSuccessfulLoginAt,
    passwordHash := b.passwordHash, updatedAt := b.updatedAt }

theorem failureFrame_afterFailure (a : Account) (m now : Int) :
    FailureFrame a (a.afterFailure m now) := rfl

theorem successFrame_afterSuccess (a : Account) (now : Int) (h : Option String) :
    SuccessFrame a (a.afterSuccess now h) := rfl

end Account

namespace CredentialStore

open Account

theorem replaceRow_eq_map_eq {rs : List Account} (keyed : Keyed rs) {a : Account} (member : a ∈ rs)
    (b : Account) (sameId : b.id = a.id) : replaceRow rs b = rs.map fun x => if x = a then b else x := by
  apply List.map_congr_left
  intro x xin
  by_cases hit : x = a
  · simp [hit, sameId]
  · have apart : x.id ≠ b.id := fun same => hit (eq_of_id_eq keyed member xin (same.trans sameId))
    simp [hit, apart]

end CredentialStore

namespace Authenticator

open Account CredentialStore

variable (auth : Authenticator) {rs : List Account} {a : Account} {t u : String}

theorem accept_cases (keyed : Keyed rs) (member : a ∈ rs) {user : Account} (row : user.id = a.id)
    (password : Datum) (now : Int) :
    (∃ f, auth.accept ⟨some rs⟩ user password now = (⟨some rs⟩, .error f)) ∨
      ∃ newHash, auth.accept ⟨some rs⟩ user password now =
        if a.isLocked then (⟨some rs⟩, .error (.rejected .accountLocked))
        else (⟨some (replaceRow rs (a.afterSuccess now newHash))⟩, .ok ()) := by
  unfold accept
  dsimp only
  split
  next f _ => exact .inl ⟨f, rfl⟩
  next newHash _ =>
    refine .inr ⟨newHash, ?_⟩
    rw [row, recordSuccess_eq keyed member]
    cases a.isLocked <;> rfl

theorem login_of_match_store (keyed : Keyed rs)
    (found : find? ⟨some rs⟩ (.str t) u = .ok (some a)) (active : a.isActive = true)
    (unlocked : a.isLocked = false) {p : String}
    (matched : Password.verify (.str p) (.str a.passwordHash) = .ok true) (now : Int) :
    (auth.login ⟨some rs⟩ (.str t) u (.str p) now).1 = ⟨some rs⟩ ∨
      ∃ newHash, (auth.login ⟨some rs⟩ (.str t) u (.str p) now).1 =
        ⟨some (replaceRow rs (a.afterSuccess now newHash))⟩ := by
  rcases accept_cases auth keyed (mem_of_find? found) rfl (.str p) now with ⟨f, failed⟩ |
    ⟨newHash, accepted⟩
  · exact .inl (by simp [login, found, active, unlocked, matched, failed])
  · simp only [unlocked, Bool.false_eq_true, if_false] at accepted
    exact .inr ⟨newHash, by simp [login, found, active, unlocked, matched, accepted]⟩

theorem writeStage_store (keyed : Keyed rs) {cur user : Account} (member : cur ∈ rs)
    (row : user.id = cur.id) {p : String}
    (matched : Password.verify (.str p) (.str user.passwordHash) = .ok true) (now : Int) :
    (auth.writeStage ⟨some rs⟩ user (.str p) now).1 = ⟨some rs⟩ ∨
      cur.isLocked = false ∧ ∃ newHash, (auth.writeStage ⟨some rs⟩ user (.str p) now).1 =
        ⟨some (replaceRow rs (cur.afterSuccess now newHash))⟩ := by
  rcases accept_cases auth keyed member row (.str p) now with ⟨f, failed⟩ | ⟨newHash, accepted⟩
  · exact .inl (by simp [writeStage, matched, failed])
  · cases locked : cur.isLocked
    · simp only [locked, Bool.false_eq_true, if_false] at accepted
      exact .inr ⟨rfl, newHash, by simp [writeStage, matched, accepted]⟩
    · simp only [locked, if_true] at accepted
      exact .inl (by simp [writeStage, matched, accepted])

/-- The writes of a login in tenant `t` by login name `u` with password `p` at `now`, over a
table `rs`, that leaves the store `after`: each way it can end and what it may have written. -/
structure LoginWrites (rs : List Account) (t u p : String) (now : Int) (after : CredentialStore) :
    Prop where
  /-- No account of that name: nothing written. -/
  unknown : find? ⟨some rs⟩ (.str t) u = .ok none → after = ⟨some rs⟩
  /-- A disabled account, or one found locked: nothing written. -/
  refusedEarly : ∀ a, find? ⟨some rs⟩ (.str t) u = .ok (some a) →
    (a.isActive = false ∨ a.isLocked = true) → after = ⟨some rs⟩
  /-- A wrong password: the account found takes a version with only the bookkeeping of a
  failure changed, and every other account stays. -/
  mismatch : ∀ a, find? ⟨some rs⟩ (.str t) u = .ok (some a) → a.isActive = true →
    a.isLocked = false → Password.verify (.str p) (.str a.passwordHash) = .ok false →
    ∃ b, FailureFrame a b ∧ after = ⟨some (rs.map fun x => if x = a then b else x)⟩
  /-- A right password: nothing written, or the account found takes a version with only the
  bookkeeping of a success changed, and every other account stays. -/
  matched : ∀ a, find? ⟨some rs⟩ (.str t) u = .ok (some a) → a.isActive = true →
    a.isLocked = false → Password.verify (.str p) (.str a.passwordHash) = .ok true →
    after = ⟨some rs⟩ ∨
      ∃ b, SuccessFrame a b ∧ after = ⟨some (rs.map fun x => if x = a then b else x)⟩
  /-- A right password whose write meets the row as another version `cur`, after attempts
  running alongside: the write changes only that row, only in the bookkeeping of a success, and
  only if `cur` is unlocked. -/
  interleaved : ∀ a, find? ⟨some rs⟩ (.str t) u = .ok (some a) →
    Password.verify (.str p) (.str a.passwordHash) = .ok true →
    ∀ cur, SameIdentity a cur →
    let table := replaceRow rs cur
    (auth.writeStage ⟨some table⟩ a (.str p) now).1 = ⟨some table⟩ ∨
      cur.isLocked = false ∧ ∃ b, SuccessFrame cur b ∧
        (auth.writeStage ⟨some table⟩ a (.str p) now).1 =
          ⟨some (table.map fun x => if x = cur then b else x)⟩

end Authenticator

namespace Portal.Service

theorem login_service (s : Service) (req : Http.Request) (now : Int) :
    (s.login req now).service = { s with users := (s.login req now).service.users } := by
  unfold login
  split <;> rfl

end Portal.Service

namespace Authenticator

open Account CredentialStore

variable (auth : Authenticator) {rs : List Account}

/-- Every login writes by `LoginWrites`, and a login exchange writes only the credential store. -/
theorem login_writes (keyed : Keyed rs) (t u p : String) (now : Int) :
    auth.LoginWrites rs t u p now (auth.login ⟨some rs⟩ (.str t) u (.str p) now).1 ∧
      ∀ (s : Portal.Service) (req : Http.Request),
        (s.login req now).service = { s with users := (s.login req now).service.users } where
  left := {
    unknown := fun none => by rw [login_unknown auth _ _ _ _ _ none]
    refusedEarly := fun a found early => by
      rcases early with inactive | locked
      · rw [login_of_disabled auth found inactive]
      · cases active : a.isActive
        · rw [login_of_disabled auth found active]
        · rw [login_of_locked auth found active locked]
    mismatch := fun a found active unlocked mismatch => by
      rw [login_of_mismatch auth keyed found active unlocked mismatch now]
      exact ⟨_, failureFrame_afterFailure a auth.maxFailedAttempts now, by
        dsimp only
        rw [replaceRow_eq_map_eq keyed (mem_of_find? found) (a.afterFailure _ now) rfl]⟩
    matched := fun a found active unlocked matched => by
      rcases login_of_match_store auth keyed found active unlocked matched now with same | ⟨h, written⟩
      · exact .inl same
      · exact .inr ⟨_, successFrame_afterSuccess a now h,
          by rw [written, replaceRow_eq_map_eq keyed (mem_of_find? found) (a.afterSuccess now h) rfl]⟩
    interleaved := fun a found matched cur same => by
      have member := mem_of_find? found
      have keyed' := keyed_replaceRow keyed member same
      have member' := mem_replaceRow member same
      rcases writeStage_store auth keyed' member' same.id.symm matched now with kept |
        ⟨unlocked, h, written⟩
      · exact .inl kept
      · exact .inr ⟨unlocked, _, successFrame_afterSuccess cur now h,
          by rw [written, replaceRow_eq_map_eq keyed' member' (cur.afterSuccess now h) rfl]⟩ }
  right := fun s req => Portal.Service.login_service s req now

/-- The writes of a login on a one-account table of the tenant `demo`. -/
theorem login_writes_clinician :
    let clinician : Account :=
      { id := "u1", tenantId := some "demo", username := "s.johnson", name := "S. Johnson",
        passwordHash := "$2b$04$abcdefghijklmnopqrstuv" }
    let auth : Authenticator :=
      { tenants := ⟨some [], [], ""⟩, tokens := ⟨"secret", "HS256", .inl 30⟩,
        bcryptRounds := .int 4 }
    Keyed [clinician] ∧
      auth.LoginWrites [clinician] "demo" "s.johnson" "wrong" 1
        (auth.login ⟨some [clinician]⟩ (.str "demo") "s.johnson" (.str "wrong") 1).1 := by
  intro clinician auth
  have keyed : Keyed [clinician] := by decide
  exact ⟨keyed, (login_writes auth keyed "demo" "s.johnson" "wrong" 1).1⟩

end Authenticator

end TenantAuth
