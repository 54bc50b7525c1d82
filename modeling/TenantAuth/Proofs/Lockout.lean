import TenantAuth.Proofs.Bookkeeping

/-!
# Lockout

Failed logins on an account are counted, and the account is locked when the count reaches
the limit of attempts. A run of visits to one account, logins with any passwords mixed with
unlocks, is followed here turn by turn on that account, and every turn keeps the lockout
rule (`Turn.Lawful`):

* a login on the locked account is refused as locked and changes nothing;
* a wrong password on the unlocked account is counted; it locks the account exactly when the
  count reaches the limit, and is then answered as a locked account with the time and reason
  of the lock recorded, and otherwise as invalid credentials;
* a right password on the unlocked account, and an unlock, start the count over at zero, and
  only an unlock opens a locked account.

The main statement, `lockout_along_run`, says that every run keeps the rule at every turn,
and that the count is always its value at the last reset plus the wrong passwords since.
-/

namespace TenantAuth

/-- A visit to an account: a login with a password at a time, or an unlock by an actor at a
time. -/
inductive Visit where
  /-- A login attempt. -/
  | login (password : String) (now : Int)
  /-- An administrator's unlock. -/
  | unlock (actor : Option String) (now : Int)

namespace Visit

/-- Whether the visit is a login. -/
def isLogin : Visit → Bool
  | .login _ _ => true
  | .unlock _ _ => false

/-- The time of a login. -/
def time? : Visit → Option Int
  | .login _ now => some now
  | .unlock _ _ => none

end Visit

/-- One visit as the account saw it. -/
structure Turn where
  /-- The visit. -/
  visit : Visit
  /-- The account before the visit. -/
  before : Account
  /-- The account after the visit. -/
  after : Account
  /-- The answer, for a login. -/
  answer : Option (Except Fault LoginResult)

namespace Authenticator

/-- What a visit to the account of an id does to the store, with the answer of a login; the
account logs in with a tenant and a login name. An unlock that fails leaves the store as it
was. -/
def visit (auth : Authenticator) (tenantId : Datum) (username userId : String)
    (users : CredentialStore) : Visit → CredentialStore × Option (Except Fault LoginResult)
  | .login password now =>
    let (users', answer) := auth.login users tenantId username (.str password) now
    (users', some answer)
  | .unlock actor now =>
    match users.unlock userId actor now with
    | .ok (_, users') => (users', none)
    | .error _ => (users, none)

/-- The turns of a run of visits to the account of an id from a store, followed for as long
as the account can be looked up. -/
def turns (auth : Authenticator) (tenantId : Datum) (username userId : String) :
    CredentialStore → List Visit → List Turn
  | _, [] => []
  | users, v :: vs =>
    let (users', answer) := auth.visit tenantId username userId users v
    match users.row? userId, users'.row? userId with
    | some a, some b => ⟨v, a, b, answer⟩ :: auth.turns tenantId username userId users' vs
    | _, _ => []

end Authenticator

namespace Turn

open Account

/-- Whether the turn is a login whose password the stored hash accepts. -/
def passwordMatches (x : Turn) : Bool :=
  match x.visit with
  | .login password _ =>
    (Password.verify (.str password) (.str x.before.passwordHash)).toOption == some true
  | .unlock _ _ => false

/-- A turn that starts the count over: an unlock, or a login with the right password on the
unlocked account. -/
def resets (x : Turn) : Bool :=
  !x.visit.isLogin || (!x.before.isLocked && x.passwordMatches)

/-- A turn that counts: a login with a wrong password on the unlocked account. -/
def misses (x : Turn) : Bool :=
  x.visit.isLogin && !x.before.isLocked && !x.passwordMatches

/-- The lockout rule for one turn, under a limit of attempts. -/
structure Lawful (maxAttempts : Int) (x : Turn) : Prop where
  /-- The count starts over at zero, grows by one with a wrong password, and is otherwise
  kept. -/
  counter : x.after.failedLoginAttempts =
    if x.resets then 0
    else if x.misses then x.before.failedLoginAttempts + 1
    else x.before.failedLoginAttempts
  /-- A login on the locked account is refused as locked and changes nothing. -/
  refused : x.visit.isLogin = true → x.before.isLocked = true →
    x.after = x.before ∧ x.answer = some (.error (.rejected .accountLocked))
  /-- A wrong password locks the account exactly when the count reaches the limit, and is
  answered as a locked account then, as invalid credentials otherwise. -/
  threshold : x.misses = true →
    (x.after.isLocked = true ↔ maxAttempts ≤ x.after.failedLoginAttempts) ∧
      x.answer = some (.error (.rejected
        (if x.after.isLocked then .accountLocked else .invalidCredentials)))
  /-- The attempt that locks records when and why. -/
  stamped : x.misses = true → x.after.isLocked = true →
    x.after.lockedAt = x.visit.time? ∧ x.after.lockedReason = some lockReasonMaxAttempts
  /-- Only a wrong password locks the account. -/
  locks : x.before.isLocked = false → x.after.isLocked = true → x.misses = true
  /-- An unlock leaves the account unlocked. -/
  unlocks : x.visit.isLogin = false → x.after.isLocked = false

theorem counter_since {maxAttempts : Int} {start : Account} {pre post : List Turn}
    (chain : Chained before after start (pre ++ post)) (lawful : ∀ x ∈ post, x.Lawful maxAttempts)
    (quiet : ∀ x ∈ post, x.resets = false) :
    (lastAfter after start (pre ++ post)).failedLoginAttempts =
      (lastAfter after start pre).failedLoginAttempts + post.countP misses := by
  rw [lastAfter_append]
  apply failedLoginAttempts_lastAfter (chained_append.mp chain).2 misses
  intro x xin
  have step := (lawful x xin).counter
  simpa only [quiet x xin, Bool.false_eq_true, if_false] using step

end Turn

namespace Authenticator

open Account CredentialStore Turn

variable (auth : Authenticator) {rs : List Account} {a : Account} {tenantId : Datum}
  {username : String}

/-! ## One login on an account found by its lookup -/

/-- A login on a locked account is refused as locked and writes nothing. -/
theorem login_of_locked (found : find? ⟨some rs⟩ tenantId username = .ok (some a))
    (active : a.isActive = true) (locked : a.isLocked = true) (password : Datum) (now : Int) :
    auth.login ⟨some rs⟩ tenantId username password now =
      (⟨some rs⟩, .error (.rejected .accountLocked)) := by
  simp [login, found, active, locked]

/-- A wrong password on an unlocked account writes its `afterFailure` version. -/
theorem login_of_mismatch (keyed : Keyed rs)
    (found : find? ⟨some rs⟩ tenantId username = .ok (some a)) (active : a.isActive = true)
    (unlocked : a.isLocked = false) {password : String}
    (mismatch : Password.verify (.str password) (.str a.passwordHash) = .ok false) (now : Int) :
    auth.login ⟨some rs⟩ tenantId username (.str password) now =
      (⟨some (replaceRow rs (a.afterFailure auth.maxFailedAttempts now))⟩,
        .error (.rejected (if (a.afterFailure auth.maxFailedAttempts now).isLocked then
          .accountLocked else .invalidCredentials))) := by
  simp only [login, found, active, unlocked, mismatch, Bool.not_true, Bool.false_eq_true,
    if_false, refuse_eq auth keyed (mem_of_find? found) rfl]

/-- A right password on an unlocked account writes its `afterSuccess` version and goes on. -/
theorem login_of_match (keyed : Keyed rs)
    (found : find? ⟨some rs⟩ tenantId username = .ok (some a)) (active : a.isActive = true)
    (unlocked : a.isLocked = false) {r : Int} (rounds : auth.bcryptRounds = .int r)
    (low : 4 ≤ r) (high : r ≤ 31) {password : String}
    (matched : Password.verify (.str password) (.str a.passwordHash) = .ok true) (now : Int) :
    ∃ newHash, auth.login ⟨some rs⟩ tenantId username (.str password) now =
      (⟨some (replaceRow rs (a.afterSuccess now newHash))⟩, auth.issue a tenantId now) := by
  obtain ⟨newHash, accepted⟩ :=
    accept_of_match auth keyed (mem_of_find? found) rfl rounds low high matched now
  simp only [unlocked, Bool.false_eq_true, if_false] at accepted
  exact ⟨newHash, by simp only [login, found, active, unlocked, matched, accepted,
    Bool.not_true, Bool.false_eq_true, if_false]⟩

/-! ## One visit, and a run of them -/

section Run

variable (keyed : Keyed rs) {R : Account}
  (found : find? ⟨some rs⟩ tenantId username = .ok (some R)) (active : R.isActive = true)
  {r : Int} (rounds : auth.bcryptRounds = .int r) (low : 4 ≤ r) (high : r ≤ 31)
include keyed found active rounds low high

theorem visit_lawful {current : Account} (same : SameIdentity R current) (v : Visit) :
    ∃ next, (auth.visit tenantId username R.id ⟨some (replaceRow rs current)⟩ v).1 =
        ⟨some (replaceRow rs next)⟩ ∧ SameIdentity R next ∧
      Lawful auth.maxFailedAttempts
        ⟨v, current, next, (auth.visit tenantId username R.id ⟨some (replaceRow rs current)⟩ v).2⟩ := by
  have member := mem_of_find? found
  have keyed' := keyed_replaceRow keyed member same
  have member' := mem_replaceRow member same
  have found' := find?_replaceRow keyed member same found
  have active' : current.isActive = true := same.isActive.trans active
  have rewrite : ∀ x, SameIdentity current x → replaceRow (replaceRow rs current) x = replaceRow rs x :=
    fun x sx => replaceRow_replaceRow rs sx.id
  cases v with
  | login password now =>
      cases locked : current.isLocked
      · rcases Password.verify_str password (.str current.passwordHash) with matched | mismatch
        · -- a right password: the count starts over and the lock stays open
          obtain ⟨newHash, step⟩ :=
            login_of_match auth keyed' found' active' locked rounds low high matched now
          refine ⟨current.afterSuccess now newHash, ?_, same.trans (sameIdentity_afterSuccess _ _ _), ?_⟩
          · simp [visit, step, rewrite _ (sameIdentity_afterSuccess _ _ _)]
          · constructor <;> simp [visit, step, resets, misses, passwordMatches, matched, locked,
              Except.toOption, Visit.isLogin]
        · -- a wrong password: counted, and locked at the limit
          have step := login_of_mismatch auth keyed' found' active' locked mismatch now
          refine ⟨current.afterFailure auth.maxFailedAttempts now, ?_,
            same.trans (sameIdentity_afterFailure _ _ _), ?_⟩
          · simp [visit, step, rewrite _ (sameIdentity_afterFailure _ _ _)]
          · by_cases reached : auth.maxFailedAttempts ≤ current.failedLoginAttempts + 1 <;>
              constructor <;> simp [visit, step, resets, misses, passwordMatches, mismatch, locked,
                Except.toOption, Visit.isLogin, Visit.time?, reached]
      · -- the locked account: refused, nothing written
        have step := login_of_locked auth found' active' locked (.str password) now
        refine ⟨current, ?_, same, ?_⟩
        · simp [visit, step]
        · constructor <;> simp [visit, step, resets, misses, locked, Visit.isLogin]
  | unlock actor now =>
      have step := unlock_eq keyed' member' actor now
      rw [same.id] at step
      refine ⟨current.afterUnlock actor now, ?_, same.trans (sameIdentity_afterUnlock _ _ _), ?_⟩
      · simp [visit, step, rewrite _ (sameIdentity_afterUnlock _ _ _)]
      · constructor <;> simp [visit, step, resets, misses, Visit.isLogin]

theorem turns_lawful (visits : List Visit) {current : Account} (same : SameIdentity R current) :
    let trace := auth.turns tenantId username R.id ⟨some (replaceRow rs current)⟩ visits
    trace.length = visits.length ∧ Chained Turn.before Turn.after current trace ∧
      ∀ x ∈ trace, x.Lawful auth.maxFailedAttempts := by
  have member := mem_of_find? found
  -- the induction is on the visits, from whichever version the earlier visits left
  induction visits generalizing current with
  | nil => simp [turns, Chained]
  | cons v rest induction =>
      obtain ⟨next, stored, same', lawful⟩ :=
        visit_lawful auth keyed found active rounds low high same v
      obtain ⟨length, chain, rest_lawful⟩ := induction same'
      have before := row?_replaceRow keyed member same
      have after := row?_replaceRow keyed member same'
      simp only [turns, stored, before, after]
      refine ⟨by simp [length], ⟨rfl, chain⟩, ?_⟩
      intro x xin
      rcases List.mem_cons.mp xin with rfl | later
      · exact lawful
      · exact rest_lawful x later

/-- Every run of logins and unlocks keeps the lockout rule, the count being the failures since the
last reset. -/
theorem lockout_along_run (visits : List Visit) :
    let trace := auth.turns tenantId username R.id ⟨some rs⟩ visits
    trace.length = visits.length ∧ Chained Turn.before Turn.after R trace ∧
      (∀ x ∈ trace, x.Lawful auth.maxFailedAttempts) ∧
      ∀ pre post, trace = pre ++ post → (∀ x ∈ post, x.resets = false) →
        (lastAfter Turn.after R trace).failedLoginAttempts =
          (lastAfter Turn.after R pre).failedLoginAttempts + post.countP misses := by
  have start := turns_lawful auth keyed found active rounds low high visits (SameIdentity.refl R)
  rw [replaceRow_self keyed (mem_of_find? found)] at start
  obtain ⟨length, chain, lawful⟩ := start
  refine ⟨length, chain, lawful, ?_⟩
  intro pre post split quiet
  rw [split] at chain lawful ⊢
  exact counter_since chain (fun x xin => lawful x (List.mem_append_right pre xin)) quiet

end Run

/-- Two wrong passwords and an unlock on a clinician of `demo`. -/
theorem lockout_along_run_sample :
    let clinician : Account :=
      { id := "u1", tenantId := some "demo", username := "s.johnson", name := "S. Johnson",
        passwordHash := "$2b$04$abcdefghijklmnopqrstuv" }
    let auth : Authenticator :=
      { tenants := ⟨some [], [], ""⟩, tokens := ⟨"secret", "HS256", .inl 30⟩,
        bcryptRounds := .int 4 }
    let visits := [Visit.login "wrong" 1, .login "wrong" 2, .unlock none 3]
    let trace := auth.turns (.str "demo") "s.johnson" clinician.id ⟨some [clinician]⟩ visits
    Keyed [clinician] ∧
      find? ⟨some [clinician]⟩ (.str "demo") "s.johnson" = .ok (some clinician) ∧
      clinician.isActive = true ∧ auth.bcryptRounds = .int 4 ∧ (4 : Int) ≤ 4 ∧ (4 : Int) ≤ 31 ∧
      trace.length = visits.length ∧ Chained Turn.before Turn.after clinician trace ∧
      (∀ x ∈ trace, x.Lawful auth.maxFailedAttempts) ∧
      ∀ pre post, trace = pre ++ post → (∀ x ∈ post, x.resets = false) →
        (lastAfter Turn.after clinician trace).failedLoginAttempts =
          (lastAfter Turn.after clinician pre).failedLoginAttempts + post.countP misses := by
  intro clinician auth visits trace
  have keyed : Keyed [clinician] := by decide
  have found : find? ⟨some [clinician]⟩ (.str "demo") "s.johnson" = .ok (some clinician) := rfl
  exact ⟨keyed, found, rfl, rfl, by decide, by decide,
    lockout_along_run auth keyed found rfl rfl (by decide) (by decide) visits⟩

end Authenticator

end TenantAuth
