import TenantAuth.Proofs.Lockout

/-!
# Contention

Logins on one account run side by side as their lookups, writes and tokens interleaved in any order
(`Authenticator.contend`), and what an attempt read may be stale by the time it writes. The writes
stay exact because each reads the row it changes (`Landing.Lawful`): a failure counts one more than
the count it finds and decides the lock on it, and a reset applies only to an unlocked row. From
that alone `lockout_under_contention` gives the final count, the lock with its time and reason, and
the resets of attempts that went on to a token.
-/

namespace TenantAuth

open Account CredentialStore

/-- How far a login attempt has got. -/
inductive Progress where
  /-- Not looked up yet. -/
  | ready
  /-- Looked up: the account as read passed the checks, and the write is next. -/
  | checked (user : Account)
  /-- The reset of its right password applied: the tenant check and the token are next. -/
  | admitted (user : Account)
  /-- Answered. -/
  | answered (answer : Except Fault LoginResult)

namespace Progress

/-- Whether the attempt is still before its write. -/
def pending : Progress → Bool
  | .ready => true
  | .checked _ => true
  | _ => false

/-- Whether the attempt got past its write towards a token: admitted, or answered with
one. -/
def cleared : Progress → Bool
  | .admitted _ => true
  | .answered (.ok _) => true
  | _ => false

end Progress

/-- A login attempt under way: its password, its time and how far it has got. -/
structure Attempt where
  /-- The password given. -/
  password : String
  /-- The time of the attempt. -/
  now : Int
  /-- How far it has got. -/
  progress : Progress

/-- A write of a login's bookkeeping as it landed on the account's row. -/
structure Landing where
  /-- The position of the attempt that wrote. -/
  attempt : Nat
  /-- A counted failure; otherwise the reset of a right password. -/
  failure : Bool
  /-- The time of the attempt. -/
  now : Int
  /-- The row as the write found it. -/
  before : Account
  /-- The row as the write left it. -/
  after : Account
  /-- How the attempt stood after its write. -/
  outcome : Progress

namespace Landing

/-- Whether the write is a reset that applied: that of a right password, on a row it found
unlocked. -/
def applied (w : Landing) : Bool := !w.failure && !w.before.isLocked

/-- The writes that a step of the attempt at a position lands on the row of an id, from a
store to the next: one when the step is the write of an attempt whose checks passed, none
otherwise. -/
def record (i : Nat) (x : Attempt) (userId : String) (users users' : CredentialStore)
    (outcome : Progress) : List Landing :=
  match x.progress, users.row? userId, users'.row? userId with
  | .checked user, some b, some a =>
    match Password.verify (.str x.password) (.str user.passwordHash) with
    | .ok matched => [⟨i, !matched, x.now, b, a, outcome⟩]
    | .error _ => []
  | _, _, _ => []

/-- The rule of the writes under a limit of attempts: each reads the row it changes. -/
structure Lawful (maxAttempts : Int) (w : Landing) : Prop where
  /-- A failure counts one more than the count it finds and decides the lock on that count;
  the attempt is answered as a locked account when the row it leaves is locked, as invalid
  credentials otherwise. -/
  failure : w.failure = true → w.after = w.before.afterFailure maxAttempts w.now ∧
    w.outcome = .answered (.error (.rejected
      (if w.after.isLocked then .accountLocked else .invalidCredentials)))
  /-- A reset that finds the row locked writes nothing, and its attempt is answered as a
  locked account. -/
  refused : w.failure = false → w.before.isLocked = true →
    w.after = w.before ∧ w.outcome = .answered (.error (.rejected .accountLocked))
  /-- A reset that finds the row unlocked clears the count, and its attempt goes on to the
  tenant check. -/
  applies : w.failure = false → w.before.isLocked = false →
    (∃ newHash, w.after = w.before.afterSuccess w.now newHash) ∧ ∃ user, w.outcome = .admitted user

namespace Lawful

variable {m : Int} {w : Landing}

/-- A write other than an applied reset adds one failed attempt or keeps the count. -/
theorem counter (lawful : w.Lawful m) (kept : w.applied = false) :
    w.after.failedLoginAttempts =
      if w.failure then w.before.failedLoginAttempts + 1 else w.before.failedLoginAttempts := by
  cases fail : w.failure
  · -- a reset that did not apply found the row locked
    have locked : w.before.isLocked = true := by simpa [applied, fail] using kept
    simp [(lawful.refused fail locked).1]
  · simp [(lawful.failure fail).1]

/-- An applied reset leaves no failed attempts. -/
theorem reset (lawful : w.Lawful m) (applies : w.applied = true) :
    w.after.failedLoginAttempts = 0 := by
  have reset : w.failure = false ∧ w.before.isLocked = false := by simpa [applied] using applies
  obtain ⟨⟨newHash, written⟩, -⟩ := lawful.applies reset.1 reset.2
  simp [written]

/-- A write never unlocks, and locks exactly on a failure that finds the count one below the limit.
-/
theorem isLocked (lawful : w.Lawful m) :
    w.after.isLocked =
      (w.before.isLocked || (w.failure && decide (m ≤ w.before.failedLoginAttempts + 1))) := by
  cases fail : w.failure
  · cases locked : w.before.isLocked
    · obtain ⟨⟨newHash, written⟩, -⟩ := lawful.applies fail locked
      simp [written, locked]
    · simp [(lawful.refused fail locked).1, locked]
  · simp [(lawful.failure fail).1, Bool.or_comm]

/-- A write on a locked row keeps the lock with its time and reason. -/
theorem keeps (lawful : w.Lawful m) (locked : w.before.isLocked = true) :
    w.after.isLocked = true ∧ w.after.lockedAt = w.before.lockedAt ∧
      w.after.lockedReason = w.before.lockedReason := by
  cases fail : w.failure
  · simp [(lawful.refused fail locked).1, locked]
  · simp [(lawful.failure fail).1, locked]

/-- The write that locks the row is a failure, and records its time and the reason. -/
theorem stamps (lawful : w.Lawful m) (unlocked : w.before.isLocked = false)
    (locked : w.after.isLocked = true) :
    w.failure = true ∧ w.after.lockedAt = some w.now ∧
      w.after.lockedReason = some lockReasonMaxAttempts := by
  cases fail : w.failure
  · obtain ⟨⟨newHash, written⟩, -⟩ := lawful.applies fail unlocked
    rw [written, afterSuccess_isLocked, unlocked] at locked
    cases locked
  · have written := (lawful.failure fail).1
    have reached : m ≤ w.before.failedLoginAttempts + 1 := by
      simpa [written, unlocked] using locked
    simp [written, unlocked, reached]

theorem not_pending (lawful : w.Lawful m) : w.outcome.pending = false := by
  cases fail : w.failure
  · cases locked : w.before.isLocked
    · obtain ⟨-, user, outcome⟩ := lawful.applies fail locked
      simp [outcome, Progress.pending]
    · simp [(lawful.refused fail locked).2, Progress.pending]
  · simp [(lawful.failure fail).2, Progress.pending]

theorem applied_of_cleared (lawful : w.Lawful m) (cleared : w.outcome.cleared = true) :
    w.applied = true := by
  cases fail : w.failure
  · cases locked : w.before.isLocked
    · simp [applied, fail, locked]
    · simp [(lawful.refused fail locked).2, Progress.cleared] at cleared
  · simp [(lawful.failure fail).2, Progress.cleared] at cleared

end Lawful

end Landing

/-- Attempts on one account running side by side over a shared store, with the writes
landed on the account's row so far, in order. -/
structure Contention where
  /-- The shared store. -/
  users : CredentialStore
  /-- The attempts, by position. -/
  attempts : List Attempt
  /-- The writes landed so far. -/
  landed : List Landing

/-- Attempts with passwords at times, none of them started, over a store. -/
def Contention.start (users : CredentialStore) (requests : List (String × Int)) : Contention :=
  ⟨users, requests.map fun request => ⟨request.1, request.2, .ready⟩, []⟩

namespace Authenticator

/-- The lookup of an attempt: reads the account, and makes the active and locked checks on
what it read. -/
def lookupStage (users : CredentialStore) (tenantId : Datum) (username : String) : Progress :=
  match users.find? tenantId username with
  | .error f => .answered (.error f)
  | .ok none => .answered (.error (.rejected .invalidCredentials))
  | .ok (some user) =>
    if !user.isActive then .answered (.error (.rejected .accountDisabled))
    else if user.isLocked then .answered (.error (.rejected .accountLocked))
    else .checked user

/-- The write of an attempt whose checks passed on the account as read: the counted failure
of a wrong password, or the reset of a right one. -/
def writeStage (auth : Authenticator) (users : CredentialStore) (user : Account)
    (password : Datum) (now : Int) : CredentialStore × Progress :=
  match Password.verify password (.str user.passwordHash) with
  | .error f => (users, .answered (.error f))
  | .ok false =>
    let (users', f) := auth.refuse users user now
    (users', .answered (.error f))
  | .ok true =>
    match auth.accept users user password now with
    | (users', .error f) => (users', .answered (.error f))
    | (users', .ok ()) => (users', .admitted user)

/-- One step of an attempt with a password at a time, on the store it finds. -/
def advance (auth : Authenticator) (tenantId : Datum) (username : String) (password : Datum)
    (now : Int) (state : CredentialStore × Progress) : CredentialStore × Progress :=
  match state.2 with
  | .ready => (state.1, lookupStage state.1 tenantId username)
  | .checked user => auth.writeStage state.1 user password now
  | .admitted user => (state.1, .answered (auth.issue user tenantId now))
  | .answered answer => (state.1, .answered answer)

/-- One step of the attempt at a position, on the account of an id: the other attempts wait,
and the write the step lands, if any, is recorded. -/
def contendStep (auth : Authenticator) (tenantId : Datum) (username userId : String)
    (c : Contention) (i : Nat) : Contention :=
  match c.attempts[i]? with
  | none => c
  | some x =>
    let next := auth.advance tenantId username (.str x.password) x.now (c.users, x.progress)
    { users := next.1
      attempts := c.attempts.set i { x with progress := next.2 }
      landed := c.landed ++ Landing.record i x userId c.users next.1 next.2 }

/-- A run of the attempts, in the order a schedule of positions gives. -/
def contend (auth : Authenticator) (tenantId : Datum) (username userId : String)
    (c : Contention) (schedule : List Nat) : Contention :=
  schedule.foldl (auth.contendStep tenantId username userId) c

theorem advance_thrice (auth : Authenticator) (users : CredentialStore) (tenantId : Datum)
    (username : String) (password : Datum) (now : Int) :
    (auth.advance tenantId username password now)^[3] (users, .ready) =
      ((auth.login users tenantId username password now).1,
        .answered (auth.login users tenantId username password now).2) := by
  simp only [Function.iterate_succ, Function.comp_apply, Function.iterate_zero, id_eq]
  unfold login
  -- the branches of the lookup, then of the password check, then of the reset
  cases found : users.find? tenantId username with
  | error f => simp [advance, lookupStage, found]
  | ok user? =>
    cases user? with
    | none => simp [advance, lookupStage, found]
    | some user =>
      cases active : user.isActive
      · simp [advance, lookupStage, found, active]
      cases locked : user.isLocked
      · cases verified : Password.verify password (.str user.passwordHash) with
        | error f => simp [advance, lookupStage, writeStage, found, active, locked, verified]
        | ok matched =>
          cases matched
          · simp [advance, lookupStage, writeStage, found, active, locked, verified]
          · cases accepted : auth.accept users user password now with
            | mk users' reset =>
              cases reset <;>
                simp [advance, lookupStage, writeStage, found, active, locked, verified, accepted]
      · simp [advance, lookupStage, found, active, locked]

@[simp] theorem contend_nil (auth : Authenticator) (tenantId : Datum) (username userId : String)
    (c : Contention) : auth.contend tenantId username userId c [] = c := rfl

@[simp] theorem contend_cons (auth : Authenticator) (tenantId : Datum) (username userId : String)
    (c : Contention) (i : Nat) (rest : List Nat) :
    auth.contend tenantId username userId c (i :: rest) =
      auth.contend tenantId username userId (auth.contendStep tenantId username userId c i) rest :=
  rfl

theorem find?_of_lookupStage {users : CredentialStore} {tenantId : Datum} {username : String}
    {user : Account} (checked : lookupStage users tenantId username = .checked user) :
    users.find? tenantId username = .ok (some user) := by
  unfold lookupStage at checked
  split at checked
  · cases checked
  · cases checked
  · rename_i found
    split at checked
    · cases checked
    · split at checked
      · cases checked
      · cases checked
        exact found

theorem cleared_lookupStage (users : CredentialStore) (tenantId : Datum) (username : String) :
    (lookupStage users tenantId username).cleared = false := by
  unfold lookupStage
  split
  · rfl
  · rfl
  · split
    · rfl
    · split <;> rfl

variable (auth : Authenticator) {rs : List Account}

theorem writeStage_lands (keyed : Keyed rs) {cur user : Account} (member : cur ∈ rs)
    (row : user.id = cur.id) {r : Int} (rounds : auth.bcryptRounds = .int r) (low : 4 ≤ r)
    (high : r ≤ 31) (i : Nat) (password : String) (now : Int) :
    ∃ matched after outcome,
      Password.verify (.str password) (.str user.passwordHash) = .ok matched ∧
      auth.writeStage ⟨some rs⟩ user (.str password) now = (⟨some (replaceRow rs after)⟩, outcome) ∧
      SameIdentity cur after ∧
      Landing.Lawful auth.maxFailedAttempts ⟨i, !matched, now, cur, after, outcome⟩ := by
  rcases Password.verify_str password (.str user.passwordHash) with matched | mismatch
  · -- a right password: the reset applies unless the row is locked by now
    obtain ⟨newHash, accepted⟩ := accept_of_match auth keyed member row rounds low high matched now
    cases locked : cur.isLocked
    · refine ⟨true, cur.afterSuccess now newHash, .admitted user, matched, ?_,
        sameIdentity_afterSuccess _ _ _, ?_⟩
      · simp [writeStage, matched, accepted, locked]
      · constructor <;> simp [locked]
    · refine ⟨true, cur, .answered (.error (.rejected .accountLocked)), matched, ?_,
        SameIdentity.refl cur, ?_⟩
      · simp [writeStage, matched, accepted, locked, replaceRow_self keyed member]
      · constructor <;> simp [locked]
  · -- a wrong password: counted on the row as it is now
    have refused := refuse_eq auth keyed member row now
    refine ⟨false, cur.afterFailure auth.maxFailedAttempts now,
      .answered (.error (.rejected (if (cur.afterFailure auth.maxFailedAttempts now).isLocked then
        .accountLocked else .invalidCredentials))), mismatch, ?_, sameIdentity_afterFailure _ _ _, ?_⟩
    · simp [writeStage, mismatch, refused]
    · constructor <;> simp

end Authenticator

namespace Landing

open Account

/-! ## What the rule of the writes gives along a run -/

section Writes

variable {m : Int} {start : Account} {landed : List Landing}
  (chain : Chained before after start landed) (lawful : ∀ w ∈ landed, w.Lawful m)
include chain lawful

theorem failures_without_reset (quiet : ∀ w ∈ landed, w.applied = false) :
    (lastAfter after start landed).failedLoginAttempts =
      start.failedLoginAttempts + landed.countP failure :=
  failedLoginAttempts_lastAfter chain failure (fun w win => (lawful w win).counter (quiet w win))

theorem failures_since_reset {pre post : List Landing} {w : Landing}
    (split : landed = pre ++ w :: post) (applies : w.applied = true)
    (quiet : ∀ v ∈ post, v.applied = false) :
    (lastAfter after start landed).failedLoginAttempts = post.countP failure := by
  subst split
  have postChain := (chained_append.mp chain).2.2
  have postLawful : ∀ v ∈ post, v.Lawful m := fun v vin => lawful v (by simp [vin])
  have cleared := (lawful w (by simp)).reset applies
  rw [lastAfter_append, lastAfter_cons, failures_without_reset postChain postLawful quiet, cleared,
    zero_add]

theorem locked_iff :
    (lastAfter after start landed).isLocked = true ↔ start.isLocked = true ∨
      ∃ w ∈ landed, w.failure = true ∧ m ≤ w.before.failedLoginAttempts + 1 := by
  rw [isLocked_lastAfter chain _ (fun w win => (lawful w win).isLocked)]
  simp

theorem lock_kept (locked : start.isLocked = true) :
    (lastAfter after start landed).lockedAt = start.lockedAt ∧
      (lastAfter after start landed).lockedReason = start.lockedReason :=
  (lock_lastAfter chain (fun w win => (lawful w win).keeps) locked).2

theorem lock_stamped {pre post : List Landing} {w : Landing} (split : landed = pre ++ w :: post)
    (unlocked : w.before.isLocked = false) (locks : w.after.isLocked = true) :
    w.failure = true ∧ (lastAfter after start landed).lockedAt = some w.now ∧
      (lastAfter after start landed).lockedReason = some lockReasonMaxAttempts := by
  subst split
  obtain ⟨fail, stampedAt, stampedReason⟩ := (lawful w (by simp)).stamps unlocked locks
  have postChain := (chained_append.mp chain).2.2
  obtain ⟨-, keptAt, keptReason⟩ :=
    lock_lastAfter postChain (fun v vin => (lawful v (by simp [vin])).keeps) locks
  rw [lastAfter_append, lastAfter_cons]
  exact ⟨fail, keptAt.trans stampedAt, keptReason.trans stampedReason⟩

end Writes

end Landing

namespace Contention

open Account CredentialStore

/-- What holds at every point of a run on an account `R` of a keyed table `rs`, under a
limit of attempts. -/
structure Steady (maxAttempts : Int) (rs : List Account) (R : Account) (c : Contention) :
    Prop where
  /-- The table holds the version of the account that the writes left. -/
  store : c.users = ⟨some (replaceRow rs (lastAfter Landing.after R c.landed))⟩
  /-- That version is the same account. -/
  same : SameIdentity R (lastAfter Landing.after R c.landed)
  /-- Each write found the row the previous one left. -/
  chain : Chained Landing.before Landing.after R c.landed
  /-- Each write keeps the rule. -/
  lawful : ∀ w ∈ c.landed, w.Lawful maxAttempts
  /-- What an attempt read is a version of the account. -/
  reads : ∀ x ∈ c.attempts, ∀ user, x.progress = .checked user → SameIdentity R user
  /-- An attempt lands at most one write, and none while it is before its write. -/
  once : ∀ j, c.landed.countP (fun w => w.attempt == j) ≤ 1 ∧
    ∀ x, c.attempts[j]? = some x → x.progress.pending = true →
      c.landed.countP (fun w => w.attempt == j) = 0
  /-- An attempt past its write towards a token had its reset applied. -/
  cleared : ∀ j x, c.attempts[j]? = some x → x.progress.cleared = true →
    ∃ w ∈ c.landed, w.attempt = j ∧ w.applied = true

variable {m : Int} {rs : List Account} {R : Account}

theorem steady_start (keyed : Keyed rs) (member : R ∈ rs) (requests : List (String × Int)) :
    (start ⟨some rs⟩ requests).Steady m rs R := by
  refine ⟨by simp [start, replaceRow_self keyed member], SameIdentity.refl R, trivial,
    by simp [start], ?_, ?_, ?_⟩
  · intro x xin user checked
    obtain ⟨request, -, rfl⟩ := List.mem_map.mp xin
    cases checked
  · intro j
    simp [start]
  · intro j x xj clear
    obtain ⟨request, -, rfl⟩ := List.mem_map.mp (List.mem_of_getElem? xj)
    cases clear

/-- A step that pays what it owes keeps the run steady. -/
theorem Steady.step {c : Contention} (steady : c.Steady m rs R) {i : Nat} {x : Attempt}
    (xi : c.attempts[i]? = some x) {users' : CredentialStore} {p : Progress} {new : List Landing}
    (store : users' = ⟨some (replaceRow rs (lastAfter Landing.after R (c.landed ++ new)))⟩)
    (same : SameIdentity R (lastAfter Landing.after R (c.landed ++ new)))
    (chain : Chained Landing.before Landing.after (lastAfter Landing.after R c.landed) new)
    (lawful : ∀ w ∈ new, w.Lawful m)
    (reads : ∀ user, p = .checked user → SameIdentity R user)
    (tagged : ∀ w ∈ new, w.attempt = i)
    (single : new = [] ∨ x.progress.pending = true ∧ p.pending = false ∧ new.length = 1)
    (stays : x.progress.pending = false → p.pending = false)
    (cleared : p.cleared = true → x.progress.cleared = true ∨ ∃ w ∈ new, w.applied = true) :
    Steady m rs R ⟨users', c.attempts.set i { x with progress := p }, c.landed ++ new⟩ := by
  have inside : i < c.attempts.length := (List.getElem?_eq_some_iff.mp xi).1
  -- the attempt at `i` is the only one that moves
  have here : (c.attempts.set i { x with progress := p })[i]? = some { x with progress := p } :=
    List.getElem?_set_self inside
  have elsewhere : ∀ j, i ≠ j → (c.attempts.set i { x with progress := p })[j]? = c.attempts[j]? :=
    fun j apart => List.getElem?_set_ne apart
  refine ⟨store, same, chained_append.mpr ⟨steady.chain, chain⟩, ?_, ?_, ?_, ?_⟩
  · intro w win
    rcases List.mem_append.mp win with old | fresh
    · exact steady.lawful w old
    · exact lawful w fresh
  · intro y yin user checked
    rcases List.mem_or_eq_of_mem_set yin with old | rfl
    · exact steady.reads y old user checked
    · exact reads user checked
  · intro j
    obtain ⟨atMost, unwritten⟩ := steady.once j
    by_cases moved : i = j
    · subst moved
      have counted : new.countP (fun w => w.attempt == i) = new.length :=
        List.countP_eq_length.mpr (fun w win => by simp [tagged w win])
      rw [List.countP_append, counted]
      rcases single with rfl | ⟨pendingBefore, done, one⟩
      · -- nothing landed: an attempt still pending was pending before
        refine ⟨by simpa using atMost, fun y yi pend => ?_⟩
        rw [here] at yi
        obtain rfl := Option.some.inj yi
        have wasPending : x.progress.pending = true := by
          cases before : x.progress.pending
          · simp [stays before] at pend
          · rfl
        simpa using unwritten x xi wasPending
      · -- its one write landed now, and it is pending no more
        have zero := unwritten x xi pendingBefore
        refine ⟨by omega, fun y yi pend => ?_⟩
        rw [here] at yi
        obtain rfl := Option.some.inj yi
        simp [done] at pend
    · have counted : new.countP (fun w => w.attempt == j) = 0 :=
        List.countP_eq_zero.mpr (fun w win => by simp [tagged w win, moved])
      rw [List.countP_append, counted, Nat.add_zero]
      refine ⟨atMost, fun y yj pend => unwritten y ?_ pend⟩
      rwa [elsewhere j moved] at yj
  · intro j y yj clear
    by_cases moved : i = j
    · subst moved
      rw [here] at yj
      obtain rfl := Option.some.inj yj
      rcases cleared clear with before | ⟨w, win, applied⟩
      · obtain ⟨w, win, tag, applied⟩ := steady.cleared i x xi before
        exact ⟨w, List.mem_append_left _ win, tag, applied⟩
      · exact ⟨w, List.mem_append_right _ win, tagged w win, applied⟩
    · rw [elsewhere j moved] at yj
      obtain ⟨w, win, tag, applied⟩ := steady.cleared j y yj clear
      exact ⟨w, List.mem_append_left _ win, tag, applied⟩

/-- A step that lands no write keeps the run steady. -/
theorem Steady.quiet {c : Contention} (steady : c.Steady m rs R) {i : Nat} {x : Attempt}
    (xi : c.attempts[i]? = some x) {p : Progress}
    (reads : ∀ user, p = .checked user → SameIdentity R user)
    (stays : x.progress.pending = false → p.pending = false)
    (cleared : p.cleared = true → x.progress.cleared = true) :
    Steady m rs R ⟨c.users, c.attempts.set i { x with progress := p }, c.landed⟩ := by
  have step : Steady m rs R ⟨c.users, c.attempts.set i { x with progress := p }, c.landed ++ []⟩ := by
    apply steady.step xi
    case store => simpa using steady.store
    case same => simpa using steady.same
    case chain => trivial
    case lawful => simp
    case reads => exact reads
    case tagged => simp
    case single => exact .inl rfl
    case stays => exact stays
    case cleared => exact fun clear => .inl (cleared clear)
  simpa using step

/-- The write of a pending attempt on the row the run left keeps the run steady. -/
theorem Steady.write {c : Contention} (steady : c.Steady m rs R) {i : Nat} {x : Attempt}
    (xi : c.attempts[i]? = some x) (pending : x.progress.pending = true) {w : Landing}
    (tag : w.attempt = i) (finds : w.before = lastAfter Landing.after R c.landed)
    (same : SameIdentity w.before w.after) (lawful : w.Lawful m) :
    Steady m rs R
      ⟨⟨some (replaceRow rs w.after)⟩, c.attempts.set i { x with progress := w.outcome },
        c.landed ++ [w]⟩ := by
  apply steady.step xi
  case store => simp [lastAfter_append]
  case same => simpa [lastAfter_append, ← finds] using steady.same.trans (finds ▸ same)
  case chain => exact ⟨finds, trivial⟩
  case lawful => simpa using lawful
  case reads =>
    intro user checked
    have settled := lawful.not_pending
    simp [checked, Progress.pending] at settled
  case tagged => simpa using tag
  case single => exact .inr ⟨pending, lawful.not_pending, rfl⟩
  case stays => simp [pending]
  case cleared => exact fun clear => .inr ⟨w, List.mem_singleton_self w, lawful.applied_of_cleared clear⟩

end Contention

namespace Authenticator

open Account CredentialStore Contention

/-! ## A run of attempts on an account that a lookup finds -/

section Run

variable (auth : Authenticator) {rs : List Account} {tenantId : Datum} {username : String}
  (keyed : Keyed rs) {R : Account} (found : find? ⟨some rs⟩ tenantId username = .ok (some R))
  {r : Int} (rounds : auth.bcryptRounds = .int r) (low : 4 ≤ r) (high : r ≤ 31)
include keyed found rounds low high

theorem contendStep_steady {c : Contention} (steady : c.Steady auth.maxFailedAttempts rs R)
    (i : Nat) : (auth.contendStep tenantId username R.id c i).Steady auth.maxFailedAttempts rs R := by
  have member := mem_of_find? found
  cases xi : c.attempts[i]? with
  | none => simpa [contendStep, xi] using steady
  | some x =>
    have xin : x ∈ c.attempts := List.mem_of_getElem? xi
    -- the table holds the version `cur` of the account that the writes so far left
    have current := steady.same
    have stored := steady.store
    set cur := lastAfter Landing.after R c.landed with curIs
    have memberNow := mem_replaceRow member current
    have foundNow := find?_replaceRow keyed member current found
    have rowNow := row?_replaceRow keyed member current
    cases progress : x.progress with
    | ready =>
      -- the lookup reads `cur` and writes nothing
      have shape : auth.contendStep tenantId username R.id c i =
          ⟨c.users, c.attempts.set i { x with progress := lookupStage c.users tenantId username },
            c.landed⟩ := by
        simp [contendStep, xi, advance, progress, Landing.record]
      rw [shape]
      apply steady.quiet xi
      case reads =>
        intro user checked
        have seen := find?_of_lookupStage checked
        rw [stored, foundNow] at seen
        cases seen
        exact current
      case stays => simp [progress, Progress.pending]
      case cleared => simp [cleared_lookupStage]
    | checked user =>
      -- the write lands on `cur`, whatever version the attempt read
      have row : user.id = cur.id := (steady.reads x xin user progress).id.trans current.id.symm
      obtain ⟨matched, after, outcome, verified, written, sameAfter, lawful⟩ :=
        writeStage_lands auth (keyed_replaceRow keyed member current) memberNow row rounds low high
          i x.password x.now
      rw [replaceRow_replaceRow rs sameAfter.id] at written
      have rowAfter := row?_replaceRow keyed member (current.trans sameAfter)
      have shape : auth.contendStep tenantId username R.id c i =
          ⟨⟨some (replaceRow rs after)⟩, c.attempts.set i { x with progress := outcome },
            c.landed ++ [⟨i, !matched, x.now, cur, after, outcome⟩]⟩ := by
        simp [contendStep, xi, advance, progress, stored, written, Landing.record, rowNow, rowAfter,
          verified]
      rw [shape]
      exact steady.write xi (by simp [progress, Progress.pending]) rfl rfl sameAfter lawful
    | admitted user =>
      -- the tenant check and the token read no account
      have shape : auth.contendStep tenantId username R.id c i =
          ⟨c.users, c.attempts.set i
            { x with progress := .answered (auth.issue user tenantId x.now) }, c.landed⟩ := by
        simp [contendStep, xi, advance, progress, Landing.record]
      rw [shape]
      apply steady.quiet xi
      case reads => exact fun user' checked => by cases checked
      case stays => exact fun _ => rfl
      case cleared => simp [progress, Progress.cleared]
    | answered answer =>
      have shape : auth.contendStep tenantId username R.id c i =
          ⟨c.users, c.attempts.set i { x with progress := .answered answer }, c.landed⟩ := by
        simp [contendStep, xi, advance, progress, Landing.record]
      rw [shape]
      apply steady.quiet xi
      case reads => exact fun user' checked => by cases checked
      case stays => exact fun _ => rfl
      case cleared => exact fun clear => progress ▸ clear

theorem contend_steady {c : Contention} (steady : c.Steady auth.maxFailedAttempts rs R)
    (schedule : List Nat) :
    (auth.contend tenantId username R.id c schedule).Steady auth.maxFailedAttempts rs R := by
  -- the induction is on the schedule, from whatever state the steps before left
  induction schedule generalizing c with
  | nil => exact steady
  | cons i rest induction =>
    rw [contend_cons]
    exact induction (contendStep_steady auth keyed found rounds low high steady i)

/-- Logins run side by side in any interleaving keep the lockout rule: each write is exact on the
row it finds, and the count and lock follow the writes that applied. -/
theorem lockout_under_contention (requests : List (String × Int)) (schedule : List Nat) :
    let run := auth.contend tenantId username R.id (.start ⟨some rs⟩ requests) schedule
    let final := lastAfter Landing.after R run.landed
    run.users = ⟨some (replaceRow rs final)⟩ ∧
      Chained Landing.before Landing.after R run.landed ∧
      (∀ w ∈ run.landed, w.Lawful auth.maxFailedAttempts) ∧
      (∀ i, run.landed.countP (fun w => w.attempt == i) ≤ 1) ∧
      ((∀ w ∈ run.landed, w.applied = false) →
        final.failedLoginAttempts = R.failedLoginAttempts + run.landed.countP Landing.failure) ∧
      (∀ pre w post, run.landed = pre ++ w :: post → w.applied = true →
        (∀ v ∈ post, v.applied = false) → final.failedLoginAttempts = post.countP Landing.failure) ∧
      (final.isLocked = true ↔ R.isLocked = true ∨
        ∃ w ∈ run.landed, w.failure = true ∧
          auth.maxFailedAttempts ≤ w.before.failedLoginAttempts + 1) ∧
      (R.isLocked = true → final.lockedAt = R.lockedAt ∧ final.lockedReason = R.lockedReason) ∧
      (∀ pre w post, run.landed = pre ++ w :: post → w.before.isLocked = false →
        w.after.isLocked = true → w.failure = true ∧ final.lockedAt = some w.now ∧
          final.lockedReason = some lockReasonMaxAttempts) ∧
      ∀ i x, run.attempts[i]? = some x → x.progress.cleared = true →
        ∃ w ∈ run.landed, w.attempt = i ∧ w.applied = true := by
  intro run final
  have steady : run.Steady auth.maxFailedAttempts rs R :=
    contend_steady auth keyed found rounds low high
      (steady_start keyed (mem_of_find? found) requests) schedule
  have chain := steady.chain
  have lawful := steady.lawful
  exact ⟨steady.store, chain, lawful, fun i => (steady.once i).1,
    Landing.failures_without_reset chain lawful,
    fun pre w post split applies quiet =>
      Landing.failures_since_reset chain lawful split applies quiet,
    Landing.locked_iff chain lawful, Landing.lock_kept chain lawful,
    fun pre w post split unlocked locks =>
      Landing.lock_stamped chain lawful split unlocked locks,
    steady.cleared⟩

end Run

/-- Two attempts on a clinician of `demo` whose lookups both run before either writes. -/
theorem lockout_under_contention_sample :
    let clinician : Account :=
      { id := "u1", tenantId := some "demo", username := "s.johnson", name := "S. Johnson",
        passwordHash := "$2b$04$abcdefghijklmnopqrstuv" }
    let auth : Authenticator :=
      { tenants := ⟨some [], [], ""⟩, tokens := ⟨"secret", "HS256", .inl 30⟩,
        bcryptRounds := .int 4 }
    let run := auth.contend (.str "demo") "s.johnson" clinician.id
      (.start ⟨some [clinician]⟩ [("wrong", 1), ("other", 2)]) [0, 1, 0, 1]
    let final := lastAfter Landing.after clinician run.landed
    Keyed [clinician] ∧
      find? ⟨some [clinician]⟩ (.str "demo") "s.johnson" = .ok (some clinician) ∧
      auth.bcryptRounds = .int 4 ∧ (4 : Int) ≤ 4 ∧ (4 : Int) ≤ 31 ∧
      run.users = ⟨some (replaceRow [clinician] final)⟩ ∧
      Chained Landing.before Landing.after clinician run.landed ∧
      (∀ w ∈ run.landed, w.Lawful auth.maxFailedAttempts) ∧
      (∀ i, run.landed.countP (fun w => w.attempt == i) ≤ 1) ∧
      ((∀ w ∈ run.landed, w.applied = false) →
        final.failedLoginAttempts =
          clinician.failedLoginAttempts + run.landed.countP Landing.failure) ∧
      (∀ pre w post, run.landed = pre ++ w :: post → w.applied = true →
        (∀ v ∈ post, v.applied = false) → final.failedLoginAttempts = post.countP Landing.failure) ∧
      (final.isLocked = true ↔ clinician.isLocked = true ∨
        ∃ w ∈ run.landed, w.failure = true ∧
          auth.maxFailedAttempts ≤ w.before.failedLoginAttempts + 1) ∧
      (clinician.isLocked = true →
        final.lockedAt = clinician.lockedAt ∧ final.lockedReason = clinician.lockedReason) ∧
      (∀ pre w post, run.landed = pre ++ w :: post → w.before.isLocked = false →
        w.after.isLocked = true → w.failure = true ∧ final.lockedAt = some w.now ∧
          final.lockedReason = some lockReasonMaxAttempts) ∧
      ∀ i x, run.attempts[i]? = some x → x.progress.cleared = true →
        ∃ w ∈ run.landed, w.attempt = i ∧ w.applied = true := by
  intro clinician auth run final
  have keyed : Keyed [clinician] := by decide
  have found : find? ⟨some [clinician]⟩ (.str "demo") "s.johnson" = .ok (some clinician) := rfl
  exact ⟨keyed, found, rfl, by decide, by decide,
    lockout_under_contention auth keyed found rfl (by decide) (by decide)
      [("wrong", 1), ("other", 2)] [0, 1, 0, 1]⟩

end Authenticator

end TenantAuth
