import Mathlib
import TenantAuth.Credential.Login

/-!
# Bookkeeping on one account

The writes of a login touch a single row of the users table: a failed attempt is counted and
may lock the account, a successful one clears the counter while the row is unlocked, and an
unlock clears the lock. Each write is stated here as a new version of one account, which
replaces the old one in a table whose keys are distinct (`CredentialStore.Keyed`). Since a
new version keeps the columns a lookup reads, the lookup of a tenant and login name keeps
finding the account, and a run of logins on one account can be followed on that account
alone.
-/

namespace TenantAuth

namespace Account

/-- The account after a failed login at a time, under a limit of attempts: one more failed
attempt, and locked once the counter before the attempt plus one reaches the limit. An
account locked by this very attempt also records when and why. -/
def afterFailure (a : Account) (maxAttempts now : Int) : Account :=
  let reaches := a.failedLoginAttempts + 1 ≥ maxAttempts
  let newlyLocked := reaches && !a.isLocked
  { a with
    failedLoginAttempts := a.failedLoginAttempts + 1,
    lastFailedLoginAt := some now,
    isLocked := reaches || a.isLocked,
    lockedAt := if newlyLocked then some now else a.lockedAt,
    lockedReason := if newlyLocked then some lockReasonMaxAttempts else a.lockedReason,
    updatedAt := now }

/-- The account after a successful login at a time: no failed attempts, and the new hash
when one was made. -/
def afterSuccess (a : Account) (now : Int) (newHash : Option String) : Account :=
  { a with
    failedLoginAttempts := 0,
    lastSuccessfulLoginAt := some now,
    passwordHash := match newHash with
      | some h => if h.isEmpty then a.passwordHash else h
      | none => a.passwordHash,
    updatedAt := now }

/-- The account after an unlock by an actor at a time: unlocked, with no lock time or reason
and no failed attempts, stamped with the time and the actor. -/
def afterUnlock (a : Account) (actor : Option String) (now : Int) : Account :=
  { a with
    isLocked := false,
    lockedAt := none,
    lockedReason := none,
    failedLoginAttempts := 0,
    updatedAt := now,
    updatedBy := actor }

@[simp] theorem afterFailure_failedLoginAttempts (a : Account) (m now : Int) :
    (a.afterFailure m now).failedLoginAttempts = a.failedLoginAttempts + 1 := rfl

@[simp] theorem afterFailure_isLocked (a : Account) (m now : Int) :
    (a.afterFailure m now).isLocked = (decide (m ≤ a.failedLoginAttempts + 1) || a.isLocked) :=
  rfl

@[simp] theorem afterFailure_lockedAt (a : Account) (m now : Int) :
    (a.afterFailure m now).lockedAt =
      if (decide (m ≤ a.failedLoginAttempts + 1) && !a.isLocked) then some now
      else a.lockedAt := rfl

@[simp] theorem afterFailure_lockedReason (a : Account) (m now : Int) :
    (a.afterFailure m now).lockedReason =
      if (decide (m ≤ a.failedLoginAttempts + 1) && !a.isLocked) then some lockReasonMaxAttempts
      else a.lockedReason := rfl

@[simp] theorem afterFailure_passwordHash (a : Account) (m now : Int) :
    (a.afterFailure m now).passwordHash = a.passwordHash := rfl

@[simp] theorem afterSuccess_failedLoginAttempts (a : Account) (now : Int) (h : Option String) :
    (a.afterSuccess now h).failedLoginAttempts = 0 := rfl

@[simp] theorem afterSuccess_isLocked (a : Account) (now : Int) (h : Option String) :
    (a.afterSuccess now h).isLocked = a.isLocked := rfl

@[simp] theorem afterSuccess_lockedAt (a : Account) (now : Int) (h : Option String) :
    (a.afterSuccess now h).lockedAt = a.lockedAt := rfl

@[simp] theorem afterSuccess_lockedReason (a : Account) (now : Int) (h : Option String) :
    (a.afterSuccess now h).lockedReason = a.lockedReason := rfl

@[simp] theorem afterUnlock_failedLoginAttempts (a : Account) (actor : Option String)
    (now : Int) : (a.afterUnlock actor now).failedLoginAttempts = 0 := rfl

@[simp] theorem afterUnlock_isLocked (a : Account) (actor : Option String) (now : Int) :
    (a.afterUnlock actor now).isLocked = false := rfl

/-- Two versions of one account that agree on what a lookup reads and on whether the
account may log in at all: the key columns, the role and the activity flag. -/
structure SameIdentity (a b : Account) : Prop where
  id : b.id = a.id
  tenantId : b.tenantId = a.tenantId
  username : b.username = a.username
  role : b.role = a.role
  isActive : b.isActive = a.isActive

namespace SameIdentity

theorem refl (a : Account) : SameIdentity a a := ⟨rfl, rfl, rfl, rfl, rfl⟩

theorem trans {a b c : Account} (first : SameIdentity a b) (second : SameIdentity b c) :
    SameIdentity a c :=
  ⟨second.id.trans first.id, second.tenantId.trans first.tenantId,
    second.username.trans first.username, second.role.trans first.role,
    second.isActive.trans first.isActive⟩

end SameIdentity

theorem sameIdentity_afterFailure (a : Account) (m now : Int) :
    SameIdentity a (a.afterFailure m now) := ⟨rfl, rfl, rfl, rfl, rfl⟩

theorem sameIdentity_afterSuccess (a : Account) (now : Int) (h : Option String) :
    SameIdentity a (a.afterSuccess now h) := ⟨rfl, rfl, rfl, rfl, rfl⟩

theorem sameIdentity_afterUnlock (a : Account) (actor : Option String) (now : Int) :
    SameIdentity a (a.afterUnlock actor now) := ⟨rfl, rfl, rfl, rfl, rfl⟩

/-! ## Steps on one account

A run on an account is followed as a list of steps, each with the version of the account it
found and the one it left. -/

section Steps

variable {α : Type}

/-- The account a list of steps leaves: the last step's, or the start when there are none. -/
def lastAfter (after : α → Account) (start : Account) (steps : List α) : Account :=
  steps.foldl (fun _ x => after x) start

/-- Steps that follow one another from a start: each begins with the account the previous
one left. -/
def Chained (before after : α → Account) : Account → List α → Prop
  | _, [] => True
  | start, x :: rest => before x = start ∧ Chained before after (after x) rest

variable {before after : α → Account}

@[simp] theorem lastAfter_nil (start : Account) : lastAfter after start [] = start := rfl

@[simp] theorem lastAfter_cons (start : Account) (x : α) (rest : List α) :
    lastAfter after start (x :: rest) = lastAfter after (after x) rest := rfl

theorem lastAfter_append (start : Account) (front back : List α) :
    lastAfter after start (front ++ back) = lastAfter after (lastAfter after start front) back := by
  simp [lastAfter, List.foldl_append]

theorem chained_append {start : Account} {front back : List α} :
    Chained before after start (front ++ back) ↔
      Chained before after start front ∧ Chained before after (lastAfter after start front) back := by
  induction front generalizing start with
  | nil => simp [Chained]
  | cons x rest induction => simp [Chained, induction, and_assoc]

/-- Along steps that add one failed attempt or keep the count, the count grows by the steps that add
one. -/
theorem failedLoginAttempts_lastAfter {start : Account} {steps : List α}
    (chain : Chained before after start steps) (counts : α → Bool)
    (step : ∀ x ∈ steps, (after x).failedLoginAttempts =
      if counts x then (before x).failedLoginAttempts + 1 else (before x).failedLoginAttempts) :
    (lastAfter after start steps).failedLoginAttempts =
      start.failedLoginAttempts + steps.countP counts := by
  induction steps generalizing start with
  | nil => simp
  | cons x rest induction =>
      obtain ⟨begins, restChain⟩ := chain
      have counted := step x List.mem_cons_self
      rw [begins] at counted
      rw [lastAfter_cons, induction restChain (fun y yin => step y (List.mem_cons_of_mem x yin)),
        List.countP_cons]
      cases adds : counts x <;> simp [adds] at counted ⊢ <;> omega

/-- Along steps that never unlock, the account ends locked iff it started locked or a step locked
it. -/
theorem isLocked_lastAfter {start : Account} {steps : List α}
    (chain : Chained before after start steps) (locks : α → Bool)
    (step : ∀ x ∈ steps, (after x).isLocked = ((before x).isLocked || locks x)) :
    (lastAfter after start steps).isLocked = (start.isLocked || steps.any locks) := by
  induction steps generalizing start with
  | nil => simp
  | cons x rest induction =>
      obtain ⟨begins, restChain⟩ := chain
      have locked := step x List.mem_cons_self
      rw [begins] at locked
      rw [lastAfter_cons, induction restChain (fun y yin => step y (List.mem_cons_of_mem x yin)),
        locked, List.any_cons, Bool.or_assoc]

/-- Along steps that keep a lock with its time and reason, a locked account keeps both. -/
theorem lock_lastAfter {start : Account} {steps : List α}
    (chain : Chained before after start steps)
    (keeps : ∀ x ∈ steps, (before x).isLocked = true → (after x).isLocked = true ∧
      (after x).lockedAt = (before x).lockedAt ∧ (after x).lockedReason = (before x).lockedReason)
    (locked : start.isLocked = true) :
    (lastAfter after start steps).isLocked = true ∧
      (lastAfter after start steps).lockedAt = start.lockedAt ∧
      (lastAfter after start steps).lockedReason = start.lockedReason := by
  induction steps generalizing start with
  | nil => exact ⟨locked, rfl, rfl⟩
  | cons x rest induction =>
      obtain ⟨begins, restChain⟩ := chain
      obtain ⟨stillLocked, sameAt, sameReason⟩ := keeps x List.mem_cons_self (begins ▸ locked)
      obtain ⟨endLocked, endAt, endReason⟩ :=
        induction restChain (fun y yin => keeps y (List.mem_cons_of_mem x yin)) stillLocked
      rw [begins] at sameAt sameReason
      exact ⟨endLocked, endAt.trans sameAt, endReason.trans sameReason⟩

end Steps

end Account

namespace CredentialStore

open Account

/-! ## Keyed tables -/

/-- The keys of the users table hold: no two accounts share an id, or a login name within a
tenant. -/
def Keyed (rs : List Account) : Prop :=
  rs.Pairwise fun a b => clashes a b = false

instance (rs : List Account) : Decidable (Keyed rs) :=
  inferInstanceAs (Decidable (rs.Pairwise fun a b => clashes a b = false))

/-- The rows with the account of one id replaced by a new version of it. -/
def replaceRow (rs : List Account) (b : Account) : List Account :=
  rs.map fun x => if x.id == b.id then b else x

theorem withRows_of_keyed {rs : List Account} (keyed : Keyed rs) :
    withRows rs = .ok ⟨some rs⟩ := by
  unfold withRows
  rw [if_neg]
  simp only [List.any_eq_true, not_exists, not_and, Bool.not_eq_true]
  -- each pair checked stands in the table in its order, so the keys keep it apart
  intro p member
  simp only [List.mem_flatMap, List.mem_map] at member
  obtain ⟨⟨a, i⟩, indexed, b, later, rfl⟩ := member
  obtain ⟨bound, at_i⟩ := List.getElem?_eq_some_iff.mp (List.mem_zipIdx_iff_getElem?.mp indexed)
  simp only at bound at_i later ⊢
  rw [← at_i]
  have ordered : List.Sublist [rs[i], b] rs := by
    have front : List.Sublist [rs[i], b] (rs[i] :: rs.drop (i + 1)) :=
      (List.singleton_sublist.mpr later).cons_cons _
    rw [List.getElem_cons_drop] at front
    exact front.trans (List.drop_sublist _ _)
  exact List.pairwise_iff_forall_sublist.mp keyed ordered

theorem id_ne_of_clashes_eq_false {a b : Account} (apart : clashes a b = false) : a.id ≠ b.id := by
  intro same
  simp [clashes, same] at apart

theorem find?_id_and {rs : List Account} (keyed : Keyed rs) {a : Account} (member : a ∈ rs)
    (q : Account → Bool) :
    rs.find? (fun x => x.id == a.id && q x) = if q a then some a else none := by
  induction rs with
  | nil => simp at member
  | cons b rest induction =>
      rw [Keyed, List.pairwise_cons] at keyed
      rcases List.mem_cons.mp member with rfl | later
      · have others : rest.find? (fun x => x.id == a.id && q x) = none := by
          rw [List.find?_eq_none]
          intro x xin
          have apart := id_ne_of_clashes_eq_false (keyed.1 x xin)
          simp [Ne.symm apart]
        cases pass : q a <;> simp [pass, others]
      · have apart := id_ne_of_clashes_eq_false (keyed.1 a later)
        simp [apart, induction keyed.2 later]

theorem find?_id {rs : List Account} (keyed : Keyed rs) {a : Account} (member : a ∈ rs) :
    rs.find? (·.id == a.id) = some a := by
  simpa using find?_id_and keyed member (fun _ => true)

/-- The account a search by id finds is a row of that id. -/
theorem mem_of_find?_id {rs : List Account} {x : String} {a : Account}
    (found : rs.find? (·.id == x) = some a) : a ∈ rs ∧ a.id = x :=
  ⟨List.mem_of_find?_eq_some found, by simpa using List.find?_some found⟩

/-- In a keyed table, two rows of one id are one row. -/
theorem eq_of_id_eq {rs : List Account} (keyed : Keyed rs) {a x : Account} (member : a ∈ rs)
    (xin : x ∈ rs) (same : x.id = a.id) : x = a := by
  have found := find?_id keyed xin
  rw [same, find?_id keyed member] at found
  exact (Option.some.inj found).symm

theorem clashes_congr {a b a' b' : Account} (ha : SameIdentity a a') (hb : SameIdentity b b') :
    clashes a' b' = clashes a b := by
  simp [clashes, ha.id, ha.tenantId, ha.username, hb.id, hb.tenantId, hb.username]

theorem keyed_replaceRow {rs : List Account} (keyed : Keyed rs) {a b : Account} (member : a ∈ rs)
    (same : SameIdentity a b) : Keyed (replaceRow rs b) := by
  have kept : ∀ x ∈ rs, SameIdentity x (if x.id == b.id then b else x) := by
    intro x xin
    by_cases hit : x.id = b.id
    · obtain rfl := eq_of_id_eq keyed member xin (hit.trans same.id)
      simpa [hit] using same
    · simpa [hit] using SameIdentity.refl x
  unfold Keyed replaceRow
  rw [List.pairwise_map]
  exact keyed.imp_of_mem fun xin yin apart => (clashes_congr (kept _ xin) (kept _ yin)).trans apart

theorem mem_replaceRow {rs : List Account} {a b : Account} (member : a ∈ rs)
    (same : SameIdentity a b) : b ∈ replaceRow rs b :=
  List.mem_map.mpr ⟨a, member, by simp [same.id]⟩

/-- In a keyed table, writing an account back as it is changes nothing. -/
theorem replaceRow_self {rs : List Account} (keyed : Keyed rs) {a : Account} (member : a ∈ rs) :
    replaceRow rs a = rs := by
  conv => rhs; rw [← List.map_id rs]
  apply List.map_congr_left
  intro x xin
  by_cases hit : x.id = a.id
  · simp [eq_of_id_eq keyed member xin hit]
  · simp [hit]

theorem replaceRow_replaceRow (rs : List Account) {b c : Account} (same : c.id = b.id) :
    replaceRow (replaceRow rs b) c = replaceRow rs c := by
  simp only [replaceRow, List.map_map]
  apply List.map_congr_left
  intro x _
  by_cases hit : x.id = b.id <;> simp [hit, same]

/-! ## Lookups by tenant and login name -/

/-- Whether an account is the one a login name names in a tenant: one of that tenant, or one
without a tenant when the tenant is empty or absent. -/
def namedIn (tenantId : Datum) (username : String) (a : Account) : Bool :=
  a.username == username &&
    (if tenantId.truthy then (a.tenantId.map (fun t => Datum.sameKey (.str t) tenantId)).getD false
     else a.tenantId.isNone)

/-- Whether an account is a system administrator without a tenant, of a login name. -/
def adminNamed (username : String) (a : Account) : Bool :=
  a.username == username && a.tenantId.isNone && a.role == .systemAdmin

/-- The account a lookup picks from the rows: the first one the login name names in the
tenant, or else, for a given tenant, the first system administrator of that name. -/
def pick (rs : List Account) (tenantId : Datum) (username : String) : Option Account :=
  (rs.find? (namedIn tenantId username)).or
    (if tenantId.truthy then rs.find? (adminNamed username) else none)

/-- The texts a lookup binds can be encoded: the login name, and the tenant when it is
text. -/
def Bindable (tenantId : Datum) (username : String) : Prop :=
  Surrogate.carries username = false ∧ ∀ t, tenantId = .str t → Surrogate.carries t = false

/-- A lookup over a table with bindable texts picks its account from the rows. -/
theorem find?_eq_pick (rs : List Account) {tenantId : Datum} {username : String}
    (bindable : Bindable tenantId username) :
    find? ⟨some rs⟩ tenantId username = .ok (pick rs tenantId username) := by
  obtain ⟨nameBound, tenantBound⟩ := bindable
  cases tenantId <;>
    simp only [find?, rows, bound, nameBound, tenantBound, Bool.false_eq_true, if_false, bind,
      Except.bind]
  -- the fallback to a system administrator, as a choice between two searches
  all_goals
    unfold pick
    split
    · rename_i a named
      have named' : rs.find? (namedIn _ username) = some a := named
      rw [named']
      rfl
    · rename_i unnamed
      have unnamed' : rs.find? (namedIn _ username) = none := unnamed
      rw [unnamed']
      split <;> rfl

/-- A lookup that answers at all had bindable texts and a table. -/
theorem bindable_of_find? {s : CredentialStore} {tenantId : Datum} {username : String}
    {r : Option Account} (answered : find? s tenantId username = .ok r) :
    Bindable tenantId username ∧ ∃ rs, s.accounts = some rs := by
  obtain ⟨accounts⟩ := s
  cases accounts with
  | none => simp [find?, rows, bind, Except.bind] at answered
  | some rs =>
      have named : Surrogate.carries username = false := by
        cases hu : Surrogate.carries username
        · rfl
        · simp [find?, rows, bound, hu, bind, Except.bind] at answered
      refine ⟨⟨named, ?_⟩, rs, rfl⟩
      rintro t rfl
      cases ht : Surrogate.carries t
      · rfl
      · simp [find?, rows, bound, named, ht, bind, Except.bind] at answered

theorem namedIn_congr {a b : Account} (same : SameIdentity a b) (tenantId : Datum)
    (username : String) : namedIn tenantId username b = namedIn tenantId username a := by
  simp [namedIn, same.username, same.tenantId]

theorem adminNamed_congr {a b : Account} (same : SameIdentity a b) (username : String) :
    adminNamed username b = adminNamed username a := by
  simp [adminNamed, same.username, same.tenantId, same.role]

theorem pick_replaceRow {rs : List Account} (keyed : Keyed rs) {a b : Account} (member : a ∈ rs)
    (same : SameIdentity a b) (tenantId : Datum) (username : String)
    (picked : pick rs tenantId username = some a) :
    pick (replaceRow rs b) tenantId username = some b := by
  have kept : ∀ x ∈ rs, SameIdentity x (if x.id == b.id then b else x) := by
    intro x xin
    by_cases hit : x.id = b.id
    · obtain rfl := eq_of_id_eq keyed member xin (hit.trans same.id)
      simpa [hit] using same
    · simpa [hit] using SameIdentity.refl x
  have named : rs.find? (fun x => namedIn tenantId username (if x.id == b.id then b else x)) =
      rs.find? (namedIn tenantId username) :=
    List.find?_congr fun x xin => namedIn_congr (kept x xin) tenantId username
  have admin : rs.find? (fun x => adminNamed username (if x.id == b.id then b else x)) =
      rs.find? (adminNamed username) :=
    List.find?_congr fun x xin => adminNamed_congr (kept x xin) username
  have moved : pick (replaceRow rs b) tenantId username =
      (pick rs tenantId username).map fun x => if x.id == b.id then b else x := by
    simp only [pick, replaceRow, List.find?_map, Function.comp_def]
    rw [named, admin]
    cases rs.find? (namedIn tenantId username) <;> split <;> simp
  rw [moved, picked]
  simp [same.id]

/-- A lookup that found an account finds its new version once it replaces the old one. -/
theorem find?_replaceRow {rs : List Account} (keyed : Keyed rs) {a b : Account} (member : a ∈ rs)
    (same : SameIdentity a b) {tenantId : Datum} {username : String}
    (found : find? ⟨some rs⟩ tenantId username = .ok (some a)) :
    find? ⟨some (replaceRow rs b)⟩ tenantId username = .ok (some b) := by
  have bindable := (bindable_of_find? found).1
  rw [find?_eq_pick rs bindable] at found
  rw [find?_eq_pick _ bindable,
    pick_replaceRow keyed member same tenantId username (Except.ok.inj found)]

theorem mem_of_pick {rs : List Account} {tenantId : Datum} {username : String} {a : Account}
    (picked : pick rs tenantId username = some a) : a ∈ rs := by
  unfold pick at picked
  cases named : rs.find? (namedIn tenantId username) with
  | some b =>
      rw [named, Option.some_or] at picked
      cases picked
      exact List.mem_of_find?_eq_some named
  | none =>
      rw [named, Option.none_or] at picked
      split at picked
      · exact List.mem_of_find?_eq_some picked
      · cases picked

/-- An account a lookup finds is a row of the table. -/
theorem mem_of_find? {rs : List Account} {tenantId : Datum} {username : String} {a : Account}
    (found : find? ⟨some rs⟩ tenantId username = .ok (some a)) : a ∈ rs := by
  rw [find?_eq_pick rs (bindable_of_find? found).1] at found
  exact mem_of_pick (Except.ok.inj found)

/-- The account of an id, looked up among the rows. -/
def row? (s : CredentialStore) (userId : String) : Option Account :=
  s.accounts.bind fun rs => rs.find? (·.id == userId)

theorem row?_replaceRow {rs : List Account} (keyed : Keyed rs) {a b : Account} (member : a ∈ rs)
    (same : SameIdentity a b) : row? ⟨some (replaceRow rs b)⟩ a.id = some b := by
  have found := find?_id (keyed_replaceRow keyed member same) (mem_replaceRow member same)
  rw [same.id] at found
  exact found

/-! ## The writes of a login and of an unlock -/

/-- A failed login on a keyed table writes the `afterFailure` version of the account. -/
theorem recordFailed_eq {rs : List Account} (keyed : Keyed rs) {a : Account} (member : a ∈ rs)
    (maxAttempts now : Int) :
    recordFailed ⟨some rs⟩ a.id maxAttempts now =
      .ok (some ((a.afterFailure maxAttempts now).failedLoginAttempts,
          (a.afterFailure maxAttempts now).isLocked),
        ⟨some (replaceRow rs (a.afterFailure maxAttempts now))⟩) := by
  simp only [recordFailed, rows, bind, Except.bind, find?_id keyed member]
  rfl

/-- A successful login writes the `afterSuccess` version of an unlocked account, and nothing
otherwise. -/
theorem recordSuccess_eq {rs : List Account} (keyed : Keyed rs) {a : Account} (member : a ∈ rs)
    (now : Int) (newHash : Option String) :
    recordSuccess ⟨some rs⟩ a.id now newHash =
      if a.isLocked then .ok (false, ⟨some rs⟩)
      else .ok (true, ⟨some (replaceRow rs (a.afterSuccess now newHash))⟩) := by
  have search := find?_id_and keyed member (fun x => !x.isLocked)
  cases locked : a.isLocked
  · simp only [locked, Bool.not_false, if_true] at search
    simp only [recordSuccess, rows, bind, Except.bind, search]
    rfl
  · simp only [locked, Bool.not_true, Bool.false_eq_true, if_false] at search
    simp only [recordSuccess, rows, bind, Except.bind, search]
    rfl

/-- An unlock on a keyed table writes and returns the `afterUnlock` version of the account. -/
theorem unlock_eq {rs : List Account} (keyed : Keyed rs) {a : Account} (member : a ∈ rs)
    (actor : Option String) (now : Int) :
    unlock ⟨some rs⟩ a.id actor now =
      .ok (some (a.afterUnlock actor now), ⟨some (replaceRow rs (a.afterUnlock actor now))⟩) := by
  let changes : List (String × Datum) := [("is_locked", .bool false), ("locked_at", .none),
    ("locked_reason", .none), ("failed_login_attempts", .int 0)]
  -- the unlock touches no identity column, and only columns accounts have
  have allowed : (immutableColumns.filter fun c => changes.any (·.1 == c)) = [] := by decide
  have known : changes.find? (fun e => !Account.columns.contains e.1) = none := by decide
  have changed : changes.foldlM (fun a x => a.change x.1 x.2) a =
      .ok { a with
        isLocked := false
        lockedAt := none
        lockedReason := none
        failedLoginAttempts := 0 } := rfl
  have written := withRows_of_keyed
    (keyed_replaceRow keyed member (sameIdentity_afterUnlock a actor now))
  simp only [unlock, update, rows, bind, Except.bind, find?_id keyed member]
  simp only [changes] at allowed known changed
  simp only [allowed, known, changed, List.mergeSort_nil, List.isEmpty_nil, Bool.not_true,
    Bool.false_eq_true, if_false]
  -- the rows written are the replaced ones, up to unfolding
  split
  · rename_i refused
    cases refused.symm.trans written
  · rename_i rows' accepted
    cases accepted.symm.trans written
    rfl

end CredentialStore

/-! ## The stages of a login -/

namespace Password

theorem bytesOf_str (password : String) :
    (∃ bytes, bytesOf (.str password) = .ok bytes) ∨ bytesOf (.str password) = .error .unencodable := by
  cases encoded : Surrogate.utf8? password with
  | some bytes => exact .inl ⟨bytes, by simp [bytesOf, encoded]⟩
  | none => exact .inr (by simp [bytesOf, encoded])

/-- A password given as text is checked without fault: it matches or it does not. -/
theorem verify_str (password : String) (hashed : Datum) :
    verify (.str password) hashed = .ok true ∨ verify (.str password) hashed = .ok false := by
  unfold verify
  split
  · exact .inr rfl
  · have either : ∀ b : Bool, (Except.ok b : Except Fault Bool) = .ok true ∨
        (Except.ok b : Except Fault Bool) = .ok false := by
      intro b
      cases b <;> simp
    rcases bytesOf_str password with ⟨bytes, encoded⟩ | encoded <;> rw [encoded]
    · cases hashed
      case str h => exact either _
      all_goals exact .inr rfl
    · exact .inr rfl

/-- A password that a stored hash accepts has UTF-8 bytes, at most `maxBytes` of them. -/
theorem bytes_of_verify {password h : String} (matched : verify (.str password) (.str h) = .ok true) :
    ∃ bytes, bytesOf (.str password) = .ok bytes ∧ bytes.length ≤ maxBytes := by
  unfold verify at matched
  split at matched
  · cases matched
  · cases encoded : bytesOf (.str password) with
    | error f =>
        rw [encoded] at matched
        cases f <;> cases matched
    | ok bytes =>
        rw [encoded] at matched
        simp only [Except.ok.injEq, Bool.and_eq_true, decide_eq_true_eq] at matched
        exact ⟨bytes, rfl, matched.1.2⟩

/-- A cost in the range bcrypt takes, given as an integer, is accepted as it is. -/
theorem costOf_int {r : Int} (low : 4 ≤ r) (high : r ≤ 31) : costOf (.int r) = .ok r.toNat := by
  obtain ⟨n, rfl⟩ := Int.eq_ofNat_of_zero_le (by omega : 0 ≤ r)
  have valid : Bcrypt.validCost n = true := by
    simp only [Bcrypt.validCost, Bool.and_eq_true, decide_eq_true_eq]
    omega
  have inWidth : (decide ((n : Int) < 0) || decide ((n : Int) > costWidthLimit)) = false := by
    simp only [costWidthLimit, Bool.or_eq_false_iff, decide_eq_false_iff_not, gt_iff_lt]
    omega
  simp [costOf, inWidth, valid]

theorem hash_of_verify {password h : String} (matched : verify (.str password) (.str h) = .ok true)
    (salt : Vector UInt8 16) {r : Int} (low : 4 ≤ r) (high : r ≤ 31) :
    ∃ fresh, hash salt (.str password) (.int r) = .ok fresh := by
  obtain ⟨bytes, encoded, short⟩ := bytes_of_verify matched
  have fits : ¬ bytes.length > maxBytes := by omega
  exact ⟨Bcrypt.hash .b r.toNat salt.toList bytes,
    by simp [hash, costOf_int low high, encoded, fits, bind, Except.bind, pure, Except.pure]⟩

end Password

namespace Authenticator

open Account CredentialStore

variable (auth : Authenticator) {rs : List Account} {a : Account}

/-- A wrong password writes the `afterFailure` version of the row now stored under the id read. -/
theorem refuse_eq (keyed : Keyed rs) (member : a ∈ rs) {user : Account} (row : user.id = a.id)
    (now : Int) :
    auth.refuse ⟨some rs⟩ user now =
      (⟨some (replaceRow rs (a.afterFailure auth.maxFailedAttempts now))⟩,
        .rejected (if (a.afterFailure auth.maxFailedAttempts now).isLocked then .accountLocked
          else .invalidCredentials)) := by
  unfold refuse
  rw [row, recordFailed_eq keyed member]
  cases (a.afterFailure auth.maxFailedAttempts now).isLocked <;> rfl

/-- A right password writes the `afterSuccess` version of the row now stored, when it is unlocked.
-/
theorem accept_of_match (keyed : Keyed rs) (member : a ∈ rs) {user : Account}
    (row : user.id = a.id) {r : Int} (rounds : auth.bcryptRounds = .int r) (low : 4 ≤ r)
    (high : r ≤ 31) {password : String}
    (matched : Password.verify (.str password) (.str user.passwordHash) = .ok true) (now : Int) :
    ∃ newHash, auth.accept ⟨some rs⟩ user (.str password) now =
      if a.isLocked then (⟨some rs⟩, .error (.rejected .accountLocked))
      else (⟨some (replaceRow rs (a.afterSuccess now newHash))⟩, .ok ()) := by
  obtain ⟨fresh, hashed⟩ := Password.hash_of_verify matched auth.salt low high
  -- the fresh hash is made from what the login read, the write goes to the row as it is now
  by_cases cheaper : Password.roundsOf user.passwordHash < r
  · refine ⟨some fresh, ?_⟩
    cases locked : a.isLocked <;>
      simp [accept, rounds, Password.needsRehash, Password.hashRounds, cheaper, hashed, row,
        recordSuccess_eq keyed member, locked, bind, Except.bind, pure, Except.pure]
  · refine ⟨none, ?_⟩
    cases locked : a.isLocked <;>
      simp [accept, rounds, Password.needsRehash, Password.hashRounds, cheaper, row,
        recordSuccess_eq keyed member, locked, bind, Except.bind, pure, Except.pure]

end Authenticator

end TenantAuth
