import TenantAuth.Proofs.Bookkeeping

/-!
# Runs of the credential store

The store changes by adding an account, changing its columns, unlocking it and the two writes of a
login, and each does nothing, adds an account of a new id, or puts a new version of one in its place
(`Op.apply_cases`). A new version keeps the id and the tenant, and the role unless the role column
is changed. So along any run from the empty table the keys hold (`keyed_run`), an id keeps its
tenant (`row?_run_append`), and an account without a tenant is a system administrator unless the run
changed its role (`tenantless_run`).
-/

namespace TenantAuth

theorem Except.bind_eq_ok {ε α β : Type} {x : Except ε α} {f : α → Except ε β} {b : β} :
    (x >>= f) = .ok b ↔ ∃ a, x = .ok a ∧ f a = .ok b := by
  cases x <;> simp [bind, Except.bind]

namespace Account

theorem change_keeps {a b : Account} {c : String} {v : Datum} (changed : a.change c v = .ok b)
    (notId : c ≠ "id") (notTenant : c ≠ "tenant_id") :
    b.id = a.id ∧ b.tenantId = a.tenantId ∧ (c ≠ "role" → b.role = a.role) := by
  unfold change at changed
  split at changed
  -- the last case is a column accounts do not have, which fails
  case h_20 => cases changed
  -- every other column is read from its value, but the stamp of the change is ignored
  all_goals
    first
      | obtain ⟨y, -, written⟩ := Except.bind_eq_ok.mp changed
        obtain rfl := Except.ok.inj written
        simp_all
      | obtain rfl := Except.ok.inj changed
        simp

theorem foldlM_change_keeps {changes : List (String × Datum)} {a b : Account}
    (folded : changes.foldlM (fun a e => a.change e.1 e.2) a = .ok b)
    (untouched : ∀ e ∈ changes, e.1 ≠ "id" ∧ e.1 ≠ "tenant_id") :
    b.id = a.id ∧ b.tenantId = a.tenantId ∧
      (changes.any (·.1 == "role") = false → b.role = a.role) := by
  induction changes generalizing a with
  | nil =>
    cases folded
    simp
  | cons e rest induction =>
    rw [List.foldlM_cons, Except.bind_eq_ok] at folded
    obtain ⟨a', first, folded⟩ := folded
    obtain ⟨idFirst, tenantFirst, roleFirst⟩ :=
      change_keeps first (untouched e List.mem_cons_self).1 (untouched e List.mem_cons_self).2
    obtain ⟨idRest, tenantRest, roleRest⟩ :=
      induction folded fun e' member => untouched e' (List.mem_cons_of_mem e member)
    refine ⟨idRest.trans idFirst, tenantRest.trans tenantFirst, fun unchanged => ?_⟩
    simp only [List.any_cons, Bool.or_eq_false_iff, beq_eq_false_iff_ne] at unchanged
    exact (roleRest unchanged.2).trans (roleFirst unchanged.1)

end Account

namespace CredentialStore

open Account

/-! ## The writes of the store -/

theorem keyed_of_withRows {rs : List Account} {s : CredentialStore} (written : withRows rs = .ok s) :
    s = ⟨some rs⟩ ∧ Keyed rs := by
  dsimp only [withRows] at written
  split at written
  · cases written
  rename_i clean
  refine ⟨(Except.ok.inj written).symm, ?_⟩
  simp only [List.any_eq_true, not_exists, not_and, Bool.not_eq_true] at clean
  rw [Keyed, List.pairwise_iff_getElem]
  -- each pair of rows in their order is among the pairs checked
  intro i j iBound jBound before
  apply clean (rs[i], rs[j])
  have indexed : (rs[i], i) ∈ rs.zipIdx :=
    List.mem_zipIdx_iff_getElem?.mpr (List.getElem?_eq_getElem iBound)
  have later : rs[j] ∈ rs.drop (i + 1) := by
    rw [List.mem_iff_getElem]
    exact ⟨j - (i + 1), by simp only [List.length_drop]; omega,
      by rw [List.getElem_drop]; congr 1; omega⟩
  exact List.mem_flatMap.mpr ⟨(rs[i], i), indexed, List.mem_map.mpr ⟨rs[j], later, rfl⟩⟩

theorem create_cases {rs : List Account} {a a' : Account} {actor : Option String}
    {s' : CredentialStore} (created : create ⟨some rs⟩ a actor = .ok (a', s')) :
    (a'.tenantId = none → a'.role = .systemAdmin) ∧ Keyed (rs ++ [a']) ∧
      s' = ⟨some (rs ++ [a'])⟩ := by
  simp only [create] at created
  split at created
  · simp [throw, throwThe, MonadExceptOf.throw, bind, Except.bind] at created
  rename_i admitted
  rw [Except.bind_eq_ok] at created
  obtain ⟨rs', listed, created⟩ := created
  cases listed
  rw [Except.bind_eq_ok] at created
  obtain ⟨s'', written, created⟩ := created
  obtain ⟨rfl, rfl⟩ := Prod.mk.inj (Except.ok.inj created)
  obtain ⟨rfl, keyed⟩ := keyed_of_withRows written
  refine ⟨fun tenantless => ?_, keyed, rfl⟩
  simp only at tenantless ⊢
  simpa [tenantless] using admitted

theorem update_cases {rs : List Account} {x : String} {actor : Option String} {now : Int}
    {changes : List (String × Datum)} {r : Option Account} {s' : CredentialStore}
    (updated : update ⟨some rs⟩ x actor now changes = .ok (r, s')) :
    s' = ⟨some rs⟩ ∨ ∃ a b, a ∈ rs ∧ a.id = x ∧ b.id = a.id ∧ b.tenantId = a.tenantId ∧
      (changes.any (·.1 == "role") = false → b.role = a.role) ∧ Keyed (replaceRow rs b) ∧
      s' = ⟨some (replaceRow rs b)⟩ := by
  simp only [update] at updated
  split at updated
  · simp [throw, throwThe, MonadExceptOf.throw, bind, Except.bind] at updated
  rename_i allowed
  rw [Except.bind_eq_ok] at updated
  obtain ⟨rs', listed, updated⟩ := updated
  cases listed
  split at updated
  · exact .inl (Prod.mk.inj (Except.ok.inj updated)).2.symm
  rename_i a found
  split at updated
  · simp [throw, throwThe, MonadExceptOf.throw, bind, Except.bind] at updated
  rw [Except.bind_eq_ok] at updated
  obtain ⟨a', folded, updated⟩ := updated
  rw [Except.bind_eq_ok] at updated
  obtain ⟨s'', written, updated⟩ := updated
  -- no identity column is among the changes, or the change was refused
  have untouched : ∀ e ∈ changes, e.1 ≠ "id" ∧ e.1 ≠ "tenant_id" := by
    have nothing : (immutableColumns.filter fun c => changes.any (·.1 == c)) = [] := by
      simpa [← List.length_eq_zero_iff, List.length_mergeSort] using allowed
    rw [List.filter_eq_nil_iff] at nothing
    intro e member
    constructor
    · intro named
      exact nothing "id" (by decide) (List.any_eq_true.mpr ⟨e, member, by simp [named]⟩)
    · intro named
      exact nothing "tenant_id" (by decide) (List.any_eq_true.mpr ⟨e, member, by simp [named]⟩)
  obtain ⟨sameId, sameTenant, sameRole⟩ := foldlM_change_keeps folded untouched
  obtain ⟨member, hit⟩ := mem_of_find?_id found
  obtain ⟨rfl, keyed⟩ := keyed_of_withRows written
  -- the new version is the changed account stamped with the time and the actor
  let stamped := { a' with updatedAt := now, updatedBy := actor }
  have replaced : (rs.map fun b => if (b.id == x) = true then stamped else b) =
      replaceRow rs stamped := by
    simp [stamped, replaceRow, sameId, hit]
  rw [replaced] at keyed
  obtain rfl := (Prod.mk.inj (Except.ok.inj updated)).2
  exact .inr ⟨a, stamped, member, hit, sameId, sameTenant, sameRole, keyed, by rw [replaced]⟩

/-! ## Lookups by id after a write -/

theorem row?_replaceRow_eq (rs : List Account) (b : Account) (y : String) :
    row? ⟨some (replaceRow rs b)⟩ y =
      (row? ⟨some rs⟩ y).map fun x => if x.id == b.id then b else x := by
  simp only [row?, Option.bind_some, replaceRow, List.find?_map]
  congr 1
  apply List.find?_congr
  intro x _
  by_cases hit : x.id = b.id <;> simp [hit]

theorem row?_append_eq (rs : List Account) (a : Account) (y : String) :
    row? ⟨some (rs ++ [a])⟩ y = (row? ⟨some rs⟩ y).or (if a.id = y then some a else none) := by
  by_cases hit : a.id = y <;> simp [row?, List.find?_append, hit]

theorem mem_of_row? {rs : List Account} {y : String} {a : Account}
    (found : row? ⟨some rs⟩ y = some a) : a ∈ rs ∧ a.id = y := by
  simp only [row?, Option.bind_some] at found
  exact mem_of_find?_id found

/-! ## Operations and runs -/

/-- An operation on the credential store. -/
inductive Op where
  /-- Adds an account, recording who added it. -/
  | create (a : Account) (actor : Option String)
  /-- Changes columns of the account of an id at a time. -/
  | update (userId : String) (actor : Option String) (now : Int) (changes : List (String × Datum))
  /-- Clears the lock and the counter of the account of an id at a time. -/
  | unlock (userId : String) (actor : Option String) (now : Int)
  /-- Counts a failed login. -/
  | recordFailed (userId : String) (maxAttempts now : Int)
  /-- Clears the counter after a successful login. -/
  | recordSuccess (userId : String) (now : Int) (newHash : Option String)

/-- The store an outcome leaves: the new one, or the old one when the operation failed. -/
def settle {α : Type} (s : CredentialStore) : Except Fault (α × CredentialStore) → CredentialStore
  | .ok (_, s') => s'
  | .error _ => s

namespace Op

/-- The store after an operation. -/
def apply (s : CredentialStore) : Op → CredentialStore
  | .create a actor => settle s (s.create a actor)
  | .update userId actor now changes => settle s (s.update userId actor now changes)
  | .unlock userId actor now => settle s (s.unlock userId actor now)
  | .recordFailed userId maxAttempts now => settle s (s.recordFailed userId maxAttempts now)
  | .recordSuccess userId now newHash => settle s (s.recordSuccess userId now newHash)

/-- Whether an operation is a change of the role of the account of an id. -/
def setsRole (userId : String) : Op → Bool
  | .update x _ _ changes => x == userId && changes.any (·.1 == "role")
  | _ => false

theorem apply_cases {rs : List Account} (keyed : Keyed rs) (op : Op) :
    op.apply ⟨some rs⟩ = ⟨some rs⟩ ∨
    (∃ a, (a.tenantId = none → a.role = .systemAdmin) ∧ Keyed (rs ++ [a]) ∧
      op.apply ⟨some rs⟩ = ⟨some (rs ++ [a])⟩) ∨
    (∃ a b, a ∈ rs ∧ b.id = a.id ∧ b.tenantId = a.tenantId ∧
      (op.setsRole a.id = false → b.role = a.role) ∧ Keyed (replaceRow rs b) ∧
      op.apply ⟨some rs⟩ = ⟨some (replaceRow rs b)⟩) := by
  cases op with
  | create a actor =>
    cases created : CredentialStore.create ⟨some rs⟩ a actor with
    | error => exact .inl (by simp [apply, settle, created])
    | ok result =>
      obtain ⟨a', s'⟩ := result
      obtain ⟨admin, keyed', rfl⟩ := create_cases created
      exact .inr (.inl ⟨a', admin, keyed', by simp [apply, settle, created]⟩)
  | update x actor now changes =>
    cases updated : CredentialStore.update ⟨some rs⟩ x actor now changes with
    | error => exact .inl (by simp [apply, settle, updated])
    | ok result =>
      obtain ⟨r, s'⟩ := result
      rcases update_cases updated with rfl | ⟨a, b, member, rfl, sameId, sameTenant, sameRole,
        keyed', rfl⟩
      · exact .inl (by simp [apply, settle, updated])
      · refine .inr (.inr ⟨a, b, member, sameId, sameTenant, fun unset => sameRole ?_, keyed',
          by simp [apply, settle, updated]⟩)
        simpa [setsRole] using unset
  | unlock x actor now =>
    cases unlocked : CredentialStore.unlock ⟨some rs⟩ x actor now with
    | error => exact .inl (by simp [apply, settle, unlocked])
    | ok result =>
      obtain ⟨r, s'⟩ := result
      -- an unlock is a change of four columns, none of them the role
      rcases update_cases unlocked with rfl | ⟨a, b, member, rfl, sameId, sameTenant, sameRole,
        keyed', rfl⟩
      · exact .inl (by simp [apply, settle, unlocked])
      · exact .inr (.inr ⟨a, b, member, sameId, sameTenant, fun _ => sameRole (by decide),
          keyed', by simp [apply, settle, unlocked]⟩)
  | recordFailed x maxAttempts now =>
    cases found : rs.find? (·.id == x) with
    | none => exact .inl (by simp [apply, settle, CredentialStore.recordFailed, rows, bind, Except.bind, pure, Except.pure, found])
    | some a =>
      obtain ⟨member, rfl⟩ := mem_of_find?_id found
      have same := sameIdentity_afterFailure a maxAttempts now
      exact .inr (.inr ⟨a, a.afterFailure maxAttempts now, member, same.id, same.tenantId,
        fun _ => same.role, keyed_replaceRow keyed member same,
        by simp [apply, settle, recordFailed_eq keyed member]⟩)
  | recordSuccess x now newHash =>
    cases found : rs.find? (·.id == x) with
    | none =>
      have unlockedNone : rs.find? (fun a => a.id == x && !a.isLocked) = none := by
        rw [List.find?_eq_none] at found ⊢
        intro a member
        simp [found a member]
      exact .inl (by simp [apply, settle, CredentialStore.recordSuccess, rows, bind, Except.bind, pure, Except.pure,
        unlockedNone])
    | some a =>
      obtain ⟨member, rfl⟩ := mem_of_find?_id found
      have same := sameIdentity_afterSuccess a now newHash
      cases locked : a.isLocked
      · exact .inr (.inr ⟨a, a.afterSuccess now newHash, member, same.id, same.tenantId,
          fun _ => same.role, keyed_replaceRow keyed member same,
          by simp [apply, settle, recordSuccess_eq keyed member, locked]⟩)
      · exact .inl (by simp [apply, settle, recordSuccess_eq keyed member, locked])

theorem keyed_apply {rs : List Account} (keyed : Keyed rs) (op : Op) :
    ∃ rs', op.apply ⟨some rs⟩ = ⟨some rs'⟩ ∧ Keyed rs' := by
  rcases apply_cases keyed op with same | ⟨a, -, keyed', added⟩ | ⟨a, b, -, -, -, -, keyed', put⟩
  · exact ⟨rs, same, keyed⟩
  · exact ⟨rs ++ [a], added, keyed'⟩
  · exact ⟨replaceRow rs b, put, keyed'⟩

theorem row?_apply {rs : List Account} (keyed : Keyed rs) (op : Op) {x : String} {a : Account}
    (found : row? ⟨some rs⟩ x = some a) :
    ∃ b, row? (op.apply ⟨some rs⟩) x = some b ∧ b.tenantId = a.tenantId ∧
      (op.setsRole x = false → b.role = a.role) := by
  rcases apply_cases keyed op with same | ⟨c, -, -, added⟩ |
      ⟨c, b, member, sameId, sameTenant, sameRole, -, put⟩
  · exact ⟨a, by rw [same, found], rfl, fun _ => rfl⟩
  · exact ⟨a, by rw [added, row?_append_eq, found, Option.some_or], rfl, fun _ => rfl⟩
  · rw [put, row?_replaceRow_eq, found]
    obtain ⟨aMember, rfl⟩ := mem_of_row? found
    by_cases hit : a.id = b.id
    · -- the account replaced is the one found
      obtain rfl := eq_of_id_eq keyed member aMember (hit.trans sameId)
      exact ⟨b, by simp [hit], sameTenant, sameRole⟩
    · exact ⟨a, by simp [hit], rfl, fun _ => rfl⟩

theorem row?_apply_fresh {rs : List Account} (keyed : Keyed rs) (op : Op) {x : String}
    {b : Account} (absent : row? ⟨some rs⟩ x = none) (found : row? (op.apply ⟨some rs⟩) x = some b) :
    b.tenantId = none → b.role = .systemAdmin := by
  rcases apply_cases keyed op with same | ⟨a, admin, -, added⟩ | ⟨a, c, -, -, -, -, -, put⟩
  · rw [same, absent] at found
    cases found
  · rw [added, row?_append_eq, absent, Option.none_or] at found
    split at found
    · obtain rfl := Option.some.inj found
      exact admin
    · cases found
  · rw [put, row?_replaceRow_eq, absent] at found
    cases found

end Op

/-- The store after a run of operations from the empty table. -/
def run (ops : List Op) : CredentialStore := ops.foldl Op.apply empty

@[simp] theorem run_nil : run [] = empty := rfl

theorem run_concat (ops : List Op) (op : Op) : run (ops ++ [op]) = op.apply (run ops) := by
  simp [run, List.foldl_append]

/-- The table of a run is there, and keyed. -/
theorem keyed_run (ops : List Op) : ∃ rs, run ops = ⟨some rs⟩ ∧ Keyed rs := by
  induction ops using List.reverseRecOn with
  | nil => exact ⟨[], rfl, List.Pairwise.nil⟩
  | append_singleton ops op induction =>
    obtain ⟨rs, table, keyed⟩ := induction
    rw [run_concat, table]
    exact Op.keyed_apply keyed op

theorem row?_run_append (ops more : List Op) {x : String} {a : Account}
    (found : row? (run ops) x = some a) :
    ∃ b, row? (run (ops ++ more)) x = some b ∧ b.tenantId = a.tenantId := by
  induction more generalizing ops a with
  | nil => exact ⟨a, by simpa using found, rfl⟩
  | cons op rest induction =>
    obtain ⟨rs, table, keyed⟩ := keyed_run ops
    rw [table] at found
    obtain ⟨b, next, sameTenant, -⟩ := Op.row?_apply keyed op found
    rw [← table, ← run_concat] at next
    obtain ⟨c, last, tenant⟩ := induction (ops ++ [op]) next
    refine ⟨c, by simpa using last, tenant.trans sameTenant⟩

theorem tenantless_run (ops : List Op) {x : String} {b : Account}
    (found : row? (run ops) x = some b) (tenantless : b.tenantId = none) :
    b.role = .systemAdmin ∨ ops.any (Op.setsRole x) := by
  induction ops using List.reverseRecOn generalizing b with
  | nil => simp [row?, empty] at found
  | append_singleton ops op induction =>
    obtain ⟨rs, table, keyed⟩ := keyed_run ops
    rw [run_concat, table] at found
    cases before : row? ⟨some rs⟩ x with
    | none => exact .inl (Op.row?_apply_fresh keyed op before found tenantless)
    | some a =>
      obtain ⟨b', after, sameTenant, sameRole⟩ := Op.row?_apply keyed op before
      obtain rfl := Option.some.inj (after.symm.trans found)
      rw [← table] at before
      cases recast : op.setsRole x
      · rcases induction before (sameTenant.symm.trans tenantless) with admin | changed
        · exact .inl ((sameRole recast).trans admin)
        · exact .inr (by simp [changed])
      · exact .inr (by simp [recast])

/-- Along any run, an id keeps its tenant, and an account without one is a system administrator
unless its role changed. -/
theorem tenancy_along_run (ops : List Op) :
    (∀ x b, row? (run ops) x = some b → b.tenantId = none →
      b.role = .systemAdmin ∨ ops.any (Op.setsRole x)) ∧
    ∀ more x a, row? (run ops) x = some a →
      ∃ b, row? (run (ops ++ more)) x = some b ∧ b.tenantId = a.tenantId :=
  ⟨fun _ _ found tenantless => tenantless_run ops found tenantless,
    fun more _ _ found => row?_run_append ops more found⟩

/-- Changing the role of a system administrator without a tenant leaves a clinician without one. -/
theorem tenantless_clinician_after_update :
    let root : Account :=
      { id := "u-root", username := "root", name := "root"
        role := .systemAdmin, passwordHash := "" }
    ((run [.create root (some "ops"), .update "u-root" (some "ops") 0 [("role", .str "clinician")]]).row?
      "u-root").map (fun a => (a.tenantId, a.role)) = some (none, .clinician) := by
  cbv

end CredentialStore

end TenantAuth
