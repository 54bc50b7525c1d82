import TenantAuth.Proofs.AccountKeys

/-!
# Looking up an account by tenant and login name

A lookup in a non-empty tenant answers an account of that tenant with the login name, else a system
administrator without a tenant of that name, and a lookup with no tenant answers an account without
one (`CredentialStore.LookupAnswer`). It answers at all exactly when the users table is there and
the texts it binds can be encoded (`CredentialStore.lookup_answer`).
-/

namespace TenantAuth

namespace CredentialStore

open Account

/-- What a lookup in tenant `t` by login name `u` may answer over the rows `rs`. -/
structure LookupAnswer (rs : List Account) (t : Option String) (u : String)
    (answer : Option Account) : Prop where
  /-- The answer is a row with the login name. -/
  member : ∀ a, answer = some a → a ∈ rs ∧ a.username = u
  /-- In a tenant with a name, an account of that tenant is answered when there is one. -/
  own : ∀ s, t = some s → s ≠ "" → (∃ a ∈ rs, a.username = u ∧ a.tenantId = some s) →
    ∃ a, answer = some a ∧ a.tenantId = some s
  /-- Else a system administrator without a tenant, when there is one. -/
  admin : ∀ s, t = some s → s ≠ "" → (¬ ∃ a ∈ rs, a.username = u ∧ a.tenantId = some s) →
    (∃ a ∈ rs, a.username = u ∧ a.tenantId = none ∧ a.role = .systemAdmin) →
    ∃ a, answer = some a ∧ a.tenantId = none ∧ a.role = .systemAdmin
  /-- Else nothing. -/
  nothing : ∀ s, t = some s → s ≠ "" → (¬ ∃ a ∈ rs, a.username = u ∧ a.tenantId = some s) →
    (¬ ∃ a ∈ rs, a.username = u ∧ a.tenantId = none ∧ a.role = .systemAdmin) → answer = none
  /-- With an empty or absent tenant, an account without a tenant when there is one, and
  nothing else. -/
  tenantless : t = none ∨ t = some "" →
    ((∃ a ∈ rs, a.username = u ∧ a.tenantId = none) ↔ answer.isSome) ∧
      ∀ a, answer = some a → a.tenantId = none
  /-- An account with a tenant is answered only in that tenant. -/
  foreign : ∀ a x, answer = some a → a.tenantId = some x → t = some x

theorem pick_named {s : String} (named : s ≠ "") (rs : List Account) (u : String) :
    pick rs (.str s) u =
      (rs.find? fun a => a.username == u && a.tenantId == some s).or
        (rs.find? (adminNamed u)) := by
  have given : (Datum.str s).truthy = true := by simpa using named
  have own : rs.find? (namedIn (.str s) u) =
      rs.find? fun a => a.username == u && a.tenantId == some s :=
    List.find?_congr fun a _ => namedIn_str named u a
  simp only [pick, given, if_true, own]

theorem pick_unnamed {t : Option String} (unnamed : t = none ∨ t = some "") (rs : List Account)
    (u : String) :
    pick rs (Datum.ofOption t) u = rs.find? fun a => a.username == u && a.tenantId.isNone := by
  have absent : (Datum.ofOption t).truthy = false := by
    rcases unnamed with rfl | rfl <;> rfl
  have tenantless : rs.find? (namedIn (Datum.ofOption t) u) =
      rs.find? fun a => a.username == u && a.tenantId.isNone :=
    List.find?_congr fun a _ => by simp [namedIn, absent]
  simp only [pick, absent, Bool.false_eq_true, if_false, tenantless, Option.or_none]

theorem find?_of_exists {rs : List Account} {q : Account → Bool} (some : ∃ a ∈ rs, q a = true) :
    ∃ b, rs.find? q = .some b ∧ q b = true := by
  obtain ⟨b, found⟩ := Option.isSome_iff_exists.mp (List.find?_isSome.mpr some)
  exact ⟨b, found, List.find?_some found⟩

theorem lookupAnswer_named {s : String} (named : s ≠ "") (rs : List Account) (u : String) :
    LookupAnswer rs (some s) u (pick rs (.str s) u) := by
  -- without an account of the tenant, the search for one comes back empty
  have ownMissing : (¬ ∃ a ∈ rs, a.username = u ∧ a.tenantId = some s) →
      (rs.find? fun a => a.username == u && a.tenantId == some s) = none := by
    intro noOwn
    rw [List.find?_eq_none]
    intro b member passed
    simp only [Bool.and_eq_true, beq_iff_eq] at passed
    exact noOwn ⟨b, member, passed⟩
  constructor
  · intro a picked
    obtain ⟨member, name, -⟩ := pick_str_cases picked
    exact ⟨member, name⟩
  · rintro s' ⟨⟩ - ⟨a, member, named', tenant⟩
    obtain ⟨b, found, passed⟩ := find?_of_exists (q := fun a => a.username == u && a.tenantId == some s)
      ⟨a, member, by simp [named', tenant]⟩
    simp only [Bool.and_eq_true, beq_iff_eq] at passed
    exact ⟨b, by rw [pick_named named, found, Option.some_or], passed.2⟩
  · rintro s' ⟨⟩ - noOwn ⟨a, member, named', tenant, role⟩
    obtain ⟨b, found, passed⟩ := find?_of_exists (q := adminNamed u)
      ⟨a, member, by simp [adminNamed, named', tenant, role]⟩
    simp only [adminNamed, Bool.and_eq_true, beq_iff_eq, Option.isNone_iff_eq_none] at passed
    exact ⟨b, by rw [pick_named named, ownMissing noOwn, Option.none_or, found], passed.1.2, passed.2⟩
  · rintro s' ⟨⟩ - noOwn noAdmin
    have admin : rs.find? (adminNamed u) = none := by
      rw [List.find?_eq_none]
      intro b member' passed
      simp only [adminNamed, Bool.and_eq_true, beq_iff_eq, Option.isNone_iff_eq_none] at passed
      exact noAdmin ⟨b, member', passed.1.1, passed.1.2, passed.2⟩
    rw [pick_named named, ownMissing noOwn, admin, Option.none_or]
  · rintro (absent | empty)
    · cases absent
    · exact absurd (Option.some.inj empty) named
  · intro a x picked tenant
    rcases (pick_str_cases picked).2.2 with ⟨-, own⟩ | ⟨empty, -⟩ | ⟨tenantless, -⟩
    · rw [own] at tenant
      exact tenant
    · exact absurd empty named
    · rw [tenantless] at tenant
      cases tenant

theorem lookupAnswer_unnamed {t : Option String} (unnamed : t = none ∨ t = some "")
    (rs : List Account) (u : String) : LookupAnswer rs t u (pick rs (Datum.ofOption t) u) := by
  rw [pick_unnamed unnamed]
  have found : ∀ b, (rs.find? fun a => a.username == u && a.tenantId.isNone) = some b →
      b ∈ rs ∧ b.username = u ∧ b.tenantId = none := by
    intro b found
    have passed := List.find?_some found
    simp only [Bool.and_eq_true, beq_iff_eq, Option.isNone_iff_eq_none] at passed
    exact ⟨List.mem_of_find?_eq_some found, passed⟩
  -- a tenant with a name is neither absent nor empty
  have unnamed' : ∀ s, t = some s → s ≠ "" → False := by
    rintro s rfl named
    rcases unnamed with absent | empty
    · cases absent
    · exact named (Option.some.inj empty)
  refine ⟨fun a picked => ⟨(found a picked).1, (found a picked).2.1⟩,
    fun s given named _ => (unnamed' s given named).elim,
    fun s given named _ _ => (unnamed' s given named).elim,
    fun s given named _ _ => (unnamed' s given named).elim, fun _ => ⟨?_, ?_⟩, ?_⟩
  · rw [List.find?_isSome]
    simp [Option.isNone_iff_eq_none]
  · exact fun a picked => (found a picked).2.2
  · intro a x picked tenant
    rw [(found a picked).2.2] at tenant
    cases tenant

theorem lookupAnswer_pick (rs : List Account) (t : Option String) (u : String) :
    LookupAnswer rs t u (pick rs (Datum.ofOption t) u) := by
  rcases t with _ | s
  · exact lookupAnswer_unnamed (.inl rfl) rs u
  · by_cases named : s = ""
    · exact lookupAnswer_unnamed (.inr (congrArg some named)) rs u
    · exact lookupAnswer_named named rs u

theorem find?_unavailable (tenantId : Datum) (u : String) :
    find? ⟨none⟩ tenantId u = .error .storeUnavailable := rfl

theorem find?_unbindable (rs : List Account) {tenantId : Datum} {u : String}
    (unbound : ¬ Bindable tenantId u) : find? ⟨some rs⟩ tenantId u = .error .unencodable := by
  cases name : Surrogate.carries u
  · have tenant : ∃ x, tenantId = .str x ∧ Surrogate.carries x = true := by
      by_contra none
      simp only [not_exists, not_and, Bool.not_eq_true] at none
      exact unbound ⟨name, none⟩
    obtain ⟨x, rfl, carried⟩ := tenant
    simp [find?, rows, bound, name, carried, bind, Except.bind]
  · simp [find?, rows, bound, name, bind, Except.bind]

/-- Every lookup by tenant and login name answers by `LookupAnswer`, or fails on texts it cannot
bind. -/
theorem lookup_answer (rs : List Account) (t : Option String) (u : String) :
    (Bindable (Datum.ofOption t) u → ∃ answer,
      find? ⟨some rs⟩ (Datum.ofOption t) u = .ok answer ∧ LookupAnswer rs t u answer) ∧
    (¬ Bindable (Datum.ofOption t) u → find? ⟨some rs⟩ (Datum.ofOption t) u = .error .unencodable) ∧
    find? ⟨none⟩ (Datum.ofOption t) u = .error .storeUnavailable :=
  ⟨fun bindable => ⟨_, find?_eq_pick rs bindable, lookupAnswer_pick rs t u⟩,
    find?_unbindable rs, find?_unavailable _ u⟩

/-- A system administrator and an account of `demo` share the login name `root`. -/
theorem lookup_answer_root :
    let admin : Account :=
      { id := "u0", username := "root", name := "Root", role := .systemAdmin, passwordHash := "" }
    let clinician : Account :=
      { id := "u1", tenantId := some "demo", username := "root", name := "Root", passwordHash := "" }
    Bindable (Datum.ofOption (some "demo")) "root" ∧ ∃ answer,
      find? ⟨some [admin, clinician]⟩ (Datum.ofOption (some "demo")) "root" = .ok answer ∧
        LookupAnswer [admin, clinician] (some "demo") "root" answer := by
  intro admin clinician
  have bindable : Bindable (Datum.ofOption (some "demo")) "root" :=
    ⟨by decide, by rintro x ⟨⟩; decide⟩
  exact ⟨bindable, (lookup_answer [admin, clinician] (some "demo") "root").1 bindable⟩

/-- A login name carrying a lone surrogate makes the lookup fail. -/
theorem find?_loneSurrogate :
    find? ⟨some []⟩ (.str "demo") (String.ofList [Surrogate.carrier 0xD800]) =
      .error .unencodable :=
  find?_unbindable [] fun bindable => absurd bindable.1 (by decide)

end CredentialStore

end TenantAuth
