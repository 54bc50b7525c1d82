import TenantAuth.Proofs.StoreRuns

/-!
# Login names within a tenant

The users table keys an account by its id and, within a tenant, by its login name
(`CredentialStore.clashes`); a unique key over a column without a value holds nothing of the rows
without one. So along any run from the empty table a tenant and a login name name at most one
account, while two system administrators without a tenant may share a name, and a lookup then takes
the one added first.
-/

namespace TenantAuth

namespace CredentialStore

open Account

theorem clashes_comm (a b : Account) : clashes a b = clashes b a := by
  unfold clashes
  grind

theorem eq_of_same_login {rs : List Account} (keyed : Keyed rs) {a b : Account} (aIn : a ∈ rs)
    (bIn : b ∈ rs) (tenanted : a.tenantId.isSome) (sameTenant : a.tenantId = b.tenantId)
    (sameName : a.username = b.username) : a = b := by
  have : Std.Symm fun x y : Account => clashes x y = false :=
    ⟨fun x y apart => (clashes_comm y x).trans apart⟩
  have tenantedToo : b.tenantId.isSome := sameTenant ▸ tenanted
  by_contra differ
  -- two rows of the table that are not one account do not clash
  have apart := keyed.forall aIn bIn differ
  simp [clashes, tenantedToo, sameTenant, sameName] at apart

/-- A lookup in a tenant names the accounts of that tenant with the login name. -/
theorem namedIn_str {t : String} (given : t ≠ "") (u : String) (a : Account) :
    namedIn (.str t) u a = (a.username == u && a.tenantId == some t) := by
  cases tenant : a.tenantId <;> simp [namedIn, Datum.truthy, given, Datum.sameKey, Datum.asNumber?, tenant]

/-- A lookup in tenant `t` answers an account of `t`, of no tenant for an empty `t`, or a system
administrator. -/
theorem pick_str_cases {rs : List Account} {t u : String} {a : Account}
    (picked : pick rs (.str t) u = some a) :
    a ∈ rs ∧ a.username = u ∧
      (t ≠ "" ∧ a.tenantId = some t ∨ t = "" ∧ a.tenantId = none ∨
        a.tenantId = none ∧ a.role = .systemAdmin) := by
  unfold pick at picked
  cases named : rs.find? (namedIn (.str t) u) with
  | some b =>
    rw [named, Option.some_or] at picked
    obtain rfl := Option.some.inj picked
    have matched := List.find?_some named
    refine ⟨List.mem_of_find?_eq_some named, ?_⟩
    by_cases empty : t = ""
    · subst empty
      simp [namedIn, Datum.truthy] at matched
      exact ⟨matched.1, .inr (.inl ⟨rfl, matched.2⟩)⟩
    · simp only [namedIn_str empty, Bool.and_eq_true, beq_iff_eq] at matched
      exact ⟨matched.1, .inl ⟨empty, matched.2⟩⟩
  | none =>
    -- the fallback finds system administrators only
    rw [named, Option.none_or] at picked
    split at picked
    · have admin := List.find?_some picked
      simp only [adminNamed, Bool.and_eq_true, beq_iff_eq, Option.isNone_iff_eq_none] at admin
      exact ⟨List.mem_of_find?_eq_some picked, admin.1.1, .inr (.inr ⟨admin.1.2, admin.2⟩)⟩
    · cases picked

theorem length_filter_namedIn_le {rs : List Account} (keyed : Keyed rs) {t : String}
    (given : t ≠ "") (u : String) : (rs.filter (namedIn (.str t) u)).length ≤ 1 := by
  -- any two matches share tenant and login name, so they are one account
  have same : ∀ a ∈ rs.filter (namedIn (.str t) u), ∀ b ∈ rs.filter (namedIn (.str t) u),
      a = b := by
    intro a aMatch b bMatch
    simp only [List.mem_filter, namedIn_str given, Bool.and_eq_true, beq_iff_eq] at aMatch bMatch
    exact eq_of_same_login keyed aMatch.1 bMatch.1 (by simp [aMatch.2.2])
      (aMatch.2.2.trans bMatch.2.2.symm) (aMatch.2.1.trans bMatch.2.1.symm)
  have distinct : (rs.filter (namedIn (.str t) u)).Pairwise (· ≠ ·) :=
    (keyed.filter _).imp fun apart same => by simp [same, clashes] at apart
  generalize rs.filter (namedIn (.str t) u) = matched at same distinct ⊢
  rcases matched with _ | ⟨a, _ | ⟨b, _⟩⟩
  · simp
  · simp
  · exact absurd (same a (by simp) b (by simp)) (List.rel_of_pairwise_cons distinct (by simp))

/-- In a keyed table, a lookup in a tenant finds its account with that login name. -/
theorem find?_of_member {rs : List Account} (keyed : Keyed rs) {a : Account} (member : a ∈ rs)
    {t u : String} (tenant : a.tenantId = some t) (named : a.username = u) (given : t ≠ "")
    (bindable : Bindable (.str t) u) : find? ⟨some rs⟩ (.str t) u = .ok (some a) := by
  rw [find?_eq_pick rs bindable]
  have matched : namedIn (.str t) u a = true := by simp [namedIn_str given, tenant, named]
  obtain ⟨b, found⟩ : ∃ b, rs.find? (namedIn (.str t) u) = some b :=
    Option.isSome_iff_exists.mp (List.find?_isSome.mpr ⟨a, member, matched⟩)
  -- the first match shares tenant and login name with `a`, so it is `a`
  have bMatched := List.find?_some found
  simp only [namedIn_str given, Bool.and_eq_true, beq_iff_eq] at bMatched
  have same : b = a := eq_of_same_login keyed (List.mem_of_find?_eq_some found) member
    (by simp [bMatched.2]) (bMatched.2.trans tenant.symm) (bMatched.1.trans named.symm)
  simp [pick, found, same]

/-- Along any run from the empty table, accounts with a tenant are keyed by tenant and login name.
-/
theorem tenant_username_unique (ops : List Op) :
    ∃ rs, run ops = ⟨some rs⟩ ∧
      (∀ a ∈ rs, ∀ b ∈ rs, a.tenantId.isSome → a.tenantId = b.tenantId →
        a.username = b.username → a = b) ∧
      ∀ t u, t ≠ "" → (rs.filter (namedIn (.str t) u)).length ≤ 1 := by
  obtain ⟨rs, table, keyed⟩ := keyed_run ops
  exact ⟨rs, table, fun a aIn b bIn => eq_of_same_login keyed aIn bIn,
    fun t u given => length_filter_namedIn_le keyed given u⟩

/-- Two system administrators without a tenant may share a login name; a lookup finds the first. -/
theorem tenantless_admins_share_login :
    let first : Account :=
      { id := "u-a", username := "root", name := "root", role := .systemAdmin, passwordHash := "" }
    let second : Account :=
      { id := "u-b", username := "root", name := "root", role := .systemAdmin, passwordHash := "" }
    ((run [.create first (some "ops"), .create second (some "ops")]).accounts.map
      fun rs => (rs.map (·.id), rs.filter (namedIn .none "root") |>.length)) =
        some (["u-a", "u-b"], 2) ∧
      ((run [.create first (some "ops"), .create second (some "ops")]).find? (.str "demo") "root").map
        (·.map (·.id)) = .ok (some "u-a") := by
  constructor <;> cbv

end CredentialStore

end TenantAuth
