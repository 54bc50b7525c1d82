import TenantAuth.Proofs.TenantDocuments

/-!
# Resolving a tenant id

A lookup of a tenant reads one document, the table's row of the id even when it does not validate,
else the first fallback document (`TenantDirectory.sourceOf`), and answers what building it gives;
an empty id is unknown and an id carrying a lone surrogate fails as unencodable
(`TenantDirectory.lookup_config`). A lookup fails only on an unreadable store, an unencodable id or
a document of the wrong shape, and a lookup with defaults covers the first
(`TenantDirectory.lookup_faults`).
-/

namespace TenantAuth

namespace TenantDirectory

/-- The document a lookup of tenant `t` reads: the table's row with id `t`, else the first
fallback document of `t`. -/
def sourceOf (rs : List TenantRecord) (fallback : List (String × Datum)) (t : String) :
    Option Datum :=
  ((rs.find? (·.id == t)).map TenantRecord.toDatum).or (fallback.lookup t)

theorem isSome_sourceOf (rs : List TenantRecord) (fallback : List (String × Datum)) (t : String) :
    (sourceOf rs fallback t).isSome ↔ t ∈ rs.map (·.id) ∨ t ∈ fallback.map (·.1) := by
  simp [sourceOf, Option.isSome_or]

/-- A lookup by a text id: an empty id is unknown, a lone surrogate fails, else its document
decides. -/
theorem get?_str {d : TenantDirectory} {rs : List TenantRecord} (stored : d.records = some rs)
    (t : String) :
    d.get? (.str t) =
      if t = "" then .ok none
      else if Surrogate.carries t then .error .unencodable
      else (sourceOf rs d.fallback t).elim (.ok none) (d.build t) := by
  by_cases empty : t = ""
  · subst empty
    simp [get?_empty]
  have keyed : identityOf (.str t) = .ok (.str t) := by
    simp [identityOf, Datum.isKey, bind, Except.bind, pure, Except.pure]
  have rows : d.rows = .ok rs := by simp [TenantDirectory.rows, stored]
  rw [if_neg empty]
  unfold get?
  simp [Datum.truthy, empty, keyed, rows, bind, Except.bind, pure, Except.pure,
    Column.optionalText, Column.text]
  by_cases carried : Surrogate.carries t
  · simp [carried, Except.map]
  · simp only [carried, Bool.false_eq_true, if_false, Except.map, Option.bind_some]
    -- the row comes first; only an id without a row reaches the fallback
    cases found : rs.find? (fun r => r.id == t) with
    | some r => simp [sourceOf, found]
    | none =>
      cases listed : d.fallback.lookup t <;> simp [sourceOf, found, listed]

theorem get?_gone {d : TenantDirectory} (gone : d.records = none) {t : String} (named : t ≠ "") :
    d.get? (.str t) = .error .storeUnavailable := by
  simp [get?, Datum.truthy, named, identityOf, Datum.isKey, TenantDirectory.rows, gone, bind,
    Except.bind, pure, Except.pure]

theorem exists?_eq_true {d : TenantDirectory} {tenantId : Datum} :
    d.exists? tenantId = .ok true ↔
      ∃ c, d.get? tenantId = .ok (some c) ∧ c.status = "active" := by
  unfold exists?
  cases d.get? tenantId with
  | error f => simp [bind, Except.bind]
  | ok found =>
    cases found <;> simp [bind, Except.bind, pure, Except.pure, TenantConfig.isActive]

theorem withDefaults_of_get? {d : TenantDirectory} {t : String} {found : Option TenantConfig}
    (looked : d.get? (.str t) = .ok found) :
    d.withDefaults (.str t) = .ok (found.getD (d.defaultConfig t)) := by
  cases found <;> simp [withDefaults, looked, bind, Except.bind, pure, Except.pure]

theorem withDefaults_of_fault {d : TenantDirectory} {t : String} {f : Fault}
    (failed : d.get? (.str t) = .error f) :
    d.withDefaults (.str t) = if f.isStore then .ok (d.defaultConfig t) else .error f := by
  by_cases store : f.isStore <;>
    simp [withDefaults, failed, store, bind, Except.bind, pure, Except.pure, throw, throwThe,
      MonadExceptOf.throw]

/-- The faults a lookup of a text id may end in. -/
inductive LookupFault (d : TenantDirectory) (t : String) : Fault → Prop where
  /-- The store cannot be read. -/
  | store {f : Fault} : f.isStore = true → LookupFault d t f
  /-- The id carries a lone surrogate, which the store's query cannot encode. -/
  | unencodable : Surrogate.carries t = true → LookupFault d t .unencodable
  /-- The document the lookup reads has the wrong shape. -/
  | shape {f : Fault} {rs : List TenantRecord} {doc : Datum} : (f = .noAttribute ∨ f = .wrongType) →
      d.records = some rs → sourceOf rs d.fallback t = some doc → ¬ Shaped doc → LookupFault d t f

theorem get?_fault {d : TenantDirectory} {t : String} {f : Fault}
    (failed : d.get? (.str t) = .error f) : LookupFault d t f := by
  cases stored : d.records with
  | none =>
    by_cases empty : t = ""
    · subst empty
      rw [get?_empty] at failed
      cases failed
    · rw [get?_gone stored empty] at failed
      exact .store (by rw [← Except.error.inj failed]; rfl)
  | some rs =>
    rw [get?_str stored] at failed
    by_cases empty : t = ""
    · simp [empty] at failed
    by_cases carried : Surrogate.carries t
    · simp only [empty, carried, if_true, if_false] at failed
      rw [← Except.error.inj failed]
      exact .unencodable carried
    -- only building the document that was read can fail
    simp only [empty, carried, Bool.false_eq_true, if_false] at failed
    cases source : sourceOf rs d.fallback t with
    | none => simp [source] at failed
    | some doc =>
      simp only [source, Option.elim_some] at failed
      exact .shape (build_fault failed) stored source (not_shaped_of_fault failed)

/-- Resolving a text id against rows and fallback documents, and which tenants exist. -/
theorem lookup_config (rs : List TenantRecord) (fallback : List (String × Datum))
    (base t : String) :
    let d : TenantDirectory := ⟨some rs, fallback, base⟩
    d.get? (.str t) =
        (if t = "" then .ok none
        else if Surrogate.carries t then .error .unencodable
        else (sourceOf rs fallback t).elim (.ok none) (d.build t)) ∧
      (∀ doc c, d.build t doc = .ok (some c) →
        ∃ entries, doc.unwrap = .dict entries ∧ Built d t entries c) ∧
      (d.exists? (.str t) = .ok true ↔
        ∃ c, d.get? (.str t) = .ok (some c) ∧ c.status = "active") := by
  intro d
  exact ⟨get?_str rfl t, fun _ _ built => built_of_build built, exists?_eq_true⟩

/-- A row shadows the fallback document of its id. -/
theorem lookup_config_rowFirst :
    let row : TenantRecord := { id := "demo", name := "Demo" }
    let d : TenantDirectory := ⟨some [row], [("demo", .dict [])], defaultAssetBaseUrl⟩
    d.get? (.str "demo") = d.build "demo" row.toDatum := by
  intro row d
  rw [(lookup_config [row] [("demo", .dict [])] defaultAssetBaseUrl "demo").1,
    if_neg (by decide), if_neg (by decide)]
  rfl

/-- An id carrying a lone surrogate is not unknown: its lookup fails. -/
theorem get?_loneSurrogate :
    (⟨some [], [], defaultAssetBaseUrl⟩ : TenantDirectory).get?
      (.str (String.ofList [Surrogate.carrier 0xD800])) = .error .unencodable := by
  rw [get?_str rfl, if_neg (by decide), if_pos (by decide)]

/-- A lookup fails only by `LookupFault`; a lookup with defaults answers when the store is
unreadable. -/
theorem lookup_faults (d : TenantDirectory) (t : String) :
    (∀ f, d.get? (.str t) = .error f → LookupFault d t f) ∧
      (∀ f, d.withDefaults (.str t) = .error f → LookupFault d t f ∧ f.isStore = false) ∧
      (Surrogate.carries t = false →
        (∀ rs doc, d.records = some rs → sourceOf rs d.fallback t = some doc → Shaped doc) →
        ∃ c, d.withDefaults (.str t) = .ok c) := by
  refine ⟨fun f => get?_fault, fun f failed => ?_, fun encodable shaped => ?_⟩
  · -- a lookup with defaults fails only by passing on a fault of the lookup
    cases looked : d.get? (.str t) with
    | ok found => simp [withDefaults_of_get? looked] at failed
    | error g =>
      rw [withDefaults_of_fault looked] at failed
      by_cases store : g.isStore
      · simp [store] at failed
      · simp only [store, Bool.false_eq_true, if_false, Except.error.injEq] at failed
        subst failed
        exact ⟨get?_fault looked, by simpa using store⟩
  · cases looked : d.get? (.str t) with
    | ok found => exact ⟨_, withDefaults_of_get? looked⟩
    | error g =>
      rw [withDefaults_of_fault looked]
      cases get?_fault looked with
      | store isStore => exact ⟨d.defaultConfig t, by simp [isStore]⟩
      | unencodable carried => simp [carried] at encodable
      | shape _ stored source unshaped => exact absurd (shaped _ _ stored source) unshaped

/-- A fallback document that is no mapping makes a lookup with defaults fail. -/
theorem lookup_faults_nonMapping :
    let d : TenantDirectory := ⟨some [], [("a", .int 5)], defaultAssetBaseUrl⟩
    d.withDefaults (.str "a") = .error .noAttribute ∧ LookupFault d "a" .noAttribute := by
  intro d
  have built : d.build "a" (.int 5) = .error .noAttribute := rfl
  have looked : d.get? (.str "a") = .error .noAttribute := by
    rw [get?_str rfl, if_neg (by decide), if_neg (by decide)]
    exact built
  have failed : d.withDefaults (.str "a") = .error .noAttribute := by
    rw [withDefaults_of_fault looked]
    rfl
  exact ⟨failed, ((lookup_faults d "a").2.1 _ failed).1⟩

end TenantDirectory

end TenantAuth
