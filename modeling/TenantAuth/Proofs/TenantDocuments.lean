import TenantAuth.Proofs.ClaimsSchema

/-!
# Building a tenant's configuration from its document

A tenant document is merged with the tenant's defaults field by field: a branding field takes the
last entry given under either spelling (`Branding.From`), and name, status and type the document's
non-empty value or their defaults (`TenantDirectory.Built`). Building fails only on a document of
the wrong shape (`TenantDirectory.Shaped`), as a missing attribute or a wrong type, and a document
of the right shape builds a configuration or none.
-/

namespace TenantAuth

theorem Except.map_eq_ok {ε α β : Type} {f : α → β} {x : Except ε α} {b : β} :
    x.map f = .ok b ↔ ∃ a, x = .ok a ∧ f a = b := by
  cases x <;> simp [Except.map]

namespace Datum

theorem sameKey_str_right (x : Datum) (n : String) :
    sameKey x (.str n) = (x.asString? == some n) := by
  cases x <;> simp [sameKey, asNumber?, asString?]

theorem sameKey_str_left (n : String) (x : Datum) :
    sameKey (.str n) x = (x.asString? == some n) := by
  cases x <;> simp [sameKey, asNumber?, asString?, BEq.comm]

@[simp] theorem asString?_eq_some {x : Datum} {n : String} : x.asString? = some n ↔ x = .str n := by
  cases x <;> simp [asString?]

theorem find?_map_values {l : List (Datum × Datum)} {f : Datum × Datum → Datum × Datum}
    (keeps : ∀ e, (f e).1 = e.1) (q : Datum → Bool) :
    (l.map f).find? (fun e => q e.1) = (l.find? fun e => q e.1).map f := by
  rw [List.find?_map]
  congr 2
  funext e
  simp [keeps]

theorem lookup_assign_str (acc : List (Datum × Datum)) (key v : Datum) (n : String) :
    lookup (assign acc key v) (.str n) =
      if key.asString? = some n then some v else lookup acc (.str n) := by
  have keeps : ∀ e : Datum × Datum, (if sameKey e.1 key then (e.1, v) else e).1 = e.1 := by
    intro e
    split <;> rfl
  unfold assign lookup
  by_cases named : key.asString? = some n
  · obtain rfl := asString?_eq_some.mp named
    rw [if_pos named]
    split
    · -- the entry of `n` is found, and takes the value
      rename_i present
      obtain ⟨e, found⟩ :=
        Option.isSome_iff_exists.mp (List.find?_isSome.mpr (List.any_eq_true.mp present))
      rw [find?_map_values keeps (sameKey · (.str n)), found]
      simp [List.find?_some found]
    · -- no entry of `n` yet: the new one goes last
      rename_i absent
      have missing : acc.find? (fun e => sameKey e.1 (.str n)) = Option.none := by
        simpa [List.find?_eq_none] using absent
      rw [List.find?_append, missing]
      simp [sameKey_str_right]
  · have other : ∀ x : Datum, x.asString? = some n → sameKey x key = false := by
      intro x text
      rw [asString?_eq_some.mp text, sameKey_str_left]
      simpa using named
    rw [if_neg named]
    split
    · rw [find?_map_values keeps (sameKey · (.str n))]
      cases found : acc.find? (fun e => sameKey e.1 (.str n)) with
      | none => rfl
      | some e =>
        have keyed : e.1.asString? = some n := by
          simpa [sameKey_str_right] using List.find?_some found
        simp [other e.1 keyed]
    · simp [List.find?_append, sameKey_str_right, named]

/-- The value of the last entry whose key is the text `n`. -/
def lastValue (entries : List (Datum × Datum)) (n : String) : Option Datum :=
  (entries.reverse.find? fun e => e.1.asString? == some n).map (·.2)

theorem lastValue_assign (acc : List (Datum × Datum)) (key v : Datum) (n : String) :
    lastValue (assign acc key v) n = if key.asString? = some n then some v else lastValue acc n := by
  have keeps : ∀ e : Datum × Datum, (if sameKey e.1 key then (e.1, v) else e).1 = e.1 := by
    intro e
    split <;> rfl
  unfold assign lastValue
  split
  · rename_i present
    rw [← List.map_reverse, find?_map_values keeps (·.asString? == some n)]
    by_cases named : key.asString? = some n
    · -- the last entry of `n` is one the assignment changed
      obtain rfl := asString?_eq_some.mp named
      obtain ⟨e, member, same⟩ := List.any_eq_true.mp present
      have some : ∃ e ∈ acc.reverse, (e.1.asString? == some n) = true := by
        refine ⟨e, List.mem_reverse.mpr member, ?_⟩
        simpa [sameKey_str_right] using same
      obtain ⟨b, found⟩ := Option.isSome_iff_exists.mp (List.find?_isSome.mpr some)
      have keyed : sameKey b.1 (.str n) = true := by
        simpa [sameKey_str_right] using List.find?_some found
      simp [found, keyed, named]
    · rw [if_neg named]
      cases found : acc.reverse.find? (fun e => e.1.asString? == some n) with
      | none => rfl
      | some b =>
        have keyed : b.1 = .str n := by simpa using List.find?_some found
        simp [keyed, sameKey_str_left, named]
  · by_cases named : key.asString? = some n <;> simp [named]

theorem view_foldl_assign (view : List (Datum × Datum) → String → Option Datum)
    (step : ∀ acc key v n,
      view (assign acc key v) n = if key.asString? = some n then some v else view acc n)
    (rename : Datum → Datum) (xs init : List (Datum × Datum)) (n : String) :
    view (xs.foldl (fun acc e => assign acc (rename e.1) e.2) init) n =
      ((xs.reverse.find? fun e => (rename e.1).asString? == some n).map (·.2)).or
        (view init n) := by
  induction xs using List.reverseRecOn with
  | nil => simp
  | append_singleton xs e induction =>
    rw [List.foldl_append, List.foldl_cons, List.foldl_nil, step, induction, List.reverse_append]
    by_cases named : (rename e.1).asString? = some n <;> simp [named]

end Datum

namespace Checked

theorem aliasedOr_eq_ok {α : Type} {entries : List (Datum × Datum)} {camel name : String}
    {dflt x : α} {read : Datum → Except IssueKind α} {v : Datum}
    (absent : camel = name ∨ Datum.lookup entries (.str camel) = Option.none)
    (present : Datum.lookup entries (.str name) = some v) :
    aliasedOr entries camel name dflt read = .ok x ↔ read v = .ok x := by
  rcases absent with rfl | absent
  · simp [aliasedOr, present, at'_eq_ok]
  · simp [aliasedOr, optional, absent, present, at'_eq_ok]

theorem aliased_eq_ok {α : Type} {doc : Datum} {entries : List (Datum × Datum)} {name : String}
    {x : α} {read : Datum → Except IssueKind α} {v : Datum}
    (present : Datum.lookup entries (.str name) = some v) :
    aliased doc entries name name read = .ok x ↔ read v = .ok x := by
  simp [aliased, present, at'_eq_ok]

end Checked

namespace Branding

/-- The camelCase spelling and the field name of each branding field, the table `fieldName?`
reads. -/
def spellings : List (String × String) :=
  [("logo", "logo"), ("favicon", "favicon"), ("primaryColor", "primary_color"),
   ("secondaryColor", "secondary_color"), ("accentColor", "accent_color")]

theorem renameKey_named {camel name : String} (spelled : (camel, name) ∈ spellings) (x : Datum) :
    ((renameKey x).asString? == some name) =
      (x.asString? == some camel || x.asString? == some name) := by
  cases x with
  | str k =>
    simp only [spellings, List.mem_cons, Prod.mk.injEq, List.not_mem_nil, or_false] at spelled
    simp only [renameKey, fieldName?, Datum.asString?]
    rcases spelled with ⟨rfl, rfl⟩ | ⟨rfl, rfl⟩ | ⟨rfl, rfl⟩ | ⟨rfl, rfl⟩ | ⟨rfl, rfl⟩ <;>
      simp only [List.lookup] <;> repeat' split
    all_goals simp_all
  | _ => simp [renameKey, Datum.asString?]

theorem renameKey_camel {camel name : String} (spelled : (camel, name) ∈ spellings)
    (differ : camel ≠ name) (x : Datum) : ((renameKey x).asString? == some camel) = false := by
  cases x with
  | str k =>
    simp only [spellings, List.mem_cons, Prod.mk.injEq, List.not_mem_nil, or_false] at spelled
    simp only [renameKey, fieldName?, Datum.asString?]
    rcases spelled with ⟨rfl, rfl⟩ | ⟨rfl, rfl⟩ | ⟨rfl, rfl⟩ | ⟨rfl, rfl⟩ | ⟨rfl, rfl⟩ <;>
      simp only [List.lookup] at differ ⊢ <;> repeat' split
    all_goals simp_all
  | _ => simp [renameKey, Datum.asString?]

/-- The value a branding document gives a field under its camelCase spelling or its field name:
that of the last entry under either. -/
def given? (es : List (Datum × Datum)) (camel name : String) : Option Datum :=
  (es.reverse.find? fun e => e.1.asString? == some camel || e.1.asString? == some name).map (·.2)

/-- A field read from a branding document: the value given for it, as `read` reads it, or the
default when none is given. -/
def FieldFrom {α : Type} (es : List (Datum × Datum)) (camel name : String)
    (read : Datum → Except IssueKind α) (dflt v : α) : Prop :=
  match given? es camel name with
  | some w => read w = .ok v
  | none => v = dflt

/-- A branding made from a branding document over a default branding, field by field. -/
structure From (es : List (Datum × Datum)) (dflt b : Branding) : Prop where
  logo : FieldFrom es "logo" "logo" Lax.text dflt.logo b.logo
  favicon : FieldFrom es "favicon" "favicon" Lax.optionalText dflt.favicon b.favicon
  primaryColor : FieldFrom es "primaryColor" "primary_color" Lax.text dflt.primaryColor
    b.primaryColor
  secondaryColor : FieldFrom es "secondaryColor" "secondary_color" Lax.text dflt.secondaryColor
    b.secondaryColor
  accentColor : FieldFrom es "accentColor" "accent_color" Lax.text dflt.accentColor b.accentColor

/-- A branding document's entries, renamed to field names, assigned over a default branding's
entries: what a configuration's branding is read from. -/
def merge (es : List (Datum × Datum)) (dflt : Branding) : List (Datum × Datum) :=
  (es.foldl (fun acc e => Datum.assign acc (renameKey e.1) e.2) []).foldl
    (fun acc e => Datum.assign acc e.1 e.2) dflt.fields

theorem lookup_merge (es : List (Datum × Datum)) (dflt : Branding) (n : String) :
    Datum.lookup (merge es dflt) (.str n) =
      ((es.reverse.find? fun e => (renameKey e.1).asString? == some n).map (·.2)).or
        (Datum.lookup dflt.fields (.str n)) := by
  -- the default's entries are overridden by the renamed entries, whose last one of `n` wins
  have merged := Datum.view_foldl_assign (fun acc n => Datum.lookup acc (.str n))
    Datum.lookup_assign_str (fun k => k)
    (es.foldl (fun acc e => Datum.assign acc (renameKey e.1) e.2) []) dflt.fields n
  have renamed := Datum.view_foldl_assign Datum.lastValue Datum.lastValue_assign renameKey es [] n
  rw [merge, merged]
  change (Datum.lastValue _ n).or _ = _
  rw [renamed]
  simp only [Datum.lastValue, List.reverse_nil, List.find?_nil, Option.map_none, Option.or_none]

theorem lookup_merge_name {camel name : String} (spelled : (camel, name) ∈ spellings)
    (es : List (Datum × Datum)) (dflt : Branding) :
    Datum.lookup (merge es dflt) (.str name) =
      (given? es camel name).or (Datum.lookup dflt.fields (.str name)) := by
  simp only [lookup_merge, given?, renameKey_named spelled]

theorem lookup_merge_camel {camel name : String} (spelled : (camel, name) ∈ spellings)
    (differ : camel ≠ name) (es : List (Datum × Datum)) (dflt : Branding) :
    Datum.lookup (merge es dflt) (.str camel) = Option.none := by
  have unnamed : ∀ k, k ∈ ["primaryColor", "secondaryColor", "accentColor"] →
      Datum.lookup dflt.fields (.str k) = Option.none := by
    simp [fields, Datum.lookup, Datum.sameKey_str_right, Datum.asString?]
  have camelCase : camel ∈ ["primaryColor", "secondaryColor", "accentColor"] := by
    simp only [spellings, List.mem_cons, Prod.mk.injEq, List.not_mem_nil, or_false] at spelled
    rcases spelled with ⟨rfl, rfl⟩ | ⟨rfl, rfl⟩ | ⟨rfl, rfl⟩ | ⟨rfl, rfl⟩ | ⟨rfl, rfl⟩ <;> simp_all
  simp [lookup_merge, renameKey_camel spelled differ, unnamed camel camelCase]

theorem lookup_merge_given {camel name : String} (spelled : (camel, name) ∈ spellings)
    {es : List (Datum × Datum)} {dflt : Branding} {entry : Datum}
    (own : Datum.lookup dflt.fields (.str name) = some entry) :
    Datum.lookup (merge es dflt) (.str name) = some ((given? es camel name).getD entry) := by
  rw [lookup_merge_name spelled, own]
  cases given? es camel name <;> rfl

theorem fieldFrom_of_reads {α : Type} {es : List (Datum × Datum)} {camel name : String}
    {read : Datum → Except IssueKind α} {x v : α} {entry : Datum} (readsOwn : read entry = .ok x)
    (readsMerged : read ((given? es camel name).getD entry) = .ok v) :
    FieldFrom es camel name read x v := by
  unfold FieldFrom
  cases given : given? es camel name with
  | some u => simpa [given] using readsMerged
  | none =>
    rw [given, Option.getD_none, readsOwn] at readsMerged
    exact (Except.ok.inj readsMerged).symm

theorem lookup_fields (b : Branding) :
    Datum.lookup b.fields (.str "logo") = some (.str b.logo) ∧
    Datum.lookup b.fields (.str "favicon") = some (Datum.ofOption b.favicon) ∧
    Datum.lookup b.fields (.str "primary_color") = some (.str b.primaryColor) ∧
    Datum.lookup b.fields (.str "secondary_color") = some (.str b.secondaryColor) ∧
    Datum.lookup b.fields (.str "accent_color") = some (.str b.accentColor) := by
  simp [fields, Datum.lookup, Datum.sameKey_str_right, Datum.asString?]

theorem fieldFrom_merge {α : Type} {camel name : String} (spelled : (camel, name) ∈ spellings)
    {es : List (Datum × Datum)} {dflt : Branding} {read : Datum → Except IssueKind α}
    {w x v : α} {entry : Datum} (own : Datum.lookup dflt.fields (.str name) = some entry)
    (readsOwn : read entry = .ok x)
    (reading : Checked.aliasedOr (merge es dflt) camel name w read = .ok v) :
    FieldFrom es camel name read x v := by
  have absent : camel = name ∨ Datum.lookup (merge es dflt) (.str camel) = Option.none := by
    by_cases same : camel = name
    · exact .inl same
    · exact .inr (lookup_merge_camel spelled same es dflt)
  exact fieldFrom_of_reads readsOwn
    ((Checked.aliasedOr_eq_ok absent (lookup_merge_given spelled own)).mp reading)

/-- Reading a branding gives each field its own reading. -/
theorem read_eq_ok {doc : Datum} {entries : List (Datum × Datum)} {b : Branding}
    (read : Branding.read doc entries = .ok b) :
    Checked.aliased doc entries "logo" "logo" Lax.text = .ok b.logo ∧
    Checked.aliasedOr entries "favicon" "favicon" Option.none Lax.optionalText = .ok b.favicon ∧
    Checked.aliasedOr entries "primaryColor" "primary_color" defaultPrimaryColor Lax.text =
      .ok b.primaryColor ∧
    Checked.aliasedOr entries "secondaryColor" "secondary_color" defaultSecondaryColor Lax.text =
      .ok b.secondaryColor ∧
    Checked.aliasedOr entries "accentColor" "accent_color" defaultAccentColor Lax.text =
      .ok b.accentColor := by
  unfold Branding.read at read
  obtain ⟨⟨logo, favicon, primary, secondary, accent⟩, readings, rfl⟩ := Except.map_eq_ok.mp read
  simpa only [Checked.and_eq_ok] using readings

theorem from_read {es : List (Datum × Datum)} {dflt b : Branding}
    (read : Branding.read (.dict (merge es dflt)) (merge es dflt) = .ok b) : From es dflt b := by
  obtain ⟨logo, favicon, primary, secondary, accent⟩ := read_eq_ok read
  obtain ⟨ownLogo, ownFavicon, ownPrimary, ownSecondary, ownAccent⟩ := lookup_fields dflt
  have readsOption : Lax.optionalText (Datum.ofOption dflt.favicon) = .ok dflt.favicon := by
    cases dflt.favicon <;> rfl
  refine ⟨?_, fieldFrom_merge (by simp [spellings]) ownFavicon readsOption favicon,
    fieldFrom_merge (by simp [spellings]) ownPrimary rfl primary,
    fieldFrom_merge (by simp [spellings]) ownSecondary rfl secondary,
    fieldFrom_merge (by simp [spellings]) ownAccent rfl accent⟩
  -- the logo has no default to fall back on, but the merged entries always hold one
  exact fieldFrom_of_reads rfl
    ((Checked.aliased_eq_ok (lookup_merge_given (by simp [spellings]) ownLogo)).mp logo)

end Branding

namespace TenantDirectory

/-- The entries of a document's branding: an absent or empty branding has none, and a branding
that is neither empty nor a mapping has no entries at all. -/
def brandingEntries? (entries : List (Datum × Datum)) : Option (List (Datum × Datum)) :=
  let b := (Datum.lookup entries (.str "branding")).getD .none
  if b.truthy then b.entries? else some []

/-- A text field of a document with a default: the document's value, read as text, when it gives
one that is not empty, and the default when the value is absent or empty. -/
def TextFrom (entries : List (Datum × Datum)) (key dflt v : String) : Prop :=
  match Datum.lookup entries (.str key) with
  | some w => if w.truthy then Lax.text w = .ok v else v = dflt
  | none => v = dflt

/-- What a configuration built for tenant `t` from a document with these entries holds: its
branding is made from the document's branding over the tenant's default one, and its
identifier, name, status and type are the document's, else `t`, `<t> Hospital`, `active` and
`custom`. -/
structure Built (d : TenantDirectory) (t : String) (entries : List (Datum × Datum))
    (c : TenantConfig) : Prop where
  branding : ∃ es, brandingEntries? entries = some es ∧
    Branding.From es (d.defaultBranding t) c.branding
  id : TextFrom entries "id" t c.id
  name : TextFrom entries "name" (t ++ " Hospital") c.name
  status : TextFrom entries "status" "active" c.status
  type : TextFrom entries "type" "custom" c.type

theorem textFrom_of_read {entries : List (Datum × Datum)} {key dflt v : String}
    (read : (Lax.text (orElse ((Datum.lookup entries (.str key)).getD .none) dflt)).toOption =
      some v) : TextFrom entries key dflt v := by
  unfold TextFrom
  cases given : Datum.lookup entries (.str key) with
  | none =>
    simp only [given, Option.getD_none, orElse, Datum.truthy] at read
    simpa [Lax.text, Except.toOption] using read.symm
  | some w =>
    simp only [given, Option.getD_some, orElse] at read
    dsimp only
    by_cases truthy : w.truthy
    · rw [if_pos truthy] at read ⊢
      cases reading : Lax.text w <;> simp_all [Except.toOption]
    · rw [if_neg truthy] at read ⊢
      simpa [Lax.text, Except.toOption] using read.symm

theorem brandingEntries?_of_unwrap {entries es : List (Datum × Datum)}
    (own : (if ((Datum.lookup entries (.str "branding")).getD .none).truthy then
      (Datum.lookup entries (.str "branding")).getD .none else .dict []).unwrap = .dict es) :
    brandingEntries? entries = some es := by
  unfold brandingEntries?
  dsimp only
  split
  · rename_i truthy
    rw [if_pos truthy] at own
    simp [Datum.entries?, own]
  · rename_i empty
    rw [if_neg empty] at own
    simp only [Datum.unwrap, Datum.dict.injEq] at own
    rw [own]

theorem build_eq_some {d : TenantDirectory} {t : String} {doc : Datum} {c : TenantConfig}
    (built : d.build t doc = .ok (some c)) :
    ∃ entries es, doc.unwrap = .dict entries ∧ brandingEntries? entries = some es ∧
      Branding.read (.dict (Branding.merge es (d.defaultBranding t)))
        (Branding.merge es (d.defaultBranding t)) = .ok c.branding ∧
      (Lax.text (orElse ((Datum.lookup entries (.str "id")).getD .none) t)).toOption =
        some c.id ∧
      (Lax.text (orElse ((Datum.lookup entries (.str "name")).getD .none)
        (t ++ " Hospital"))).toOption = some c.name ∧
      (Lax.text (orElse ((Datum.lookup entries (.str "status")).getD .none)
        "active")).toOption = some c.status ∧
      (Lax.text (orElse ((Datum.lookup entries (.str "type")).getD .none)
        "custom")).toOption = some c.type := by
  unfold build at built
  simp only [bind, Except.bind, pure, Except.pure, throw, throwThe, MonadExceptOf.throw] at built
  -- each stage either gives up (a fault or no configuration) or hands its value on
  split at built
  rotate_left
  · cases built
  rename_i entries unwrapped
  split at built
  rotate_left
  · cases built
  rename_i es own
  split at built
  · cases built
  split at built
  rotate_left
  · cases built
  rename_i branding brandingRead
  split at built
  · cases built
  split at built
  rotate_left
  · cases built
  split at built
  · cases built
  split at built
  rotate_left
  · cases built
  split at built
  rotate_left
  · cases built
  rename_i id name status type idRead nameRead statusRead typeRead
  obtain rfl := Option.some.inj (Except.ok.inj built).symm
  exact ⟨entries, es, unwrapped, brandingEntries?_of_unwrap own, brandingRead, idRead, nameRead,
    statusRead, typeRead⟩

/-- A configuration built from a document is made from it by `Built`. -/
theorem built_of_build {d : TenantDirectory} {t : String} {doc : Datum} {c : TenantConfig}
    (built : d.build t doc = .ok (some c)) :
    ∃ entries, doc.unwrap = .dict entries ∧ Built d t entries c := by
  obtain ⟨entries, es, unwrapped, branding, brandingRead, idRead, nameRead, statusRead, typeRead⟩ :=
    build_eq_some built
  exact ⟨entries, unwrapped, ⟨⟨es, branding, Branding.from_read brandingRead⟩,
    textFrom_of_read idRead, textFrom_of_read nameRead, textFrom_of_read statusRead,
    textFrom_of_read typeRead⟩⟩

/-- A part of a document that keyword arguments can be drawn from: an empty value, or a mapping
whose keys are all text. -/
def Keyworded (v : Datum) : Prop :=
  v.truthy = false ∨ ∃ es, v.unwrap = .dict es ∧ ∀ e ∈ es, ∃ s, e.1 = .str s

/-- A tenant document of the shape a configuration is built from: a mapping whose branding,
features and settings are each empty or a mapping with text keys. -/
def Shaped (doc : Datum) : Prop :=
  ∃ entries, doc.unwrap = .dict entries ∧
    ∀ part ∈ ["branding", "features", "config"],
      Keyworded ((Datum.lookup entries (.str part)).getD .none)

theorem entries_of_keyworded {v : Datum} (shaped : Keyworded v) :
    ∃ es, (if v.truthy then v else .dict []).unwrap = .dict es ∧ ∀ e ∈ es, ∃ s, e.1 = .str s := by
  rcases shaped with empty | ⟨es, unwrapped, texts⟩
  · exact ⟨[], by simp [empty], by simp⟩
  · by_cases truthy : v.truthy
    · exact ⟨es, by simp [truthy, unwrapped], texts⟩
    · exact ⟨[], by simp [truthy], by simp⟩

theorem all_text {es : List (Datum × Datum)} (texts : ∀ e ∈ es, ∃ s, e.1 = .str s) :
    es.all (fun e => e.1.asString?.isSome) = true := by
  refine List.all_eq_true.mpr fun e member => ?_
  obtain ⟨s, keyed⟩ := texts e member
  simp [keyed, Datum.asString?]

theorem keywords_of_keyworded {v : Datum} (shaped : Keyworded v) : ∃ es, keywords v = .ok es := by
  obtain ⟨es, unwrapped, texts⟩ := entries_of_keyworded shaped
  exact ⟨es, by simp [keywords, unwrapped, all_text texts]⟩

theorem keywords_fault {v : Datum} {f : Fault} (failed : keywords v = .error f) :
    f = .wrongType := by
  unfold keywords at failed
  split at failed
  · split at failed
    · cases failed
    · exact (Except.error.inj failed).symm
  · exact (Except.error.inj failed).symm

theorem keys_assign {P : Datum → Prop} {acc : List (Datum × Datum)} {key v : Datum}
    (old : ∀ e ∈ acc, P e.1) (new : P key) : ∀ e ∈ Datum.assign acc key v, P e.1 := by
  unfold Datum.assign
  split
  · intro e member
    obtain ⟨e', member', rfl⟩ := List.mem_map.mp member
    split
    · exact old e' member'
    · exact old e' member'
  · intro e member
    rcases List.mem_append.mp member with old' | new'
    · exact old e old'
    · rw [List.mem_singleton.mp new']
      exact new

theorem keys_foldl_assign {P : Datum → Prop} (rename : Datum → Datum)
    {xs init : List (Datum × Datum)} (old : ∀ e ∈ init, P e.1) (new : ∀ e ∈ xs, P (rename e.1)) :
    ∀ e ∈ xs.foldl (fun acc e => Datum.assign acc (rename e.1) e.2) init, P e.1 := by
  induction xs generalizing init with
  | nil => exact old
  | cons x xs induction =>
    exact induction (keys_assign old (new x List.mem_cons_self))
      fun e member => new e (List.mem_cons_of_mem x member)

theorem merge_texts {es : List (Datum × Datum)} (texts : ∀ e ∈ es, ∃ s, e.1 = .str s)
    (dflt : Branding) : ∀ e ∈ Branding.merge es dflt, ∃ s, e.1 = .str s := by
  have renamed : ∀ e ∈ es, ∃ s, (Branding.renameKey e.1) = .str s := by
    intro e member
    obtain ⟨s, keyed⟩ := texts e member
    exact ⟨_, by rw [keyed]; rfl⟩
  have own := @keys_foldl_assign (fun k => ∃ s, k = .str s) Branding.renameKey es [] (by simp)
    renamed
  refine keys_foldl_assign (P := fun k => ∃ s, k = .str s) (fun k => k) ?_ own
  simp [Branding.fields, Datum.ofOption]

/-- A document of the right shape builds a configuration or none; it never fails. -/
theorem build_ok_of_shaped (d : TenantDirectory) (t : String) {doc : Datum} (shaped : Shaped doc) :
    ∃ r, d.build t doc = .ok r := by
  obtain ⟨entries, unwrapped, parts⟩ := shaped
  obtain ⟨es, own, texts⟩ := entries_of_keyworded (parts "branding" (by simp))
  obtain ⟨features, featuresKeys⟩ := keywords_of_keyworded (parts "features" (by simp))
  obtain ⟨config, configKeys⟩ := keywords_of_keyworded (parts "config" (by simp))
  have merged := all_text (merge_texts texts (d.defaultBranding t))
  simp only [Branding.merge] at merged
  unfold build
  simp only [bind, Except.bind, pure, Except.pure, throw, throwThe, MonadExceptOf.throw, unwrapped,
    own, merged, featuresKeys, configKeys, Bool.not_true, Bool.false_eq_true, if_false]
  split
  · split
    · split
      · split <;> exact ⟨_, rfl⟩
      · exact ⟨_, rfl⟩
    · exact ⟨_, rfl⟩
  · exact ⟨_, rfl⟩

/-- Building fails only as a missing attribute or a wrong type. -/
theorem build_fault {d : TenantDirectory} {t : String} {doc : Datum} {f : Fault}
    (failed : d.build t doc = .error f) : f = .noAttribute ∨ f = .wrongType := by
  unfold build at failed
  simp only [bind, Except.bind, pure, Except.pure, throw, throwThe, MonadExceptOf.throw] at failed
  split at failed
  rotate_left
  · exact .inl (Except.error.inj failed).symm
  split at failed
  rotate_left
  · exact .inl (Except.error.inj failed).symm
  split at failed
  · exact .inr (Except.error.inj failed).symm
  -- past the branding, only the keyword arguments of features and settings can fail
  split at failed
  rotate_left
  · cases failed
  split at failed
  · rename_i featuresFault
    exact .inr ((Except.error.inj failed) ▸ keywords_fault featuresFault)
  split at failed
  rotate_left
  · cases failed
  split at failed
  · rename_i configFault
    exact .inr ((Except.error.inj failed) ▸ keywords_fault configFault)
  split at failed
  rotate_left
  · cases failed
  split at failed <;> cases failed

/-- A document fails to build only when it has the wrong shape. -/
theorem not_shaped_of_fault {d : TenantDirectory} {t : String} {doc : Datum} {f : Fault}
    (failed : d.build t doc = .error f) : ¬ Shaped doc := by
  intro shaped
  obtain ⟨r, built⟩ := build_ok_of_shaped d t shaped
  rw [built] at failed
  cases failed

end TenantDirectory

end TenantAuth
