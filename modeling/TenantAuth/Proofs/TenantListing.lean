import TenantAuth.Proofs.JsonReading
import TenantAuth.Proofs.TenantResolution

/-!
# Listing the tenants

A listing builds, for each tenant id, the document a lookup of the id reads, and lists the
configurations of those that validate ordered by id (`TenantDirectory.listing_agrees`). Ids are
ordered by code points, a carried surrogate standing for its own code unit, so a listing of distinct
ids is strictly ascending.
-/

namespace TenantAuth

namespace Datum

theorem codesNoLater_total : ∀ xs ys : List Nat, (codesNoLater xs ys || codesNoLater ys xs) = true
  | [], _ => by simp [codesNoLater]
  | _ :: _, [] => by simp [codesNoLater]
  | a :: as, b :: bs => by
    have rest := codesNoLater_total as bs
    simp only [codesNoLater, Bool.or_eq_true, Bool.and_eq_true, decide_eq_true_eq,
      beq_iff_eq] at rest ⊢
    rcases Nat.lt_trichotomy a b with below | rfl | above
    · exact .inl (.inl below)
    · rcases rest with forth | back
      · exact .inl (.inr ⟨rfl, forth⟩)
      · exact .inr (.inr ⟨rfl, back⟩)
    · exact .inr (.inl above)

theorem codesNoLater_trans :
    ∀ {xs ys zs : List Nat}, codesNoLater xs ys = true → codesNoLater ys zs = true →
      codesNoLater xs zs = true
  | [], _, _, _, _ => rfl
  | _ :: _, [], _, first, _ => by simp [codesNoLater] at first
  | _ :: _, _ :: _, [], _, second => by simp [codesNoLater] at second
  | a :: as, b :: bs, c :: cs, first, second => by
    simp only [codesNoLater, Bool.or_eq_true, Bool.and_eq_true, decide_eq_true_eq,
      beq_iff_eq] at first second ⊢
    rcases first with below | ⟨rfl, first⟩
    · omega
    · rcases second with below | ⟨rfl, second⟩
      · omega
      · exact .inr ⟨rfl, codesNoLater_trans first second⟩

theorem codesNoLater_antisymm :
    ∀ {xs ys : List Nat}, codesNoLater xs ys = true → codesNoLater ys xs = true → xs = ys
  | [], [], _, _ => rfl
  | [], _ :: _, _, back => by simp [codesNoLater] at back
  | _ :: _, [], forth, _ => by simp [codesNoLater] at forth
  | a :: as, b :: bs, forth, back => by
    simp only [codesNoLater, Bool.or_eq_true, Bool.and_eq_true, decide_eq_true_eq,
      beq_iff_eq] at forth back
    rcases forth with below | ⟨rfl, forth⟩
    · omega
    · rcases back with below | ⟨-, back⟩
      · omega
      · rw [codesNoLater_antisymm forth back]

end Datum

namespace Surrogate

theorem codePoint_injective : Function.Injective codePoint := by
  intro a b same
  unfold codePoint at same
  have valid : ∀ c : Char, c.toNat < 0xD800 ∨ (0xDFFF < c.toNat ∧ c.toNat < 0x110000) :=
    fun c => c.valid
  cases ha : carried? a with
  | some u =>
    obtain ⟨lo, hi, ca⟩ := Json.carried?_bounds ha
    cases hb : carried? b with
    | some v =>
      obtain ⟨-, -, cb⟩ := Json.carried?_bounds hb
      simp only [ha, hb, Option.getD_some] at same
      exact Char.toNat_inj.mp (by omega)
    | none =>
      simp only [ha, hb, Option.getD_some, Option.getD_none] at same
      have := valid b
      omega
  | none =>
    cases hb : carried? b with
    | some v =>
      obtain ⟨lo, hi, -⟩ := Json.carried?_bounds hb
      simp only [ha, hb, Option.getD_some, Option.getD_none] at same
      have := valid a
      omega
    | none =>
      simp only [ha, hb, Option.getD_none] at same
      exact Char.toNat_inj.mp same

theorem codePoints_injective : Function.Injective codePoints := by
  intro s t same
  exact String.toList_injective ((List.map_injective_iff.mpr codePoint_injective) same)

end Surrogate

namespace TenantDirectory

theorem idNoLater_total (a b : String) : (idNoLater a b || idNoLater b a) = true :=
  Datum.codesNoLater_total _ _

theorem idNoLater_trans {a b c : String} (first : idNoLater a b = true)
    (second : idNoLater b c = true) : idNoLater a c = true :=
  Datum.codesNoLater_trans first second

theorem eq_of_idNoLater {a b : String} (forth : idNoLater a b = true)
    (back : idNoLater b a = true) : a = b :=
  Surrogate.codePoints_injective (Datum.codesNoLater_antisymm forth back)

theorem pairwise_mergeSort_ids {α : Type} (es : List (String × α)) (ids : (es.map (·.1)).Nodup) :
    (es.mergeSort fun a b => idNoLater a.1 b.1).Pairwise fun a b => idNoLater b.1 a.1 = false := by
  have sorted := @List.pairwise_mergeSort _ (fun a b : String × α => idNoLater a.1 b.1)
    (fun _ _ _ => idNoLater_trans) (fun a b => idNoLater_total a.1 b.1) es
  have distinct : (es.mergeSort fun a b => idNoLater a.1 b.1).Pairwise fun a b => a.1 ≠ b.1 :=
    List.pairwise_map.mp ((List.Perm.nodup_iff (List.Perm.map _ (List.mergeSort_perm _ _))).mpr ids)
  refine (sorted.and distinct).imp fun ⟨noLater, apart⟩ => ?_
  cases back : idNoLater _ _
  · rfl
  · exact absurd (eq_of_idNoLater noLater back) apart

/-- The documents a listing builds: the table's rows under their ids, then each fallback
document whose id no earlier document has. -/
def listingDocs (rs : List TenantRecord) (fallback : List (String × Datum)) :
    List (String × Datum) :=
  fallback.foldl (fun acc e => if (acc.lookup e.1).isSome then acc else acc ++ [e])
    (rs.map fun r => (r.id, r.toDatum))

theorem lookup_eq_none {l : List (String × Datum)} {k : String} (absent : l.lookup k = none) :
    k ∉ l.map (·.1) := by
  induction l with
  | nil => simp
  | cons e l induction =>
    by_cases same : k = e.1
    · simp [List.lookup, same] at absent
    · have rest : l.lookup k = none := by simpa [List.lookup, beq_false_of_ne same] using absent
      simp only [List.map_cons, List.mem_cons, not_or]
      exact ⟨same, induction rest⟩

theorem lookup_of_mem {l : List (String × Datum)} (ids : (l.map (·.1)).Nodup) {e : String × Datum}
    (member : e ∈ l) : l.lookup e.1 = some e.2 := by
  induction l with
  | nil => cases member
  | cons f l induction =>
    simp only [List.map_cons, List.nodup_cons] at ids
    rcases List.mem_cons.mp member with rfl | later
    · simp [List.lookup]
    · have apart : e.1 ≠ f.1 := fun same => ids.1 (same ▸ List.mem_map_of_mem later)
      simp [List.lookup, beq_false_of_ne apart, induction ids.2 later]

theorem mem_of_lookup {l : List (String × Datum)} {k : String} {v : Datum}
    (found : l.lookup k = some v) : (k, v) ∈ l := by
  induction l with
  | nil => cases found
  | cons e l induction =>
    by_cases same : k = e.1
    · subst same
      simp only [List.lookup, BEq.rfl, Option.some.injEq] at found
      subst found
      exact List.mem_cons_self
    · simp only [List.lookup, beq_false_of_ne same] at found
      exact List.mem_cons_of_mem e (induction found)

theorem lookup_rows (rs : List TenantRecord) (k : String) :
    (rs.map fun r => (r.id, r.toDatum)).lookup k =
      (rs.find? (·.id == k)).map TenantRecord.toDatum := by
  induction rs with
  | nil => rfl
  | cons r rs induction =>
    by_cases same : k = r.id
    · simp [same]
    · have other : (r.id == k) = false := beq_false_of_ne (Ne.symm same)
      simp [List.lookup, beq_false_of_ne same, other, induction]

theorem lookup_foldl_setDefault (fallback acc : List (String × Datum)) (k : String) :
    (fallback.foldl (fun acc e => if (acc.lookup e.1).isSome then acc else acc ++ [e]) acc).lookup k =
      (acc.lookup k).or (fallback.lookup k) := by
  induction fallback generalizing acc with
  | nil => simp
  | cons e fallback induction =>
    rw [List.foldl_cons, induction]
    by_cases present : (acc.lookup e.1).isSome
    · rw [if_pos present]
      by_cases same : k = e.1
      · subst same
        obtain ⟨v, found⟩ := Option.isSome_iff_exists.mp present
        simp [found]
      · simp [List.lookup, beq_false_of_ne same]
    · rw [if_neg present, List.lookup_append]
      by_cases same : k = e.1
      · subst same
        simp only [Option.not_isSome_iff_eq_none] at present
        simp [present, List.lookup]
      · simp [List.lookup, beq_false_of_ne same]

theorem ids_foldl_setDefault (fallback acc : List (String × Datum)) (ids : (acc.map (·.1)).Nodup) :
    ((fallback.foldl (fun acc e => if (acc.lookup e.1).isSome then acc else acc ++ [e])
      acc).map (·.1)).Nodup := by
  induction fallback generalizing acc with
  | nil => exact ids
  | cons e fallback induction =>
    rw [List.foldl_cons]
    apply induction
    by_cases present : (acc.lookup e.1).isSome
    · rw [if_pos present]
      exact ids
    · rw [if_neg present, List.map_append, List.nodup_append]
      simp only [Option.not_isSome_iff_eq_none] at present
      have fresh := lookup_eq_none present
      refine ⟨ids, by simp, ?_⟩
      simp only [List.map_cons, List.map_nil, List.mem_singleton]
      rintro a member b rfl rfl
      exact fresh member

theorem lookup_listingDocs (rs : List TenantRecord) (fallback : List (String × Datum))
    (k : String) : (listingDocs rs fallback).lookup k = sourceOf rs fallback k := by
  rw [listingDocs, lookup_foldl_setDefault, lookup_rows]
  rfl

theorem ids_listingDocs (rs : List TenantRecord) (fallback : List (String × Datum))
    (keyed : (rs.map (·.id)).Nodup) : ((listingDocs rs fallback).map (·.1)).Nodup :=
  ids_foldl_setDefault fallback _ (by simpa [Function.comp_def] using keyed)

theorem mapM_build {d : TenantDirectory} {es : List (String × Datum)}
    (builds : ∀ e ∈ es, ∃ r, d.build e.1 e.2 = .ok r) :
    ∃ rs, es.mapM (fun e => d.build e.1 e.2) = .ok rs ∧
      List.Forall₂ (fun e r => d.build e.1 e.2 = .ok r) es rs := by
  induction es with
  | nil => exact ⟨[], rfl, .nil⟩
  | cons e es induction =>
    obtain ⟨r, first⟩ := builds e List.mem_cons_self
    obtain ⟨rs, rest, each⟩ :=
      induction fun e' member => builds e' (List.mem_cons_of_mem e member)
    refine ⟨r :: rs, ?_, .cons first each⟩
    simp [List.mapM_cons, first, rest, bind, Except.bind, pure, Except.pure]

theorem filterMap_answers {d : TenantDirectory} {es : List (String × Datum)}
    {rs : List (Option TenantConfig)}
    (each : List.Forall₂ (fun e r => d.build e.1 e.2 = .ok r) es rs) :
    (es.filterMap fun e => (d.build e.1 e.2).toOption.join.map (e.1, ·)).map (·.2) =
      rs.filterMap id := by
  induction each with
  | nil => rfl
  | @cons e r es rs first _ rest =>
    have head : (d.build e.1 e.2).toOption.join = r := by simp [first, Except.toOption]
    cases r <;> simp only [List.filterMap_cons, head, Option.map_none, Option.map_some,
      List.map_cons, rest, id]

theorem listed_entry {d : TenantDirectory} {e : String × Datum} {p : String × TenantConfig} :
    (d.build e.1 e.2).toOption.join.map (e.1, ·) = some p ↔
      p.1 = e.1 ∧ d.build e.1 e.2 = .ok (some p.2) := by
  obtain ⟨k, c⟩ := p
  cases d.build e.1 e.2 with
  | error f => simp [Except.toOption]
  | ok r => cases r <;> simp [Except.toOption, eq_comm]

/-- Listing gives the configuration of each validating id in ascending order, as lookup does. -/
theorem listing_agrees {d : TenantDirectory} {rs : List TenantRecord} (stored : d.records = some rs)
    (keyed : (rs.map (·.id)).Nodup)
    (builds : ∀ k doc, sourceOf rs d.fallback k = some doc → ∃ r, d.build k doc = .ok r) :
    ∃ listed : List (String × TenantConfig),
      d.list = .ok (listed.map (·.2)) ∧
      listed.Pairwise (fun a b => idNoLater b.1 a.1 = false) ∧
      (∀ k c, (k, c) ∈ listed ↔
        ∃ doc, sourceOf rs d.fallback k = some doc ∧ d.build k doc = .ok (some c)) ∧
      (∀ k c, (k, c) ∈ listed → k ≠ "" → Surrogate.carries k = false →
        d.get? (.str k) = .ok (some c)) := by
  let docs := listingDocs rs d.fallback
  let ordered := docs.mergeSort fun a b => idNoLater a.1 b.1
  have ids := ids_listingDocs rs d.fallback keyed
  -- an entry of the sorted documents is the document of its id
  have sourced : ∀ e ∈ ordered, sourceOf rs d.fallback e.1 = some e.2 := by
    intro e member
    rw [← lookup_listingDocs]
    exact lookup_of_mem ids ((List.mergeSort_perm _ _).mem_iff.mp member)
  obtain ⟨answers, built, each⟩ :=
    mapM_build fun e member => builds e.1 e.2 (sourced e member)
  -- the listed entry of an id is the configuration its document builds
  have member : ∀ k c, (k, c) ∈ ordered.filterMap (fun e => (d.build e.1 e.2).toOption.join.map (e.1, ·)) ↔
      ∃ doc, sourceOf rs d.fallback k = some doc ∧ d.build k doc = .ok (some c) := by
    intro k c
    rw [List.mem_filterMap]
    constructor
    · rintro ⟨e, inOrdered, entry⟩
      obtain ⟨rfl, answered⟩ := listed_entry.mp entry
      exact ⟨e.2, sourced e inOrdered, answered⟩
    · rintro ⟨doc, source, answered⟩
      have inDocs : (k, doc) ∈ docs := mem_of_lookup (by rw [lookup_listingDocs]; exact source)
      exact ⟨(k, doc), (List.mergeSort_perm _ _).mem_iff.mpr inDocs, listed_entry.mpr ⟨rfl, answered⟩⟩
  refine ⟨ordered.filterMap fun e => (d.build e.1 e.2).toOption.join.map (e.1, ·), ?_, ?_, member, ?_⟩
  · have rows : d.rows = .ok rs := by simp [TenantDirectory.rows, stored]
    have listed : d.list = .ok (answers.filterMap id) := by
      unfold list
      rw [rows]
      change (ordered.mapM fun e => d.build e.1 e.2) >>= (fun built => pure (built.filterMap id)) = _
      rw [built]
      rfl
    rw [listed, filterMap_answers each]
  · refine List.pairwise_filterMap.mpr ((pairwise_mergeSort_ids docs ids).imp ?_)
    intro a b before a' named b' named'
    rw [(listed_entry.mp named).1, (listed_entry.mp named').1]
    exact before
  · intro k c listed named encodable
    obtain ⟨doc, source, answered⟩ := (member k c).mp listed
    rw [get?_str stored, if_neg named, if_neg (by simp [encodable]), source]
    exact answered

/-- Of two fallback documents of one id only the first is read. -/
theorem listing_agrees_firstFallback :
    let d : TenantDirectory :=
      ⟨some [], [("b", .dict []), ("a", .dict []), ("a", .int 5)], defaultAssetBaseUrl⟩
    ∃ listed : List (String × TenantConfig),
      d.list = .ok (listed.map (·.2)) ∧
      listed.Pairwise (fun a b => idNoLater b.1 a.1 = false) ∧
      (∀ k c, (k, c) ∈ listed ↔
        ∃ doc, sourceOf [] d.fallback k = some doc ∧ d.build k doc = .ok (some c)) ∧
      (∀ k c, (k, c) ∈ listed → k ≠ "" → Surrogate.carries k = false →
        d.get? (.str k) = .ok (some c)) := by
  intro d
  refine listing_agrees rfl List.nodup_nil fun k doc source => ?_
  simp only [sourceOf, List.find?_nil, Option.map_none, Option.none_or] at source
  have member := mem_of_lookup source
  simp only [d, List.mem_cons, Prod.mk.injEq, List.not_mem_nil, or_false] at member
  have empty : doc = .dict [] := by
    rcases member with ⟨-, rfl⟩ | ⟨-, rfl⟩ | ⟨rfl, rfl⟩
    · rfl
    · rfl
    · -- the shadowed document is never the one read
      simp [d, List.lookup] at source
  subst empty
  exact build_ok_of_shaped d k ⟨[], rfl, fun _ _ => .inl rfl⟩

/-- A fallback id carrying a lone surrogate is listed, yet a lookup of it fails. -/
theorem listing_loneSurrogate :
    let key := String.ofList [Surrogate.carrier 0xD800]
    let doc := Datum.record [("id", .str "x"), ("name", .str "X"),
      ("branding", Datum.record [("logo", .str "l.png"), ("favicon", .str "f.ico")])]
    let d : TenantDirectory := ⟨some [], [(key, doc)], defaultAssetBaseUrl⟩
    (∃ c, d.list = .ok [c]) ∧ d.get? (.str key) = .error .unencodable := by
  intro key doc d
  obtain ⟨c, built⟩ : ∃ c, d.build key doc = .ok (some c) := ⟨_, rfl⟩
  have rows : d.rows = .ok [] := rfl
  have fallback : d.fallback = [(key, doc)] := rfl
  refine ⟨⟨c, ?_⟩, ?_⟩
  · unfold list
    simp only [rows, fallback, bind, Except.bind, List.map_nil, List.foldl_cons, List.foldl_nil,
      List.lookup, Option.isSome_none, Bool.false_eq_true, if_false, List.nil_append,
      List.mergeSort_singleton, List.mapM_cons, List.mapM_nil, built]
    rfl
  · rw [get?_str rfl, if_neg (by decide), if_pos (by decide)]

end TenantDirectory

end TenantAuth
