import Mathlib
import TenantAuth.Proofs.JsonReading
import TenantAuth.Proofs.TokenSegments
import TenantAuth.Session.Token

/-!
# Issued tokens verify to their claims

`TokenService.issue` writes the claims of an identity as ASCII JSON, signs them and lays them
out as three segments; `TokenService.verify` takes the segments apart, checks the signature with
the keys its secret names, reads the JSON back and validates it. This file shows that the two
invert each other (`TokenService.verify_issue`): for a secret that names itself as its only key,
an identity with the tenant its role needs and no split surrogate pair in its texts, and times
that can be written out, verification gives back the claims issued for as long as the expiry
plus a whole tolerance has not passed, and a service under another algorithm refuses the token.

A secret that is itself a JSON document names other keys (`Jws.keys`), so that the keyed hash
of the token is checked against those keys instead; the secret `[]` names none, and every
token it issued is refused (`TokenService.verify_issue_emptyKeySet`).
-/

namespace TenantAuth

theorem Except.map_eq_error {ε α β : Type} {x : Except ε α} {g : α → β} {e : ε} :
    x.map g = .error e ↔ x = .error e := by
  cases x <;> simp [Except.map]

namespace Datum

theorem entries?_record (fields : List (String × Datum)) :
    (record fields).entries? = some (fields.map fun (k, v) => (.str k, v)) := rfl

/-- A text key is looked up in a record by its name. -/
@[simp]
theorem lookup_record (fields : List (String × Datum)) (name : String) :
    lookup (fields.map fun (k, v) => (.str k, v)) (.str name) = fields.lookup name := by
  induction fields with
  | nil => rfl
  | cons f fields induction =>
    rcases f with ⟨k, v⟩
    rw [List.map_cons, lookup, List.find?_cons, Json.sameKey_str, List.lookup_cons]
    by_cases same : k = name
    · subst same
      simp
    · have differ : (k == name) = false := beq_false_of_ne same
      have differ' : (name == k) = false := beq_false_of_ne (Ne.symm same)
      simp only [differ, differ', ← induction, lookup]

end Datum

namespace Jws

theorem fromUTF8?_toUTF8 (s : String) : String.fromUTF8? s.toUTF8 = some s := by
  unfold String.fromUTF8?
  rw [String.toUTF8_eq_toByteArray, dif_pos s.isValidUTF8]
  rfl

theorem decode_of_parse {s : String} {d : Datum} (parsed : Json.parse s = .ok d) :
    Json.decode s = .ok d := by
  unfold Json.parse Json.parseWith at parsed
  unfold Json.decode
  split at parsed <;> simp_all

theorem readJson_bytes_eq (s : String) :
    readJson (bytes s) = match Json.decode s with
      | .ok d => .ok (some d)
      | .error .tooDeep => .error .tooDeep
      | .error _ => .ok none := by
  have same : ByteArray.mk (bytes s).toArray = s.toUTF8 := by
    rw [bytes, toList_eq]
  -- the statement's match and the definition's are different matchers, so each result is
  -- reduced on its own
  rcases decoded : Json.decode s with _ | d
  · rename_i e
    cases e <;> simp only [readJson, same, fromUTF8?_toUTF8, decoded]
  · simp only [readJson, same, fromUTF8?_toUTF8, decoded]

/-- The bytes of a text that parses are read back as the JSON document the text holds. -/
theorem readJson_bytes {s : String} {d : Datum} (parsed : Json.parse s = .ok d) :
    readJson (bytes s) = .ok (some d) := by
  rw [readJson_bytes_eq, decode_of_parse parsed]

theorem readJson_bytes_tooDeep {s : String} (deep : Json.decode s = .error .tooDeep) :
    readJson (bytes s) = .error .tooDeep := by
  rw [readJson_bytes_eq, deep]

/-- Brackets nested beyond the reader's room are a fault. -/
theorem readJson_brackets {n : Nat} (deep : Json.nestingRoom < n) :
    readJson (bytes (String.ofList (List.replicate n '[' ++ List.replicate n ']'))) =
      .error .tooDeep := by
  apply readJson_bytes_tooDeep
  obtain ⟨k, rfl⟩ : ∃ k, n = Json.nestingRoom + 1 + k := ⟨n - (Json.nestingRoom + 1), by omega⟩
  rw [List.replicate_add, List.append_assoc]
  apply Json.decode_brackets
  simp only [List.length_append, List.length_replicate]
  omega

/-- Reading JSON from bytes faults only on a document nested too deep. -/
theorem readJson_eq_error {bs : List UInt8} {f : Fault} (failed : readJson bs = .error f) :
    f = .tooDeep := by
  unfold readJson at failed
  split at failed
  · cases failed
  · split at failed <;> cases failed
    rfl

theorem headerText_eq (alg : Algorithm) :
    headerText alg = Json.render true (Datum.record [("alg", .str alg.name), ("typ", .str "JWT")]) := by
  cases alg <;> rfl

/-- The header of a signed token reads back as the mapping naming its algorithm. -/
theorem readJson_header (alg : Algorithm) :
    readJson (bytes (headerText alg)) =
      .ok (some (Datum.record [("alg", .str alg.name), ("typ", .str "JWT")])) := by
  have plainName : Json.pairedText alg.name = alg.name := by
    cases alg <;> exact Json.pairedText_of_carries (by decide)
  have plainType : Json.pairedText "JWT" = "JWT" := Json.pairedText_of_carries (by decide)
  rw [headerText_eq, readJson_bytes (Json.parse_render_record _ (by simp) ?_ ?_)]
  · simp [Json.reread, plainName, plainType]
  · intro f member
    simp only [List.mem_cons, List.not_mem_nil, or_false] at member
    rcases member with rfl | rfl <;> exact Json.pairedText_of_carries (by dsimp only; decide)
  · intro f member
    simp only [List.mem_cons, List.not_mem_nil, or_false] at member
    rcases member with rfl | rfl <;> exact .str _

theorem isEmpty_segments (h p s : List UInt8) : (segments h p s).isEmpty = false := by
  rw [segments_eq]
  simp

theorem name_of_ofName? {s : String} {alg : Algorithm} (named : Algorithm.ofName? s = some alg) :
    alg.name = s := by
  unfold Algorithm.ofName? at named
  split at named <;> cases named <;> rfl

theorem name_ne_empty (alg : Algorithm) : alg.name ≠ "" := by
  cases alg <;> decide

theorem usable_of_sign {algorithm secret : String} {payload : Datum} {token : String}
    (signed : sign algorithm secret payload = .ok token) :
    (Surrogate.carries secret || isAsymmetric (bytes secret)) = false := by
  unfold sign at signed
  split at signed
  · cases signed
  · split at signed
    · cases signed
    · split at signed
      · cases signed
      · simp_all

/-- A signed token is checked by the secret's keys against the keyed hash of its first two segments.
-/
theorem verify_sign {algorithm secret : String} {payload : Datum} {token : String}
    (signed : sign algorithm secret payload = .ok token) :
    ∃ alg signingInput, verify algorithm secret token =
      (keys secret >>= anyKeySigns alg signingInput (alg.digest.hmac (bytes secret) signingInput)) >>=
        fun ok => if ok then (readJson (bytes (Json.render true payload))).map (·.bind Datum.entries?)
          else pure none := by
  obtain ⟨alg, named, rfl⟩ := eq_segments_of_sign signed
  obtain rfl := name_of_ofName? named
  refine ⟨alg, signingBytes (bytes (headerText alg)) (bytes (Json.render true payload)), ?_⟩
  rw [verify, pieces_segments, readJson_header]
  simp only [Except.map, Option.bind_some, Datum.entries?_record, Option.map_some,
    Datum.lookup_record]
  simp [name_ne_empty, named]
  rcases keys secret with fault | ks
  · rfl
  · simp only [bind, Except.bind]
    split
    · rfl
    · next ok signs => cases ok <;> rfl

section Signed

variable {algorithm secret : String} {payload : Datum} {token : String}

/-- Under a secret that is its own only key, a signed token verifies to its payload. -/
theorem verify_sign_self (signed : sign algorithm secret payload = .ok token)
    (selfKeyed : keys secret = .ok [.str secret]) :
    verify algorithm secret token =
      (readJson (bytes (Json.render true payload))).map (·.bind Datum.entries?) := by
  obtain ⟨alg, signingInput, checked⟩ := verify_sign signed
  have usable := usable_of_sign signed
  simp only [Bool.or_eq_false_iff] at usable
  have own : keyBytes (.str secret) = .ok (bytes secret) := by
    simp [keyBytes, usable.1, usable.2]
  rw [checked, selfKeyed]
  simp [anyKeySigns, own, bind, Except.bind, pure, Except.pure, Except.map]

theorem verify_sign_noKeys (signed : sign algorithm secret payload = .ok token)
    (noKeys : keys secret = .ok []) : verify algorithm secret token = .ok none := by
  obtain ⟨alg, signingInput, checked⟩ := verify_sign signed
  rw [checked, noKeys]
  rfl

theorem verify_sign_other {other secret' : String} (differs : other ≠ algorithm)
    (signed : sign algorithm secret payload = .ok token) :
    verify other secret' token = .ok none := by
  obtain ⟨alg, named, rfl⟩ := eq_segments_of_sign signed
  obtain rfl := name_of_ofName? named
  rw [verify, pieces_segments, readJson_header]
  simp only [Except.map, Option.bind_some, Datum.entries?_record, Option.map_some,
    Datum.lookup_record]
  simp [Ne.symm differs]

end Signed

end Jws

namespace Json

/-- Text that carries no surrogate has no split pair. -/
theorem splitPair_of_carries {s : String} (plain : Surrogate.carries s = false) :
    splitPair s.toList = false := by
  apply splitPair_of_uncarried
  intro c member
  simpa [Surrogate.isCarrier] using List.any_eq_false.mp plain c member

/-- Every number of at most ten digits can be written out. -/
theorem lt_ten_pow_maxIntDigits {n : Nat} (small : n < 10 ^ 10) : n < 10 ^ maxIntDigits :=
  small.trans_le (Nat.pow_le_pow_right (by decide) (by decide))

theorem reread_str {s : String} (unsplit : splitPair s.toList = false) :
    reread (.str s) = .str s := by
  rw [reread, pairedText_eq_self unsplit]

theorem reread_ofOption {o : Option String} (unsplit : ∀ s ∈ o, splitPair s.toList = false) :
    reread (Datum.ofOption o) = Datum.ofOption o := by
  cases o with
  | none => rfl
  | some s => exact reread_str (unsplit s rfl)

theorem scalar_ofOption (o : Option String) : Scalar (Datum.ofOption o) := by
  cases o with
  | none => exact .none
  | some s => exact .str s

theorem reread_plain {s : String} (uncarried : Surrogate.carries s = false) :
    reread (.str s) = .str s := by
  rw [reread, pairedText_of_carries uncarried]

theorem reread_value (r : Role) : reread (.str r.value) = .str r.value := by
  cases r <;> exact reread_plain (by decide)

end Json

namespace Lax

theorem optionalText_ofOption (o : Option String) : optionalText (Datum.ofOption o) = .ok o := by
  cases o <;> rfl

theorem role_value (r : Role) : role (.str r.value) = .ok r := by
  simp [role, Role.ofValue?_value]

end Lax

namespace Identity

/-- The texts of an identity: its ids and names, and its tenant and linked patient when it has
them. -/
def texts (i : Identity) : List String :=
  [i.userId, i.username, i.name] ++ i.tenantId.toList ++ i.linkedPatientId.toList

end Identity

namespace Claims

theorem toDatum_eq (c : Claims) :
    c.toDatum = Datum.record [("user_id", .str c.userId), ("tenant_id", Datum.ofOption c.tenantId),
      ("username", .str c.username), ("name", .str c.name), ("role", .str c.role.value),
      ("linked_patient_id", Datum.ofOption c.linkedPatientId), ("typ", .str kindTag),
      ("iat", .int c.iat), ("exp", .int c.exp)] := rfl

/-- Claims whose times can be written out hold no integer too long to write. -/
theorem hasLongInt_toDatum (c : Claims) (early : c.iat.natAbs < 10 ^ Json.maxIntDigits)
    (late : c.exp.natAbs < 10 ^ Json.maxIntDigits) : c.toDatum.hasLongInt = false := by
  have shown : Datum.maxShownDigits = Json.maxIntDigits := rfl
  rw [toDatum_eq]
  cases c.tenantId <;> cases c.linkedPatientId <;>
    simp [Datum.record, Datum.ofOption, Datum.hasLongInt, Datum.anyLongIntEntry, shown, early, late]

/-- Claims with writable times and no split surrogate pair read back from their JSON text. -/
theorem parse_render_toDatum (c : Claims) (unsplit : ∀ s ∈ c.texts, Json.splitPair s.toList = false)
    (early : c.iat.natAbs < 10 ^ Json.maxIntDigits) (late : c.exp.natAbs < 10 ^ Json.maxIntDigits) :
    Json.parse (Json.render true c.toDatum) = .ok c.toDatum := by
  have plain : ∀ s : String, Surrogate.carries s = false → Json.pairedText s = s :=
    fun _ uncarried => Json.pairedText_of_carries uncarried
  rw [toDatum_eq, Json.parse_render_record _ (by simp)]
  · simp only [List.map_cons, List.map_nil]
    rw [Json.reread_str (unsplit _ (by simp [Identity.texts])),
      Json.reread_ofOption (fun s member =>
        unsplit s (by simp [Identity.texts, Option.mem_def.mp member])),
      Json.reread_str (unsplit _ (by simp [Identity.texts])),
      Json.reread_str (unsplit _ (by simp [Identity.texts])), Json.reread_value,
      Json.reread_ofOption (fun s member =>
        unsplit s (by simp [Identity.texts, Option.mem_def.mp member])),
      Json.reread_plain (by decide)]
    rfl
  · simp only [List.forall_mem_cons, List.not_mem_nil, IsEmpty.forall_iff, forall_const, and_true]
    and_intros <;> exact plain _ (by decide)
  · simp only [List.forall_mem_cons, List.not_mem_nil, IsEmpty.forall_iff, forall_const, and_true]
    and_intros <;> first | exact .str _ | exact Json.scalar_ofOption _ | exact .int early | exact .int late

/-- Claims with the tenant their role needs and the fixed lifetime read back from their document. -/
theorem read_toDatum (c : Claims) (tenant : c.hasRequiredTenant = true)
    (lifetime : c.exp = c.iat + sessionLifetime) : read c.toDatum = .ok c := by
  rw [toDatum_eq, Datum.record]
  -- every field is found under its own name
  simp only [read, Identity.fields, Checked.required, Checked.optional, Datum.lookup_record]
  -- each reads back as itself, no key is unknown, and both rules hold
  simp [List.lookup, Checked.at', Lax.text, Lax.optionalText_ofOption, Lax.role_value, Lax.literal,
    Lax.integer, Checked.and, Checked.closed, Checked.extras, Identity.check, tenant, lifetime,
    Except.mapError, fieldNames, Identity.fieldNames, Except.map, bind, Except.bind, pure, Except.pure]
  rw [← lifetime]

end Claims

namespace TokenService

theorem verify_of_refused {svc : TokenService} {token : String}
    (refused : Jws.verify svc.algorithm svc.secret token = .ok none) (now : Int) :
    svc.verify (.str token) now = .ok none := by
  by_cases empty : token.isEmpty
  · simp only [verify, empty, if_true]
    rfl
  · simp only [verify, empty, refused, bind, Except.bind]
    rfl

/-- A signed token of valid claims is answered with them until its expiry plus the tolerance. -/
theorem verify_of_claims {svc : TokenService} {token : String} {c : Claims} {k : Int}
    (nonempty : token.isEmpty = false)
    (signed : Jws.verify svc.algorithm svc.secret token = .ok c.toDatum.entries?)
    (valid : Claims.read c.toDatum = .ok c) (skew : svc.clockSkew = .inl k) (now : Int) :
    svc.verify (.str token) now = .ok (if now ≤ c.exp + k then some c else none) := by
  rw [Claims.toDatum_eq, Datum.entries?_record] at signed
  rw [Claims.toDatum_eq, Datum.record] at valid
  simp only [List.map_cons, List.map_nil] at valid
  simp only [verify, nonempty, signed, bind, Except.bind, Datum.lookup_record]
  simp [List.lookup, timeClaim, Datum.toInt, precedes, skew, valid]
  by_cases expired : c.exp < now - k
  · rw [if_pos expired, if_neg (by omega)]
    rfl
  · rw [if_neg expired, if_pos (by omega)]
    rfl

/-- Issuing and verifying invert each other until the expiry plus the tolerance. -/
theorem verify_issue (svc : TokenService) {alg : Jws.Algorithm} {k : Int} (x : Identity)
    (t now : Int) (named : Jws.Algorithm.ofName? svc.algorithm = some alg)
    (usable : (Surrogate.carries svc.secret || Jws.isAsymmetric (Jws.bytes svc.secret)) = false)
    (selfKeyed : Jws.keys svc.secret = .ok [.str svc.secret]) (skew : svc.clockSkew = .inl k)
    (tenant : x.hasRequiredTenant = true) (unsplit : ∀ s ∈ x.texts, Json.splitPair s.toList = false)
    (early : t.natAbs < 10 ^ Json.maxIntDigits)
    (late : (t + sessionLifetime).natAbs < 10 ^ Json.maxIntDigits) :
    ∃ token, svc.issue x t = .ok token ∧
      svc.verify (.str token) now =
        .ok (if now ≤ t + sessionLifetime + k then some (Claims.ofIdentity x t) else none) ∧
      ∀ other ≠ svc.algorithm, { svc with algorithm := other }.verify (.str token) now = .ok none := by
  have short := (Claims.ofIdentity x t).hasLongInt_toDatum early late
  have signed := Jws.sign_eq named short usable
  refine ⟨_, signed, ?_, ?_⟩
  · have checked := Jws.verify_sign_self signed selfKeyed
    rw [Jws.readJson_bytes (Claims.parse_render_toDatum _ unsplit early late)] at checked
    exact verify_of_claims (Jws.isEmpty_segments ..) checked (Claims.read_toDatum _ tenant rfl) skew now
  · intro other differs
    exact verify_of_refused (Jws.verify_sign_other differs signed) now

/-- The round trip for a clinician of `demo`, checked at the moment of issue. -/
theorem verify_issue_clinician :
    let svc : TokenService := { secret := "s3cret-key" }
    let x : Identity :=
      { userId := "u1", tenantId := some "demo", username := "a", name := "A", role := .clinician }
    ∃ token, svc.issue x 1700000000 = .ok token ∧
      svc.verify (.str token) 1700000000 = .ok (some (Claims.ofIdentity x 1700000000)) ∧
      ∀ other ≠ svc.algorithm, { svc with algorithm := other }.verify (.str token) 1700000000 =
        .ok none := by
  intro svc x
  have unsplit : ∀ s ∈ x.texts, Json.splitPair s.toList = false := by
    intro s member
    simp only [Identity.texts, x, List.mem_append, List.mem_cons, List.not_mem_nil, or_false,
      Option.toList_some, Option.toList_none] at member
    rcases member with ((rfl | rfl | rfl) | rfl) <;> exact Json.splitPair_of_carries (by decide)
  obtain ⟨token, issued, verified, refused⟩ := verify_issue svc x 1700000000 1700000000 rfl
    (by cbv) (show Jws.keys "s3cret-key" = _ by rfl) rfl rfl unsplit (Json.lt_ten_pow_maxIntDigits (by decide))
    (Json.lt_ten_pow_maxIntDigits (by decide))
  exact ⟨token, issued, by rw [verified, if_pos (by decide)], refused⟩

/-- The secret `[]` names no key, so a token it issued is refused. -/
theorem verify_issue_emptyKeySet :
    let svc : TokenService := { secret := "[]" }
    let x : Identity :=
      { userId := "u1", tenantId := some "demo", username := "a", name := "A", role := .clinician }
    ∃ token, svc.issue x 1700000000 = .ok token ∧ svc.verify (.str token) 1700000000 = .ok none := by
  intro svc x
  have short : (Claims.ofIdentity x 1700000000).toDatum.hasLongInt = false :=
    Claims.hasLongInt_toDatum _ (Json.lt_ten_pow_maxIntDigits (by decide))
      (Json.lt_ten_pow_maxIntDigits (by decide))
  have usable : (Surrogate.carries svc.secret || Jws.isAsymmetric (Jws.bytes svc.secret)) = false := by
    cbv
  have signed := Jws.sign_eq (rfl : Jws.Algorithm.ofName? svc.algorithm = some .hs256) short usable
  refine ⟨_, signed, ?_⟩
  exact verify_of_refused (Jws.verify_sign_noKeys signed (show Jws.keys "[]" = _ by rfl)) _

end TokenService

end TenantAuth
