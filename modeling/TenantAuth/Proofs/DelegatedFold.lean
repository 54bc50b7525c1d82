import Mathlib
import TenantAuth.Delegated.Verifier
import TenantAuth.Proofs.HashUpgrade
import TenantAuth.Proofs.TokenSoundness

/-!
# The delegated verifier as a fold over its plan

`Delegated.Verifier.verifyPlan` takes a token up only when it is text of three decodable segments
whose claims name an allowed issuer (`Verifier.TakesUp`), and otherwise asks neither the planner nor
any strategy. A token it takes up runs the planned strategies in order until the first outcome that
is not a refusal, a payload being answered with what the final gate admits (`Verifier.Admits`). The
one fault is unverified claims nested too deep for the JSON reader (`Delegated.Verifier.plan_fold`).
-/

namespace TenantAuth

theorem Case.lower_ne_true {s : String} {c : Char} (first : s.toList.head? = some c)
    (ascii : c.toNat < 0x80) (notT : c.toLower ≠ 't') : Case.lower s ≠ "true" := by
  obtain ⟨cs, spelled⟩ := List.head?_eq_some_iff.mp first
  intro same
  have plain : (c == Case.capitalSigma) = false := by
    rw [beq_eq_false_iff_ne]
    rintro rfl
    exact absurd ascii (by decide)
  have lowered : (Case.lower s).toList = c.toLower :: Case.lowerFrom [c] cs := by
    simp [Case.lower, spelled, Case.lowerFrom, plain, Lowercase.ofChar, ascii]
  rw [same] at lowered
  exact notT (List.cons.inj lowered).1.symm

theorem Char.apart_of_isDigit {c : Char} (digit : c.isDigit = true) :
    c.toNat < 0x80 ∧ c.toLower ≠ 't' := by
  simp only [Char.isDigit, Bool.and_eq_true, decide_eq_true_eq] at digit
  have high : c.val.toNat ≤ 57 := UInt32.le_iff_toNat_le.mp digit.2
  refine ⟨high.trans_lt (by decide), ?_⟩
  rw [Char.toLower, dif_neg]
  · rintro rfl
    exact absurd high (by decide)
  · rintro ⟨upper, -⟩
    have low : 65 ≤ c.val.toNat := UInt32.le_iff_toNat_le.mp upper
    omega

theorem DecimalDigits.head_layout (style : DecimalStyle) (d : DecimalDigits) :
    ∃ c, (d.layout style).toList.head? = some c ∧ c.isDigit = true := by
  obtain ⟨e, es, digits, digit, -⟩ := Json.toDigits_canonical d.digits
  have spelled : d.text.toList = e :: es := by
    simp [DecimalDigits.text, digits]
  unfold DecimalDigits.layout
  dsimp only
  split_ifs with positional nonpositive whole
  · exact ⟨'0', by simp, by decide⟩
  · exact ⟨e, by simp [spelled], digit⟩
  · -- the point falls inside the digits, after at least one of them
    obtain ⟨k, started⟩ : ∃ k, d.point.toNat = k + 1 := ⟨d.point.toNat - 1, by omega⟩
    exact ⟨e, by simp [spelled, started], digit⟩
  -- in exponent form, with or without a fraction, the mantissa begins with the first digit
  all_goals exact ⟨e, by simp [spelled], digit⟩

theorem Double.head_text (x : Float) :
    ∃ c, (Double.text DecimalStyle.plain x).toList.head? = some c ∧
      (c.isDigit = true ∨ c = 'n' ∨ c = 'i' ∨ c = '-') := by
  unfold Double.text
  by_cases nan : x.isNaN = true
  · exact ⟨'n', by rw [if_pos nan]; decide, by simp⟩
  · rw [if_neg nan]
    cases parts : Double.parts? x with
    | none =>
      by_cases negative : x < 0
      · exact ⟨'-', by simp [negative], by simp⟩
      · exact ⟨'i', by simp [negative, DecimalStyle.plain], by simp⟩
    | some v =>
      dsimp only
      by_cases negative : v.negative = true
      · exact ⟨'-', by split_ifs <;> simp, by simp⟩
      · by_cases zero : (v.significand == 0) = true
        · exact ⟨'0', by simp [negative, zero], .inl (by decide)⟩
        · obtain ⟨c, first, digit⟩ := DecimalDigits.head_layout DecimalStyle.plain v.shortest
          exact ⟨c, by simp [negative, zero, first], .inl digit⟩

namespace Datum

/-- Whether a value is of a kind a JSON document holds: null, a truth value, a number, text, an
array or an object. -/
def jsonKind : Datum → Bool
  | .none | .bool _ | .int _ | .float _ | .str _ | .list _ | .dict _ => true
  | _ => false

theorem lower_display_ne_true {v : Datum} (json : v.jsonKind = true) (notText : ∀ s, v ≠ .str s)
    (notTrue : v ≠ .bool true) : Case.lower v.display ≠ "true" := by
  cases v with
  | none => decide
  | bool b =>
    cases b with
    | false => decide
    | true => exact absurd rfl notTrue
  | int n =>
    obtain ⟨c, cs, spelled, sign⟩ := Json.head_toString n []
    rw [List.append_nil] at spelled
    have apart : c.toNat < 0x80 ∧ c.toLower ≠ 't' := by
      rcases sign with rfl | digit
      · decide
      · exact Char.apart_of_isDigit digit
    have shown : (Datum.int n).display = toString n := rfl
    exact Case.lower_ne_true (by rw [shown, spelled]; rfl) apart.1 apart.2
  | float x =>
    obtain ⟨c, first, lead⟩ := Double.head_text x
    have apart : c.toNat < 0x80 ∧ c.toLower ≠ 't' := by
      rcases lead with digit | rfl | rfl | rfl
      · exact Char.apart_of_isDigit digit
      all_goals decide
    exact Case.lower_ne_true (by simpa [display, repr, reprIn] using first) apart.1 apart.2
  | str s => exact absurd rfl (notText s)
  | list xs =>
    exact Case.lower_ne_true (c := '[') (by simp [display, repr, reprIn]) (by decide) (by decide)
  | dict es =>
    exact Case.lower_ne_true (c := '\x7b') (by simp [display, repr, reprIn]) (by decide) (by decide)
  | bytes _ | moment _ | set _ | tuple _ | cycle _ _ => cases json

theorem flag_of_display {v : Datum} (json : v.jsonKind = true)
    (lowered : Case.lower v.display = "true") :
    v = .bool true ∨ ∃ s, v = .str s ∧ Case.lower s = "true" := by
  by_cases isTrue : v = .bool true
  · exact .inl isTrue
  · by_cases isText : ∃ s, v = .str s
    · obtain ⟨s, rfl⟩ := isText
      exact .inr ⟨s, rfl, lowered⟩
    · simp only [not_exists] at isText
      exact absurd lowered (lower_display_ne_true json isText isTrue)

end Datum

namespace Delegated

/-- Whether an outcome lets the next strategy try: a refusal. -/
def Outcome.isRefusal : Outcome → Bool
  | .refused _ => true
  | _ => false

@[simp] theorem Outcome.isRefusal_refused (d : Datum) : (Outcome.refused d).isRefusal = true := rfl
@[simp] theorem Outcome.isRefusal_payload (d : Datum) : (Outcome.payload d).isRefusal = false := rfl
@[simp] theorem Outcome.isRefusal_broke (kind : String) :
    (Outcome.broke kind).isRefusal = false := rfl

/-- What a deciding outcome answers: the identity the final gate admits from a payload, and
nothing after a strategy broke. -/
def Outcome.answer (issuers : List Datum) : Outcome → Option ServiceIdentity
  | .payload p => (checkClaims issuers p).toOption
  | _ => none

theorem emailVerified_iff {v : Datum} (json : v.jsonKind = true) :
    emailVerified v = true ↔ v = .bool true ∨ ∃ s, v = .str s ∧ Case.lower s = "true" := by
  constructor
  · intro flagged
    unfold emailVerified at flagged
    split at flagged
    · exact .inl rfl
    · exact Datum.flag_of_display json (by simpa using flagged)
  · rintro (rfl | ⟨s, rfl, lowered⟩)
    · rfl
    · simp [emailVerified, Datum.display, lowered]

/-- What the final gate admits from a mapping, and the identity it gives: the mapping names an
allowed issuer, marks its email as verified (true, or text that is `true` in lower case) and
carries a non-empty email text, which is the identity. -/
structure Admits (issuers : List Datum) (es : List (Datum × Datum)) (i : ServiceIdentity) :
    Prop where
  /-- The issuer is allowed. -/
  issuer : ((Datum.lookup es (.str "iss")).getD .none).memberOf issuers = true
  /-- The email is marked as verified. -/
  verified : (Datum.lookup es (.str "email_verified")).getD .none = .bool true ∨
    ∃ s, (Datum.lookup es (.str "email_verified")).getD .none = .str s ∧ Case.lower s = "true"
  /-- The email is the identity's. -/
  email : (Datum.lookup es (.str "email")).getD .none = .str i.email
  /-- The email is not empty. -/
  nonempty : i.email ≠ ""

theorem checkClaims_eq_ok {issuers : List Datum} {es : List (Datum × Datum)} {i : ServiceIdentity}
    (json : ((Datum.lookup es (.str "email_verified")).getD .none).jsonKind = true) :
    checkClaims issuers (.dict es) = .ok i ↔ Admits issuers es i := by
  constructor
  · intro admitted
    simp only [checkClaims] at admitted
    split at admitted
    · cases admitted
    · next allowed =>
      split at admitted
      · cases admitted
      · next flagged =>
        split at admitted
        · next e found =>
          split at admitted
          · cases admitted
          · next filled =>
            cases admitted
            exact ⟨by simpa using allowed, (emailVerified_iff json).mp (by simpa using flagged),
              found, by simpa using filled⟩
        · cases admitted
  · rintro ⟨allowed, verified, found, filled⟩
    have flagged := (emailVerified_iff json).mpr verified
    simp [checkClaims, allowed, found, filled, flagged]

theorem Outcome.answer_payload {issuers : List Datum} {p : Datum} {i : ServiceIdentity} :
    (Outcome.payload p).answer issuers = some i ↔ checkClaims issuers p = .ok i := by
  cases checked : checkClaims issuers p <;> simp [Outcome.answer, checked, Except.toOption]

@[simp]
theorem planned_runStrategies (issuers : List Datum) (plan : List (String × Outcome))
    (failures : List String) (r : Report) :
    (runStrategies issuers plan failures r).planned = r.planned := by
  induction plan generalizing failures r with
  | nil => rfl
  | cons step rest ih =>
    obtain ⟨name, outcome⟩ := step
    cases outcome with
    | refused detail => simp [runStrategies, ih]
    | broke kind => rfl
    | payload p =>
      simp only [runStrategies]
      split <;> rfl

theorem runStrategies_fold (issuers : List Datum) (plan : List (String × Outcome))
    (failures : List String) (r : Report) :
    (runStrategies issuers plan failures r).identity =
      ((plan.dropWhile (·.2.isRefusal)).head?.bind (·.2.answer issuers)).or r.identity ∧
    (runStrategies issuers plan failures r).called =
      r.called ++
        (plan.takeWhile (·.2.isRefusal) ++ (plan.dropWhile (·.2.isRefusal)).take 1).map (·.1) := by
  induction plan generalizing failures r with
  | nil => simp [runStrategies]
  | cons step rest ih =>
    obtain ⟨name, outcome⟩ := step
    cases outcome with
    | refused detail => simp [runStrategies, ih, List.dropWhile_cons, List.takeWhile_cons]
    | broke kind => simp [runStrategies, Outcome.answer]
    | payload p =>
      simp only [runStrategies]
      split <;> simp [Outcome.answer, Except.toOption, *]

namespace Verifier

/-- A token the verifier takes up, with its unverified claims: text of three segments whose
header, claims and signature all decode, the header and the claims to JSON objects, with claims
that name an allowed issuer. -/
structure TakesUp (v : Verifier) (token : Datum) (claims : List (Datum × Datum)) : Prop where
  /-- The token is text whose unverified claims these are. -/
  text : ∃ t, token = .str t ∧ unverifiedClaims t = .ok (some claims)
  /-- The token is shaped as three segments. -/
  shaped : looksLikeJwt token = true
  /-- The claims name an allowed issuer. -/
  issuer : ((Datum.lookup claims (.str "iss")).getD .none).memberOf v.issuers = true

/-- The context the planner is given for a token taken up with these claims. -/
def contextOf (v : Verifier) (claims : List (Datum × Datum)) : Context :=
  ⟨(Datum.lookup claims (.str "aud")).getD .none, v⟩

section Plans

variable {v : Verifier} {token : Datum} {claims : List (Datum × Datum)}
  {planner : Context → Except Fault (List (String × Outcome))}

theorem verifyPlan_eq_error {f : Fault} :
    v.verifyPlan planner token = .error f ↔
      ∃ t, token = .str t ∧ looksLikeJwt token = true ∧ unverifiedClaims t = .error f := by
  constructor
  · intro failed
    cases token with
    | str t =>
      by_cases shaped : looksLikeJwt (.str t) = true
      · refine ⟨t, rfl, shaped, ?_⟩
        -- every exit after the claims are read answers, so the fault is theirs
        cases decoded : unverifiedClaims t with
        | error g => simpa [verifyPlan, shaped, decoded] using failed
        | ok claims? =>
          simp only [verifyPlan, shaped, decoded, Bool.not_true, Bool.false_eq_true,
            if_false] at failed
          rcases claims? with _ | claims
          · cases failed
          · simp only at failed
            split at failed
            · cases failed
            · split at failed <;> cases failed
      · simp [verifyPlan, shaped] at failed
    | _ => simp [verifyPlan] at failed
  · rintro ⟨t, rfl, shaped, decoded⟩
    simp [verifyPlan, shaped, decoded]

theorem unverifiedClaims_eq_error {t : String} {f : Fault} (failed : unverifiedClaims t = .error f) :
    f = .tooDeep := by
  unfold unverifiedClaims at failed
  split at failed
  · exact Jws.readJson_eq_error (Except.map_eq_error.mp failed)
  · cases failed

theorem verifyPlan_of_skipped (skip : ∀ claims, ¬ v.TakesUp token claims)
    (planner planner' : Context → Except Fault (List (String × Outcome))) :
    v.verifyPlan planner token = v.verifyPlan planner' token ∧
      ∀ r, v.verifyPlan planner token = .ok r → r.identity = none := by
  cases token with
  | str t =>
    by_cases shaped : looksLikeJwt (.str t) = true
    · cases decoded : unverifiedClaims t with
      | error f => simp [verifyPlan, shaped, decoded]
      | ok claims? =>
        rcases claims? with _ | claims
        · simp [verifyPlan, shaped, decoded]
        -- the claims decode, so the issuer is what the verifier refuses
        have foreign :
            ((Datum.lookup claims (.str "iss")).getD .none).memberOf v.issuers = false := by
          cases allowed : ((Datum.lookup claims (.str "iss")).getD .none).memberOf v.issuers
          · rfl
          · exact absurd ⟨⟨t, rfl, decoded⟩, shaped, allowed⟩ (skip claims)
        simp [verifyPlan, shaped, decoded, foreign]
    · simp [verifyPlan, shaped]
  | _ => simp [verifyPlan]

theorem verifyPlan_of_plannerFault (taken : v.TakesUp token claims) {f : Fault}
    (broke : planner (v.contextOf claims) = .error f) :
    v.verifyPlan planner token = .ok { events := [anomaly ["unexpected: " ++ f.kind] true] } := by
  obtain ⟨⟨t, rfl, decoded⟩, shaped, allowed⟩ := taken
  simp only [contextOf] at broke
  simp [verifyPlan, shaped, decoded, allowed, broke]

theorem verifyPlan_of_plan (taken : v.TakesUp token claims) {plan : List (String × Outcome)}
    (planned : planner (v.contextOf claims) = .ok plan) :
    v.verifyPlan planner token =
      .ok (runStrategies v.issuers plan [] { planned := plan.map (·.1) }) := by
  obtain ⟨⟨t, rfl, decoded⟩, shaped, allowed⟩ := taken
  simp only [contextOf] at planned
  simp [verifyPlan, shaped, decoded, allowed, planned]

end Plans

theorem unverifiedClaims_segments {h : List UInt8} {header : Datum} {hs : List (Datum × Datum)}
    (read : Jws.readJson h = .ok (some header)) (object : header.entries? = some hs)
    (p s : List UInt8) :
    unverifiedClaims (Jws.segments h p s) = (Jws.readJson p).map (·.bind Datum.entries?) := by
  simp [unverifiedClaims, Jws.pieces_segments, read, Except.map, object]

theorem looksLikeJwt_segments (h p s : List UInt8) :
    looksLikeJwt (.str (Jws.segments h p s)) = true := by
  have apart : ∀ part ∈ [Base64.encode h, Base64.encode p, Base64.encode s], '.' ∉ part := by
    simp [Jws.dotChar_not_mem_encode]
  have joined : Base64.encode h ++ '.' :: (Base64.encode p ++ '.' :: Base64.encode s) =
      ['.'].intercalate [Base64.encode h, Base64.encode p, Base64.encode s] := by
    simp [List.intercalate]
  have threeParts : (Jws.segments h p s).splitOn "." =
      [Base64.encode h, Base64.encode p, Base64.encode s].map String.ofList := by
    rw [Jws.segments_eq, joined, show ("." : String) = String.ofList ['.'] from rfl,
      Text.splitOn_intercalate apart (by simp)]
  simp only [looksLikeJwt, Jws.isEmpty_segments, threeParts]
  rfl

/-- The delegated verifier as a fold over its plan. -/
structure PlanFold (v : Verifier) : Prop where
  /-- The verifier faults, whatever the planner, exactly on a token shaped as three segments
  whose unverified claims cannot be read, and those fail only by nesting too deep. -/
  faults : ∀ token planner f, v.verifyPlan planner token = .error f ↔
    ∃ t, token = .str t ∧ looksLikeJwt token = true ∧ unverifiedClaims t = .error f
  claimsFault : ∀ t f, unverifiedClaims t = .error f → f = .tooDeep
  /-- A token the verifier does not take up is answered the same whatever the planner: neither
  the planner nor any strategy is asked, and an answer is nothing. -/
  skipped : ∀ token, (∀ claims, ¬ v.TakesUp token claims) →
    ∀ planner planner', v.verifyPlan planner token = v.verifyPlan planner' token ∧
      ∀ r, v.verifyPlan planner token = .ok r → r.identity = none
  /-- A planner that breaks gives nothing, and no strategy runs. -/
  plannerBroke : ∀ token claims planner f, v.TakesUp token claims →
    planner (v.contextOf claims) = .error f →
      ∃ r, v.verifyPlan planner token = .ok r ∧ r.identity = none ∧ r.called = []
  /-- Otherwise the whole plan is planned; the refusals at its head run, then the first outcome
  that is not a refusal runs and decides the identity, and nothing after it runs. -/
  fold : ∀ token claims planner plan, v.TakesUp token claims →
    planner (v.contextOf claims) = .ok plan → ∃ r, v.verifyPlan planner token = .ok r ∧
      r.planned = plan.map (·.1) ∧
      r.called = (plan.takeWhile (·.2.isRefusal) ++ (plan.dropWhile (·.2.isRefusal)).take 1).map (·.1) ∧
      r.identity = (plan.dropWhile (·.2.isRefusal)).head?.bind (·.2.answer v.issuers)
  /-- A payload mapping, whose email flag is of a JSON kind, decides for the identity exactly
  when the final gate admits it. -/
  gate : ∀ es i, ((Datum.lookup es (.str "email_verified")).getD .none).jsonKind = true →
    ((Outcome.payload (.dict es)).answer v.issuers = some i ↔ Admits v.issuers es i)

/-- The delegated verifier is a fold over its plan, and faults only on claims nested too deep. -/
theorem plan_fold (v : Verifier) : v.PlanFold where
  faults _ _ _ := verifyPlan_eq_error
  claimsFault _ _ := unverifiedClaims_eq_error
  skipped _ skip planner planner' := verifyPlan_of_skipped skip planner planner'
  plannerBroke _ _ _ _ taken broke := ⟨_, verifyPlan_of_plannerFault taken broke, rfl, rfl⟩
  fold _ _ _ plan taken planned := by
    obtain ⟨identity, called⟩ :=
      runStrategies_fold v.issuers plan [] { planned := plan.map (·.1) }
    exact ⟨_, verifyPlan_of_plan taken planned, planned_runStrategies .., by simpa using called,
      by simpa using identity⟩
  gate _ _ json := Outcome.answer_payload.trans (checkClaims_eq_ok json)

/-- A plan whose first strategy refuses and whose second accepts: the identity is the payload's
email. -/
theorem plan_fold_refusedThenAccepted :
    let v : Verifier := {}
    let claims : List (Datum × Datum) := [(.str "iss", .str "accounts.google.com")]
    let token := Jws.segments (Jws.bytes (Jws.headerText .hs256))
      (Jws.bytes (Json.render true (Datum.record [("iss", .str "accounts.google.com")]))) [0xb2, 0x28]
    let payload : List (Datum × Datum) := [(.str "iss", .str "accounts.google.com"),
      (.str "email_verified", .str "True"), (.str "email", .str "svc@example.com")]
    let plan := [("tokeninfo", Outcome.refused .none), ("signature_any_audience", .payload (.dict payload)),
      ("signature_best_effort", .broke "RuntimeError")]
    v.TakesUp (.str token) claims ∧ ∃ r, v.verifyPlan (fun _ => .ok plan) (.str token) = .ok r ∧
      r.called = ["tokeninfo", "signature_any_audience"] ∧ r.identity = some ⟨"svc@example.com"⟩ := by
  intro v claims token payload plan
  have read : Json.parse (Json.render true (Datum.record [("iss", .str "accounts.google.com")])) =
      .ok (.dict claims) := by
    rw [Json.parse_render_record _ (by decide)
      (by simpa using Json.pairedText_of_carries (by decide)) (by simpa using Json.Scalar.str _)]
    have plain : Surrogate.carries "accounts.google.com" = false := by decide
    simp only [List.map_cons, List.map_nil, Json.reread_plain plain]
    rfl
  have taken : v.TakesUp (.str token) claims := by
    refine ⟨⟨token, rfl, ?_⟩, looksLikeJwt_segments .., ?_⟩
    · rw [unverifiedClaims_segments (Jws.readJson_header .hs256) (Datum.entries?_record _),
        Jws.readJson_bytes read]
      rfl
    · simp [claims, v, Datum.lookup, Datum.memberOf, Datum.equal, defaultIssuers, Json.sameKey_str]
  have admitted : Admits v.issuers payload ⟨"svc@example.com"⟩ := by
    refine ⟨?_, .inr ⟨"True", ?_, by decide⟩, ?_, by decide⟩ <;>
      simp [payload, v, Datum.lookup, Datum.memberOf, Datum.equal, defaultIssuers, Json.sameKey_str]
  have json : ((Datum.lookup payload (.str "email_verified")).getD .none).jsonKind = true := by
    simp [payload, Datum.lookup, Json.sameKey_str, Datum.jsonKind]
  obtain ⟨r, answered, -, called, identity⟩ :=
    (plan_fold v).fold _ _ (fun _ => .ok plan) plan taken rfl
  refine ⟨taken, r, answered, by rw [called]; rfl, ?_⟩
  rw [identity]
  exact ((plan_fold v).gate payload _ json).mpr admitted

end Verifier

/-- Claims nested a thousand arrays deep make the verifier fault, whatever the planner. -/
theorem Verifier.verifyPlan_bracketClaims :
    let claimsText := String.ofList (List.replicate 1000 '[' ++ List.replicate 1000 ']')
    let token := Jws.segments (Jws.bytes (Jws.headerText .hs256)) (Jws.bytes claimsText) [0xb2, 0x28]
    ∀ planner, ({} : Verifier).verifyPlan planner (.str token) = .error .tooDeep := by
  intro claimsText token planner
  apply Verifier.verifyPlan_eq_error.mpr
  refine ⟨token, rfl, Verifier.looksLikeJwt_segments .., ?_⟩
  rw [Verifier.unverifiedClaims_segments (Jws.readJson_header .hs256) (Datum.entries?_record _),
    Jws.readJson_brackets (show Json.nestingRoom < 1000 by decide)]
  rfl

end Delegated

end TenantAuth
