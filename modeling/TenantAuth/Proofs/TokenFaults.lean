import Mathlib
import TenantAuth.Proofs.AccessDecision
import TenantAuth.Proofs.TokenRoundTrip

/-!
# When checking a session token faults

`TokenService.verify` answers claims or a refusal for nearly every value, but some tokens make
it fault: a token carrying a lone surrogate has no bytes, a header or payload nested deeper than
the JSON reader has room for cannot be read, a secret whose keys cannot be built fails every
token naming the configured algorithm, and a signed payload whose time claim has no whole number
at all (`Datum.NoWhole`) fails its check. Authentication passes such a fault on.
-/

namespace TenantAuth

theorem Except.bind_eq_error {ε α β : Type} {x : Except ε α} {f : α → Except ε β}
    {e : ε} :
    (x >>= f) = .error e ↔ x = .error e ∨ ∃ a, x = .ok a ∧ f a = .error e := by
  cases x <;> simp [bind, Except.bind]

namespace Datum

/-- Whether reading a whole number applies to a value at all: it does to truth values, numbers
and text, and to nothing else. -/
def wholeReadable : Datum → Bool
  | .bool _ | .int _ | .float _ | .str _ => true
  | _ => false

/-- The faults of reading a whole number, as against refusing a wrong value: a value the reading
does not apply to is of the wrong type, and a double that is no NaN but has no integer part (an
infinity) overflows. -/
inductive NoWhole : Datum → Fault → Prop
  | wrongType {v : Datum} : v.wholeReadable = false → NoWhole v .wrongType
  | overflow {x : Float} : x.isNaN = false → Double.truncate? x = Option.none →
      NoWhole (.float x) .overflow

theorem NoWhole.ne_badValue {v : Datum} {f : Fault} (fault : NoWhole v f) (m : String) :
    f ≠ .badValue m := by
  cases fault <;> simp

theorem toInt_eq_error {v : Datum} {f : Fault} (notValue : ∀ m, f ≠ .badValue m) :
    toInt v = .error f ↔ NoWhole v f := by
  constructor
  · intro failed
    cases v with
    | bool b => cases failed
    | int n => cases failed
    | float x =>
      simp only [toInt] at failed
      split at failed
      · exact absurd (Except.error.inj failed).symm (notValue _)
      · next nan =>
        split at failed
        · cases failed
        · next missing =>
          cases failed
          exact .overflow (by simpa using nan) missing
    | str s =>
      simp only [toInt] at failed
      split at failed
      · cases failed
      · exact absurd (Except.error.inj failed).symm (notValue _)
      · exact absurd (Except.error.inj failed).symm (notValue _)
    | none | bytes _ | moment _ | list _ | dict _ | set _ | tuple _ | cycle _ _ =>
      cases failed
      exact .wrongType rfl
  · intro fault
    cases fault with
    | wrongType unreadable => cases v <;> simp [wholeReadable, toInt] at unreadable ⊢
    | overflow nan missing => simp only [toInt, nan, Bool.false_eq_true, if_false, missing]

end Datum

namespace Jws

/-- A configuration every key of which can be built: an algorithm with a keyed hash, and a secret
each of whose keys has bytes. -/
structure KeysBuild (algorithm secret : String) : Prop where
  /-- The algorithm has a keyed hash. -/
  named : ∃ alg, Algorithm.ofName? algorithm = some alg
  /-- The secret names keys, and each of them has bytes. -/
  built : ∃ ks, keys secret = .ok ks ∧ ∀ k ∈ ks, ∃ b, keyBytes k = .ok b

theorem anyKeySigns_ok {alg : Algorithm} {input signature : List UInt8} {ks : List Datum}
    (built : ∀ k ∈ ks, ∃ b, keyBytes k = .ok b) :
    ∃ ok, anyKeySigns alg input signature ks = .ok ok := by
  induction ks with
  | nil => exact ⟨false, rfl⟩
  | cons k rest ih =>
    obtain ⟨b, kb⟩ := built k List.mem_cons_self
    obtain ⟨ok, tried⟩ := ih fun k member => built k (List.mem_cons_of_mem _ member)
    simp only [anyKeySigns, kb, bind, Except.bind]
    split
    · exact ⟨true, rfl⟩
    · exact ⟨ok, tried⟩

theorem pieces_eq_error {t : String} {f : Fault} (failed : pieces t = .error f) :
    f = .unencodable ∧ Surrogate.carries t = true ∨ f = .tooDeep := by
  unfold pieces at failed
  split at failed
  · next unencoded =>
    cases failed
    refine .inl ⟨rfl, ?_⟩
    simpa [Surrogate.utf8?] using unencoded
  · repeat' split at failed
    all_goals first
      | cases failed
      | exact .inr (readJson_eq_error (Except.map_eq_error.mp failed))

theorem verify_eq_error_of_build {algorithm secret : String} (build : KeysBuild algorithm secret)
    {t : String} {f : Fault} (failed : verify algorithm secret t = .error f) :
    f = .unencodable ∧ Surrogate.carries t = true ∨ f = .tooDeep := by
  obtain ⟨alg, named⟩ := build.named
  obtain ⟨ks, listed, built⟩ := build.built
  unfold verify at failed
  split at failed
  · next pieced =>
    cases failed
    exact pieces_eq_error pieced
  · cases failed
  · next p pieced =>
    split at failed
    · next a found =>
      split at failed
      · cases failed
      · next configured =>
        have same : a = algorithm := (by simpa using configured : ¬a = "" ∧ a = algorithm).2
        obtain ⟨ok, tried⟩ := @anyKeySigns_ok alg p.signingInput p.signature ks built
        simp only [same, named, listed, tried, bind, Except.bind] at failed
        -- only the payload is left to read once the keys have been tried
        cases ok
        · cases failed
        · exact .inr (readJson_eq_error (Except.map_eq_error.mp failed))
    · cases failed

theorem verify_of_carries {algorithm secret t : String} (carried : Surrogate.carries t = true) :
    verify algorithm secret t = .error .unencodable := by
  simp [verify, pieces, Surrogate.utf8?, carried]

theorem verify_deepHeader {algorithm secret : String} {h : List UInt8}
    (deep : readJson h = .error .tooDeep) (p s : List UInt8) :
    verify algorithm secret (segments h p s) = .error .tooDeep := by
  rw [verify, pieces_segments, deep]
  rfl

theorem verify_empty (algorithm secret : String) : verify algorithm secret "" = .ok none := by
  simp [verify, pieces, Surrogate.utf8?, Surrogate.carries, splitLast, splitFirst]

theorem isEmpty_of_verify {algorithm secret t : String} {payload : List (Datum × Datum)}
    (signed : verify algorithm secret t = .ok (some payload)) : t.isEmpty = false := by
  cases empty : t.isEmpty
  · rfl
  · rw [String.isEmpty_iff.mp empty, verify_empty] at signed
    cases signed

end Jws

namespace TokenService

theorem timeClaim_eq_error {v : Datum} {f : Fault} :
    timeClaim v = .error f ↔ Datum.NoWhole v f := by
  constructor
  · intro failed
    unfold timeClaim at failed
    split at failed
    · cases failed
    · cases failed
    · next g notValue read =>
      cases failed
      exact (Datum.toInt_eq_error notValue).mp read
  · intro fault
    rw [timeClaim, (Datum.toInt_eq_error fault.ne_badValue).mpr fault]
    cases fault <;> rfl


/-- The time claims of a token, in the order a check reads them. -/
def timeClaimNames : List String := ["iat", "nbf", "exp"]

/-- A payload one of whose time claims has no whole number, reading it raising `f`. -/
def TimeFault (payload : List (Datum × Datum)) (f : Fault) : Prop :=
  ∃ name ∈ timeClaimNames, ∃ v,
    Datum.lookup payload (.str name) = some v ∧ Datum.NoWhole v f

theorem timeFault_of {payload : List (Datum × Datum)} {name : String} {v : Datum} {f : Fault}
    (named : name ∈ timeClaimNames) (found : Datum.lookup payload (.str name) = some v)
    (fault : timeClaim v = .error f) : TimeFault payload f :=
  ⟨name, named, v, found, timeClaim_eq_error.mp fault⟩

theorem expiry_eq_error {skew : Int ⊕ Float} {now : Int} {expValue : Datum}
    {es : List (Datum × Datum)} {f : Fault}
    (failed : (do
        let some exp ← timeClaim expValue | return none
        if precedes exp now skew then return none
        match Claims.read (.dict es) with
        | .ok c => pure (some c)
        | .error _ => pure none : Except Fault (Option Claims)) = .error f) :
    timeClaim expValue = .error f := by
  rcases Except.bind_eq_error.mp failed with fault | ⟨exp?, -, rest⟩
  · exact fault
  · rcases exp? with _ | e
    · cases rest
    · simp only at rest
      split at rest
      · cases rest
      · split at rest <;> cases rest

theorem verify_eq_error {svc : TokenService} {token : Datum} {now : Int} {f : Fault}
    (failed : svc.verify token now = .error f) :
    ∃ t, token = .str t ∧ (Jws.verify svc.algorithm svc.secret t = .error f ∨
      ∃ payload, Jws.verify svc.algorithm svc.secret t = .ok (some payload) ∧
        TimeFault payload f) := by
  cases token with
  | str t =>
    simp only [verify] at failed
    split at failed
    · cases failed
    · rcases Except.bind_eq_error.mp failed with keyFault | ⟨payload?, checked, rest⟩
      · exact ⟨t, rfl, .inl keyFault⟩
      · rcases payload? with _ | payload
        · cases rest
        · refine ⟨t, rfl, .inr ⟨payload, checked, ?_⟩⟩
          simp only at rest
          -- the issue time and the expiry must both be there before either is read
          split at rest
          · next iatValue iatFound =>
            split at rest
            · next expValue expFound =>
              rcases Except.bind_eq_error.mp rest with iatFault | ⟨iat?, -, rest⟩
              · exact timeFault_of (by simp [timeClaimNames]) iatFound iatFault
              · rcases iat? with _ | iat
                · cases rest
                · simp only at rest
                  split at rest
                  · next nbfValue nbfFound =>
                    rcases Except.bind_eq_error.mp rest with nbfFault | ⟨nbf?, -, rest⟩
                    · exact timeFault_of (by simp [timeClaimNames]) nbfFound nbfFault
                    · rcases nbf? with _ | nbf
                      · cases rest
                      · simp only at rest
                        split at rest
                        · cases rest
                        · exact timeFault_of (by simp [timeClaimNames]) expFound
                            (expiry_eq_error rest)
                  · exact timeFault_of (by simp [timeClaimNames]) expFound (expiry_eq_error rest)
            · cases rest
          · cases rest
  | _ => cases failed

theorem verify_of_jwsFault {svc : TokenService} {t : String} {f : Fault}
    (nonempty : t.isEmpty = false) (failed : Jws.verify svc.algorithm svc.secret t = .error f)
    (now : Int) : svc.verify (.str t) now = .error f := by
  simp only [verify, nonempty, failed, bind, Except.bind]
  rfl

theorem isEmpty_of_carries {t : String} (carried : Surrogate.carries t = true) :
    t.isEmpty = false := by
  cases empty : t.isEmpty
  · rfl
  · rw [String.isEmpty_iff.mp empty] at carried
    cases carried

theorem verify_of_issuedAt {svc : TokenService} {t : String} {now : Int}
    {payload : List (Datum × Datum)} {v e : Datum} {f : Fault}
    (signed : Jws.verify svc.algorithm svc.secret t = .ok (some payload))
    (issued : Datum.lookup payload (.str "iat") = some v)
    (expires : Datum.lookup payload (.str "exp") = some e) (fault : Datum.NoWhole v f) :
    svc.verify (.str t) now = .error f := by
  simp only [verify, Jws.isEmpty_of_verify signed, signed, issued, expires,
    timeClaim_eq_error.mpr fault, bind, Except.bind]
  rfl

end TokenService

namespace Access

section Faults

variable {tokens : TokenService} {now : Int} {delegated : Option (Datum → Delegated.Report)}
  {token : Datum} {f : Fault}

theorem authenticate_of_fault (present : token.truthy = true)
    (failed : tokens.verify token now = .error f) :
    (authenticate tokens now delegated token).1 = .error f := by
  simp [authenticate, sessionPrincipal, present, failed, bind, Except.bind]

theorem authenticate_eq_error (failed : (authenticate tokens now delegated token).1 = .error f) :
    f = .rejected .authenticationRequired ∨ tokens.verify token now = .error f := by
  cases verified : tokens.verify token now with
  | error g =>
    by_cases present : token.truthy
    · rw [authenticate_of_fault present verified] at failed
      exact .inr (Except.error.inj failed ▸ rfl)
    · simp only [authenticate, present, Bool.not_false, if_true] at failed
      exact .inl (Except.error.inj failed).symm
  | ok session =>
    rw [authenticate_fst verified] at failed
    split at failed
    · cases failed
    · exact .inl (Except.error.inj failed).symm

end Faults

end Access

namespace TokenService

/-- How checking tokens under a service faults, and what authentication makes of it. -/
structure TokenFaults (svc : TokenService) : Prop where
  /-- A fault comes from checking the signature, or from a time claim of a payload signed under
  the service's keys. -/
  only : ∀ token now f, svc.verify token now = .error f → ∃ t, token = .str t ∧
    (Jws.verify svc.algorithm svc.secret t = .error f ∨
      ∃ payload, Jws.verify svc.algorithm svc.secret t = .ok (some payload) ∧ TimeFault payload f)
  /-- With every key buildable, the signature check faults only on a token carrying a lone
  surrogate or on a header or payload nested too deep for the reader. -/
  keys : Jws.KeysBuild svc.algorithm svc.secret → ∀ t f,
    Jws.verify svc.algorithm svc.secret t = .error f →
      f = .unencodable ∧ Surrogate.carries t = true ∨ f = .tooDeep
  /-- A signed token with an expiry whose issue time has no whole number raises, whatever the
  clock. -/
  issuedAt : ∀ t now payload v e f, Jws.verify svc.algorithm svc.secret t = .ok (some payload) →
    Datum.lookup payload (.str "iat") = some v → Datum.lookup payload (.str "exp") = some e →
    Datum.NoWhole v f → svc.verify (.str t) now = .error f
  /-- Text carrying a lone surrogate has no bytes, and faults. -/
  surrogate : ∀ t now, Surrogate.carries t = true → svc.verify (.str t) now = .error .unencodable
  /-- A token whose header segment is nested too deep for the reader faults, whatever its other
  segments. -/
  deepHeader : ∀ h p s now, Jws.readJson h = .error .tooDeep →
    svc.verify (.str (Jws.segments h p s)) now = .error .tooDeep
  /-- Authentication fails by asking for authentication or with the session check's fault. -/
  authenticate : ∀ now delegated token f, (Access.authenticate svc now delegated token).1 = .error f →
    f = .rejected .authenticationRequired ∨ svc.verify token now = .error f
  /-- For a present token, authentication passes the session check's fault on. -/
  propagates : ∀ now delegated token f, token.truthy = true → svc.verify token now = .error f →
    (Access.authenticate svc now delegated token).1 = .error f

/-- Checking a session token faults only in the signature check or a time claim, and authentication
passes the fault on. -/
theorem token_faults (svc : TokenService) : svc.TokenFaults where
  only _ _ _ := verify_eq_error
  keys build _ _ := Jws.verify_eq_error_of_build build
  issuedAt _ _ _ _ _ _ := verify_of_issuedAt
  surrogate _ now carried := verify_of_jwsFault (isEmpty_of_carries carried)
    (Jws.verify_of_carries carried) now
  deepHeader _ p s now deep := verify_of_jwsFault (Jws.isEmpty_segments ..)
    (Jws.verify_deepHeader deep p s) now
  authenticate _ _ _ _ := Access.authenticate_eq_error
  propagates _ _ _ _ := Access.authenticate_of_fault

/-- A signed token whose issue time is null faults, checked and in authentication. -/
theorem token_faults_nullIssuedAt :
    let svc : TokenService := { secret := "s3cret-key" }
    let payload := Datum.record [("iat", .none), ("exp", .int 1700086400)]
    ∃ token, Jws.sign svc.algorithm svc.secret payload = .ok token ∧
      svc.verify (.str token) 1700000000 = .error .wrongType ∧
      (Access.authenticate svc 1700000000 none (.str token)).1 = .error .wrongType := by
  intro svc payload
  have faults := token_faults svc
  have small : 1700086400 < 10 ^ Json.maxIntDigits :=
    Json.lt_ten_pow_maxIntDigits (by decide)
  have short : payload.hasLongInt = false := by
    have shown : Datum.maxShownDigits = Json.maxIntDigits := rfl
    simp [payload, Datum.record, Datum.hasLongInt, Datum.anyLongIntEntry, shown, small]
  have usable :
      (Surrogate.carries svc.secret || Jws.isAsymmetric (Jws.bytes svc.secret)) = false := by
    cbv
  have signed := Jws.sign_eq (rfl : Jws.Algorithm.ofName? svc.algorithm = some .hs256) short usable
  have read : Json.parse (Json.render true payload) = .ok payload := by
    apply Json.parse_render_record _ (by decide)
    · simp only [List.forall_mem_cons, List.not_mem_nil, IsEmpty.forall_iff, forall_const,
        and_true]
      exact ⟨Json.pairedText_of_carries (by decide), Json.pairedText_of_carries (by decide)⟩
    · simp only [List.forall_mem_cons, List.not_mem_nil, IsEmpty.forall_iff, forall_const,
        and_true]
      exact ⟨.none, .int small⟩
  have checked := Jws.verify_sign_self signed (show Jws.keys "s3cret-key" = _ by rfl)
  rw [Jws.readJson_bytes read] at checked
  have raised := faults.issuedAt _ 1700000000 _ .none (.int 1700086400) .wrongType checked rfl rfl
    (.wrongType rfl)
  refine ⟨_, signed, raised, faults.propagates _ none _ _ ?_ raised⟩
  simp [Datum.truthy, Jws.isEmpty_segments]

/-- A header nested a thousand arrays deep faults, checked and in authentication. -/
theorem verify_bracketHeader :
    let svc : TokenService := { secret := "s3cret-key" }
    let header := Jws.bytes (String.ofList (List.replicate 1000 '[' ++ List.replicate 1000 ']'))
    svc.verify (.str (Jws.segments header [] [])) 1700000000 = .error .tooDeep ∧
      (Access.authenticate svc 1700000000 none (.str (Jws.segments header [] []))).1 =
        .error .tooDeep := by
  intro svc header
  have deep : Jws.readJson header = .error .tooDeep :=
    Jws.readJson_brackets (show Json.nestingRoom < 1000 by decide)
  have raised : svc.verify (.str (Jws.segments header [] [])) 1700000000 = .error .tooDeep :=
    verify_of_jwsFault (Jws.isEmpty_segments ..) (Jws.verify_deepHeader deep [] []) 1700000000
  refine ⟨raised, Access.authenticate_of_fault ?_ raised⟩
  simp [Datum.truthy, Jws.isEmpty_segments]

end TokenService

end TenantAuth
