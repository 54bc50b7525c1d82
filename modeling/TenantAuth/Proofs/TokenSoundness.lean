import Mathlib
import TenantAuth.Proofs.ClaimsSchema
import TenantAuth.Proofs.TokenRoundTrip

/-!
# What an accepted token is

`TokenService.verify` answers with claims only for a token of a definite form
(`TokenService.verify_sound`, with the form spelled out as `TokenService.Vouched`): a header
segment naming the service's algorithm, a signature segment holding the keyed hash of what
precedes it under a key the secret names, and between them a payload segment whose JSON object
holds only claim names; the claims are the validated reading of that object, one session long,
unexpired, with the tenant their role needs.

The payload segment is everything between the first dot and the last. Base64url decoding
passes over a dot, so a payload text of whole groups cut by a dot decodes as before
(`Base64.decodeBytes_dotted`), and a token of four segments signed over its first three is
accepted (`TokenService.verify_dotted`, `TokenService.verify_fourSegments`).
-/

namespace TenantAuth

namespace Base64

open Jws

theorem run_dot (r : Reader) (rest : List UInt8) : run value? r (46 :: rest) = run value? r rest := by
  rfl

theorem run_skip_dot (r : Reader) (front rest : List UInt8) :
    run value? r (front ++ 46 :: rest) = run value? r (front ++ rest) := by
  induction front generalizing r with
  | nil => exact run_dot r rest
  | cons b front ih => simp only [List.cons_append, run, ih]

theorem run_encode_append (out bs tail : List UInt8) (whole : bs.length % 3 = 0) :
    run value? ⟨0, 0, 0, out⟩ (asciiBytes (encode bs) ++ tail) =
      run value? ⟨0, 0, 0, bs.reverse ++ out⟩ tail := by
  induction bs using encode.induct generalizing out with
  | case1 => rfl
  | case2 a => simp at whole
  | case3 a b => simp at whole
  | case4 a b c rest ih =>
    rw [run_triple, ih _ (by simp at whole; omega)]
    simp

theorem length_encode (bs : List UInt8) (whole : bs.length % 3 = 0) :
    (encode bs).length = bs.length / 3 * 4 := by
  induction bs using encode.induct with
  | case1 => rfl
  | case2 a => simp at whole
  | case3 a b => simp at whole
  | case4 a b c rest ih =>
    simp only [List.length_cons] at whole ⊢
    rw [encode, List.length_cons, List.length_cons, List.length_cons, List.length_cons,
      ih (by omega)]
    omega

theorem decodeBytes_dotted (bs : List UInt8) (whole : bs.length % 3 = 0) (i : Nat) :
    decodeBytes (asciiBytes ((encode bs).take i) ++ 46 :: asciiBytes ((encode bs).drop i)) =
      some bs := by
  have rejoined : asciiBytes ((encode bs).take i) ++ asciiBytes ((encode bs).drop i) =
      asciiBytes (encode bs) := by
    rw [asciiBytes, asciiBytes, ← List.map_append, List.take_append_drop]
    rfl
  have four : (asciiBytes (encode bs)).length % 4 = 0 := by
    rw [asciiBytes, List.length_map, length_encode bs whole]
    omega
  have pads : padded (asciiBytes ((encode bs).take i) ++ 46 :: asciiBytes ((encode bs).drop i)) =
      asciiBytes ((encode bs).take i) ++ 46 :: (asciiBytes ((encode bs).drop i) ++ [61, 61, 61]) := by
    have three : (asciiBytes ((encode bs).take i) ++ 46 :: asciiBytes ((encode bs).drop i)).length % 4 = 1 := by
      rw [← rejoined, List.length_append] at four
      simp only [List.length_append, List.length_cons]
      omega
    rw [padded, if_neg (by rw [three]; decide), three]
    simp
  rw [decodeBytes_eq_run, pads, run_skip_dot, ← List.append_assoc, rejoined,
    show ({} : Reader) = ⟨0, 0, 0, []⟩ from rfl, run_encode_append [] bs _ whole]
  simp [run]

end Base64

namespace Jws

open Base64

theorem splitFirst_eq_some {sep : UInt8} {bs front back : List UInt8} :
    splitFirst sep bs = some (front, back) ↔ bs = front ++ sep :: back ∧ sep ∉ front := by
  constructor
  · intro split
    unfold splitFirst at split
    split at split
    · next i found =>
      obtain ⟨bound, atSep, before⟩ := List.idxOf?_eq_some_iff.mp found
      simp only [Option.some.injEq, Prod.mk.injEq] at split
      obtain ⟨rfl, rfl⟩ := split
      refine ⟨?_, ?_⟩
      · rw [← atSep, List.getElem_cons_drop, List.take_append_drop]
      · intro member
        obtain ⟨j, jBound, atJ⟩ := List.getElem_of_mem member
        rw [List.getElem_take] at atJ
        rw [List.length_take] at jBound
        exact before j (by omega) atJ
    · cases split
  · rintro ⟨rfl, absent⟩
    exact splitFirst_append absent

theorem splitLast_eq_some {sep : UInt8} {bs front back : List UInt8} :
    splitLast sep bs = some (front, back) ↔ bs = front ++ sep :: back ∧ sep ∉ back := by
  constructor
  · intro split
    simp only [splitLast, Option.map_eq_some_iff, Prod.exists, Prod.mk.injEq] at split
    obtain ⟨after, before, first, rfl, rfl⟩ := split
    obtain ⟨flipped, absent⟩ := splitFirst_eq_some.mp first
    refine ⟨?_, by simpa using absent⟩
    rw [← List.reverse_reverse bs, flipped]
    simp
  · rintro ⟨rfl, absent⟩
    exact splitLast_append absent

theorem pieces_eq_some {token : String} {p : Pieces} :
    pieces token = .ok (some p) ↔
      ∃ hSeg pSeg gSeg hb, Surrogate.utf8? token = some (hSeg ++ 46 :: (pSeg ++ 46 :: gSeg)) ∧
        46 ∉ hSeg ∧ 46 ∉ gSeg ∧ p.signingInput = hSeg ++ 46 :: pSeg ∧
        decodeBytes hSeg = some hb ∧ (readJson hb).map (·.bind Datum.entries?) = .ok (some p.header) ∧
        decodeBytes pSeg = some p.payload ∧ decodeBytes gSeg = some p.signature := by
  rcases p with ⟨header, payload, input, signature⟩
  constructor
  · intro pieced
    unfold pieces at pieced
    split at pieced
    · cases pieced
    next bytes encoded =>
    split at pieced
    · cases pieced
    next input' gSeg last =>
    split at pieced
    · cases pieced
    next hSeg pSeg first =>
    split at pieced
    · cases pieced
    next hb hDecoded =>
    -- the header reads as a document, and the rest of the token decodes around it
    cases read : readJson hb with
    | error f => simp [read, Except.map] at pieced
    | ok doc =>
      simp only [read, Except.map, Except.ok.injEq, Option.bind_eq_bind, Option.bind_eq_some_iff,
        Option.pure_def, Option.some.injEq, Pieces.mk.injEq] at pieced
      obtain ⟨header', hRead, payload', pDecoded, signature', gDecoded, rfl, rfl, rfl, rfl⟩ := pieced
      obtain ⟨rfl, gAbsent⟩ := splitLast_eq_some.mp last
      obtain ⟨rfl, hAbsent⟩ := splitFirst_eq_some.mp first
      obtain ⟨d, rfl, object⟩ := hRead
      exact ⟨hSeg, pSeg, gSeg, hb, by simpa using encoded, hAbsent, gAbsent, rfl, hDecoded,
        by simp [Except.map, read, object], pDecoded, gDecoded⟩
  · rintro ⟨hSeg, pSeg, gSeg, hb, bytes, hAbsent, gAbsent, input, hDecoded, hRead, pDecoded, gDecoded⟩
    dsimp only at input pDecoded gDecoded hRead
    subst input
    have last : splitLast 46 (hSeg ++ 46 :: (pSeg ++ 46 :: gSeg)) =
        some (hSeg ++ 46 :: pSeg, gSeg) := splitLast_eq_some.mpr ⟨by simp, gAbsent⟩
    have first : splitFirst 46 (hSeg ++ 46 :: pSeg) = some (hSeg, pSeg) :=
      splitFirst_eq_some.mpr ⟨rfl, hAbsent⟩
    cases read : readJson hb with
    | error f => simp [read, Except.map] at hRead
    | ok doc =>
      simp only [read, Except.map, Except.ok.injEq] at hRead
      simp [pieces, bytes, last, first, hDecoded, read, Except.map, hRead, pDecoded, gDecoded]

theorem ascii_encode (bs : List UInt8) : ∀ c ∈ encode bs, c.val ≤ 127 := by
  intro c member
  obtain ⟨v, rfl⟩ := mem_encode member
  exact (symbol_plain v).1

theorem dotChar_not_mem_encode (bs : List UInt8) : '.' ∉ encode bs := by
  intro member
  obtain ⟨v, same⟩ := mem_encode member
  exact (symbol_plain v).2.1 (by rw [← same]; rfl)

theorem utf8?_ofList_ascii {cs : List Char} (ascii : ∀ c ∈ cs, c.val ≤ 127) :
    Surrogate.utf8? (String.ofList cs) = some (asciiBytes cs) := by
  have noCarrier : Surrogate.carries (String.ofList cs) = false := by
    simp only [Surrogate.carries, String.toList_ofList, List.any_eq_false]
    intro c member
    simp [isCarrier_ascii (ascii c member)]
  rw [Surrogate.utf8?, noCarrier, if_neg Bool.false_ne_true]
  exact congrArg some (bytes_ofList_ascii cs ascii)

/-- The text of a token of four segments: the header, the payload's base64url text cut in two
at `i`, and the signature, joined by dots. -/
def dotted (h p s : List UInt8) (i : Nat) : String :=
  String.ofList (encode h ++ '.' :: ((encode p).take i ++ '.' :: ((encode p).drop i ++ '.' :: encode s)))

/-- The bytes before the last dot of such a token. -/
def dottedBytes (h p : List UInt8) (i : Nat) : List UInt8 :=
  asciiBytes (encode h) ++ 46 :: (asciiBytes ((encode p).take i) ++ 46 :: asciiBytes ((encode p).drop i))

theorem utf8?_dotted (h p s : List UInt8) (i : Nat) :
    Surrogate.utf8? (dotted h p s i) = some (dottedBytes h p i ++ 46 :: asciiBytes (encode s)) := by
  rw [dotted, utf8?_ofList_ascii]
  · simp [asciiBytes, dottedBytes]
    rfl
  · intro c member
    simp only [List.mem_append, List.mem_cons] at member
    rcases member with inH | rfl | inP | rfl | inP | rfl | inS
    · exact ascii_encode h c inH
    · decide
    · exact ascii_encode p c (List.mem_of_mem_take inP)
    · decide
    · exact ascii_encode p c (List.mem_of_mem_drop inP)
    · decide
    · exact ascii_encode s c inS

theorem count_dotted (h p s : List UInt8) (i : Nat) : (dotted h p s i).toList.count '.' = 3 := by
  have none : ∀ bs : List UInt8, (encode bs).count '.' = 0 :=
    fun bs => List.count_eq_zero.mpr (dotChar_not_mem_encode bs)
  have noneTake : ((encode p).take i).count '.' = 0 :=
    List.count_eq_zero.mpr fun m => dotChar_not_mem_encode p (List.mem_of_mem_take m)
  have noneDrop : ((encode p).drop i).count '.' = 0 :=
    List.count_eq_zero.mpr fun m => dotChar_not_mem_encode p (List.mem_of_mem_drop m)
  simp [dotted, List.count_append, none, noneTake, noneDrop]

theorem pieces_dotted (h p s : List UInt8) (i : Nat) (whole : p.length % 3 = 0) :
    pieces (dotted h p s i) = (readJson h).map fun doc =>
      (doc.bind Datum.entries?).map fun header => ⟨header, p, dottedBytes h p i, s⟩ := by
  have last : splitLast 46 (dottedBytes h p i ++ 46 :: asciiBytes (encode s)) =
      some (dottedBytes h p i, asciiBytes (encode s)) :=
    splitLast_append (dot_not_mem_encode s)
  have first : splitFirst 46 (dottedBytes h p i) = some (asciiBytes (encode h),
      asciiBytes ((encode p).take i) ++ 46 :: asciiBytes ((encode p).drop i)) :=
    splitFirst_append (dot_not_mem_encode h)
  rw [pieces, utf8?_dotted]
  simp only [last, first, decodeBytes_encode, decodeBytes_dotted p whole]
  congr 1
  funext doc
  cases doc.bind Datum.entries? <;> rfl

theorem anyKeySigns_eq_true {alg : Algorithm} {input signature : List UInt8} {ks : List Datum}
    (signs : anyKeySigns alg input signature ks = .ok true) :
    ∃ key ∈ ks, ∃ kb, keyBytes key = .ok kb ∧ alg.digest.hmac kb input = signature := by
  induction ks with
  | nil => cases signs
  | cons k rest ih =>
    obtain ⟨kb, built, decided⟩ := Except.bind_eq_ok.mp signs
    split at decided
    · next same => exact ⟨k, List.mem_cons_self, kb, built, by simpa using same⟩
    · obtain ⟨key, member, found⟩ := ih decided
      exact ⟨key, List.mem_cons_of_mem _ member, found⟩

/-- A payload comes back only when the header names the algorithm and a key reproduces the
signature. -/
theorem verify_eq_some {algorithm secret token : String} {es : List (Datum × Datum)}
    (accepted : verify algorithm secret token = .ok (some es)) :
    ∃ p alg ks, pieces token = .ok (some p) ∧
      Datum.lookup p.header (.str "alg") = some (.str algorithm) ∧
      Algorithm.ofName? algorithm = some alg ∧ keys secret = .ok ks ∧
      anyKeySigns alg p.signingInput p.signature ks = .ok true ∧
      (readJson p.payload).map (·.bind Datum.entries?) = .ok (some es) := by
  unfold verify at accepted
  split at accepted
  · cases accepted
  · cases accepted
  · next p pieced =>
    split at accepted
    · next a named =>
      split at accepted
      · cases accepted
      · next fresh =>
        have same : a = algorithm := by simp at fresh; exact fresh.2
        subst same
        split at accepted
        · cases accepted
        · next alg known =>
          obtain ⟨ks, keyed, rest⟩ := Except.bind_eq_ok.mp accepted
          obtain ⟨ok, signs, answered⟩ := Except.bind_eq_ok.mp rest
          cases ok
          · cases answered
          · exact ⟨p, alg, ks, pieced, named, known, keyed, signs, answered⟩
    · cases accepted

theorem verify_of_pieces {algorithm secret token : String} {alg : Algorithm} {p : Pieces}
    (pieced : pieces token = .ok (some p)) (header : Datum.lookup p.header (.str "alg") = some (.str algorithm))
    (named : Algorithm.ofName? algorithm = some alg)
    (usable : (Surrogate.carries secret || isAsymmetric (bytes secret)) = false)
    (selfKeyed : keys secret = .ok [.str secret])
    (hashed : p.signature = alg.digest.hmac (bytes secret) p.signingInput) :
    verify algorithm secret token = (readJson p.payload).map (·.bind Datum.entries?) := by
  have fresh : algorithm.isEmpty = false := by
    rw [← name_of_ofName? named]
    simpa using name_ne_empty alg
  simp only [Bool.or_eq_false_iff] at usable
  have own : keyBytes (.str secret) = .ok (bytes secret) := by
    simp [keyBytes, usable.1, usable.2]
  simp [verify, pieced, header, fresh, named, selfKeyed, anyKeySigns, own, hashed, bind,
    Except.bind, pure, Except.pure]

end Jws

namespace TokenService

theorem timeClaim_eq_some {v : Datum} {n : Int} (read : timeClaim v = .ok (some n)) :
    Datum.toInt v = .ok n := by
  unfold timeClaim at read
  split at read
  · next m converted => rw [converted, Option.some.inj (Except.ok.inj read)]
  · cases read
  · cases read

theorem expiry_eq_some {skew : Int ⊕ Float} {now : Int} {expValue : Datum}
    {es : List (Datum × Datum)} {c : Claims}
    (answered : (do
        let some exp ← timeClaim expValue | return none
        if precedes exp now skew then return none
        match Claims.read (.dict es) with
        | .ok c => pure (some c)
        | .error _ => pure none : Except Fault (Option Claims)) = .ok (some c)) :
    ∃ e, Datum.toInt expValue = .ok e ∧ precedes e now skew = false ∧
      Claims.read (.dict es) = .ok c := by
  obtain ⟨exp?, expRead, rest⟩ := Except.bind_eq_ok.mp answered
  rcases exp? with _ | e
  · cases rest
  · refine ⟨e, timeClaim_eq_some expRead, ?_⟩
    simp only at rest
    split at rest
    · cases rest
    · next fresh =>
      split at rest
      · next c' valid => exact ⟨by simpa using fresh, by rw [valid, Option.some.inj (Except.ok.inj rest)]⟩
      · cases rest

theorem verify_eq_some {svc : TokenService} {token : String} {now : Int} {c : Claims}
    (accepted : svc.verify (.str token) now = .ok (some c)) :
    ∃ es expValue e, Jws.verify svc.algorithm svc.secret token = .ok (some es) ∧
      Datum.lookup es (.str "exp") = some expValue ∧ Datum.toInt expValue = .ok e ∧
      precedes e now svc.clockSkew = false ∧ Claims.read (.dict es) = .ok c := by
  simp only [verify] at accepted
  split at accepted
  · cases accepted
  · obtain ⟨payload?, checked, rest⟩ := Except.bind_eq_ok.mp accepted
    split at rest
    · next es =>
      split at rest
      · split at rest
        · next expValue found =>
          obtain ⟨iat?, -, rest⟩ := Except.bind_eq_ok.mp rest
          split at rest
          · split at rest
            · obtain ⟨nbf?, -, rest⟩ := Except.bind_eq_ok.mp rest
              split at rest
              · split at rest
                · cases rest
                · obtain ⟨e, expRead, fresh, valid⟩ := expiry_eq_some rest
                  exact ⟨es, expValue, e, checked, found, expRead, fresh, valid⟩
              · cases rest
            · obtain ⟨e, expRead, fresh, valid⟩ := expiry_eq_some rest
              exact ⟨es, expValue, e, checked, found, expRead, fresh, valid⟩
          · cases rest
        · cases rest
      · cases rest
    · cases rest

theorem verify_dotted (svc : TokenService) {alg : Jws.Algorithm} {k : Int} {c : Claims} (i : Nat)
    (now : Int) (named : Jws.Algorithm.ofName? svc.algorithm = some alg)
    (usable : (Surrogate.carries svc.secret || Jws.isAsymmetric (Jws.bytes svc.secret)) = false)
    (selfKeyed : Jws.keys svc.secret = .ok [.str svc.secret]) (skew : svc.clockSkew = .inl k)
    (tenant : c.hasRequiredTenant = true) (lifetime : c.exp = c.iat + sessionLifetime)
    (unsplit : ∀ s ∈ c.texts, Json.splitPair s.toList = false)
    (early : c.iat.natAbs < 10 ^ Json.maxIntDigits) (late : c.exp.natAbs < 10 ^ Json.maxIntDigits)
    (whole : (Jws.bytes (Json.render true c.toDatum)).length % 3 = 0) :
    let h := Jws.bytes (Jws.headerText alg)
    let p := Jws.bytes (Json.render true c.toDatum)
    svc.verify (.str (Jws.dotted h p (alg.digest.hmac (Jws.bytes svc.secret) (Jws.dottedBytes h p i)) i))
      now = .ok (if now ≤ c.exp + k then some c else none) := by
  intro h p
  have pieced := Jws.pieces_dotted h p (alg.digest.hmac (Jws.bytes svc.secret) (Jws.dottedBytes h p i))
    i whole
  simp only [h, Jws.readJson_header, Except.map, Option.bind_some, Datum.entries?_record,
    Option.map_some] at pieced
  have checked := Jws.verify_of_pieces pieced
    (by simp [Datum.lookup, Json.sameKey_str, Jws.name_of_ofName? named]) named usable selfKeyed rfl
  rw [Jws.readJson_bytes (Claims.parse_render_toDatum c unsplit early late)] at checked
  have nonempty : (Jws.dotted h p (alg.digest.hmac (Jws.bytes svc.secret) (Jws.dottedBytes h p i)) i).isEmpty = false := by
    simp [Jws.dotted]
  exact verify_of_claims nonempty checked (Claims.read_toDatum c tenant lifetime) skew now

/-- A token of four segments, signed over its first three, is accepted with the claims. -/
theorem verify_fourSegments :
    let svc : TokenService := { secret := "test-secret-not-for-production-0123456789" }
    let c := Claims.ofIdentity
      { userId := "u1", tenantId := some "demo", username := "a", name := "AB", role := .clinician }
      1700000000
    ∃ token, token.toList.count '.' = 3 ∧ svc.verify (.str token) 1700000000 = .ok (some c) := by
  intro svc c
  have plain : ∀ s ∈ c.texts, Surrogate.carries s = false := by
    dsimp only [c]
    decide
  have accepted := verify_dotted svc 104 1700000000 rfl (by cbv)
    (show Jws.keys "test-secret-not-for-production-0123456789" = _ by rfl) rfl rfl rfl
    (fun s member => Json.splitPair_of_carries (plain s member))
    (Json.lt_ten_pow_maxIntDigits (by decide)) (Json.lt_ten_pow_maxIntDigits (by decide))
    (by decide +kernel)
  dsimp only at accepted
  rw [if_pos (by decide)] at accepted
  exact ⟨_, Jws.count_dotted .., accepted⟩

/-- What acceptance vouches for. The token's bytes are a header segment and a signature
segment, neither holding a dot, around a payload segment, which is everything between the first
dot and the last. The header is a JSON object naming the service's algorithm; the signature
is the keyed hash, under a key the secret names, of the header and payload segments; the
payload is a JSON object of claim names holding both times. The claims are read from that
object alone: their times are the lenient readings of its times, the kind tag if present is the
session's, the session is one lifetime long, it has not expired at `now` beyond the tolerance
`k`, and every role but the system administrator's has a tenant. -/
def Vouched (svc : TokenService) (k : Int) (token : String) (now : Int) (c : Claims) : Prop :=
  ∃ hSeg pSeg gSeg header alg ks key kb payload es,
    Surrogate.utf8? token = some (hSeg ++ 46 :: (pSeg ++ 46 :: gSeg)) ∧ 46 ∉ hSeg ∧ 46 ∉ gSeg ∧
    (∃ hb, Base64.decodeBytes hSeg = some hb ∧
      (Jws.readJson hb).map (·.bind Datum.entries?) = .ok (some header)) ∧
    Datum.lookup header (.str "alg") = some (.str svc.algorithm) ∧
    Jws.Algorithm.ofName? svc.algorithm = some alg ∧
    Jws.keys svc.secret = .ok ks ∧ key ∈ ks ∧ Jws.keyBytes key = .ok kb ∧
    Base64.decodeBytes gSeg = some (alg.digest.hmac kb (hSeg ++ 46 :: pSeg)) ∧
    Base64.decodeBytes pSeg = some payload ∧
    (Jws.readJson payload).map (·.bind Datum.entries?) = .ok (some es) ∧
    (∀ e ∈ es, ∃ s, e.1 = .str s ∧ s ∈ Claims.fieldNames) ∧
    (∃ v, Datum.lookup es (.str "iat") = some v ∧ Lax.integer v = .ok c.iat) ∧
    (∃ v, Datum.lookup es (.str "exp") = some v ∧ Lax.integer v = .ok c.exp) ∧
    (∀ v, Datum.lookup es (.str "typ") = some v → v = .str Claims.kindTag) ∧
    Claims.read (.dict es) = .ok c ∧ c.exp = c.iat + sessionLifetime ∧ now ≤ c.exp + k ∧
    (c.role ≠ .systemAdmin → ∃ t, c.tenantId = some t ∧ t ≠ "")

/-- Claims come back only from a signed token, as the validated reading of its payload. -/
theorem verify_sound (svc : TokenService) {k : Int} (skew : svc.clockSkew = .inl k)
    (token : String) (now : Int) {c : Claims} (accepted : svc.verify (.str token) now = .ok (some c)) :
    Vouched svc k token now c := by
  obtain ⟨es, expValue, e, signed, found, expInt, fresh, valid⟩ := verify_eq_some accepted
  obtain ⟨p, alg, ks, pieced, named, known, keyed, signs, payloadRead⟩ := Jws.verify_eq_some signed
  obtain ⟨hSeg, pSeg, gSeg, hb, bytes, hAbsent, gAbsent, input, hDecoded, hRead, pDecoded,
    gDecoded⟩ := Jws.pieces_eq_some.mp pieced
  obtain ⟨key, member, kb, built, hashed⟩ := Jws.anyKeySigns_eq_true signs
  obtain ⟨keysKnown, iatRead, ⟨v, found', expLax⟩, typ, lifetime, tenant⟩ := Claims.read_eq_ok valid
  -- the expiry the token was checked against is the expiry the claims report
  have sameExp : c.exp = e := by
    rw [found, Option.some.injEq] at found'
    subst found'
    exact Lax.integer_agrees_toInt expLax expInt
  have notExpired : now ≤ c.exp + k := by
    simp only [precedes, skew, decide_eq_false_iff_not, not_lt] at fresh
    omega
  refine ⟨hSeg, pSeg, gSeg, p.header, alg, ks, key, kb, p.payload, es, bytes, hAbsent, gAbsent,
    ⟨hb, hDecoded, hRead⟩, named, known, keyed, member, built,
    by rw [gDecoded, ← input, hashed], pDecoded, payloadRead, keysKnown, iatRead,
    ⟨v, found', expLax⟩, typ, valid, lifetime, notExpired, ?_⟩
  exact Identity.hasRequiredTenant_iff.mp tenant

/-- What is vouched for a system administrator whose payload segment holds a dot. -/
theorem verify_sound_systemAdmin :
    let svc : TokenService := { secret := "s3cret-key" }
    let c := Claims.ofIdentity
      { userId := "u0", tenantId := none, username := "root", name := "R", role := .systemAdmin }
      1700000000
    ∃ token, svc.verify (.str token) 1700000000 = .ok (some c) ∧ Vouched svc 30 token 1700000000 c := by
  intro svc c
  have plain : ∀ s ∈ c.texts, Surrogate.carries s = false := by
    dsimp only [c]
    decide
  have accepted := verify_dotted svc 50 1700000000 rfl (by cbv)
    (show Jws.keys "s3cret-key" = _ by rfl) rfl rfl rfl
    (fun s member => Json.splitPair_of_carries (plain s member))
    (Json.lt_ten_pow_maxIntDigits (by decide)) (Json.lt_ten_pow_maxIntDigits (by decide))
    (by decide +kernel)
  dsimp only at accepted
  rw [if_pos (by decide)] at accepted
  exact ⟨_, accepted, verify_sound svc rfl _ 1700000000 accepted⟩

end TokenService

end TenantAuth
