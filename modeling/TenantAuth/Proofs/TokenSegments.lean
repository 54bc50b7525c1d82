import Mathlib
import TenantAuth.Session.Jws

/-!
# The segments of a signed token

A token is three base64url segments joined by dots. This file shows that the layout can be
taken apart again exactly: unpadded base64url text decodes back to its bytes
(`Base64.decodeBytes_encode`), its symbols are ASCII and never a dot, so the dots of a token are
its two separators, and `Jws.pieces` returns the header, the payload and the signature a token
was written from (`Jws.pieces_segments`). `Jws.sign_eq` gives the token `Jws.sign` writes in
these terms.
-/

namespace TenantAuth

namespace Jws

theorem toList_loop (b : ByteArray) (i : Nat) (r : List UInt8) :
    ByteArray.toList.loop b i r = r.reverse ++ b.data.toList.drop i := by
  fun_induction ByteArray.toList.loop b i r with
  | case1 i r inside induction =>
    rw [induction]
    have inside' : i < b.data.toList.length := by simpa using inside
    rw [List.drop_eq_getElem_cons inside']
    simp [ByteArray.get!, inside]
  | case2 i r outside =>
    have beyond : b.data.toList.length ≤ i := by simpa using outside
    simp [List.drop_eq_nil_of_le beyond]

theorem toList_eq (b : ByteArray) : b.toList = b.data.toList := by
  simp [ByteArray.toList, toList_loop]

/-- The bytes of ASCII characters, one each. -/
def asciiBytes (cs : List Char) : List UInt8 := cs.map fun c => c.val.toUInt8

theorem bytes_ofList_ascii (cs : List Char) (ascii : ∀ c ∈ cs, c.val ≤ 127) :
    bytes (String.ofList cs) = asciiBytes cs := by
  rw [bytes, String.toUTF8_eq_toByteArray, String.toByteArray_ofList, List.utf8Encode, toList_eq,
    List.toList_data_toByteArray]
  induction cs with
  | nil => rfl
  | cons c rest induction =>
    rw [List.flatMap_cons, String.utf8EncodeChar_eq_singleton
      (Char.utf8Size_eq_one_iff.mpr (ascii c List.mem_cons_self)),
      induction (fun d din => ascii d (List.mem_cons_of_mem c din))]
    rfl

theorem bytes_append (s t : String) : bytes (s ++ t) = bytes s ++ bytes t := by
  simp [bytes, toList_eq, String.toByteArray_append]

theorem bytes_dot : bytes "." = [46] := by
  have dot : "." = String.ofList ['.'] := by cbv
  rw [dot, bytes_ofList_ascii _ (by simp)]
  rfl

theorem isCarrier_ascii {c : Char} (ascii : c.val ≤ 127) : Surrogate.isCarrier c = false := by
  have low : c.toNat ≤ 127 := ascii
  unfold Surrogate.isCarrier Surrogate.carried?
  rw [if_neg]
  · rfl
  · simp only [Surrogate.base, Surrogate.first, Surrogate.last, Bool.and_eq_true]
    intro within
    have high := of_decide_eq_true within.1
    omega

end Jws

namespace Base64

open Jws

theorem urlSymbols_eq : urlSymbols = #['A', 'B', 'C', 'D', 'E', 'F', 'G', 'H', 'I', 'J', 'K', 'L',
    'M', 'N', 'O', 'P', 'Q', 'R', 'S', 'T', 'U', 'V', 'W', 'X', 'Y', 'Z', 'a', 'b', 'c', 'd', 'e',
    'f', 'g', 'h', 'i', 'j', 'k', 'l', 'm', 'n', 'o', 'p', 'q', 'r', 's', 't', 'u', 'v', 'w', 'x',
    'y', 'z', '0', '1', '2', '3', '4', '5', '6', '7', '8', '9', '-', '_'] := by
  cbv

theorem value?_symbol : ∀ v < 64, value? (symbol v).val.toUInt8 = some v := by
  unfold symbol
  rw [urlSymbols_eq]
  decide

/-- Every symbol is an ASCII character other than the dot and the pad. -/
theorem symbol_plain (v : Nat) :
    (symbol v).val ≤ 127 ∧ (symbol v).val.toUInt8 ≠ 46 ∧ (symbol v).val.toUInt8 ≠ 61 := by
  by_cases small : v < 64
  · revert v
    unfold symbol
    rw [urlSymbols_eq]
    decide
  · have outside : symbol v = 'A' := by
      simp [symbol, Array.getD, urlSymbols_eq, show ¬ v < 64 from small]
    rw [outside]
    decide

theorem run_symbol (r : Reader) {v : Nat} (small : v < 64) (rest : List UInt8) :
    run value? r ((symbol v).val.toUInt8 :: rest) = run value? (r.take v) rest := by
  have notPad : ¬ ((symbol v).val.toUInt8 == 61) = true := by
    simpa using (symbol_plain v).2.2
  rw [run, if_neg notPad, value?_symbol v small]

theorem run_triple (out : List UInt8) (a b c : UInt8) (rest tail : List UInt8) :
    run value? ⟨0, 0, 0, out⟩ (asciiBytes (encode (a :: b :: c :: rest)) ++ tail) =
      run value? ⟨0, 0, 0, c :: b :: a :: out⟩ (asciiBytes (encode rest) ++ tail) := by
  have ha := a.toNat_lt
  have hb := b.toNat_lt
  have hc := c.toNat_lt
  simp only [encode, asciiBytes, List.map_cons, List.cons_append]
  rw [run_symbol _ (by omega), run_symbol _ (by omega), run_symbol _ (by omega),
    run_symbol _ (by omega)]
  -- the four symbols give back the three bytes
  have first : (a.toNat * 65536 + b.toNat * 256 + c.toNat) / 262144 * 4 +
      (a.toNat * 65536 + b.toNat * 256 + c.toNat) / 4096 % 64 / 16 = a.toNat := by omega
  have second : (a.toNat * 65536 + b.toNat * 256 + c.toNat) / 4096 % 64 % 16 % 16 * 16 +
      (a.toNat * 65536 + b.toNat * 256 + c.toNat) / 64 % 64 / 4 = b.toNat := by omega
  have third : (a.toNat * 65536 + b.toNat * 256 + c.toNat) / 64 % 64 % 4 % 4 * 64 +
      (a.toNat * 65536 + b.toNat * 256 + c.toNat) % 64 = c.toNat := by omega
  simp only [Reader.take, first, second, third, UInt8.ofNat_toNat]

/-- Text padded with `=` to a multiple of four, as `decodeBytes` pads it. -/
def padded (bs : List UInt8) : List UInt8 :=
  if bs.length % 4 == 0 then bs else bs ++ List.replicate (4 - bs.length % 4) 61

theorem decodeBytes_eq_run (bs : List UInt8) : decodeBytes bs = run value? {} (padded bs) := rfl

theorem padded_append (front back : List UInt8) (four : front.length = 4) :
    padded (front ++ back) = front ++ padded back := by
  have shift : (front ++ back).length % 4 = back.length % 4 := by simp [four]
  unfold padded
  rw [shift]
  split <;> simp

theorem run_encode (out bs : List UInt8) :
    run value? ⟨0, 0, 0, out⟩ (padded (asciiBytes (encode bs))) = some (out.reverse ++ bs) := by
  induction bs using encode.induct generalizing out with
  | case1 => simp [encode, padded, asciiBytes, run]
  | case2 a =>
    -- one byte: two symbols and two pads
    have ha := a.toNat_lt
    have pad : ∀ x y : UInt8, padded [x, y] = [x, y, 61, 61] := fun _ _ => rfl
    simp only [encode, asciiBytes, List.map_cons, List.map_nil, pad]
    rw [run_symbol _ (show a.toNat / 4 < 64 by omega),
      run_symbol _ (show a.toNat % 4 * 16 < 64 by omega)]
    have first : a.toNat / 4 * 4 + a.toNat % 4 * 16 / 16 = a.toNat := by omega
    simp only [Reader.take, first, UInt8.ofNat_toNat]
    show some (a :: out).reverse = _
    simp
  | case3 a b =>
    -- two bytes: three symbols and one pad
    have ha := a.toNat_lt
    have hb := b.toNat_lt
    have pad : ∀ x y z : UInt8, padded [x, y, z] = [x, y, z, 61] := fun _ _ _ => rfl
    simp only [encode, asciiBytes, List.map_cons, List.map_nil, pad]
    rw [run_symbol _ (show (a.toNat * 256 + b.toNat) / 1024 < 64 by omega),
      run_symbol _ (show (a.toNat * 256 + b.toNat) / 16 % 64 < 64 by omega),
      run_symbol _ (show (a.toNat * 256 + b.toNat) % 16 * 4 < 64 by omega)]
    have first : (a.toNat * 256 + b.toNat) / 1024 * 4 + (a.toNat * 256 + b.toNat) / 16 % 64 / 16 =
        a.toNat := by omega
    have second : (a.toNat * 256 + b.toNat) / 16 % 64 % 16 % 16 * 16 +
        (a.toNat * 256 + b.toNat) % 16 * 4 / 4 = b.toNat := by omega
    simp only [Reader.take, first, second, UInt8.ofNat_toNat]
    show some (b :: a :: out).reverse = _
    simp
  | case4 a b c rest induction =>
    have four : (asciiBytes (encode [a, b, c])).length = 4 := rfl
    have split : asciiBytes (encode (a :: b :: c :: rest)) =
        asciiBytes (encode [a, b, c]) ++ asciiBytes (encode rest) := by
      simp [encode, asciiBytes]
    rw [split, padded_append _ _ four, run_triple out a b c [] (padded (asciiBytes (encode rest)))]
    rw [show asciiBytes (encode []) = [] from rfl, List.nil_append, induction]
    simp

/-- Unpadded base64url text decodes back to the bytes it was written from. -/
theorem decodeBytes_encode (bs : List UInt8) : decodeBytes (asciiBytes (encode bs)) = some bs := by
  rw [decodeBytes_eq_run]
  simpa using run_encode [] bs

theorem mem_encode {c : Char} {bs : List UInt8} (member : c ∈ encode bs) : ∃ v, c = symbol v := by
  induction bs using encode.induct with
  | case1 => cases member
  | case2 a => simp [encode] at member; rcases member with rfl | rfl <;> exact ⟨_, rfl⟩
  | case3 a b => simp [encode] at member; rcases member with rfl | rfl | rfl <;> exact ⟨_, rfl⟩
  | case4 a b c rest induction =>
    simp only [encode, List.mem_cons] at member
    rcases member with rfl | rfl | rfl | rfl | later
    any_goals exact ⟨_, rfl⟩
    exact induction later

theorem bytes_encodeText (bs : List UInt8) : bytes (encodeText bs) = asciiBytes (encode bs) := by
  apply bytes_ofList_ascii
  intro c member
  obtain ⟨v, rfl⟩ := mem_encode member
  exact (symbol_plain v).1

theorem dot_not_mem_encode (bs : List UInt8) : (46 : UInt8) ∉ asciiBytes (encode bs) := by
  intro member
  obtain ⟨c, cin, byte⟩ := List.mem_map.mp member
  obtain ⟨v, rfl⟩ := mem_encode cin
  exact (symbol_plain v).2.1 byte

end Base64

namespace Jws

open Base64

theorem idxOf?_append_cons {sep : UInt8} {front back : List UInt8} (absent : sep ∉ front) :
    (front ++ sep :: back).idxOf? sep = some front.length := by
  induction front with
  | nil => simp [List.idxOf?_cons]
  | cons x rest induction =>
    have differ : x ≠ sep := fun same => absent (same ▸ List.mem_cons_self)
    rw [List.cons_append, List.idxOf?_cons, induction (fun m => absent (List.mem_cons_of_mem x m))]
    simp [differ]

theorem splitFirst_append {sep : UInt8} {front back : List UInt8} (absent : sep ∉ front) :
    splitFirst sep (front ++ sep :: back) = some (front, back) := by
  simp [splitFirst, idxOf?_append_cons absent]

theorem splitLast_append {sep : UInt8} {front back : List UInt8} (absent : sep ∉ back) :
    splitLast sep (front ++ sep :: back) = some (front, back) := by
  have flipped : (front ++ sep :: back).reverse = back.reverse ++ sep :: front.reverse := by simp
  have absent' : sep ∉ back.reverse := by simpa using absent
  simp [splitLast, flipped, splitFirst_append absent']

/-- The text of a token of three segments, each the base64url text of bytes. -/
def segments (h p s : List UInt8) : String :=
  encodeText h ++ "." ++ encodeText p ++ "." ++ encodeText s

/-- The bytes a signature covers: the first two segments and the dot between them. -/
def signingBytes (h p : List UInt8) : List UInt8 :=
  asciiBytes (encode h) ++ 46 :: asciiBytes (encode p)

theorem segments_eq (h p s : List UInt8) :
    segments h p s = String.ofList (encode h ++ '.' :: (encode p ++ '.' :: encode s)) := by
  have dot : "." = String.ofList ['.'] := by cbv
  rw [segments, encodeText, encodeText, encodeText, dot]
  simp only [← String.ofList_append, List.append_assoc, List.cons_append, List.nil_append]

theorem utf8?_segments (h p s : List UInt8) :
    Surrogate.utf8? (segments h p s) = some (signingBytes h p ++ 46 :: asciiBytes (encode s)) := by
  have plain : ∀ c ∈ encode h ++ '.' :: (encode p ++ '.' :: encode s), c.val ≤ 127 := by
    intro c member
    simp only [List.mem_append, List.mem_cons] at member
    rcases member with inH | rfl | inP | rfl | inS
    · obtain ⟨v, rfl⟩ := mem_encode inH
      exact (symbol_plain v).1
    · decide
    · obtain ⟨v, rfl⟩ := mem_encode inP
      exact (symbol_plain v).1
    · decide
    · obtain ⟨v, rfl⟩ := mem_encode inS
      exact (symbol_plain v).1
  have noCarrier : Surrogate.carries (segments h p s) = false := by
    rw [segments_eq]
    simp only [Surrogate.carries, String.toList_ofList, List.any_eq_false]
    intro c member
    simp [isCarrier_ascii (plain c member)]
  rw [Surrogate.utf8?, noCarrier, if_neg Bool.false_ne_true]
  show some (bytes (segments h p s)) = _
  rw [segments_eq, bytes_ofList_ascii _ plain]
  simp [asciiBytes, signingBytes]
  rfl

/-- A token of three segments comes apart into them; a header too deep to read is the one fault. -/
theorem pieces_segments (h p s : List UInt8) :
    pieces (segments h p s) = (readJson h).map fun doc =>
      (doc.bind Datum.entries?).map fun header => ⟨header, p, signingBytes h p, s⟩ := by
  have last : splitLast 46 (signingBytes h p ++ 46 :: asciiBytes (encode s)) =
      some (signingBytes h p, asciiBytes (encode s)) :=
    splitLast_append (dot_not_mem_encode s)
  have first : splitFirst 46 (signingBytes h p) = some (asciiBytes (encode h),
      asciiBytes (encode p)) :=
    splitFirst_append (dot_not_mem_encode h)
  rw [pieces, utf8?_segments]
  simp only [last, first, decodeBytes_encode]
  congr 1
  funext doc
  cases doc.bind Datum.entries? <;> rfl

theorem bytes_signingInput (h p : List UInt8) :
    bytes (encodeText h ++ "." ++ encodeText p) = signingBytes h p := by
  rw [bytes_append, bytes_append, bytes_encodeText, bytes_encodeText, bytes_dot]
  simp [signingBytes]

/-- A keyed-hash signature is the header and payload segments and their keyed hash. -/
theorem sign_eq {algorithm secret : String} {alg : Algorithm} {payload : Datum}
    (named : Algorithm.ofName? algorithm = some alg) (short : payload.hasLongInt = false)
    (usable : (Surrogate.carries secret || isAsymmetric (bytes secret)) = false) :
    sign algorithm secret payload =
      let h := bytes (headerText alg)
      let p := bytes (Json.render true payload)
      .ok (segments h p (alg.digest.hmac (bytes secret) (signingBytes h p))) := by
  simp only [sign, named, short, usable, Bool.false_eq_true, if_false, bytes_signingInput]
  rfl

/-- What signing produced is such a token, under the algorithm the name gives. -/
theorem eq_segments_of_sign {algorithm secret : String} {payload : Datum} {token : String}
    (signed : sign algorithm secret payload = .ok token) :
    ∃ alg, Algorithm.ofName? algorithm = some alg ∧
      token = segments (bytes (headerText alg)) (bytes (Json.render true payload))
        (alg.digest.hmac (bytes secret)
          (signingBytes (bytes (headerText alg)) (bytes (Json.render true payload)))) := by
  cases named : Algorithm.ofName? algorithm with
  | none => simp [sign, named] at signed
  | some alg =>
    refine ⟨alg, rfl, ?_⟩
    cases short : payload.hasLongInt
    · cases usable : (Surrogate.carries secret || isAsymmetric (bytes secret))
      · rw [sign_eq named short usable] at signed
        exact (Except.ok.inj signed).symm
      · simp [sign, named, short, usable] at signed
    · simp [sign, named, short] at signed

end Jws

end TenantAuth
