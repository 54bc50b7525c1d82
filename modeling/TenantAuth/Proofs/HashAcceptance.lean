import Mathlib
import TenantAuth.Password

/-!
# Password hashes accept their passwords

A hash text is `$`, a version, `$`, two digits of cost, `$`, then a salt and a digest written in
the hash alphabet. Writing bytes in that alphabet and reading them back is the identity
(`Bcrypt.decode_encode`), so the setting read from a hash text is the one it was written with
(`Bcrypt.setting?_format`), and a hash made from a password accepts that password
(`Bcrypt.accepts_hash`). As stored hashes go, such a text is also well-formed and carries no
surrogate, so a password check against it succeeds (`Password.verify_hash`) whatever the digest,
which no proof here computes.
-/

namespace TenantAuth

namespace Bcrypt

/-! ### Bits and their values -/

/-- A value as a field of `n` bits, most significant first: how `bits` spells out a byte and
`decode` a symbol. -/
def field (n v : Nat) : List Bool :=
  (List.range n).reverse.map fun i => v / Nat.pow 2 i % 2 == 1

theorem field_eq_testBit (n v : Nat) : field n v = (List.range n).reverse.map v.testBit := by
  unfold field
  congr 1
  funext i
  simp [Nat.testBit_eq_decide_div_mod_eq, Bool.beq_eq_decide_eq]

theorem length_field (n v : Nat) : (field n v).length = n := by
  simp [field]

theorem field_succ (n v : Nat) : field (n + 1) v = v.testBit n :: field n v := by
  simp [field_eq_testBit, List.range_succ]

theorem field_mod (n v : Nat) : field n (v % 2 ^ n) = field n v := by
  rw [field_eq_testBit, field_eq_testBit]
  apply List.map_congr_left
  intro i member
  simp only [List.mem_reverse, List.mem_range] at member
  simp [Nat.testBit_mod_two_pow, member]

theorem foldl_bitsValue (n : Nat) (l : List Bool) :
    l.foldl (fun n b => 2 * n + (if b then 1 else 0)) n = n * 2 ^ l.length + bitsValue l := by
  induction l generalizing n with
  | nil => simp [bitsValue]
  | cons b l ih =>
    simp only [bitsValue, List.foldl_cons, List.length_cons] at ih ⊢
    rw [ih, ih (2 * 0 + _)]
    ring

theorem bitsValue_append (l l' : List Bool) :
    bitsValue (l ++ l') = bitsValue l * 2 ^ l'.length + bitsValue l' := by
  rw [bitsValue, List.foldl_append, foldl_bitsValue]
  rfl

theorem bitsValue_cons (b : Bool) (l : List Bool) :
    bitsValue (b :: l) = 2 ^ l.length * (if b then 1 else 0) + bitsValue l := by
  rw [← List.singleton_append, bitsValue_append, mul_comm]
  cases b <;> rfl

theorem bitsValue_lt (l : List Bool) : bitsValue l < 2 ^ l.length := by
  induction l with
  | nil => simp [bitsValue]
  | cons b l ih =>
    rw [bitsValue_cons, List.length_cons, pow_succ]
    split <;> omega

theorem bitsValue_append_zeros (l : List Bool) (k : Nat) :
    bitsValue (l ++ List.replicate k false) = bitsValue l * Nat.pow 2 k := by
  have zeros : bitsValue (List.replicate k false) = 0 := by
    induction k with
    | zero => rfl
    | succ k ih => simp [List.replicate_succ, bitsValue_cons, ih]
  simp [bitsValue_append, zeros]

theorem bitsValue_field (n v : Nat) : bitsValue (field n v) = v % 2 ^ n := by
  induction n with
  | zero => simp [field, bitsValue, Nat.mod_one]
  | succ n ih =>
    rw [field_succ, bitsValue_cons, length_field, ih, Nat.mod_pow_succ,
      Nat.testBit_eq_decide_div_mod_eq]
    rcases Nat.mod_two_eq_zero_or_one (v / 2 ^ n) with zero | one
    · simp [zero]
    · simp [one]
      ring

theorem field_bitsValue (l : List Bool) : field l.length (bitsValue l) = l := by
  induction l with
  | nil => rfl
  | cons b l ih =>
    have low := bitsValue_lt l
    -- the first bit is the one above the rest, and the rest is read below `2 ^ l.length`
    rw [List.length_cons, field_succ, bitsValue_cons, Nat.testBit_two_pow_mul_add _ low,
      ← field_mod, Nat.mul_add_mod, Nat.mod_eq_of_lt low, ih]
    cases b <;> simp

theorem field_bitsValue_of_length {l : List Bool} {n : Nat} (width : l.length = n) :
    field n (bitsValue l) = l :=
  width ▸ field_bitsValue l

/-! ### Bytes as bits and bits as symbols -/

theorem bits_eq (bs : List UInt8) : bits bs = bs.flatMap fun b => field 8 b.toNat := rfl

theorem length_bits (bs : List UInt8) : (bits bs).length = 8 * bs.length := by
  induction bs with
  | nil => rfl
  | cons b bs ih =>
    simp only [bits_eq, List.flatMap_cons, List.length_append, length_field] at ih ⊢
    rw [ih, List.length_cons]
    ring

theorem octets_bits_append (bs : List UInt8) {pad : List Bool} (short : pad.length < 8) :
    octets (bits bs ++ pad) = bs := by
  induction bs with
  | nil =>
    rw [octets]
    simp [bits, short]
  | cons b bs ih =>
    have split : bits (b :: bs) ++ pad = field 8 b.toNat ++ (bits bs ++ pad) := by
      simp [bits_eq]
    rw [octets, split, dif_neg (by simp [length_field]), List.take_left' (length_field _ _),
      List.drop_left' (length_field _ _), ih, bitsValue_field, Nat.mod_eq_of_lt b.toNat_lt,
      UInt8.ofNat_toNat]

theorem flatMap_field_sextets (l : List Bool) :
    ∃ pad : List Bool, pad.length < 6 ∧ (sextets l).flatMap (field 6) = l ++ pad := by
  fun_induction sextets l with
  | case1 l short empty => exact ⟨[], by simp, by simp_all⟩
  | case2 l short nonempty =>
    -- the last group is filled up with zeros to six bits
    have width : (l ++ List.replicate (6 - l.length) false).length = 6 := by simp; omega
    have occupied : 0 < l.length := by simpa [List.length_pos_iff] using nonempty
    refine ⟨List.replicate (6 - l.length) false, by simp; omega, ?_⟩
    rw [List.flatMap_singleton, ← bitsValue_append_zeros, field_bitsValue_of_length width]
  | case3 l long ih =>
    obtain ⟨pad, short, spelled⟩ := ih
    have width : (l.take 6).length = 6 := by simp; omega
    refine ⟨pad, short, ?_⟩
    rw [List.flatMap_cons, spelled, field_bitsValue_of_length width, ← List.append_assoc,
      List.take_append_drop]

theorem lt_of_mem_sextets {l : List Bool} {v : Nat} (member : v ∈ sextets l) : v < 64 := by
  fun_induction sextets l with
  | case1 => simp_all
  | case2 l short nonempty =>
    have width : (l ++ List.replicate (6 - l.length) false).length = 6 := by simp; omega
    have bound := bitsValue_lt (l ++ List.replicate (6 - l.length) false)
    rw [width] at bound
    rw [List.mem_singleton.mp member, ← bitsValue_append_zeros]
    exact bound
  | case3 l long ih =>
    rcases List.mem_cons.mp member with first | later
    · have width : (l.take 6).length = 6 := by simp; omega
      have bound := bitsValue_lt (l.take 6)
      rw [width] at bound
      exact first ▸ bound
    · exact ih later

theorem length_sextets (l : List Bool) : (sextets l).length = (l.length + 5) / 6 := by
  fun_induction sextets l with
  | case1 l short empty => simp_all
  | case2 l short nonempty =>
    have occupied : 0 < l.length := by simpa [List.length_pos_iff] using nonempty
    simp only [List.length_singleton]
    omega
  | case3 l long ih =>
    simp only [List.length_cons, ih, List.length_drop]
    omega

/-! ### The hash alphabet -/

theorem symbol_table : ∀ v, v < 64 →
    symbolValue? (symbols.getD v '.') = some v ∧ (symbols.getD v '.').toNat < 128 ∧
      symbols.getD v '.' ≠ '$' := by
  decide +kernel

theorem mapM_symbolValue? {vs : List Nat} (small : ∀ v ∈ vs, v < 64) :
    (vs.map fun v => symbols.getD v '.').mapM symbolValue? = some vs := by
  induction vs with
  | nil => rfl
  | cons v vs ih =>
    have head := (symbol_table v (small v (by simp))).1
    rw [List.map_cons, List.mapM_cons, head, ih fun w member => small w (by simp [member])]
    rfl

theorem toList_encode (bs : List UInt8) :
    (encode bs).toList = (sextets (bits bs)).map fun v => symbols.getD v '.' := by
  simp [encode]

theorem decode_encode (bs : List UInt8) : decode bs.length (encode bs) = some bs := by
  obtain ⟨pad, short, spelled⟩ := flatMap_field_sextets (bits bs)
  have values := mapM_symbolValue? fun v member => lt_of_mem_sextets (l := bits bs) member
  have bytes : octets ((sextets (bits bs)).flatMap (field 6)) = bs := by
    rw [spelled, octets_bits_append bs (by omega)]
  have spelledOut : (sextets (bits bs)).flatMap
      (fun v => (List.range 6).reverse.map fun i => v / Nat.pow 2 i % 2 == 1) =
        (sextets (bits bs)).flatMap (field 6) := rfl
  simp only [decode, toList_encode, values, Option.bind_eq_bind, Option.bind_some]
  rw [spelledOut, bytes]
  simp

theorem length_encode (bs : List UInt8) : (encode bs).length = (8 * bs.length + 5) / 6 := by
  simp [← String.length_toList, toList_encode, length_sextets, length_bits]

theorem mem_encode {c : Char} {bs : List UInt8} (member : c ∈ (encode bs).toList) :
    ∃ v, v < 64 ∧ c = symbols.getD v '.' := by
  rw [toList_encode, List.mem_map] at member
  obtain ⟨v, sextet, rfl⟩ := member
  exact ⟨v, lt_of_mem_sextets sextet, rfl⟩

/-! ### Hash texts -/

theorem ofTag?_tag (v : Version) : Version.ofTag? v.tag = some v := by
  cases v <;> rfl

theorem toList_tag (v : Version) :
    ∃ t1 t2, v.tag.toList = [t1, t2] ∧ t1.toNat < 128 ∧ t2.toNat < 128 := by
  cases v <;> exact ⟨_, _, rfl, by decide, by decide⟩

theorem digit_char : ∀ k, k < 10 →
    (Char.ofNat (48 + k)).isDigit = true ∧ (Char.ofNat (48 + k)).toNat = 48 + k := by
  decide

/-- A valid cost is written as two decimal digits. -/
theorem toList_costText {c : Nat} (valid : validCost c = true) :
    (costText c).toList = [Char.ofNat (48 + c / 10), Char.ofNat (48 + c % 10)] := by
  have written : ∀ c, c < 32 → 4 ≤ c →
      (costText c).toList = [Char.ofNat (48 + c / 10), Char.ofNat (48 + c % 10)] := by
    decide
  simp only [validCost, Bool.and_eq_true, decide_eq_true_eq] at valid
  exact written c (by omega) valid.1

theorem toList_format (v : Version) (c : Nat) (salt d : List UInt8) :
    (format v c salt d).toList = '$' :: v.tag.toList ++ '$' :: (costText c).toList ++
      '$' :: ((encode salt).toList ++ (encode d).toList) := by
  simp [format]

theorem length_format (v : Version) {c : Nat} (valid : validCost c = true) {salt d : List UInt8}
    (saltLength : salt.length = 16) (digestLength : d.length = 23) :
    (format v c salt d).length = 60 := by
  obtain ⟨t1, t2, tagged, -, -⟩ := toList_tag v
  have saltText := length_encode salt
  have digestText := length_encode d
  rw [saltLength] at saltText
  rw [digestLength] at digestText
  rw [← String.length_toList, toList_format, tagged, toList_costText valid]
  simp [String.length_toList, saltText, digestText]

theorem prefix_format (v : Version) (c : Nat) (salt d : List UInt8) :
    (format v c salt d).startsWith ("$" ++ v.tag ++ "$") = true := by
  rw [String.startsWith_string_iff, toList_format]
  simp

theorem ascii_format (v : Version) {c : Nat} (valid : validCost c = true) (salt d : List UInt8) :
    ∀ ch ∈ (format v c salt d).toList, ch.toNat < 128 := by
  obtain ⟨t1, t2, tagged, low1, low2⟩ := toList_tag v
  have bounded : c ≤ 31 := by simp [validCost] at valid; omega
  have tens := digit_char (c / 10) (by omega)
  have ones := digit_char (c % 10) (by omega)
  have symbol : ∀ bs : List UInt8, ∀ ch ∈ (encode bs).toList, ch.toNat < 128 := by
    intro bs ch member
    obtain ⟨x, small, rfl⟩ := mem_encode member
    exact (symbol_table x small).2.1
  rw [toList_format, tagged, toList_costText valid]
  simp only [List.forall_mem_cons, List.forall_mem_append, List.cons_append, List.nil_append]
  refine ⟨by decide, low1, low2, by decide, ?_, ?_, by decide, symbol salt, symbol d⟩
  · rw [tens.2]
    omega
  · rw [ones.2]
    omega

theorem setting?_format (v : Version) {c : Nat} (valid : validCost c = true)
    {salt d : List UInt8} (saltLength : salt.length = 16) (digestLength : d.length = 23) :
    setting? (format v c salt d) = some (v, c, salt) := by
  obtain ⟨t1, t2, tagged, -, -⟩ := toList_tag v
  have bounded : c ≤ 31 := by simp [validCost] at valid; omega
  have tens := digit_char (c / 10) (by omega)
  have ones := digit_char (c % 10) (by omega)
  have cost : c / 10 * 10 + c % 10 = c := Nat.div_add_mod' c 10
  have saltText : (encode salt).toList.length = 22 := by
    rw [String.length_toList, length_encode, saltLength]
  have digestText : (encode d).toList.length = 31 := by
    rw [String.length_toList, length_encode, digestLength]
  have tag : String.ofList [t1, t2] = v.tag := by rw [← tagged, String.ofList_toList]
  have salted : decode 16 (encode salt) = some salt := saltLength ▸ decode_encode salt
  -- the first seven characters are fixed; the salt's 22 symbols follow them
  have spelled : (format v c salt d).toList = '$' :: t1 :: t2 :: '$' ::
      Char.ofNat (48 + c / 10) :: Char.ofNat (48 + c % 10) :: '$' ::
        ((encode salt).toList ++ (encode d).toList) := by
    simp [toList_format, tagged, toList_costText valid]
  unfold setting?
  rw [spelled]
  simp [saltText, digestText, tag, ofTag?_tag, Option.filter_some, tens.1, tens.2, ones.1,
    ones.2, cost, valid, salted]

theorem length_digest (c : Nat) (salt key : List UInt8) : (digest c salt key).length = 23 := by
  simp [digest, magic, wordBytes]

theorem accepts_hash (v : Version) {c : Nat} (valid : validCost c = true) {salt : List UInt8}
    (saltLength : salt.length = 16) (password : List UInt8) :
    accepts password (hash v c salt password) = true := by
  have made : hash v c salt password = format v c salt (digest c salt (key password)) := rfl
  rw [accepts, made, setting?_format v valid saltLength (length_digest _ _ _)]
  simp [made]

end Bcrypt

namespace Surrogate

theorem isCarrier_of_ascii {c : Char} (ascii : c.toNat < 128) : isCarrier c = false := by
  have outside : ¬ base + first ≤ c.toNat := by
    simp only [base, first]
    omega
  simp [isCarrier, carried?, outside]

end Surrogate

namespace Password

open Bcrypt

theorem isValid_hash (v : Version) {c : Nat} (valid : validCost c = true) {salt : List UInt8}
    (saltLength : salt.length = 16) (password : List UInt8) :
    isValid (.str (Bcrypt.hash v c salt password)) = true := by
  have sixty := length_format v valid saltLength (length_digest c salt (key password))
  have listed : ("$" ++ v.tag ++ "$") ∈ prefixes := by cases v <;> decide
  have starts := prefix_format v c salt (digest c salt (key password))
  have filled : (format v c salt (digest c salt (key password))).isEmpty = false := by
    rw [Bool.eq_false_iff]
    intro empty
    rw [String.isEmpty_iff] at empty
    simp [empty] at sixty
  have prefixed : (prefixes.any fun p =>
      (format v c salt (digest c salt (key password))).startsWith p) = true :=
    List.any_eq_true.mpr ⟨_, listed, starts⟩
  simp only [isValid, Bcrypt.hash, sixty, filled, prefixed]
  rfl

theorem carries_hash (v : Version) {c : Nat} (valid : validCost c = true)
    (salt password : List UInt8) : Surrogate.carries (Bcrypt.hash v c salt password) = false := by
  rw [Surrogate.carries, List.any_eq_false]
  intro ch member
  simp [Surrogate.isCarrier_of_ascii (ascii_format v valid salt _ ch member)]

/-- A password is accepted by a hash made from its bytes with a valid cost and a 16-byte salt. -/
theorem verify_hash {password : String} {bytes : List UInt8}
    (encoded : bytesOf (.str password) = .ok bytes) (short : bytes.length ≤ maxBytes)
    (v : Version) {c : Nat} (valid : validCost c = true) {salt : List UInt8}
    (saltLength : salt.length = 16) :
    verify (.str password) (.str (Bcrypt.hash v c salt bytes)) = .ok true := by
  simp [verify, isValid_hash v valid saltLength, encoded, carries_hash v valid, short,
    accepts_hash v valid saltLength]

end Password

end TenantAuth
