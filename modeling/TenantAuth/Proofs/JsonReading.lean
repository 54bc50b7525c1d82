import Mathlib
import TenantAuth.Datum.Json

/-!
# Reading back written JSON

`Json.render true` writes ASCII JSON, and this file shows that `Json.parse` reads it back: text by
`readText_escapes`, integers by `readNumber_toString`, and records of distinct plain names with
scalar values by `parse_render_record`. The one change is the reader's pairing of a carried high
surrogate written directly before a carried low one (`pairUp`), so text with no such split pair
comes back as itself.
-/

namespace TenantAuth

namespace Json

/-! ## Hexadecimal digits -/

theorem hexValue?_digitChar : ∀ d < 16, hexValue? (Nat.digitChar d) = some d := by
  decide

theorem hex_four (n : Nat) (small : n < 0x10000) :
    (Quote.hex 4 n).toList =
      [Nat.digitChar (n / 4096), Nat.digitChar (n / 256 % 16), Nat.digitChar (n / 16 % 16),
        Nat.digitChar (n % 16)] := by
  have base : 1 < 16 := by decide
  have zero : Nat.digitChar 0 = '0' := rfl
  unfold Quote.hex
  rw [String.toList_ofList]
  by_cases one : n < 16
  · rw [Nat.toDigits_of_lt_base one]
    have digits : n / 4096 = 0 ∧ n / 256 % 16 = 0 ∧ n / 16 % 16 = 0 ∧ n % 16 = n := by omega
    simp [digits, zero]
  by_cases two : n < 256
  · rw [Nat.toDigits_of_base_le base (by omega), Nat.toDigits_of_lt_base (show n / 16 < 16 by omega)]
    have digits : n / 4096 = 0 ∧ n / 256 % 16 = 0 ∧ n / 16 % 16 = n / 16 := by omega
    simp [digits, zero]
  by_cases three : n < 4096
  · rw [Nat.toDigits_of_base_le base (by omega), Nat.toDigits_of_base_le base (by omega),
      Nat.toDigits_of_lt_base (show n / 16 / 16 < 16 by omega)]
    have digits : n / 4096 = 0 ∧ n / 256 % 16 = n / 16 / 16 ∧ n / 16 % 16 = n / 16 % 16 := by omega
    simp [digits, zero]
  · rw [Nat.toDigits_of_base_le base (by omega), Nat.toDigits_of_base_le base (by omega),
      Nat.toDigits_of_base_le base (by omega),
      Nat.toDigits_of_lt_base (show n / 16 / 16 / 16 < 16 by omega)]
    have digits : n / 4096 = n / 16 / 16 / 16 ∧ n / 256 % 16 = n / 16 / 16 % 16 := by omega
    simp [digits]

theorem hex4?_hex (n : Nat) (small : n < 0x10000) (rest : List Char) :
    hex4? ((Quote.hex 4 n).toList ++ rest) = some (n, rest) := by
  rw [hex_four n small]
  simp only [List.cons_append, List.nil_append, hex4?]
  rw [hexValue?_digitChar _ (by omega), hexValue?_digitChar _ (by omega),
    hexValue?_digitChar _ (by omega), hexValue?_digitChar _ (by omega)]
  have whole : ((n / 4096 * 16 + n / 256 % 16) * 16 + n / 16 % 16) * 16 + n % 16 = n := by omega
  simp [whole]

/-! ## Surrogates, and how a reader pairs them -/

/-- Whether a code unit is a high surrogate, the first of a pair. -/
def isHigh (unit : Nat) : Bool := 0xD800 ≤ unit && unit ≤ 0xDBFF

/-- Whether a code unit is a low surrogate, the second of a pair. -/
def isLow (unit : Nat) : Bool := 0xDC00 ≤ unit && unit ≤ 0xDFFF

/-- The character a high and a low surrogate stand for together. -/
def joined (high low : Nat) : Char :=
  Char.ofNat (0x10000 + (high - 0xD800) * 0x400 + (low - 0xDC00))

/-- The character a `\u` escape stands for when it is read on its own. -/
def lone (unit : Nat) : Char :=
  if Surrogate.isSurrogate unit then Surrogate.carrier unit else Char.ofNat unit

/-- The character two characters come back as from their escapes when they do not come back
as themselves: a carried high surrogate and a carried low one join. -/
def pairsWith? (c d : Char) : Option Char :=
  match Surrogate.carried? c, Surrogate.carried? d with
  | some high, some low => if isHigh high && isLow low then some (joined high low) else none
  | _, _ => none

/-- Text as a reader gives it back from its escapes: each carried high surrogate directly
followed by a carried low one becomes the character the pair stands for. -/
def pairUp : List Char → List Char
  | c :: rest@(d :: more) =>
    match pairsWith? c d with
    | some j => j :: pairUp more
    | none => c :: pairUp rest
  | cs => cs

example : pairUp [Surrogate.carrier 0xD83D, Surrogate.carrier 0xDE00] = ['😀'] := by cbv

/-- Whether text holds a carried high surrogate directly followed by a carried low one: the one
place where reading back the JSON text of text does not give the text itself. -/
def splitPair : List Char → Bool
  | c :: rest@(d :: _) => (pairsWith? c d).isSome || splitPair rest
  | _ => false

theorem carried?_bounds {c : Char} {unit : Nat} (carried : Surrogate.carried? c = some unit) :
    0xD800 ≤ unit ∧ unit ≤ 0xDFFF ∧ c.toNat = 0xF0000 + unit := by
  unfold Surrogate.carried? at carried
  split at carried
  · next within =>
    simp only [Surrogate.base, Surrogate.first, Surrogate.last, Bool.and_eq_true] at within
    have lower := of_decide_eq_true within.1
    have upper := of_decide_eq_true within.2
    have code := Option.some.inj carried
    simp only [Surrogate.base] at code
    omega
  · cases carried

theorem lone_of_carried? {c : Char} {unit : Nat} (carried : Surrogate.carried? c = some unit) :
    lone unit = c := by
  obtain ⟨low, high, code⟩ := carried?_bounds carried
  have surrogate : Surrogate.isSurrogate unit = true := by
    simp [Surrogate.isSurrogate, Surrogate.first, Surrogate.last, low, high]
  rw [lone, if_pos surrogate, Surrogate.carrier, Surrogate.base, ← code, Char.ofNat_toNat]

theorem lone_of_not_surrogate {n : Nat} (plain : Surrogate.isSurrogate n = false) :
    lone n = Char.ofNat n := by
  rw [lone, if_neg (by simp [plain])]

theorem isSurrogate_toNat (c : Char) : Surrogate.isSurrogate c.toNat = false := by
  have valid := c.valid
  simp only [Surrogate.isSurrogate, Surrogate.first, Surrogate.last, Bool.and_eq_false_iff]
  rcases valid with below | ⟨above, _⟩
  · left
    exact decide_eq_false (Nat.not_le.mpr below)
  · right
    exact decide_eq_false (Nat.not_le.mpr above)

theorem isHigh_bounds {n : Nat} (high : isHigh n = true) : 0xD800 ≤ n ∧ n ≤ 0xDBFF := by
  simp only [isHigh, Bool.and_eq_true] at high
  exact ⟨of_decide_eq_true high.1, of_decide_eq_true high.2⟩

theorem isSurrogate_of_isHigh {n : Nat} (high : isHigh n = true) :
    Surrogate.isSurrogate n = true := by
  obtain ⟨lower, upper⟩ := isHigh_bounds high
  simp only [Surrogate.isSurrogate, Surrogate.first, Surrogate.last, Bool.and_eq_true]
  exact ⟨decide_eq_true lower, decide_eq_true (by omega)⟩

theorem isLow_bounds {n : Nat} (low : isLow n = true) : 0xDC00 ≤ n ∧ n ≤ 0xDFFF := by
  simp only [isLow, Bool.and_eq_true] at low
  exact ⟨of_decide_eq_true low.1, of_decide_eq_true low.2⟩

theorem isSurrogate_of_isLow {n : Nat} (low : isLow n = true) :
    Surrogate.isSurrogate n = true := by
  obtain ⟨lower, upper⟩ := isLow_bounds low
  simp only [Surrogate.isSurrogate, Surrogate.first, Surrogate.last, Bool.and_eq_true]
  exact ⟨decide_eq_true (by omega), decide_eq_true upper⟩

theorem isLow_of_isHigh {n : Nat} (high : isHigh n = true) : isLow n = false := by
  obtain ⟨_, upper⟩ := isHigh_bounds high
  simp only [isLow, Bool.and_eq_false_iff]
  exact Or.inl (decide_eq_false (by omega))

theorem pairsWith?_eq_some {c d j : Char} (pair : pairsWith? c d = some j) :
    ∃ high low, Surrogate.carried? c = some high ∧ Surrogate.carried? d = some low ∧
      isHigh high = true ∧ isLow low = true ∧ joined high low = j := by
  unfold pairsWith? at pair
  split at pair
  · next high low carriedC carriedD =>
    split at pair
    · next both =>
      rw [Bool.and_eq_true] at both
      exact ⟨high, low, carriedC, carriedD, both.1, both.2, Option.some.inj pair⟩
    · cases pair
  · cases pair

theorem pairUp_eq_self {cs : List Char} (unsplit : splitPair cs = false) : pairUp cs = cs := by
  fun_induction pairUp cs with
  | case1 c d more j pair _ =>
    simp [splitPair, pair] at unsplit
  | case2 c d more alone induction =>
    simp only [splitPair, alone, Option.isSome_none, Bool.false_or] at unsplit
    rw [induction unsplit]
  | case3 cs _ => rfl

/-- Text that carries no surrogate has no split pair. -/
theorem splitPair_of_uncarried {cs : List Char}
    (uncarried : ∀ c ∈ cs, Surrogate.carried? c = none) : splitPair cs = false := by
  induction cs with
  | nil => simp [splitPair]
  | cons c rest induction =>
    cases rest with
    | nil => simp [splitPair]
    | cons d more =>
      have alone : pairsWith? c d = none := by
        simp [pairsWith?, uncarried c List.mem_cons_self]
      rw [splitPair, alone, Option.isSome_none, Bool.false_or]
      exact induction (fun x member => uncarried x (List.mem_cons_of_mem c member))

theorem pairUp_eq_nil {cs : List Char} : pairUp cs = [] ↔ cs = [] := by
  fun_induction pairUp cs <;> simp_all

/-! ## The escapes of the ASCII writer -/

/-- The shapes the ASCII-only escape of a character takes. -/
inductive Escaped : Char → List Char → Prop
  /-- A backslash and a letter. -/
  | short {c e : Char} : shortEscape? e = some c → e ≠ 'u' → Escaped c ['\\', e]
  /-- One `\u` escape of a code unit, read on its own. -/
  | unit {c : Char} {n : Nat} : n < 0x10000 → lone n = c →
      (Surrogate.isSurrogate n = true → Surrogate.carried? c = some n) →
      Escaped c ('\\' :: 'u' :: (Quote.hex 4 n).toList)
  /-- A surrogate pair of `\u` escapes, for a character above the basic plane. -/
  | pair {c : Char} {v : Nat} : v < 0x100000 → joined (0xD800 + v / 0x400) (0xDC00 + v % 0x400) = c →
      Escaped c ('\\' :: 'u' :: (Quote.hex 4 (0xD800 + v / 0x400)).toList ++
        '\\' :: 'u' :: (Quote.hex 4 (0xDC00 + v % 0x400)).toList)
  /-- The character itself. -/
  | plain {c : Char} : c ≠ '"' → c ≠ '\\' → 0x20 ≤ c.toNat → Escaped c [c]

theorem toList_escapeU (x : String) : ("\\u" ++ x).toList = '\\' :: 'u' :: x.toList := by
  rw [String.toList_append]
  rfl

theorem toList_pairEscape (a b : String) :
    ("\\u" ++ a ++ "\\u" ++ b).toList = '\\' :: 'u' :: a.toList ++ '\\' :: 'u' :: b.toList := by
  rw [String.toList_append, String.toList_append, toList_escapeU]
  simp only [List.cons_append, List.append_assoc]
  rfl

theorem escaped_unit_self {c : Char} (basic : c.toNat < 0x10000) :
    Escaped c ('\\' :: 'u' :: (Quote.hex 4 c.toNat).toList) := by
  have plain : Surrogate.isSurrogate c.toNat = false := isSurrogate_toNat c
  refine Escaped.unit basic ?_ (by simp [plain])
  rw [lone_of_not_surrogate plain, Char.ofNat_toNat]

theorem escaped_pair_self {c : Char} (astral : ¬ c.toNat < 0x10000) :
    Escaped c ('\\' :: 'u' :: (Quote.hex 4 (0xD800 + (c.toNat - 0x10000) / 0x400)).toList ++
      '\\' :: 'u' :: (Quote.hex 4 (0xDC00 + (c.toNat - 0x10000) % 0x400)).toList) := by
  have bound : c.toNat < 0x110000 := by
    rcases c.valid with below | ⟨_, below⟩
    · exact Nat.lt_trans below (by decide)
    · exact below
  -- the two halves put back together give the offset again
  have code : 0x10000 + (0xD800 + (c.toNat - 0x10000) / 0x400 - 0xD800) * 0x400 +
      (0xDC00 + (c.toNat - 0x10000) % 0x400 - 0xDC00) = c.toNat := by omega
  have same : joined (0xD800 + (c.toNat - 0x10000) / 0x400)
      (0xDC00 + (c.toNat - 0x10000) % 0x400) = c := by
    rw [joined, code, Char.ofNat_toNat]
  exact Escaped.pair (by omega) same

theorem escaped_escapeChar (c : Char) : Escaped c (escapeChar true c).toList := by
  unfold escapeChar
  dsimp only
  split
  · next quote =>
    rw [beq_iff_eq] at quote
    subst quote
    exact .short rfl (by decide)
  split
  · next slash =>
    rw [beq_iff_eq] at slash
    subst slash
    exact .short rfl (by decide)
  split
  · next newline =>
    rw [beq_iff_eq] at newline
    subst newline
    exact .short rfl (by decide)
  split
  · next cr =>
    rw [beq_iff_eq] at cr
    subst cr
    exact .short rfl (by decide)
  split
  · next tab =>
    rw [beq_iff_eq] at tab
    subst tab
    exact .short rfl (by decide)
  split
  · next backspace =>
    rw [beq_iff_eq] at backspace
    have same : c = Char.ofNat 8 := by rw [← backspace, Char.ofNat_toNat]
    subst same
    exact .short rfl (by decide)
  split
  · next formFeed =>
    rw [beq_iff_eq] at formFeed
    have same : c = Char.ofNat 12 := by rw [← formFeed, Char.ofNat_toNat]
    subst same
    exact .short rfl (by decide)
  split
  · next control =>
    rw [toList_escapeU]
    exact escaped_unit_self (by omega)
  split
  · next unit carried =>
    obtain ⟨low, high, _⟩ := carried?_bounds carried
    rw [toList_escapeU]
    exact Escaped.unit (by omega) (lone_of_carried? carried) (fun _ => carried)
  split
  · next wide =>
    split
    · next basic =>
      rw [toList_escapeU]
      exact escaped_unit_self basic
    · next astral =>
      rw [toList_pairEscape]
      exact escaped_pair_self astral
  · next narrow =>
    rw [show c.toString.toList = [c] from String.toList_singleton c]
    refine Escaped.plain ?_ ?_ (by omega)
    · rintro rfl
      simp_all
    · rintro rfl
      simp_all

theorem ne_of_carried? {c : Char} {unit : Nat} (carried : Surrogate.carried? c = some unit)
    {d : Char} (ascii : d.toNat < 128) : ¬ (c == d) = true := by
  rw [beq_iff_eq]
  rintro rfl
  obtain ⟨_, _, code⟩ := carried?_bounds carried
  omega

theorem escapeChar_carried {c : Char} {unit : Nat} (carried : Surrogate.carried? c = some unit) :
    (escapeChar true c).toList = '\\' :: 'u' :: (Quote.hex 4 unit).toList := by
  obtain ⟨_, _, code⟩ := carried?_bounds carried
  unfold escapeChar
  dsimp only
  rw [if_neg (ne_of_carried? carried (by decide)), if_neg (ne_of_carried? carried (by decide)),
    if_neg (ne_of_carried? carried (by decide)), if_neg (ne_of_carried? carried (by decide)),
    if_neg (ne_of_carried? carried (by decide)), if_neg (by simp; omega),
    if_neg (by simp; omega), if_neg (by omega)]
  simp only [carried, toList_escapeU]

/-- The escapes of the characters of a text, one after another. -/
def escapes (cs : List Char) : List Char := cs.flatMap fun c => (escapeChar true c).toList

@[simp] theorem escapes_nil : escapes [] = [] := rfl

@[simp] theorem escapes_cons (c : Char) (cs : List Char) :
    escapes (c :: cs) = (escapeChar true c).toList ++ escapes cs := List.flatMap_cons

theorem length_le_escapes (cs : List Char) : cs.length ≤ (escapes cs).length := by
  induction cs with
  | nil => simp
  | cons c cs induction =>
    have one : 1 ≤ (escapeChar true c).toList.length := by
      have escaped := escaped_escapeChar c
      generalize (escapeChar true c).toList = es at escaped ⊢
      cases escaped <;> simp
    simp only [escapes_cons, List.length_append, List.length_cons]
    omega

theorem toList_quoteText (s : String) :
    (quoteText true s).toList = '"' :: escapes s.toList ++ ['"'] := by
  rw [quoteText, String.toList_append, String.toList_append, String.toList_join, List.flatMap_map]
  rfl

/-! ## Reading text back -/

section Reading

variable {start fuel : Nat} {acc : List Char}

theorem readText_close (rest : List Char) :
    readText start (fuel + 1) acc ('"' :: rest) = .ok (String.ofList acc.reverse, rest) := by
  rw [readText.eq_def]
  dsimp only
  rw [if_pos (by decide)]

theorem readText_short {e ch : Char} (escape : shortEscape? e = some ch) (notU : e ≠ 'u')
    (more : List Char) :
    readText start (fuel + 1) acc ('\\' :: e :: more) = readText start fuel (ch :: acc) more := by
  rw [readText, if_neg (by decide), if_pos (by decide), escape]
  exact notU

theorem readText_plain {c : Char} (notQuote : c ≠ '"') (notSlash : c ≠ '\\')
    (printable : 0x20 ≤ c.toNat) (more : List Char) :
    readText start (fuel + 1) acc (c :: more) = readText start fuel (c :: acc) more := by
  rw [readText.eq_def]
  dsimp only
  rw [if_neg (by simpa using notQuote), if_neg (by simpa using notSlash), if_neg (by omega)]

theorem readText_unit {n : Nat} (small : n < 0x10000) {after after' : List Char} {ch : Char}
    (nonempty : after ≠ []) (read : pairedEscape n after = .ok (ch, after')) :
    readText start (fuel + 1) acc ('\\' :: 'u' :: (Quote.hex 4 n).toList ++ after) =
      readText start fuel (ch :: acc) after' := by
  rw [List.cons_append, List.cons_append, readText, if_neg (by decide), if_pos (by decide)]
  simp only [hex4?_hex n small, List.isEmpty_iff, nonempty, if_false, read]

theorem pairedEscape_of_not_high {n : Nat} (notHigh : isHigh n = false) (after : List Char) :
    pairedEscape n after = .ok (lone n, after) := by
  unfold pairedEscape lone
  rw [isHigh] at notHigh
  rw [if_neg (by simp [notHigh])]
  split <;> rfl

theorem pairedEscape_unpaired {n : Nat} (high : isHigh n = true) {after : List Char}
    (unpaired : ∀ rest, after ≠ '\\' :: 'u' :: rest) :
    pairedEscape n after = .ok (lone n, after) := by
  unfold pairedEscape
  rw [lone, if_pos (isSurrogate_of_isHigh high), if_pos (isSurrogate_of_isHigh high)]
  split
  · split
    · exact absurd rfl (unpaired _)
    · rfl
  · rfl

theorem pairedEscape_not_low {n m : Nat} (high : isHigh n = true) (small : m < 0x10000)
    (notLow : isLow m = false) (more : List Char) :
    pairedEscape n ('\\' :: 'u' :: (Quote.hex 4 m).toList ++ more) =
      .ok (lone n, '\\' :: 'u' :: (Quote.hex 4 m).toList ++ more) := by
  unfold pairedEscape
  rw [lone, if_pos (isSurrogate_of_isHigh high), if_pos (isSurrogate_of_isHigh high)]
  split
  · simp only [List.cons_append, hex4?_hex m small]
    rw [isLow] at notLow
    rw [if_neg (by simp [notLow])]
  · rfl

theorem pairedEscape_joined {n m : Nat} (high : isHigh n = true) (small : m < 0x10000)
    (low : isLow m = true) {more : List Char} (nonempty : more ≠ []) :
    pairedEscape n ('\\' :: 'u' :: (Quote.hex 4 m).toList ++ more) = .ok (joined n m, more) := by
  have long : ('\\' :: 'u' :: (Quote.hex 4 m).toList ++ more).length ≥ 7 := by
    have four : (Quote.hex 4 m).toList.length = 4 := by rw [hex_four m small]; rfl
    have some : more.length ≥ 1 := List.length_pos_iff.mpr nonempty
    simp only [List.cons_append, List.length_cons, List.length_append, four]
    omega
  rw [isHigh] at high
  rw [isLow] at low
  unfold pairedEscape
  rw [if_pos (by simp only [Bool.and_eq_true] at high ⊢; exact ⟨high, decide_eq_true long⟩)]
  simp only [List.cons_append, hex4?_hex m small, low, if_true]
  rfl

theorem pairedEscape_before {n : Nat} {d : Char} {es : List Char} (escaped : Escaped d es)
    (unpaired : isHigh n = true → ∀ m, Surrogate.carried? d = some m → isLow m = false)
    (more : List Char) :
    pairedEscape n (es ++ more) = .ok (lone n, es ++ more) := by
  cases high : isHigh n with
  | false => exact pairedEscape_of_not_high high _
  | true =>
    cases escaped with
    | short _ notU =>
      apply pairedEscape_unpaired high
      intro rest same
      simp only [List.cons_append, List.nil_append, List.cons.injEq] at same
      exact notU same.2.1
    | @unit m small _ carried =>
      rw [List.cons_append, List.cons_append]
      apply pairedEscape_not_low high small
      cases low : isLow m with
      | false => rfl
      | true =>
        have notLow := unpaired high m (carried (isSurrogate_of_isLow low))
        rw [notLow] at low
        cases low
    | @pair v small _ =>
      have first : isHigh (0xD800 + v / 0x400) = true := by
        simp only [isHigh, Bool.and_eq_true]
        exact ⟨decide_eq_true (by omega), decide_eq_true (by omega)⟩
      rw [List.cons_append, List.cons_append, List.append_assoc]
      exact pairedEscape_not_low high (by omega) (isLow_of_isHigh first) _
    | plain _ notSlash _ =>
      apply pairedEscape_unpaired high
      intro rest same
      simp only [List.cons_append, List.nil_append, List.cons.injEq] at same
      exact notSlash same.1

theorem readText_escaped {c : Char} {es : List Char} (escaped : Escaped c es) {more : List Char}
    (nonempty : more ≠ [])
    (unpaired : ∀ high, Surrogate.carried? c = some high → isHigh high = true →
      pairedEscape high more = .ok (lone high, more)) :
    readText start (fuel + 1) acc (es ++ more) = readText start fuel (c :: acc) more := by
  cases escaped with
  | short escape notU => exact readText_short escape notU more
  | @unit n small same carried =>
    have read : pairedEscape n more = .ok (c, more) := by
      cases high : isHigh n with
      | false => rw [pairedEscape_of_not_high high, same]
      | true => rw [unpaired n (carried (isSurrogate_of_isHigh high)) high, same]
    rw [List.cons_append, List.cons_append]
    exact readText_unit small nonempty read
  | @pair v small same =>
    have high : isHigh (0xD800 + v / 0x400) = true := by
      simp only [isHigh, Bool.and_eq_true]
      exact ⟨decide_eq_true (by omega), decide_eq_true (by omega)⟩
    have low : isLow (0xDC00 + v % 0x400) = true := by
      simp only [isLow, Bool.and_eq_true]
      exact ⟨decide_eq_true (by omega), decide_eq_true (by omega)⟩
    have read : pairedEscape (0xD800 + v / 0x400)
        ('\\' :: 'u' :: (Quote.hex 4 (0xDC00 + v % 0x400)).toList ++ more) = .ok (c, more) := by
      rw [pairedEscape_joined high (by omega) low nonempty, same]
    rw [List.cons_append, List.cons_append, List.append_assoc]
    exact readText_unit (by omega) (by simp) read
  | plain notQuote notSlash printable => exact readText_plain notQuote notSlash printable more

theorem readText_joined {c d j : Char} (pair : pairsWith? c d = some j) {more : List Char}
    (nonempty : more ≠ []) :
    readText start (fuel + 1) acc ((escapeChar true c).toList ++ (escapeChar true d).toList ++ more) =
      readText start fuel (j :: acc) more := by
  obtain ⟨high, low, carriedC, carriedD, isHigh', isLow', same⟩ := pairsWith?_eq_some pair
  have smallHigh : high < 0x10000 := by have := (carried?_bounds carriedC).2.1; omega
  have smallLow : low < 0x10000 := by have := (carried?_bounds carriedD).2.1; omega
  rw [escapeChar_carried carriedC, escapeChar_carried carriedD, List.append_assoc,
    List.cons_append, List.cons_append]
  apply readText_unit smallHigh (by simp)
  rw [pairedEscape_joined isHigh' smallLow isLow' nonempty, same]

theorem readText_escapes (cs : List Char) {acc : List Char} {fuel : Nat} (tail : List Char)
    (enough : cs.length < fuel) :
    readText start fuel acc (escapes cs ++ '"' :: tail) =
      .ok (String.ofList (acc.reverse ++ pairUp cs), tail) := by
  fun_induction pairUp cs generalizing acc fuel with
  | case1 c d more j pair induction =>
    -- the two escapes are read as one character
    obtain ⟨fuel, rfl⟩ : ∃ k, fuel = k + 1 := ⟨fuel - 1, by simp at enough; omega⟩
    rw [escapes_cons, escapes_cons, ← List.append_assoc, List.append_assoc _ (escapes more),
      readText_joined pair (by simp), induction (by simp at enough; omega)]
    simp
  | case2 c d more alone induction =>
    obtain ⟨fuel, rfl⟩ : ∃ k, fuel = k + 1 := ⟨fuel - 1, by simp at enough; omega⟩
    rw [escapes_cons, List.append_assoc]
    rw [readText_escaped (escaped_escapeChar c) (by simp), induction (by simp at enough; omega)]
    · simp
    · -- a carried high surrogate stays alone: the next character is no carried low one
      intro high carriedC isHigh'
      rw [escapes_cons, List.append_assoc]
      apply pairedEscape_before (escaped_escapeChar d)
      intro _ low carriedD
      unfold pairsWith? at alone
      rw [carriedC, carriedD] at alone
      simpa [isHigh'] using alone
  | case3 cs short =>
    match cs, short with
    | [], _ =>
      obtain ⟨fuel, rfl⟩ : ∃ k, fuel = k + 1 := ⟨fuel - 1, by simp at enough; omega⟩
      rw [escapes_nil, List.nil_append, readText_close]
      simp
    | [c], _ =>
      obtain ⟨fuel, rfl⟩ : ∃ k, fuel = k + 1 := ⟨fuel - 1, by simp at enough; omega⟩
      obtain ⟨fuel, rfl⟩ : ∃ k, fuel = k + 1 := ⟨fuel - 1, by simp at enough; omega⟩
      rw [escapes_cons, escapes_nil, List.append_nil]
      rw [readText_escaped (escaped_escapeChar c) (by simp), readText_close]
      · simp
      · intro high _ isHigh'
        exact pairedEscape_unpaired isHigh' (by simp)
    | c :: d :: more, short => exact absurd rfl (short c d more)

end Reading

/-- Text as a reader gives it back: carried surrogate pairs joined. -/
def pairedText (s : String) : String := String.ofList (pairUp s.toList)

theorem pairedText_eq_self {s : String} (unsplit : splitPair s.toList = false) :
    pairedText s = s := by
  rw [pairedText, pairUp_eq_self unsplit, String.ofList_toList]

/-- Text without a carried surrogate is read back as itself. -/
theorem pairedText_of_carries {s : String} (plain : Surrogate.carries s = false) :
    pairedText s = s := by
  apply pairedText_eq_self
  apply splitPair_of_uncarried
  intro c member
  simp only [Surrogate.carries, List.any_eq_false] at plain
  have notCarrier := plain c member
  simp only [Surrogate.isCarrier, Option.isSome_iff_ne_none, ne_eq, Decidable.not_not] at notCarrier
  exact notCarrier

/-- Reading back keeps text empty or not. -/
theorem isEmpty_pairedText (s : String) : (pairedText s).isEmpty = s.isEmpty := by
  rw [Bool.eq_iff_iff, String.isEmpty_iff, String.isEmpty_iff, ← String.toList_eq_nil_iff,
    ← String.toList_eq_nil_iff, pairedText, String.toList_ofList, pairUp_eq_nil]

/-! ## Integers -/

/-- What may follow a number without continuing it. -/
def Ends : List Char → Prop
  | [] => True
  | c :: _ => c.isDigit = false ∧ c ≠ '.' ∧ c ≠ 'e' ∧ c ≠ 'E'

theorem takeWhile_digits {ds : List Char} (digits : ∀ c ∈ ds, c.isDigit = true)
    {rest : List Char} (ends : Ends rest) :
    List.takeWhile Char.isDigit (ds ++ rest) = ds ∧ List.dropWhile Char.isDigit (ds ++ rest) = rest := by
  induction ds with
  | nil =>
    cases rest with
    | nil => simp
    | cons c more => simp [ends.1]
  | cons d ds induction =>
    have digit := digits d List.mem_cons_self
    have tail := induction (fun c member => digits c (List.mem_cons_of_mem d member))
    simp [digit, tail.1, tail.2]

theorem readNumber_digits {d : Char} {ds : List Char} (digit : d.isDigit = true)
    (canonical : d = '0' → ds = []) (digits : ∀ c ∈ ds, c.isDigit = true) {rest : List Char}
    (ends : Ends rest) :
    readNumber (d :: ds ++ rest) = some (.int (digitsValue (d :: ds)), rest) := by
  have notMinus : d ≠ '-' := by rintro rfl; simp at digit
  have both := @takeWhile_digits (d :: ds) (by simpa [digit] using digits) _ ends
  by_cases zero : d = '0'
  · subst zero
    rw [canonical rfl]
    cases rest with
    | nil => simp [readNumber.eq_def]
    | cons c more =>
      obtain ⟨_, notDot, notE, notE'⟩ := ends
      simp [readNumber.eq_def, notDot, notE, notE']
  · cases rest with
    | nil =>
      simp only [List.append_nil] at both
      simp [readNumber.eq_def, notMinus, zero, both.1, both.2]
    | cons c more =>
      simp only [List.cons_append] at both
      obtain ⟨_, notDot, notE, notE'⟩ := ends
      simp [readNumber.eq_def, notMinus, zero, both.1, both.2, notDot, notE, notE']

theorem readNumber_negative {d : Char} {ds : List Char} (digit : d.isDigit = true)
    (canonical : d = '0' → ds = []) (digits : ∀ c ∈ ds, c.isDigit = true) {rest : List Char}
    (ends : Ends rest) :
    readNumber ('-' :: (d :: ds ++ rest)) = some (.int (-(digitsValue (d :: ds) : Int)), rest) := by
  have both := @takeWhile_digits (d :: ds) (by simpa [digit] using digits) _ ends
  by_cases zero : d = '0'
  · subst zero
    rw [canonical rfl]
    cases rest with
    | nil => simp [readNumber.eq_def]
    | cons c more =>
      obtain ⟨_, notDot, notE, notE'⟩ := ends
      simp [readNumber.eq_def, notDot, notE, notE']
  · cases rest with
    | nil =>
      simp only [List.append_nil] at both
      simp [readNumber.eq_def, zero, both.1, both.2]
    | cons c more =>
      simp only [List.cons_append] at both
      obtain ⟨_, notDot, notE, notE'⟩ := ends
      simp [readNumber.eq_def, zero, both.1, both.2, notDot, notE, notE']

theorem digitsValue_toDigits (m : Nat) : digitsValue (Nat.toDigits 10 m) = m := by
  induction m using Nat.strong_induction_on with
  | _ m induction =>
    by_cases small : m < 10
    · rw [Nat.toDigits_of_lt_base small]
      simp [digitsValue, Nat.toNat_digitChar_sub_48_of_lt_ten small]
    · rw [Nat.toDigits_of_base_le (by decide) (by omega)]
      have last : (Nat.digitChar (m % 10)).toNat - 48 = m % 10 :=
        Nat.toNat_digitChar_sub_48_of_lt_ten (Nat.mod_lt m (by decide))
      have front := induction (m / 10) (by omega)
      simp only [digitsValue, List.foldl_append, List.foldl_cons, List.foldl_nil] at front ⊢
      rw [front]
      simp only [show '0'.toNat = 48 from rfl, last]
      omega

theorem head_toDigits_ne_zero {m : Nat} (positive : 0 < m) :
    ∃ d ds, Nat.toDigits 10 m = d :: ds ∧ d ≠ '0' := by
  induction m using Nat.strong_induction_on with
  | _ m induction =>
    by_cases small : m < 10
    · rw [Nat.toDigits_of_lt_base small]
      exact ⟨_, [], rfl, by simp; omega⟩
    · obtain ⟨d, ds, front, notZero⟩ := induction (m / 10) (by omega) (by omega)
      rw [Nat.toDigits_of_base_le (by decide) (by omega), front]
      exact ⟨d, _, rfl, notZero⟩

/-- The decimal digits of a number: digits, no leading zero unless the number is zero. -/
theorem toDigits_canonical (m : Nat) :
    ∃ d ds, Nat.toDigits 10 m = d :: ds ∧ d.isDigit = true ∧ (d = '0' → ds = []) ∧
      ∀ c ∈ ds, c.isDigit = true := by
  have digits : ∀ c ∈ Nat.toDigits 10 m, c.isDigit = true :=
    fun c member => Nat.isDigit_of_mem_toDigits (by decide) (by decide) member
  rcases Nat.eq_zero_or_pos m with zero | positive
  · subst zero
    exact ⟨'0', [], by simp, rfl, fun _ => rfl, by simp⟩
  · obtain ⟨d, ds, spelled, notZero⟩ := head_toDigits_ne_zero positive
    rw [spelled] at digits
    exact ⟨d, ds, spelled, digits d List.mem_cons_self, fun zero => absurd zero notZero,
      fun c member => digits c (List.mem_cons_of_mem d member)⟩

/-- The text of an integer starts with a minus sign or a digit. -/
theorem head_toString (n : Int) (rest : List Char) :
    ∃ c cs, (toString n).toList ++ rest = c :: cs ∧ (c = '-' ∨ c.isDigit = true) := by
  cases n with
  | ofNat m =>
    obtain ⟨d, ds, digits, digit, _⟩ := toDigits_canonical m
    refine ⟨d, ds ++ rest, ?_, Or.inr digit⟩
    simp [Int.toString_eq_repr, Int.repr, Nat.repr, digits]
  | negSucc m =>
    refine ⟨'-', (Nat.toDigits 10 (m + 1)) ++ rest, ?_, Or.inl rfl⟩
    simp [Int.toString_eq_repr, Int.repr, Nat.repr]

theorem readNumber_toString (n : Int) {rest : List Char} (ends : Ends rest) :
    readNumber ((toString n).toList ++ rest) = some (.int n, rest) := by
  cases n with
  | ofNat m =>
    obtain ⟨d, ds, spelled, digit, canonical, digits⟩ := toDigits_canonical m
    have text : (toString (Int.ofNat m)).toList = Nat.toDigits 10 m := by
      simp [Int.toString_eq_repr, Int.repr, Nat.repr]
    rw [text, spelled, readNumber_digits digit canonical digits ends, ← spelled,
      digitsValue_toDigits]
    rfl
  | negSucc m =>
    obtain ⟨d, ds, spelled, digit, canonical, digits⟩ := toDigits_canonical (m + 1)
    have text : (toString (Int.negSucc m)).toList = '-' :: Nat.toDigits 10 (m + 1) := by
      simp [Int.toString_eq_repr, Int.repr, Nat.repr]
    rw [text, spelled, List.cons_append, readNumber_negative digit canonical digits ends,
      ← spelled, digitsValue_toDigits]
    rfl

/-! ## Scalar values -/

/-- The values written as JSON text that a reader gives back from it: the absent value,
text, and integers of no more digits than it reads. -/
inductive Scalar : Datum → Prop
  | none : Scalar .none
  | str (s : String) : Scalar (.str s)
  | int {n : Int} : n.natAbs < 10 ^ maxIntDigits → Scalar (.int n)

/-- A value as a reader gives it back from its JSON text. -/
def reread : Datum → Datum
  | .str s => .str (pairedText s)
  | d => d

theorem readValue_null (room fuel : Nat) (rest : List Char) :
    readValue false true room (fuel + 1) ((render true .none).toList ++ rest) = .ok (.none, rest) := by
  have text : (render true .none).toList = ['n', 'u', 'l', 'l'] := by
    rw [render]
    rfl
  rw [text]
  simp [readValue, startsWith]

theorem readValue_text (room fuel : Nat) (s : String) (rest : List Char) :
    readValue false true room (fuel + 1) ((render true (.str s)).toList ++ rest) =
      .ok (.str (pairedText s), rest) := by
  rw [render, toList_quoteText]
  simp only [List.cons_append, List.append_assoc, List.nil_append]
  rw [readValue]
  have enough : s.toList.length < (escapes s.toList ++ '"' :: rest).length := by
    have := length_le_escapes s.toList
    simp only [List.length_append, List.length_cons]
    omega
  rw [readText_escapes s.toList rest enough]
  rfl

theorem readValue_int (room fuel : Nat) {n : Int} (short : n.natAbs < 10 ^ maxIntDigits)
    {rest : List Char} (ends : Ends rest) :
    readValue false true room (fuel + 1) ((render true (.int n)).toList ++ rest) = .ok (.int n, rest) := by
  have fits : tooLong (.int n) = false := by
    have length : (Nat.toDigits 10 n.natAbs).length ≤ maxIntDigits :=
      (Nat.length_toDigits_le_iff (by decide) (by decide)).mpr short
    simp only [tooLong, gt_iff_lt, decide_eq_false_iff_not, Nat.not_lt]
    simpa [Nat.toString_eq_repr, Nat.repr] using length
  have read := readNumber_toString n ends
  obtain ⟨first, more, spelled, start⟩ := head_toString n rest
  have notWord : ∀ word : String, ∀ w ws, word.toList = w :: ws → w.isDigit = false → w ≠ '-' →
      startsWith (first :: more) word = false := by
    intro word w ws spelledWord digitW minusW
    simp only [startsWith, spelledWord, List.isPrefixOf, Bool.and_eq_false_iff]
    left
    rcases start with minus | digit
    · subst minus
      simpa using minusW
    · simp only [beq_eq_false_iff_ne, ne_eq]
      rintro rfl
      rw [digit] at digitW
      cases digitW
  rw [render]
  rw [spelled] at read ⊢
  rw [readValue.eq_def]
  dsimp only
  split
  · next quote => rcases start with minus | digit <;> simp_all
  · next brace => rcases start with minus | digit <;> simp_all
  · next bracket => rcases start with minus | digit <;> simp_all
  · rw [notWord "null" 'n' _ rfl rfl (by decide), notWord "true" 't' _ rfl rfl (by decide),
      notWord "false" 'f' _ rfl rfl (by decide), read]
    simp [fits]

theorem readValue_scalar {v : Datum} (scalar : Scalar v) (room fuel : Nat) {rest : List Char}
    (ends : Ends rest) :
    readValue false true room (fuel + 1) ((render true v).toList ++ rest) = .ok (reread v, rest) := by
  cases scalar with
  | none => exact readValue_null room fuel rest
  | str s => exact readValue_text room fuel s rest
  | int short => exact readValue_int room fuel short ends

theorem skipBlank_cons {c : Char} (notBlank : isBlank c = false) (rest : List Char) :
    skipBlank (c :: rest) = c :: rest := by
  simp [skipBlank, notBlank]

theorem skipBlank_render {v : Datum} (scalar : Scalar v) (rest : List Char) :
    skipBlank ((render true v).toList ++ rest) = (render true v).toList ++ rest := by
  cases scalar with
  | none => rfl
  | str s =>
    rw [render, toList_quoteText, List.cons_append]
    exact skipBlank_cons (by decide) _
  | @int n _ =>
    obtain ⟨c, cs, spelled, start⟩ := head_toString n rest
    rw [render, spelled]
    apply skipBlank_cons
    rcases start with minus | digit
    · subst minus
      decide
    · simp only [isBlank, Bool.or_eq_false_iff, beq_eq_false_iff_ne, ne_eq]
      refine ⟨⟨⟨?_, ?_⟩, ?_⟩, ?_⟩ <;> rintro rfl <;> simp at digit

/-! ## Objects -/

/-- The entries of a mapping assigned one after another, each as a reader gives it back. -/
def assignAll (acc : List (Datum × Datum)) (es : List (Datum × Datum)) : List (Datum × Datum) :=
  es.foldl (fun acc e => Datum.assign acc (reread e.1) (reread e.2)) acc

theorem toList_renderEntries_single (s : String) (v : Datum) :
    (renderEntries true [(.str s, v)]).toList =
      '"' :: (escapes s.toList ++ '"' :: ':' :: (render true v).toList) := by
  rw [renderEntries, String.toList_append, String.toList_append, toList_quoteText]
  simp [keyText]

theorem toList_renderEntries_cons (s : String) (v : Datum) (e : Datum × Datum)
    (es : List (Datum × Datum)) :
    (renderEntries true ((.str s, v) :: e :: es)).toList =
      '"' :: (escapes s.toList ++ '"' :: ':' :: ((render true v).toList ++
        ',' :: (renderEntries true (e :: es)).toList)) := by
  rw [renderEntries]
  · simp only [String.toList_append, toList_quoteText, keyText]
    simp
  · exact List.cons_ne_nil e es

theorem head_renderEntries {e : Datum × Datum} {es : List (Datum × Datum)}
    (key : ∃ s, e.1 = .str s) :
    ∃ more, (renderEntries true (e :: es)).toList = '"' :: more := by
  obtain ⟨k, v⟩ := e
  obtain ⟨s, spelled⟩ := key
  dsimp only at spelled
  subst spelled
  cases es with
  | nil => exact ⟨_, toList_renderEntries_single s v⟩
  | cons e es => exact ⟨_, toList_renderEntries_cons s v e es⟩

theorem readObject_last (s : String) {v : Datum} (scalar : Scalar v) (room fuel : Nat)
    (acc : List (Datum × Datum)) (first : Bool) (tail : List Char) :
    readObject false true room (fuel + 2) acc
        ('"' :: (escapes s.toList ++ '"' :: ':' :: ((render true v).toList ++ '}' :: tail))) first =
      .ok (.dict (Datum.assign acc (.str (pairedText s)) (reread v)), tail) := by
  have enough : s.toList.length <
      (escapes s.toList ++ '"' :: ':' :: ((render true v).toList ++ '}' :: tail)).length := by
    have := length_le_escapes s.toList
    simp only [List.length_append, List.length_cons]
    omega
  have ends : Ends ('}' :: tail) := ⟨by decide, by decide, by decide, by decide⟩
  rw [readObject]
  simp only [readText_escapes s.toList _ enough, bind, Except.bind, List.reverse_nil,
    List.nil_append, skipBlank_cons (show isBlank ':' = false by decide),
    skipBlank_render scalar, readValue_scalar scalar room fuel ends,
    skipBlank_cons (show isBlank '}' = false by decide)]
  rfl

theorem readObject_next (s : String) {v : Datum} (scalar : Scalar v) (room fuel : Nat)
    (acc : List (Datum × Datum)) (first : Bool) (more : List Char) :
    readObject false true room (fuel + 2) acc
        ('"' :: (escapes s.toList ++ '"' :: ':' :: ((render true v).toList ++ ',' :: more))) first =
      readObject false true room (fuel + 1) (Datum.assign acc (.str (pairedText s)) (reread v))
        (skipBlank more) false := by
  have enough : s.toList.length <
      (escapes s.toList ++ '"' :: ':' :: ((render true v).toList ++ ',' :: more)).length := by
    have := length_le_escapes s.toList
    simp only [List.length_append, List.length_cons]
    omega
  have ends : Ends (',' :: more) := ⟨by decide, by decide, by decide, by decide⟩
  rw [readObject]
  simp only [readText_escapes s.toList _ enough, bind, Except.bind, List.reverse_nil,
    List.nil_append, skipBlank_cons (show isBlank ':' = false by decide),
    skipBlank_render scalar, readValue_scalar scalar room fuel ends,
    skipBlank_cons (show isBlank ',' = false by decide)]
  rfl

theorem readObject_entries (es : List (Datum × Datum)) (nonempty : es ≠ [])
    (keys : ∀ e ∈ es, ∃ s, e.1 = .str s) (scalars : ∀ e ∈ es, Scalar e.2) (room : Nat)
    {fuel : Nat} (enough : es.length < fuel) (acc : List (Datum × Datum)) (first : Bool) (tail : List Char) :
    readObject false true room fuel acc ((renderEntries true es).toList ++ '}' :: tail) first =
      .ok (.dict (assignAll acc es), tail) := by
  induction es generalizing acc first fuel with
  | nil => exact absurd rfl nonempty
  | cons e es induction =>
    obtain ⟨k, v⟩ := e
    obtain ⟨s, spelled⟩ := keys _ List.mem_cons_self
    dsimp only at spelled
    subst spelled
    have scalar : Scalar v := scalars _ List.mem_cons_self
    obtain ⟨fuel, rfl⟩ : ∃ f, fuel = f + 2 := ⟨fuel - 2, by simp at enough; omega⟩
    cases es with
    | nil =>
      rw [toList_renderEntries_single, List.cons_append, List.append_assoc, List.cons_append,
        List.cons_append, readObject_last s scalar]
      rfl
    | cons e es =>
      -- the next member starts with a quote, so no blank is skipped before it
      obtain ⟨next, quoted⟩ := @head_renderEntries _ es (keys e (by simp))
      rw [toList_renderEntries_cons, List.cons_append, List.append_assoc, List.cons_append,
        List.cons_append, List.append_assoc, List.cons_append, readObject_next s scalar,
        quoted, List.cons_append, skipBlank_cons (by decide), ← List.cons_append, ← quoted,
        induction (by simp) (fun e member => keys e (List.mem_cons_of_mem _ member))
          (fun e member => scalars e (List.mem_cons_of_mem _ member)) (by simp at enough ⊢; omega)]
      rfl

theorem length_renderEntries (es : List (Datum × Datum)) (keys : ∀ e ∈ es, ∃ s, e.1 = .str s) :
    es.length ≤ (renderEntries true es).toList.length := by
  induction es with
  | nil => simp
  | cons e es induction =>
    obtain ⟨k, v⟩ := e
    obtain ⟨s, spelled⟩ := keys _ List.mem_cons_self
    dsimp only at spelled
    subst spelled
    cases es with
    | nil => simp [toList_renderEntries_single]
    | cons e es =>
      have rest := induction (fun e member => keys e (List.mem_cons_of_mem _ member))
      rw [toList_renderEntries_cons]
      simp only [List.length_cons, List.length_append] at rest ⊢
      omega

theorem readValue_object (lexemes limited : Bool) (room fuel : Nat) (rest : List Char) :
    readValue lexemes limited (room + 1) (fuel + 1) ('{' :: rest) =
      readObject lexemes limited room fuel [] (skipBlank rest) true := by
  simp only [readValue]

theorem readValue_array (lexemes limited : Bool) (room fuel : Nat) (rest : List Char) :
    readValue lexemes limited (room + 1) (fuel + 1) ('[' :: rest) =
      readArray lexemes limited room fuel [] (skipBlank rest) true := by
  simp only [readValue]

/-! ## Nesting beyond the reader's room -/

theorem readValue_brackets (lexemes limited : Bool) (rest : List Char) :
    ∀ (room fuel : Nat), 2 * room < fuel →
      readValue lexemes limited room fuel (List.replicate (room + 1) '[' ++ rest) =
        .error .tooDeep := by
  intro room
  induction room with
  | zero =>
    intro fuel enough
    obtain ⟨fuel, rfl⟩ : ∃ f, fuel = f + 1 := ⟨fuel - 1, by omega⟩
    simp [readValue]
  | succ room induction =>
    intro fuel enough
    obtain ⟨fuel, rfl⟩ : ∃ f, fuel = f + 2 := ⟨fuel - 2, by omega⟩
    -- the outer bracket opens an array whose first item is the remaining run of brackets
    have inner := induction fuel (by omega)
    rw [List.replicate_succ, List.cons_append, readValue_array, List.replicate_succ,
      List.cons_append, skipBlank_cons (by decide), readArray, ← List.cons_append,
      ← List.replicate_succ]
    · simp [inner, bind, Except.bind]
    · intro _ closing
      exact absurd (List.cons.inj closing).1 (by decide)

/-- A text opening more arrays at once than the reader has room for is refused as too deep. -/
theorem decode_brackets (rest : List Char) (long : nestingRoom ≤ rest.length) :
    decode (String.ofList (List.replicate (nestingRoom + 1) '[' ++ rest)) = .error .tooDeep := by
  have opened : ∃ more, List.replicate (nestingRoom + 1) '[' ++ rest = '[' :: more :=
    ⟨_, by rw [List.replicate_succ, List.cons_append]⟩
  obtain ⟨more, spelled⟩ := opened
  have deep := readValue_brackets false true rest nestingRoom
    ((List.replicate (nestingRoom + 1) '[' ++ rest).length + 1)
    (by simp only [List.length_append, List.length_replicate]; omega)
  unfold decode decodeWith
  simp only [String.toList_ofList]
  rw [spelled, skipBlank_cons (by decide)] at *
  simp only [List.length_cons] at deep
  simp [deep, bind, Except.bind]

theorem toList_render_dict (es : List (Datum × Datum)) :
    (render true (.dict es)).toList = '{' :: ((renderEntries true es).toList ++ ['}']) := by
  rw [render, String.toList_append, String.toList_append]
  rfl

theorem parse_render_dict (es : List (Datum × Datum)) (keys : ∀ e ∈ es, ∃ s, e.1 = .str s)
    (scalars : ∀ e ∈ es, Scalar e.2) :
    parse (render true (.dict es)) = .ok (.dict (assignAll [] es)) := by
  cases es with
  | nil => rfl
  | cons e es =>
    obtain ⟨more, quoted⟩ := @head_renderEntries _ es (keys e List.mem_cons_self)
    have long := length_renderEntries (e :: es) keys
    have notMark : (('{' :: ((renderEntries true (e :: es)).toList ++ ['}'])).head? ==
        some (Char.ofNat 65279)) = false := by
      rw [List.head?_cons]
      decide
    have enough : (e :: es).length <
        ('{' :: ((renderEntries true (e :: es)).toList ++ ['}'])).length := by
      simp only [List.length_cons, List.length_append, List.length_nil] at long ⊢
      omega
    -- the opening brace takes one level of the reader's room, and some is left
    obtain ⟨room, roomy⟩ : ∃ room, nestingRoom = room + 1 := ⟨_, rfl⟩
    have members := readObject_entries (e :: es) (by simp) keys scalars room enough [] true []
    unfold parse parseWith decodeWith
    rw [toList_render_dict]
    dsimp only
    rw [notMark, if_neg Bool.false_ne_true, Bool.not_false, skipBlank_cons (by decide), roomy,
      readValue_object, quoted, List.cons_append, skipBlank_cons (by decide), ← List.cons_append,
      ← quoted, members]
    rfl

theorem sameKey_str (a b : String) : Datum.sameKey (.str a) (.str b) = (a == b) := rfl

theorem assignAll_record (acc fields : List (String × Datum))
    (names : (acc.map (·.1) ++ fields.map (·.1)).Nodup)
    (plain : ∀ f ∈ fields, pairedText f.1 = f.1) :
    assignAll (acc.map fun f => (.str f.1, f.2)) (fields.map fun f => (.str f.1, f.2)) =
      (acc ++ fields.map fun f => (f.1, reread f.2)).map fun f => (.str f.1, f.2) := by
  induction fields generalizing acc with
  | nil => simp [assignAll]
  | cons f fields induction =>
    have fresh : f.1 ∉ acc.map (·.1) := by
      intro member
      simp only [List.map_cons, List.nodup_append, List.nodup_cons] at names
      exact names.2.2 f.1 member f.1 List.mem_cons_self rfl
    have appended : Datum.assign (acc.map fun f => (Datum.str f.1, f.2)) (reread (.str f.1))
        (reread f.2) = (acc ++ [(f.1, reread f.2)]).map fun f => (.str f.1, f.2) := by
      rw [reread, plain f List.mem_cons_self, Datum.assign, if_neg]
      · simp
      · simp only [List.any_map, Function.comp_def, sameKey_str, List.any_eq_true, beq_iff_eq,
          not_exists, not_and]
        intro g member same
        exact fresh (same ▸ List.mem_map_of_mem member)
    have shifted : ((acc ++ [(f.1, reread f.2)]).map (·.1) ++ fields.map (·.1)).Nodup := by
      simpa [List.map_append, List.append_assoc] using names
    rw [List.map_cons, assignAll, List.foldl_cons, appended, ← assignAll,
      induction _ shifted (fun g member => plain g (List.mem_cons_of_mem f member))]
    simp

/-- A record of distinct plain names and scalar values reads back from its ASCII JSON text. -/
theorem parse_render_record (fields : List (String × Datum)) (names : (fields.map (·.1)).Nodup)
    (plain : ∀ f ∈ fields, pairedText f.1 = f.1) (scalars : ∀ f ∈ fields, Scalar f.2) :
    parse (render true (Datum.record fields)) =
      .ok (Datum.record (fields.map fun f => (f.1, reread f.2))) := by
  have keys : ∀ e ∈ fields.map (fun f => ((Datum.str f.1 : Datum), f.2)), ∃ s, e.1 = .str s := by
    intro e member
    obtain ⟨f, _, rfl⟩ := List.mem_map.mp member
    exact ⟨f.1, rfl⟩
  have values : ∀ e ∈ fields.map (fun f => ((Datum.str f.1 : Datum), f.2)), Scalar e.2 := by
    intro e member
    obtain ⟨f, inFields, rfl⟩ := List.mem_map.mp member
    exact scalars f inFields
  have appended := assignAll_record [] fields (by simpa using names) plain
  rw [Datum.record, parse_render_dict _ keys values]
  simp only [List.map_nil] at appended
  rw [appended]
  simp [Datum.record]

end Json

end TenantAuth
