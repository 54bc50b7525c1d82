import TenantAuth.Text.Blank
import TenantAuth.Numeric.Binary64

/-!
# Numbers written as text

The decimal digits of every script, and the integer, double and field literals read from them.
-/

/-! ## Decimal digits

Decimal digits of every script, by the Unicode 14.0 character database. The general
category Nd consists of runs of ten consecutive code points, zero to nine; a run is named
here by its zero. Integer literals accept any of these digits, so `"١٠"` (Arabic-Indic one,
zero) reads as ten.
-/

namespace TenantAuth

namespace Digits

/-- The zero of each run of decimal digits (category Nd). -/
def zeros : List Nat :=
  [0x30, 0x660, 0x6F0, 0x7C0, 0x966, 0x9E6, 0xA66, 0xAE6, 0xB66, 0xBE6, 0xC66, 0xCE6, 0xD66,
   0xDE6, 0xE50, 0xED0, 0xF20, 0x1040, 0x1090, 0x17E0, 0x1810, 0x1946, 0x19D0, 0x1A80, 0x1A90,
   0x1B50, 0x1BB0, 0x1C40, 0x1C50, 0xA620, 0xA8D0, 0xA900, 0xA9D0, 0xA9F0, 0xAA50, 0xABF0,
   0xFF10, 0x104A0, 0x10D30, 0x11066, 0x110F0, 0x11136, 0x111D0, 0x112F0, 0x11450, 0x114D0,
   0x11650, 0x116C0, 0x11730, 0x118E0, 0x11950, 0x11C50, 0x11D50, 0x11DA0, 0x16A60,
   0x16AC0, 0x16B50, 0x1D7CE, 0x1D7D8, 0x1D7E2, 0x1D7EC, 0x1D7F6, 0x1E140, 0x1E2F0, 0x1E950,
   0x1FBF0]

/-- The value of a decimal digit of any script. -/
def value? (c : Char) : Option Nat :=
  let n := c.toNat
  (zeros.find? (fun z => z ≤ n && n < z + 10)).map (fun z => n - z)

/-- The value of an ASCII digit. -/
def asciiValue? (c : Char) : Option Nat :=
  if c.isDigit then some (c.toNat - '0'.toNat) else none

theorem value?_ascii (c : Char) (h : c.isDigit = true) : value? c = some (c.toNat - 0x30) := by
  simp only [Char.isDigit, Bool.and_eq_true, decide_eq_true_eq] at h
  have h1 : (48 : Nat) ≤ c.toNat := h.1
  have h2 : c.toNat ≤ 57 := h.2
  simp [value?, zeros, show 0x30 ≤ c.toNat from h1, show c.toNat < 0x30 + 10 by omega]

example : value? '٣' = some 3 := by decide
example : value? '²' = none := by decide

end Digits

end TenantAuth

/-! ## Numerals

Numbers written as text, under two sets of rules.

*Integer literals* (`Numeral.readInt`): `White_Space` around the literal is skipped (not the
information separators U+001C–U+001F, which text trimming does skip), a `+` or `-`
may lead, and the digits may come from any script; a single underscore may stand between two
digits. A literal longer than 4300 digits is refused as too long.

*Double literals* (`Numeral.readDouble?`): `White_Space` around the literal is skipped, the digits
may come from any script and a single underscore may stand between two digits; the literal
is decimal digits with an optional point and exponent, or `inf`, `infinity` or `nan` in any
case.

*Field values* (`Numeral.readField…`): `White_Space` around the value is skipped. An integer
is a signed run of ASCII digits with single underscores between digits, and may end in a
point and one or more zeros. A double is written as a double literal of ASCII digits; failing
that, its underscores are dropped when none comes first, none last and no two together.
-/

namespace TenantAuth

namespace Numeral

/-- Why an integer literal was refused. -/
inductive LiteralError where
  /-- The text is not an integer literal. -/
  | invalid
  /-- The literal has more digits than allowed. -/
  | tooLong (digits : Nat)
deriving Repr, DecidableEq

/-- The most digits an integer literal may have. -/
def maxDigits : Nat := 4300

/-- A sign at the front of a literal. -/
def splitSign : List Char → Bool × List Char
  | '-' :: rest => (true, rest)
  | '+' :: rest => (false, rest)
  | rest => (false, rest)

/-- Digit values of a run of digits with single underscores between digits. -/
def digitRun (value? : Char → Option Nat) : List Char → Option (List Nat)
  | [] => none
  | c :: rest => do
    let d ← value? c
    go [d] rest
where
  /-- The remaining digits; an underscore must be followed by a digit. -/
  go (acc : List Nat) : List Char → Option (List Nat)
    | [] => some acc.reverse
    | '_' :: c :: rest => do
      let d ← value? c
      go (d :: acc) rest
    | c :: rest => do
      let d ← value? c
      go (d :: acc) rest

/-- The number a list of decimal digit values stands for. -/
def ofDigits (ds : List Nat) : Nat :=
  ds.foldl (fun n d => n * 10 + d) 0

/-- Reads an integer literal. -/
def readInt (s : String) : Except LiteralError Int :=
  let (negative, body) := splitSign (Blank.trimChars Blank.isWhiteSpace s.toList)
  match digitRun Digits.value? body with
  | none => .error .invalid
  | some ds =>
    if ds.length > maxDigits then .error (.tooLong ds.length)
    else
      let v : Int := ofDigits ds
      .ok (if negative then -v else v)

/-- A signed run of ASCII digits, without underscores. -/
def plainInt? (cs : List Char) : Option Int := do
  let (negative, body) := splitSign cs
  if body.isEmpty || !body.all Char.isDigit then none
  else
    let v : Int := ofDigits (body.map fun c => c.toNat - '0'.toNat)
    some (if negative then -v else v)

/-- The 64-bit range. -/
def fitsWord (n : Int) : Bool := -9223372036854775808 ≤ n && n < 9223372036854775808

/-- The double a decimal literal of ASCII characters stands for: a sign, then `inf`,
`infinity` or `nan` in any case, or digits with an optional point and an optional exponent,
with a digit before or after the point. -/
def decimalDouble? (cs : List Char) : Option Float :=
  let (negative, body) := splitSign cs
  let word := body.map Char.toLower
  if word == "inf".toList || word == "infinity".toList then
    some (if negative then -(1.0 / 0.0) else 1.0 / 0.0)
  else if word == "nan".toList then some (0.0 / 0.0)
  else
    let whole := body.takeWhile Char.isDigit
    let afterWhole := body.dropWhile Char.isDigit
    let (frac, afterFrac) := match afterWhole with
      | '.' :: r => (r.takeWhile Char.isDigit, r.dropWhile Char.isDigit)
      | r => ([], r)
    if whole.isEmpty && frac.isEmpty then none
    else
      let expo? : Option Int := match afterFrac with
        | [] => some 0
        | e :: r =>
          if e == 'e' || e == 'E' then
            (plainInt? r).filter (fun _ => !r.isEmpty && (r.head? != some '+' || r.length > 1))
          else none
      expo?.map fun expo =>
        let mantissa := ofDigits ((whole ++ frac).map fun c => c.toNat - '0'.toNat)
        Double.ofDecimal negative mantissa (expo - frac.length)

/-- The characters of a literal with its underscores dropped, when each stands between two
ASCII digits. -/
def dropDigitUnderscores : List Char → Option (List Char)
  | [] => some []
  | [c] => if c == '_' then none else some [c]
  | a :: '_' :: b :: rest =>
    if a.isDigit && b.isDigit then (dropDigitUnderscores (b :: rest)).map (a :: ·) else none
  | a :: rest => if a == '_' then none else (dropDigitUnderscores rest).map (a :: ·)

/-- Reads a double literal: `White_Space` around it is skipped, its digits may come from any
script, and a single underscore may stand between two digits. -/
def readDouble? (s : String) : Option Float := do
  let cs := Blank.trimChars Blank.isWhiteSpace s.toList
  let cs := cs.map fun c => match Digits.value? c with
    | some d => Char.ofNat ('0'.toNat + d)
    | none => c
  decimalDouble? (← dropDigitUnderscores cs)

/-- A field value's signed run of ASCII digits, with single underscores between digits. -/
def fieldInt? (cs : List Char) : Option Int := do
  let (negative, body) := splitSign cs
  let ds ← digitRun Digits.asciiValue? body
  let v : Int := ofDigits ds
  return if negative then -v else v

/-- Reads an integer field value. -/
def readFieldInt? (s : String) : Option Int :=
  let cs := Blank.trimChars Blank.isWhiteSpace s.toList
  match fieldInt? cs with
  | some v => some v
  | none =>
    match cs.dropWhile (· != '.') with
    | '.' :: zeros =>
      if !zeros.isEmpty && zeros.all (· == '0') then fieldInt? (cs.takeWhile (· != '.'))
      else none
    | _ => none

/-- Whether the underscores of a text are loose enough for a double field value: none first,
none last and never two together. -/
def looseUnderscores (cs : List Char) : Bool :=
  cs.head? != some '_' && cs.getLast? != some '_' &&
    !(cs.zip cs.tail).any (fun (a, b) => a == '_' && b == '_')

/-- Reads a double field value. -/
def readFieldFloat? (s : String) : Option Float :=
  let cs := Blank.trimChars Blank.isWhiteSpace s.toList
  match decimalDouble? cs with
  | some x => some x
  | none => if looseUnderscores cs then decimalDouble? (cs.filter (· != '_')) else none

example : (readInt " 7 ").toOption = some 7 := by cbv
example : (readInt "1_0").toOption = some 10 := by cbv
example : (readInt "1__0").toOption = none := by cbv
example : readFieldInt? " 45 " = some 45 := by cbv
example : readFieldInt? "1_0.00" = some 10 := by cbv
example : readFieldInt? "30." = none := by cbv

end Numeral

end TenantAuth
