import TenantAuth.Numeric.Binary64

/-!
Shortest decimal text of a double: of the values in the interval of reals that round to it, the one
with the fewest significant digits, and of two such the nearer. Searching grids of 1 to 17
significant digits finds it, since on a grid with a point in the interval one of the grid points
around the double lies in it too. All arithmetic is exact.
-/

namespace TenantAuth

/-- Compares `c · 10^s` with `a · 2^p` exactly. -/
def compareScaled (c : Nat) (s : Int) (a : Nat) (p : Int) : Ordering :=
  compare (c * Nat.pow 10 s.toNat * Nat.pow 2 (-p).toNat) (a * Nat.pow 2 p.toNat * Nat.pow 10 (-s).toNat)

/-- Significant decimal digits `digits` and a scale: the value is `digits · 10^scale`. -/
structure DecimalDigits where
  /-- The significant digits as a number, without trailing zeros unless it is zero. -/
  digits : Nat
  /-- The power of ten the digits are scaled by. -/
  scale : Int
deriving Repr, DecidableEq

namespace DecimalDigits

/-- Removes trailing zeros, moving them into the scale. -/
def normalize (d : DecimalDigits) : DecimalDigits :=
  go d.digits.log2.succ d
where
  /-- One trailing zero per step; the bound is the number of binary digits. -/
  go : Nat → DecimalDigits → DecimalDigits
    | 0, d => d
    | fuel + 1, d =>
      if d.digits != 0 && d.digits % 10 == 0 then go fuel ⟨d.digits / 10, d.scale + 1⟩ else d

/-- The digit characters of the significant digits. -/
def text (d : DecimalDigits) : String :=
  toString d.digits

/-- The position of the decimal point relative to the first digit: the value is
`0.d₁d₂… · 10^point`. -/
def point (d : DecimalDigits) : Int :=
  (d.text.length : Int) + d.scale

end DecimalDigits

namespace Binary64

/-- The interval of reals that round to a positive finite value `m · 2^e`: its two ends as
`a · 2^p` pairs, and whether the ends belong to it (they do when `m` is even). -/
def roundingInterval (v : Binary64) : (Nat × Int) × (Nat × Int) × Bool :=
  let m := v.significand
  let e := v.exponent
  let low := if m == Nat.pow 2 52 && e > -1074 then (4 * m - 1, e - 2) else (2 * m - 1, e - 1)
  (low, (2 * m + 1, e - 1), m % 2 == 0)

/-- Whether `c · 10^s` rounds to the value. -/
def holds (v : Binary64) (c : Nat) (s : Int) : Bool :=
  let ((la, lp), (ha, hp), closed) := v.roundingInterval
  let aboveLow := match compareScaled c s la lp with
    | .gt => true
    | .eq => closed
    | .lt => false
  let belowHigh := match compareScaled c s ha hp with
    | .lt => true
    | .eq => closed
    | .gt => false
  aboveLow && belowHigh

/-- The power of ten just below a positive value: `10^E ≤ v < 10^(E+1)`. -/
def decimalExponent (v : Binary64) : Int :=
  let binary : Int := (v.significand.log2 : Int) + v.exponent
  adjust 8 ((binary * 30103) / 100000)
where
  /-- Moves an estimate onto the right power; the estimate is off by at most one. -/
  adjust : Nat → Int → Int
    | 0, guess => guess
    | fuel + 1, guess =>
      if compareScaled 1 (guess + 1) v.significand v.exponent != .gt then adjust fuel (guess + 1)
      else if compareScaled 1 guess v.significand v.exponent == .gt then adjust fuel (guess - 1)
      else guess

/-- The grid points around the value with `k` significant digits, as the number below and
the scale of the grid. -/
def gridBelow (v : Binary64) (k : Nat) : Nat × Int :=
  let s := v.decimalExponent - k + 1
  let num := v.significand * Nat.pow 2 v.exponent.toNat * Nat.pow 10 (-s).toNat
  let den := Nat.pow 2 (-v.exponent).toNat * Nat.pow 10 s.toNat
  (num / den, s)

/-- The nearer of two grid points `lo · 10^s` and `(lo+1) · 10^s`; an exact tie goes to the
even one. -/
def nearer (v : Binary64) (lo : Nat) (s : Int) : Nat :=
  match compareScaled (2 * lo + 1) s (2 * v.significand) v.exponent with
  | .gt => lo
  | .lt => lo + 1
  | .eq => if lo % 2 == 0 then lo else lo + 1

/-- The shortest digits of a positive finite value, searching 1 to 17 significant digits. -/
def shortest (v : Binary64) : DecimalDigits :=
  search 1 16
where
  /-- Tries grids of `k`, `k+1`, … digits; seventeen digits always hit. -/
  search : Nat → Nat → DecimalDigits
    | k, 0 => let (lo, s) := v.gridBelow k; DecimalDigits.normalize ⟨v.nearer lo s, s⟩
    | k, fuel + 1 =>
      let (lo, s) := v.gridBelow k
      let below := v.holds lo s
      let above := v.holds (lo + 1) s
      if below && above then DecimalDigits.normalize ⟨v.nearer lo s, s⟩
      else if below then DecimalDigits.normalize ⟨lo, s⟩
      else if above then DecimalDigits.normalize ⟨lo + 1, s⟩
      else search (k + 1) fuel

end Binary64

/-- How a decimal text is laid out: which point positions are written positionally, and the
spellings of the values without digits. -/
structure DecimalStyle where
  /-- Positional notation is used when `lowPoint < point ≤ highPoint`. -/
  lowPoint : Int
  /-- See `lowPoint`. -/
  highPoint : Int
  /-- Least number of exponent digits. -/
  exponentDigits : Nat
  /-- Spelling of infinity, without its sign. -/
  infinity : String
  /-- Spelling of a NaN. -/
  notANumber : String

namespace DecimalStyle

/-- The text of a number as a value is shown: positional from `1e-4` up to below `1e16`, a
point and a zero on whole numbers, and `e±dd` exponents elsewhere. -/
def plain : DecimalStyle := ⟨-4, 16, 2, "inf", "nan"⟩

/-- The same layout inside a JSON document, which names the two special values. -/
def json : DecimalStyle := ⟨-4, 16, 2, "Infinity", "NaN"⟩

end DecimalStyle

/-- Writes significant digits with a decimal point according to a style. -/
def DecimalDigits.layout (style : DecimalStyle) (d : DecimalDigits) : String :=
  let ds := d.text
  let point := d.point
  if style.lowPoint < point && point ≤ style.highPoint then
    if point ≤ 0 then "0." ++ "".pushn '0' (-point).toNat ++ ds
    else if point.toNat ≥ ds.length then ds ++ "".pushn '0' (point.toNat - ds.length) ++ ".0"
    else String.ofList (ds.toList.take point.toNat) ++ "." ++ String.ofList (ds.toList.drop point.toNat)
  else
    let first := String.ofList (ds.toList.take 1)
    let rest := String.ofList (ds.toList.drop 1)
    let mantissa := if rest.isEmpty then first else first ++ "." ++ rest
    let exp := point - 1
    let expDigits := toString exp.natAbs
    let padded := "".pushn '0' (style.exponentDigits - expDigits.length) ++ expDigits
    mantissa ++ "e" ++ (if exp < 0 then "-" else "+") ++ padded

/-- The shortest decimal text of a double that reads back as the same double. -/
def Double.text (style : DecimalStyle) (x : Float) : String :=
  if x.isNaN then style.notANumber
  else match Double.parts? x with
    | none => (if x < 0 then "-" else "") ++ style.infinity
    | some v =>
      let sign := if v.negative then "-" else ""
      if v.significand == 0 then sign ++ "0.0"
      else sign ++ (v.shortest).layout style

end TenantAuth
