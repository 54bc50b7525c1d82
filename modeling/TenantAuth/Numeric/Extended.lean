import TenantAuth.Numeric.Shortest

/-!
# Fifteen digits through extended precision

A relational store writes a double as text with fifteen significant digits. It finds them
by scaling the value into `[10^17, 10^19)` with multiplications in the extended format (a
significand of 64 bits, each product rounded to nearest, ties to even), truncating to a
64-bit integer, and rounding that digit string at its fifteenth digit, half up, on the one
digit that follows. Every step rounds, so these digits can differ in the last place from
those of the exact value; the computation here is the same one done exactly over `Nat`,
so it gives the same digits.
-/

namespace TenantAuth

/-- A positive number `significand · 2^exponent` in extended format: the significand has
exactly 64 binary digits. -/
structure Extended where
  /-- The significand, in `[2^63, 2^64)`. -/
  significand : Nat
  /-- The power of two the significand is scaled by. -/
  exponent : Int
deriving Repr, DecidableEq

namespace Extended

/-- `n / 2^k` rounded to the nearest integer, ties to even. -/
def shiftRound (n k : Nat) : Nat :=
  if k = 0 then n
  else
    let q := n / Nat.pow 2 k
    let r := n % Nat.pow 2 k
    let half := Nat.pow 2 (k - 1)
    if half < r || (r == half && q % 2 == 1) then q + 1 else q

theorem shiftRound_zero (n : Nat) : shiftRound n 0 = n := by
  simp [shiftRound]

/-- The extended value nearest to `n · 2^e`, for positive `n`. -/
def ofScaled (n : Nat) (e : Int) : Extended :=
  let bits := n.log2 + 1
  if bits ≤ 64 then ⟨n * Nat.pow 2 (64 - bits), e - ((64 - bits : Nat) : Int)⟩
  else
    let k := bits - 64
    let q := shiftRound n k
    if q = Nat.pow 2 64 then ⟨Nat.pow 2 63, e + k + 1⟩ else ⟨q, e + k⟩

/-- The product of two values, rounded. -/
def mul (a b : Extended) : Extended :=
  ofScaled (a.significand * b.significand) (a.exponent + b.exponent)

/-- `10^k`, rounded. -/
def tenPow (k : Nat) : Extended :=
  ofScaled (Nat.pow 10 k) 0

/-- `10^-k`, rounded. The quotient `2^s / 10^k` keeps at least 66 bits and one more bit
records whether it was exact, so rounding it once more lands where rounding the exact value
would. -/
def tenNegPow (k : Nat) : Extended :=
  let s := 4 * k + 66
  let sticky := if Nat.pow 2 s % Nat.pow 10 k = 0 then 0 else 1
  ofScaled (2 * (Nat.pow 2 s / Nat.pow 10 k) + sticky) (-(s : Int) - 1)

/-- Whether `a` is less than `b`, compared exactly. -/
def lt (a b : Extended) : Bool :=
  let m := min a.exponent b.exponent
  a.significand * Nat.pow 2 (a.exponent - m).toNat <
    b.significand * Nat.pow 2 (b.exponent - m).toNat

/-- The value truncated toward zero. -/
def truncate (x : Extended) : Nat :=
  if 0 ≤ x.exponent then x.significand * Nat.pow 2 x.exponent.toNat
  else x.significand / Nat.pow 2 (-x.exponent).toNat

/-- Multiplies by `factor` and adds `delta` to the count while `keepGoing` holds, at most
`fuel` times. -/
def scaleWhile (keepGoing : Extended → Bool) (factor : Extended) (delta : Int) :
    Nat → Extended × Int → Extended × Int
  | 0, s => s
  | fuel + 1, (x, count) =>
    if keepGoing x then scaleWhile keepGoing factor delta fuel (x.mul factor, count + delta)
    else (x, count)

/-- The value brought into `[10^17, 10^19)` by powers of ten, and the exponent taken out:
down by `10^100`, `10^10` and `10` from `10^19` up, otherwise up by the same steps. Each loop
runs a handful of times for a double, well within its fuel. -/
def scaled (x : Extended) : Extended × Int :=
  if x.lt (ofScaled (Nat.pow 10 19) 0) then
    let s := scaleWhile (·.lt (tenNegPow 97)) (tenPow 100) (-100) 64 (x, 0)
    let s := scaleWhile (·.lt (tenPow 7)) (tenPow 10) (-10) 64 s
    scaleWhile (·.lt (tenPow 17)) (tenPow 1) (-1) 64 s
  else
    let s := scaleWhile (fun y => !y.lt (tenPow 119)) (tenNegPow 100) 100 64 (x, 0)
    let s := scaleWhile (fun y => !y.lt (tenPow 29)) (tenNegPow 10) 10 64 s
    scaleWhile (fun y => !y.lt (tenPow 19)) (tenNegPow 1) 1 64 s

end Extended

/-- The number of decimal digits of a number, one for zero. -/
def decimalLength (n : Nat) : Nat :=
  (Nat.toDigits 10 n).length

/-- Keeps the first `k` of `n`'s digits, rounding half up on the next digit alone; the value
is `result · 10^(dropped digits)`. -/
def roundLeading (n k : Nat) : DecimalDigits :=
  let drop := decimalLength n - k
  if drop = 0 then ⟨n, 0⟩
  else
    let kept := n / Nat.pow 10 drop
    let next := n / Nat.pow 10 (drop - 1) % 10
    ⟨if 5 ≤ next then kept + 1 else kept, drop⟩

namespace Binary64

/-- The fifteen significant digits a store writes for a positive finite value. -/
def fifteenDigits (v : Binary64) : DecimalDigits :=
  let (y, count) := (Extended.ofScaled v.significand v.exponent).scaled
  let d := roundLeading y.truncate 15
  DecimalDigits.normalize ⟨d.digits, d.scale + count⟩

end Binary64

/-- How stored doubles are laid out: positional from `1e-4` up to below `1e15`. -/
def DecimalStyle.stored : DecimalStyle := ⟨-4, 15, 2, "Inf", "NaN"⟩

/-- The text a store keeps of a double: fifteen significant digits, a point in every
mantissa, no sign on zero. -/
def Double.storedText (x : Float) : String :=
  if x.isNaN then DecimalStyle.stored.notANumber
  else match Double.parts? x with
    | none => (if x < 0 then "-" else "") ++ DecimalStyle.stored.infinity
    | some v =>
      if v.significand == 0 then "0.0"
      else
        let t := v.fifteenDigits.layout DecimalStyle.stored
        let t := match t.splitOn "e" with
          | [m, e] => if m.contains '.' then t else m ++ ".0e" ++ e
          | _ => t
        (if v.negative then "-" else "") ++ t

/-- One third, `0x15555555555555 · 2^-54`, is kept as `0.333333333333333`. -/
example :
    Binary64.fifteenDigits ⟨false, 0x15555555555555, -54⟩ = ⟨333333333333333, -15⟩ := by
  decide +kernel

end TenantAuth
