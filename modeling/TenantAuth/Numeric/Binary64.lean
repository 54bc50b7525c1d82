/-!
Binary64 values taken apart exactly. A finite double is `± m · 2^e` with `m < 2^53`; reading
the bit pattern gives `m` and `e` without rounding, so comparisons with integers, truncation
toward zero and decimal printing can all be done in exact `Nat` and `Int` arithmetic.
-/

namespace TenantAuth

/-- The exact value of a finite binary64 number: a sign, a significand and a power of two. -/
structure Binary64 where
  /-- Whether the sign bit is set (true also for negative zero). -/
  negative : Bool
  /-- The integer significand, below `2^53`. -/
  significand : Nat
  /-- The power of two the significand is scaled by. -/
  exponent : Int
deriving Repr, DecidableEq

namespace Binary64

/-- Reads the fields of a binary64 bit pattern; infinities and NaNs have no exact value. -/
def ofBits (bits : UInt64) : Option Binary64 :=
  let negative := bits >>> 63 == 1
  let biased := ((bits >>> 52) &&& 0x7FF).toNat
  let fraction := (bits &&& 0xFFFFFFFFFFFFF).toNat
  if biased == 0x7FF then none
  else if biased == 0 then some ⟨negative, fraction, -1074⟩
  else some ⟨negative, fraction + Nat.pow 2 52, (biased : Int) - 1075⟩

/-- The magnitude as an exact rational numerator over a power of two: `m · 2^e`, split so
that no negative power appears. -/
def scaledMagnitude (v : Binary64) : Nat × Nat :=
  (v.significand * Nat.pow 2 v.exponent.toNat, Nat.pow 2 (-v.exponent).toNat)

/-- The value rounded toward zero to an integer. -/
def truncate (v : Binary64) : Int :=
  let (num, den) := v.scaledMagnitude
  let whole : Int := (num / den : Nat)
  if v.negative then -whole else whole

/-- Whether the value has no fractional part. -/
def isIntegral (v : Binary64) : Bool :=
  let (num, den) := v.scaledMagnitude
  num % den == 0

/-- Exact comparison of the value with an integer. -/
def compareInt (v : Binary64) (n : Int) : Ordering :=
  let (num, den) := v.scaledMagnitude
  let signed : Int := if v.negative then -(num : Int) else num
  compare signed (n * den)

end Binary64

/-! Doubles through their exact values. -/
namespace Double

/-- The exact value of a finite double, or nothing for an infinity or a NaN. -/
def parts? (x : Float) : Option Binary64 :=
  Binary64.ofBits x.toBits

/-- A double rounded toward zero to an integer; infinities and NaNs have none. -/
def truncate? (x : Float) : Option Int :=
  (parts? x).map Binary64.truncate

/-- Whether a double is finite and has no fractional part. -/
def isWhole (x : Float) : Bool :=
  match parts? x with
  | some v => v.isIntegral
  | none => false

/-- Exact comparison of a double with an integer; a NaN is unordered, and the two
infinities lie beyond every integer. -/
def compareInt? (x : Float) (n : Int) : Option Ordering :=
  if x.isNaN then none
  else match parts? x with
    | some v => some (v.compareInt n)
    | none => some (if x < 0 then .lt else .gt)

/-- The double nearest to `± mantissa · 10^exponent`, ties to even. -/
def ofDecimal (negative : Bool) (mantissa : Nat) (exponent : Int) : Float :=
  let magnitude : Float :=
    if exponent < 0 then OfScientific.ofScientific mantissa true (-exponent).toNat
    else OfScientific.ofScientific mantissa false exponent.toNat
  if negative then -magnitude else magnitude

/-- The double nearest to an integer. -/
def ofInt (n : Int) : Float :=
  ofDecimal (n < 0) n.natAbs 0

end Double

end TenantAuth
