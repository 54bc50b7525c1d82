import TenantAuth.Numeric.Extended
import TenantAuth.Text.Numeral
import TenantAuth.Fault
import TenantAuth.Text.Quote

/-!
# Values kept in typed columns

What the relational store keeps when a dynamic value is written to a column of a given type: a text
column keeps text and the decimal text of numbers and moments, and truth-value and integer columns
take the numbers they can hold. Integers beyond 64 bits, containers and text carrying a lone
surrogate cannot be bound, and other mismatches are refused by the column's type.
-/

namespace TenantAuth

namespace Column

/-- The text a text column keeps of a present value. -/
def text : Datum → Except Fault String
  | .str s => if Surrogate.carries s then .error .unencodable else .ok s
  | .int n => if Numeral.fitsWord n then .ok (toString n) else .error .overflow
  | .bool b => .ok (if b then "1" else "0")
  | .float x => if x.isNaN then .error .constraintViolated else .ok (Double.storedText x)
  | .moment m => .ok m.text
  | .none => .error .constraintViolated
  | .bytes _ => .error .unstorable
  | .list _ => .error .unstorable
  | .dict _ => .error .unstorable
  | .set _ => .error .unstorable
  | .tuple _ => .error .unstorable
  | .cycle _ _ => .error .unstorable

/-- The text a nullable text column keeps. -/
def optionalText : Datum → Except Fault (Option String)
  | .none => .ok none
  | .float x => if x.isNaN then .ok none else .ok (some (Double.storedText x))
  | d => (text d).map some

/-- The truth value a truth-value column keeps. -/
def flag : Datum → Except Fault Bool
  | .bool b => .ok b
  | .int n => if n == 0 then .ok false else if n == 1 then .ok true else .error .columnMismatch
  | .float x => if x == 0 then .ok false else if x == 1 then .ok true else .error .columnMismatch
  | .none => .error .constraintViolated
  | _ => .error .columnMismatch

/-- The integer an integer column keeps. -/
def integer : Datum → Except Fault Int
  | .int n => if Numeral.fitsWord n then .ok n else .error .overflow
  | .bool b => .ok (if b then 1 else 0)
  | .float x => match Double.truncate? x with
    | some n => if Double.isWhole x then .ok n else .error .columnMismatch
    | none => .error .columnMismatch
  | .none => .error .constraintViolated
  | _ => .error .columnMismatch

theorem text_str (s : String) (h : Surrogate.carries s = false) : text (.str s) = .ok s := by
  simp [text, h]

end Column

end TenantAuth
