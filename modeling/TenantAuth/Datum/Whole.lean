import TenantAuth.Datum.Display
import TenantAuth.Fault
import TenantAuth.Text.Numeral

/-!
The whole number a dynamic value stands for, under the rules of integer conversion: integers
are themselves, truth values are 0 and 1, doubles are cut toward zero, and text is read as an
integer literal. An infinite double is too large; an undefined double and text that is not a
literal are wrong values; absent values, sequences and mappings have no whole number at all.
-/

namespace TenantAuth

namespace Datum

/-- The most characters of a value shown in the message about a bad literal. -/
def shownLength : Nat := 200

/-- The message for text that is not an integer literal. -/
def badLiteralMessage (s : String) : String :=
  "invalid literal for int() with base 10: " ++ String.ofList ((Datum.str s).repr.toList.take shownLength)

/-- The message for a literal with too many digits. -/
def tooManyDigitsMessage (digits : Nat) : String :=
  "Exceeds the limit (4300 digits) for integer string conversion: value has " ++ toString digits ++
    " digits; use sys.set_int_max_str_digits() to increase the limit"

/-- The whole number a value stands for. -/
def toInt : Datum → Except Fault Int
  | .int n => .ok n
  | .bool b => .ok (if b then 1 else 0)
  | .float x =>
    if x.isNaN then .error (.badValue "cannot convert float NaN to integer")
    else match Double.truncate? x with
      | some n => .ok n
      | Option.none => .error .overflow
  | .str s => match Numeral.readInt s with
    | .ok n => .ok n
    | .error .invalid => .error (.badValue (badLiteralMessage s))
    | .error (.tooLong d) => .error (.badValue (tooManyDigitsMessage d))
  | _ => .error .wrongType

/-- The text of a value, or the fault of an integer too long to write out. -/
def display? (d : Datum) : Except Fault String :=
  if d.hasLongInt then .error (.badValue tooLongToShowMessage) else .ok d.display

/-- The unambiguous text of a value, or the fault of an integer too long to write out. -/
def repr? (d : Datum) : Except Fault String :=
  if d.hasLongInt then .error (.badValue tooLongToShowMessage) else .ok d.repr

end Datum

end TenantAuth
