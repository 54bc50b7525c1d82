import TenantAuth.Datum.Basic
import TenantAuth.Numeric.Shortest
import TenantAuth.Text.Quote

/-!
The text of a dynamic value as diagnostics show it. `Datum.repr` is the unambiguous form, with
quoted text and a container met again inside itself written `[...]` or `{...}`; `Datum.display`
shows text bare and a moment by its text. An integer of more than 4300 digits is not written out at
all (`Datum.repr?`).
-/

namespace TenantAuth

namespace Datum

/-- Bytes as diagnostics show them: printable ASCII bare, the rest as `\xhh`. -/
def bytesRepr (bs : List UInt8) : String :=
  let cs := bs.map (fun b => Char.ofNat b.toNat)
  let q := if cs.contains '\'' && !cs.contains '"' then '"' else '\''
  let body := String.join <| bs.map fun b =>
    let n := b.toNat
    let c := Char.ofNat n
    if c == q || c == '\\' then "\\" ++ c.toString
    else if c == '\t' then "\\t"
    else if c == '\n' then "\\n"
    else if c == '\r' then "\\r"
    else if n < 0x20 || n ≥ 0x7F then "\\x" ++ Quote.hex 2 n
    else c.toString
  "b" ++ q.toString ++ body ++ q.toString

/-- How a container that is already being written shows when it is met again inside
itself. -/
def again (d : Datum) : String :=
  match d.unwrap with
  | .list _ => "[...]"
  | .dict _ => "\x7b...\x7d"
  | _ => "..."

mutual

/-- The unambiguous text of a value met inside the self-containing containers named in
`active`, which are being written around it: meeting one of them again writes `again`. -/
def reprIn (active : List String) : Datum → String
  | .none => "None"
  | .bool b => if b then "True" else "False"
  | .int n => toString n
  | .float x => Double.text DecimalStyle.plain x
  | .str s => Quote.quoted s
  | .bytes b => bytesRepr b
  | .moment m => m.repr
  | .list xs => "[" ++ reprItems active xs ++ "]"
  | .dict es => "\x7b" ++ reprEntries active es ++ "\x7d"
  | .set xs => if xs.isEmpty then "set()" else "\x7b" ++ reprItems active xs ++ "\x7d"
  | .tuple [x] => "(" ++ reprIn active x ++ ",)"
  | .tuple xs => "(" ++ reprItems active xs ++ ")"
  | .cycle a d => if active.contains a then again d else reprIn (a :: active) d

/-- The items of a sequence, separated by commas. -/
def reprItems (active : List String) : List Datum → String
  | [] => ""
  | [x] => reprIn active x
  | x :: xs => reprIn active x ++ ", " ++ reprItems active xs

/-- The entries of a mapping, separated by commas. -/
def reprEntries (active : List String) : List (Datum × Datum) → String
  | [] => ""
  | [(k, v)] => reprIn active k ++ ": " ++ reprIn active v
  | (k, v) :: es => reprIn active k ++ ": " ++ reprIn active v ++ ", " ++ reprEntries active es

end

/-- The unambiguous text of a value. -/
def repr (d : Datum) : String := reprIn [] d

/-- The text of a value: text itself, a moment as its text, everything else as `repr`. -/
def display : Datum → String
  | .str s => s
  | .moment m => m.text
  | d => d.repr

/-- The most decimal digits an integer may have to be written out. -/
def maxShownDigits : Nat := 4300

/-- The message for an integer with too many digits to be written out. -/
def tooLongToShowMessage : String :=
  "Exceeds the limit (4300 digits) for integer string conversion; " ++
    "use sys.set_int_max_str_digits() to increase the limit"

mutual

/-- Whether a value holds an integer with more digits than can be written out. -/
def hasLongInt : Datum → Bool
  | .int n => n.natAbs ≥ Nat.pow 10 maxShownDigits
  | .list xs => anyLongInt xs
  | .set xs => anyLongInt xs
  | .tuple xs => anyLongInt xs
  | .dict es => anyLongIntEntry es
  | .cycle _ d => hasLongInt d
  | _ => false

/-- Whether an item of a sequence holds an integer too long to write out. -/
def anyLongInt : List Datum → Bool
  | [] => false
  | x :: xs => hasLongInt x || anyLongInt xs

/-- Whether an entry of a mapping holds an integer too long to write out. -/
def anyLongIntEntry : List (Datum × Datum) → Bool
  | [] => false
  | (k, v) :: es => hasLongInt k || hasLongInt v || anyLongIntEntry es

end

@[simp] theorem display_str (s : String) : (Datum.str s).display = s := rfl

example : (Datum.dict [(.str "a", .int 1)]).repr = "\x7b'a': 1\x7d" := by cbv
example : (Datum.list [.str "a", .none, .bool true]).repr = "['a', None, True]" := by cbv

end Datum

end TenantAuth
