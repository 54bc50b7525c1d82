/-!
# Tags of YAML nodes

Every node carries a tag naming its kind of value, the core schema's under `tag:yaml.org,2002:`. A
plain scalar without a tag gets one from its text by the YAML 1.1 rules for null, bool, int (with
octal, binary, hexadecimal and base 60), float, timestamp, merge and value, and `str` otherwise.
Quoted and block scalars are text unless tagged.
-/

namespace TenantAuth

namespace Yaml

namespace Tag

/-- The full name of a core schema tag. -/
def core (name : String) : String := "tag:yaml.org,2002:" ++ name

/-- The tag of the absent value. -/
def null : String := core "null"
/-- The tag of truth values. -/
def bool : String := core "bool"
/-- The tag of integers. -/
def int : String := core "int"
/-- The tag of floating-point numbers. -/
def float : String := core "float"
/-- The tag of text. -/
def str : String := core "str"
/-- The tag of base64-encoded bytes. -/
def binary : String := core "binary"
/-- The tag of dates and times. -/
def timestamp : String := core "timestamp"
/-- The tag of sequences. -/
def seq : String := core "seq"
/-- The tag of mappings. -/
def map : String := core "map"
/-- The tag of sets (mappings whose values are ignored). -/
def set : String := core "set"
/-- The tag of ordered mappings, written as a sequence of one-entry mappings. -/
def omap : String := core "omap"
/-- The tag of pair lists, written as a sequence of one-entry mappings. -/
def pairs : String := core "pairs"
/-- The tag of the merge key `<<`. -/
def merge : String := core "merge"
/-- The tag of the default-value key `=`. -/
def value : String := core "value"

/-- Drops an optional sign. -/
def unsigned : List Char → List Char
  | '-' :: rest => rest
  | '+' :: rest => rest
  | cs => cs

/-- A decimal digit or an underscore. -/
def isDigitish (c : Char) : Bool := c.isDigit || c == '_'

/-- An optional exponent `e±digits`, and nothing after it. -/
def exponentOnly : List Char → Bool
  | [] => true
  | e :: s :: ds => (e == 'e' || e == 'E') && (s == '-' || s == '+') && !ds.isEmpty &&
      ds.all Char.isDigit
  | _ => false

/-- Base-60 groups `:d` or `:dd` (the first of two digits at most 5), one or more, followed
by what `rest` accepts. -/
def sexagesimalThen (rest : List Char → Bool) : List Char → Bool
  | ':' :: d1 :: d2 :: more =>
    if d1.isDigit && d2.isDigit then
      d1 ≤ '5' && (rest more || sexagesimalThen rest more)
    else d1.isDigit && (rest (d2 :: more) || sexagesimalThen rest (d2 :: more))
  | [':', d] => d.isDigit && rest []
  | _ => false

/-- Whether a plain scalar reads as a truth value. -/
def isBool (s : String) : Bool :=
  ["yes", "Yes", "YES", "no", "No", "NO", "true", "True", "TRUE", "false", "False", "FALSE",
   "on", "On", "ON", "off", "Off", "OFF"].contains s

/-- Whether a plain scalar reads as the absent value. -/
def isNull (s : String) : Bool :=
  ["~", "null", "Null", "NULL", ""].contains s

/-- Whether a plain scalar reads as a floating-point number. -/
def isFloat (s : String) : Bool :=
  let cs := s.toList
  let body := unsigned cs
  let pointed (cs : List Char) : Bool :=
    match cs with
    | d :: rest =>
      d.isDigit &&
        (match rest.dropWhile isDigitish with
         | '.' :: frac => exponentOnly (frac.dropWhile isDigitish)
         | _ => false)
    | [] => false
  let leadingPoint (cs : List Char) : Bool :=
    match cs with
    | '.' :: d :: rest => d.isDigit && exponentOnly (rest.dropWhile isDigitish)
    | _ => false
  let baseSixty (cs : List Char) : Bool :=
    match cs with
    | d :: rest =>
      d.isDigit && sexagesimalThen (fun tail => match tail with
        | '.' :: frac => frac.all isDigitish
        | _ => false) (rest.dropWhile isDigitish)
    | [] => false
  pointed body || leadingPoint cs || baseSixty body ||
    [".inf", ".Inf", ".INF"].contains (String.ofList body) ||
    [".nan", ".NaN", ".NAN"].contains s

/-- Whether a plain scalar reads as an integer. -/
def isInt (s : String) : Bool :=
  let body := unsigned s.toList
  match body with
  | '0' :: 'b' :: rest => !rest.isEmpty && rest.all (fun c => c == '0' || c == '1' || c == '_')
  | '0' :: 'x' :: rest => !rest.isEmpty && rest.all (fun c => c.isHexDigit || c == '_')
  | ['0'] => true
  | '0' :: rest => rest.all (fun c => ('0' ≤ c && c ≤ '7') || c == '_')
  | d :: rest =>
    '1' ≤ d && d ≤ '9' &&
      (rest.all isDigitish || sexagesimalThen List.isEmpty (rest.dropWhile isDigitish))
  | [] => false

/-- Exactly `n` digits at the front, and what follows them. -/
def digits (n : Nat) (cs : List Char) : Option (List Char) :=
  if (cs.take n).length == n && (cs.take n).all Char.isDigit then some (cs.drop n) else none

/-- One or two digits at the front, and what follows them. -/
def oneOrTwoDigits (cs : List Char) : Option (List Char) :=
  match cs with
  | a :: b :: rest => if a.isDigit then some (if b.isDigit then rest else b :: rest) else none
  | [a] => if a.isDigit then some [] else none
  | [] => none

/-- Whether a plain scalar reads as a date, or a date and time. -/
def isTimestamp (s : String) : Bool :=
  let cs := s.toList
  let dateOnly : Bool :=
    match digits 4 cs with
    | some ('-' :: r) =>
      match digits 2 r with
      | some ('-' :: r) => digits 2 r == some []
      | _ => false
    | _ => false
  let blank (c : Char) : Bool := c == ' ' || c == '\t'
  let zone (r : List Char) : Bool :=
    match r.dropWhile blank with
    | [] => r.isEmpty
    | ['Z'] => true
    | sign :: r =>
      (sign == '-' || sign == '+') &&
        match oneOrTwoDigits r with
        | some [] => true
        | some (':' :: r) => digits 2 r == some []
        | _ => false
  let separator (r : List Char) : Option (List Char) :=
    match r with
    | c :: rest =>
      if c == 'T' || c == 't' then some rest
      else if blank c then some (rest.dropWhile blank)
      else none
    | [] => none
  let fraction (r : List Char) : List Char :=
    match r with
    | '.' :: rest => rest.dropWhile Char.isDigit
    | _ => r
  let dateTime : Bool :=
    match digits 4 cs with
    | some ('-' :: r) =>
      match oneOrTwoDigits r with
      | some ('-' :: r) =>
        match (oneOrTwoDigits r).bind separator |>.bind oneOrTwoDigits with
        | some (':' :: r) =>
          match digits 2 r with
          | some (':' :: r) =>
            match digits 2 r with
            | some r => let r := fraction r; r.isEmpty || zone r
            | none => false
          | _ => false
        | _ => false
      | _ => false
    | _ => false
  dateOnly || dateTime

/-- Characters without one line break at their end. -/
def withoutFinalBreak (cs : List Char) : List Char :=
  if cs.getLast? == some '\n' then cs.dropLast else cs

/-- The tag of a plain scalar's text without a final line break. -/
def ofPlainBody (s : String) : String :=
  if isBool s then bool
  else if isFloat s then float
  else if isInt s then int
  else if s == "<<" then merge
  else if isNull s then null
  else if isTimestamp s then timestamp
  else if s == "=" then value
  else str

/-- The tag a plain scalar gets from its text; the text may end in one line break, except
that a lone line break is text. -/
def ofPlain (s : String) : String :=
  if s == "\n" then str else ofPlainBody (String.ofList (withoutFinalBreak s.toList))

example : ofPlain "yes" = bool := by decide
example : isInt "1_000" = true := by decide
example : isInt "1:30" = true := by decide
example : isInt "08" = false := by decide
example : isFloat "1.5" = true := by decide
example : isFloat "1e3" = false := by decide

end Tag

end Yaml

end TenantAuth
