import TenantAuth.Datum.Basic
import TenantAuth.Numeric.Shortest
import TenantAuth.Text.Quote

/-!
JSON text for dynamic values. Reading follows the strict grammar with `NaN` and the infinities,
pairs surrogate escapes (carrying a lone one), keeps a repeated key's first position and last value,
and refuses a document holding more than `nestingRoom` open arrays and objects as
`ReadError.tooDeep`. Writing is compact and escapes the controls and a carried surrogate, and in
ASCII mode every character from U+007F on.
-/

namespace TenantAuth

namespace Json

/-- The blanks allowed between tokens. -/
def isBlank (c : Char) : Bool := c == ' ' || c == '\t' || c == '\n' || c == '\r'

/-- The input without leading blanks. -/
def skipBlank (cs : List Char) : List Char := cs.dropWhile isBlank

/-- The value of a hexadecimal digit. -/
def hexValue? (c : Char) : Option Nat :=
  if '0' ≤ c && c ≤ '9' then some (c.toNat - '0'.toNat)
  else if 'a' ≤ c && c ≤ 'f' then some (c.toNat - 'a'.toNat + 10)
  else if 'A' ≤ c && c ≤ 'F' then some (c.toNat - 'A'.toNat + 10)
  else none

/-- Four hexadecimal digits at the front of the input. -/
def hex4? : List Char → Option (Nat × List Char)
  | a :: b :: c :: d :: rest => do
    let va ← hexValue? a
    let vb ← hexValue? b
    let vc ← hexValue? c
    let vd ← hexValue? d
    pure (((va * 16 + vb) * 16 + vc) * 16 + vd, rest)
  | _ => none

/-- The character a one-letter escape stands for. -/
def shortEscape? : Char → Option Char
  | '"' => some '"'
  | '\\' => some '\\'
  | '/' => some '/'
  | 'b' => some (Char.ofNat 8)
  | 'f' => some (Char.ofNat 12)
  | 'n' => some '\n'
  | 'r' => some '\r'
  | 't' => some '\t'
  | _ => none

/-- Why a JSON text cannot be read. -/
inductive ReadError where
  /-- The text breaks the grammar: the message says what was expected, and the count is the
  number of characters left from the point where reading stopped. -/
  | malformed (message : String) (remaining : Nat)
  /-- An integer is written with more digits than a conversion accepts. -/
  | tooManyDigits
  /-- More arrays and objects are open at once than the reader has room for. -/
  | tooDeep

/-- How many arrays and objects may be open at once. CPython reads them by recursion and
gives up once they, together with the frames of the code that called the reader, pass the
interpreter's limit of 1000; below the checks of a token that leaves room for 985. -/
def nestingRoom : Nat := 985

/-- The most digits an integer literal may have. -/
def maxIntDigits : Nat := 4300

/-- The message of a string without its closing quote. -/
def unterminated : String := "Unterminated string starting at"

/-- The message of a malformed \u escape. -/
def badUnicodeEscape : String := "Invalid \\uXXXX escape"

/-- The character of a \u escape whose code is read, given what follows its four digits: a
high surrogate takes a following low one when at least one character comes after that
second escape; a surrogate left alone is carried (`Surrogate.carrier`). A malformed second
escape is refused where its letter u stands. -/
def pairedEscape (code : Nat) (after : List Char) : Except ReadError (Char × List Char) :=
  if 0xD800 ≤ code && code ≤ 0xDBFF && after.length ≥ 7 then
    match after with
    | '\\' :: 'u' :: more =>
      match hex4? more with
      | some (low, rest) =>
        if 0xDC00 ≤ low && low ≤ 0xDFFF then
          .ok (Char.ofNat (0x10000 + (code - 0xD800) * 0x400 + (low - 0xDC00)), rest)
        else .ok (Surrogate.carrier code, after)
      | none => .error (.malformed badUnicodeEscape (after.length - 1))
    | _ => .ok (Surrogate.carrier code, after)
  else if Surrogate.isSurrogate code then .ok (Surrogate.carrier code, after)
  else .ok (Char.ofNat code, after)

/-- Reads text after its opening quote, up to and including the closing quote; `start` is
the count of characters left at the opening quote. -/
def readText (start : Nat) : Nat → List Char → List Char → Except ReadError (String × List Char)
  | 0, _, _ => .error (.malformed unterminated start)
  | _ + 1, _, [] => .error (.malformed unterminated start)
  | fuel + 1, acc, c :: rest =>
    if c == '"' then .ok (String.ofList acc.reverse, rest)
    else if c == '\\' then
      match rest with
      | 'u' :: more =>
        match hex4? more with
        | some (code, after) =>
          if after.isEmpty then .error (.malformed badUnicodeEscape rest.length)
          else match pairedEscape code after with
            | .ok (ch, after') => readText start fuel (ch :: acc) after'
            | .error e => .error e
        | none => .error (.malformed badUnicodeEscape rest.length)
      | e :: more =>
        match shortEscape? e with
        | some ch => readText start fuel (ch :: acc) more
        | none => .error (.malformed "Invalid \\escape" (rest.length + 1))
      | [] => .error (.malformed unterminated start)
    else if c.toNat < 0x20 then .error (.malformed "Invalid control character at" (rest.length + 1))
    else readText start fuel (c :: acc) rest

/-- The value of a run of ASCII digits. -/
def digitsValue (ds : List Char) : Nat :=
  ds.foldl (fun n d => n * 10 + (d.toNat - '0'.toNat)) 0

/-- Reads a number: `-?(0|[1-9][0-9]*)(\.[0-9]+)?([eE][-+]?[0-9]+)?`. -/
def readNumber (cs : List Char) : Option (Datum × List Char) :=
  let (negative, afterSign) := match cs with
    | '-' :: r => (true, r)
    | r => (false, r)
  let (whole, afterWhole) := match afterSign with
    | '0' :: r => (['0'], r)
    | r => (r.takeWhile Char.isDigit, r.dropWhile Char.isDigit)
  if whole.isEmpty then none
  else
    let (frac, afterFrac) := match afterWhole with
      | '.' :: r =>
        let ds := r.takeWhile Char.isDigit
        if ds.isEmpty then ([], afterWhole) else (ds, r.dropWhile Char.isDigit)
      | r => ([], r)
    let hasFrac := afterFrac.length != afterWhole.length
    let (expo, afterExp, hasExp) := match afterFrac with
      | e :: r =>
        if e == 'e' || e == 'E' then
          let (expNeg, r') := match r with
            | '-' :: r'' => (true, r'')
            | '+' :: r'' => (false, r'')
            | r'' => (false, r'')
          let ds := r'.takeWhile Char.isDigit
          if ds.isEmpty then ((0 : Int), afterFrac, false)
          else
            let v : Int := digitsValue ds
            (if expNeg then -v else v, r'.dropWhile Char.isDigit, true)
        else (0, afterFrac, false)
      | [] => (0, [], false)
    if !hasFrac && !hasExp then
      let v : Int := digitsValue whole
      some (.int (if negative then -v else v), afterExp)
    else
      let mantissa := digitsValue (whole ++ frac)
      some (.float (Double.ofDecimal negative mantissa (expo - frac.length)), afterExp)

/-- Whether the input starts with a word. -/
def startsWith (cs : List Char) (word : String) : Bool :=
  word.toList.isPrefixOf cs

/-- Whether a value read from a literal is an integer with too many digits. -/
def tooLong : Datum → Bool
  | .int n => (toString n.natAbs).length > maxIntDigits
  | _ => false

/-- The failure of a grammar rule at the front of the input. -/
def expecting {α : Type} (what : String) (cs : List Char) : Except ReadError α :=
  .error (.malformed what cs.length)

mutual

/-- Reads one value at the front of the input (no leading blanks), with room for `room` more
open arrays and objects. With `lexemes`, every number is kept as the text it was written as;
with `limited`, integers with too many digits are refused. -/
def readValue (lexemes limited : Bool) (room : Nat) :
    Nat → List Char → Except ReadError (Datum × List Char)
  | 0, cs => expecting "Expecting value" cs
  | fuel + 1, cs =>
    match cs with
    | '"' :: rest => do
      let (s, after) ← readText cs.length rest.length [] rest
      pure (.str s, after)
    | '{' :: rest => match room with
      | 0 => .error .tooDeep
      | room + 1 => readObject lexemes limited room fuel [] (skipBlank rest) true
    | '[' :: rest => match room with
      | 0 => .error .tooDeep
      | room + 1 => readArray lexemes limited room fuel [] (skipBlank rest) true
    | _ =>
      if startsWith cs "null" then .ok (.none, cs.drop 4)
      else if startsWith cs "true" then .ok (.bool true, cs.drop 4)
      else if startsWith cs "false" then .ok (.bool false, cs.drop 5)
      else match readNumber cs with
        | some (d, after) =>
          if lexemes then .ok (.str (String.ofList (cs.take (cs.length - after.length))), after)
          else if limited && tooLong d then .error .tooManyDigits
          else .ok (d, after)
        | none =>
          if startsWith cs "NaN" then .ok (.float (0.0 / 0.0), cs.drop 3)
          else if startsWith cs "Infinity" then .ok (.float (1.0 / 0.0), cs.drop 8)
          else if startsWith cs "-Infinity" then .ok (.float (-1.0 / 0.0), cs.drop 9)
          else expecting "Expecting value" cs

/-- Reads the members of an object after its opening brace and blanks; `first` marks that no
member was read yet. -/
def readObject (lexemes limited : Bool) (room : Nat) :
    Nat → List (Datum × Datum) → List Char → Bool → Except ReadError (Datum × List Char)
  | 0, _, cs, _ => expecting "Expecting value" cs
  | fuel + 1, acc, cs, first =>
    match cs with
    | '}' :: rest => if first then .ok (.dict acc, rest)
      else expecting "Expecting property name enclosed in double quotes" cs
    | '"' :: rest => do
      let (key, afterKey) ← readText cs.length rest.length [] rest
      match skipBlank afterKey with
      | ':' :: afterColon => do
        let (value, afterValue) ← readValue lexemes limited room fuel (skipBlank afterColon)
        let acc' := Datum.assign acc (.str key) value
        match skipBlank afterValue with
        | ',' :: more => readObject lexemes limited room fuel acc' (skipBlank more) false
        | '}' :: more => .ok (.dict acc', more)
        | other => expecting "Expecting ',' delimiter" other
      | other => expecting "Expecting ':' delimiter" other
    | _ => expecting "Expecting property name enclosed in double quotes" cs

/-- Reads the items of an array after its opening bracket and blanks; `first` marks that no
item was read yet. -/
def readArray (lexemes limited : Bool) (room : Nat) :
    Nat → List Datum → List Char → Bool → Except ReadError (Datum × List Char)
  | 0, _, cs, _ => expecting "Expecting value" cs
  | fuel + 1, acc, cs, first =>
    match cs with
    | ']' :: rest => if first then .ok (.list acc.reverse, rest) else expecting "Expecting value" cs
    | _ => do
      let (value, afterValue) ← readValue lexemes limited room fuel cs
      match skipBlank afterValue with
      | ',' :: more => readArray lexemes limited room fuel (value :: acc) (skipBlank more) false
      | ']' :: more => .ok (.list (value :: acc).reverse, more)
      | other => expecting "Expecting ',' delimiter" other

end

/-- Reads a whole JSON text, telling where it fails. -/
def decodeWith (lexemes limited : Bool) (text : String) : Except ReadError Datum := do
  let cs := text.toList
  if cs.head? == some (Char.ofNat 0xFEFF) then
    expecting "Unexpected UTF-8 BOM (decode using utf-8-sig)" cs
  let (value, rest) ← readValue lexemes limited nestingRoom (cs.length + 1) (skipBlank cs)
  let rest := skipBlank rest
  if rest.isEmpty then pure value else expecting "Extra data" rest

/-- Reads a whole JSON text; with `lexemes`, every number is kept as the text it was
written as, and otherwise integers with too many digits are refused. A failure gives what
was expected. -/
def parseWith (lexemes : Bool) (text : String) : Except String Datum :=
  match decodeWith lexemes (!lexemes) text with
  | .ok d => .ok d
  | .error (.malformed message _) => .error message
  | .error .tooManyDigits => .error "Exceeds the limit for integer string conversion"
  | .error .tooDeep => .error "maximum recursion depth exceeded"

/-- The failure of a JSON text as a message and the position, in characters, where it
arose; integers with too many digits are refused. -/
def decode (text : String) : Except ReadError Datum := decodeWith false true text

/-- The position of a failure in a text of a given length. -/
def ReadError.position (e : ReadError) (length : Nat) : Nat :=
  match e with
  | .malformed _ remaining => length - remaining
  | .tooManyDigits | .tooDeep => 0

/-- Reads a whole JSON text. -/
def parse (text : String) : Except String Datum := parseWith false text

/-- The escaped form of one character of a text; `asciiOnly` also escapes everything from
U+007F on. -/
def escapeChar (asciiOnly : Bool) (c : Char) : String :=
  let n := c.toNat
  if c == '"' then "\\\""
  else if c == '\\' then "\\\\"
  else if c == '\n' then "\\n"
  else if c == '\r' then "\\r"
  else if c == '\t' then "\\t"
  else if n == 8 then "\\b"
  else if n == 12 then "\\f"
  else if n < 0x20 then "\\u" ++ Quote.hex 4 n
  else if let some unit := Surrogate.carried? c then "\\u" ++ Quote.hex 4 unit
  else if asciiOnly && n ≥ 0x7F then
    if n < 0x10000 then "\\u" ++ Quote.hex 4 n
    else
      let v := n - 0x10000
      "\\u" ++ Quote.hex 4 (0xD800 + v / 0x400) ++ "\\u" ++ Quote.hex 4 (0xDC00 + v % 0x400)
  else c.toString

/-- A text as a JSON string literal. -/
def quoteText (asciiOnly : Bool) (s : String) : String :=
  "\"" ++ String.join (s.toList.map (escapeChar asciiOnly)) ++ "\""

/-- The text a mapping key is written as: text itself, numbers, truth values and the absent
value by their JSON spelling. -/
def keyText : Datum → String
  | .str s => s
  | .int n => toString n
  | .float x => Double.text DecimalStyle.json x
  | .bool b => if b then "true" else "false"
  | .none => "null"
  | _ => ""

mutual

/-- Compact JSON text of a value; bytes are written as the text of their code points, a
moment as a string of its text, sets and tuples as arrays, and a container that contains
itself as its unfolded value. -/
def render (asciiOnly : Bool) : Datum → String
  | .none => "null"
  | .bool b => if b then "true" else "false"
  | .int n => toString n
  | .float x => Double.text DecimalStyle.json x
  | .str s => quoteText asciiOnly s
  | .bytes b => quoteText asciiOnly (String.ofList (b.map fun u => Char.ofNat u.toNat))
  | .moment m => quoteText asciiOnly m.text
  | .list xs => "[" ++ renderItems asciiOnly xs ++ "]"
  | .dict es => "\x7b" ++ renderEntries asciiOnly es ++ "\x7d"
  | .set xs => "[" ++ renderItems asciiOnly xs ++ "]"
  | .tuple xs => "[" ++ renderItems asciiOnly xs ++ "]"
  | .cycle _ d => render asciiOnly d

/-- Items separated by commas. -/
def renderItems (asciiOnly : Bool) : List Datum → String
  | [] => ""
  | [x] => render asciiOnly x
  | x :: xs => render asciiOnly x ++ "," ++ renderItems asciiOnly xs

/-- Entries separated by commas. -/
def renderEntries (asciiOnly : Bool) : List (Datum × Datum) → String
  | [] => ""
  | [(k, v)] => quoteText asciiOnly (keyText k) ++ ":" ++ render asciiOnly v
  | (k, v) :: es =>
    quoteText asciiOnly (keyText k) ++ ":" ++ render asciiOnly v ++ "," ++ renderEntries asciiOnly es

end

example : render true (.dict [(.str "a", .list [.int 1, .none])]) = "\x7b\"a\":[1,null]\x7d" := by cbv
example : quoteText true "é" = "\"\\u00e9\"" := by cbv

end Json

end TenantAuth
