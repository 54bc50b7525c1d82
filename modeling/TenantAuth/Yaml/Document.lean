import TenantAuth.Yaml.Node
import TenantAuth.Datum.Whole
import TenantAuth.Codec.Base64
import TenantAuth.Text.Case

/-!
# The value of a YAML document

`Yaml.load` reads the only document of a text into a `Datum`: scalars by their tags, sequences as
lists, mappings as dicts with `<<` merges and later keys overriding, sets, ordered maps and
timestamps as moments, and a collection containing itself as a `Datum.cycle`. Building happens after
the whole document is read, and its faults are met in the order of a builder that fills collections
level by level.
-/

namespace TenantAuth

namespace Yaml

namespace Document

/-- Fails with a building fault. -/
def refuse (message : String) : Except Fault α :=
  .error (.yaml .constructing message)

/-- The words a truth value may be written as, lower-cased. -/
def truthWords : List (String × Bool) :=
  [("yes", true), ("no", false), ("true", true), ("false", false), ("on", true), ("off", false)]

/-- The message for a literal that does not read in a base. -/
def badLiteral (base : Nat) (text : String) : String :=
  "invalid literal for int() with base " ++ toString base ++ ": " ++
    String.ofList ((Datum.str text).repr.toList.take Datum.shownLength)

/-- The value of a digit in a base up to 36, from ASCII letters and digits or decimal digits
of any script. -/
def digitIn (base : Nat) (c : Char) : Option Nat :=
  let v : Option Nat :=
    if 'a' ≤ c && c ≤ 'z' then some (c.toNat - 'a'.toNat + 10)
    else if 'A' ≤ c && c ≤ 'Z' then some (c.toNat - 'A'.toNat + 10)
    else Digits.value? c
  v.filter (· < base)

/-- Reads an integer literal in base 2, 8 or 16: blanks around, an optional sign, an optional
`0b`/`0o`/`0x` prefix matching the base, then digits of the base. -/
def readInBase (base : Nat) (text : String) : Except Fault Int := do
  let cs := Blank.trimChars Blank.isBlank text.toList
  let (negative, body) := Numeral.splitSign cs
  let letter := if base == 2 then 'b' else if base == 8 then 'o' else 'x'
  let body := match body with
    | '0' :: c :: rest => if c.toLower == letter then rest else body
    | _ => body
  let ds := body.map (digitIn base)
  if body.isEmpty || ds.any Option.isNone then .error (.badValue (badLiteral base text))
  else
    let v : Int := ds.foldl (fun acc d => acc * base + d.getD 0) 0
    .ok (if negative then -v else v)

/-- Reads a decimal integer literal. -/
def readDecimal (text : String) : Except Fault Int :=
  Datum.toInt (.str text)

/-- Base-60 parts, most significant first, as one number. -/
def sexagesimal (parts : List Int) : Int :=
  parts.foldl (fun acc p => acc * 60 + p) 0

/-- The integer a scalar tagged as one stands for: underscores dropped, then a sign, then
`0b` binary, `0x` hexadecimal, `0`-led octal, `:`-separated base 60 or decimal. -/
def integer (text : String) : Except Fault Datum := do
  let v := text.toList.filter (· != '_')
  let (negative, body) := match v with
    | '-' :: rest => (true, rest)
    | '+' :: rest => (false, rest)
    | _ => (false, v)
  let sign : Int := if negative then -1 else 1
  let n ← match body with
    | [] => .error .outOfRange
    | ['0'] => pure 0
    | '0' :: 'b' :: rest => readInBase 2 (String.ofList rest)
    | '0' :: 'x' :: rest => readInBase 16 (String.ofList rest)
    | '0' :: _ => readInBase 8 (String.ofList body)
    | _ =>
      if body.contains ':' then do
        let parts ← ((String.ofList body).splitOn ":").mapM readDecimal
        pure (sexagesimal parts)
      else readDecimal (String.ofList body)
  return .int (sign * n)

/-- The message for text that does not read as a double. -/
def badFloat (text : String) : String :=
  "could not convert string to float: " ++ (Datum.str text).repr

/-- Reads a double literal. -/
def readDouble (text : String) : Except Fault Float :=
  match Numeral.readDouble? text with
  | some x => .ok x
  | none => .error (.badValue (badFloat text))

/-- Base-60 parts, least significant first, as one double: each part times its power of 60,
added up from the least significant part. -/
def sexagesimalDouble (parts : List Float) : Float :=
  (parts.foldl (fun (acc : Float × Nat) p => (acc.1 + p * Float.ofNat acc.2, acc.2 * 60))
    (0.0, 1)).1

/-- The double a scalar tagged as one stands for: underscores dropped and letters lowered,
then a sign, then `.inf`, `.nan`, `:`-separated base 60 or a double literal. -/
def double (text : String) : Except Fault Datum := do
  let v := Case.lower (String.ofList (text.toList.filter (· != '_')))
  let (negative, body) ← match v.toList with
    | [] => .error .outOfRange
    | '-' :: rest => pure (true, String.ofList rest)
    | '+' :: rest => pure (false, String.ofList rest)
    | cs => pure (false, String.ofList cs)
  let signed (x : Float) : Float := if negative then -x else x
  if body == ".inf" then return .float (signed (1.0 / 0.0))
  if body == ".nan" then return .float (0.0 / 0.0)
  if body.contains ':' then
    let parts ← (body.splitOn ":").mapM readDouble
    return .float (signed (sexagesimalDouble parts.reverse))
  return .float (signed (← readDouble body))

/-- The bytes a base64 scalar stands for; its text must be ASCII. -/
def binary (text : String) : Except Fault Datum :=
  if text.toList.any (fun c => c.toNat ≥ 128) then refuse "failed to convert base64 data into ascii"
  else match Base64.decodeStandard text.toUTF8.toList with
    | some bs => .ok (.bytes bs)
    | none => refuse "failed to decode base64 data"

/-- The value of a run of ASCII digits. -/
def digitsValue (cs : List Char) : Nat :=
  Numeral.ofDigits (cs.map fun c => c.toNat - '0'.toNat)

/-- Exactly `n` ASCII digits at the front, and what follows them. -/
def takeDigits (n : Nat) (cs : List Char) : Option (List Char × List Char) :=
  if (cs.take n).length == n && (cs.take n).all Char.isDigit then some (cs.take n, cs.drop n)
  else none

/-- One or two ASCII digits at the front, as many as there are, and what follows them. -/
def takeOneOrTwo (cs : List Char) : Option (List Char × List Char) :=
  match cs with
  | a :: b :: rest =>
    if !a.isDigit then none else if b.isDigit then some ([a, b], rest) else some ([a], b :: rest)
  | [a] => if a.isDigit then some ([a], []) else none
  | [] => none

/-- The offset in minutes a zone names, from the text after the seconds and their fraction:
blanks, then `Z` or a sign with one or two digits of hours and optionally `:` and two digits
of minutes. Empty text names no zone. -/
def zoneOf (cs : List Char) : Option (Option Int) :=
  if cs.isEmpty then some none
  else
    match cs.dropWhile (fun c => c == ' ' || c == '\t') with
    | ['Z'] => some (some 0)
    | sign :: rest =>
      if sign != '+' && sign != '-' then none
      else do
        let (h, rest) ← takeOneOrTwo rest
        let m ← match rest with
          | [] => some 0
          | ':' :: r => do
            let (m, r) ← takeDigits 2 r
            if r.isEmpty then some (digitsValue m) else none
          | _ => none
        let minutes : Int := (digitsValue h * 60 + m : Nat)
        some (some (if sign == '-' then -minutes else minutes))
    | [] => none

/-- The parts of a timestamp's text: a date of four-digit year and one- or two-digit month
and day, optionally followed by `T`, `t` or blanks and a time of one- or two-digit hour, two-digit
minute and second, a fraction, and a zone. The fraction keeps its first six digits, padded to
six. -/
def timestampParts (text : String) : Option Moment := do
  let (year, r) ← takeDigits 4 text.toList
  let r ← match r with
    | '-' :: r => some r
    | _ => none
  let (month, r) ← takeOneOrTwo r
  let r ← match r with
    | '-' :: r => some r
    | _ => none
  let (day, r) ← takeOneOrTwo r
  let date : Moment := ⟨digitsValue year, digitsValue month, digitsValue day, none⟩
  match r with
  | [] => some date
  | c :: rest =>
    let r ← if c == 'T' || c == 't' then some rest
      else if c == ' ' || c == '\t' then some (rest.dropWhile fun c => c == ' ' || c == '\t')
      else none
    let (hour, r) ← takeOneOrTwo r
    let r ← match r with
      | ':' :: r => some r
      | _ => none
    let (minute, r) ← takeDigits 2 r
    let r ← match r with
      | ':' :: r => some r
      | _ => none
    let (second, r) ← takeDigits 2 r
    let (fraction, r) := match r with
      | '.' :: r => (r.takeWhile Char.isDigit, r.dropWhile Char.isDigit)
      | _ => ([], r)
    let offset ← zoneOf r
    let micro := digitsValue ((fraction.take 6) ++ List.replicate (6 - (fraction.take 6).length) '0')
    some { date with time := some ⟨digitsValue hour, digitsValue minute, digitsValue second,
      micro, offset⟩ }

/-- The moment a scalar tagged as a timestamp stands for; the text may end in one line break.
Text that is not a timestamp has no parts to read, and a field out of range is refused with
its complaint. -/
def timestamp (text : String) : Except Fault Datum :=
  match timestampParts (String.ofList (Tag.withoutFinalBreak text.toList)) with
  | none => .error .noAttribute
  | some m => match m.complaint? with
    | some message => .error (.badValue message)
    | none => .ok (.moment m)

example : timestampParts "2001-12-14" = some ⟨2001, 12, 14, none⟩ := by decide
example : timestampParts "2001-12-14t21:59:43.10-05:00" =
    some ⟨2001, 12, 14, some ⟨21, 59, 43, 100000, some (-300)⟩⟩ := by decide

/-- What a tag builds. -/
inductive Shape where
  /-- A value read from a scalar's text. -/
  | scalar
  /-- A list from a sequence. -/
  | sequence
  /-- A dict from a mapping. -/
  | mapping
  /-- A set from a mapping's keys. -/
  | set
  /-- A list of pairs from a sequence of one-entry mappings. -/
  | pairs
  /-- Nothing: the tag is not known. -/
  | unknown
deriving DecidableEq

/-- What a tag builds. -/
def shapeOf (tag : String) : Shape :=
  if [Tag.null, Tag.bool, Tag.int, Tag.float, Tag.binary, Tag.timestamp, Tag.str].contains tag then
    .scalar
  else if tag == Tag.seq then .sequence
  else if tag == Tag.map then .mapping
  else if tag == Tag.set then .set
  else if tag == Tag.omap || tag == Tag.pairs then .pairs
  else .unknown

/-- The value of a scalar under a scalar tag. -/
def scalarValue (tag text : String) : Except Fault Datum :=
  if tag == Tag.null then .ok .none
  else if tag == Tag.bool then
    match truthWords.lookup (Case.lower text) with
    | some b => .ok (.bool b)
    | none => .error .missingKey
  else if tag == Tag.int then integer text
  else if tag == Tag.float then double text
  else if tag == Tag.binary then binary text
  else if tag == Tag.timestamp then timestamp text
  else .ok (.str text)

/-- The entries of a mapping with its merge keys resolved: the entries of each merged
mapping (a later one of a merged list first) go in front of the explicit entries, and a `=`
key is read as text. Also gives the anchors of the `=` keys so read, whose aliases are then
text too. -/
def flatten : Nat → List (Node × Node) → Except Fault (List (Node × Node) × List String)
  | 0, _ => refuse "nesting too deep"
  | fuel + 1, entries => do
    let step (acc : List (Node × Node) × List (Node × Node) × List String) (e : Node × Node) :
        Except Fault (List (Node × Node) × List (Node × Node) × List String) := do
      let (merged, own, textual) := acc
      let (k, v) := e
      if k.tag == Tag.merge then
        match v.unloop with
        | .mapping _ es =>
          let (es, more) ← flatten fuel es
          pure (merged ++ es, own, textual ++ more)
        | .sequence _ items =>
          let subs ← items.mapM fun sub => match sub.unloop with
            | .mapping _ es => flatten fuel es
            | _ => refuse "expected a mapping for merging"
          pure (merged ++ (subs.map (·.1)).reverse.flatten, own,
            textual ++ (subs.map (·.2)).flatten)
        | _ => refuse "expected a mapping or list of mappings for merging"
      else if k.tag == Tag.value then
        match k with
        | .scalar _ text anchor =>
          pure (merged, own ++ [(.scalar Tag.str text anchor, v)], textual ++ anchor.toList)
        | _ => pure (merged, own ++ [(k, v)], textual)
      else pure (merged, own ++ [(k, v)], textual)
    let (merged, own, textual) ← entries.foldlM step ([], [], [])
    return (merged ++ own, textual)

/-- The tag a node is built under once the `=` keys with the given anchors are text. -/
def tagGiven (textual : List String) : Node → String
  | .scalar tag _ (some a) => if tag == Tag.value && textual.contains a then Tag.str else tag
  | n => n.tag

/-- Starts building a node met as an entry: a scalar value is built at once (and may fail),
a collection is left for the next level. -/
def start (textual : List String) (n : Node) : Except Fault (Option Node) :=
  match shapeOf (tagGiven textual n), n with
  | _, .back _ => pure none
  | .scalar, .scalar _ text _ => do
    let _ ← scalarValue (tagGiven textual n) text
    pure none
  | .scalar, _ => refuse "expected a scalar node"
  | .unknown, _ => refuse "could not determine a constructor for the tag"
  | _, _ => pure (some n)

/-- Fills a collection left for this level: the collections among its entries are left for
the next one. A mapping's `=` keys turn text as it is filled, before its entries are built. -/
def fill (fuel : Nat) (textual : List String) (n : Node) :
    Except Fault (List Node × List String) :=
  match shapeOf n.tag, n.unloop with
  | .sequence, .sequence _ items => do
    let next ← items.foldlM (fun acc item => do pure (acc ++ (← start textual item).toList)) []
    pure (next, textual)
  | .sequence, _ => refuse "expected a sequence node"
  | .mapping, .mapping _ entries | .set, .mapping _ entries => do
    let (entries, more) ← flatten fuel entries
    let textual := textual ++ more
    let step (acc : List Node) (e : Node × Node) : Except Fault (List Node) := do
      if (← start textual e.1).isSome then refuse "found unhashable key"
      pure (acc ++ (← start textual e.2).toList)
    pure (← entries.foldlM step [], textual)
  | .mapping, _ | .set, _ => refuse "expected a mapping node"
  | .pairs, .sequence _ items =>
    let step (acc : List Node) (item : Node) : Except Fault (List Node) :=
      match item with
      | .mapping _ [(k, v)] => do
        let kd ← start textual k
        let vd ← start textual v
        pure (acc ++ kd.toList ++ vd.toList)
      | .mapping _ _ => refuse "expected a single mapping item"
      | _ => refuse "expected a mapping of length 1"
    return (← items.foldlM step [], textual)
  | .pairs, _ => refuse "expected a sequence"
  | _, _ => pure ([], textual)

/-- Fills the collections level by level, in the order they are met, and gives the first
fault, or else the anchors of the `=` keys read as text. -/
def fillLevels : Nat → List String → List Node → Except Fault (List String)
  | 0, textual, _ => pure textual
  | _, textual, [] => pure textual
  | fuel + 1, textual, level => do
    let (next, textual) ← level.foldlM (fun (acc, textual) n => do
      let (more, textual) ← fill fuel textual n
      pure (acc ++ more, textual)) ([], textual)
    fillLevels fuel textual next

/-- The collections that contain themselves, by anchor, found in a node. -/
def loopsOf : Nat → Node → List (String × Node)
  | 0, _ => []
  | fuel + 1, n =>
    match n with
    | .loop a body => (a, body) :: loopsOf fuel body
    | .sequence _ items => items.flatMap (loopsOf fuel)
    | .mapping _ entries => entries.flatMap fun (k, v) => loopsOf fuel k ++ loopsOf fuel v
    | _ => []

/-- How many times the place where a collection contains itself is unfolded. -/
def unfoldings : Nat := 2

/-- The empty value of a collection's kind. -/
def emptyOf (body : Node) : Datum :=
  match body with
  | .mapping _ _ => if shapeOf body.tag == .mapping then .dict [] else .list []
  | _ => .list []

/-- The value of a node, built depth first. A collection that contains itself is built with
each place where it does unfolded `unfold` more times, and then cut to an empty collection. -/
def build (loops : List (String × Node)) (textual : List String) :
    Nat → Nat → Node → Except Fault Datum
  | _, 0, _ => refuse "nesting too deep"
  | unfold, fuel + 1, n =>
    match n with
    | .loop a body => return .cycle a (← build loops textual unfold fuel body)
    | .back a =>
      match loops.lookup a with
      | none => refuse "found undefined alias"
      | some body =>
        match unfold with
        | 0 => return .cycle a (emptyOf body)
        | more + 1 => return .cycle a (← build loops textual more fuel body)
    | _ =>
    match shapeOf (tagGiven textual n), n with
    | .scalar, .scalar _ text _ => scalarValue (tagGiven textual n) text
    | .sequence, .sequence _ items => do
      return .list (← items.mapM (build loops textual unfold fuel))
    | .mapping, .mapping _ entries => do
      let (entries, _) ← flatten fuel entries
      let pairs ← entries.mapM fun (k, v) => do
        let kd ← build loops textual unfold fuel k
        if !kd.isKey then refuse "found unhashable key"
        return (kd, ← build loops textual unfold fuel v)
      return Datum.dictOf pairs
    | .set, .mapping _ entries => do
      let (entries, _) ← flatten fuel entries
      let keys ← entries.mapM fun (k, _) => do
        let kd ← build loops textual unfold fuel k
        if !kd.isKey then refuse "found unhashable key"
        return kd
      return .set ((Datum.dictOf (keys.map fun k => (k, .none))).entries?.getD [] |>.map (·.1))
    | .pairs, .sequence _ items => do
      let pairs ← items.mapM fun item => match item with
        | .mapping _ [(k, v)] => do
          return Datum.tuple
            [← build loops textual unfold fuel k, ← build loops textual unfold fuel v]
        | _ => refuse "expected a mapping of length 1"
      return .list pairs
    | .scalar, _ => refuse "expected a scalar node"
    | .unknown, _ => refuse "could not determine a constructor for the tag"
    | _, _ => refuse "expected a collection node"

/-- The value of a document's root node. -/
def value (depth : Nat) (root : Node) : Except Fault Datum := do
  let loops := loopsOf depth root
  let textual ← match ← start [] root with
    | none => pure []
    | some n => fillLevels depth [] [n]
  build loops textual unfoldings depth root

end Document

/-- Reads the only document of a YAML text into its value; an empty text is the absent
value. A text holding a character YAML does not allow fails before anything is read. -/
def load (text : String) : Except Fault Datum := do
  if text.toList.any (fun c => !isAllowed c) then
    throw (.yaml .reading "special characters are not allowed")
  match ← Node.readSingle text with
  | none => return .none
  | some root => Document.value (text.length + 2) root

end Yaml

end TenantAuth
