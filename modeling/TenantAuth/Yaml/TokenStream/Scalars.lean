import TenantAuth.Yaml.TokenStream

/-!
# Scalar tokens

The three ways of writing a scalar, each read into its text: plain scalars, folded across lines
until an indicator or a shallower line; quoted scalars with their escapes, a `\u` escape of a
surrogate standing for that surrogate alone; and block scalars, literal or folded, with chomping and
indentation indicators. A tab is never taken as indentation or as a separator inside a plain scalar.
-/

namespace TenantAuth

namespace Yaml

namespace Lex

/-- Whether a document marker followed by a blank starts at the current position. -/
def atDocumentMarker : Lex Bool := do
  let s ← get
  return s.atMarker "---" || s.atMarker "..."

/-- The breaks between two lines of a plain scalar, or none when the scalar ends at a
document marker. -/
def plainBreaks (fuel : Nat) (acc : List String) : Lex (Option (List String)) :=
  match fuel with
  | 0 => pure (some acc.reverse)
  | fuel + 1 => do
    let s ← get
    if s.cur == ' ' then
      forward 1
      plainBreaks fuel acc
    else if isBreak s.cur then
      let b ← lineBreak
      if ← atDocumentMarker then return none
      plainBreaks fuel (b :: acc)
    else return some acc.reverse

/-- The blanks after a run of a plain scalar, as the text they fold into; empty when the
scalar ends here. A line break allows a key again. -/
def plainSpaces : Lex String := do
  let n := (← get).spanFrom (· == ' ') 0
  let blanks ← takeText n
  if isBreak (← get).cur then
    let first ← lineBreak
    allowKey true
    if ← atDocumentMarker then return ""
    match ← plainBreaks ((← get).input.size + 1) [] with
    | none => return ""
    | some breaks =>
      if first != "\n" then return first ++ String.join breaks
      else if breaks.isEmpty then return " "
      else return String.join breaks
  else return blanks

/-- The length of the run of plain characters at the current position. -/
def plainRun (s : TokenStream) : Nat :=
  let inFlow := s.flowLevel != 0
  go (s.input.size + 1) 0 inFlow
where
  /-- Counts characters until one ends the run. -/
  go : Nat → Nat → Bool → Nat
    | 0, k, _ => k
    | fuel + 1, k, inFlow =>
      let c := s.peekAt k
      let next := s.peekAt (k + 1)
      let flowStop (c : Char) : Bool := [',', '[', ']', '\x7b', '\x7d'].contains c
      if isBlankOrEnd c ||
          (c == ':' && (isBlankOrEnd next || (inFlow && flowStop next))) ||
          (inFlow && (c == '?' || flowStop c)) then k
      else go fuel (k + 1) inFlow

/-- A plain scalar. -/
def plain : Lex Token := do
  let indent := (← get).indent + 1
  let text ← go ((← get).input.size + 1) indent "" ""
  return .scalar text true
where
  /-- Reads runs separated by folded blanks. -/
  go : Nat → Int → String → String → Lex String
    | 0, _, acc, _ => pure acc
    | fuel + 1, indent, acc, spaces => do
      let s ← get
      if s.cur == '#' then return acc
      let n := plainRun s
      if n == 0 then return acc
      allowKey false
      let run ← takeText n
      let acc := acc ++ spaces ++ run
      let spaces ← plainSpaces
      let s ← get
      if spaces.isEmpty || s.cur == '#' || (s.flowLevel == 0 && (s.column : Int) < indent) then
        return acc
      go fuel indent acc spaces

/-- The character a one-letter escape of a double-quoted scalar stands for. -/
def escapeFor? (c : Char) : Option Char :=
  match c with
  | '0' => some '\x00'
  | 'a' => some '\x07'
  | 'b' => some '\x08'
  | 't' => some '\t'
  | '\t' => some '\t'
  | 'n' => some '\n'
  | 'v' => some '\x0b'
  | 'f' => some '\x0c'
  | 'r' => some '\r'
  | 'e' => some '\x1b'
  | ' ' => some ' '
  | '"' => some '"'
  | '\\' => some '\\'
  | '/' => some '/'
  | 'N' => some '\x85'
  | '_' => some '\xa0'
  | 'L' => some '\u2028'
  | 'P' => some '\u2029'
  | _ => none

/-- The number of hexadecimal digits after `\x`, `\u` and `\U`. -/
def escapeWidth? (c : Char) : Option Nat :=
  match c with
  | 'x' => some 2
  | 'u' => some 4
  | 'U' => some 8
  | _ => none

/-- The value of `n` hexadecimal digits at the current position. -/
def hexDigits (n : Nat) : Lex Nat := do
  let s ← get
  let digits := (List.range n).map fun k => hexValue? (s.peekAt k)
  if digits.any Option.isNone then
    fail s!"expected escape sequence of {n} hexadecimal numbers"
  forward n
  return digits.foldl (fun acc d => acc * 16 + d.getD 0) 0

/-- Line breaks inside a quoted scalar, with the blanks around them. -/
def quotedBreaks (fuel : Nat) (acc : List String) : Lex (List String) :=
  match fuel with
  | 0 => pure acc.reverse
  | fuel + 1 => do
    if ← atDocumentMarker then fail "found unexpected document separator"
    skipWhile (fun c => c == ' ' || c == '\t')
    if isBreak (← get).cur then
      let b ← lineBreak
      quotedBreaks fuel (b :: acc)
    else return acc.reverse

/-- A stretch of a quoted scalar without blanks, escapes resolved. -/
def quotedRun (double : Bool) (fuel : Nat) (acc : String) : Lex String :=
  match fuel with
  | 0 => pure acc
  | fuel + 1 => do
    let s ← get
    let n := s.spanFrom (fun c => !(isBlankOrEnd c || c == '\x27' || c == '"' || c == '\\')) 0
    let run ← takeText n
    let acc := acc ++ run
    let s ← get
    let c := s.cur
    if !double && c == '\x27' && s.peekAt 1 == '\x27' then
      forward 2
      quotedRun double fuel (acc.push '\x27')
    else if (double && c == '\x27') || (!double && (c == '"' || c == '\\')) then
      forward 1
      quotedRun double fuel (acc.push c)
    else if double && c == '\\' then
      forward 1
      let e := (← get).cur
      match escapeFor? e, escapeWidth? e with
      | some r, _ =>
        forward 1
        quotedRun double fuel (acc.push r)
      | none, some width =>
        forward 1
        let code ← hexDigits width
        if code ≥ 0x110000 then
          throw (.badValue "chr() arg not in range(0x110000)")
        let ch := if Surrogate.isSurrogate code then Surrogate.carrier code else Char.ofNat code
        quotedRun double fuel (acc.push ch)
      | none, none =>
        if isBreak e then
          let _ ← lineBreak
          let breaks ← quotedBreaks ((← get).input.size + 1) []
          quotedRun double fuel (acc ++ String.join breaks)
        else fail "found unknown escape character"
    else return acc

/-- Blanks inside a quoted scalar, as the text they fold into. -/
def quotedSpaces : Lex String := do
  let n := (← get).spanFrom (fun c => c == ' ' || c == '\t') 0
  let blanks ← takeText n
  let c := (← get).cur
  if c == '\x00' then fail "found unexpected end of stream"
  else if isBreak c then
    let first ← lineBreak
    let breaks ← quotedBreaks ((← get).input.size + 1) []
    if first != "\n" then return first ++ String.join breaks
    else if breaks.isEmpty then return " "
    else return String.join breaks
  else return blanks

/-- A single- or double-quoted scalar. -/
def quoted (double : Bool) : Lex Token := do
  let quote := (← get).cur
  forward 1
  let fuel := (← get).input.size + 1
  let first ← quotedRun double fuel ""
  let text ← go quote fuel first
  forward 1
  return .scalar text false
where
  /-- Reads blanks and runs until the closing quote. -/
  go (quote : Char) : Nat → String → Lex String
    | 0, acc => pure acc
    | fuel + 1, acc => do
      if (← get).cur == quote then return acc
      let spaces ← quotedSpaces
      let run ← quotedRun double ((← get).input.size + 1) ""
      go quote fuel (acc ++ spaces ++ run)

/-- A block scalar, literal or folded. -/
def block (folded : Bool) : Lex Token := do
  forward 1
  let (chomping, increment) ← blockIndicators
  ignoredLine
  let minIndent : Int := max ((← get).indent + 1) 1
  let (breaks, indent) ← match increment with
    | none => do
      let (breaks, deepest) ← blockIndentation
      pure (breaks, max minIndent (deepest : Int))
    | some inc => do
      let indent := minIndent + inc - 1
      let breaks ← blockBreaks indent
      pure (breaks, indent)
  let (text, lastBreak, breaks) ← go indent ((← get).input.size + 1) "" "" breaks
  let text := if chomping != some false then text ++ lastBreak else text
  let text := if chomping == some true then text ++ String.join breaks else text
  return .scalar text false
where
  /-- Reads the lines at the scalar's indentation. -/
  go (indent : Int) : Nat → String → String → List String →
      Lex (String × String × List String)
    | 0, acc, lastBreak, breaks => pure (acc, lastBreak, breaks)
    | fuel + 1, acc, lastBreak, breaks => do
      let s ← get
      if !((s.column : Int) == indent && s.cur != '\x00') then
        return (acc, lastBreak, breaks)
      let acc := acc ++ String.join breaks
      let leadingNonSpace := !(s.cur == ' ' || s.cur == '\t')
      let n := s.spanFrom (fun c => !isBreakOrEnd c) 0
      let line ← takeText n
      let acc := acc ++ line
      let lastBreak ← lineBreak
      let breaks ← blockBreaks indent
      let s ← get
      if (s.column : Int) == indent && s.cur != '\x00' then
        let acc :=
          if folded && lastBreak == "\n" && leadingNonSpace && !(s.cur == ' ' || s.cur == '\t') then
            if breaks.isEmpty then acc ++ " " else acc
          else acc ++ lastBreak
        go indent fuel acc lastBreak breaks
      else return (acc, lastBreak, breaks)

end Lex

end Yaml

end TenantAuth
