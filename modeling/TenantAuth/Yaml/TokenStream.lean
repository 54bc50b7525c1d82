import TenantAuth.Yaml.Token

/-!
# Cutting a YAML text into tokens

A `TokenStream` reads the characters of a YAML text on demand and keeps a queue of tokens ready for
the grammar. It remembers a stack of indentation columns, emitting collection starts and block ends,
and a pending simple key per flow level, inserting a key token before it when a `:` follows on the
same line. Tokens are handed out only when no pending key could still be inserted before them.
-/

namespace TenantAuth

namespace Yaml

/-- A token that may turn out to start a mapping key. -/
structure PendingKey where
  /-- The number of the token the key would stand before. -/
  tokenNumber : Nat
  /-- Whether a `:` must follow (a block key at the current indentation). -/
  required : Bool
  /-- The character index where the key starts. -/
  index : Nat
  /-- The line where the key starts. -/
  line : Nat
  /-- The column where the key starts. -/
  column : Nat

/-- The state of reading a YAML text into tokens. -/
structure TokenStream where
  /-- The characters of the text. -/
  input : Array Char
  /-- The index of the next character. -/
  index : Nat := 0
  /-- The line of the next character, from zero. -/
  line : Nat := 0
  /-- The column of the next character, from zero. -/
  column : Nat := 0
  /-- Whether the end of the text has been reached. -/
  done : Bool := false
  /-- How many flow collections are open (it goes below zero on a stray closing bracket). -/
  flowLevel : Int := 0
  /-- Tokens read and not yet handed out. -/
  queue : List Token := [Token.streamStart]
  /-- How many tokens were handed out. -/
  taken : Nat := 0
  /-- The current block indentation column. -/
  indent : Int := -1
  /-- Enclosing indentation columns, innermost first. -/
  indents : List Int := []
  /-- Whether a key may start at the next token. -/
  keyAllowed : Bool := true
  /-- Pending keys, by flow level. -/
  pending : List (Int × PendingKey) := []

/-- Reading a YAML text into tokens, failing with a scanning fault. -/
abbrev Lex := StateT TokenStream (Except Fault)

namespace TokenStream

/-- A stream at the start of a text. -/
def ofText (text : String) : TokenStream :=
  { input := text.toList.toArray }

/-- The character `k` places ahead, or NUL past the end. -/
def peekAt (s : TokenStream) (k : Nat) : Char :=
  s.input.getD (s.index + k) '\x00'

/-- The next character, or NUL at the end. -/
def cur (s : TokenStream) : Char := s.peekAt 0

/-- The next `n` characters, as far as the text goes. -/
def ahead (s : TokenStream) (n : Nat) : String :=
  String.ofList (s.input.extract s.index (s.index + n)).toList

/-- Moves past one character, keeping line and column: a line feed, next-line, line or
paragraph separator, or a carriage return not followed by a line feed ends a line; a byte
order mark takes no column. -/
def step (s : TokenStream) : TokenStream :=
  let c := s.cur
  let s' := { s with index := s.index + 1 }
  if c == '\n' || c == '\x85' || c == '\u2028' || c == '\u2029' ||
      (c == '\r' && s.peekAt 1 != '\n') then
    { s' with line := s.line + 1, column := 0 }
  else if c != '\uFEFF' then { s' with column := s.column + 1 }
  else s'

/-- Moves past `n` characters. -/
def forward (s : TokenStream) : Nat → TokenStream
  | 0 => s
  | n + 1 => forward s.step n

/-- Moves past the characters that satisfy `p`. -/
def skipWhile (p : Char → Bool) (s : TokenStream) : TokenStream :=
  go (s.input.size + 1) s
where
  /-- At most `fuel` more characters. -/
  go : Nat → TokenStream → TokenStream
    | 0, s => s
    | fuel + 1, s => if p s.cur then go fuel s.step else s

/-- The first offset at or after `k` whose character fails `p`. -/
def spanFrom (s : TokenStream) (p : Char → Bool) (k : Nat) : Nat :=
  go (s.input.size + 1) k
where
  /-- At most `fuel` more characters. -/
  go : Nat → Nat → Nat
    | 0, k => k
    | fuel + 1, k => if p (s.peekAt k) then go fuel (k + 1) else k

/-- Reads one line break: a carriage return and line feed, either alone, or next-line read
as a line feed; a line or paragraph separator reads as itself; anything else reads nothing. -/
def lineBreak (s : TokenStream) : String × TokenStream :=
  let c := s.cur
  if c == '\r' || c == '\n' || c == '\x85' then
    if c == '\r' && s.peekAt 1 == '\n' then ("\n", s.forward 2) else ("\n", s.step)
  else if c == '\u2028' || c == '\u2029' then (c.toString, s.step)
  else ("", s)

/-- Whether a document marker (`---` or `...`) followed by a blank starts here. -/
def atMarker (s : TokenStream) (marker : String) : Bool :=
  s.ahead 3 == marker && isBlankOrEnd (s.peekAt 3)

/-- The characters that cannot start a plain scalar on their own. -/
def indicators : List Char :=
  ['-', '?', ':', ',', '[', ']', '\x7b', '\x7d', '#', '&', '*', '!', '|', '>', '\x27', '"',
   '%', '@', '\x60']

/-- Whether a plain scalar can start here: any character but blanks and indicators, or
`-` (and, in block context, `?` and `:`) followed by a non-blank. -/
def plainCanStart (s : TokenStream) : Bool :=
  let c := s.cur
  !(isBlankOrEnd c || indicators.contains c) ||
    (!isBlankOrEnd (s.peekAt 1) && (c == '-' || (s.flowLevel == 0 && (c == '?' || c == ':'))))

/-- The number of the earliest token a pending key would stand before. -/
def nextPendingNumber (s : TokenStream) : Option Nat :=
  s.pending.foldl (fun acc e => match acc with
    | none => some e.2.tokenNumber
    | some m => some (min m e.2.tokenNumber)) none

/-- Moves past spaces, comments and line breaks up to the next token. A line break in block
context allows a key again. -/
def skipToToken (s : TokenStream) : TokenStream :=
  let s := if s.index == 0 && s.cur == '\uFEFF' then s.step else s
  go (s.input.size + 1) s
where
  /-- At most `fuel` more lines. -/
  go : Nat → TokenStream → TokenStream
    | 0, s => s
    | fuel + 1, s =>
      let s := s.skipWhile (· == ' ')
      let s := if s.cur == '#' then s.skipWhile (fun c => !isBreakOrEnd c) else s
      let (b, s) := s.lineBreak
      if b.isEmpty then s
      else go fuel (if s.flowLevel == 0 then { s with keyAllowed := true } else s)

end TokenStream

namespace Lex

/-- Fails with a scanning fault. -/
def fail (message : String) : Lex α :=
  throw (Fault.yaml .scanning message)

/-- Appends a token to the queue. -/
def push (t : Token) : Lex Unit :=
  modify fun s => { s with queue := s.queue ++ [t] }

/-- Inserts a token before the queued token with the given number. -/
def insertAt (number : Nat) (t : Token) : Lex Unit :=
  modify fun s => { s with queue := s.queue.insertIdx (number - s.taken) t }

/-- Moves past `n` characters. -/
def forward (n : Nat) : Lex Unit :=
  modify (·.forward n)

/-- Moves past the characters that satisfy `p`. -/
def skipWhile (p : Char → Bool) : Lex Unit :=
  modify (·.skipWhile p)

/-- Reads one line break. -/
def lineBreak : Lex String :=
  modifyGet TokenStream.lineBreak

/-- Takes the next `n` characters. -/
def takeText (n : Nat) : Lex String := do
  let s ← get
  set (s.forward n)
  return s.ahead n

/-- Forgets the pending key of the current flow level; fails if it was required. -/
def dropKeyHere : Lex Unit := do
  let s ← get
  match s.pending.lookup s.flowLevel with
  | some k =>
    if k.required then fail "could not find expected ':'"
    else set { s with pending := s.pending.filter (·.1 != s.flowLevel) }
  | none => pure ()

/-- Remembers the next token as a possible key, when a key is allowed here. -/
def saveKey : Lex Unit := do
  let s ← get
  let required := s.flowLevel == 0 && s.indent == (s.column : Int)
  if s.keyAllowed then
    dropKeyHere
    let s ← get
    let k : PendingKey :=
      { tokenNumber := s.taken + s.queue.length, required, index := s.index, line := s.line,
        column := s.column }
    set { s with pending := s.pending ++ [(s.flowLevel, k)] }

/-- Forgets the pending keys that can no longer be keys: those on an earlier line or more
than 1024 characters back. Forgetting a required one fails. -/
def dropStaleKeys : Lex Unit := do
  let s ← get
  let stale (k : PendingKey) : Bool := k.line != s.line || s.index - k.index > 1024
  if s.pending.any (fun e => stale e.2 && e.2.required) then
    fail "could not find expected ':'"
  set { s with pending := s.pending.filter (fun e => !stale e.2) }

/-- In block context, closes the collections indented deeper than `column`. -/
def unwind (column : Int) : Lex Unit :=
  modify fun s => if s.flowLevel != 0 then s else go s.indents s
where
  /-- Pops enclosing columns, innermost first. -/
  go : List Int → TokenStream → TokenStream
    | [], s => s
    | i :: rest, s =>
      if s.indent > column then
        go rest { s with indent := i, indents := rest, queue := s.queue ++ [.blockEnd] }
      else s

/-- Opens an indentation level at `column` if it lies right of the current one. -/
def addIndent (column : Int) : Lex Bool := do
  let s ← get
  if s.indent < column then
    set { s with indents := s.indent :: s.indents, indent := column }
    return true
  else return false

/-- Sets whether a key may start at the next token. -/
def allowKey (b : Bool) : Lex Unit :=
  modify fun s => { s with keyAllowed := b }

/-- A run of decimal digits, as a number. -/
def number : Lex Nat := do
  let s ← get
  if !s.cur.isDigit then fail "expected a digit"
  let n := s.spanFrom Char.isDigit 0
  let text ← takeText n
  return text.foldl (fun acc c => acc * 10 + (c.toNat - '0'.toNat)) 0

/-- The name of an anchor or alias after its indicator. -/
def anchorName : Lex String := do
  forward 1
  let s ← get
  let n := s.spanFrom isWordChar 0
  if n == 0 then fail "expected alphabetic or numeric character"
  let name ← takeText n
  let c := (← get).cur
  if !(isBlankOrEnd c || ['?', ':', ',', ']', '\x7d', '%', '@', '\x60'].contains c) then
    fail "expected alphabetic or numeric character"
  return name

/-- A tag handle: `!`, `!!` or `!word!`. -/
def tagHandle : Lex String := do
  let s ← get
  if s.cur != '!' then fail "expected '!'"
  if s.peekAt 1 == ' ' then takeText 1
  else
    let n := s.spanFrom isWordChar 1
    if s.peekAt n != '!' then
      set (s.forward n)
      fail "expected '!'"
    takeText (n + 1)

/-- A character allowed in a tag URI. -/
def isUriChar (c : Char) : Bool :=
  c.isAlphanum || "-;/?:@&=+$,_.!~*\x27()[]%".contains c

/-- A run of `%hh` escapes, decoded as UTF-8. -/
def uriEscapes : Lex String := do
  let bytes ← go ((← get).input.size + 1) #[]
  match String.fromUTF8? (ByteArray.mk bytes) with
  | some text => return text
  | none => fail "invalid UTF-8 in URI escape"
where
  /-- Reads escapes while a `%` follows. -/
  go : Nat → Array UInt8 → Lex (Array UInt8)
    | 0, acc => pure acc
    | fuel + 1, acc => do
      let s ← get
      if s.cur != '%' then return acc
      let s := s.step
      match hexValue? (s.peekAt 0), hexValue? (s.peekAt 1) with
      | some hi, some lo =>
        set (s.forward 2)
        go fuel (acc.push (UInt8.ofNat (hi * 16 + lo)))
      | _, _ =>
        set s
        fail "expected URI escape sequence of 2 hexadecimal numbers"

/-- The URI part of a tag. -/
def tagUri : Lex String := do
  let text ← go ((← get).input.size + 1) ""
  if text.isEmpty then fail "expected URI"
  return text
where
  /-- Reads URI characters and escapes. -/
  go : Nat → String → Lex String
    | 0, acc => pure acc
    | fuel + 1, acc => do
      let s ← get
      let n := s.spanFrom (fun c => isUriChar c && c != '%') 0
      let run ← takeText n
      if (← get).cur == '%' then
        let decoded ← uriEscapes
        go fuel (acc ++ run ++ decoded)
      else return acc ++ run

/-- A tag: verbatim `!<uri>`, the lone `!`, or a handle followed by a suffix. -/
def tag : Lex Token := do
  let s ← get
  let c := s.peekAt 1
  let (handle, suffix) ←
    if c == '<' then do
      forward 2
      let suffix ← tagUri
      if (← get).cur != '>' then fail "expected '>'"
      forward 1
      pure (none, suffix)
    else if isBlankOrEnd c then do
      forward 1
      pure (none, "!")
    else do
      let stop := s.spanFrom (fun c => !isSpaceOrEnd c && c != '!') 1
      let handle ←
        if s.peekAt stop == '!' then tagHandle
        else do
          forward 1
          pure "!"
      let suffix ← tagUri
      pure (some handle, suffix)
  if !isSpaceOrEnd (← get).cur then fail "expected ' '"
  return .tag handle suffix

/-- The chomping and indentation indicators of a block scalar header. -/
def blockIndicators : Lex (Option Bool × Option Nat) := do
  let chomp (c : Char) : Option Bool :=
    if c == '+' then some true else if c == '-' then some false else none
  let s ← get
  let (chomping, increment) ←
    match chomp s.cur with
    | some keep => do
      forward 1
      let c := (← get).cur
      if c.isDigit then
        if c == '0' then fail "expected indentation indicator in the range 1-9, but found 0"
        forward 1
        pure (some keep, some (c.toNat - '0'.toNat))
      else pure (some keep, none)
    | none =>
      if s.cur.isDigit then do
        if s.cur == '0' then fail "expected indentation indicator in the range 1-9, but found 0"
        forward 1
        let c := (← get).cur
        match chomp c with
        | some keep => do
          forward 1
          pure (some keep, some (s.cur.toNat - '0'.toNat))
        | none => pure (none, some (s.cur.toNat - '0'.toNat))
      else pure (none, none)
  if !isSpaceOrEnd (← get).cur then fail "expected chomping or indentation indicators"
  return (chomping, increment)

/-- The rest of a header line: spaces and an optional comment before the line break. -/
def ignoredLine : Lex Unit := do
  skipWhile (· == ' ')
  if (← get).cur == '#' then skipWhile (fun c => !isBreakOrEnd c)
  if !isBreakOrEnd (← get).cur then fail "expected a comment or a line break"
  let _ ← lineBreak

/-- Leading empty lines of a block scalar without an indentation indicator: the breaks and
the deepest indentation seen. -/
def blockIndentation : Lex (List String × Nat) :=
  do go ((← get).input.size + 1) [] 0
where
  /-- Reads spaces and breaks. -/
  go : Nat → List String → Nat → Lex (List String × Nat)
    | 0, acc, m => pure (acc.reverse, m)
    | fuel + 1, acc, m => do
      let s ← get
      if s.cur == ' ' then
        let s := s.step
        set s
        go fuel acc (max m s.column)
      else if isBreak s.cur then
        let b ← lineBreak
        go fuel (b :: acc) m
      else pure (acc.reverse, m)

/-- Empty lines inside a block scalar, skipping indentation up to `indent`. -/
def blockBreaks (indent : Int) : Lex (List String) :=
  do
    skipIndent
    go ((← get).input.size + 1) []
where
  /-- Skips spaces left of the indentation. -/
  skipIndent : Lex Unit :=
    modify fun s => indentSkip (s.input.size + 1) s
  /-- Skips at most `fuel` spaces left of the indentation. -/
  indentSkip : Nat → TokenStream → TokenStream
    | 0, s => s
    | fuel + 1, s => if (s.column : Int) < indent && s.cur == ' ' then indentSkip fuel s.step else s
  /-- Reads breaks, each followed by indentation. -/
  go : Nat → List String → Lex (List String)
    | 0, acc => pure acc.reverse
    | fuel + 1, acc => do
      if isBreak (← get).cur then
        let b ← lineBreak
        skipIndent
        go fuel (b :: acc)
      else pure acc.reverse

end Lex

end Yaml

end TenantAuth
