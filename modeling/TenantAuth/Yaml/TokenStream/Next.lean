import TenantAuth.Yaml.TokenStream.Scalars

/-!
# Handing out tokens

`Lex.fetch` reads the next token from the characters, after closing the block collections
that the new line's indentation ends, and `Lex.peek` / `Lex.next` hand tokens to the
grammar. A token is only handed out once no pending key can still be inserted before it, so
`peek` may read several tokens ahead: as far as the end of the line of a possible key.
-/

namespace TenantAuth

namespace Yaml

namespace Lex

/-- A `%` directive line. -/
def directive : Lex Token := do
  forward 1
  let s ← get
  let n := s.spanFrom isWordChar 0
  if n == 0 then fail "expected alphabetic or numeric character"
  let name ← takeText n
  if !isSpaceOrEnd (← get).cur then fail "expected alphabetic or numeric character"
  let value ←
    if name == "YAML" then do
      skipWhile (· == ' ')
      let major ← number
      if (← get).cur != '.' then fail "expected a digit or '.'"
      forward 1
      let minor ← number
      if !isSpaceOrEnd (← get).cur then fail "expected a digit or ' '"
      pure (Directive.version major minor)
    else if name == "TAG" then do
      skipWhile (· == ' ')
      let handle ← tagHandle
      if (← get).cur != ' ' then fail "expected ' '"
      skipWhile (· == ' ')
      let pre ← tagUri
      if !isSpaceOrEnd (← get).cur then fail "expected ' '"
      pure (Directive.tagPrefix handle pre)
    else do
      skipWhile (fun c => !isBreakOrEnd c)
      pure Directive.other
  ignoredLine
  return .directive name value

/-- A one-character token. -/
def single (t : Token) : Lex Unit := do
  forward 1
  push t

/-- The end of the text: closes every block collection. -/
def streamEnd : Lex Unit := do
  unwind (-1)
  dropKeyHere
  modify fun s => { s with keyAllowed := false, pending := [], done := true }
  push .streamEnd

/-- A document marker, `---` or `...`. -/
def documentMarker (t : Token) : Lex Unit := do
  unwind (-1)
  dropKeyHere
  allowKey false
  forward 3
  push t

/-- `[` or `\x7b`: may itself start a key. -/
def flowStart (t : Token) : Lex Unit := do
  saveKey
  modify fun s => { s with flowLevel := s.flowLevel + 1 }
  allowKey true
  single t

/-- `]` or `\x7d`. -/
def flowEnd (t : Token) : Lex Unit := do
  dropKeyHere
  modify fun s => { s with flowLevel := s.flowLevel - 1 }
  allowKey false
  single t

/-- `,` between flow entries. -/
def flowEntry : Lex Unit := do
  allowKey true
  dropKeyHere
  single .flowEntry

/-- `-` before a block sequence entry; the first one at a column opens the sequence. -/
def blockEntry : Lex Unit := do
  let s ← get
  if s.flowLevel == 0 then
    if !s.keyAllowed then fail "sequence entries are not allowed here"
    if ← addIndent s.column then push .blockSequenceStart
  allowKey true
  dropKeyHere
  single .blockEntry

/-- `?` before an explicit key; in block context it may open a mapping. -/
def explicitKey : Lex Unit := do
  let s ← get
  if s.flowLevel == 0 then
    if !s.keyAllowed then fail "mapping keys are not allowed here"
    if ← addIndent s.column then push .blockMappingStart
  allowKey (s.flowLevel == 0)
  dropKeyHere
  single .key

/-- `:` before a value. A pending key of this level becomes a key token placed before it
(with a mapping start in block context when its column opens a level); otherwise the value
belongs to an explicit or empty key. -/
def value : Lex Unit := do
  let s ← get
  match s.pending.lookup s.flowLevel with
  | some k =>
    set { s with pending := s.pending.filter (·.1 != s.flowLevel) }
    insertAt k.tokenNumber .key
    if s.flowLevel == 0 then
      if ← addIndent k.column then insertAt k.tokenNumber .blockMappingStart
    allowKey false
  | none =>
    if s.flowLevel == 0 then
      if !s.keyAllowed then fail "mapping values are not allowed here"
      if ← addIndent s.column then push .blockMappingStart
    allowKey (s.flowLevel == 0)
    dropKeyHere
  single .value

/-- A token that may start a key: saves the key, then reads the token. -/
def keyCandidate (read : Lex Token) : Lex Unit := do
  saveKey
  allowKey false
  push (← read)

/-- Reads the next token into the queue. -/
def fetch : Lex Unit := do
  modify TokenStream.skipToToken
  dropStaleKeys
  unwind ((← get).column : Int)
  let s ← get
  let c := s.cur
  let next := s.peekAt 1
  let inFlow := s.flowLevel != 0
  if c == '\x00' then streamEnd
  else if c == '%' && s.column == 0 then do
    unwind (-1)
    dropKeyHere
    allowKey false
    push (← directive)
  else if c == '-' && s.column == 0 && s.atMarker "---" then documentMarker .documentStart
  else if c == '.' && s.column == 0 && s.atMarker "..." then documentMarker .documentEnd
  else if c == '[' then flowStart .flowSequenceStart
  else if c == '\x7b' then flowStart .flowMappingStart
  else if c == ']' then flowEnd .flowSequenceEnd
  else if c == '\x7d' then flowEnd .flowMappingEnd
  else if c == ',' then flowEntry
  else if c == '-' && isBlankOrEnd next then blockEntry
  else if c == '?' && (inFlow || isBlankOrEnd next) then explicitKey
  else if c == ':' && (inFlow || isBlankOrEnd next) then value
  else if c == '*' then keyCandidate (do return .reference (← anchorName))
  else if c == '&' then keyCandidate (do return .anchor (← anchorName))
  else if c == '!' then keyCandidate tag
  else if (c == '|' || c == '>') && !inFlow then do
    allowKey true
    dropKeyHere
    push (← block (c == '>'))
  else if c == '\x27' then keyCandidate (quoted false)
  else if c == '"' then keyCandidate (quoted true)
  else if s.plainCanStart then keyCandidate plain
  else fail "found character that cannot start any token"

/-- Whether more tokens must be read before the first queued one can be handed out. -/
def needMore : Lex Bool := do
  let s ← get
  if s.done then return false
  if s.queue.isEmpty then return true
  dropStaleKeys
  let s ← get
  return s.nextPendingNumber == some s.taken

/-- Reads tokens until the first queued one can be handed out. -/
def fill : Lex Unit := do
  go ((← get).input.size + 2)
where
  /-- At most `fuel` more tokens. -/
  go : Nat → Lex Unit
    | 0 => pure ()
    | fuel + 1 => do
      if ← needMore then
        fetch
        go fuel

/-- The next token, without taking it. -/
def peek : Lex Token := do
  fill
  return (← get).queue.headD .streamEnd

/-- Takes the next token. -/
def next : Lex Token := do
  fill
  let s ← get
  match s.queue with
  | t :: rest =>
    set { s with queue := rest, taken := s.taken + 1 }
    return t
  | [] => return .streamEnd

/-- Whether the next token is one of the given ones, comparing only what kind each is. -/
def nextIs (p : Token → Bool) : Lex Bool := do
  return p (← peek)

end Lex

end Yaml

end TenantAuth
