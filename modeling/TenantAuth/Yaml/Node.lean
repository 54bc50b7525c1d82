import TenantAuth.Yaml.TokenStream.Next
import TenantAuth.Yaml.Tag

/-!
# YAML nodes

The tree of one YAML document: tagged scalars, sequences and mappings, with aliases replaced by the
nodes their anchors name and untagged nodes tagged here. `Node.readSingle` asks the token stream for
one token at a time, so a grammar error is reported before malformed text further on, and anchors
are checked as nodes are read. An alias met inside the collection its anchor names is read as a
`back` node and the collection as a `loop`.
-/

namespace TenantAuth

namespace Yaml

/-- A node of a YAML document. -/
inductive Node where
  /-- A scalar with its tag, its text and the anchor it was given, which its aliases share;
  a scalar whose tag is changed while the document is built is changed under every alias. -/
  | scalar (tag : String) (text : String) (anchor : Option String)
  /-- A sequence with its tag and items. -/
  | sequence (tag : String) (items : List Node)
  /-- A mapping with its tag and entries, in order, duplicates kept. -/
  | mapping (tag : String) (entries : List (Node × Node))
  /-- A collection that contains itself, under the anchor its `back` nodes name. -/
  | loop (anchor : String) (body : Node)
  /-- A place where a collection contains itself: an alias of the collection's anchor met
  while the collection was being read. -/
  | back (anchor : String)
deriving Inhabited

namespace Node

/-- The tag of a node; a place where a collection contains itself has none of its own. -/
def tag : Node → String
  | .scalar t _ _ => t
  | .sequence t _ => t
  | .mapping t _ => t
  | .loop _ body => body.tag
  | .back _ => ""

/-- A node without the mark of a collection that contains itself. -/
def unloop : Node → Node
  | .loop _ body => body.unloop
  | n => n

/-- The node of an empty value: a null scalar. -/
def empty : Node := .scalar Tag.null "" none

/-- The state of reading a document: the tokens, the anchors seen so far (with no node yet
while the anchored collection is being read) and the tag handles in force. -/
structure Reading where
  /-- The token stream. -/
  tokens : TokenStream
  /-- Anchors of the current document, last first. -/
  anchors : List (String × Option Node) := []
  /-- Tag handles and the prefixes they stand for. -/
  handles : List (String × String) := []
  /-- Anchors whose collection was named by an alias while it was being read. -/
  recursive : List String := []

/-- Reading YAML nodes. -/
abbrev Build := StateT Reading (Except Fault)

/-- The tag handles every document starts with. -/
def defaultHandles : List (String × String) :=
  [("!", "!"), ("!!", "tag:yaml.org,2002:")]

/-- Runs a step of the token stream. -/
def lex (m : Lex α) : Build α := fun r => do
  let (a, tokens) ← m.run r.tokens
  pure (a, { r with tokens })

/-- The next token, without taking it. -/
def peekToken : Build Token := lex Lex.peek

/-- Takes the next token. -/
def nextToken : Build Token := lex Lex.next

/-- Fails with a grammar fault. -/
def failParse (message : String) : Build α := throw (.yaml .parsing message)

/-- Fails with a composition fault. -/
def failCompose (message : String) : Build α := throw (.yaml .composing message)

/-- Refuses an anchor name already used in the document. -/
def checkAnchor : Option String → Build Unit
  | none => pure ()
  | some name => do
    if ((← get).anchors.lookup name).isSome then failCompose "found duplicate anchor"

/-- Records the node an anchor names; `none` marks a collection still being read. -/
def setAnchor (anchor : Option String) (node : Option Node) : Build Unit :=
  match anchor with
  | none => pure ()
  | some name => modify fun r =>
    { r with anchors := (name, node) :: r.anchors.filter (·.1 != name) }

/-- Records a finished collection under its anchor, as a loop when an alias named it while it
was being read. -/
def finish (anchor : Option String) (n : Node) : Build Node := do
  match anchor with
  | none => pure n
  | some name =>
    let n := if (← get).recursive.contains name then Node.loop name n else n
    setAnchor anchor (some n)
    pure n

/-- An anchor and a tag before a node's content, in either order. -/
def properties : Build (Option String × Option (Option String × String)) := do
  match ← peekToken with
  | .anchor a =>
    let _ ← nextToken
    match ← peekToken with
    | .tag h s =>
      let _ ← nextToken
      return (some a, some (h, s))
    | _ => return (some a, none)
  | .tag h s =>
    let _ ← nextToken
    match ← peekToken with
    | .anchor a =>
      let _ ← nextToken
      return (some a, some (h, s))
    | _ => return (none, some (h, s))
  | _ => return (none, none)

/-- The full tag a written tag stands for, expanding its handle. -/
def expandTag : Option (Option String × String) → Build (Option String)
  | none => pure none
  | some (none, suffix) => pure (some suffix)
  | some (some handle, suffix) => do
    match (← get).handles.lookup handle with
    | some pre => return some (pre ++ suffix)
    | none => failParse "found undefined tag handle"

/-- The tag of a scalar: the written one, or one resolved from plain text (also under the
non-specific tag `!`), or text for quoted and block scalars. -/
def scalarTag (tag : Option String) (text : String) (plain : Bool) : String :=
  match tag with
  | some "!" => Tag.ofPlain text
  | some t => t
  | none => if plain then Tag.ofPlain text else Tag.str

/-- The tag of a collection: the written one, or the given default. -/
def collectionTag (tag : Option String) (default : String) : String :=
  match tag with
  | some "!" => default
  | some t => t
  | none => default

mutual

/-- A node; `block` allows block collections, `indentless` a sequence of `-` entries at the
current indentation. -/
def node : Nat → Bool → Bool → Build Node
  | 0, _, _ => failParse "nesting too deep"
  | fuel + 1, block, indentless => do
    match ← peekToken with
    | .reference name =>
      let _ ← nextToken
      match (← get).anchors.lookup name with
      | some (some n) => return n
      | some none =>
        modify fun r => { r with recursive := name :: r.recursive }
        return .back name
      | none => failCompose "found undefined alias"
    | _ =>
      let (anchor, written) ← properties
      let tag ← expandTag written
      let t ← peekToken
      if indentless && t == .blockEntry then
        checkAnchor anchor
        setAnchor anchor none
        let items ← indentlessSequence fuel []
        return ← finish anchor (Node.sequence (collectionTag tag Tag.seq) items)
      match t with
      | .scalar text plain =>
        let _ ← nextToken
        checkAnchor anchor
        let n := Node.scalar (scalarTag tag text plain) text anchor
        setAnchor anchor (some n)
        return n
      | .flowSequenceStart =>
        checkAnchor anchor
        setAnchor anchor none
        let _ ← nextToken
        let items ← flowSequence fuel true []
        finish anchor (Node.sequence (collectionTag tag Tag.seq) items)
      | .flowMappingStart =>
        checkAnchor anchor
        setAnchor anchor none
        let _ ← nextToken
        let entries ← flowMapping fuel true []
        finish anchor (Node.mapping (collectionTag tag Tag.map) entries)
      | .blockSequenceStart =>
        if !block then failParse "expected the node content"
        checkAnchor anchor
        setAnchor anchor none
        let _ ← nextToken
        let items ← blockSequence fuel []
        finish anchor (Node.sequence (collectionTag tag Tag.seq) items)
      | .blockMappingStart =>
        if !block then failParse "expected the node content"
        checkAnchor anchor
        setAnchor anchor none
        let _ ← nextToken
        let entries ← blockMapping fuel []
        finish anchor (Node.mapping (collectionTag tag Tag.map) entries)
      | _ =>
        if anchor.isNone && tag.isNone then failParse "expected the node content"
        checkAnchor anchor
        let n := Node.scalar (scalarTag tag "" true) "" anchor
        setAnchor anchor (some n)
        return n

/-- The entries of a block sequence, after its start. -/
def blockSequence : Nat → List Node → Build (List Node)
  | 0, _ => failParse "nesting too deep"
  | fuel + 1, acc => do
    match ← peekToken with
    | .blockEntry =>
      let _ ← nextToken
      let t ← peekToken
      let item ← if t == .blockEntry || t == .blockEnd then pure empty else node fuel true false
      blockSequence fuel (item :: acc)
    | .blockEnd =>
      let _ ← nextToken
      return acc.reverse
    | _ => failParse "expected <block end>"

/-- The `-` entries of a sequence at a mapping's indentation. -/
def indentlessSequence : Nat → List Node → Build (List Node)
  | 0, _ => failParse "nesting too deep"
  | fuel + 1, acc => do
    match ← peekToken with
    | .blockEntry =>
      let _ ← nextToken
      let t ← peekToken
      let item ←
        if [Token.blockEntry, .key, .value, .blockEnd].contains t then pure empty
        else node fuel true false
      indentlessSequence fuel (item :: acc)
    | _ => return acc.reverse

/-- The entries of a block mapping, after its start. -/
def blockMapping : Nat → List (Node × Node) → Build (List (Node × Node))
  | 0, _ => failParse "nesting too deep"
  | fuel + 1, acc => do
    match ← peekToken with
    | .key =>
      let _ ← nextToken
      let t ← peekToken
      let k ←
        if [Token.key, .value, .blockEnd].contains t then pure empty else node fuel true true
      let v ←
        if (← peekToken) == .value then do
          let _ ← nextToken
          let t ← peekToken
          if [Token.key, .value, .blockEnd].contains t then pure empty else node fuel true true
        else pure empty
      blockMapping fuel ((k, v) :: acc)
    | .blockEnd =>
      let _ ← nextToken
      return acc.reverse
    | _ => failParse "expected <block end>"

/-- The entries of a flow sequence, after `[`. An entry `? k : v` or `k: v` is a one-entry
mapping. -/
def flowSequence : Nat → Bool → List Node → Build (List Node)
  | 0, _, _ => failParse "nesting too deep"
  | fuel + 1, first, acc => do
    let t ← peekToken
    if t == .flowSequenceEnd then
      let _ ← nextToken
      return acc.reverse
    if !first then
      if t == .flowEntry then
        let _ ← nextToken
      else failParse "expected ',' or ']'"
    let t ← peekToken
    if t == .key then
      let _ ← nextToken
      let t ← peekToken
      let k ←
        if [Token.value, .flowEntry, .flowSequenceEnd].contains t then pure empty
        else node fuel false false
      let v ←
        if (← peekToken) == .value then do
          let _ ← nextToken
          let t ← peekToken
          if [Token.flowEntry, .flowSequenceEnd].contains t then pure empty
          else node fuel false false
        else pure empty
      flowSequence fuel false (.mapping Tag.map [(k, v)] :: acc)
    else if t == .flowSequenceEnd then
      let _ ← nextToken
      return acc.reverse
    else
      let item ← node fuel false false
      flowSequence fuel false (item :: acc)

/-- The entries of a flow mapping, after its opening brace. An entry without `:` has an
empty value. -/
def flowMapping : Nat → Bool → List (Node × Node) → Build (List (Node × Node))
  | 0, _, _ => failParse "nesting too deep"
  | fuel + 1, first, acc => do
    let t ← peekToken
    if t == .flowMappingEnd then
      let _ ← nextToken
      return acc.reverse
    if !first then
      if t == .flowEntry then
        let _ ← nextToken
      else failParse "expected ',' or '\x7d'"
    let t ← peekToken
    if t == .key then
      let _ ← nextToken
      let t ← peekToken
      let k ←
        if [Token.value, .flowEntry, .flowMappingEnd].contains t then pure empty
        else node fuel false false
      let v ←
        if (← peekToken) == .value then do
          let _ ← nextToken
          let t ← peekToken
          if [Token.flowEntry, .flowMappingEnd].contains t then pure empty
          else node fuel false false
        else pure empty
      flowMapping fuel false ((k, v) :: acc)
    else if t == .flowMappingEnd then
      let _ ← nextToken
      return acc.reverse
    else
      let k ← node fuel false false
      flowMapping fuel false ((k, empty) :: acc)

end

/-- The directives before an explicit document: `%YAML` at most once and of major version
1, `%TAG` once per handle. The default handles are added to those declared. -/
def directives (fuel : Nat) : Build Unit := do
  modify fun r => { r with handles := [] }
  go fuel false
  modify fun r =>
    { r with handles := r.handles ++ defaultHandles.filter (fun h => (r.handles.lookup h.1).isNone) }
where
  /-- Reads directive tokens. -/
  go : Nat → Bool → Build Unit
    | 0, _ => pure ()
    | fuel + 1, seenVersion => do
      match ← peekToken with
      | .directive _ value =>
        let _ ← nextToken
        match value with
        | .version major _ =>
          if seenVersion then failParse "found duplicate YAML directive"
          if major != 1 then failParse "found incompatible YAML document (version 1.* is required)"
          go fuel true
        | .tagPrefix handle pre =>
          if ((← get).handles.lookup handle).isSome then failParse "duplicate tag handle"
          modify fun r => { r with handles := r.handles ++ [(handle, pre)] }
          go fuel seenVersion
        | .other => go fuel seenVersion
      | _ => pure ()

/-- Skips document end markers, then reads the start of an explicit document: false at the
end of the stream. -/
def documentStart (fuel : Nat) : Build Bool := do
  skipEnds fuel
  if (← peekToken) == .streamEnd then
    let _ ← nextToken
    return false
  directives fuel
  if (← peekToken) != .documentStart then failParse "expected '<document start>'"
  let _ ← nextToken
  return true
where
  /-- Skips `...` markers. -/
  skipEnds : Nat → Build Unit
    | 0 => pure ()
    | fuel + 1 => do
      if (← peekToken) == .documentEnd then
        let _ ← nextToken
        skipEnds fuel

/-- Takes an optional document end marker. -/
def documentEnd : Build Unit := do
  if (← peekToken) == .documentEnd then
    let _ ← nextToken

/-- The root node of the only document of the stream, if there is one. -/
def single (fuel : Nat) : Build (Option Node) := do
  let _ ← nextToken
  let t ← peekToken
  let root ←
    if [Token.documentStart, .streamEnd].contains t || (match t with
        | .directive .. => true
        | _ => false) then do
      if ← documentStart fuel then
        let t ← peekToken
        let root ←
          if [Token.documentStart, .documentEnd, .streamEnd].contains t || (match t with
              | .directive .. => true
              | _ => false) then pure empty
          else node fuel true false
        documentEnd
        pure (some root)
      else pure none
    else do
      modify fun r => { r with handles := defaultHandles }
      let root ← node fuel true false
      documentEnd
      pure (some root)
  match root with
  | none => return none
  | some root =>
    modify fun r => { r with anchors := [] }
    if ← documentStart fuel then failCompose "expected a single document in the stream"
    return some root

/-- Reads the only document of a YAML text into its root node, or none for an empty
stream. -/
def readSingle (text : String) : Except Fault (Option Node) :=
  (single (8 * (text.length + 8))).run' { tokens := TokenStream.ofText text }

end Node

end Yaml

end TenantAuth
