import TenantAuth.Fault
import TenantAuth.Text.Quote

/-!
# YAML tokens

The units a YAML text is cut into before its structure is read: indicators that open and
close block and flow collections, the `?`/`:`/`-`/`,` markers between entries, node properties
(anchors, aliases, tags), scalars and directives. Block structure is explicit here: an
increase of indentation shows as a collection start and a decrease as a block end, so that
the grammar read from the tokens needs no notion of columns.
-/

namespace TenantAuth

namespace Yaml

/-- The value of a `%` directive line. -/
inductive Directive where
  /-- `%YAML major.minor`. -/
  | version (major minor : Nat)
  /-- `%TAG handle prefix`. -/
  | tagPrefix (handle pre : String)
  /-- Any other directive, whose value is ignored. -/
  | other
deriving Repr, DecidableEq

/-- A token of a YAML text. -/
inductive Token where
  | streamStart
  | streamEnd
  | directive (name : String) (value : Directive)
  | documentStart
  | documentEnd
  | blockSequenceStart
  | blockMappingStart
  | blockEnd
  | flowSequenceStart
  | flowMappingStart
  | flowSequenceEnd
  | flowMappingEnd
  | key
  | value
  | blockEntry
  | flowEntry
  | reference (name : String)
  | anchor (name : String)
  /-- A tag: its handle (none for a verbatim `!<…>` tag) and suffix. -/
  | tag (handle : Option String) (suffix : String)
  /-- A scalar: its text and whether it was written plain (unquoted, not a block scalar). -/
  | scalar (text : String) (plain : Bool)
deriving Repr, Inhabited, DecidableEq

namespace Token

/-- How a token is named in messages. -/
def name : Token → String
  | .streamStart => "<stream start>"
  | .streamEnd => "<stream end>"
  | .directive .. => "<directive>"
  | .documentStart => "<document start>"
  | .documentEnd => "<document end>"
  | .blockSequenceStart => "<block sequence start>"
  | .blockMappingStart => "<block mapping start>"
  | .blockEnd => "<block end>"
  | .flowSequenceStart => "["
  | .flowMappingStart => "\x7b"
  | .flowSequenceEnd => "]"
  | .flowMappingEnd => "\x7d"
  | .key => "?"
  | .value => ":"
  | .blockEntry => "-"
  | .flowEntry => ","
  | .reference _ => "<alias>"
  | .anchor _ => "<anchor>"
  | .tag .. => "<tag>"
  | .scalar .. => "<scalar>"

end Token

/-- A line break character. -/
def isBreak (c : Char) : Bool :=
  c == '\r' || c == '\n' || c == '\x85' || c == '\u2028' || c == '\u2029'

/-- A line break or the end of the text (read as NUL). -/
def isBreakOrEnd (c : Char) : Bool :=
  c == '\x00' || isBreak c

/-- A space, a line break or the end of the text. -/
def isSpaceOrEnd (c : Char) : Bool :=
  c == ' ' || isBreakOrEnd c

/-- A blank (space or tab), a line break or the end of the text. -/
def isBlankOrEnd (c : Char) : Bool :=
  c == '\t' || isSpaceOrEnd c

/-- An ASCII letter or digit, or `-` or `_`: the characters of anchor names and handles. -/
def isWordChar (c : Char) : Bool :=
  c.isAlphanum || c == '-' || c == '_'

/-- The value of a hexadecimal digit. -/
def hexValue? (c : Char) : Option Nat :=
  if c.isDigit then some (c.toNat - '0'.toNat)
  else if 'a' ≤ c && c ≤ 'f' then some (c.toNat - 'a'.toNat + 10)
  else if 'A' ≤ c && c ≤ 'F' then some (c.toNat - 'A'.toNat + 10)
  else none

/-- A character a YAML text may hold: tab, line feed, carriage return, printable ASCII,
next-line, and the non-surrogate code points from U+00A0 up except U+FFFE and U+FFFF (a
carried lone surrogate is a surrogate too). -/
def isAllowed (c : Char) : Bool :=
  let n := c.toNat
  n == 0x09 || n == 0x0A || n == 0x0D || (0x20 ≤ n && n ≤ 0x7E) || n == 0x85 ||
    (0xA0 ≤ n && n ≤ 0xD7FF) || (0xE000 ≤ n && n ≤ 0xFFFD) ||
    (0x10000 ≤ n && !Surrogate.isCarrier c)

example : isBlankOrEnd '\t' = true := by decide
example : isAllowed '\x07' = false := by decide

end Yaml

end TenantAuth
