/-!
# Blanks and line ends

The blank characters that trimming and numerals skip, and the line ends of a text read from a
file in text mode.
-/

/-! ## Blank characters

Two sets of blank characters. `isBlank` is the set that text trimming skips: the ASCII tab,
newline, vertical tab, form feed and carriage return, the four information separators
U+001C–U+001F, the space, U+0085, and the Unicode space separators and line and paragraph
separators. `isWhiteSpace` is the Unicode `White_Space` property, which
leaves out the four information separators; it is what numerals skip.
-/

namespace TenantAuth

namespace Blank

/-- The Unicode space separators (category Zs) together with the line and paragraph
separators. -/
def isUnicodeSpace (c : Char) : Bool :=
  let n := c.toNat
  n == 0x20 || n == 0xA0 || n == 0x1680 || (0x2000 ≤ n && n ≤ 0x200A) ||
    n == 0x2028 || n == 0x2029 || n == 0x202F || n == 0x205F || n == 0x3000

/-- The characters skipped when text is trimmed. -/
def isBlank (c : Char) : Bool :=
  let n := c.toNat
  (0x09 ≤ n && n ≤ 0x0D) || (0x1C ≤ n && n ≤ 0x1F) || n == 0x85 || isUnicodeSpace c

/-- The characters with the Unicode `White_Space` property. -/
def isWhiteSpace (c : Char) : Bool :=
  let n := c.toNat
  (0x09 ≤ n && n ≤ 0x0D) || n == 0x85 || isUnicodeSpace c

/-- The characters of a text without the leading and trailing characters of a class. -/
def trimChars (p : Char → Bool) (cs : List Char) : List Char :=
  ((cs.dropWhile p).reverse.dropWhile p).reverse

/-- A text without its leading and trailing blanks. -/
def strip (s : String) : String :=
  String.ofList (trimChars isBlank s.toList)

/-- A text without its leading and trailing `White_Space` characters. -/
def trimWhiteSpace (s : String) : String :=
  String.ofList (trimChars isWhiteSpace s.toList)

theorem whiteSpace_blank (c : Char) (h : isWhiteSpace c = true) : isBlank c = true := by
  simp only [isWhiteSpace, isBlank, Bool.or_eq_true] at h ⊢
  rcases h with (h | h) | h <;> simp [h]

theorem blank_of_core (c : Char) (h : c.isWhitespace = true) : isBlank c = true := by
  simp only [Char.isWhitespace, Bool.or_eq_true, decide_eq_true_eq] at h
  simp only [isBlank, isUnicodeSpace, Bool.or_eq_true, Bool.and_eq_true, decide_eq_true_eq,
    beq_iff_eq]
  rcases h with ((h | h) | h) | h <;> subst h <;> decide

end Blank

end TenantAuth

/-! ## Line ends

Line ends of a text read from a file in text mode: a carriage return and line feed, and a
carriage return alone, each read as one line feed.
-/

namespace TenantAuth

namespace Lines

/-- The characters with every line end made a line feed. -/
def unifyChars : List Char → List Char
  | '\r' :: '\n' :: rest => '\n' :: unifyChars rest
  | '\r' :: rest => '\n' :: unifyChars rest
  | c :: rest => c :: unifyChars rest
  | [] => []

/-- A text as reading it from a file in text mode gives it. -/
def unify (s : String) : String :=
  String.ofList (unifyChars s.toList)

theorem unifyChars_no_return (cs : List Char) : '\r' ∉ unifyChars cs := by
  induction cs using unifyChars.induct <;> simp_all [unifyChars, eq_comm]

example : unify "a\r\nb\rc" = "a\nb\nc" := by decide

end Lines

end TenantAuth
