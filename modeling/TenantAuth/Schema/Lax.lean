import TenantAuth.Role
import TenantAuth.Schema.Issue
import TenantAuth.Text.Numeral

/-!
Lax reading of field values: the conversions a schema allows between a document's dynamic values and
a field's type, and the issue each refusal raises. Text takes text and valid UTF-8 bytes, integers
and doubles take numbers, truth values and numeric text, and a truth value takes truth values, 0 and
1, and the usual yes and no words in any ASCII case.
-/

namespace TenantAuth

namespace Lax

/-- Reads text. -/
def text : Datum → Except IssueKind String
  | .str s => .ok s
  | .bytes bs => match String.fromUTF8? (ByteArray.mk bs.toArray) with
    | some s => .ok s
    | none => .error .stringUnicode
  | _ => .error .stringType

/-- Reads text or the absent value. -/
def optionalText : Datum → Except IssueKind (Option String)
  | .none => .ok none
  | d => (text d).map some

/-- Whether a whole double lies strictly inside the 64-bit range, the range a double is read
as an integer from. -/
def inWordRange (x : Float) : Bool :=
  -9223372036854775808.0 < x && x < 9223372036854775808.0

/-- Reads a double as an integer: it must be finite, whole and inside the 64-bit range. -/
def wholeOfDouble (x : Float) : Except IssueKind Int :=
  if x.isNaN || x.isInf then .error .finiteNumber
  else if !Double.isWhole x then .error .intFromFloat
  else if !inWordRange x then .error .intParsingSize
  else match Double.truncate? x with
    | some n => .ok n
    | none => .error .finiteNumber

/-- The longest text, in UTF-8 bytes once trimmed, that is read as an integer. -/
def maxIntTextBytes : Nat := 4300

/-- Reads an integer. -/
def integer : Datum → Except IssueKind Int
  | .int n => .ok n
  | .bool b => .ok (if b then 1 else 0)
  | .float x => wholeOfDouble x
  | .str s =>
    if (String.ofList (Blank.trimChars Blank.isWhiteSpace s.toList)).utf8ByteSize > maxIntTextBytes
    then .error .intParsingSize
    else match Numeral.readFieldInt? s with
      | some n => .ok n
      | none => .error .intParsing
  | _ => .error .intType

/-- Reads a double. -/
def number : Datum → Except IssueKind Float
  | .int n => .ok (Double.ofInt n)
  | .bool b => .ok (if b then 1.0 else 0.0)
  | .float x => .ok x
  | .str s => match Numeral.readFieldFloat? s with
    | some x => .ok x
    | none => .error .floatParsing
  | _ => .error .floatType

/-- The truth value of a word, if it is one of the accepted words. -/
def wordTruth? (s : String) : Option Bool :=
  let w := String.ofList (s.toList.map Char.toLower)
  if s == "0" || ["f", "n", "no", "off", "false"].contains w then some false
  else if s == "1" || ["t", "y", "on", "yes", "true"].contains w then some true
  else none

/-- Reads a truth value. -/
def boolean : Datum → Except IssueKind Bool
  | .bool b => .ok b
  | .int n =>
    if n == 0 then .ok false else if n == 1 then .ok true
    else if Numeral.fitsWord n then .error .boolParsing else .error .boolType
  | .float x => match wholeOfDouble x with
    | .ok 0 => .ok false
    | .ok 1 => .ok true
    | .ok _ => .error .boolParsing
    | .error _ => .error .boolType
  | .str s => match wordTruth? s with
    | some b => .ok b
    | none => .error .boolParsing
  | _ => .error .boolType

/-- Reads a role by its spelling. -/
def role : Datum → Except IssueKind Role
  | .str s => match Role.ofValue? s with
    | some r => .ok r
    | none => .error (.enumMember Role.expected)
  | _ => .error (.enumMember Role.expected)

/-- Reads a value that must be one fixed word. -/
def literal (word : String) : Datum → Except IssueKind String
  | .str s => if s == word then .ok s else .error (.literalValue ("'" ++ word ++ "'"))
  | _ => .error (.literalValue ("'" ++ word ++ "'"))

end Lax

/-- A value read from a document, or the issues that stopped it. -/
abbrev Checked (α : Type) := Except (List Issue) α

namespace Checked

/-- The issues of a reading; none when it succeeded. -/
def issues {α : Type} : Checked α → List Issue
  | .ok _ => []
  | .error is => is

/-- Two readings together: both values, or the issues of both in order. -/
def and {α β : Type} (a : Checked α) (b : Checked β) : Checked (α × β) :=
  match a, b with
  | .ok x, .ok y => .ok (x, y)
  | a, b => .error (a.issues ++ b.issues)

/-- A single value read at a place, its issue placed there. -/
def at' {α : Type} (loc : List Step) (v : Datum) (r : Except IssueKind α) : Checked α :=
  r.mapError fun k => [⟨k, loc, v⟩]

/-- A required field of a mapping, read under its name. -/
def required {α : Type} (doc : Datum) (entries : List (Datum × Datum)) (name : String)
    (read : Datum → Except IssueKind α) : Checked α :=
  match Datum.lookup entries (.str name) with
  | none => .error [⟨.missing, [.key name], doc⟩]
  | some v => at' [.key name] v (read v)

/-- A field of a mapping with a default for when it is absent. -/
def optional {α : Type} (entries : List (Datum × Datum)) (name : String) (dflt : α)
    (read : Datum → Except IssueKind α) : Checked α :=
  match Datum.lookup entries (.str name) with
  | none => .ok dflt
  | some v => at' [.key name] v (read v)

/-- A field of a mapping with a default, read by a reader that reports its own places; those
places are put under the field's name. -/
def optionalWith {α : Type} (entries : List (Datum × Datum)) (name : String) (dflt : α)
    (read : Datum → Checked α) : Checked α :=
  match Datum.lookup entries (.str name) with
  | none => .ok dflt
  | some v => (read v).mapError fun is => is.map (Issue.under (.key name))

/-- A required field under its camelCase alias or its name, the alias first; an absent
field is reported under the alias. -/
def aliased {α : Type} (doc : Datum) (entries : List (Datum × Datum)) (camel name : String)
    (read : Datum → Except IssueKind α) : Checked α :=
  match Datum.lookup entries (.str camel) with
  | some v => at' [.key camel] v (read v)
  | none =>
    match Datum.lookup entries (.str name) with
    | some v => at' [.key name] v (read v)
    | none => .error [⟨.missing, [.key camel], doc⟩]

/-- A field under its camelCase alias or its name, the alias first, with a default for
when both are absent. -/
def aliasedOr {α : Type} (entries : List (Datum × Datum)) (camel name : String) (dflt : α)
    (read : Datum → Except IssueKind α) : Checked α :=
  match Datum.lookup entries (.str camel) with
  | some v => at' [.key camel] v (read v)
  | none => optional entries name dflt read

/-- A field under its camelCase alias or its name, read by a reader that reports its own
places, with a default for when both are absent. -/
def aliasedWith {α : Type} (entries : List (Datum × Datum)) (camel name : String) (dflt : α)
    (read : Datum → Checked α) : Checked α :=
  match Datum.lookup entries (.str camel) with
  | some v => (read v).mapError fun is => is.map (Issue.under (.key camel))
  | none => optionalWith entries name dflt read

/-- A reading whose value must also meet a bound. -/
def bounded {α : Type} (read : Datum → Except IssueKind α) (ok : α → Bool) (issue : IssueKind)
    (d : Datum) : Except IssueKind α := do
  let v ← read d
  if ok v then pure v else throw issue

/-- A sequence, tuple or set whose items are each read; an issue names the item's
position. -/
def items {α : Type} (read : Datum → Except IssueKind α) : Datum → Except (List Issue) (List α)
  | .list xs | .tuple xs | .set xs =>
    let rs := xs.zipIdx.map fun (x, i) => at' [.index i] x (read x)
    if rs.all (·.issues.isEmpty) then .ok (rs.filterMap (·.toOption))
    else .error (rs.flatMap issues)
  | .cycle _ d => items read d
  | d => .error [⟨.listType, [], d⟩]

/-- The keys of a mapping that a schema does not know, each as an issue, in input order. -/
def extras (entries : List (Datum × Datum)) (known : List String) : List Issue :=
  entries.filterMap fun (k, v) =>
    match k with
    | .str s => if known.contains s then none else some ⟨.extraForbidden, [.key s], v⟩
    | _ => some ⟨.extraForbidden, [.key (Datum.display k)], v⟩

/-- A reading whose value must also pass the schema's check for unknown keys. -/
def closed {α : Type} (r : Checked α) (unknown : List Issue) : Checked α :=
  match r with
  | .ok x => if unknown.isEmpty then .ok x else .error unknown
  | .error is => .error (is ++ unknown)

end Checked

end TenantAuth
