import TenantAuth.Datum.Display

/-!
Why a document does not fit a schema. Each issue names its kind, where in the document it
arose (a path of field names and positions; the empty path is the whole document), and the
value found there. A kind has a short code, a message and, for some kinds, a context mapping
with the bound or the choices that were expected.
-/

namespace TenantAuth

/-- One step of a path into a document. -/
inductive Step where
  /-- A field of a mapping. -/
  | key (name : String)
  /-- A position in a sequence. -/
  | index (i : Nat)
deriving DecidableEq, Repr

/-- The kinds of schema violations. -/
inductive IssueKind where
  /-- A required field is absent. -/
  | missing
  /-- A field that the schema does not know. -/
  | extraForbidden
  /-- Text was expected. -/
  | stringType
  /-- Text was given as data that is not Unicode text: bytes that are not UTF-8, or text
  carrying a lone surrogate where its characters must be read. -/
  | stringUnicode
  /-- An integer was expected. -/
  | intType
  /-- Text that does not read as an integer. -/
  | intParsing
  /-- A double with a fractional part where an integer was expected. -/
  | intFromFloat
  /-- An integer too large to read: text longer than the limit, or a double outside the
  64-bit range. -/
  | intParsingSize
  /-- An infinite or undefined double where a number was expected. -/
  | finiteNumber
  /-- A number was expected. -/
  | floatType
  /-- Text that does not read as a number. -/
  | floatParsing
  /-- A truth value was expected. -/
  | boolType
  /-- A value that does not read as a truth value. -/
  | boolParsing
  /-- A sequence was expected. -/
  | listType
  /-- A mapping was expected. -/
  | dictType
  /-- A mapping or an instance of the named model was expected. -/
  | modelType (model : String)
  /-- A mapping or an object with attributes was expected. -/
  | modelAttributesType
  /-- One of the listed members of an enumeration was expected. -/
  | enumMember (expected : String)
  /-- One of the listed literal values was expected. -/
  | literalValue (expected : String)
  /-- Text shorter than the least length. -/
  | stringTooShort (least : Nat)
  /-- Text longer than the greatest length. -/
  | stringTooLong (greatest : Nat)
  /-- A number not above a bound. -/
  | greaterThan (bound : Datum)
  /-- A number below a bound. -/
  | greaterThanEqual (bound : Datum)
  /-- A number above a bound. -/
  | lessThanEqual (bound : Datum)
  /-- A rule of the model failed with a message. -/
  | valueError (message : String)
  /-- The body is not well-formed JSON. -/
  | jsonInvalid (reason : String)

namespace IssueKind

/-- The short code of an issue kind. -/
def code : IssueKind → String
  | .missing => "missing"
  | .extraForbidden => "extra_forbidden"
  | .stringType => "string_type"
  | .stringUnicode => "string_unicode"
  | .intType => "int_type"
  | .intParsing => "int_parsing"
  | .intFromFloat => "int_from_float"
  | .intParsingSize => "int_parsing_size"
  | .finiteNumber => "finite_number"
  | .floatType => "float_type"
  | .floatParsing => "float_parsing"
  | .boolType => "bool_type"
  | .boolParsing => "bool_parsing"
  | .listType => "list_type"
  | .dictType => "dict_type"
  | .modelType _ => "model_type"
  | .modelAttributesType => "model_attributes_type"
  | .enumMember _ => "enum"
  | .literalValue _ => "literal_error"
  | .stringTooShort _ => "string_too_short"
  | .stringTooLong _ => "string_too_long"
  | .greaterThan _ => "greater_than"
  | .greaterThanEqual _ => "greater_than_equal"
  | .lessThanEqual _ => "less_than_equal"
  | .valueError _ => "value_error"
  | .jsonInvalid _ => "json_invalid"

/-- "character" or "characters", for a count. -/
def characters (n : Nat) : String :=
  if n == 1 then "character" else "characters"

/-- The message of an issue kind. -/
def message : IssueKind → String
  | .missing => "Field required"
  | .extraForbidden => "Extra inputs are not permitted"
  | .stringType => "Input should be a valid string"
  | .stringUnicode => "Input should be a valid string, unable to parse raw data as a unicode string"
  | .intType => "Input should be a valid integer"
  | .intParsing => "Input should be a valid integer, unable to parse string as an integer"
  | .intFromFloat => "Input should be a valid integer, got a number with a fractional part"
  | .intParsingSize => "Unable to parse input string as an integer, exceeded maximum size"
  | .finiteNumber => "Input should be a finite number"
  | .floatType => "Input should be a valid number"
  | .floatParsing => "Input should be a valid number, unable to parse string as a number"
  | .boolType => "Input should be a valid boolean"
  | .boolParsing => "Input should be a valid boolean, unable to interpret input"
  | .listType => "Input should be a valid list"
  | .dictType => "Input should be a valid dictionary"
  | .modelType model => "Input should be a valid dictionary or instance of " ++ model
  | .modelAttributesType => "Input should be a valid dictionary or object to extract fields from"
  | .enumMember expected => "Input should be " ++ expected
  | .literalValue expected => "Input should be " ++ expected
  | .stringTooShort n => "String should have at least " ++ toString n ++ " " ++ characters n
  | .stringTooLong n => "String should have at most " ++ toString n ++ " " ++ characters n
  | .greaterThan b => "Input should be greater than " ++ b.display
  | .greaterThanEqual b => "Input should be greater than or equal to " ++ b.display
  | .lessThanEqual b => "Input should be less than or equal to " ++ b.display
  | .valueError m => "Value error, " ++ m
  | .jsonInvalid _ => "JSON decode error"

/-- The context of an issue kind: the bound, the choices or the reason behind it. A failed
rule's context holds the failure as an empty mapping. -/
def context? : IssueKind → Option Datum
  | .modelType model => some (Datum.record [("class_name", .str model)])
  | .enumMember expected => some (Datum.record [("expected", .str expected)])
  | .literalValue expected => some (Datum.record [("expected", .str expected)])
  | .stringTooShort n => some (Datum.record [("min_length", .int n)])
  | .stringTooLong n => some (Datum.record [("max_length", .int n)])
  | .greaterThan b => some (Datum.record [("gt", b)])
  | .greaterThanEqual b => some (Datum.record [("ge", b)])
  | .lessThanEqual b => some (Datum.record [("le", b)])
  | .valueError _ => some (Datum.record [("error", .dict [])])
  | .jsonInvalid reason => some (Datum.record [("error", .str reason)])
  | _ => none

end IssueKind

/-- One schema violation: its kind, where it arose, and the value found there. -/
structure Issue where
  /-- What is wrong. -/
  kind : IssueKind
  /-- The path to the offending value. -/
  loc : List Step
  /-- The offending value; for an absent field, the enclosing mapping. -/
  input : Datum

namespace Issue

/-- The issue moved under a further step of path. -/
def under (step : Step) (i : Issue) : Issue := { i with loc := step :: i.loc }

end Issue

end TenantAuth
