import TenantAuth.Crypto.Bcrypt
import TenantAuth.Fault
import TenantAuth.Text.Numeral
import TenantAuth.Text.Quote

/-!
Password hashes as the service stores them: new hashes use version `2b` at a chosen cost, and stored
hashes of versions `2a`, `2b` and `2y` with 60 characters are accepted. Checking a password never
fails on a malformed stored hash, which is simply not accepted, and each operation says what it does
with an argument of the wrong type.
-/

namespace TenantAuth

namespace Password

/-- The prefixes of accepted hashes. -/
def prefixes : List String := ["$2a$", "$2b$", "$2y$"]

/-- The longest password, in UTF-8 bytes. -/
def maxBytes : Nat := 72

/-- The largest cost argument that is a number of the right width at all. -/
def costWidthLimit : Int := 65535

/-- The message for a password longer than `maxBytes`. -/
def tooLongMessage : String :=
  "password cannot be longer than 72 bytes, truncate manually if necessary (e.g. my_password[:72])"

/-- Whether a stored value is a well-formed hash: non-empty text of 60 characters that starts
with an accepted prefix. -/
def isValid : Datum → Bool
  | .str s => !s.isEmpty && prefixes.any (fun p => s.startsWith p) && s.length == 60
  | _ => false

/-- The cost field of a hash text, read as an integer literal; 0 when there is no such field
or it is not an integer. -/
def roundsOf (h : String) : Int :=
  match (h.splitOn "$")[2]? with
  | some field => match Numeral.readInt field with
    | .ok n => n
    | .error _ => 0
  | none => 0

/-- The cost recorded in a stored value; 0 for anything that is not text. -/
def hashRounds : Datum → Int
  | .str h => roundsOf h
  | _ => 0

/-- Whether a stored hash is cheaper than a target cost. A target that is not a number
cannot be compared. -/
def needsRehash (h target : Datum) : Except Fault Bool :=
  let r := hashRounds h
  match target with
  | .int n => .ok (r < n)
  | .bool b => .ok (r < if b then 1 else 0)
  | .float x => .ok (Double.compareInt? x r == some .gt)
  | _ => .error .wrongType

/-- The UTF-8 bytes of a password given as a dynamic value; only text has them, and text
carrying a lone surrogate cannot be encoded. -/
def bytesOf : Datum → Except Fault (List UInt8)
  | .str s => match Surrogate.utf8? s with
    | some bytes => .ok bytes
    | none => .error .unencodable
  | _ => .error .noAttribute

/-- Whether a password matches a stored hash. A malformed hash, a password longer than
`maxBytes` and a password or hash that cannot be encoded are not accepted; a password that
is not text is an error. -/
def verify (plain hashed : Datum) : Except Fault Bool :=
  if !isValid hashed then .ok false
  else
    match bytesOf plain, hashed with
    | .error .unencodable, _ => .ok false
    | .error f, _ => .error f
    | .ok bytes, .str h =>
      .ok (!Surrogate.carries h && bytes.length ≤ maxBytes && Bcrypt.accepts bytes h)
    | .ok _, _ => .ok false

/-- The cost of a new hash, from a dynamic value: an integer in 4..31. Other integers are
out of range, negative or over-wide ones cannot be costs at all, and other values are of the
wrong type. -/
def costOf : Datum → Except Fault Nat
  | .int n =>
    if n < 0 || n > costWidthLimit then .error .overflow
    else if Bcrypt.validCost n.toNat then .ok n.toNat
    else .error (.badValue "Invalid rounds")
  | .bool _ => .error (.badValue "Invalid rounds")
  | _ => .error .wrongType

/-- Hashes a password at a cost, given as dynamic values, with sixteen bytes of salt that the
caller draws at random. The cost is checked first, then the password's type, then its length. -/
def hash (salt : Vector UInt8 16) (password rounds : Datum) : Except Fault String := do
  let cost ← costOf rounds
  let bytes ← bytesOf password
  if bytes.length > maxBytes then throw (.badValue tooLongMessage)
  pure (Bcrypt.hash .b cost salt.toList bytes)

end Password

end TenantAuth
