import TenantAuth.Datum.Json
import TenantAuth.Text.Blank

/-!
# HTTP messages

A request is a method, a target, headers and a body; a response is a status, headers and a body.
Header names compare without regard to ASCII case and a lookup finds the first header of a name, and
responses carry their length in bytes and a compact JSON body.
-/

namespace TenantAuth

namespace Http

/-- A text with its ASCII letters in lower case. -/
def asciiLower (s : String) : String := String.ofList (s.toList.map Char.toLower)

/-- The value of the first header of a name, if any. -/
def lookupHeader (headers : List (String × String)) (name : String) : Option String :=
  (headers.find? fun (k, _) => asciiLower k == asciiLower name).map (·.2)

/-- An HTTP request. -/
structure Request where
  /-- The method, such as `GET`. -/
  method : String
  /-- The path, with the query if any. -/
  target : String
  /-- The headers, in the order sent. -/
  headers : List (String × String) := []
  /-- The body; empty when there is none. -/
  body : String := ""

/-- An HTTP response. -/
structure Response where
  /-- The status code. -/
  status : Nat
  /-- The headers, with lower-case names. -/
  headers : List (String × String) := []
  /-- The body. -/
  body : String := ""

namespace Request

/-- The value of a header of the request. -/
def header? (r : Request) (name : String) : Option String := lookupHeader r.headers name

/-- The path of the request, without its query. -/
def rawPath (r : Request) : String :=
  (r.target.splitOn "?").headD ""

/-- The query of the request, if it has one. -/
def query? (r : Request) : Option String :=
  match r.target.splitOn "?" with
  | _ :: rest@(_ :: _) => some ("?".intercalate rest)
  | _ => none

end Request

namespace Response

/-- The response with a header set: any headers of that name give way to the new one. -/
def setHeader (r : Response) (name value : String) : Response :=
  let name := asciiLower name
  { r with headers := (r.headers.filter fun (k, _) => k != name) ++ [(name, value)] }

/-- The value of a header of the response. -/
def header? (r : Response) (name : String) : Option String := lookupHeader r.headers name

/-- A response with a body of a media type, its length in bytes and extra headers. -/
def withBody (status : Nat) (mediaType body : String) (extra : List (String × String) := []) :
    Response :=
  { status, body,
    headers := [("content-length", toString body.utf8ByteSize), ("content-type", mediaType)] ++
      extra.map fun (k, v) => (asciiLower k, v) }

/-- A JSON response. -/
def json (status : Nat) (d : Datum) (extra : List (String × String) := []) : Response :=
  withBody status "application/json" (Json.render false d) extra

/-- A plain text response. -/
def plain (status : Nat) (text : String) (extra : List (String × String) := []) : Response :=
  withBody status "text/plain; charset=utf-8" text extra

end Response

/-- The value of a hexadecimal digit. -/
def hexDigit? (c : Char) : Option Nat := Json.hexValue? c

/-- The bytes of a path with its percent escapes decoded. -/
def unescapeBytes : List Char → List UInt8
  | '%' :: a :: b :: rest =>
    match hexDigit? a, hexDigit? b with
    | some x, some y => (x * 16 + y).toUInt8 :: unescapeBytes rest
    | _, _ => '%'.toNat.toUInt8 :: unescapeBytes (a :: b :: rest)
  | c :: rest => (String.singleton c).toUTF8.toList ++ unescapeBytes rest
  | [] => []

/-- The number of continuation bytes after a leading byte, and the bits it carries. -/
def leadBits (b : UInt8) : Option (Nat × Nat) :=
  let n := b.toNat
  if n < 0x80 then some (0, n)
  else if 0xC2 ≤ n && n < 0xE0 then some (1, n - 0xC0)
  else if 0xE0 ≤ n && n < 0xF0 then some (2, n - 0xE0)
  else if 0xF0 ≤ n && n < 0xF5 then some (3, n - 0xF0)
  else none

/-- Whether a code point is written in its shortest form for its byte count and is a
character. -/
def fitsWidth (count code : Nat) : Bool :=
  let least := match count with
    | 0 => 0
    | 1 => 0x80
    | 2 => 0x800
    | _ => 0x10000
  least ≤ code && code < 0x110000 && !(0xD800 ≤ code && code < 0xE000)

/-- Text from UTF-8 bytes, each malformed sequence becoming U+FFFD. -/
def decodeUtf8 : List UInt8 → List Char
  | [] => []
  | b :: rest =>
    match leadBits b with
    | none => Char.ofNat 0xFFFD :: decodeUtf8 rest
    | some (count, bits) =>
      let tail := rest.take count
      if tail.length == count && tail.all (fun t => t.toNat / 64 == 2) then
        let code := tail.foldl (fun acc t => acc * 64 + t.toNat % 64) bits
        if fitsWidth count code then Char.ofNat code :: decodeUtf8 (rest.drop count)
        else Char.ofNat 0xFFFD :: decodeUtf8 rest
      else Char.ofNat 0xFFFD :: decodeUtf8 rest
termination_by bs => bs.length

/-- A path with its percent escapes decoded as UTF-8. -/
def unescape (path : String) : String :=
  String.ofList (decodeUtf8 (unescapeBytes path.toList))

end Http

end TenantAuth
