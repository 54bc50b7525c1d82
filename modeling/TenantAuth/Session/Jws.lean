import TenantAuth.Codec.Base64
import TenantAuth.Crypto.Hmac
import TenantAuth.Datum.Display
import TenantAuth.Datum.Json
import TenantAuth.Fault
import TenantAuth.Text.Quote

/-!
# Compact signed tokens

A token is three base64url segments joined by dots: a header naming the algorithm, the payload, and
the keyed hash of the first two, signed and checked only under HS256, HS384 and HS512. A secret may
be a JSON document naming several keys, and a token is accepted when one of them reproduces its
signature. Checking tells a refused token from a fault: text carrying a lone surrogate, a header or
payload nested too deep for the JSON reader, and a key that cannot be built are faults.
-/

namespace TenantAuth

namespace Jws

/-- The keyed-hash signing algorithms. -/
inductive Algorithm where
  /-- HMAC with SHA-256. -/
  | hs256
  /-- HMAC with SHA-384. -/
  | hs384
  /-- HMAC with SHA-512. -/
  | hs512
deriving DecidableEq, Repr

namespace Algorithm

/-- The name of an algorithm in a token header. -/
def name : Algorithm → String
  | .hs256 => "HS256"
  | .hs384 => "HS384"
  | .hs512 => "HS512"

/-- The algorithm with a header name. -/
def ofName? : String → Option Algorithm
  | "HS256" => some .hs256
  | "HS384" => some .hs384
  | "HS512" => some .hs512
  | _ => none

/-- The hash under an algorithm. -/
def digest : Algorithm → Digest
  | .hs256 => .sha256
  | .hs384 => .sha384
  | .hs512 => .sha512

end Algorithm

/-- The labels of PEM blocks that hold an asymmetric key or a certificate. -/
def pemLabels : List String :=
  ["CERTIFICATE", "TRUSTED CERTIFICATE", "PRIVATE KEY", "PUBLIC KEY", "ENCRYPTED PRIVATE KEY",
   "OPENSSH PRIVATE KEY", "DSA PRIVATE KEY", "RSA PRIVATE KEY", "RSA PUBLIC KEY",
   "EC PRIVATE KEY", "DH PARAMETERS", "NEW CERTIFICATE REQUEST", "CERTIFICATE REQUEST",
   "SSH2 PUBLIC KEY", "SSH2 ENCRYPTED PRIVATE KEY", "X509 CRL"]

/-- The key types an SSH public key line may start with. -/
def sshKeyTypes : List String :=
  ["ssh-ed25519", "ssh-rsa", "ssh-dss", "ecdsa-sha2-nistp256", "ecdsa-sha2-nistp384",
   "ecdsa-sha2-nistp521"]

/-- The ending of the key type of an SSH certificate. -/
def sshCertificateSuffix : String := "-cert-v01@openssh.com"

/-- The bytes of a text. -/
def bytes (s : String) : List UInt8 := s.toUTF8.toList

/-- Whether a byte is a dash or a space. -/
def isDashOrSpace (b : UInt8) : Bool := b == 45 || b == 32

/-- Whether a byte is ASCII whitespace. -/
def isSpaceByte (b : UInt8) : Bool := b == 32 || (9 ≤ b && b ≤ 13)

/-- Whether some suffix of a byte run, the run itself included, has a property. -/
def anySuffix (p : List UInt8 → Bool) : List UInt8 → Bool
  | [] => p []
  | b :: rest => p (b :: rest) || anySuffix p rest

/-- Whether a PEM boundary opens at the front of the bytes: four dashes, a dash or space,
`BEGIN `, a label, a dash or space and four dashes. -/
def opensPem (bs : List UInt8) : Bool :=
  match bs with
  | 45 :: 45 :: 45 :: 45 :: b :: rest =>
    isDashOrSpace b && pemLabels.any fun label =>
      let opening := bytes ("BEGIN " ++ label)
      opening.isPrefixOf rest &&
        match rest.drop opening.length with
        | c :: 45 :: 45 :: 45 :: 45 :: _ => isDashOrSpace c
        | _ => false
  | _ => false

/-- Whether bytes hold a PEM boundary of an asymmetric key or certificate anywhere. -/
def holdsPem (key : List UInt8) : Bool := anySuffix opensPem key

/-- Whether bytes are an SSH key: they hold an SSH key type anywhere, or they start with a
word naming a certificate type, then spaces or tabs and another word. -/
def isSshKey (key : List UInt8) : Bool :=
  let word := key.takeWhile (!isSpaceByte ·)
  let rest := key.dropWhile (!isSpaceByte ·)
  let gap := rest.takeWhile fun b => b == 32 || b == 9
  let certificate :=
    !word.isEmpty && !gap.isEmpty &&
      (match rest.drop gap.length with
       | b :: _ => !isSpaceByte b
       | [] => false) &&
      (bytes sshCertificateSuffix).reverse.isPrefixOf word.reverse
  sshKeyTypes.any (fun t => anySuffix (bytes t).isPrefixOf key) || certificate

/-- Whether secret bytes are an asymmetric key or a certificate rather than a keyed-hash
secret. -/
def isAsymmetric (key : List UInt8) : Bool := holdsPem key || isSshKey key


/-- The header of a token signed with an algorithm, as compact JSON with sorted keys. -/
def headerText (alg : Algorithm) : String :=
  "\x7b\"alg\":\"" ++ alg.name ++ "\",\"typ\":\"JWT\"\x7d"

/-- Signs a payload: header and payload segments, then the signature segment. An algorithm
other than the keyed-hash ones, or an asymmetric secret, cannot sign; a payload holding an
integer of more digits than can be written out is refused before the secret is looked at. -/
def sign (algorithm : String) (secret : String) (payload : Datum) : Except Fault String :=
  match Algorithm.ofName? algorithm with
  | none => .error .signing
  | some alg =>
    if payload.hasLongInt then .error (.badValue Datum.tooLongToShowMessage)
    else if Surrogate.carries secret || isAsymmetric (bytes secret) then .error .signing
    else
      let signingInput := Base64.encodeText (bytes (headerText alg)) ++ "." ++
        Base64.encodeText (bytes (Json.render true payload))
      let mac := alg.digest.hmac (bytes secret) (bytes signingInput)
      .ok (signingInput ++ "." ++ Base64.encodeText mac)

/-- The pieces of a token: header, payload bytes, the signed bytes and the signature. -/
structure Pieces where
  /-- The decoded header. -/
  header : List (Datum × Datum)
  /-- The decoded payload bytes. -/
  payload : List UInt8
  /-- The bytes the signature covers: everything before the last dot. -/
  signingInput : List UInt8
  /-- The decoded signature. -/
  signature : List UInt8

/-- Splits bytes at the first occurrence of a byte. -/
def splitFirst (sep : UInt8) (bs : List UInt8) : Option (List UInt8 × List UInt8) :=
  match bs.idxOf? sep with
  | some i => some (bs.take i, bs.drop (i + 1))
  | none => none

/-- Splits bytes at the last occurrence of a byte. -/
def splitLast (sep : UInt8) (bs : List UInt8) : Option (List UInt8 × List UInt8) :=
  (splitFirst sep bs.reverse).map fun (after, before) => (before.reverse, after.reverse)

/-- A JSON document from UTF-8 bytes: none for bytes that are no UTF-8 text or no JSON, and
a fault for a document that nests too deep. -/
def readJson (bs : List UInt8) : Except Fault (Option Datum) :=
  match String.fromUTF8? (ByteArray.mk bs.toArray) with
  | none => .ok none
  | some text =>
    match Json.decode text with
    | .ok d => .ok (some d)
    | .error .tooDeep => .error .tooDeep
    | .error _ => .ok none

/-- Takes a token apart: none when it is not three segments with a JSON object header and
decodable segments. A token carrying a lone surrogate has no bytes, and a header too deep for
the reader cannot be read: both are faults. -/
def pieces (token : String) : Except Fault (Option Pieces) :=
  match Surrogate.utf8? token with
  | none => .error .unencodable
  | some bytes =>
    match splitLast 46 bytes with
    | none => .ok none
    | some (signingInput, sigSeg) =>
      match splitFirst 46 signingInput with
      | none => .ok none
      | some (headerSeg, payloadSeg) =>
        match Base64.decodeBytes headerSeg with
        | none => .ok none
        | some headerBytes =>
          (readJson headerBytes).map fun doc => do
            let header ← doc.bind Datum.entries?
            let payload ← Base64.decodeBytes payloadSeg
            let signature ← Base64.decodeBytes sigSeg
            pure ⟨header, payload, signingInput, signature⟩

/-- The members of a key set: the items of a sequence, the keys of a mapping, the characters
of a text; anything else cannot be gone through. -/
def members : Datum → Except Fault (List Datum)
  | .list xs => .ok xs
  | .dict es => .ok (es.map (·.1))
  | .str s => .ok (s.toList.map fun c => .str c.toString)
  | _ => .error .wrongType

/-- The keys a verification secret names, in the order they are tried. A secret that is not
JSON is one key; in a JSON secret, numbers stand for the text they are written as. -/
def keys (secret : String) : Except Fault (List Datum) :=
  match Json.parseWith true secret with
  | .ok (.dict es) =>
    match Datum.lookup es (.str "keys") with
    | some ks => members ks
    | none =>
      if (Datum.lookup es (.str "kty")).isSome || es.isEmpty then .ok [.dict es]
      else .ok (es.map (·.2))
  | .ok (.list xs) => .ok xs
  | .ok d => .ok [d]
  | .error _ => .ok [.str secret]

/-- The secret bytes of one key. A text key must be encodable and not asymmetric; a
mapping must be an `oct` key with its bytes in base64url under `k`. -/
def keyBytes (key : Datum) : Except Fault (List UInt8) :=
  match key with
  | .str s =>
    if Surrogate.carries s then .error .unencodable
    else if isAsymmetric (bytes s) then .error .badKey
    else .ok (bytes s)
  | .dict es =>
    match Datum.lookup es (.str "kty") with
    | some (.str "oct") =>
      match Datum.lookup es (.str "k") with
      | some (.str k) => match Base64.decode k with
        | some b => .ok b
        | none => .error .badEncoding
      | _ => .error .noAttribute
    | _ => .error .badKey
  | _ => .error .badKey

/-- Tries the keys in order until one reproduces the signature; a key that cannot be built
stops the search with its fault. -/
def anyKeySigns (alg : Algorithm) (signingInput signature : List UInt8) :
    List Datum → Except Fault Bool
  | [] => .ok false
  | k :: rest => do
    let kb ← keyBytes k
    if alg.digest.hmac kb signingInput == signature then pure true
    else anyKeySigns alg signingInput signature rest

/-- Checks a token's signature under a configured algorithm and secret and returns its
payload mapping: none when the token is refused, a fault when the token cannot be taken apart
(`pieces`), no key can be built, or the signed payload nests too deep. -/
def verify (algorithm : String) (secret : String) (token : String) :
    Except Fault (Option (List (Datum × Datum))) :=
  match pieces token with
  | .error f => .error f
  | .ok none => .ok none
  | .ok (some p) =>
    match Datum.lookup p.header (.str "alg") with
    | some (.str a) =>
      if a.isEmpty || a != algorithm then .ok none
      else match Algorithm.ofName? a with
        | none => .error .badKey
        | some alg => do
          let ks ← keys secret
          let ok ← anyKeySigns alg p.signingInput p.signature ks
          if !ok then pure none
          else (readJson p.payload).map (·.bind Datum.entries?)
    | _ => .ok none

end Jws

end TenantAuth
