import TenantAuth.Crypto.Blowfish

/-!
Password hashes in the modular crypt format `$2b$NN$`: a 16-byte salt and a 23-byte digest in
bcrypt's base64 alphabet. The digest is the text "OrpheanBeholderScryDoubt" encrypted 64 times under
a Blowfish state set up from the salt and the key with `2 ^ cost` extra key-schedule passes. A hash
is accepted for a password exactly when it is the hash the password gives with the hash's own
version, cost and salt.
-/

namespace TenantAuth

namespace Bcrypt

/-- The symbols of the hash alphabet, for the values 0 to 63. -/
def symbols : Array Char :=
  "./ABCDEFGHIJKLMNOPQRSTUVWXYZabcdefghijklmnopqrstuvwxyz0123456789".toList.toArray

/-- The value of a symbol of the hash alphabet. -/
def symbolValue? (c : Char) : Option Nat :=
  let n := c.toNat
  if c == '.' then some 0
  else if c == '/' then some 1
  else if 65 ≤ n && n ≤ 90 then some (n - 63)
  else if 97 ≤ n && n ≤ 122 then some (n - 69)
  else if 48 ≤ n && n ≤ 57 then some (n + 6)
  else none

/-- The bits of bytes, most significant first. -/
def bits (bs : List UInt8) : List Bool :=
  bs.flatMap fun b => (List.range 8).reverse.map fun i => b.toNat / Nat.pow 2 i % 2 == 1

/-- The number that a run of bits, most significant first, stands for. -/
def bitsValue (bs : List Bool) : Nat :=
  bs.foldl (fun n b => 2 * n + (if b then 1 else 0)) 0

/-- Groups of six bits, the last one filled up with zeros. -/
def sextets (bs : List Bool) : List Nat :=
  if _h : bs.length ≤ 6 then
    if bs.isEmpty then [] else [bitsValue bs * Nat.pow 2 (6 - bs.length)]
  else bitsValue (bs.take 6) :: sextets (bs.drop 6)
termination_by bs.length
decreasing_by simp only [List.length_drop]; omega

/-- Bytes written in the hash alphabet, without padding. -/
def encode (bs : List UInt8) : String :=
  String.ofList ((sextets (bits bs)).map fun v => symbols.getD v '.')

/-- Groups of eight bits; a shorter rest is dropped. -/
def octets (bs : List Bool) : List UInt8 :=
  if _h : bs.length < 8 then []
  else UInt8.ofNat (bitsValue (bs.take 8)) :: octets (bs.drop 8)
termination_by bs.length
decreasing_by simp only [List.length_drop]; omega

/-- Reads symbols of the hash alphabet as a given number of bytes; the spare bits at the end
must be zero, so every byte string has one written form. -/
def decode (count : Nat) (s : String) : Option (List UInt8) := do
  let values ← s.toList.mapM symbolValue?
  let bs := values.flatMap fun v => (List.range 6).reverse.map fun i => v / Nat.pow 2 i % 2 == 1
  let bytes := octets bs
  if bytes.length == count && encode bytes == s then some bytes else none

/-- The key of a password: its bytes and a zero byte, cut to 72 bytes. -/
def key (password : List UInt8) : List UInt8 :=
  (password ++ [0]).take 72

/-- The six words of "OrpheanBeholderScryDoubt". -/
def magic : List UInt32 :=
  [0x4f727068, 0x65616e42, 0x65686f6c, 0x64657253, 0x63727944, 0x6f756274]

/-- The extra passes of the key schedule: key, then salt, `n` times. -/
def stretch (key salt : Array UInt8) : Nat → Blowfish.State → Blowfish.State
  | 0, s => s
  | n + 1, s => stretch key salt n ((s.expand key none).expand salt none)

/-- Encrypts a block of two words 64 times. -/
def encrypt64 (s : Blowfish.State) : Nat → UInt32 × UInt32 → UInt32 × UInt32
  | 0, p => p
  | n + 1, (l, r) => encrypt64 s n (s.encipher l r)

/-- The big-endian bytes of a word. -/
def wordBytes (w : UInt32) : List UInt8 :=
  [(w >>> 24).toUInt8, (w >>> 16).toUInt8, (w >>> 8).toUInt8, w.toUInt8]

/-- The 23-byte digest of a key under a cost and a salt. -/
def digest (cost : Nat) (salt key : List UInt8) : List UInt8 :=
  let k := key.toArray
  let sa := salt.toArray
  let s := stretch k sa (Nat.pow 2 cost) (Blowfish.State.initial.expand k (some sa))
  let pairs := match magic with
    | [a, b, c, d, e, f] => [(a, b), (c, d), (e, f)]
    | _ => []
  let words := pairs.flatMap fun p => let (l, r) := encrypt64 s 64 p; [l, r]
  (words.flatMap wordBytes).take 23

/-- The versions of the format whose hashes are accepted. -/
inductive Version where
  /-- `2a`. -/
  | a
  /-- `2b`, the version new hashes are written in. -/
  | b
  /-- `2y`. -/
  | y
deriving DecidableEq, Repr

/-- The tag of a version. -/
def Version.tag : Version → String
  | .a => "2a"
  | .b => "2b"
  | .y => "2y"

/-- The version of a tag. -/
def Version.ofTag? : String → Option Version
  | "2a" => some .a
  | "2b" => some .b
  | "2y" => some .y
  | _ => none

/-- The costs a hash may have. -/
def validCost (cost : Nat) : Bool := 4 ≤ cost && cost ≤ 31

/-- A cost as two decimal digits. -/
def costText (cost : Nat) : String :=
  if cost < 10 then "0" ++ toString cost else toString cost

/-- The hash text of a password under a version, a cost and a 16-byte salt. -/
def format (version : Version) (cost : Nat) (salt digestBytes : List UInt8) : String :=
  "$" ++ version.tag ++ "$" ++ costText cost ++ "$" ++ encode salt ++ encode digestBytes

/-- The hash of a password's bytes under a version, a cost and a 16-byte salt. -/
def hash (version : Version) (cost : Nat) (salt password : List UInt8) : String :=
  format version cost salt (digest cost salt (key password))

/-- The version, cost and salt a hash text was written with, when it has the canonical
shape: `$`, a known version, `$`, two digits of a valid cost, `$`, and 53 symbols whose first
22 are a salt. -/
def setting? (h : String) : Option (Version × Nat × List UInt8) := do
  let cs := h.toList
  guard (cs.length == 60 && cs.head? == some '$' && cs[3]? == some '$' && cs[6]? == some '$')
  let version ← Version.ofTag? (String.ofList (cs.extract 1 3))
  let d1 ← (cs[4]?).filter Char.isDigit
  let d2 ← (cs[5]?).filter Char.isDigit
  let cost := (d1.toNat - 48) * 10 + (d2.toNat - 48)
  guard (validCost cost)
  let salt ← decode 16 (String.ofList (cs.extract 7 29))
  pure (version, cost, salt)

/-- Whether a hash text is the hash of a password's bytes. -/
def accepts (password : List UInt8) (h : String) : Bool :=
  match setting? h with
  | some (version, cost, salt) => hash version cost salt password == h
  | none => false

end Bcrypt

end TenantAuth
