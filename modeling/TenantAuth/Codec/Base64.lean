/-!
Base64 text for bytes. Writing uses the URL-safe alphabet without padding; reading is forgiving as
signed-token readers are: it pads the text, understands both alphabets, skips other characters and
drops spare bits. A text whose last group holds a single symbol, or that ends inside an unpadded
group, is refused.
-/

namespace TenantAuth

namespace Base64

/-- The symbols for the values 0 to 63 in the URL-safe alphabet. -/
def urlSymbols : Array Char :=
  "ABCDEFGHIJKLMNOPQRSTUVWXYZabcdefghijklmnopqrstuvwxyz0123456789-_".toList.toArray

/-- The symbol of a six-bit value. -/
def symbol (v : Nat) : Char := urlSymbols.getD v 'A'

/-- Writes bytes in groups of three as four symbols each; a final group of one or two bytes
gives two or three symbols. -/
def encode : List UInt8 → List Char
  | [] => []
  | [a] =>
    let x := a.toNat
    [symbol (x / 4), symbol (x % 4 * 16)]
  | [a, b] =>
    let x := a.toNat * 256 + b.toNat
    [symbol (x / 1024), symbol (x / 16 % 64), symbol (x % 16 * 4)]
  | a :: b :: c :: rest =>
    let x := a.toNat * 65536 + b.toNat * 256 + c.toNat
    symbol (x / 262144) :: symbol (x / 4096 % 64) :: symbol (x / 64 % 64) ::
      symbol (x % 64) :: encode rest

/-- URL-safe base64 text of bytes, without padding. -/
def encodeText (bs : List UInt8) : String := String.ofList (encode bs)

/-- The value of a symbol of the standard alphabet (`+`, `/`). -/
def standardValue? (b : UInt8) : Option Nat :=
  let n := b.toNat
  if 65 ≤ n && n ≤ 90 then some (n - 65)
  else if 97 ≤ n && n ≤ 122 then some (n - 71)
  else if 48 ≤ n && n ≤ 57 then some (n + 4)
  else if n == 43 then some 62
  else if n == 47 then some 63
  else none

/-- The value of a symbol of either alphabet. -/
def value? (b : UInt8) : Option Nat :=
  let n := b.toNat
  if 65 ≤ n && n ≤ 90 then some (n - 65)
  else if 97 ≤ n && n ≤ 122 then some (n - 71)
  else if 48 ≤ n && n ≤ 57 then some (n + 4)
  else if n == 43 || n == 45 then some 62
  else if n == 47 || n == 95 then some 63
  else none

/-- The state of the reader between symbols: how many symbols of the current group were read,
the bits still waiting, and how many pad characters followed them. -/
structure Reader where
  /-- Symbols of the current group read so far, 0 to 3. -/
  position : Nat := 0
  /-- Bits of the current group not yet written. -/
  pending : Nat := 0
  /-- Pad characters seen since the last symbol. -/
  pads : Nat := 0
  /-- Bytes written so far, last first. -/
  out : List UInt8 := []

/-- Takes one symbol value into the reader. -/
def Reader.take (r : Reader) (v : Nat) : Reader :=
  match r.position with
  | 0 => { r with position := 1, pending := v, pads := 0 }
  | 1 => { position := 2, pending := v % 16, pads := 0,
           out := UInt8.ofNat (r.pending * 4 + v / 16) :: r.out }
  | 2 => { position := 3, pending := v % 4, pads := 0,
           out := UInt8.ofNat (r.pending % 16 * 16 + v / 4) :: r.out }
  | _ => { position := 0, pending := 0, pads := 0,
           out := UInt8.ofNat (r.pending % 4 * 64 + v) :: r.out }

/-- Reads bytes of base64 text until the data ends, skipping bytes that are not symbols of
the alphabet; a complete pad ends the data. -/
def run (symbol? : UInt8 → Option Nat) (r : Reader) : List UInt8 → Option (List UInt8)
  | [] => if r.position == 0 then some r.out.reverse else none
  | b :: rest =>
    if b == 61 then
      if r.position ≥ 2 && r.position + r.pads + 1 ≥ 4 then some r.out.reverse
      else if r.position ≥ 2 then run symbol? { r with pads := r.pads + 1 } rest
      else run symbol? r rest
    else
      match symbol? b with
      | some v => run symbol? (r.take v) rest
      | none => run symbol? r rest

/-- Decodes base64 text given as bytes, padding it to a multiple of four first. -/
def decodeBytes (bs : List UInt8) : Option (List UInt8) :=
  let extra := bs.length % 4
  let padded := if extra == 0 then bs else bs ++ List.replicate (4 - extra) 61
  run value? {} padded

/-- Decodes base64 text. -/
def decode (s : String) : Option (List UInt8) :=
  decodeBytes s.toUTF8.toList

/-- Decodes standard base64 text as it stands, without adding pads. -/
def decodeStandard (bs : List UInt8) : Option (List UInt8) :=
  run standardValue? {} bs

example : encodeText [0xfb, 0xff] = "-_8" := by cbv
example : decode "-_8" = some [0xfb, 0xff] := by cbv
example : decode "-_8=" = some [0xfb, 0xff] := by cbv
example : decode "-_8 " = none := by cbv
example : decode "QQ" = some [65] := by cbv

end Base64

end TenantAuth
