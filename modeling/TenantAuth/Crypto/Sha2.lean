/-!
The SHA-2 hash functions SHA-256, SHA-384 and SHA-512 of FIPS 180-4. A message is padded with
a one bit, zeros and its bit length to whole blocks; each block is expanded into a schedule of
words and mixed into the chaining words by the compression rounds. SHA-256 works on 32-bit
words in 64-byte blocks, SHA-512 on 64-bit words in 128-byte blocks, and SHA-384 is SHA-512
from other initial words, cut to 48 bytes.
-/

namespace TenantAuth

namespace Sha2

/-- The big-endian bytes of a number, in a fixed width. -/
def bigEndian (width : Nat) (n : Nat) : List UInt8 :=
  (List.range width).reverse.map fun i => UInt8.ofNat (n / Nat.pow 256 i % 256)

/-- A message padded to whole blocks: a one bit, zeros, and the message's bit length in
`lengthBytes` bytes. -/
def pad (blockBytes lengthBytes : Nat) (msg : List UInt8) : Array UInt8 :=
  let used := (msg.length + 1 + lengthBytes) % blockBytes
  let zeros := if used == 0 then 0 else blockBytes - used
  (msg ++ [0x80] ++ List.replicate zeros 0 ++ bigEndian lengthBytes (8 * msg.length)).toArray

/-- The number of whole blocks in padded bytes. -/
def blockCount (blockBytes : Nat) (bs : Array UInt8) : Nat := bs.size / blockBytes

/-! ### SHA-256 -/

/-- The round constants of SHA-256: the first 32 bits of the fractional parts of the cube
roots of the first 64 primes. -/
def roundConstants32 : Array UInt32 :=
  #[0x428a2f98, 0x71374491, 0xb5c0fbcf, 0xe9b5dba5, 0x3956c25b, 0x59f111f1,
   0x923f82a4, 0xab1c5ed5, 0xd807aa98, 0x12835b01, 0x243185be, 0x550c7dc3,
   0x72be5d74, 0x80deb1fe, 0x9bdc06a7, 0xc19bf174, 0xe49b69c1, 0xefbe4786,
   0x0fc19dc6, 0x240ca1cc, 0x2de92c6f, 0x4a7484aa, 0x5cb0a9dc, 0x76f988da,
   0x983e5152, 0xa831c66d, 0xb00327c8, 0xbf597fc7, 0xc6e00bf3, 0xd5a79147,
   0x06ca6351, 0x14292967, 0x27b70a85, 0x2e1b2138, 0x4d2c6dfc, 0x53380d13,
   0x650a7354, 0x766a0abb, 0x81c2c92e, 0x92722c85, 0xa2bfe8a1, 0xa81a664b,
   0xc24b8b70, 0xc76c51a3, 0xd192e819, 0xd6990624, 0xf40e3585, 0x106aa070,
   0x19a4c116, 0x1e376c08, 0x2748774c, 0x34b0bcb5, 0x391c0cb3, 0x4ed8aa4a,
   0x5b9cca4f, 0x682e6ff3, 0x748f82ee, 0x78a5636f, 0x84c87814, 0x8cc70208,
   0x90befffa, 0xa4506ceb, 0xbef9a3f7, 0xc67178f2]

/-- The initial words of SHA-256: the first 32 bits of the fractional parts of the square
roots of the first 8 primes. -/
def initial256 : Array UInt32 :=
  #[0x6a09e667, 0xbb67ae85, 0x3c6ef372, 0xa54ff53a, 0x510e527f, 0x9b05688c,
   0x1f83d9ab, 0x5be0cd19]

/-- The big-endian 32-bit word at a byte offset. -/
def word32 (bs : Array UInt8) (i : Nat) : UInt32 :=
  (bs.getD i 0).toUInt32 <<< 24 ||| (bs.getD (i + 1) 0).toUInt32 <<< 16 |||
    (bs.getD (i + 2) 0).toUInt32 <<< 8 ||| (bs.getD (i + 3) 0).toUInt32

/-- Rotation of a 32-bit word to the right. -/
def rotr32 (x : UInt32) (n : UInt32) : UInt32 := (x >>> n) ||| (x <<< (32 - n))

/-- The 64-word schedule of the block at a byte offset. -/
def schedule32 (bs : Array UInt8) (base : Nat) : Array UInt32 :=
  let first := (List.range 16).toArray.map fun j => word32 bs (base + 4 * j)
  (List.range 48).foldl (fun w j =>
    let x := w.getD (j + 1) 0
    let y := w.getD (j + 14) 0
    let s0 := rotr32 x 7 ^^^ rotr32 x 18 ^^^ (x >>> 3)
    let s1 := rotr32 y 17 ^^^ rotr32 y 19 ^^^ (y >>> 10)
    w.push (w.getD j 0 + s0 + w.getD (j + 9) 0 + s1)) first

/-- One compression round of SHA-256 on the eight working words. -/
def round32 (v : Array UInt32) (k w : UInt32) : Array UInt32 :=
  let a := v.getD 0 0
  let b := v.getD 1 0
  let c := v.getD 2 0
  let d := v.getD 3 0
  let e := v.getD 4 0
  let f := v.getD 5 0
  let g := v.getD 6 0
  let h := v.getD 7 0
  let t1 := h + (rotr32 e 6 ^^^ rotr32 e 11 ^^^ rotr32 e 25) + ((e &&& f) ^^^ (~~~e &&& g)) + k + w
  let t2 := (rotr32 a 2 ^^^ rotr32 a 13 ^^^ rotr32 a 22) + ((a &&& b) ^^^ (a &&& c) ^^^ (b &&& c))
  #[t1 + t2, a, b, c, d + t1, e, f, g]

/-- Mixes one block into the chaining words. -/
def compress32 (h : Array UInt32) (bs : Array UInt8) (base : Nat) : Array UInt32 :=
  let w := schedule32 bs base
  let v := (List.range 64).foldl
    (fun v t => round32 v (roundConstants32.getD t 0) (w.getD t 0)) h
  (List.range 8).toArray.map fun i => h.getD i 0 + v.getD i 0

/-- The SHA-256 digest of a message: 32 bytes. -/
def sha256 (msg : List UInt8) : List UInt8 :=
  let bs := pad 64 8 msg
  let h := (List.range (blockCount 64 bs)).foldl (fun h i => compress32 h bs (64 * i)) initial256
  h.toList.flatMap fun x => bigEndian 4 x.toNat

/-! ### SHA-512 and SHA-384 -/

/-- The round constants of SHA-512: the first 64 bits of the fractional parts of the cube
roots of the first 80 primes. -/
def roundConstants64 : Array UInt64 :=
  #[0x428a2f98d728ae22, 0x7137449123ef65cd, 0xb5c0fbcfec4d3b2f,
   0xe9b5dba58189dbbc, 0x3956c25bf348b538, 0x59f111f1b605d019,
   0x923f82a4af194f9b, 0xab1c5ed5da6d8118, 0xd807aa98a3030242,
   0x12835b0145706fbe, 0x243185be4ee4b28c, 0x550c7dc3d5ffb4e2,
   0x72be5d74f27b896f, 0x80deb1fe3b1696b1, 0x9bdc06a725c71235,
   0xc19bf174cf692694, 0xe49b69c19ef14ad2, 0xefbe4786384f25e3,
   0x0fc19dc68b8cd5b5, 0x240ca1cc77ac9c65, 0x2de92c6f592b0275,
   0x4a7484aa6ea6e483, 0x5cb0a9dcbd41fbd4, 0x76f988da831153b5,
   0x983e5152ee66dfab, 0xa831c66d2db43210, 0xb00327c898fb213f,
   0xbf597fc7beef0ee4, 0xc6e00bf33da88fc2, 0xd5a79147930aa725,
   0x06ca6351e003826f, 0x142929670a0e6e70, 0x27b70a8546d22ffc,
   0x2e1b21385c26c926, 0x4d2c6dfc5ac42aed, 0x53380d139d95b3df,
   0x650a73548baf63de, 0x766a0abb3c77b2a8, 0x81c2c92e47edaee6,
   0x92722c851482353b, 0xa2bfe8a14cf10364, 0xa81a664bbc423001,
   0xc24b8b70d0f89791, 0xc76c51a30654be30, 0xd192e819d6ef5218,
   0xd69906245565a910, 0xf40e35855771202a, 0x106aa07032bbd1b8,
   0x19a4c116b8d2d0c8, 0x1e376c085141ab53, 0x2748774cdf8eeb99,
   0x34b0bcb5e19b48a8, 0x391c0cb3c5c95a63, 0x4ed8aa4ae3418acb,
   0x5b9cca4f7763e373, 0x682e6ff3d6b2b8a3, 0x748f82ee5defb2fc,
   0x78a5636f43172f60, 0x84c87814a1f0ab72, 0x8cc702081a6439ec,
   0x90befffa23631e28, 0xa4506cebde82bde9, 0xbef9a3f7b2c67915,
   0xc67178f2e372532b, 0xca273eceea26619c, 0xd186b8c721c0c207,
   0xeada7dd6cde0eb1e, 0xf57d4f7fee6ed178, 0x06f067aa72176fba,
   0x0a637dc5a2c898a6, 0x113f9804bef90dae, 0x1b710b35131c471b,
   0x28db77f523047d84, 0x32caab7b40c72493, 0x3c9ebe0a15c9bebc,
   0x431d67c49c100d4c, 0x4cc5d4becb3e42b6, 0x597f299cfc657e2a,
   0x5fcb6fab3ad6faec, 0x6c44198c4a475817]

/-- The initial words of SHA-512: the first 64 bits of the fractional parts of the square
roots of the first 8 primes. -/
def initial512 : Array UInt64 :=
  #[0x6a09e667f3bcc908, 0xbb67ae8584caa73b, 0x3c6ef372fe94f82b,
   0xa54ff53a5f1d36f1, 0x510e527fade682d1, 0x9b05688c2b3e6c1f,
   0x1f83d9abfb41bd6b, 0x5be0cd19137e2179]

/-- The initial words of SHA-384: the first 64 bits of the fractional parts of the square
roots of the ninth to sixteenth primes. -/
def initial384 : Array UInt64 :=
  #[0xcbbb9d5dc1059ed8, 0x629a292a367cd507, 0x9159015a3070dd17,
   0x152fecd8f70e5939, 0x67332667ffc00b31, 0x8eb44a8768581511,
   0xdb0c2e0d64f98fa7, 0x47b5481dbefa4fa4]

/-- The big-endian 64-bit word at a byte offset. -/
def word64 (bs : Array UInt8) (i : Nat) : UInt64 :=
  (List.range 8).foldl (fun acc j => acc <<< 8 ||| (bs.getD (i + j) 0).toUInt64) 0

/-- Rotation of a 64-bit word to the right. -/
def rotr64 (x : UInt64) (n : UInt64) : UInt64 := (x >>> n) ||| (x <<< (64 - n))

/-- The 80-word schedule of the block at a byte offset. -/
def schedule64 (bs : Array UInt8) (base : Nat) : Array UInt64 :=
  let first := (List.range 16).toArray.map fun j => word64 bs (base + 8 * j)
  (List.range 64).foldl (fun w j =>
    let x := w.getD (j + 1) 0
    let y := w.getD (j + 14) 0
    let s0 := rotr64 x 1 ^^^ rotr64 x 8 ^^^ (x >>> 7)
    let s1 := rotr64 y 19 ^^^ rotr64 y 61 ^^^ (y >>> 6)
    w.push (w.getD j 0 + s0 + w.getD (j + 9) 0 + s1)) first

/-- One compression round of SHA-512 on the eight working words. -/
def round64 (v : Array UInt64) (k w : UInt64) : Array UInt64 :=
  let a := v.getD 0 0
  let b := v.getD 1 0
  let c := v.getD 2 0
  let d := v.getD 3 0
  let e := v.getD 4 0
  let f := v.getD 5 0
  let g := v.getD 6 0
  let h := v.getD 7 0
  let t1 := h + (rotr64 e 14 ^^^ rotr64 e 18 ^^^ rotr64 e 41) + ((e &&& f) ^^^ (~~~e &&& g)) + k + w
  let t2 := (rotr64 a 28 ^^^ rotr64 a 34 ^^^ rotr64 a 39) + ((a &&& b) ^^^ (a &&& c) ^^^ (b &&& c))
  #[t1 + t2, a, b, c, d + t1, e, f, g]

/-- Mixes one block into the chaining words. -/
def compress64 (h : Array UInt64) (bs : Array UInt8) (base : Nat) : Array UInt64 :=
  let w := schedule64 bs base
  let v := (List.range 80).foldl
    (fun v t => round64 v (roundConstants64.getD t 0) (w.getD t 0)) h
  (List.range 8).toArray.map fun i => h.getD i 0 + v.getD i 0

/-- The chaining words after all blocks of a message, from given initial words. -/
def chain64 (init : Array UInt64) (msg : List UInt8) : Array UInt64 :=
  let bs := pad 128 16 msg
  (List.range (blockCount 128 bs)).foldl (fun h i => compress64 h bs (128 * i)) init

/-- The SHA-512 digest of a message: 64 bytes. -/
def sha512 (msg : List UInt8) : List UInt8 :=
  (chain64 initial512 msg).toList.flatMap fun x => bigEndian 8 x.toNat

/-- The SHA-384 digest of a message: 48 bytes. -/
def sha384 (msg : List UInt8) : List UInt8 :=
  ((chain64 initial384 msg).toList.take 6).flatMap fun x => bigEndian 8 x.toNat

end Sha2

end TenantAuth
