import TenantAuth.Crypto.Blowfish.Initial

/-!
The Blowfish block cipher and its expensive key schedule. The state is one array of 1042
words: the 18 subkeys, then the four S-boxes of 256 words each. The key schedule folds a key
into the subkeys and then re-encrypts the whole state, pair of words by pair of words, each
pair from the one before; the salted variant also mixes salt words into each pair before it
is encrypted.
-/

namespace TenantAuth

namespace Blowfish

/-- The cipher state: the 18 subkeys followed by four S-boxes of 256 words each. -/
structure State where
  /-- The 1042 words of the state. -/
  words : Array UInt32

namespace State

/-- The state before any key is folded in. -/
def initial : State := ⟨piWords⟩

/-- A word of the state. -/
@[inline] def get (s : State) (i : Nat) : UInt32 := s.words.getD i 0

/-- The round function: the four bytes of a word select one entry of each S-box. -/
@[inline] def feistel (s : State) (x : UInt32) : UInt32 :=
  let a := (x >>> 24).toNat
  let b := ((x >>> 16) &&& 0xff).toNat
  let c := ((x >>> 8) &&& 0xff).toNat
  let d := (x &&& 0xff).toNat
  ((s.get (18 + a) + s.get (274 + b)) ^^^ s.get (530 + c)) + s.get (786 + d)

/-- The sixteen rounds, two at a time, from the round with subkey `i`. -/
def rounds (s : State) : Nat → Nat → UInt32 → UInt32 → UInt32 × UInt32
  | 0, _, l, r => (l, r)
  | n + 1, i, l, r =>
    let r := r ^^^ s.feistel l ^^^ s.get i
    let l := l ^^^ s.feistel r ^^^ s.get (i + 1)
    rounds s n (i + 2) l r

/-- Encrypts one block of two words. -/
def encipher (s : State) (l r : UInt32) : UInt32 × UInt32 :=
  let (l, r) := rounds s 8 1 (l ^^^ s.get 0) r
  (r ^^^ s.get 17, l)

/-- The big-endian word of four bytes read cyclically from a position, and the position after
them. -/
def streamWord (data : Array UInt8) (j : Nat) : UInt32 × Nat :=
  let n := data.size
  let byte (k : Nat) : UInt32 := (data.getD ((j + k) % n) 0).toUInt32
  (byte 0 <<< 24 ||| byte 1 <<< 16 ||| byte 2 <<< 8 ||| byte 3, (j + 4) % n)

/-- Folds key words into the 18 subkeys. -/
def foldKey (s : State) (key : Array UInt8) : State :=
  let (words, _) := (List.range 18).foldl (fun (acc : Array UInt32 × Nat) i =>
    let (w, j) := streamWord key acc.2
    (acc.1.modify i (· ^^^ w), j)) (s.words, 0)
  ⟨words⟩

/-- Re-encrypts the state from pair `i` on: each pair is the encryption of the previous pair,
first mixed with the next two salt words when a salt is given. -/
def refill (salt : Option (Array UInt8)) : Nat → Nat → State → UInt32 → UInt32 → Nat → State
  | 0, _, s, _, _, _ => s
  | n + 1, i, s, l, r, j =>
    let (l, r, j) := match salt with
      | some data =>
        let (a, j) := streamWord data j
        let (b, j) := streamWord data j
        (l ^^^ a, r ^^^ b, j)
      | none => (l, r, j)
    let (l, r) := s.encipher l r
    let s : State := ⟨(s.words.set! (2 * i) l).set! (2 * i + 1) r⟩
    refill salt n (i + 1) s l r j

/-- One pass of the key schedule: the key is folded into the subkeys, then all 521 pairs of
the state are re-encrypted. -/
def expand (s : State) (key : Array UInt8) (salt : Option (Array UInt8)) : State :=
  refill salt 521 0 (s.foldKey key) 0 0 0

end State

end Blowfish

end TenantAuth
