import TenantAuth.Crypto.Sha2

/-!
Keyed message authentication (HMAC, RFC 2104) over the SHA-2 hashes. A key longer than the
hash's block is hashed first; the key, padded with zeros to a block, is masked with `0x36`
for the inner hash and with `0x5c` for the outer one.
-/

namespace TenantAuth

/-- The SHA-2 hash functions a signature can use. -/
inductive Digest where
  /-- SHA-256, 32-byte digests over 64-byte blocks. -/
  | sha256
  /-- SHA-384, 48-byte digests over 128-byte blocks. -/
  | sha384
  /-- SHA-512, 64-byte digests over 128-byte blocks. -/
  | sha512
deriving DecidableEq, Repr

namespace Digest

/-- The block length in bytes. -/
def blockSize : Digest → Nat
  | .sha256 => 64
  | .sha384 => 128
  | .sha512 => 128

/-- The digest of a message. -/
def hash : Digest → List UInt8 → List UInt8
  | .sha256 => Sha2.sha256
  | .sha384 => Sha2.sha384
  | .sha512 => Sha2.sha512

/-- The message authentication code of a message under a key. -/
def hmac (d : Digest) (key msg : List UInt8) : List UInt8 :=
  let short := if key.length > d.blockSize then d.hash key else key
  let block := short ++ List.replicate (d.blockSize - short.length) 0
  d.hash (block.map (· ^^^ 0x5c) ++ d.hash (block.map (· ^^^ 0x36) ++ msg))

end Digest

end TenantAuth
