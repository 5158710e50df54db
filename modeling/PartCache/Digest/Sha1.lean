import PartCache.Bytes

/-!
# The SHA-1 digest

Objects are addressed by the SHA-1 digest of their cache key followed by their
path (FIPS 180-4, section 6.1).  The message is padded with a one bit, zeros and
its bit length to a multiple of 64 bytes; each 64-byte block is expanded to
eighty words and folded into five words of state by the compression rounds.
A digest is twenty bytes by its type, as the hash's output is a fixed array
(`State.length_bytes`); this length is all that the proofs about object paths
take from the hash.
-/

namespace PartCache.Sha1

set_option autoImplicit false

/-- The five words of chaining state. -/
structure State where
  h0 : UInt32
  h1 : UInt32
  h2 : UInt32
  h3 : UInt32
  h4 : UInt32

/-- The initial chaining state of the standard. -/
def State.initial : State :=
  ⟨0x67452301, 0xEFCDAB89, 0x98BADCFE, 0x10325476, 0xC3D2E1F0⟩

/-- Rotation of a word to the left by `n` places, `0 < n < 32`. -/
def rotl (x : UInt32) (n : UInt32) : UInt32 :=
  (x <<< n) ||| (x >>> (32 - n))

/-- The big-endian bytes of a number, `k` of them. -/
def bigEndian (k : Nat) (v : Nat) : Bytes :=
  (List.range k).reverse.map fun i => UInt8.ofNat (v / Nat.pow 2 (8 * i))

/-- The padded message: a one bit, zeros up to 56 mod 64 bytes, and the bit length. -/
def pad (msg : Bytes) : Bytes :=
  let zeros := (119 - msg.length % 64) % 64
  msg ++ [0x80] ++ List.replicate zeros 0 ++ bigEndian 8 (8 * msg.length)

/-- The big-endian word made of four bytes. -/
def word (b : Bytes) : UInt32 :=
  b.foldl (fun acc x => (acc <<< 8) ||| x.toUInt32) 0

/-- The sixteen words of one block. -/
def blockWords (block : Bytes) : Array UInt32 :=
  ((List.range 16).map fun i => word ((block.drop (4 * i)).take 4)).toArray

/-- Extends the schedule by `n` more words, each the rotated sum of four earlier ones. -/
def extend : Nat → Array UInt32 → Array UInt32
  | 0, w => w
  | n + 1, w =>
    let i := w.size
    let x := w.getD (i - 3) 0 ^^^ w.getD (i - 8) 0 ^^^ w.getD (i - 14) 0 ^^^ w.getD (i - 16) 0
    extend n (w.push (rotl x 1))

/-- The round function and constant of round `t`. -/
def roundMix (t : Nat) (b c d : UInt32) : UInt32 × UInt32 :=
  if t < 20 then ((b &&& c) ||| (~~~b &&& d), 0x5A827999)
  else if t < 40 then (b ^^^ c ^^^ d, 0x6ED9EBA1)
  else if t < 60 then ((b &&& c) ||| (b &&& d) ||| (c &&& d), 0x8F1BBCDC)
  else (b ^^^ c ^^^ d, 0xCA62C1D6)

/-- One round applied to the working words `(a, b, c, d, e)`. -/
def round (w : Array UInt32) (s : State) (t : Nat) : State :=
  let (f, k) := roundMix t s.h1 s.h2 s.h3
  let temp := rotl s.h0 5 + f + s.h4 + k + w.getD t 0
  ⟨temp, s.h0, rotl s.h1 30, s.h2, s.h3⟩

/-- The compression of one 64-byte block into the chaining state. -/
def compress (s : State) (block : Bytes) : State :=
  let w := extend 64 (blockWords block)
  let r := (List.range 80).foldl (round w) s
  ⟨s.h0 + r.h0, s.h1 + r.h1, s.h2 + r.h2, s.h3 + r.h3, s.h4 + r.h4⟩

/-- The message cut into 64-byte blocks, the last one possibly shorter. -/
def blocks (bs : Bytes) : List Bytes :=
  if bs.length ≤ 64 then (if bs.isEmpty then [] else [bs])
  else bs.take 64 :: blocks (bs.drop 64)
termination_by bs.length
decreasing_by simp only [List.length_drop]; omega

/-- A SHA-1 digest: twenty bytes. -/
structure Digest where
  bytes : Bytes
  length_bytes : bytes.length = 20

/-- The bytes of a chaining state, each word big-endian. -/
def State.bytes (s : State) : Bytes :=
  [s.h0, s.h1, s.h2, s.h3, s.h4].flatMap fun x => bigEndian 4 x.toNat

theorem State.length_bytes (s : State) : s.bytes.length = 20 := by
  simp [State.bytes, bigEndian]

/-- The SHA-1 digest of a byte string. -/
def digest (msg : Bytes) : Digest :=
  let s := (blocks (pad msg)).foldl compress State.initial
  ⟨s.bytes, s.length_bytes⟩

end PartCache.Sha1
