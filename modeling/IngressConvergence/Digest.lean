/-!
# A message digest

Load balancer names are cut to a fixed length; a few digits of a digest keep cut names apart.  The
digest is MD5: the message is padded to blocks of sixteen little-endian words, and each block stirs
a state of four words in sixty-four steps.
-/

namespace IngressConvergence.Digest

/-- The four words that the digest is made of. -/
structure State where
  a : UInt32
  b : UInt32
  c : UInt32
  d : UInt32
deriving DecidableEq

/-- The state before the first block. -/
def State.start : State :=
  ⟨0x67452301, 0xefcdab89, 0x98badcfe, 0x10325476⟩

/-- The word that step `i` adds: the integer part of `2 ^ 32 * |sin (i + 1)|`. -/
def addends : Array UInt32 := #[
  0xd76aa478, 0xe8c7b756, 0x242070db, 0xc1bdceee, 0xf57c0faf, 0x4787c62a, 0xa8304613, 0xfd469501,
  0x698098d8, 0x8b44f7af, 0xffff5bb1, 0x895cd7be, 0x6b901122, 0xfd987193, 0xa679438e, 0x49b40821,
  0xf61e2562, 0xc040b340, 0x265e5a51, 0xe9b6c7aa, 0xd62f105d, 0x02441453, 0xd8a1e681, 0xe7d3fbc8,
  0x21e1cde6, 0xc33707d6, 0xf4d50d87, 0x455a14ed, 0xa9e3e905, 0xfcefa3f8, 0x676f02d9, 0x8d2a4c8a,
  0xfffa3942, 0x8771f681, 0x6d9d6122, 0xfde5380c, 0xa4beea44, 0x4bdecfa9, 0xf6bb4b60, 0xbebfbc70,
  0x289b7ec6, 0xeaa127fa, 0xd4ef3085, 0x04881d05, 0xd9d4d039, 0xe6db99e5, 0x1fa27cf8, 0xc4ac5665,
  0xf4292244, 0x432aff97, 0xab9423a7, 0xfc93a039, 0x655b59c3, 0x8f0ccc92, 0xffeff47d, 0x85845dd1,
  0x6fa87e4f, 0xfe2ce6e0, 0xa3014314, 0x4e0811a1, 0xf7537e82, 0xbd3af235, 0x2ad7d2bb, 0xeb86d391]

/-- By how many bits each of the four steps of a round rotates, round by round. -/
def rotations : Array UInt32 := #[7, 12, 17, 22, 5, 9, 14, 20, 4, 11, 16, 23, 6, 10, 15, 21]

/-- Rotation to the left by fewer than thirty-two bits. -/
def rotateLeft (word amount : UInt32) : UInt32 :=
  (word <<< amount) ||| (word >>> (32 - amount))

/-- How step `i` mixes three words, and which word of the block it reads. -/
def mixture (i : Nat) (b c d : UInt32) : UInt32 × Nat :=
  if i < 16 then ((b &&& c) ||| (~~~b &&& d), i)
  else if i < 32 then ((d &&& b) ||| (~~~d &&& c), (5 * i + 1) % 16)
  else if i < 48 then (b ^^^ c ^^^ d, (3 * i + 5) % 16)
  else (c ^^^ (b ||| ~~~d), (7 * i) % 16)

/-- Step `i` on a block given by its words. -/
def step (word : Nat → UInt32) (state : State) (i : Nat) : State :=
  let (mixed, position) := mixture i state.b state.c state.d
  let sum := state.a + mixed + addends.getD i 0 + word position
  ⟨state.d, state.b + rotateLeft sum (rotations.getD (i / 16 * 4 + i % 4) 0), state.b, state.c⟩

/-- One block: sixty-four steps, whose result is added to the state before them. -/
def stir (word : Nat → UInt32) (state : State) : State :=
  let stirred := (List.range 64).foldl (step word) state
  ⟨state.a + stirred.a, state.b + stirred.b, state.c + stirred.c, state.d + stirred.d⟩

/-- The bytes of a word, the lowest first. -/
def bytesOf (word : UInt32) : List UInt8 :=
  [word.toUInt8, (word >>> 8).toUInt8, (word >>> 16).toUInt8, (word >>> 24).toUInt8]

/-- A message followed by a set bit, zeros up to the last eight bytes of a block, and its length in
bits, the lowest byte first. -/
def padded (message : List UInt8) : List UInt8 :=
  let zeros : List UInt8 := List.replicate ((119 - message.length % 64) % 64) 0
  let bits := 8 * message.length
  let length := (List.range 8).map fun i => UInt8.ofNat ((bits >>> (8 * i)) % 256)
  message ++ 0x80 :: (zeros ++ length)

/-- The word of four bytes at a position, the lowest byte first. -/
def wordAt (bytes : Array UInt8) (position : Nat) : UInt32 :=
  (bytes.getD position 0).toUInt32 ||| ((bytes.getD (position + 1) 0).toUInt32 <<< 8) |||
    ((bytes.getD (position + 2) 0).toUInt32 <<< 16) |||
    ((bytes.getD (position + 3) 0).toUInt32 <<< 24)

/-- The sixteen bytes of the digest of a message. -/
def md5 (message : List UInt8) : List UInt8 :=
  let bytes := (padded message).toArray
  let final := (List.range (bytes.size / 64)).foldl
    (fun state block => stir (fun i => wordAt bytes (64 * block + 4 * i)) state) State.start
  bytesOf final.a ++ bytesOf final.b ++ bytesOf final.c ++ bytesOf final.d

/-- The lower-case hexadecimal digit of the lowest four bits of a number. -/
def hexDigit (number : Nat) : Char :=
  Nat.digitChar (number % 16)

/-- The two digits of a byte, the higher first. -/
def hexDigits (byte : UInt8) : List Char :=
  [hexDigit (byte.toNat / 16), hexDigit byte.toNat]

/-- The digest of the bytes of a text, in thirty-two lower-case hexadecimal digits. -/
def ofText (text : String) : List Char :=
  (md5 text.toUTF8.toList).flatMap hexDigits

end IngressConvergence.Digest
