/-!
# Message digest MD5

The digest that passwords are shown as: the 128-bit MD5 digest of a byte string, printed as 32
hexadecimal digits.
-/

namespace NetRack.Text

/-- The constant added in each of the 64 steps. -/
def digestConstants : List UInt32 := [
  0xd76aa478, 0xe8c7b756, 0x242070db, 0xc1bdceee, 0xf57c0faf, 0x4787c62a, 0xa8304613, 0xfd469501,
  0x698098d8, 0x8b44f7af, 0xffff5bb1, 0x895cd7be, 0x6b901122, 0xfd987193, 0xa679438e, 0x49b40821,
  0xf61e2562, 0xc040b340, 0x265e5a51, 0xe9b6c7aa, 0xd62f105d, 0x02441453, 0xd8a1e681, 0xe7d3fbc8,
  0x21e1cde6, 0xc33707d6, 0xf4d50d87, 0x455a14ed, 0xa9e3e905, 0xfcefa3f8, 0x676f02d9, 0x8d2a4c8a,
  0xfffa3942, 0x8771f681, 0x6d9d6122, 0xfde5380c, 0xa4beea44, 0x4bdecfa9, 0xf6bb4b60, 0xbebfbc70,
  0x289b7ec6, 0xeaa127fa, 0xd4ef3085, 0x04881d05, 0xd9d4d039, 0xe6db99e5, 0x1fa27cf8, 0xc4ac5665,
  0xf4292244, 0x432aff97, 0xab9423a7, 0xfc93a039, 0x655b59c3, 0x8f0ccc92, 0xffeff47d, 0x85845dd1,
  0x6fa87e4f, 0xfe2ce6e0, 0xa3014314, 0x4e0811a1, 0xf7537e82, 0xbd3af235, 0x2ad7d2bb, 0xeb86d391]

/-- How far each step rotates. -/
def digestRotations : List UInt32 := [
  7, 12, 17, 22, 7, 12, 17, 22, 7, 12, 17, 22, 7, 12, 17, 22,
  5, 9, 14, 20, 5, 9, 14, 20, 5, 9, 14, 20, 5, 9, 14, 20,
  4, 11, 16, 23, 4, 11, 16, 23, 4, 11, 16, 23, 4, 11, 16, 23,
  6, 10, 15, 21, 6, 10, 15, 21, 6, 10, 15, 21, 6, 10, 15, 21]

/-- The four words that the digest is computed in. -/
structure DigestState where
  a : UInt32
  b : UInt32
  c : UInt32
  d : UInt32

/-- The state before the first block. -/
def DigestState.start : DigestState := ⟨0x67452301, 0xefcdab89, 0x98badcfe, 0x10325476⟩

/-- A word with its bits rotated to the left. -/
def rotateWord (x n : UInt32) : UInt32 := (x <<< n) ||| (x >>> (32 - n))

/-- The mixing function of a step and the place in the block of the word that it adds. -/
def digestMix (step : Nat) (s : DigestState) : UInt32 × Nat :=
  if step < 16 then ((s.b &&& s.c) ||| (~~~s.b &&& s.d), step)
  else if step < 32 then ((s.d &&& s.b) ||| (~~~s.d &&& s.c), (5 * step + 1) % 16)
  else if step < 48 then (s.b ^^^ s.c ^^^ s.d, (3 * step + 5) % 16)
  else (s.c ^^^ (s.b ||| ~~~s.d), (7 * step) % 16)

/-- One of the 64 steps on a block of sixteen words. -/
def digestStep (block : List UInt32) (s : DigestState) (step : Nat × UInt32 × UInt32) :
    DigestState :=
  let (f, place) := digestMix step.1 s
  let sum := f + s.a + step.2.1 + block.getD place 0
  ⟨s.d, s.b + rotateWord sum step.2.2, s.b, s.c⟩

/-- The state after one more block. -/
def digestBlock (s : DigestState) (block : List UInt32) : DigestState :=
  let steps := (List.range 64).zip (digestConstants.zip digestRotations)
  let t := steps.foldl (digestStep block) s
  ⟨s.a + t.a, s.b + t.b, s.c + t.c, s.d + t.d⟩

/-- The bytes of a number, least significant first. -/
def littleEndian (count n : Nat) : List UInt8 :=
  (List.range count).map fun i => UInt8.ofNat (n / Nat.pow 256 i)

/-- The message followed by a one bit, zero bits and its length in bits. -/
def padMessage (bytes : List UInt8) : List UInt8 :=
  let filler := (119 - bytes.length % 64) % 64
  bytes ++ 0x80 :: List.replicate filler 0 ++ littleEndian 8 (8 * bytes.length)

/-- The words of a byte string, least significant byte first. -/
def wordsOfBytes : List UInt8 → List UInt32
  | b0 :: b1 :: b2 :: b3 :: rest =>
    (b0.toUInt32 ||| b1.toUInt32 <<< 8 ||| b2.toUInt32 <<< 16 ||| b3.toUInt32 <<< 24)
      :: wordsOfBytes rest
  | _ => []

/-- The state after the words, taken sixteen at a time. -/
def digestWords (s : DigestState) (pending : List UInt32) : List UInt32 → DigestState
  | [] => s
  | w :: rest =>
    if pending.length < 15 then digestWords s (pending ++ [w]) rest
    else digestWords (digestBlock s (pending ++ [w])) [] rest

/-- The two hexadecimal digits of a byte. -/
def hexByte (b : UInt8) : List Char :=
  [Nat.digitChar (b.toNat / 16), Nat.digitChar (b.toNat % 16)]

/-- The digest of the text's UTF-8 bytes, in hexadecimal. -/
def digest (s : String) : String :=
  let state := digestWords .start [] (wordsOfBytes (padMessage s.toUTF8.toList))
  let bytes := [state.a, state.b, state.c, state.d].flatMap fun w => littleEndian 4 w.toNat
  String.ofList (bytes.flatMap hexByte)

end NetRack.Text
