import WideColumn.Bytes

/-!
# Message digest

The MD5 digest of a byte string: sixteen bytes that identify a schema. The message is padded to
blocks of 64 bytes, and each block is mixed in 64 steps into a state of four words.
-/

namespace WideColumn.Digest

/-- The four words of the digest while blocks are mixed into it. -/
structure Chain where
  a : UInt32
  b : UInt32
  c : UInt32
  d : UInt32

/-- The state before the first block. -/
def Chain.start : Chain :=
  ⟨0x67452301, 0xefcdab89, 0x98badcfe, 0x10325476⟩

/-- The constant of each step: the whole part of 2³² times the sine of its number, counted from
one. -/
def sineTable : Array UInt32 := #[
  0xd76aa478, 0xe8c7b756, 0x242070db, 0xc1bdceee, 0xf57c0faf, 0x4787c62a,
  0xa8304613, 0xfd469501, 0x698098d8, 0x8b44f7af, 0xffff5bb1, 0x895cd7be,
  0x6b901122, 0xfd987193, 0xa679438e, 0x49b40821, 0xf61e2562, 0xc040b340,
  0x265e5a51, 0xe9b6c7aa, 0xd62f105d, 0x02441453, 0xd8a1e681, 0xe7d3fbc8,
  0x21e1cde6, 0xc33707d6, 0xf4d50d87, 0x455a14ed, 0xa9e3e905, 0xfcefa3f8,
  0x676f02d9, 0x8d2a4c8a, 0xfffa3942, 0x8771f681, 0x6d9d6122, 0xfde5380c,
  0xa4beea44, 0x4bdecfa9, 0xf6bb4b60, 0xbebfbc70, 0x289b7ec6, 0xeaa127fa,
  0xd4ef3085, 0x04881d05, 0xd9d4d039, 0xe6db99e5, 0x1fa27cf8, 0xc4ac5665,
  0xf4292244, 0x432aff97, 0xab9423a7, 0xfc93a039, 0x655b59c3, 0x8f0ccc92,
  0xffeff47d, 0x85845dd1, 0x6fa87e4f, 0xfe2ce6e0, 0xa3014314, 0x4e0811a1,
  0xf7537e82, 0xbd3af235, 0x2ad7d2bb, 0xeb86d391]

/-- How far each step rotates: four amounts in turn, others in each round of sixteen steps. -/
def rotations : Array UInt32 := #[7, 12, 17, 22, 5, 9, 14, 20, 4, 11, 16, 23, 6, 10, 15, 21]

/-- A word rotated to the left. -/
def rotateLeft (word amount : UInt32) : UInt32 :=
  (word <<< amount) ||| (word >>> (32 - amount))

/-- The word that bytes spell, the least significant first. -/
def littleEndian (data : Bytes) : UInt32 :=
  UInt32.ofNat (Bytes.toNat data.reverse)

/-- The bytes of a number, the least significant first. -/
def littleEndianBytes (width value : Nat) : Bytes :=
  (Bytes.ofNat width value).reverse

/-- The sixteen words of a block. -/
def blockWords (block : Bytes) : Array UInt32 :=
  ((List.range 16).map fun index => littleEndian ((block.drop (4 * index)).take 4)).toArray

/-- The step with a number, on a block of words. -/
def step (words : Array UInt32) (chain : Chain) (number : Nat) : Chain :=
  let ⟨a, b, c, d⟩ := chain
  let round := number / 16
  let (mix, index) := match round with
    | 0 => ((b &&& c) ||| (~~~b &&& d), number)
    | 1 => ((d &&& b) ||| (~~~d &&& c), (5 * number + 1) % 16)
    | 2 => (b ^^^ c ^^^ d, (3 * number + 5) % 16)
    | _ => (c ^^^ (b ||| ~~~d), 7 * number % 16)
  let sum := a + mix + sineTable.getD number 0 + words.getD index 0
  ⟨d, b + rotateLeft sum (rotations.getD (4 * round + number % 4) 0), b, c⟩

/-- The state after one more block. -/
def addBlock (chain : Chain) (block : Bytes) : Chain :=
  let mixed := (List.range 64).foldl (step (blockWords block)) chain
  ⟨chain.a + mixed.a, chain.b + mixed.b, chain.c + mixed.c, chain.d + mixed.d⟩

/-- The message with a one bit, as many zero bits as fill the last block, and its length in bits. -/
def padded (message : Bytes) : Bytes :=
  let length := message.length
  -- One byte for the bit, eight for the length: message and zeros make up 55 modulo 64.
  let zeros := (119 - length % 64) % 64
  message ++ 0x80 :: List.replicate zeros 0 ++ littleEndianBytes 8 (8 * length % 0x10000000000000000)

/-- The first `count` blocks of a padded message. -/
def blocks : (count : Nat) → Bytes → List Bytes
  | 0, _ => []
  | count + 1, data => data.take 64 :: blocks count (data.drop 64)

/-- The digest of a message. -/
def md5 (message : Bytes) : Bytes :=
  let data := padded message
  let chain := (blocks (data.length / 64) data).foldl addBlock Chain.start
  [chain.a, chain.b, chain.c, chain.d].flatMap fun word => littleEndianBytes 4 word.toNat

end WideColumn.Digest
