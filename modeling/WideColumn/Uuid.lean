import WideColumn.Numeral

/-!
# Universally unique identifiers

An identifier is a number of 128 bits, kept as 16 bytes and written as 32 hexadecimal digits in
groups of 8, 4, 4, 4 and 12. Reading is lenient: `urn:` and `uuid:` anywhere, braces around the
digits and all dashes are passed over, and the 32 characters that have to remain are read as a
lenient hexadecimal numeral.
-/

namespace WideColumn.Uuid

/-- The text without the occurrences of `word`, found from left to right; the first `skip`
characters belong to an occurrence that is being passed over. -/
def removeFrom (word : List Char) : (skip : Nat) → List Char → List Char
  | _, [] => []
  | skip + 1, _ :: rest => removeFrom word skip rest
  | 0, c :: rest =>
    if word.isPrefixOf (c :: rest) then removeFrom word (word.length - 1) rest
    else c :: removeFrom word 0 rest

/-- The text without the occurrences of a word that is not empty. -/
def remove (word text : List Char) : List Char :=
  removeFrom word 0 text

/-- The characters of an identifier that have to be its digits. -/
def digitsOf (text : List Char) : List Char :=
  let bare := remove ['u', 'u', 'i', 'd', ':'] (remove ['u', 'r', 'n', ':'] text)
  (Text.trimWhile (fun c => c == '{' || c == '}') bare).filter (· != '-')

/-- The number of an identifier. -/
def read? (text : List Char) : Option Nat := do
  let digits := digitsOf text
  guard (digits.length = 32)
  let value ← Numeral.hexadecimal? digits
  guard (0 ≤ value ∧ value < (1 <<< 128 : Nat))
  return value.toNat

/-- The sixteen bytes of an identifier. -/
def bytes (value : Nat) : Bytes :=
  Bytes.ofNat 16 value

/-- Whether the identifier is laid out as the standard says: the top bits of its eighth byte are
one and zero. -/
def isStandard (value : Nat) : Bool :=
  value.testBit 63 && !value.testBit 62

/-- The `width` bits of a number above its `start` lowest ones. -/
def bitsAt (value start width : Nat) : Nat :=
  (value >>> start) % (1 <<< width)

/-- The version of an identifier that is laid out as the standard says. -/
def version? (value : Nat) : Option Nat :=
  if isStandard value then some (bitsAt value 76 4) else none

/-- The identifier of version one with a time and the bits of a node. -/
def timeBased (time node : Nat) : Nat :=
  let low := bitsAt time 0 32
  let middle := bitsAt time 32 16
  let high := bitsAt time 48 12
  -- Above the node stand the two bits of the layout, above them the version and the time.
  low <<< 96 + middle <<< 80 + (1 <<< 12 + high) <<< 64 + 1 <<< 63 + bitsAt node 0 62

/-- The identifier of version four with some bits. -/
def random (bits : Nat) : Nat :=
  let first := bitsAt bits 80 48
  let middle := bitsAt bits 64 12
  first <<< 80 + (1 <<< 14 + middle) <<< 64 + 1 <<< 63 + bitsAt bits 0 62

/-- The 60 bits of time in an identifier: the first group is the low part, the second the middle
one, and the third holds the version above the high part. -/
def time (value : Nat) : Nat :=
  let low := value >>> 96
  let middle := bitsAt value 80 16
  let high := bitsAt value 64 12
  high <<< 48 + middle <<< 32 + low

/-- Digits in groups of 8, 4, 4, 4 and the rest, with dashes between them. -/
def dashed (digits : List Char) : String :=
  let group (start size : Nat) := String.ofList ((digits.drop start).take size)
  "-".intercalate [group 0 8, group 8 4, group 12 4, group 16 4, group 20 12]

/-- The written form of an identifier. -/
def write (value : Nat) : String :=
  dashed (Bytes.hexOfNat 32 value)

end WideColumn.Uuid
