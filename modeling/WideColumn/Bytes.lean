/-!
# Byte strings

Names, keys and values are stored as byte strings. A byte string is also a big-endian number, with
or without a sign, and can be written in hexadecimal digits.
-/

namespace WideColumn

/-- A stored name, key or value. -/
abbrev Bytes := List UInt8

namespace Bytes

/-! ### Big-endian numbers -/

/-- The number whose base 256 digits are the bytes. -/
def toNat (data : Bytes) : Nat :=
  data.foldl (fun total byte => total * 256 + byte.toNat) 0

/-- The `width` lowest base 256 digits of a number. -/
def ofNat : (width : Nat) → (value : Nat) → Bytes
  | 0, _ => []
  | width + 1, value => ofNat width (value / 256) ++ [UInt8.ofNat (value % 256)]

/-- The number in two's complement: a first bit of one takes off the full range. -/
def toInt (data : Bytes) : Int :=
  let value := data.toNat
  let range : Nat := 1 <<< (8 * data.length)
  if 2 * value < range then value else (value : Int) - range

/-- A number in two's complement of `width` bytes. -/
def ofInt (width : Nat) (value : Int) : Bytes :=
  ofNat width (value % (1 <<< (8 * width) : Nat)).toNat

/-- A number in two's complement of `width` bytes, if that many hold it. -/
def ofInt? (width : Nat) (value : Int) : Option Bytes :=
  let range : Nat := 1 <<< (8 * width)
  if -(range : Int) ≤ 2 * value ∧ 2 * value < range then some (ofInt width value) else none

/-- The least width, at least one byte, whose two's complement holds the number. -/
def signedWidth (value : Int) : Nat :=
  let magnitude := if value < 0 then (-value - 1).toNat else value.toNat
  -- The bits of the magnitude and one for the sign, rounded up to whole bytes.
  (if magnitude = 0 then 0 else magnitude.log2 + 1) / 8 + 1

/-! ### Hexadecimal digits -/

/-- The hexadecimal digit of a number below sixteen, in small letters. -/
def hexDigit (value : Nat) : Char :=
  Char.ofNat (if value < 10 then 0x30 + value else 0x57 + value)

/-- The value of a hexadecimal digit in either case. -/
def hexDigit? (c : Char) : Option Nat :=
  if '0' ≤ c ∧ c ≤ '9' then some (c.toNat - 0x30)
  else if 'a' ≤ c ∧ c ≤ 'f' then some (c.toNat - 0x57)
  else if 'A' ≤ c ∧ c ≤ 'F' then some (c.toNat - 0x37)
  else none

/-- Two hexadecimal digits for each byte. -/
def hexDigits (data : Bytes) : List Char :=
  data.flatMap fun byte => [hexDigit (byte.toNat / 16), hexDigit (byte.toNat % 16)]

/-- The byte string in hexadecimal digits. -/
def hex (data : Bytes) : String :=
  String.ofList data.hexDigits

/-- The bytes that pairs of digit values spell; a last digit without a partner spells none. -/
def ofHexValues : List Nat → Bytes
  | high :: low :: rest => UInt8.ofNat (high * 16 + low) :: ofHexValues rest
  | _ => []

/-- The lowest `width` hexadecimal digits of a number. -/
def hexOfNat : (width : Nat) → (value : Nat) → List Char
  | 0, _ => []
  | width + 1, value => hexOfNat width (value / 16) ++ [hexDigit (value % 16)]

end Bytes

end WideColumn
