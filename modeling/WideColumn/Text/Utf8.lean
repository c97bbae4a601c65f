import WideColumn.Bytes

/-!
# UTF-8

The byte form of a text. `decode?` takes exactly the well-formed sequences: the shortest form of
each character, no surrogates, nothing above U+10FFFF.
-/

namespace WideColumn.Text.Utf8

/-- The bytes of one character. -/
def encodeChar (c : Char) : Bytes :=
  let point := c.toNat
  let tail (place : Nat) := UInt8.ofNat (0x80 + (point >>> (6 * place)) % 64)
  if point < 0x80 then [UInt8.ofNat point]
  else if point < 0x800 then [UInt8.ofNat (0xc0 + point >>> 6), tail 0]
  else if point < 0x10000 then [UInt8.ofNat (0xe0 + point >>> 12), tail 1, tail 0]
  else [UInt8.ofNat (0xf0 + point >>> 18), tail 2, tail 1, tail 0]

/-- The bytes of a text. -/
def encode (text : List Char) : Bytes :=
  text.flatMap encodeChar

/-- The six bits of a byte that continues a character. -/
def tailBits? (byte : UInt8) : Option Nat :=
  if 0x80 ≤ byte.toNat ∧ byte.toNat < 0xc0 then some (byte.toNat - 0x80) else none

/-- The character with a code point, if it is one and not below `least`, the first code point that
needs that many bytes. -/
def charFrom? (least point : Nat) : Option Char :=
  if least ≤ point ∧ point.isValidChar then some (Char.ofNat point) else none

/-- The text of a byte string, if it is well-formed. -/
def decode? : Bytes → Option (List Char)
  | [] => some []
  | first :: rest => do
    let lead := first.toNat
    if lead < 0x80 then
      return Char.ofNat lead :: (← decode? rest)
    else if 0xc0 ≤ lead ∧ lead < 0xe0 then
      match rest with
      | second :: rest =>
        let c ← charFrom? 0x80 ((lead - 0xc0) * 64 + (← tailBits? second))
        return c :: (← decode? rest)
      | _ => none
    else if 0xe0 ≤ lead ∧ lead < 0xf0 then
      match rest with
      | second :: third :: rest =>
        let high := (lead - 0xe0) * 64 + (← tailBits? second)
        let c ← charFrom? 0x800 (high * 64 + (← tailBits? third))
        return c :: (← decode? rest)
      | _ => none
    else if 0xf0 ≤ lead ∧ lead < 0xf8 then
      match rest with
      | second :: third :: fourth :: rest =>
        let high := ((lead - 0xf0) * 64 + (← tailBits? second)) * 64 + (← tailBits? third)
        let c ← charFrom? 0x10000 (high * 64 + (← tailBits? fourth))
        return c :: (← decode? rest)
      | _ => none
    else none

end WideColumn.Text.Utf8
