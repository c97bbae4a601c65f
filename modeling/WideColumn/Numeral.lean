import WideColumn.Bytes
import WideColumn.Text.Blank
import WideColumn.Text.DecimalDigit

/-!
# Numerals

Whole numbers are read in three ways. A strict numeral is an optional minus sign and ASCII digits,
of any number. A lenient numeral may stand between blanks, may have a plus sign, single underscores
between its digits and digits of any script, but no more than 4300 of them. A lenient hexadecimal
numeral is of the same kind, without the limit, and may begin with `0x`.

A number is written in plain decimal digits, for which the limit of 4300 holds as well. The digits of
a strict numeral are cut into chunks, which are short enough to be read as lenient ones.
-/

namespace WideColumn.Numeral

/-- The number that digit values spell in a base, the most significant first. -/
def ofDigits (base : Nat) (digits : List Nat) : Nat :=
  digits.foldl (fun total digit => total * base + digit) 0

/-! ### Lenient numerals -/

/-- The most digits that a lenient numeral may have, and that a number is written with. -/
def maxDigits : Nat := 4300

/-- The values of one or more digits, with at most one underscore between two of them. -/
def separated? (digit? : Char → Option Nat) : List Char → Option (List Nat)
  | [] => none
  | c :: rest => do
    let value ← digit? c
    match rest with
    | [] => return [value]
    | '_' :: more => return value :: (← separated? digit? more)
    | next :: more => return value :: (← separated? digit? (next :: more))

/-- The blanks that a lenient numeral may stand between: all but the information separators. -/
def isPadding (c : Char) : Bool :=
  Text.isBlank c && !(0x1c ≤ c.toNat && c.toNat ≤ 0x1f)

/-- A lenient numeral, given how its digits are read. -/
def lenient? (magnitude? : List Char → Option Nat) (text : List Char) : Option Int :=
  match Text.trimWhile isPadding text with
  | '-' :: digits => (magnitude? digits).map fun magnitude => -(magnitude : Int)
  | '+' :: digits => (magnitude? digits).map Int.ofNat
  | digits => (magnitude? digits).map Int.ofNat

/-- The number of a lenient decimal numeral. -/
def decimal? (text : List Char) : Option Int :=
  lenient? (fun digits => do
    let values ← separated? Text.decimalDigit? digits
    guard (values.length ≤ maxDigits)
    return ofDigits 10 values) text

/-- The value of a hexadecimal digit, the decimal ones from any script. -/
def hexDigit? (c : Char) : Option Nat :=
  Text.decimalDigit? c <|> Bytes.hexDigit? c

/-- The digits of a hexadecimal numeral without the mark `0x` and the underscore after it. -/
def dropHexMark (digits : List Char) : List Char :=
  match digits with
  | first :: mark :: rest =>
    if Text.decimalDigit? first = some 0 ∧ (mark = 'x' ∨ mark = 'X') then
      match rest with
      | '_' :: rest => rest
      | rest => rest
    else digits
  | _ => digits

/-- The number of a lenient hexadecimal numeral. -/
def hexadecimal? (text : List Char) : Option Int :=
  lenient? (fun digits => (separated? hexDigit? (dropHexMark digits)).map (ofDigits 16)) text

/-! ### Strict numerals -/

/-- How many digits of a long number are read, or written, at a time. -/
def chunkDigits : Nat := 1000

/-- The least number of more digits. It is not computed wherever it stands in a definition. -/
@[irreducible] def chunkBase : Nat := Nat.pow 10 chunkDigits

theorem chunkBase_eq : chunkBase = Nat.pow 10 chunkDigits := by
  unfold chunkBase
  rfl

theorem one_lt_chunkBase : 1 < chunkBase := by
  rw [chunkBase_eq, Nat.pow_eq]
  exact Nat.one_lt_pow (by decide) (by decide)

/-- A number with the chunk of the digits that begins at `start` put behind its own digits. -/
def withChunk? (digits : List Char) (total : Int) (start : Nat) : Option Int := do
  let chunk := (digits.drop start).take chunkDigits
  return total * Nat.pow 10 chunk.length + (← decimal? chunk)

/-- The number of a text of digits, read in chunks from the left. The last may be a shorter one. -/
def ofChunks? (digits : List Char) : Option Int :=
  let starts := List.range' 0 ((digits.length + chunkDigits - 1) / chunkDigits) chunkDigits
  starts.foldlM (withChunk? digits) 0

/-- The number of a text that is one or more ASCII digits. -/
def natural? (text : List Char) : Option Int :=
  if text.isEmpty || !text.all Char.isDigit then none else ofChunks? text

/-- The number of a strict numeral. -/
def strict? (text : List Char) : Option Int :=
  match text with
  | '-' :: digits => (natural? digits).map fun magnitude => -magnitude
  | digits => natural? digits

/-! ### Writing -/

/-- The decimal digits of a number, of any length. -/
def write (value : Int) : String :=
  toString value

/-- The decimal digits of a number, unless there are more than 4300 of them. -/
def write? (value : Int) : Option String :=
  if (toString value.natAbs).length ≤ maxDigits then some (write value) else none

end WideColumn.Numeral
