import WideColumn.Bytes
import WideColumn.Text.Printable

/-!
# Quoted texts and byte strings

An unambiguous one-line form of a text: it stands in single quotes, or in double quotes if it holds
a single quote and no double one; the quote in use, the backslash and three controls are written
with a backslash, and whatever does not print is written by its number in two, four or eight
hexadecimal digits. A byte string is written the same way after the letter `b`, byte by byte.
-/

namespace WideColumn.Text

/-- The quote that a text is put into. -/
def quoteFor (text : List Char) : Char :=
  if '\'' ∈ text ∧ '"' ∉ text then '"' else '\''

/-- A code point as a backslash, a letter for the number of digits, and the digits. -/
def numbered (point : Nat) : List Char :=
  if point ≤ 0xff then '\\' :: 'x' :: Bytes.hexOfNat 2 point
  else if point ≤ 0xffff then '\\' :: 'u' :: Bytes.hexOfNat 4 point
  else '\\' :: 'U' :: Bytes.hexOfNat 8 point

/-- One character inside the quote, where `shows` tells what is written as it is. -/
def quoteChar (shows : Char → Bool) (quote c : Char) : List Char :=
  if c = quote ∨ c = '\\' then ['\\', c]
  else if c = '\n' then ['\\', 'n']
  else if c = '\r' then ['\\', 'r']
  else if c = '\t' then ['\\', 't']
  else if shows c then [c]
  else numbered c.toNat

/-- A text in quotes, where `shows` tells which characters are written as they are. -/
def quoteWith (shows : Char → Bool) (text : List Char) : List Char :=
  let quote := quoteFor text
  quote :: text.flatMap (quoteChar shows quote) ++ [quote]

/-- The quoted form of a text. -/
def quote (text : List Char) : List Char :=
  quoteWith isPrintable text

/-- The quoted form of a string. -/
def quoted (text : String) : String :=
  String.ofList (quote text.toList)

/-- Items between brackets, with commas between them. -/
def enclosed (opening closing : String) (items : List String) : String :=
  opening ++ ", ".intercalate items ++ closing

/-- The quoted form of a table of texts. -/
def quotedEntries (entries : List (String × String)) : String :=
  enclosed "\x7b" "\x7d" (entries.map fun (key, value) => quoted key ++ ": " ++ quoted value)

end WideColumn.Text

namespace WideColumn.Bytes

/-- The quoted form of a byte string: each byte as the character of its number, of which only the
ASCII ones are written as they are. -/
def quoted (data : Bytes) : String :=
  let chars := data.map fun byte => Char.ofNat byte.toNat
  String.ofList ('b' :: Text.quoteWith (fun c => 0x20 ≤ c.toNat && c.toNat < 0x7f) chars)

end WideColumn.Bytes
