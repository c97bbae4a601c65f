/-!
# Escape sequences

Between quotes a backslash and a letter stand for a character that could not be written there: the
two quotes, the backslash itself, and five controls. `escape` writes these sequences and `decode`
reads them. A backslash that starts no sequence stands for itself.
-/

namespace WideColumn.Text

/-- The letter after the backslash for a character that has to be escaped. -/
def escapeLetter? : Char → Option Char
  | '\x08' => some 'b'
  | '\t' => some 't'
  | '\n' => some 'n'
  | '\x0c' => some 'f'
  | '\r' => some 'r'
  | '"' => some '"'
  | '\'' => some '\''
  | '\\' => some '\\'
  | _ => none

/-- The character that a backslash and a letter stand for. -/
def escapedChar? : Char → Option Char
  | 'b' => some '\x08'
  | 't' => some '\t'
  | 'n' => some '\n'
  | 'f' => some '\x0c'
  | 'r' => some '\r'
  | '"' => some '"'
  | '\'' => some '\''
  | '\\' => some '\\'
  | _ => none

/-- Reading the letter of an escaped character gives the character back. -/
theorem escapedChar?_of_escapeLetter? {raw letter : Char} (h : escapeLetter? raw = some letter) :
    escapedChar? letter = some raw := by
  unfold escapeLetter? at h
  split at h <;> simp only [Option.some.injEq, reduceCtorEq] at h <;> subst h <;> rfl

/-- One character as it is written between quotes. -/
def escapeChar (c : Char) : List Char :=
  match escapeLetter? c with
  | some letter => ['\\', letter]
  | none => [c]

/-- A text as it is written between quotes. -/
def escape (text : List Char) : List Char :=
  text.flatMap escapeChar

/-- The text that stands between the quotes, each sequence read once, from left to right. A
character that makes no sequence with the backslash before it is no backslash itself, so both are
kept. -/
def decode : List Char → List Char
  | '\\' :: letter :: rest =>
    match escapedChar? letter with
    | some raw => raw :: decode rest
    | none => '\\' :: letter :: decode rest
  | c :: rest => c :: decode rest
  | [] => []

/-- The text between a pair of single quotes, or the text itself if it is not in such a pair. -/
def stripQuotes (text : List Char) : List Char :=
  match text with
  | '\'' :: rest => if rest.getLast? = some '\'' then rest.dropLast else text
  | _ => text

/-- The value of a text that may still be in single quotes. -/
def unescape (text : List Char) : List Char :=
  decode (stripQuotes text)

/-- `escape` on strings. -/
def escaped (text : String) : String :=
  String.ofList (escape text.toList)

end WideColumn.Text
