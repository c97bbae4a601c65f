import WideColumn.Token

/-!
# Cutting a text into tokens

Tokens follow each other with any number of spaces, tabs and line breaks between them. A word is as
long as it can be; a string ends at the next quote of its own sort that no backslash escapes, and
has no line break right after a backslash; `>=` and `<=` are one mark.
-/

namespace WideColumn.Token

/-- A character that stands between tokens and belongs to none. -/
def isGap (c : Char) : Bool :=
  c == ' ' || c == '\t' || c == '\r' || c == '\n'

/-- A character of words. -/
def isWordChar (c : Char) : Bool :=
  c.isAlphanum || c == '_' || c == '-'

/-- The rest of a string up to and with its closing quote, and the text after it. -/
def closeString (quote : Char) : List Char → Option (List Char × List Char)
  | [] => none
  | '\\' :: escaped :: rest =>
    -- A backslash needs a character after it on the same line.
    if escaped = '\n' then none
    else (closeString quote rest).map fun (body, after) => ('\\' :: escaped :: body, after)
  | c :: rest =>
    if c = quote then some ([c], rest)
    else if c = '\\' then none
    else (closeString quote rest).map fun (body, after) => (c :: body, after)

/-- The mark that a text starts with, and its length. -/
def markAt? : List Char → Option (Mark × Nat)
  | '>' :: '=' :: _ => some (.greaterEqual, 2)
  | '<' :: '=' :: _ => some (.lessEqual, 2)
  | '>' :: _ => some (.greater, 1)
  | '<' :: _ => some (.less, 1)
  | '[' :: _ => some (.openBracket, 1)
  | ']' :: _ => some (.closeBracket, 1)
  | '(' :: _ => some (.openParen, 1)
  | ')' :: _ => some (.closeParen, 1)
  | '{' :: _ => some (.openBrace, 1)
  | '}' :: _ => some (.closeBrace, 1)
  | ':' :: _ => some (.colon, 1)
  | ',' :: _ => some (.comma, 1)
  | '.' :: _ => some (.dot, 1)
  | '/' :: _ => some (.slash, 1)
  | ';' :: _ => some (.semicolon, 1)
  | '?' :: _ => some (.question, 1)
  | '=' :: _ => some (.equal, 1)
  | _ => none

/-- The sort of a word. -/
def wordKind (word : List Char) : Kind :=
  match Keyword.ofWord? word with
  | some keyword => .keyword keyword
  | none => .word

/-- The token that a text starts with: its sort, its characters and the text after it. -/
def startOf? (text : List Char) : Option (Kind × List Char × List Char) :=
  match text with
  | [] => none
  | c :: rest =>
    if c = '\'' ∨ c = '"' then
      (closeString c rest).map fun (body, after) => (.quoted, c :: body, after)
    else if isWordChar c then
      let word := text.takeWhile isWordChar
      some (wordKind word, word, text.dropWhile isWordChar)
    else
      (markAt? text).map fun (mark, size) => (.mark mark, text.take size, text.drop size)

/-- The tokens of a text that stands at a position, at most `fuel` characters and tokens of it. -/
def readFrom : (fuel position : Nat) → List Char → List Token
  | 0, _, _ => []
  | _, _, [] => []
  | fuel + 1, position, c :: rest =>
    if isGap c then readFrom fuel (position + 1) rest
    else
      match startOf? (c :: rest) with
      | some (kind, lexeme, after) =>
        ⟨kind, lexeme, position⟩ :: readFrom fuel (position + lexeme.length) after
      | none => [⟨.unreadable, c :: rest, position⟩]

/-- The tokens of a text. No token is empty, so the length of the text is fuel enough. -/
def read (text : List Char) : List Token :=
  readFrom text.length 0 text

/-- The tokens of a text that can be read to its end. -/
def tokenize (text : String) : Except Failure (List Token) :=
  let tokens := read text.toList
  match tokens.find? fun token => token.kind == .unreadable with
  | some token => .error (.parse (unreadableFailure token.position token.lexeme))
  | none => .ok tokens

end WideColumn.Token
