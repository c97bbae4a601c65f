import WideColumn.Failure
import WideColumn.Text.Escape

/-!
# Tokens

A statement is made of words, quoted strings and punctuation marks. Thirty words are keywords, in
any letter case. What cannot be read ends a list of tokens as a token of its own, which holds all
that was left.
-/

namespace WideColumn

/-- A word with a meaning in the language of statements. -/
inductive Keyword where
  | use | create | update | drop | keyspace | column | family | with | and | assume | as | set
  | get | where | del | incr | decr | by | count | list | limit | truncate | index | on | describe
  | show | help | connect | exit | quit
  deriving DecidableEq, Repr

namespace Keyword

/-- All keywords. -/
def all : List Keyword :=
  [use, create, update, drop, keyspace, column, family, .with, .and, assume, .as, set, get, .where,
    del, incr, decr, .by, count, list, limit, truncate, index, on, describe, «show», help, connect,
    exit, quit]

/-- The keyword in small letters. -/
def spelling : Keyword → String
  | use => "use"
  | create => "create"
  | update => "update"
  | drop => "drop"
  | keyspace => "keyspace"
  | column => "column"
  | family => "family"
  | .with => "with"
  | .and => "and"
  | assume => "assume"
  | .as => "as"
  | set => "set"
  | get => "get"
  | .where => "where"
  | del => "del"
  | incr => "incr"
  | decr => "decr"
  | .by => "by"
  | count => "count"
  | list => "list"
  | limit => "limit"
  | truncate => "truncate"
  | index => "index"
  | on => "on"
  | describe => "describe"
  | .show => "show"
  | help => "help"
  | connect => "connect"
  | exit => "exit"
  | quit => "quit"

/-- The keyword that an ASCII word spells in some letter case. -/
def ofWord? (word : List Char) : Option Keyword :=
  let small := String.ofList (word.map Char.toLower)
  all.find? fun keyword => keyword.spelling == small

end Keyword

/-- A punctuation mark. -/
inductive Mark where
  | openBracket | closeBracket | openParen | closeParen | openBrace | closeBrace
  | colon | comma | dot | slash | semicolon | question
  | equal | greaterEqual | greater | lessEqual | less
  deriving DecidableEq, Repr

namespace Token

/-- The sorts of token. -/
inductive Kind where
  | word
  | keyword (keyword : Keyword)
  | quoted
  | mark (mark : Mark)
  | unreadable
  deriving DecidableEq, Repr

end Token

/-- A piece of a statement, with the number of characters in front of it. -/
structure Token where
  kind : Token.Kind
  lexeme : List Char
  position : Nat
  deriving DecidableEq, Repr

namespace Token

/-- Whether the token can stand for a word. Keywords can: their meaning depends on the place. -/
def isWord (token : Token) : Bool :=
  match token.kind with
  | .word | .keyword _ => true
  | _ => false

/-- Whether the token is a string in quotes. -/
def isQuoted (token : Token) : Bool :=
  token.kind == .quoted

/-- Whether the token is a certain keyword. -/
def isKeyword (keyword : Keyword) (token : Token) : Bool :=
  token.kind == .keyword keyword

/-- Whether the token is a certain mark. -/
def isMark (mark : Mark) (token : Token) : Bool :=
  token.kind == .mark mark

/-- What the token says: for a string the text between its quotes, else the token as written. The
text between double quotes may have another pair of single quotes around it, which goes too. -/
def value (token : Token) : String :=
  match token.kind, token.lexeme with
  | .quoted, '"' :: rest => String.ofList (Text.unescape rest.dropLast)
  | .quoted, lexeme => String.ofList (Text.unescape lexeme)
  | _, lexeme => String.ofList lexeme

/-- How much of a statement a failure quotes. -/
def excerptLength : Nat := 20

/-- Why a text that no token starts with cannot be read. -/
def unreadableFailure (position : Nat) (text : List Char) : ParseFailure :=
  let rest := String.ofList (text.take excerptLength)
  match text with
  | '\'' :: _ => .unterminatedString position rest
  | '"' :: _ => .unterminatedString position rest
  | c :: _ => .illegalCharacter c position rest
  | [] => .unexpectedEnd rest

end Token

end WideColumn
