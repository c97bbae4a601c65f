import WideColumn.Invocation
import WideColumn.Proofs.Grammar

/-!
# Printing commands

A command in its printed form is a list of pieces: keywords, words, quoted texts and marks. The
fields of a command that hold names are words, numbers are words too, and every literal text is
quoted. `Writes` says which texts lay the pieces out: there is any gap between two of them, and a
keyword may be in any letter case. `print` is the layout with single spaces.

Not every value of the type of commands is a statement. `Printable` says which are: names are words,
names of attributes, kinds of assumptions and topics of help are in small letters, conditions are not
empty, a limit is positive, and no number is longer than numerals may be.
-/

namespace WideColumn

/-- How a mark is written. -/
def Mark.spelling : Mark → List Char
  | openBracket => ['[']
  | closeBracket => [']']
  | openParen => ['(']
  | closeParen => [')']
  | openBrace => ['\x7b']
  | closeBrace => ['\x7d']
  | colon => [':']
  | comma => [',']
  | dot => ['.']
  | slash => ['/']
  | semicolon => [';']
  | question => ['?']
  | equal => ['=']
  | greaterEqual => ['>', '=']
  | greater => ['>']
  | lessEqual => ['<', '=']
  | less => ['<']

namespace Printing

/-- A piece of a printed command. A fixed word is one that has its meaning in any letter case, but
not as a keyword. -/
inductive Piece where
  | keyword (keyword : Keyword)
  | fixed (word : String)
  | word (text : String)
  | quoted (text : String)
  | mark (mark : Mark)

/-! ### Layout -/

namespace Piece

/-- The characters of a piece, keywords in small letters. -/
def spelling : Piece → List Char
  | keyword name => name.spelling.toList
  | fixed text => text.toList
  | word text => text.toList
  | quoted text => '\'' :: (Text.escape text.toList ++ ['\''])
  | mark sign => sign.spelling

/-- Whether some characters write a piece. -/
def Spelled : Piece → List Char → Prop
  | keyword name, lexeme => lexeme.map Char.toLower = name.spelling.toList
  | fixed text, lexeme => lexeme.map Char.toLower = text.toList
  | piece, lexeme => lexeme = piece.spelling

/-- Whether a piece ends in front of a text: a word goes on with a character of words, and an angle
with an equals sign. -/
def EndsBefore : Piece → List Char → Prop
  | keyword _, rest | fixed _, rest | word _, rest => rest.head?.all (!Token.isWordChar ·) = true
  | mark .greater, rest | mark .less, rest => rest.head? ≠ some '='
  | _, _ => True

end Piece

/-- A text that lays out pieces one after the other, with gaps in front of them and at the end. -/
inductive Writes : List Piece → List Char → Prop where
  | done {gap : List Char} (blank : gap.all Token.isGap = true) : Writes [] gap
  | piece {gap lexeme rest : List Char} {piece : Piece} {pieces : List Piece}
      (blank : gap.all Token.isGap = true) (spelled : piece.Spelled lexeme)
      (ends : piece.EndsBefore rest) (others : Writes pieces rest) :
      Writes (piece :: pieces) (gap ++ (lexeme ++ rest))

/-! ### The pieces of a command -/

/-- Lists of pieces with a separator between them. -/
def separated (separator : Piece) : List (List Piece) → List Piece
  | [] => []
  | first :: others => first ++ others.flatMap (separator :: ·)

/-- A number as a word. -/
def number (value : Int) : Piece :=
  .word (Numeral.write value)

/-- The pieces of a literal. -/
def literal : Literal → List Piece
  | .plain text => [.quoted text]
  | .cast function none => [.word function, .mark .openParen, .mark .closeParen]
  | .cast function (some argument) =>
    [.word function, .mark .openParen, .quoted argument, .mark .closeParen]

/-- The pieces of a literal in brackets. -/
def bracketed (content : Literal) : List Piece :=
  .mark .openBracket :: (literal content ++ [.mark .closeBracket])

/-- The pieces of an address. -/
def address (address : Address) : List Piece :=
  .word address.family ::
    (bracketed address.key ++ address.columns.toList.flatMap bracketed)

/-- The pieces of a key and its value in a hash. -/
def pair (entry : String × String) : List Piece :=
  [.quoted entry.1, .mark .colon, .quoted entry.2]

/-- The pieces of a hash. -/
def hash (entries : Table String String) : List Piece :=
  .mark .openBrace ::
    (separated (.mark .comma) (entries.entries.map pair) ++ [.mark .closeBrace])

/-- The pieces of an item of a list. -/
def item : AttributeItem → List Piece
  | .text text => [.quoted text]
  | .hash entries => hash entries

/-- The pieces of the value of an attribute. -/
def attributeValue : AttributeValue → List Piece
  | .text text => [.quoted text]
  | .list items =>
    .mark .openBracket :: (separated (.mark .comma) (items.map item) ++ [.mark .closeBracket])

/-- The pieces of an attribute. -/
def property (entry : String × AttributeValue) : List Piece :=
  .word entry.1 :: .mark .equal :: attributeValue entry.2

/-- The pieces of the attributes of a definition, none if there are no attributes. -/
def attributes (attributes : Attributes) : List Piece :=
  match attributes.entries with
  | [] => []
  | entries => .keyword .with :: separated (.keyword .and) (entries.map property)

/-- The pieces of a limit. -/
def limit : Option Int → List Piece
  | none => []
  | some value => [.keyword .limit, number value]

/-- The pieces of a time to live. -/
def timeToLive : Option Int → List Piece
  | none => []
  | some value => [.keyword .with, .fixed "ttl", .mark .equal, number value]

/-- The pieces of the validator that a value is shown with. -/
def asValidator : Option String → List Piece
  | none => []
  | some name => [.keyword .as, .word name]

/-- The pieces of a condition. -/
def condition (condition : Condition) : List Piece :=
  literal condition.column ++
    .mark (Grammar.comparisonMark condition.comparison) :: literal condition.value

/-- The pieces of a bound of a range. -/
def bound : Option Literal → List Piece
  | none => []
  | some content => literal content

/-- The pieces of a range, none if it has no bounds. -/
def range : Option Literal → Option Literal → List Piece
  | none, none => []
  | start, stop =>
    .mark .openBracket :: (bound start ++ .mark .colon :: (bound stop ++ [.mark .closeBracket]))

/-- The words of a host. -/
def hostWords (host : String) : List String :=
  (host.toList.splitOn '.').map String.ofList

/-- The pieces of a host. -/
def host (host : String) : List Piece :=
  separated (.mark .dot) ((hostWords host).map fun word => [.word word])

/-- The words for what is shown. -/
def showWords : ShowTarget → List String
  | .clusterName => ["cluster", "name"]
  | .apiVersion => ["api", "version"]
  | .keyspaces => ["keyspaces"]

/-- The pieces of what is described. -/
def describeTarget : DescribeTarget → List Piece
  | .cluster => [.fixed "cluster"]
  | .keyspace none => [.fixed "keyspace"]
  | .keyspace (some name) => [.fixed "keyspace", .word name]

/-- The pieces of a command. -/
def command : Command → List Piece
  | .use keyspace => [.keyword .use, .quoted keyspace]
  | .createKeyspace name properties =>
    .keyword .create :: .keyword .keyspace :: .word name :: attributes properties
  | .updateKeyspace name properties =>
    .keyword .update :: .keyword .keyspace :: .word name :: attributes properties
  | .dropKeyspace name => [.keyword .drop, .keyword .keyspace, .word name]
  | .createFamily name properties =>
    .keyword .create :: .keyword .column :: .keyword .family :: .word name :: attributes properties
  | .updateFamily name properties =>
    .keyword .update :: .keyword .column :: .keyword .family :: .word name :: attributes properties
  | .dropFamily name => [.keyword .drop, .keyword .column, .keyword .family, .word name]
  | .dropIndex family column =>
    .keyword .drop :: .keyword .index :: .keyword .on :: .word family :: .mark .dot :: literal column
  | .assume family kind validator =>
    [.keyword .assume, .word family, .word kind, .keyword .as, .word validator]
  | .set target value ttl =>
    .keyword .set :: (address target ++ .mark .equal :: (literal value ++ timeToLive ttl))
  | .get target validator bound =>
    .keyword .get :: (address target ++ (asValidator validator ++ limit bound))
  | .getWhere family conditions bound =>
    .keyword .get :: .word family :: .keyword .where ::
      (separated (.keyword .and) (conditions.map condition) ++ limit bound)
  | .del target => .keyword .del :: address target
  | .incr target amount => .keyword .incr :: (address target ++ [.keyword .by, number amount])
  | .decr target amount => .keyword .decr :: (address target ++ [.keyword .by, number amount])
  | .count target => .keyword .count :: address target
  | .list family start stop bound =>
    .keyword .list :: .word family :: (range start stop ++ limit bound)
  | .truncate family => [.keyword .truncate, .word family]
  | .describe target => .keyword .describe :: describeTarget target
  | .show target => .keyword .show :: (showWords target).map .fixed
  | .help topic => .keyword .help :: topic.map .word
  | .connect name port => .keyword .connect :: (host name ++ [.mark .slash, number port])
  | .exit => [.keyword .exit]

/-- The pieces of a command and the semicolon after it. -/
def statement (stated : Command) : List Piece :=
  command stated ++ [.mark .semicolon]

/-- Pieces with single spaces between them. -/
def spaced : List Piece → List Char
  | [] => []
  | [piece] => piece.spelling
  | piece :: next :: pieces => piece.spelling ++ ' ' :: spaced (next :: pieces)

/-- A command in small letters, with single spaces between its pieces. -/
def print (stated : Command) : String :=
  String.ofList (spaced (statement stated))

/-! ### The commands that statements ask for -/

/-- Whether a text is a word: one or more characters of words. -/
def IsWord (text : String) : Prop :=
  text ≠ "" ∧ text.toList.all Token.isWordChar = true

instance (text : String) : Decidable (IsWord text) :=
  inferInstanceAs (Decidable (_ ∧ _))

/-- Whether a number has no more digits than a numeral may have. -/
def IsShort (value : Int) : Prop :=
  (toString value.natAbs).length ≤ Numeral.maxDigits

instance (value : Int) : Decidable (IsShort value) :=
  inferInstanceAs (Decidable (_ ≤ _))

/-- Whether a word is in small letters. -/
def IsSmall (text : String) : Prop :=
  Text.lowered text = text

instance (text : String) : Decidable (IsSmall text) :=
  inferInstanceAs (Decidable (_ = _))

/-- A literal is plain text, or the cast of a text by a word. -/
def IsLiteral : Literal → Prop
  | .plain _ => True
  | .cast function _ => IsWord function

/-- An address has a word for a column family. -/
def IsAddress (target : Address) : Prop :=
  IsWord target.family ∧ IsLiteral target.key ∧ ∀ column ∈ target.columns.toList, IsLiteral column

/-- The names of attributes are words in small letters. -/
def IsProperties (properties : Attributes) : Prop :=
  ∀ name ∈ properties.keys, IsWord name ∧ IsSmall name

/-- A limit is positive. -/
def IsLimit (bound : Option Int) : Prop :=
  ∀ value ∈ bound, 0 < value ∧ IsShort value

/-- Whether a command is one that a statement can ask for. -/
def Printable : Command → Prop
  | .use _ => True
  | .createKeyspace name properties | .updateKeyspace name properties
  | .createFamily name properties | .updateFamily name properties =>
    IsWord name ∧ IsProperties properties
  | .dropKeyspace name | .dropFamily name | .truncate name => IsWord name
  | .dropIndex family column => IsWord family ∧ IsLiteral column
  | .assume family kind validator =>
    IsWord family ∧ IsWord kind ∧ IsSmall kind ∧ IsWord validator
  | .set target value ttl => IsAddress target ∧ IsLiteral value ∧ ∀ amount ∈ ttl, IsShort amount
  | .get target validator bound =>
    IsAddress target ∧ (∀ name ∈ validator, IsWord name) ∧ IsLimit bound
  | .getWhere family conditions bound =>
    IsWord family ∧ conditions ≠ [] ∧
      (∀ condition ∈ conditions, IsLiteral condition.column ∧ IsLiteral condition.value) ∧
      IsLimit bound
  | .del target | .count target => IsAddress target
  | .incr target amount | .decr target amount => IsAddress target ∧ IsShort amount
  | .list family start stop bound =>
    IsWord family ∧ (∀ content ∈ start, IsLiteral content) ∧
      (∀ content ∈ stop, IsLiteral content) ∧ IsLimit bound
  | .describe (.keyspace (some name)) => IsWord name
  | .describe _ | .show _ | .exit => True
  | .help topic => ∀ word ∈ topic, IsWord word ∧ IsSmall word
  | .connect name port => (∀ word ∈ hostWords name, IsWord word) ∧ IsShort port

end Printing

end WideColumn
