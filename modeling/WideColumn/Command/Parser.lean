import WideColumn.Command
import WideColumn.Token.Lexer

/-!
# Reading commands

A parser goes over the tokens from left to right and never back. It refuses the first token that no
statement has at that place, or the end if more is needed.

Some rules are about what tokens say and not about their sort: a limit is positive, an attribute is
given once. Such a rule is looked at when the part that it is about is complete, and whether it is
complete shows in the token that comes next. `settle` therefore asks first whether that token may
follow the part in any statement; if not, the token is what is wrong.
-/

namespace WideColumn

/-- Why a list of tokens is no statement. -/
inductive Refusal where
  /-- What is left begins with a token that cannot come there, or is empty too early. -/
  | unexpected (rest : List Token)
  | cause (failure : ParseFailure)
  deriving DecidableEq, Repr

/-- A computation that takes tokens off the front of a list. -/
abbrev Parser (α : Type) := StateT (List Token) (Except Refusal) α

namespace Parser

/-! ### Single tokens -/

/-- Refuse the next token. -/
def refuse {α : Type} : Parser α :=
  fun tokens => .error (.unexpected tokens)

/-- Whether there is a next token and it is of a class. -/
def nextIs (accepts : Token → Bool) : Parser Bool :=
  fun tokens => .ok (tokens.head?.any accepts, tokens)

/-- Take the next token, which has to be of a class. -/
def take (accepts : Token → Bool) : Parser Token
  | token :: rest => if accepts token then .ok (token, rest) else refuse (token :: rest)
  | [] => refuse []

/-- Take a keyword. -/
def keyword (keyword : Keyword) : Parser Unit :=
  discard (take (Token.isKeyword keyword))

/-- Take a punctuation mark. -/
def mark (mark : Mark) : Parser Unit :=
  discard (take (Token.isMark mark))

/-- Take a word. -/
def word : Parser String :=
  Token.value <$> take Token.isWord

/-- Take a word or a string. -/
def wordOrString : Parser String :=
  Token.value <$> take fun token => token.isWord || token.isQuoted

/-! ### Repetition -/

/-- Repeat a step as long as the next token begins it, at most `fuel` times. -/
def repeatStep {σ : Type} (begins : Token → Bool) (step : σ → Parser σ) : Nat → σ → Parser σ
  | 0, state => pure state
  | fuel + 1, state => do
    if ← nextIs begins then repeatStep begins step fuel (← step state) else pure state

/-- Repeat a step as long as the next token begins it. Every step takes that token, so there are no
more steps than tokens. -/
def whileNext {σ : Type} (begins : Token → Bool) (step : σ → Parser σ) (state : σ) : Parser σ :=
  fun tokens => repeatStep begins step tokens.length state tokens

/-- Items as long as the next token begins one. -/
def many {α : Type} (begins : Token → Bool) (item : Parser α) : Parser (List α) :=
  whileNext begins (fun items => return items ++ [← item]) []

/-- One or more items with a separator between them. -/
def separated {α : Type} (separator : Mark) (item : Parser α) : Parser (List α) := do
  let first ← item
  let others ← many (Token.isMark separator) (do mark separator; item)
  return first :: others

/-- An optional part, of which the next token tells whether it is there. -/
def optional {α : Type} (begins : Token → Bool) (item : Parser α) : Parser (Option α) := do
  if ← nextIs begins then some <$> item else return none

/-! ### Rules on what tokens say -/

/-- Whether a token can follow a whole command. -/
def endsCommand (token : Token) : Bool :=
  token.isMark .semicolon

/-- The outcome of a rule on a part that is complete if the next token can follow it, or if there
is none. -/
def settle {α : Type} (follows : Token → Bool) (outcome : Except ParseFailure α) : Parser α :=
  fun tokens =>
    if tokens.head?.all follows then
      match outcome with
      | .ok value => .ok (value, tokens)
      | .error failure => .error (.cause failure)
    else refuse tokens

/-- The number that a word spells. -/
def integer (purpose word : String) : Except ParseFailure Int :=
  match Numeral.decimal? word.toList with
  | some value => .ok value
  | none => .error (.notAnInteger purpose word)

/-! ### Literals and addresses -/

/-- The argument of a cast and its closing parenthesis. -/
def castArgument : Parser (Option String) := do
  let argument ← optional (fun token => token.isWord || token.isQuoted) wordOrString
  mark .closeParen
  return argument

/-- A literal: a word, a string, or a word with an argument in parentheses. -/
def literal : Parser Literal := do
  if ← nextIs Token.isQuoted then
    return .plain (← wordOrString)
  let name ← word
  match ← optional (Token.isMark .openParen) (do mark .openParen; castArgument) with
  | some argument => return .cast name argument
  | none => return .plain name

/-- A literal in brackets. -/
def bracketed : Parser Literal := do
  mark .openBracket
  let inner ← literal
  mark .closeBracket
  return inner

/-- Whether a token can follow an address in some statement. -/
def followsAddress (token : Token) : Bool :=
  token.isMark .equal || token.isKeyword .as || token.isKeyword .limit ||
  token.isKeyword .by || endsCommand token

/-- The key and the columns of an address in a column family. -/
def addressIn (family : String) : Parser Address := do
  let key ← bracketed
  let columns ← many (Token.isMark .openBracket) bracketed
  -- A token that cannot follow is refused before columns that are too many.
  settle followsAddress <|
    match Columns.ofList? columns with
    | some columns => .ok ⟨family, key, columns⟩
    | none => .error (.tooManyColumns family)

/-- An address. -/
def address : Parser Address := do
  addressIn (← word)

/-! ### Attributes -/

/-- A word, two words with a dot between them, or a string. -/
def atom : Parser String := do
  if ← nextIs Token.isQuoted then
    wordOrString
  else
    let first ← word
    match ← optional (Token.isMark .dot) (do mark .dot; word) with
    | some second => return first ++ "." ++ second
    | none => return first

/-- A key and its value in a hash. -/
def pair : Parser (String × String) := do
  let key ← atom
  mark .colon
  return (key, ← atom)

/-- A hash in braces. -/
def hash : Parser (Table String String) := do
  mark .openBrace
  if ← nextIs (Token.isMark .closeBrace) then
    mark .closeBrace
    return .empty
  let pairs ← separated .comma pair
  mark .closeBrace
  return .ofList pairs

/-- An item of a list in brackets. -/
def item : Parser AttributeItem := do
  if ← nextIs (Token.isMark .openBrace) then return .hash (← hash)
  return .text (← wordOrString)

/-- A list in brackets. -/
def list : Parser (List AttributeItem) := do
  mark .openBracket
  if ← nextIs (Token.isMark .closeBracket) then
    mark .closeBracket
    return []
  let items ← separated .comma item
  mark .closeBracket
  return items

/-- The value of an attribute. -/
def attributeValue : Parser AttributeValue := do
  if ← nextIs (Token.isMark .openBracket) then return .list (← list)
  -- A hash by itself stands for a list that holds it alone.
  if ← nextIs (Token.isMark .openBrace) then return .list [.hash (← hash)]
  return .text (← atom)

/-- The name of an attribute, in small letters, and its value. -/
def namedValue : Parser (String × AttributeValue) := do
  let name ← word
  mark .equal
  return (Text.lowered name, ← attributeValue)

/-- One more attribute, which was not given before. -/
def nextAttribute (attributes : Attributes) : Parser Attributes := do
  keyword .and
  let (name, value) ← namedValue
  settle (fun token => token.isKeyword .and || endsCommand token) <|
    match attributes.get? name with
    | none => .ok (attributes.put name value)
    | some _ => .error (.repeatedAttribute name)

/-- The attributes that a definition may be given with. -/
def attributes : Parser Attributes := do
  if ← nextIs (Token.isKeyword .with) then
    keyword .with
    let (name, value) ← namedValue
    whileNext (Token.isKeyword .and) nextAttribute (Table.empty.put name value)
  else return .empty

/-! ### Clauses -/

/-- The number of results that a statement may ask for. -/
def limit : Parser (Option Int) :=
  optional (Token.isKeyword .limit) do
    keyword .limit
    let amount ← word
    settle endsCommand do
      let value ← integer "limit" amount
      if value ≤ 0 then throw (.limitNotPositive value amount)
      return value

/-- The time to live that a value may be set with. -/
def timeToLive : Parser (Option Int) :=
  optional (Token.isKeyword .with) do
    keyword .with
    let name ← word
    mark .equal
    let amount ← word
    settle endsCommand do
      if Text.lowered name ≠ "ttl" then throw (.unknownSetOption name)
      integer "ttl" amount

/-- The amount that a counter is to change by. -/
def amount : Parser Int := do
  let given ← optional (Token.isKeyword .by) do
    keyword .by
    let word ← word
    settle endsCommand (integer "by" word)
  return given.getD 1

/-- The validator that a value is to be shown with. -/
def asValidator : Parser (Option String) :=
  optional (Token.isKeyword .as) do
    keyword .as
    word

/-- The comparison of a condition. -/
def comparison : Parser Comparison := do
  if ← nextIs (Token.isMark .equal) then
    mark .equal
    return .equal
  if ← nextIs (Token.isMark .greater) then
    mark .greater
    return .greater
  if ← nextIs (Token.isMark .greaterEqual) then
    mark .greaterEqual
    return .greaterEqual
  if ← nextIs (Token.isMark .less) then
    mark .less
    return .less
  mark .lessEqual
  return .lessEqual

/-- A condition. -/
def condition : Parser Condition := do
  let column ← literal
  let comparison ← comparison
  return ⟨column, comparison, ← literal⟩

/-- One or more conditions. -/
def conditions : Parser (List Condition) := do
  let first ← condition
  let others ← many (Token.isKeyword .and) (do keyword .and; condition)
  return first :: others

/-- The bounds of a range of keys, each of which may be left out. -/
def range : Parser (Option Literal × Option Literal) := do
  if ← nextIs (Token.isMark .openBracket) then
    mark .openBracket
    -- Whatever is not the mark that ends a bound is read as the bound.
    let start ← optional (fun token => !token.isMark .colon) literal
    mark .colon
    let stop ← optional (fun token => !token.isMark .closeBracket) literal
    mark .closeBracket
    return (start, stop)
  else return (none, none)

/-- A host name: words with dots between them. -/
def host : Parser String := do
  let first ← word
  whileNext (Token.isMark .dot) (fun name => do mark .dot; return name ++ "." ++ (← word)) first

/-- What some words after `describe` stand for. -/
def describeTarget (words : List String) : Except ParseFailure DescribeTarget :=
  match words, words.map Text.lowered with
  | [], _ => .ok (.keyspace none)
  | [_], ["cluster"] => .ok .cluster
  | [_], ["keyspace"] => .ok (.keyspace none)
  -- A word that is no target is the name of a keyspace.
  | [name], _ => .ok (.keyspace (some name))
  | [_, name], ["keyspace", _] => .ok (.keyspace (some name))
  | _, _ => .error (.unknownDescribeTarget (" ".intercalate words))

/-- What some words after `show` stand for. -/
def showTarget (words : List String) : Except ParseFailure ShowTarget :=
  let what := " ".intercalate (words.map Text.lowered)
  match ShowTarget.ofWords? what with
  | some target => .ok target
  | none => .error (.unknownShowTarget what)

/-! ### Commands -/

/-- The rest of a command that creates or updates a definition. -/
def definition (ofKeyspace ofFamily : String → Attributes → Command) : Parser Command := do
  if ← nextIs (Token.isKeyword .keyspace) then
    keyword .keyspace
    let name ← word
    return ofKeyspace name (← attributes)
  keyword .column
  keyword .family
  let name ← word
  return ofFamily name (← attributes)

/-- The rest of a `drop` command. -/
def dropTarget : Parser Command := do
  if ← nextIs (Token.isKeyword .keyspace) then
    keyword .keyspace
    return .dropKeyspace (← word)
  if ← nextIs (Token.isKeyword .column) then
    keyword .column
    keyword .family
    return .dropFamily (← word)
  keyword .index
  keyword .on
  let family ← word
  mark .dot
  return .dropIndex family (← literal)

/-- The rest of a `get` command: an address, or conditions on the rows of a column family. -/
def getTarget : Parser Command := do
  let family ← word
  if ← nextIs (Token.isMark .openBracket) then
    let address ← addressIn family
    let validator ← asValidator
    return .get address validator (← limit)
  keyword .where
  let conditions ← conditions
  return .getWhere family conditions (← limit)

/-- The rest of a command after its keyword. -/
def commandAfter : Keyword → Parser Command
  | .use => return .use (← wordOrString)
  | .create => definition .createKeyspace .createFamily
  | .update => definition .updateKeyspace .updateFamily
  | .drop => dropTarget
  | .assume => do
    let family ← word
    let kind ← word
    keyword .as
    return .assume family (Text.lowered kind) (← word)
  | .set => do
    let address ← address
    mark .equal
    let value ← literal
    return .set address value (← timeToLive)
  | .get => getTarget
  | .del => return .del (← address)
  | .incr => do
    let address ← address
    return .incr address (← amount)
  | .decr => do
    let address ← address
    return .decr address (← amount)
  | .count => return .count (← address)
  | .list => do
    let family ← word
    let (start, stop) ← range
    return .list family start stop (← limit)
  | .truncate => return .truncate (← word)
  | .describe => do
    let words ← many Token.isWord word
    return .describe (← settle endsCommand (describeTarget words))
  | .show => do
    let first ← word
    let others ← many Token.isWord word
    return .show (← settle endsCommand (showTarget (first :: others)))
  | .help => do
    let words ← many Token.isWord word
    -- Any words are a topic; whether there is help on it is seen later.
    return .help (words.map Text.lowered)
  | .connect => do
    let host ← host
    mark .slash
    let port ← word
    return .connect host (← settle endsCommand (integer "port" port))
  | .exit | .quit => return .exit
  | _ => refuse

/-- Whether commands begin with a keyword. -/
def beginsCommand : Keyword → Bool
  | .use | .create | .update | .drop | .assume | .set | .get | .del | .incr | .decr | .count
  | .list | .truncate | .describe | .show | .help | .connect | .exit | .quit => true
  | _ => false

/-- A command. -/
def command : Parser Command := do
  if ← nextIs (Token.isMark .question) then
    mark .question
    return .help []
  let token ← take fun token =>
    match token.kind with
    | .keyword keyword => beginsCommand keyword
    | _ => false
  match token.kind with
  | .keyword keyword => commandAfter keyword
  | _ => refuse

/-- A command, a semicolon if there is one, and nothing more. -/
def statement : Parser Command := do
  let command ← command
  let _ ← optional endsCommand (mark .semicolon)
  fun tokens =>
    match tokens with
    | [] => .ok (command, [])
    | _ => refuse tokens

end Parser

namespace Command

/-- The command of a list of tokens. -/
def ofTokens (tokens : List Token) : Except Refusal Command :=
  (Parser.statement tokens).map (·.1)

/-- Whether nothing but blanks and then semicolons is left of a text. -/
def isEmptyText (text : List Char) : Bool :=
  (Text.trim (Text.trimEndWhile (· == ';') (Text.trim text))).isEmpty

/-- The failure that a refusal means in a text. -/
def failureOf (text : List Char) : Refusal → ParseFailure
  | .cause failure => failure
  | .unexpected [] =>
    .unexpectedEnd (String.ofList (text.drop (text.length - Token.excerptLength)))
  | .unexpected (token :: _) =>
    if token.kind == .unreadable then Token.unreadableFailure token.position token.lexeme
    else
      let rest := (text.drop token.position).take Token.excerptLength
      .unexpectedToken token.value token.position (String.ofList rest)

/-- The command that a text states. -/
def parse (text : String) : Except Failure Command :=
  let chars := text.toList
  if isEmptyText chars then .error (.parse (.emptyStatement text))
  else
    match ofTokens (Token.read chars) with
    | .ok command => .ok command
    | .error refusal => .error (.parse (failureOf chars refusal))

end Command

end WideColumn
