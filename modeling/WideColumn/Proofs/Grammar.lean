import Mathlib.Data.List.Induction
import WideColumn.Command.Parser

/-!
# The grammar of statements

The context-free grammar of statements, one type of derivation trees for each nonterminal and one
constructor for each production. A tree has the list of tokens that it derives, its `yield`, and
what the statement means, its `value`. Where the meaning of a production is subject to a rule, the
value may be a failure; the parts of a production are given their values from left to right.

A keyword derives from `Word` as well as a plain word does, so nothing in the sorts of the tokens
alone keeps the words of a statement apart from its keywords.
-/

namespace WideColumn.Grammar

/-! ### Tokens and lists -/

/-- A token of a certain sort. -/
structure Terminal (kind : Token.Kind) where
  token : Token
  kind_eq : token.kind = kind

attribute [simp] Terminal.kind_eq

/-- A certain keyword. -/
abbrev Reserved (keyword : Keyword) := Terminal (.keyword keyword)

/-- A certain punctuation mark. -/
abbrev Sign (mark : Mark) := Terminal (.mark mark)

/-- A string in quotes. -/
abbrev Quoted := Terminal .quoted

/-- The token itself. -/
def Terminal.yield {kind : Token.Kind} (terminal : Terminal kind) : List Token :=
  [terminal.token]

/-- What the token says. -/
def Terminal.value {kind : Token.Kind} (terminal : Terminal kind) : String :=
  terminal.token.value

namespace Terminal

variable {kind : Token.Kind} (terminal : Terminal kind)

@[simp] theorem isMark_token (mark : Mark) :
    terminal.token.isMark mark = decide (kind = .mark mark) := by
  rw [Token.isMark, terminal.kind_eq]
  rfl

@[simp] theorem isKeyword_token (keyword : Keyword) :
    terminal.token.isKeyword keyword = decide (kind = .keyword keyword) := by
  rw [Token.isKeyword, terminal.kind_eq]
  rfl

@[simp] theorem isQuoted_token : terminal.token.isQuoted = decide (kind = .quoted) := by
  rw [Token.isQuoted, terminal.kind_eq]
  rfl

end Terminal

@[simp] theorem Quoted.isWord_token (text : Quoted) : text.token.isWord = false := by
  rw [Token.isWord, text.kind_eq]

@[simp] theorem Sign.isWord_token {mark : Mark} (sign : Sign mark) :
    sign.token.isWord = false := by
  rw [Token.isWord, sign.kind_eq]

@[simp] theorem Reserved.isWord_token {keyword : Keyword} (terminal : Reserved keyword) :
    terminal.token.isWord = true := by
  rw [Token.isWord, terminal.kind_eq]

/-- A word, or a keyword in the place of one. -/
inductive Word where
  | plain (token : Terminal .word)
  | reserved (keyword : Keyword) (token : Reserved keyword)

/-- The one token of a word. -/
def Word.token : Word → Token
  | plain token => token.token
  | reserved _ token => token.token

/-- What a word says. -/
def Word.value (word : Word) : String :=
  word.token.value

/-- The token of a word. -/
def Word.yield (word : Word) : List Token :=
  [word.token]

namespace Word

variable (word : Word)

@[simp] theorem isWord_token : word.token.isWord = true := by
  cases word with
  | plain terminal => rw [token, Token.isWord, terminal.kind_eq]
  | reserved keyword terminal => exact Reserved.isWord_token terminal

@[simp] theorem isQuoted_token : word.token.isQuoted = false := by
  cases word <;> simp [token]

@[simp] theorem isMark_token (mark : Mark) : word.token.isMark mark = false := by
  cases word <;> simp [token]

end Word

/-- A token that can stand for a word is one. -/
theorem exists_word {token : Token} (h : token.isWord = true) :
    ∃ word : Word, word.token = token := by
  cases kind : token.kind with
  | word => exact ⟨.plain ⟨token, kind⟩, rfl⟩
  | keyword keyword => exact ⟨.reserved keyword ⟨token, kind⟩, rfl⟩
  | _ => simp [Token.isWord, kind] at h

/-- A list that grows to the right: an item, or such a list, a separator and an item. -/
inductive Chain (Separator Item : Type) where
  | single (item : Item)
  | multiple (chain : Chain Separator Item) (separator : Separator) (item : Item)

namespace Chain

variable {Separator Item : Type}

/-- The first item. -/
def first : Chain Separator Item → Item
  | single item => item
  | multiple chain _ _ => chain.first

/-- The other items, each with the separator in front of it. -/
def others : Chain Separator Item → List (Separator × Item)
  | single _ => []
  | multiple chain separator item => chain.others ++ [(separator, item)]

/-- The values of all items, given the value of one. -/
def values {α : Type} (value : Item → α) : Chain Separator Item → List α
  | single item => [value item]
  | multiple chain _ item => chain.values value ++ [value item]

/-- The tokens of the items and of the separators between them. -/
def tokens (separatorYield : Separator → List Token) (itemYield : Item → List Token) :
    Chain Separator Item → List Token
  | single item => itemYield item
  | multiple chain separator item =>
    chain.tokens separatorYield itemYield ++ separatorYield separator ++ itemYield item

/-- The tokens of items that have nothing between them. -/
def adjacent (itemYield : Item → List Token) : Chain Unit Item → List Token :=
  tokens (fun _ => []) itemYield

theorem values_eq {α : Type} (value : Item → α) (chain : Chain Separator Item) :
    chain.values value = value chain.first :: chain.others.map fun entry => value entry.2 := by
  induction chain with
  | single item => rfl
  | multiple chain separator item ih => simp [values, first, others, ih]

/-- A chain has the tokens of its first item, and then those of each other item with the
separator in front of it. -/
theorem tokens_eq (separatorYield : Separator → List Token) (itemYield : Item → List Token)
    (chain : Chain Separator Item) :
    chain.tokens separatorYield itemYield =
      itemYield chain.first ++
        chain.others.flatMap fun entry => separatorYield entry.1 ++ itemYield entry.2 := by
  induction chain with
  | single item => simp [tokens, first, others]
  | multiple chain separator item ih => simp [tokens, first, others, ih]

theorem adjacent_eq (itemYield : Item → List Token) (chain : Chain Unit Item) :
    chain.adjacent itemYield =
      itemYield chain.first ++ chain.others.flatMap fun entry => itemYield entry.2 :=
  chain.tokens_eq _ itemYield

theorem map_values {α : Type} (value : Item → α)
    (chain : Chain Separator Item) : (chain.values id).map value = chain.values value := by
  rw [values_eq, values_eq, List.map_cons, List.map_map]
  rfl

/-- There is a chain of any item and others. -/
theorem exists_of_others (item : Item) (entries : List (Separator × Item)) :
    ∃ chain : Chain Separator Item, chain.first = item ∧ chain.others = entries := by
  induction entries using List.reverseRecOn with
  | nil => exact ⟨.single item, rfl, rfl⟩
  | append_singleton entries entry ih =>
    obtain ⟨chain, rfl, rfl⟩ := ih
    exact ⟨.multiple chain entry.1 entry.2, rfl, rfl⟩

/-- A chain is its first item and the others. -/
theorem eq_of_others {chain other : Chain Separator Item} (first : chain.first = other.first)
    (others : chain.others = other.others) : chain = other := by
  induction chain generalizing other with
  | single item =>
    cases other with
    | single item' => exact congrArg single first
    | multiple chain' separator' item' => simp [Chain.others] at others
  | multiple chain separator item ih =>
    cases other with
    | single item' => simp [Chain.others] at others
    | multiple chain' separator' item' =>
      obtain ⟨before, last⟩ := List.append_inj' others rfl
      have same : chain = chain' := ih first before
      cases last
      rw [same]

end Chain

/-- One or more words. -/
abbrev WordList := Chain Unit Word

/-- The tokens of the words. -/
def WordList.yield : WordList → List Token :=
  Chain.adjacent Word.yield

theorem WordList.yield_eq (words : WordList) :
    words.yield = (words.values id).flatMap Word.yield := by
  rw [Chain.values_eq, List.flatMap_cons, List.flatMap_map]
  exact words.adjacent_eq Word.yield

/-- The first token of a list of words is a word. -/
theorem WordList.head_yield (tree : WordList) (rest : List Token) :
    (tree.yield ++ rest).head?.any Token.isWord = true := by
  rw [WordList.yield, Chain.adjacent_eq, Word.yield]
  simp

/-! ### Literals and addresses -/

/-- A literal: a word, a string, or a word with at most one argument in parentheses. -/
inductive Literal where
  | word (name : Word)
  | quoted (text : Quoted)
  | generator (name : Word) (opening : Sign .openParen) (closing : Sign .closeParen)
  | castWord (name : Word) (opening : Sign .openParen) (argument : Word)
      (closing : Sign .closeParen)
  | castQuoted (name : Word) (opening : Sign .openParen) (argument : Quoted)
      (closing : Sign .closeParen)

namespace Literal

/-- The tokens of a literal. -/
def yield : Literal → List Token
  | word name => name.yield
  | quoted text => text.yield
  | generator name opening closing => name.yield ++ opening.yield ++ closing.yield
  | castWord name opening argument closing =>
    name.yield ++ opening.yield ++ argument.yield ++ closing.yield
  | castQuoted name opening argument closing =>
    name.yield ++ opening.yield ++ argument.yield ++ closing.yield

/-- The literal as it is kept in a command. -/
def value : Literal → WideColumn.Literal
  | word name => .plain name.value
  | quoted text => .plain text.value
  | generator name _ _ => .cast name.value none
  | castWord name _ argument _ => .cast name.value (some argument.value)
  | castQuoted name _ argument _ => .cast name.value (some argument.value)

/-- The first token of a literal is a word or a string. -/
theorem head_yield (tree : Literal) (rest : List Token) (mark : Mark) :
    (tree.yield ++ rest).head?.any (Token.isMark mark) = false := by
  cases tree <;> simp [Literal.yield, Terminal.yield, Word.yield]

end Literal

/-- A literal in brackets. -/
structure Bracketed where
  opening : Sign .openBracket
  literal : Literal
  closing : Sign .closeBracket

/-- The tokens of a literal in brackets. -/
def Bracketed.yield (tree : Bracketed) : List Token :=
  tree.opening.yield ++ tree.literal.yield ++ tree.closing.yield

/-- One or more literals in brackets: a key and columns. -/
abbrev BracketList := Chain Unit Bracketed

/-- The tokens of the literals with their brackets. -/
def BracketList.yield : BracketList → List Token :=
  Chain.adjacent Bracketed.yield

/-- The first token of a key and columns is a bracket. -/
theorem BracketList.head_yield (tree : BracketList) (rest : List Token) :
    (tree.yield ++ rest).head?.any (Token.isMark .openBracket) = true := by
  rw [BracketList.yield, Chain.adjacent_eq, Bracketed.yield]
  simp [Terminal.yield]

/-- An address in a column family. -/
structure ColumnRef where
  family : Word
  brackets : BracketList

namespace ColumnRef

/-- The tokens of an address. -/
def yield (tree : ColumnRef) : List Token :=
  tree.family.yield ++ tree.brackets.yield

/-- The address: the first literal is the key, and at most two are columns. -/
def value (tree : ColumnRef) : Except ParseFailure Address :=
  let columns := tree.brackets.others.map fun entry => entry.2.literal.value
  match Columns.ofList? columns with
  | some columns => .ok ⟨tree.family.value, tree.brackets.first.literal.value, columns⟩
  | none => .error (.tooManyColumns tree.family.value)

end ColumnRef

/-! ### Attributes -/

/-- A part of a hash: a word, a string, or two words with a dot between them. -/
inductive HashAtom where
  | word (name : Word)
  | quoted (text : Quoted)
  | decimal (whole : Word) (dot : Sign .dot) (fraction : Word)

namespace HashAtom

/-- The tokens of a part of a hash. -/
def yield : HashAtom → List Token
  | word name => name.yield
  | quoted text => text.yield
  | decimal whole dot fraction => whole.yield ++ dot.yield ++ fraction.yield

/-- What a part of a hash says. -/
def value : HashAtom → String
  | word name => name.value
  | quoted text => text.value
  | decimal whole _ fraction => whole.value ++ "." ++ fraction.value

/-- The first token of a part of a hash is a word or a string. -/
theorem head_yield (tree : HashAtom) (rest : List Token) (mark : Mark) :
    (tree.yield ++ rest).head?.any (Token.isMark mark) = false := by
  cases tree <;> simp [HashAtom.yield, Terminal.yield, Word.yield]

end HashAtom

/-- A key and its value. -/
structure HashPair where
  key : HashAtom
  colon : Sign .colon
  content : HashAtom

namespace HashPair

/-- The tokens of a key and its value. -/
def yield (tree : HashPair) : List Token :=
  tree.key.yield ++ tree.colon.yield ++ tree.content.yield

/-- The key and the value. -/
def value (tree : HashPair) : String × String :=
  (tree.key.value, tree.content.value)

end HashPair

/-- One or more pairs with commas between them. -/
abbrev HashItems := Chain (Sign .comma) HashPair

/-- The tokens of the pairs. -/
def HashItems.yield : HashItems → List Token :=
  Chain.tokens Terminal.yield HashPair.yield

theorem HashItems.head_yield (tree : HashItems) (rest : List Token) (mark : Mark) :
    (tree.yield ++ rest).head?.any (Token.isMark mark) = false := by
  rw [HashItems.yield, Chain.tokens_eq, HashPair.yield]
  simp only [List.append_assoc]
  exact tree.first.key.head_yield _ mark

/-- A hash in braces. -/
inductive Hash where
  | empty (opening : Sign .openBrace) (closing : Sign .closeBrace)
  | items (opening : Sign .openBrace) (pairs : HashItems)
      (closing : Sign .closeBrace)

namespace Hash

/-- The tokens of a hash. -/
def yield : Hash → List Token
  | empty opening closing => opening.yield ++ closing.yield
  | items opening pairs closing => opening.yield ++ pairs.yield ++ closing.yield

/-- The entries of a hash; a key that comes again gets the later value. -/
def value : Hash → Table String String
  | empty _ _ => .empty
  | items _ pairs _ => .ofList (pairs.values HashPair.value)

/-- The first token of a hash is its brace. -/
theorem head_yield (tree : Hash) (rest : List Token) (mark : Mark) :
    (tree.yield ++ rest).head?.any (Token.isMark mark) = decide (mark = .openBrace) := by
  cases tree <;> simp [Hash.yield, Terminal.yield, eq_comm]

end Hash

/-- An item of an array. -/
inductive ArrayItem where
  | hash (entries : Hash)
  | word (name : Word)
  | quoted (text : Quoted)

namespace ArrayItem

/-- The tokens of an item. -/
def yield : ArrayItem → List Token
  | hash entries => entries.yield
  | word name => name.yield
  | quoted text => text.yield

/-- The item as it is kept in an attribute. -/
def value : ArrayItem → AttributeItem
  | hash entries => .hash entries.value
  | word name => .text name.value
  | quoted text => .text text.value

theorem head_yield (tree : ArrayItem) (rest : List Token) :
    (tree.yield ++ rest).head?.any (Token.isMark .closeBracket) = false := by
  cases tree <;>
    simp [-List.head?_append, ArrayItem.yield, Terminal.yield, Word.yield, Hash.head_yield]

end ArrayItem

/-- One or more items with commas between them. -/
abbrev ArrayItems := Chain (Sign .comma) ArrayItem

/-- The tokens of the items. -/
def ArrayItems.yield : ArrayItems → List Token :=
  Chain.tokens Terminal.yield ArrayItem.yield

theorem ArrayItems.head_yield (tree : ArrayItems) (rest : List Token) :
    (tree.yield ++ rest).head?.any (Token.isMark .closeBracket) = false := by
  rw [ArrayItems.yield, Chain.tokens_eq, List.append_assoc]
  exact tree.first.head_yield _

/-- The value of an attribute. -/
inductive PropertyValue where
  | word (name : Word)
  | quoted (text : Quoted)
  | decimal (whole : Word) (dot : Sign .dot) (fraction : Word)
  | emptyArray (opening : Sign .openBracket) (closing : Sign .closeBracket)
  | array (opening : Sign .openBracket) (items : ArrayItems)
      (closing : Sign .closeBracket)
  | hash (entries : Hash)

namespace PropertyValue

/-- The tokens of the value of an attribute. -/
def yield : PropertyValue → List Token
  | word name => name.yield
  | quoted text => text.yield
  | decimal whole dot fraction => whole.yield ++ dot.yield ++ fraction.yield
  | emptyArray opening closing => opening.yield ++ closing.yield
  | array opening items closing => opening.yield ++ items.yield ++ closing.yield
  | hash entries => entries.yield

/-- The value of an attribute as a definition is given it. -/
def value : PropertyValue → AttributeValue
  | word name => .text name.value
  | quoted text => .text text.value
  | decimal whole _ fraction => .text (whole.value ++ "." ++ fraction.value)
  | emptyArray _ _ => .list []
  | array _ items _ => .list (items.values ArrayItem.value)
  | hash entries => .list [.hash entries.value]

end PropertyValue

/-- An attribute. -/
structure Property where
  name : Word
  equal : Sign .equal
  content : PropertyValue

namespace Property

/-- The tokens of an attribute. -/
def yield (tree : Property) : List Token :=
  tree.name.yield ++ tree.equal.yield ++ tree.content.yield

/-- The name in small letters and the value. -/
def value (tree : Property) : String × AttributeValue :=
  (Text.lowered tree.name.value, tree.content.value)

end Property

/-- One or more attributes. -/
abbrev PropertyList := Chain (Reserved .and) Property

/-- The tokens of the attributes. -/
def PropertyList.yield : PropertyList → List Token :=
  Chain.tokens Terminal.yield Property.yield

/-- Some attributes and one more, which must not be among them. -/
def Property.addTo (known : Attributes) (property : Property) : Except ParseFailure Attributes :=
  match known.get? property.value.1 with
  | none => .ok (known.put property.value.1 property.value.2)
  | some _ => .error (.repeatedAttribute property.value.1)

/-- The attributes of a list, in which none is given twice. -/
def PropertyList.value : PropertyList → Except ParseFailure Attributes
  | .single property => .ok (Table.empty.put property.value.1 property.value.2)
  | .multiple properties _ property => do property.addTo (← PropertyList.value properties)

theorem PropertyList.value_eq (tree : PropertyList) :
    tree.value = tree.others.foldlM (fun known entry => entry.2.addTo known)
      (Table.empty.put tree.first.value.1 tree.first.value.2) := by
  induction tree with
  | single property => rfl
  | multiple properties link property ih =>
    rw [PropertyList.value, ih, Chain.others, List.foldlM_append]
    simp [Chain.first]

/-- The attributes that a definition may be given with. -/
inductive WithClause where
  | empty
  | given (lead : Reserved .with) (properties : PropertyList)

namespace WithClause

/-- The tokens of the attributes. -/
def yield : WithClause → List Token
  | empty => []
  | given lead properties => lead.yield ++ properties.yield

/-- The attributes, none if they are left out. -/
def value : WithClause → Except ParseFailure Attributes
  | empty => .ok .empty
  | given _ properties => properties.value

end WithClause

/-! ### Clauses -/

/-- The time to live that a value may be set with. -/
inductive TtlClause where
  | empty
  | given (lead : Reserved .with) (name : Word) (equal : Sign .equal) (amount : Word)

namespace TtlClause

/-- The tokens of a time to live. -/
def yield : TtlClause → List Token
  | empty => []
  | given lead name equal amount =>
    lead.yield ++ name.yield ++ equal.yield ++ amount.yield

/-- The time to live, if there is one. It is the only option and has to have its name. -/
def value : TtlClause → Except ParseFailure (Option Int)
  | empty => .ok none
  | given _ name _ amount => do
    if Text.lowered name.value ≠ "ttl" then throw (.unknownSetOption name.value)
    return some (← Parser.integer "ttl" amount.value)

/-- A time to live is the number of the rule. -/
theorem value_given (lead : Reserved .with) (name : Word) (equal : Sign .equal) (amount : Word) :
    (given lead name equal amount).value = some <$> (do
      if Text.lowered name.value ≠ "ttl" then throw (.unknownSetOption name.value)
      Parser.integer "ttl" amount.value : Except ParseFailure Int) := by
  rw [value]
  by_cases named : Text.lowered name.value = "ttl" <;> simp [named]

end TtlClause

/-- The validator that a value may be shown with. -/
inductive AsClause where
  | empty
  | given (lead : Reserved .as) (validator : Word)

namespace AsClause

/-- The tokens of the validator. -/
def yield : AsClause → List Token
  | empty => []
  | given lead validator => lead.yield ++ validator.yield

/-- The name of the validator, if there is one. -/
def value : AsClause → Option String
  | empty => none
  | given _ validator => some validator.value

end AsClause

/-- The number of results that may be asked for. -/
inductive LimitClause where
  | empty
  | given (lead : Reserved .limit) (amount : Word)

namespace LimitClause

/-- The tokens of a limit. -/
def yield : LimitClause → List Token
  | empty => []
  | given lead amount => lead.yield ++ amount.yield

/-- The limit, if there is one. It is positive. -/
def value : LimitClause → Except ParseFailure (Option Int)
  | empty => .ok none
  | given _ amount => do
    let limit ← Parser.integer "limit" amount.value
    if limit ≤ 0 then throw (.limitNotPositive limit amount.value)
    return some limit

/-- A limit is the number of the rule. -/
theorem value_given (lead : Reserved .limit) (amount : Word) :
    (given lead amount).value = some <$> (do
      let limit ← Parser.integer "limit" amount.value
      if limit ≤ 0 then throw (.limitNotPositive limit amount.value)
      return limit : Except ParseFailure Int) := by
  rw [value]
  cases Parser.integer "limit" amount.value with
  | error failure => rfl
  | ok limit => by_cases positive : limit ≤ 0 <;> simp only [bind, Except.bind, positive] <;> rfl

end LimitClause

/-- The amount that a counter may be changed by. -/
inductive ByClause where
  | empty
  | given (lead : Reserved .by) (amount : Word)

namespace ByClause

/-- The tokens of an amount. -/
def yield : ByClause → List Token
  | empty => []
  | given lead amount => lead.yield ++ amount.yield

/-- The amount, which is one if it is left out. -/
def value : ByClause → Except ParseFailure Int
  | empty => .ok 1
  | given _ amount => Parser.integer "by" amount.value

end ByClause

/-- The mark of a comparison. -/
def comparisonMark : Comparison → Mark
  | .equal => .equal
  | .greater => .greater
  | .greaterEqual => .greaterEqual
  | .less => .less
  | .lessEqual => .lessEqual

/-- The mark of a comparison opens no argument. -/
theorem comparisonMark_ne_openParen (shown : Comparison) :
    comparisonMark shown ≠ .openParen := by
  cases shown <;> decide

/-- A condition: two literals with one of the five comparisons between them. -/
structure Condition where
  column : Literal
  comparison : Comparison
  sign : Sign (comparisonMark comparison)
  content : Literal

namespace Condition

/-- The tokens of a condition. -/
def yield (tree : Condition) : List Token :=
  tree.column.yield ++ tree.sign.yield ++ tree.content.yield

/-- The condition as it is kept in a command. -/
def value (tree : Condition) : WideColumn.Condition :=
  ⟨tree.column.value, tree.comparison, tree.content.value⟩

end Condition

/-- One or more conditions. -/
abbrev ConditionList := Chain (Reserved .and) Condition

/-- The tokens of the conditions. -/
def ConditionList.yield : ConditionList → List Token :=
  Chain.tokens Terminal.yield Condition.yield

/-- A bound of a range, which may be left out. -/
inductive RangeBound where
  | empty
  | given (literal : Literal)

namespace RangeBound

/-- The tokens of a bound. -/
def yield : RangeBound → List Token
  | empty => []
  | given literal => literal.yield

/-- The bound, if there is one. -/
def value : RangeBound → Option WideColumn.Literal
  | empty => none
  | given literal => some literal.value

end RangeBound

/-- The range of keys that may be given. -/
inductive RangeClause where
  | empty
  | given (opening : Sign .openBracket) (start : RangeBound) (colon : Sign .colon)
      (stop : RangeBound) (closing : Sign .closeBracket)

namespace RangeClause

/-- The tokens of a range. -/
def yield : RangeClause → List Token
  | empty => []
  | given opening start colon stop closing =>
    opening.yield ++ start.yield ++ colon.yield ++ stop.yield ++
      closing.yield

/-- The two bounds. -/
def value : RangeClause → Option WideColumn.Literal × Option WideColumn.Literal
  | empty => (none, none)
  | given _ start _ stop _ => (start.value, stop.value)

end RangeClause

/-- A host: words with dots between them. -/
abbrev Host := Chain (Sign .dot) Word

/-- The tokens of a host. -/
def Host.yield : Host → List Token :=
  Chain.tokens Terminal.yield Word.yield

/-- The name of a host. -/
def Host.value : Host → String
  | .single word => word.value
  | .multiple host _ word => Host.value host ++ "." ++ word.value

theorem Host.value_eq (tree : Host) :
    Host.value tree =
      tree.others.foldl (fun name entry => name ++ "." ++ entry.2.value) tree.first.value := by
  induction tree with
  | single word => rfl
  | multiple host dot word ih => simp [Host.value, Chain.others, Chain.first, ih]

/-! ### Commands and statements -/

/-- A command. -/
inductive Command where
  | useWord (lead : Reserved .use) (name : Word)
  | useQuoted (lead : Reserved .use) (name : Quoted)
  | connect (lead : Reserved .connect) (host : Host) (slash : Sign .slash) (port : Word)
  | exit (lead : Reserved .exit)
  | quit (lead : Reserved .quit)
  | createKeyspace (lead : Reserved .create) (kind : Reserved .keyspace) (name : Word)
      (attributes : WithClause)
  | updateKeyspace (lead : Reserved .update) (kind : Reserved .keyspace) (name : Word)
      (attributes : WithClause)
  | dropKeyspace (lead : Reserved .drop) (kind : Reserved .keyspace) (name : Word)
  | createFamily (lead : Reserved .create) (column : Reserved .column)
      (family : Reserved .family) (name : Word) (attributes : WithClause)
  | updateFamily (lead : Reserved .update) (column : Reserved .column)
      (family : Reserved .family) (name : Word) (attributes : WithClause)
  | dropFamily (lead : Reserved .drop) (column : Reserved .column) (family : Reserved .family)
      (name : Word)
  | dropIndex (lead : Reserved .drop) (index : Reserved .index) (on : Reserved .on)
      (family : Word) (dot : Sign .dot) (column : Literal)
  | assume (lead : Reserved .assume) (family kind : Word) (link : Reserved .as)
      (validator : Word)
  | set (lead : Reserved .set) (address : ColumnRef) (equal : Sign .equal) (content : Literal)
      (ttl : TtlClause)
  | get (lead : Reserved .get) (address : ColumnRef) (validator : AsClause) (limit : LimitClause)
  | getWhere (lead : Reserved .get) (family : Word) (link : Reserved .where)
      (conditions : ConditionList) (limit : LimitClause)
  | del (lead : Reserved .del) (address : ColumnRef)
  | incr (lead : Reserved .incr) (address : ColumnRef) (amount : ByClause)
  | decr (lead : Reserved .decr) (address : ColumnRef) (amount : ByClause)
  | count (lead : Reserved .count) (address : ColumnRef)
  | list (lead : Reserved .list) (family : Word) (range : RangeClause) (limit : LimitClause)
  | truncate (lead : Reserved .truncate) (family : Word)
  | describe (lead : Reserved .describe)
  | describeWords (lead : Reserved .describe) (words : WordList)
  | «show» (lead : Reserved .show) (words : WordList)
  | help (lead : Reserved .help)
  | helpWords (lead : Reserved .help) (words : WordList)
  | question (mark : Sign .question)

namespace Command

/-- The tokens of a command. -/
def yield : Command → List Token
  | useWord lead name => lead.yield ++ name.yield
  | useQuoted lead name => lead.yield ++ name.yield
  | connect lead host slash port =>
    lead.yield ++ host.yield ++ slash.yield ++ port.yield
  | exit lead => lead.yield
  | quit lead => lead.yield
  | createKeyspace lead kind name attributes =>
    lead.yield ++ kind.yield ++ name.yield ++ attributes.yield
  | updateKeyspace lead kind name attributes =>
    lead.yield ++ kind.yield ++ name.yield ++ attributes.yield
  | dropKeyspace lead kind name => lead.yield ++ kind.yield ++ name.yield
  | createFamily lead column family name attributes =>
    lead.yield ++ column.yield ++ family.yield ++ name.yield ++
      attributes.yield
  | updateFamily lead column family name attributes =>
    lead.yield ++ column.yield ++ family.yield ++ name.yield ++
      attributes.yield
  | dropFamily lead column family name =>
    lead.yield ++ column.yield ++ family.yield ++ name.yield
  | dropIndex lead index on family dot column =>
    lead.yield ++ index.yield ++ on.yield ++ family.yield ++
      dot.yield ++ column.yield
  | assume lead family kind link validator =>
    lead.yield ++ family.yield ++ kind.yield ++ link.yield ++
      validator.yield
  | set lead address equal content ttl =>
    lead.yield ++ address.yield ++ equal.yield ++ content.yield ++
      ttl.yield
  | get lead address validator limit =>
    lead.yield ++ address.yield ++ validator.yield ++ limit.yield
  | getWhere lead family link conditions limit =>
    lead.yield ++ family.yield ++ link.yield ++ conditions.yield ++
      limit.yield
  | del lead address => lead.yield ++ address.yield
  | incr lead address amount => lead.yield ++ address.yield ++ amount.yield
  | decr lead address amount => lead.yield ++ address.yield ++ amount.yield
  | count lead address => lead.yield ++ address.yield
  | list lead family range limit =>
    lead.yield ++ family.yield ++ range.yield ++ limit.yield
  | truncate lead family => lead.yield ++ family.yield
  | describe lead => lead.yield
  | describeWords lead words => lead.yield ++ words.yield
  | «show» lead words => lead.yield ++ words.yield
  | help lead => lead.yield
  | helpWords lead words => lead.yield ++ words.yield
  | question mark => mark.yield

/-- What a command asks for. -/
def value : Command → Except ParseFailure WideColumn.Command
  | useWord _ name => .ok (.use name.value)
  | useQuoted _ name => .ok (.use name.value)
  | connect _ host _ port => return .connect (Host.value host) (← Parser.integer "port" port.value)
  | exit _ => .ok .exit
  | quit _ => .ok .exit
  | createKeyspace _ _ name attributes => return .createKeyspace name.value (← attributes.value)
  | updateKeyspace _ _ name attributes => return .updateKeyspace name.value (← attributes.value)
  | dropKeyspace _ _ name => .ok (.dropKeyspace name.value)
  | createFamily _ _ _ name attributes => return .createFamily name.value (← attributes.value)
  | updateFamily _ _ _ name attributes => return .updateFamily name.value (← attributes.value)
  | dropFamily _ _ _ name => .ok (.dropFamily name.value)
  | dropIndex _ _ _ family _ column => .ok (.dropIndex family.value column.value)
  | assume _ family kind _ validator =>
    .ok (.assume family.value (Text.lowered kind.value) validator.value)
  | set _ address _ content ttl => do
    let address ← address.value
    return .set address content.value (← ttl.value)
  | get _ address validator limit => do
    let address ← address.value
    return .get address validator.value (← limit.value)
  | getWhere _ family _ conditions limit =>
    return .getWhere family.value (conditions.values Condition.value) (← limit.value)
  | del _ address => return .del (← address.value)
  | incr _ address amount => do
    let address ← address.value
    return .incr address (← amount.value)
  | decr _ address amount => do
    let address ← address.value
    return .decr address (← amount.value)
  | count _ address => return .count (← address.value)
  | list _ family range limit =>
    return .list family.value range.value.1 range.value.2 (← limit.value)
  | truncate _ family => .ok (.truncate family.value)
  | describe _ => return .describe (← Parser.describeTarget [])
  | describeWords _ words => return .describe (← Parser.describeTarget (words.values Word.value))
  | «show» _ words => return .show (← Parser.showTarget (words.values Word.value))
  | help _ => .ok (.help [])
  | helpWords _ words => .ok (.help ((words.values Word.value).map Text.lowered))
  | question _ => .ok (.help [])

end Command

/-- A statement: a command, with or without a semicolon after it. -/
inductive Statement where
  | closed (command : Command) (semicolon : Sign .semicolon)
  | bare (command : Command)

namespace Statement

/-- The tokens of a statement. -/
def yield : Statement → List Token
  | closed command semicolon => command.yield ++ semicolon.yield
  | bare command => command.yield

/-- What a statement asks for. -/
def value : Statement → Except ParseFailure WideColumn.Command
  | closed command _ => command.value
  | bare command => command.value

end Statement

end WideColumn.Grammar
