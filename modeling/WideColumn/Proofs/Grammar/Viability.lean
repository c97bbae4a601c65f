import WideColumn.Proofs.Grammar.Completeness
import WideColumn.Proofs.Grammar.Stopping
import WideColumn.Proofs.Lexing.Covering

/-!
# Failures stand at the first impossible token

Every nonterminal has its parser, and the parser reads the language that the trees of the nonterminal
derive. So where the parser of statements refuses a token, the tokens in front of it can be completed to
a statement (`Viable`). With that token behind them they cannot: the parser would refuse it there too,
whatever came after it, while on the tokens of a statement it refuses nothing.
-/

namespace WideColumn.Grammar

open WideColumn.Parser
open scoped Computability

/-! ### Languages of trees -/

/-- The lists of tokens that trees derive. -/
def derived {Tree : Type} (yield : Tree → List Token) : Language Token :=
  Set.range yield

/-- The single tokens of a sort. -/
abbrev terminal (kind : Token.Kind) : Language Token :=
  derived (@Terminal.yield kind)

/-- A certain keyword. -/
abbrev reserved (keyword : Keyword) : Language Token :=
  terminal (.keyword keyword)

/-- A certain mark. -/
abbrev sign (mark : Mark) : Language Token :=
  terminal (.mark mark)

/-- The single words. -/
abbrev words : Language Token :=
  derived Word.yield

/-- A word or a string. -/
abbrev texts : Language Token :=
  words + terminal .quoted

theorem not_nil_mem_terminal_mul (kind : Token.Kind) (L : Language Token) :
    [] ∉ terminal kind * L := by
  rintro ⟨_, ⟨terminal, rfl⟩, _, -, same⟩
  cases same

/-- What is made of an item and others with separators in front of them are the tokens of a chain. -/
theorem chain_le {Separator Item : Type} (separatorYield : Separator → List Token)
    (itemYield : Item → List Token) :
    derived itemYield * (derived separatorYield * derived itemYield)∗ ≤
      derived (Chain.tokens separatorYield itemYield) := by
  rintro _ ⟨_, ⟨first, rfl⟩, _, ⟨pieces, rfl, each⟩, rfl⟩
  obtain ⟨entries, same⟩ : ∃ entries : List (Separator × Item),
      (entries.flatMap fun entry => separatorYield entry.1 ++ itemYield entry.2) =
        pieces.flatten := by
    induction pieces with
    | nil => exact ⟨[], rfl⟩
    | cons piece pieces ih =>
      obtain ⟨here, later⟩ := List.forall_mem_cons.1 each
      obtain ⟨_, ⟨separator, rfl⟩, _, ⟨item, rfl⟩, rfl⟩ := here
      obtain ⟨entries, same⟩ := ih later
      exact ⟨(separator, item) :: entries, by rw [List.flatMap_cons, same, List.flatten_cons]⟩
  obtain ⟨chain, rfl, rfl⟩ := Chain.exists_of_others first entries
  exact ⟨chain, by rw [Chain.tokens_eq, same]⟩

theorem adjacent_le {Item : Type} (itemYield : Item → List Token) :
    derived itemYield * (derived itemYield)∗ ≤ derived (Chain.adjacent itemYield) := by
  have nothing : derived (fun _ : Unit => []) = 1 := Set.range_const
  have joined := chain_le (fun _ : Unit => []) itemYield
  rwa [nothing, one_mul] at joined

/-! ### Single tokens -/

theorem reads_keyword (keyword : Keyword) : Reads (Parser.keyword keyword) (reserved keyword) := by
  have accepted : Token.isKeyword keyword ⟨.keyword keyword, [], 0⟩ = true := beq_self_eq_true _
  refine ((Reads.take _ accepted).map _).mono ?_
  rintro _ ⟨token, found, rfl⟩
  exact ⟨⟨token, beq_iff_eq.1 found⟩, rfl⟩

theorem reads_mark (mark : Mark) : Reads (Parser.mark mark) (sign mark) := by
  have accepted : Token.isMark mark ⟨.mark mark, [], 0⟩ = true := beq_self_eq_true _
  refine ((Reads.take _ accepted).map _).mono ?_
  rintro _ ⟨token, found, rfl⟩
  exact ⟨⟨token, beq_iff_eq.1 found⟩, rfl⟩

theorem reads_word : Reads Parser.word words := by
  refine ((Reads.take ⟨.word, [], 0⟩ rfl).map _).mono ?_
  rintro _ ⟨token, found, rfl⟩
  obtain ⟨word, rfl⟩ := exists_word found
  exact ⟨word, rfl⟩

theorem reads_wordOrString : Reads wordOrString texts := by
  refine ((Reads.take ⟨.word, [], 0⟩ rfl).map _).mono ?_
  rintro _ ⟨token, found, rfl⟩
  rcases Bool.or_eq_true_iff.1 found with isWord | isQuoted
  · obtain ⟨word, rfl⟩ := exists_word isWord
    exact .inl ⟨word, rfl⟩
  · exact .inr ⟨⟨token, beq_iff_eq.1 isQuoted⟩, rfl⟩

/-! ### Literals and addresses -/

instance : Nonempty WideColumn.Literal := ⟨.plain ""⟩

theorem reads_castArgument : Reads castArgument ((texts + 1) * sign .closeParen) :=
  (Reads.optional _ reads_wordOrString).bind fun argument =>
    (reads_mark .closeParen).bind_pure fun _ => argument

theorem reads_found (name : String) (found : Option (Option String)) :
    Reads (match found with
      | some argument => Pure.pure (.cast name argument)
      | none => Pure.pure (.plain name) : Parser WideColumn.Literal) 1 := by
  cases found <;> exact .pure _

theorem reads_literal : Reads Parser.literal (derived Literal.yield) := by
  have argument := (reads_mark .openParen).bind fun _ => reads_castArgument
  have cast (name : String) :=
    (argument.optional (Token.isMark .openParen)).bind (reads_found name)
  refine (Reads.choice _ (.bind_pure reads_wordOrString _) (.bind reads_word cast)).mono ?_
  rintro _ ((⟨name, rfl⟩ | ⟨text, rfl⟩) | ⟨_, ⟨name, rfl⟩, _, ⟨_, clause, _, rfl, rfl⟩, rfl⟩)
  · exact ⟨.word name, rfl⟩
  · exact ⟨.quoted text, rfl⟩
  · rcases clause with ⟨_, ⟨opening, rfl⟩, _, ⟨_, argument, _, ⟨closing, rfl⟩, rfl⟩, rfl⟩ | rfl
    · rcases argument with (⟨word, rfl⟩ | ⟨text, rfl⟩) | rfl
      · exact ⟨.castWord name opening word closing, rfl⟩
      · exact ⟨.castQuoted name opening text closing, rfl⟩
      · exact ⟨.generator name opening closing, rfl⟩
    · exact ⟨.word name, rfl⟩

theorem reads_bracketed : Reads bracketed (derived Bracketed.yield) := by
  refine ((reads_mark .openBracket).bind fun _ => Reads.bind reads_literal fun inner =>
    (reads_mark .closeBracket).bind_pure fun _ => inner).mono ?_
  rintro _ ⟨_, ⟨opening, rfl⟩, _, ⟨_, ⟨literal, rfl⟩, _, ⟨closing, rfl⟩, rfl⟩, rfl⟩
  exact ⟨⟨opening, literal, closing⟩, rfl⟩

instance : Nonempty Address := ⟨⟨"", .plain "", .none⟩⟩

theorem ruled_columns (family : String) (key : WideColumn.Literal)
    (columns : List WideColumn.Literal) :
    Ruled (match Columns.ofList? columns with
      | some columns => .ok (⟨family, key, columns⟩ : Address)
      | none => .error (.tooManyColumns family)) := by
  split
  · exact .ok _
  · exact .error trivial

theorem reads_addressIn (family : String) :
    Reads (addressIn family) (derived BracketList.yield) := by
  have solid : [] ∉ derived Bracketed.yield := by
    rintro ⟨tree, same⟩
    cases same
  refine (Reads.bind reads_bracketed fun key =>
    (Reads.many _ reads_bracketed solid).bind fun columns =>
      .settle followsAddress (ruled_columns family key columns)).mono ?_
  rw [mul_one]
  exact adjacent_le Bracketed.yield

theorem reads_address : Reads address (derived ColumnRef.yield) := by
  refine (Reads.bind reads_word reads_addressIn).mono ?_
  rintro _ ⟨_, ⟨family, rfl⟩, _, ⟨brackets, rfl⟩, rfl⟩
  exact ⟨⟨family, brackets⟩, rfl⟩

/-! ### Attributes -/

theorem reads_fraction (first : String) (found : Option String) :
    Reads (match found with
      | some second => Pure.pure (first ++ "." ++ second)
      | none => Pure.pure first : Parser String) 1 := by
  cases found <;> exact .pure _

theorem reads_atom : Reads atom (derived HashAtom.yield) := by
  have fraction := (reads_mark .dot).bind fun _ => reads_word
  have decimal (first : String) :=
    (fraction.optional (Token.isMark .dot)).bind (reads_fraction first)
  refine (Reads.choice _ reads_wordOrString (Reads.bind reads_word decimal)).mono ?_
  rintro _ ((⟨name, rfl⟩ | ⟨text, rfl⟩) | ⟨_, ⟨whole, rfl⟩, _, ⟨_, clause, _, rfl, rfl⟩, rfl⟩)
  · exact ⟨.word name, rfl⟩
  · exact ⟨.quoted text, rfl⟩
  · rcases clause with ⟨_, ⟨dot, rfl⟩, _, ⟨fraction, rfl⟩, rfl⟩ | rfl
    · exact ⟨.decimal whole dot fraction, rfl⟩
    · exact ⟨.word whole, rfl⟩

theorem reads_pair : Reads pair (derived HashPair.yield) := by
  refine (Reads.bind reads_atom fun key => (reads_mark .colon).bind fun _ =>
    Reads.bind_pure reads_atom fun content => (key, content)).mono ?_
  rintro _ ⟨_, ⟨key, rfl⟩, _, ⟨_, ⟨colon, rfl⟩, _, ⟨content, rfl⟩, rfl⟩, rfl⟩
  exact ⟨⟨key, colon, content⟩, by simp [HashPair.yield]⟩

instance : Nonempty (Table String String) := ⟨.empty⟩

theorem reads_hash : Reads hash (derived Hash.yield) := by
  have pairs := (reads_mark .comma).separated reads_pair (not_nil_mem_terminal_mul _ _)
  have items := (pairs.mono (chain_le Terminal.yield HashPair.yield)).bind fun found =>
    (reads_mark .closeBrace).bind_pure fun _ => Table.ofList found
  have empty := (reads_mark .closeBrace).bind_pure fun _ => (Table.empty : Table String String)
  refine ((reads_mark .openBrace).bind fun _ => .choice _ empty items).mono ?_
  rintro _ ⟨_, ⟨opening, rfl⟩, _, ⟨closing, rfl⟩ | ⟨_, ⟨pairs, rfl⟩, _, ⟨closing, rfl⟩, rfl⟩, rfl⟩
  · exact ⟨.empty opening closing, rfl⟩
  · exact ⟨.items opening pairs closing, rfl⟩

theorem reads_item : Reads item (derived ArrayItem.yield) := by
  refine (Reads.choice _ (.bind_pure reads_hash _) (.bind_pure reads_wordOrString _)).mono ?_
  rintro _ (⟨entries, rfl⟩ | ⟨name, rfl⟩ | ⟨text, rfl⟩)
  · exact ⟨.hash entries, rfl⟩
  · exact ⟨.word name, rfl⟩
  · exact ⟨.quoted text, rfl⟩

instance : Nonempty AttributeItem := ⟨.text ""⟩

instance : Nonempty AttributeValue := ⟨.text ""⟩

theorem reads_attributeValue : Reads attributeValue (derived PropertyValue.yield) := by
  have items := (reads_mark .comma).separated reads_item (not_nil_mem_terminal_mul _ _)
  have some := (items.mono (chain_le Terminal.yield ArrayItem.yield)).bind fun found =>
    (reads_mark .closeBracket).bind_pure fun _ => found
  have none := (reads_mark .closeBracket).bind_pure fun _ => ([] : List AttributeItem)
  have list : Reads list _ := (reads_mark .openBracket).bind fun _ => .choice _ none some
  have hash := Reads.bind_pure reads_hash fun entries => AttributeValue.list [.hash entries]
  have atom := Reads.bind_pure reads_atom AttributeValue.text
  refine (Reads.choice _ (list.bind_pure AttributeValue.list) (.choice _ hash atom)).mono ?_
  rintro _ (⟨_, ⟨opening, rfl⟩, _, array, rfl⟩ | ⟨entries, rfl⟩ | ⟨atom, rfl⟩)
  · rcases array with ⟨closing, rfl⟩ | ⟨_, ⟨items, rfl⟩, _, ⟨closing, rfl⟩, rfl⟩
    · exact ⟨.emptyArray opening closing, rfl⟩
    · exact ⟨.array opening items closing, rfl⟩
  · exact ⟨.hash entries, rfl⟩
  · cases atom with
    | word name => exact ⟨.word name, rfl⟩
    | quoted text => exact ⟨.quoted text, rfl⟩
    | decimal whole dot fraction => exact ⟨.decimal whole dot fraction, rfl⟩

theorem reads_namedValue : Reads namedValue (derived Property.yield) := by
  refine (Reads.bind reads_word fun name => (reads_mark .equal).bind fun _ =>
    Reads.bind_pure reads_attributeValue fun value => (Text.lowered name, value)).mono ?_
  rintro _ ⟨_, ⟨name, rfl⟩, _, ⟨_, ⟨equal, rfl⟩, _, ⟨content, rfl⟩, rfl⟩, rfl⟩
  exact ⟨⟨name, equal, content⟩, rfl⟩

theorem ruled_attribute (known : Attributes) (entry : String × AttributeValue) :
    Ruled (match known.get? entry.1 with
      | none => .ok (known.put entry.1 entry.2)
      | some _ => .error (.repeatedAttribute entry.1)) := by
  split
  · exact .ok _
  · exact .error trivial

theorem reads_nextAttribute (known : Attributes) :
    Reads (nextAttribute known) (reserved .and * derived Property.yield) := by
  have whole := (reads_keyword .and).bind fun _ => Reads.bind reads_namedValue fun entry =>
    .settle (fun token => token.isKeyword .and || endsCommand token) (ruled_attribute known entry)
  rwa [mul_one] at whole

theorem reads_attributes : Reads attributes (derived WithClause.yield) := by
  have more (known : Attributes) :=
    Reads.whileNext reads_nextAttribute (not_nil_mem_terminal_mul _ _) (Token.isKeyword .and) known
  refine (Reads.choice _ ((reads_keyword .with).bind fun _ =>
    Reads.bind reads_namedValue fun entry => more (Table.empty.put entry.1 entry.2))
      (.pure _)).mono ?_
  rintro _ (⟨_, ⟨lead, rfl⟩, _, chain, rfl⟩ | rfl)
  · obtain ⟨properties, rfl⟩ := chain_le Terminal.yield Property.yield chain
    exact ⟨.given lead properties, rfl⟩
  · exact ⟨.empty, rfl⟩

/-! ### Clauses -/

theorem ruled_integer (purpose word : String) : Ruled (integer purpose word) := by
  unfold integer
  split
  · exact .ok _
  · exact .error trivial

theorem reads_limit : Reads Parser.limit (derived LimitClause.yield) := by
  have ruled (amount : String) : Ruled (do
      let value ← integer "limit" amount
      if value ≤ 0 then throw (.limitNotPositive value amount)
      return value) := by
    refine (ruled_integer "limit" amount).bind fun value => ?_
    split
    · exact .error trivial
    · exact .ok _
  refine (Reads.optional _ ((reads_keyword .limit).bind fun _ =>
    Reads.bind reads_word fun amount => .settle _ (ruled amount))).mono ?_
  rw [mul_one]
  rintro _ (⟨_, ⟨lead, rfl⟩, _, ⟨amount, rfl⟩, rfl⟩ | rfl)
  · exact ⟨.given lead amount, rfl⟩
  · exact ⟨.empty, rfl⟩

theorem reads_timeToLive : Reads timeToLive (derived TtlClause.yield) := by
  have ruled (name amount : String) : Ruled (do
      if Text.lowered name ≠ "ttl" then throw (.unknownSetOption name)
      integer "ttl" amount) := by
    dsimp only
    split
    · exact .error trivial
    · exact ruled_integer "ttl" amount
  refine (Reads.optional _ ((reads_keyword .with).bind fun _ => Reads.bind reads_word fun name =>
    (reads_mark .equal).bind fun _ => Reads.bind reads_word fun amount =>
      .settle _ (ruled name amount))).mono ?_
  rw [mul_one]
  rintro _ (⟨_, ⟨lead, rfl⟩, _, ⟨_, ⟨name, rfl⟩, _, ⟨_, ⟨equal, rfl⟩, _, ⟨amount, rfl⟩, rfl⟩, rfl⟩,
    rfl⟩ | rfl)
  · exact ⟨.given lead name equal amount, rfl⟩
  · exact ⟨.empty, rfl⟩

theorem reads_amount : Reads amount (derived ByClause.yield) := by
  refine ((Reads.optional _ ((reads_keyword .by).bind fun _ => Reads.bind reads_word fun word =>
    .settle endsCommand (ruled_integer "by" word))).bind_pure fun given => given.getD 1).mono ?_
  rw [mul_one]
  rintro _ (⟨_, ⟨lead, rfl⟩, _, ⟨amount, rfl⟩, rfl⟩ | rfl)
  · exact ⟨.given lead amount, rfl⟩
  · exact ⟨.empty, rfl⟩

theorem reads_asValidator : Reads asValidator (derived AsClause.yield) := by
  refine (Reads.optional _ ((reads_keyword .as).bind fun _ => reads_word)).mono ?_
  rintro _ (⟨_, ⟨lead, rfl⟩, _, ⟨validator, rfl⟩, rfl⟩ | rfl)
  · exact ⟨.given lead validator, rfl⟩
  · exact ⟨.empty, rfl⟩

instance : Nonempty Comparison := ⟨.equal⟩

instance : Nonempty WideColumn.Condition := ⟨⟨.plain "", .equal, .plain ""⟩⟩

theorem reads_comparison : Reads comparison
    (derived fun entry : (shown : Comparison) × Sign (comparisonMark shown) => entry.2.yield) := by
  have single (mark : Mark) (shown : Comparison) := (reads_mark mark).bind_pure fun _ => shown
  refine (Reads.choice _ (single .equal .equal) <| .choice _ (single .greater .greater) <|
    .choice _ (single .greaterEqual .greaterEqual) <| .choice _ (single .less .less)
      (single .lessEqual .lessEqual)).mono ?_
  rintro _ (⟨sign, rfl⟩ | ⟨sign, rfl⟩ | ⟨sign, rfl⟩ | ⟨sign, rfl⟩ | ⟨sign, rfl⟩)
  · exact ⟨⟨.equal, sign⟩, rfl⟩
  · exact ⟨⟨.greater, sign⟩, rfl⟩
  · exact ⟨⟨.greaterEqual, sign⟩, rfl⟩
  · exact ⟨⟨.less, sign⟩, rfl⟩
  · exact ⟨⟨.lessEqual, sign⟩, rfl⟩

theorem reads_condition : Reads condition (derived Condition.yield) := by
  refine (Reads.bind reads_literal fun column => Reads.bind reads_comparison fun comparison =>
    Reads.bind_pure reads_literal (WideColumn.Condition.mk column comparison)).mono ?_
  rintro _ ⟨_, ⟨column, rfl⟩, _, ⟨_, ⟨⟨shown, sign⟩, rfl⟩, _, ⟨content, rfl⟩, rfl⟩, rfl⟩
  exact ⟨⟨column, shown, sign, content⟩, by simp [Condition.yield]⟩

theorem reads_conditions : Reads conditions (derived ConditionList.yield) := by
  have others := ((reads_keyword .and).bind fun _ => reads_condition).many (Token.isKeyword .and)
    (not_nil_mem_terminal_mul _ _)
  exact (Reads.bind reads_condition fun first => others.bind_pure (first :: ·)).mono
    (chain_le Terminal.yield Condition.yield)

theorem reads_range : Reads range (derived RangeClause.yield) := by
  have bound (closing : Mark) : Reads
      (Parser.optional (fun token => !token.isMark closing) Parser.literal)
      (derived RangeBound.yield) := by
    refine (Reads.optional _ reads_literal).mono ?_
    rintro _ (⟨literal, rfl⟩ | rfl)
    · exact ⟨.given literal, rfl⟩
    · exact ⟨.empty, rfl⟩
  refine (Reads.choice _ ((reads_mark .openBracket).bind fun _ => (bound .colon).bind fun start =>
    (reads_mark .colon).bind fun _ => (bound .closeBracket).bind fun stop =>
      (reads_mark .closeBracket).bind_pure fun _ => (start, stop)) (.pure _)).mono ?_
  rintro _ (⟨_, ⟨opening, rfl⟩, _, ⟨_, ⟨start, rfl⟩, _, ⟨_, ⟨colon, rfl⟩, _, ⟨_, ⟨stop, rfl⟩, _,
    ⟨closing, rfl⟩, rfl⟩, rfl⟩, rfl⟩, rfl⟩ | rfl)
  · exact ⟨.given opening start colon stop closing, by simp [RangeClause.yield]⟩
  · exact ⟨.empty, rfl⟩

theorem reads_host : Reads host (derived Host.yield) := by
  have more (first : String) := Reads.whileNext
    (fun name => (reads_mark .dot).bind fun _ =>
      Reads.bind_pure reads_word fun word => name ++ "." ++ word)
    (not_nil_mem_terminal_mul _ _) (Token.isMark .dot) first
  exact (Reads.bind reads_word more).mono (chain_le Terminal.yield Word.yield)

/-! ### Lists of words -/

theorem reads_words : Reads (many Token.isWord Parser.word) words∗ := by
  refine Reads.many Token.isWord reads_word ?_
  rintro ⟨word, same⟩
  cases same

/-- The grammar has no empty lists of words, but productions of their own for no words. -/
theorem star_words_le : words∗ ≤ 1 + derived WordList.yield := by
  rw [← Language.one_add_self_mul_kstar_eq_kstar]
  exact add_le_add_right (adjacent_le Word.yield) 1

theorem ruled_describeTarget (words : List String) : Ruled (describeTarget words) := by
  unfold describeTarget
  split
  all_goals first
    | exact .ok _
    | exact .error trivial

theorem ruled_showTarget (words : List String) : Ruled (showTarget words) := by
  unfold showTarget
  dsimp only
  split
  · exact .ok _
  · exact .error trivial

/-! ### Commands -/

/-- What stands behind the keyword of a command. -/
def behind (keyword : Keyword) : Language Token :=
  {tokens | ∀ lead : Reserved keyword, ∃ tree : Command, tree.yield = lead.token :: tokens}

instance : Nonempty DescribeTarget := ⟨.cluster⟩

instance : Nonempty ShowTarget := ⟨.keyspaces⟩

theorem reads_definition (ofKeyspace ofFamily : String → Attributes → WideColumn.Command) :
    Reads (definition ofKeyspace ofFamily)
      (reserved .keyspace * (words * derived WithClause.yield) +
        reserved .column * (reserved .family * (words * derived WithClause.yield))) :=
  .choice _
    ((reads_keyword .keyspace).bind fun _ => Reads.bind reads_word fun name =>
      Reads.bind_pure reads_attributes (ofKeyspace name))
    ((reads_keyword .column).bind fun _ => (reads_keyword .family).bind fun _ =>
      Reads.bind reads_word fun name => Reads.bind_pure reads_attributes (ofFamily name))

theorem reads_dropTarget : Reads dropTarget (behind .drop) := by
  have keyspace := (reads_keyword .keyspace).bind fun _ =>
    Reads.bind_pure reads_word WideColumn.Command.dropKeyspace
  have family := (reads_keyword .column).bind fun _ => (reads_keyword .family).bind fun _ =>
    Reads.bind_pure reads_word WideColumn.Command.dropFamily
  have index := (reads_keyword .index).bind fun _ => (reads_keyword .on).bind fun _ =>
    Reads.bind reads_word fun family => (reads_mark .dot).bind fun _ =>
      Reads.bind_pure reads_literal (WideColumn.Command.dropIndex family)
  refine (Reads.choice _ keyspace (.choice _ family index)).mono ?_
  rintro _ (⟨_, ⟨kind, rfl⟩, _, ⟨name, rfl⟩, rfl⟩ |
    ⟨_, ⟨column, rfl⟩, _, ⟨_, ⟨family, rfl⟩, _, ⟨name, rfl⟩, rfl⟩, rfl⟩ |
    ⟨_, ⟨index, rfl⟩, _, ⟨_, ⟨on, rfl⟩, _, ⟨_, ⟨family, rfl⟩, _, ⟨_, ⟨dot, rfl⟩, _, ⟨column, rfl⟩,
      rfl⟩, rfl⟩, rfl⟩, rfl⟩) lead
  · exact ⟨.dropKeyspace lead kind name, rfl⟩
  · exact ⟨.dropFamily lead column family name, rfl⟩
  · exact ⟨.dropIndex lead index on family dot column, rfl⟩

theorem reads_getTarget : Reads getTarget (behind .get) := by
  have addressed (family : String) := (reads_addressIn family).bind fun address =>
    Reads.bind reads_asValidator fun validator =>
      Reads.bind_pure reads_limit (WideColumn.Command.get address validator)
  have conditional (family : String) := (reads_keyword .where).bind fun _ =>
    Reads.bind reads_conditions fun conditions =>
      Reads.bind_pure reads_limit (WideColumn.Command.getWhere family conditions)
  refine (Reads.bind reads_word fun family =>
    .choice _ (addressed family) (conditional family)).mono ?_
  rintro _ ⟨_, ⟨family, rfl⟩, _,
    ⟨_, ⟨brackets, rfl⟩, _, ⟨_, ⟨validator, rfl⟩, _, ⟨limit, rfl⟩, rfl⟩, rfl⟩ |
    ⟨_, ⟨link, rfl⟩, _, ⟨_, ⟨conditions, rfl⟩, _, ⟨limit, rfl⟩, rfl⟩, rfl⟩, rfl⟩ lead
  · exact ⟨.get lead ⟨family, brackets⟩ validator limit,
      by simp [Command.yield, Terminal.yield, ColumnRef.yield]⟩
  · exact ⟨.getWhere lead family link conditions limit, rfl⟩

/-- Behind its keyword a command is read up to where no command has the next token. -/
theorem reads_commandAfter {keyword : Keyword} (begins : beginsCommand keyword = true) :
    Reads (commandAfter keyword) (behind keyword) := by
  cases keyword with
  | use =>
    refine (Reads.bind_pure reads_wordOrString WideColumn.Command.use).mono ?_
    rintro _ (⟨name, rfl⟩ | ⟨name, rfl⟩) lead
    · exact ⟨.useWord lead name, rfl⟩
    · exact ⟨.useQuoted lead name, rfl⟩
  | create =>
    refine (reads_definition _ _).mono ?_
    rintro _ (⟨_, ⟨kind, rfl⟩, _, ⟨_, ⟨name, rfl⟩, _, ⟨attributes, rfl⟩, rfl⟩, rfl⟩ |
      ⟨_, ⟨column, rfl⟩, _, ⟨_, ⟨family, rfl⟩, _, ⟨_, ⟨name, rfl⟩, _, ⟨attributes, rfl⟩, rfl⟩, rfl⟩,
        rfl⟩) lead
    · exact ⟨.createKeyspace lead kind name attributes, rfl⟩
    · exact ⟨.createFamily lead column family name attributes,
        rfl⟩
  | update =>
    refine (reads_definition _ _).mono ?_
    rintro _ (⟨_, ⟨kind, rfl⟩, _, ⟨_, ⟨name, rfl⟩, _, ⟨attributes, rfl⟩, rfl⟩, rfl⟩ |
      ⟨_, ⟨column, rfl⟩, _, ⟨_, ⟨family, rfl⟩, _, ⟨_, ⟨name, rfl⟩, _, ⟨attributes, rfl⟩, rfl⟩, rfl⟩,
        rfl⟩) lead
    · exact ⟨.updateKeyspace lead kind name attributes, rfl⟩
    · exact ⟨.updateFamily lead column family name attributes,
        rfl⟩
  | drop => exact reads_dropTarget
  | assume =>
    refine (Reads.bind reads_word fun family => Reads.bind reads_word fun kind =>
      (reads_keyword .as).bind fun _ =>
        Reads.bind_pure reads_word (WideColumn.Command.assume family (Text.lowered kind))).mono ?_
    rintro _ ⟨_, ⟨family, rfl⟩, _, ⟨_, ⟨kind, rfl⟩, _, ⟨_, ⟨link, rfl⟩, _, ⟨validator, rfl⟩, rfl⟩,
      rfl⟩, rfl⟩ lead
    exact ⟨.assume lead family kind link validator, rfl⟩
  | set =>
    refine (Reads.bind reads_address fun address => (reads_mark .equal).bind fun _ =>
      Reads.bind reads_literal fun content =>
        Reads.bind_pure reads_timeToLive (WideColumn.Command.set address content)).mono ?_
    rintro _ ⟨_, ⟨address, rfl⟩, _, ⟨_, ⟨equal, rfl⟩, _, ⟨_, ⟨content, rfl⟩, _, ⟨ttl, rfl⟩, rfl⟩,
      rfl⟩, rfl⟩ lead
    exact ⟨.set lead address equal content ttl, by simp [Command.yield, Terminal.yield]⟩
  | get => exact reads_getTarget
  | del =>
    refine (Reads.bind_pure reads_address WideColumn.Command.del).mono ?_
    rintro _ ⟨address, rfl⟩ lead
    exact ⟨.del lead address, rfl⟩
  | incr =>
    refine (Reads.bind reads_address fun address =>
      Reads.bind_pure reads_amount (WideColumn.Command.incr address)).mono ?_
    rintro _ ⟨_, ⟨address, rfl⟩, _, ⟨amount, rfl⟩, rfl⟩ lead
    exact ⟨.incr lead address amount, rfl⟩
  | decr =>
    refine (Reads.bind reads_address fun address =>
      Reads.bind_pure reads_amount (WideColumn.Command.decr address)).mono ?_
    rintro _ ⟨_, ⟨address, rfl⟩, _, ⟨amount, rfl⟩, rfl⟩ lead
    exact ⟨.decr lead address amount, rfl⟩
  | count =>
    refine (Reads.bind_pure reads_address WideColumn.Command.count).mono ?_
    rintro _ ⟨address, rfl⟩ lead
    exact ⟨.count lead address, rfl⟩
  | list =>
    refine (Reads.bind reads_word fun family => Reads.bind reads_range fun bounds =>
      Reads.bind_pure reads_limit (WideColumn.Command.list family bounds.1 bounds.2)).mono ?_
    rintro _ ⟨_, ⟨family, rfl⟩, _, ⟨_, ⟨range, rfl⟩, _, ⟨limit, rfl⟩, rfl⟩, rfl⟩ lead
    exact ⟨.list lead family range limit, rfl⟩
  | truncate =>
    refine (Reads.bind_pure reads_word WideColumn.Command.truncate).mono ?_
    rintro _ ⟨family, rfl⟩ lead
    exact ⟨.truncate lead family, rfl⟩
  | describe =>
    refine (Reads.bind reads_words fun words => (Reads.settle endsCommand
      (ruled_describeTarget words)).bind_pure WideColumn.Command.describe).mono ?_
    rw [mul_one]
    intro tokens mem lead
    rcases star_words_le mem with rfl | ⟨words, rfl⟩
    · exact ⟨.describe lead, rfl⟩
    · exact ⟨.describeWords lead words, rfl⟩
  | «show» =>
    refine (Reads.bind reads_word fun first => Reads.bind reads_words fun others =>
      (Reads.settle endsCommand
        (ruled_showTarget (first :: others))).bind_pure WideColumn.Command.show).mono ?_
    rw [mul_one]
    intro tokens mem lead
    obtain ⟨words, rfl⟩ := adjacent_le Word.yield mem
    exact ⟨.show lead words, rfl⟩
  | help =>
    refine (Reads.bind_pure reads_words fun words =>
      WideColumn.Command.help (words.map Text.lowered)).mono ?_
    intro tokens mem lead
    rcases star_words_le mem with rfl | ⟨words, rfl⟩
    · exact ⟨.help lead, rfl⟩
    · exact ⟨.helpWords lead words, rfl⟩
  | connect =>
    refine (Reads.bind reads_host fun host => (reads_mark .slash).bind fun _ =>
      Reads.bind reads_word fun port =>
        (Reads.settle endsCommand (ruled_integer "port" port)).bind_pure
          (WideColumn.Command.connect host)).mono ?_
    rw [mul_one]
    rintro _ ⟨_, ⟨host, rfl⟩, _, ⟨_, ⟨slash, rfl⟩, _, ⟨port, rfl⟩, rfl⟩, rfl⟩ lead
    exact ⟨.connect lead host slash port, by simp [Command.yield, Terminal.yield]⟩
  | exit =>
    refine (Reads.pure _).mono ?_
    rintro _ rfl lead
    exact ⟨.exit lead, rfl⟩
  | quit =>
    refine (Reads.pure _).mono ?_
    rintro _ rfl lead
    exact ⟨.quit lead, rfl⟩
  -- The keywords that are left lead no command.
  | _ => cases begins

theorem reads_command : Reads Parser.command (derived Command.yield) := by
  have nonempty : ∃ tokens, tokens ∈ derived Command.yield :=
    ⟨_, .exit ⟨⟨.keyword .exit, [], 0⟩, rfl⟩, rfl⟩
  have question := (reads_mark .question).bind_pure fun _ => WideColumn.Command.help []
  refine (Reads.choice _ question ⟨nonempty, fun tokens => ?_⟩).mono ?_
  · cases tokens with
    | nil =>
      refine .of_refused nonempty fun more next => ?_
      rw [List.head?_eq_none_iff.1 next]
      rfl
    | cons token rest =>
      cases kind : token.kind with
      | keyword keyword =>
        cases begins : beginsCommand keyword with
        | true =>
          refine ((reads_commandAfter begins).runs rest).cons token (fun more => ?_)
            fun tokens behind => behind ⟨token, kind⟩
          simp [Parser.take, kind, begins]
        | false =>
          refine .of_refused nonempty fun more next => ?_
          obtain ⟨left, rfl⟩ := List.head?_eq_some_iff.1 next
          simp [Parser.take, kind, begins, refuse]
      | _ =>
        refine .of_refused nonempty fun more next => ?_
        obtain ⟨left, rfl⟩ := List.head?_eq_some_iff.1 next
        simp [Parser.take, kind, refuse]
  · rintro _ (⟨mark, rfl⟩ | derivable)
    · exact ⟨.question mark, rfl⟩
    · exact derivable

instance : Nonempty WideColumn.Command := ⟨.exit⟩

/-- A command is all that is read. -/
theorem reads_end (command : WideColumn.Command) : Reads (fun tokens => match tokens with
    | [] => .ok (command, [])
    | _ => refuse tokens : Parser WideColumn.Command) 1 := by
  refine ⟨⟨[], rfl⟩, fun tokens => ?_⟩
  cases tokens with
  | nil =>
    refine .accepts [] command rfl fun more next => ?_
    rw [List.head?_eq_none_iff.1 next]
    rfl
  | cons token others =>
    refine .of_refused ⟨[], rfl⟩ fun more next => ?_
    obtain ⟨left, rfl⟩ := List.head?_eq_some_iff.1 next
    rfl

/-- A statement is read up to the first token that no statement has there. -/
theorem reads_statement : Reads Parser.statement (derived Statement.yield) := by
  refine (Reads.bind reads_command fun command =>
    ((reads_mark .semicolon).optional endsCommand).bind fun _ => reads_end command).mono ?_
  rw [mul_one]
  rintro _ ⟨_, ⟨command, rfl⟩, _, ⟨semicolon, rfl⟩ | rfl, rfl⟩
  · exact ⟨.closed command semicolon, rfl⟩
  · exact ⟨.bare command, (List.append_nil _).symm⟩

/-! ### Refusals -/

/-- Tokens that can be completed to a statement. -/
def Viable (tokens : List Token) : Prop :=
  ∃ more, ∃ tree : Statement, tree.yield = tokens ++ more

variable {tokens rest : List Token}

/-- What is refused stands behind tokens that can be completed, but not by anything that begins with
the same token. -/
theorem viable_of_refused (refused : Parser.statement tokens = .error (.unexpected rest)) :
    ∃ taken, tokens = taken ++ rest ∧ Viable taken ∧
      ∀ more, more.head? = rest.head? → ∀ tree : Statement, tree.yield ≠ taken ++ more := by
  cases reads_statement.runs tokens with
  | @accepts taken left value complete ahead =>
    rw [ahead left rfl] at refused
    cases refused
  | @refuses taken left begun ahead =>
    rw [ahead left rfl] at refused
    cases refused
    refine ⟨taken, rfl, begun, fun more next tree same => ?_⟩
    have settles := statement_yield tree
    rw [same, ahead more next] at settles
    cases valued : tree.value <;> rw [valued] at settles <;> cases settles
  | breaks rule broken =>
    rw [broken] at refused
    cases refused

theorem isRule_of_cause {failure : ParseFailure}
    (failed : Parser.statement tokens = .error (.cause failure)) : IsRule failure := by
  cases reads_statement.runs tokens with
  | @accepts taken left value complete ahead =>
    rw [ahead left rfl] at failed
    cases failed
  | @refuses taken left begun ahead =>
    rw [ahead left rfl] at failed
    cases failed
  | breaks rule broken =>
    rw [broken] at failed
    cases failed
    exact rule

end WideColumn.Grammar

namespace WideColumn.Command

open Grammar WideColumn.Parser

variable {text : String} {tokens : List Token} {failure : ParseFailure}

/-- A text fails for no rule only if the parser of statements refuses its tokens. -/
theorem refused_of_parse (tokenized : Token.tokenize text = .ok tokens)
    (failed : parse text = .error (.parse failure)) (noRule : ¬IsRule failure) :
    ∃ rest, Parser.statement tokens = .error (.unexpected rest) ∧
      failureOf text.toList (.unexpected rest) = failure := by
  have read : Token.read text.toList = tokens := by
    rw [Token.tokenize] at tokenized
    split at tokenized
    · cases tokenized
    · exact Except.ok.inj tokenized
  rw [parse] at failed
  split at failed
  · cases failed
    exact absurd trivial noRule
  · rw [read, ofTokens] at failed
    cases run : Parser.statement tokens with
    | ok found =>
      rw [run] at failed
      cases failed
    | error refusal =>
      rw [run] at failed
      cases failed
      cases refusal with
      | unexpected rest => exact ⟨rest, rfl, rfl⟩
      | cause failure => exact absurd (isRule_of_cause run) noRule

theorem failureOf_cons {token : Token} (readable : token.kind ≠ .unreadable) (rest : List Token)
    (chars : List Char) : failureOf chars (.unexpected (token :: rest)) =
      .unexpectedToken token.value token.position
        (String.ofList ((chars.drop token.position).take Token.excerptLength)) :=
  if_neg (by simpa using readable)

/-- A failure at a token stands at the first token with which those up to it cannot be completed to a
statement. A failure at the end stands behind tokens that can be completed and are no statement. -/
theorem parse_unexpected (text : String) (tokens : List Token)
    (tokenized : Token.tokenize text = .ok tokens) :
    (∀ value position excerpt,
      parse text = .error (.parse (.unexpectedToken value position excerpt)) →
      ∃ before token after, tokens = before ++ token :: after ∧
        token.value = value ∧ token.position = position ∧
        (∀ earlier ∈ before, earlier.position < position) ∧
        (∀ later ∈ after, position < later.position) ∧
        Viable before ∧ ¬Viable (before ++ [token])) ∧
    ∀ excerpt, parse text = .error (.parse (.unexpectedEnd excerpt)) →
      Viable tokens ∧ ∀ tree : Statement, tree.yield ≠ tokens := by
  have covers := Token.covers_of_tokenize tokenized
  refine ⟨fun value position excerpt failed => ?_, fun excerpt failed => ?_⟩
  · obtain ⟨rest, refused, same⟩ := refused_of_parse tokenized failed id
    obtain ⟨before, rfl, viable, impossible⟩ := viable_of_refused refused
    cases rest with
    | nil => cases same
    | cons token after =>
      rw [failureOf_cons (covers.readable token (by simp))] at same
      cases same
      obtain ⟨-, behind, across⟩ := List.pairwise_append.1 covers.increasing
      refine ⟨before, token, after, rfl, rfl, rfl,
        fun earlier mem => across earlier mem token List.mem_cons_self,
        (List.pairwise_cons.1 behind).1, viable, ?_⟩
      rintro ⟨more, tree, derived⟩
      rw [List.append_assoc] at derived
      exact impossible (token :: more) rfl tree derived
  · obtain ⟨rest, refused, same⟩ := refused_of_parse tokenized failed id
    obtain ⟨before, rfl, viable, impossible⟩ := viable_of_refused refused
    cases rest with
    | nil =>
      rw [List.append_nil]
      exact ⟨viable, fun tree same => impossible [] rfl tree (by rw [same, List.append_nil])⟩
    | cons token after =>
      rw [failureOf_cons (covers.readable token (by simp))] at same
      cases same

/-- In `get a[b] c` the last word is impossible, and without it the statement is complete; behind
`get a[` it is not. -/
theorem parse_unexpected_get :
    let front : List Token := [⟨.keyword .get, ['g', 'e', 't'], 0⟩, ⟨.word, ['a'], 4⟩,
      ⟨.mark .openBracket, ['['], 5⟩, ⟨.word, ['b'], 6⟩, ⟨.mark .closeBracket, [']'], 7⟩]
    let last : Token := ⟨.word, ['c'], 9⟩
    (parse "get a[b] c" = .error (.parse (.unexpectedToken "c" 9 "c")) ∧
      Viable front ∧ ¬Viable (front ++ [last])) ∧
    parse "get a[" = .error (.parse (.unexpectedEnd "get a[")) ∧ Viable (front.take 3) ∧
      ∀ tree : Statement, tree.yield ≠ front.take 3 := by
  intro front last
  have tokenized : Token.tokenize "get a[b] c" = .ok (front ++ [last]) := by decide +kernel
  have failed : parse "get a[b] c" = .error (.parse (.unexpectedToken "c" 9 "c")) := by
    decide +kernel
  have opened : Token.tokenize "get a[" = .ok (front.take 3) := by decide +kernel
  have ended : parse "get a[" = .error (.parse (.unexpectedEnd "get a[")) := by decide +kernel
  obtain ⟨before, token, after, same, -, position, below, above, viable, impossible⟩ :=
    (parse_unexpected _ _ tokenized).1 _ _ _ failed
  -- The token at position 9 is the last one.
  obtain ⟨rfl, rfl, rfl⟩ := (List.append_cons_inj_of_notMem
    (fun mem => (below last mem).false) (fun mem => (above last mem).false)).1 same.symm
  exact ⟨⟨failed, viable, impossible⟩, ended, (parse_unexpected _ _ opened).2 _ ended⟩

end WideColumn.Command
