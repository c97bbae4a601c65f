import WideColumn.Proofs.Grammar.Follow

/-!
# The parser reads every derivation tree

For each nonterminal: its parser, in front of the tokens of a tree, takes exactly these tokens and
gives the value of the tree, a failure included. What comes after the tree must not be able to
continue it, which is a condition on the next token alone.

From this the parser of statements gives, on the tokens of a derivation, the value of the
derivation (`statement_yield`).
-/

namespace WideColumn.Grammar

open WideColumn.Parser

/-! ### Terminals -/

@[simp] theorem keyword_token {keyword : Keyword} (terminal : Reserved keyword)
    (rest : List Token) : Parser.keyword keyword (terminal.token :: rest) = .ok ((), rest) := by
  simp [Parser.keyword]

@[simp] theorem mark_token {mark : Mark} (sign : Sign mark) (rest : List Token) :
    Parser.mark mark (sign.token :: rest) = .ok ((), rest) := by
  simp [Parser.mark]

@[simp] theorem word_token (name : Word) (rest : List Token) :
    Parser.word (name.token :: rest) = .ok (name.value, rest) := by
  simp [Parser.word, Word.value]

@[simp] theorem wordOrString_word (name : Word) (rest : List Token) :
    wordOrString (name.token :: rest) = .ok (name.value, rest) := by
  simp [wordOrString, Word.value]

@[simp] theorem wordOrString_quoted (text : Quoted) (rest : List Token) :
    wordOrString (text.token :: rest) = .ok (text.value, rest) := by
  simp [wordOrString, Terminal.value]

/-! ### Lists -/

/-- One or more items with signs between them are read if each of them is. -/
theorem separated_tokens {Item α : Type} {mark : Mark} {item : Parser α}
    {itemYield : Item → List Token} {value : Item → α} {stops : List Token → Prop}
    (reads : ∀ tree rest, stops rest → item (itemYield tree ++ rest) = .ok (value tree, rest))
    (between : ∀ (sign : Sign mark) rest, stops (sign.token :: rest))
    (chain : Chain (Sign mark) Item) {rest : List Token} (last : stops rest)
    (ends : rest.head?.any (Token.isMark mark) = false) :
    separated mark item (chain.tokens Terminal.yield itemYield ++ rest) =
      .ok (chain.values value, rest) := by
  have readsEntry : ∀ (entry : Sign mark × Item) rest, stops rest →
      (do Parser.mark mark; item) (entry.1.yield ++ itemYield entry.2 ++ rest) =
        .ok (value entry.2, rest) := by
    intro entry rest h
    simp [Terminal.yield, reads entry.2 rest h]
  have others : many (Token.isMark mark) (do Parser.mark mark; item)
      (chain.others.flatMap (fun entry => entry.1.yield ++ itemYield entry.2) ++ rest) =
        .ok (chain.others.map fun entry => value entry.2, rest) := by
    refine many_items ?_ readsEntry ?_ last ends chain.others
    · intro entry rest
      simp [Terminal.yield]
    · intro entry rest
      exact between entry.1 _
  have first : stops
      (chain.others.flatMap (fun entry => entry.1.yield ++ itemYield entry.2) ++ rest) :=
    stops_flatMap (fun entry _ => between entry.1 _) last chain.others
  rw [Chain.tokens_eq, List.append_assoc, Chain.values_eq]
  simp only [separated, bind_apply, reads chain.first _ first, others, pure_apply]

/-- Words in a row are read up to the first token that is none. -/
theorem many_words (words : List Word) (rest : List Token)
    (ends : Without Token.isWord rest) :
    many Token.isWord Parser.word (words.flatMap Word.yield ++ rest) =
      .ok (words.map Word.value, rest) := by
  refine many_items (fun word rest => ?_) (fun word rest (_ : True) => ?_) (fun _ _ => trivial)
    trivial ends words
  · simp [Word.yield]
  · simp [Word.yield]

/-- A list of words is read up to the first token that is none. -/
theorem words_yield (words : WordList) (rest : List Token)
    (ends : Without Token.isWord rest) :
    many Token.isWord Parser.word (words.yield ++ rest) = .ok (words.values Word.value, rest) := by
  rw [words.yield_eq, many_words _ rest ends, Chain.map_values]

/-! ### Literals and addresses -/

theorem literal_yield (tree : Literal) (rest : List Token)
    (ends : Without (Token.isMark .openParen) rest) :
    literal (tree.yield ++ rest) = .ok (tree.value, rest) := by
  cases tree <;>
    simp [Literal.yield, Terminal.yield, Word.yield, Literal.value, literal, Parser.optional,
      castArgument, ends]

theorem bracketed_yield (tree : Bracketed) (rest : List Token) :
    bracketed (tree.yield ++ rest) = .ok (tree.literal.value, rest) := by
  have inner : literal (tree.literal.yield ++ tree.closing.token :: rest) =
      .ok (tree.literal.value, tree.closing.token :: rest) :=
    literal_yield tree.literal _ (by simp)
  simp [Bracketed.yield, Terminal.yield, bracketed, inner]

/-- The key and the columns of an address are read, whatever family they are in. -/
theorem addressIn_yield (family : Word) (brackets : BracketList) (rest : List Token)
    (ends : Follows addressEnd rest) :
    addressIn family.value (brackets.yield ++ rest) =
      settled (ColumnRef.value ⟨family, brackets⟩) rest := by
  have columns : many (Token.isMark .openBracket) bracketed
      (brackets.others.flatMap (fun entry => entry.2.yield) ++ rest) =
        .ok (brackets.others.map fun entry => entry.2.literal.value, rest) := by
    refine many_items (fun entry rest => ?_)
      (fun entry rest (_ : True) => bracketed_yield entry.2 rest) (fun _ _ => trivial) trivial
      (ends.not_mark (by decide)) _
    simp [Bracketed.yield, Terminal.yield]
  rw [BracketList.yield, Chain.adjacent_eq, List.append_assoc]
  simp only [addressIn, bind_apply, bracketed_yield]
  rw [columns]
  simp only
  exact settle_of_follows (all_followsAddress ends) _

theorem address_yield (tree : ColumnRef) (rest : List Token)
    (ends : Follows addressEnd rest) :
    address (tree.yield ++ rest) = settled tree.value rest := by
  simp [ColumnRef.yield, Word.yield, address, addressIn_yield tree.family tree.brackets rest ends]

/-! ### Attributes -/

theorem atom_yield (tree : HashAtom) (rest : List Token)
    (ends : Without (Token.isMark .dot) rest) :
    atom (tree.yield ++ rest) = .ok (tree.value, rest) := by
  cases tree <;>
    simp [HashAtom.yield, Terminal.yield, Word.yield, HashAtom.value, atom, Parser.optional, ends]

theorem pair_yield (tree : HashPair) (rest : List Token)
    (ends : Without (Token.isMark .dot) rest) :
    pair (tree.yield ++ rest) = .ok (tree.value, rest) := by
  have key : atom (tree.key.yield ++ tree.colon.token :: (tree.content.yield ++ rest)) =
      .ok (tree.key.value, tree.colon.token :: (tree.content.yield ++ rest)) :=
    atom_yield tree.key _ (by simp)
  have content : atom (tree.content.yield ++ rest) = .ok (tree.content.value, rest) :=
    atom_yield tree.content rest ends
  simp [HashPair.yield, Terminal.yield, HashPair.value, pair, key, content]

theorem hash_yield (tree : Hash) (rest : List Token) :
    Parser.hash (tree.yield ++ rest) = .ok (tree.value, rest) := by
  cases tree with
  | empty opening closing => simp [Hash.yield, Terminal.yield, Hash.value, Parser.hash]
  | items opening pairs closing =>
    have inner : separated .comma pair (pairs.yield ++ closing.token :: rest) =
        .ok (pairs.values HashPair.value, closing.token :: rest) :=
      separated_tokens pair_yield (by simp) pairs (by simp) (by simp)
    simp [-List.head?_append, Hash.yield, Terminal.yield, Hash.value, Parser.hash, inner,
      HashItems.head_yield]

theorem item_yield (tree : ArrayItem) (rest : List Token) :
    item (tree.yield ++ rest) = .ok (tree.value, rest) := by
  cases tree with
  | hash entries =>
    simp [-List.head?_append, ArrayItem.yield, ArrayItem.value, item, Hash.head_yield, hash_yield]
  | word name => simp [ArrayItem.yield, Word.yield, ArrayItem.value, item]
  | quoted text => simp [ArrayItem.yield, Terminal.yield, ArrayItem.value, item]

theorem list_yield (opening : Sign .openBracket) (items : ArrayItems)
    (closing : Sign .closeBracket) (rest : List Token) :
    Parser.list (opening.token :: (items.yield ++ closing.token :: rest)) =
      .ok (items.values ArrayItem.value, rest) := by
  have inner : separated .comma item (items.yield ++ closing.token :: rest) =
      .ok (items.values ArrayItem.value, closing.token :: rest) :=
    separated_tokens (fun tree rest (_ : True) => item_yield tree rest) (fun _ _ => trivial)
      items trivial (by simp)
  simp [-List.head?_append, Parser.list, inner, ArrayItems.head_yield]

theorem attributeValue_yield (tree : PropertyValue) {rest : List Token}
    (ends : Without (Token.isMark .dot) rest) :
    attributeValue (tree.yield ++ rest) = .ok (tree.value, rest) := by
  cases tree with
  | word name =>
    simp [PropertyValue.yield, Word.yield, PropertyValue.value, attributeValue, atom,
      Parser.optional, ends]
  | quoted text =>
    simp [PropertyValue.yield, Terminal.yield, PropertyValue.value, attributeValue, atom]
  | decimal whole dot fraction =>
    simp [PropertyValue.yield, Terminal.yield, Word.yield, PropertyValue.value, attributeValue,
      atom, Parser.optional]
  | emptyArray opening closing =>
    simp [PropertyValue.yield, Terminal.yield, PropertyValue.value, attributeValue, Parser.list]
  | array opening items closing =>
    simp [PropertyValue.yield, Terminal.yield, PropertyValue.value, attributeValue, list_yield]
  | hash entries =>
    simp [-List.head?_append, PropertyValue.yield, PropertyValue.value, attributeValue,
      Hash.head_yield, hash_yield]

theorem namedValue_yield (tree : Property) {rest : List Token}
    (ends : Without (Token.isMark .dot) rest) :
    namedValue (tree.yield ++ rest) = .ok (tree.value, rest) := by
  simp [Property.yield, Terminal.yield, Word.yield, Property.value, namedValue,
    attributeValue_yield tree.content ends]

/-- Each further attribute is read where an attribute can end. -/
theorem nextAttribute_yield (known : Attributes) (link : Reserved .and) (property : Property)
    {rest : List Token} (ends : Follows attributeEnd rest) :
    nextAttribute known (link.yield ++ property.yield ++ rest) =
      settled (property.addTo known) rest := by
  have content : namedValue (property.yield ++ rest) = .ok (property.value, rest) :=
    namedValue_yield property (ends.not_mark (by decide))
  simp only [nextAttribute, Terminal.yield, List.cons_append, List.nil_append, bind_apply,
    keyword_token, content]
  exact settle_of_follows (all_attributeEnd ends) _

theorem properties_yield (entries : List (Reserved .and × Property)) (known : Attributes)
    {rest : List Token} (ends : Follows commandEnd rest) :
    whileNext (Token.isKeyword .and) nextAttribute known
        (entries.flatMap (fun entry => entry.1.yield ++ entry.2.yield) ++ rest) =
      settled (entries.foldlM (fun known entry => entry.2.addTo known) known) rest := by
  refine whileNext_steps ?_
    (fun known entry _ ends => nextAttribute_yield known entry.1 entry.2 ends) ?_ ?_ ?_
    entries known
  · intro entry rest
    simp [Terminal.yield]
  · intro entry rest
    simp [Terminal.yield, attributeEnd]
  · exact ends.mono (by decide)
  · exact ends.not_keyword (by decide)

theorem attributes_yield (tree : WithClause) {rest : List Token}
    (ends : Follows commandEnd rest) :
    attributes (tree.yield ++ rest) = settled tree.value rest := by
  cases tree with
  | empty =>
    have absent : rest.head?.any (Token.isKeyword .with) = false :=
      ends.not_keyword (by decide)
    simp [WithClause.yield, WithClause.value, attributes, absent, settled]
  | given lead properties =>
    have more := properties_yield properties.others
      (Table.empty.put properties.first.value.1 properties.first.value.2) ends
    -- The first property ends where the next one begins, or else the command.
    have next : (properties.others.flatMap (fun entry => entry.1.yield ++ entry.2.yield) ++
        rest).head?.any (Token.isMark .dot) = false :=
      stops_flatMap (fun entry rest => by simp [Terminal.yield]) (ends.not_mark (by decide)) _
    rw [WithClause.yield, PropertyList.yield, Chain.tokens_eq, WithClause.value,
      PropertyList.value_eq]
    generalize properties.others.flatMap (fun entry => entry.1.yield ++ entry.2.yield) = others
      at more next ⊢
    simp [-List.head?_append, attributes, Terminal.yield, namedValue_yield properties.first next,
      more]

/-! ### Clauses -/

theorem limit_yield (tree : LimitClause) {rest : List Token}
    (ends : Follows commandEnd rest) :
    limit (tree.yield ++ rest) = settled tree.value rest := by
  cases tree with
  | empty =>
    have absent : rest.head?.any (Token.isKeyword .limit) = false :=
      ends.not_keyword (by decide)
    simp [LimitClause.yield, LimitClause.value, limit, Parser.optional, absent, settled]
  | given lead amount =>
    rw [LimitClause.value_given, settled_map]
    simp [LimitClause.yield, limit, Parser.optional, Terminal.yield, Word.yield,
      settle_of_follows (all_endsCommand ends)]

theorem timeToLive_yield (tree : TtlClause) {rest : List Token}
    (ends : Follows commandEnd rest) :
    timeToLive (tree.yield ++ rest) = settled tree.value rest := by
  cases tree with
  | empty =>
    have absent : rest.head?.any (Token.isKeyword .with) = false :=
      ends.not_keyword (by decide)
    simp [TtlClause.yield, TtlClause.value, timeToLive, Parser.optional, absent, settled]
  | given lead name equal amount =>
    rw [TtlClause.value_given, settled_map]
    simp [TtlClause.yield, timeToLive, Parser.optional, Terminal.yield, Word.yield,
      settle_of_follows (all_endsCommand ends)]

theorem amount_yield (tree : ByClause) {rest : List Token}
    (ends : Follows commandEnd rest) :
    amount (tree.yield ++ rest) = settled tree.value rest := by
  cases tree with
  | empty =>
    have absent : rest.head?.any (Token.isKeyword .by) = false :=
      ends.not_keyword (by decide)
    simp [ByClause.yield, ByClause.value, amount, Parser.optional, absent, settled]
  | given lead word =>
    rw [ByClause.yield, ByClause.value, amount, bind_apply,
      optional_present (by simp [Terminal.yield])]
    simp only [Terminal.yield, Word.yield, List.cons_append, List.nil_append, map_apply, bind_apply,
      keyword_token, word_token, settle_of_follows (all_endsCommand ends)]
    cases integer "by" word.value <;> rfl

theorem asValidator_yield (tree : AsClause) (rest : List Token)
    (ends : Without (Token.isKeyword .as) rest) :
    asValidator (tree.yield ++ rest) = .ok (tree.value, rest) := by
  cases tree <;>
    simp [AsClause.yield, AsClause.value, asValidator, Parser.optional, Terminal.yield, Word.yield,
      ends]

/-! ### Conditions and ranges -/

theorem comparison_yield (shown : Comparison) (sign : Sign (comparisonMark shown))
    (rest : List Token) : comparison (sign.token :: rest) = .ok (shown, rest) := by
  have read := mark_token sign rest
  cases shown <;> simp_all [comparison, comparisonMark]

theorem condition_yield (tree : Condition) (rest : List Token)
    (ends : Without (Token.isMark .openParen) rest) :
    condition (tree.yield ++ rest) = .ok (tree.value, rest) := by
  have column : literal (tree.column.yield ++ tree.sign.token :: (tree.content.yield ++ rest)) =
      .ok (tree.column.value, tree.sign.token :: (tree.content.yield ++ rest)) :=
    literal_yield tree.column _ (by simp [comparisonMark_ne_openParen])
  simp [Condition.yield, Condition.value, condition, Terminal.yield, column, comparison_yield,
    literal_yield tree.content rest ends]

theorem conditions_yield (tree : ConditionList) (rest : List Token)
    (ends : Follows conditionsEnd rest) :
    conditions (tree.yield ++ rest) = .ok (tree.values Condition.value, rest) := by
  have readsEntry : ∀ (entry : Reserved .and × Condition) (rest : List Token),
      rest.head?.any (Token.isMark .openParen) = false →
      (do Parser.keyword .and; condition) (entry.1.yield ++ entry.2.yield ++ rest) =
        .ok (entry.2.value, rest) := by
    intro entry rest ends
    simp [Terminal.yield, condition_yield entry.2 rest ends]
  have others : many (Token.isKeyword .and) (do Parser.keyword .and; condition)
      (tree.others.flatMap (fun entry => entry.1.yield ++ entry.2.yield) ++ rest) =
        .ok (tree.others.map fun entry => entry.2.value, rest) := by
    refine many_items ?_ readsEntry ?_ ?_ ?_ _
    · intro entry rest
      simp [Terminal.yield]
    · intro entry rest
      simp [Terminal.yield]
    · exact ends.not_mark (by decide)
    · exact ends.not_keyword (by decide)
  have next : (tree.others.flatMap (fun entry => entry.1.yield ++ entry.2.yield) ++
      rest).head?.any (Token.isMark .openParen) = false :=
    stops_flatMap (fun entry rest => by simp [Terminal.yield]) (ends.not_mark (by decide)) _
  rw [ConditionList.yield, Chain.tokens_eq, Chain.values_eq, List.append_assoc]
  simp only [conditions, bind_apply, condition_yield tree.first _ next, others, pure_apply]

/-- A bound of a range is read up to the mark that ends it. -/
theorem rangeBound_yield {mark : Mark} (tree : RangeBound) (closing : Sign mark)
    (other : mark ≠ .openParen) (rest : List Token) :
    Parser.optional (fun token => !token.isMark mark) literal
        (tree.yield ++ closing.token :: rest) =
      .ok (tree.value, closing.token :: rest) := by
  cases tree with
  | empty => simp [RangeBound.yield, RangeBound.value, Parser.optional]
  | given content =>
    have ends : literal (content.yield ++ closing.token :: rest) =
        .ok (content.value, closing.token :: rest) :=
      literal_yield content _ (by simp [other])
    -- A bound is left out just where the mark comes next, which begins no literal.
    have present : (content.yield ++ closing.token :: rest).head?.any
        (fun token => !token.isMark mark) = true := by
      cases content <;> simp [Literal.yield, Terminal.yield, Word.yield]
    rw [RangeBound.yield, optional_present present, map_apply, ends]
    rfl

theorem range_yield (tree : RangeClause) (rest : List Token)
    (ends : Without (Token.isMark .openBracket) rest) :
    range (tree.yield ++ rest) = .ok (tree.value, rest) := by
  cases tree with
  | empty => simp [RangeClause.yield, RangeClause.value, range, ends]
  | given opening start colon stop closing =>
    have first := rangeBound_yield start colon (by decide)
      (stop.yield ++ closing.token :: rest)
    have second := rangeBound_yield stop closing (by decide) rest
    simp [RangeClause.yield, RangeClause.value, range, Terminal.yield, first, second]

theorem host_yield (tree : Host) (rest : List Token)
    (ends : Without (Token.isMark .dot) rest) :
    host (Host.yield tree ++ rest) = .ok (Host.value tree, rest) := by
  have starts : ∀ (entry : Sign .dot × Word) (rest : List Token),
      (entry.1.yield ++ entry.2.yield ++ rest).head?.any (Token.isMark .dot) = true := by
    simp [Terminal.yield]
  have readsEntry : ∀ (name : String) (entry : Sign .dot × Word) (rest : List Token), True →
      (do Parser.mark .dot; return name ++ "." ++ (← Parser.word) : Parser String)
          (entry.1.yield ++ entry.2.yield ++ rest) =
        settled (pure (name ++ "." ++ entry.2.value)) rest := by
    intro name entry rest _
    simp [Terminal.yield, Word.yield]
  have others := whileNext_steps starts readsEntry (fun _ _ => trivial) trivial
    ends tree.others tree.first.value
  rw [List.foldlM_pure] at others
  rw [Host.yield, Chain.tokens_eq, Host.value_eq, List.append_assoc]
  simp only [host, Word.yield, List.cons_append, List.nil_append, bind_apply, word_token]
  exact others

/-! ### Commands -/

/-- A command goes on after its keyword. -/
theorem command_lead {keyword : Keyword} (lead : Reserved keyword)
    (begins : beginsCommand keyword = true) (rest : List Token) :
    Parser.command (lead.token :: rest) = commandAfter keyword rest := by
  simp [Parser.command, take, begins]

/-- The tokens of each command are read as what the command asks for. -/
theorem command_yield (tree : Grammar.Command) {rest : List Token}
    (ends : Follows commandEnd rest) :
    Parser.command (tree.yield ++ rest) = settled tree.value rest := by
  cases tree with
  | useWord lead name | useQuoted lead name =>
    simp [Command.yield, Terminal.yield, Word.yield, command_lead lead rfl, commandAfter,
      Command.value]
  | connect lead host slash port =>
    have hostRead := host_yield host (slash.token :: port.token :: rest) (by simp)
    simp [Command.yield, Terminal.yield, Word.yield, command_lead lead rfl, commandAfter,
      Command.value, hostRead, settle_of_follows (all_endsCommand ends)]
  | exit lead | quit lead =>
    simp [Command.yield, Terminal.yield, command_lead lead rfl, commandAfter, Command.value]
  | createKeyspace lead kind name attributes | updateKeyspace lead kind name attributes =>
    simp [Command.yield, Terminal.yield, Word.yield, command_lead lead rfl, commandAfter,
      Command.value, definition, attributes_yield attributes ends]
  | createFamily lead column family name attributes
  | updateFamily lead column family name attributes =>
    simp [Command.yield, Terminal.yield, Word.yield, command_lead lead rfl, commandAfter,
      Command.value, definition, attributes_yield attributes ends]
  | dropKeyspace lead kind name =>
    simp [Command.yield, Terminal.yield, Word.yield, command_lead lead rfl, commandAfter,
      Command.value, dropTarget]
  | dropFamily lead column family name =>
    simp [Command.yield, Terminal.yield, Word.yield, command_lead lead rfl, commandAfter,
      Command.value, dropTarget]
  | dropIndex lead index on family dot column =>
    have columnRead := literal_yield column rest (ends.not_mark (by decide))
    simp [Command.yield, Terminal.yield, Word.yield, command_lead lead rfl, commandAfter,
      Command.value, dropTarget, columnRead]
  | assume lead family kind link validator =>
    simp [Command.yield, Terminal.yield, Word.yield, command_lead lead rfl, commandAfter,
      Command.value]
  | set lead address equal content ttl =>
    have addressRead := address_yield address
      (equal.token :: (content.yield ++ (ttl.yield ++ rest))) (by simp [addressEnd])
    have contentRead := literal_yield content (ttl.yield ++ rest)
      ((ttl.follows ends).not_mark (by decide))
    cases addressed : address.value <;>
      simp [Command.yield, Terminal.yield, command_lead lead rfl, commandAfter, Command.value,
        addressRead, addressed, contentRead, timeToLive_yield ttl ends]
  | get lead address validator limit =>
    have clauses := limit.follows ends
    have addressRead : addressIn address.family.value
        (address.brackets.yield ++ (validator.yield ++ (limit.yield ++ rest))) =
          settled address.value (validator.yield ++ (limit.yield ++ rest)) :=
      addressIn_yield address.family address.brackets _ (validator.follows clauses)
    have validatorRead := asValidator_yield validator (limit.yield ++ rest)
      (clauses.not_keyword (by decide))
    -- A refused address settles the command, and an accepted one leaves that to the clauses.
    cases addressed : address.value <;>
      simp [-List.head?_append, Command.yield, ColumnRef.yield, Terminal.yield, Word.yield,
        command_lead lead rfl, commandAfter, Command.value, getTarget, BracketList.head_yield,
        addressRead, addressed, validatorRead, limit_yield limit ends]
  | getWhere lead family link conditions limit =>
    have conditionsRead := conditions_yield conditions (limit.yield ++ rest) (limit.follows ends)
    simp [Command.yield, Terminal.yield, Word.yield, command_lead lead rfl, commandAfter,
      Command.value, getTarget, conditionsRead, limit_yield limit ends]
  | del lead address | count lead address =>
    have addressRead := address_yield address rest (ends.mono (by decide))
    simp [Command.yield, Terminal.yield, command_lead lead rfl, commandAfter, Command.value,
      addressRead]
  | incr lead address amount | decr lead address amount =>
    have addressRead := address_yield address (amount.yield ++ rest) (amount.follows ends)
    cases addressed : address.value <;>
      simp [Command.yield, Terminal.yield, command_lead lead rfl, commandAfter, Command.value,
        addressRead, addressed, amount_yield amount ends]
  | list lead family range limit =>
    have rangeRead := range_yield range (limit.yield ++ rest)
      ((limit.follows ends).not_mark (by decide))
    simp [Command.yield, Terminal.yield, Word.yield, command_lead lead rfl, commandAfter,
      Command.value, rangeRead, limit_yield limit ends]
  | truncate lead family =>
    simp [Command.yield, Terminal.yield, Word.yield, command_lead lead rfl, commandAfter,
      Command.value]
  | describe lead =>
    -- What ends a command is no word, so the list of words is read as empty.
    have none := many_words [] rest (not_word_of_commandEnd ends)
    simp only [List.flatMap_nil, List.nil_append, List.map_nil] at none
    simp [Command.yield, Terminal.yield, command_lead lead rfl, commandAfter, Command.value, none,
      settle_of_follows (all_endsCommand ends)]
  | describeWords lead words =>
    have wordsRead := words_yield words rest (not_word_of_commandEnd ends)
    simp [Command.yield, Terminal.yield, command_lead lead rfl, commandAfter, Command.value,
      wordsRead, settle_of_follows (all_endsCommand ends)]
  | «show» lead words =>
    -- The parser takes the first word apart from the others, the tree has them in one list.
    have othersRead : many Token.isWord Parser.word
        (words.others.flatMap (fun entry => [entry.2.token]) ++ rest) =
          .ok (words.others.map fun entry => entry.2.value, rest) := by
      have read := many_words (words.others.map Prod.snd) rest (not_word_of_commandEnd ends)
      rwa [List.flatMap_map, List.map_map] at read
    rw [Command.yield, WordList.yield, Chain.adjacent_eq, Command.value, Chain.values_eq]
    simp [Terminal.yield, Word.yield, command_lead lead rfl, commandAfter, othersRead,
      settle_of_follows (all_endsCommand ends)]
  | help lead =>
    have none := many_words [] rest (not_word_of_commandEnd ends)
    simp only [List.flatMap_nil, List.nil_append, List.map_nil] at none
    simp [Command.yield, Terminal.yield, command_lead lead rfl, commandAfter, Command.value, none]
  | helpWords lead words =>
    have wordsRead := words_yield words rest (not_word_of_commandEnd ends)
    simp [Command.yield, Terminal.yield, command_lead lead rfl, commandAfter, Command.value,
      wordsRead]
  | question mark => simp [Command.yield, Terminal.yield, Parser.command, Command.value]

/-- The tokens of a statement are read as what the statement asks for. -/
theorem statement_yield (tree : Grammar.Statement) :
    Parser.statement tree.yield = settled tree.value [] := by
  cases tree with
  | closed command semicolon =>
    have commandRead : Parser.command (command.yield ++ [semicolon.token]) =
        settled command.value [semicolon.token] :=
      command_yield command (by simp [commandEnd])
    simp only [Statement.yield, Terminal.yield, Statement.value, Parser.statement, bind_apply,
      commandRead]
    cases command.value <;> simp [Parser.optional, endsCommand]
  | bare command =>
    have commandRead : Parser.command (command.yield ++ []) = settled command.value [] :=
      command_yield command Follows.nil
    rw [List.append_nil] at commandRead
    simp only [Statement.yield, Statement.value, Parser.statement, bind_apply, commandRead]
    cases command.value <;> simp [Parser.optional]

end WideColumn.Grammar
