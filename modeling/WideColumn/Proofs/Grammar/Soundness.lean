import WideColumn.Proofs.Grammar
import WideColumn.Proofs.Parsing

/-!
# What the parser accepts has a derivation tree

For each nonterminal: if its parser succeeds, the tokens that it took are the tokens of a tree whose
value it gave. The tree is built from the trees of the parts, in the order in which the parser goes
over them; no condition on what comes next is needed in this direction.
-/

namespace WideColumn.Grammar

open WideColumn.Parser

/-! ### Terminals -/

theorem mark_eq_ok {mark : Mark} {tokens rest : List Token} {u : Unit} :
    Parser.mark mark tokens = .ok (u, rest) ↔ ∃ sign : Sign mark, tokens = sign.token :: rest := by
  rw [Parser.mark, discard_eq_ok]
  constructor
  · rintro ⟨token, taken⟩
    obtain ⟨accepted, rfl⟩ := take_eq_ok.1 taken
    exact ⟨⟨token, by simpa [Token.isMark] using accepted⟩, rfl⟩
  · rintro ⟨sign, rfl⟩
    exact ⟨sign.token, take_cons (by simp) rest⟩

theorem keyword_eq_ok {keyword : Keyword} {tokens rest : List Token} {u : Unit} :
    Parser.keyword keyword tokens = .ok (u, rest) ↔
      ∃ lead : Reserved keyword, tokens = lead.token :: rest := by
  rw [Parser.keyword, discard_eq_ok]
  constructor
  · rintro ⟨token, taken⟩
    obtain ⟨accepted, rfl⟩ := take_eq_ok.1 taken
    exact ⟨⟨token, by simpa [Token.isKeyword] using accepted⟩, rfl⟩
  · rintro ⟨lead, rfl⟩
    exact ⟨lead.token, take_cons (by simp) rest⟩

/-- A sign that is read is in front of what is read next. -/
theorem mark_bind_ok {α : Type} {mark : Mark} {next : Unit → Parser α} {value : α}
    {tokens rest : List Token} (h : (Parser.mark mark >>= next) tokens = .ok (value, rest)) :
    ∃ (sign : Sign mark) (left : List Token),
      tokens = sign.token :: left ∧ next () left = .ok (value, rest) := by
  obtain ⟨_, left, read, remaining⟩ := bind_eq_ok.1 h
  obtain ⟨sign, rfl⟩ := mark_eq_ok.1 read
  exact ⟨sign, left, rfl, remaining⟩

theorem keyword_bind_ok {α : Type} {keyword : Keyword} {next : Unit → Parser α} {value : α}
    {tokens rest : List Token} (h : (Parser.keyword keyword >>= next) tokens = .ok (value, rest)) :
    ∃ (lead : Reserved keyword) (left : List Token),
      tokens = lead.token :: left ∧ next () left = .ok (value, rest) := by
  obtain ⟨_, left, read, remaining⟩ := bind_eq_ok.1 h
  obtain ⟨lead, rfl⟩ := keyword_eq_ok.1 read
  exact ⟨lead, left, rfl, remaining⟩

/-- A part that is read has a tree, which is in front of what is read next. -/
theorem bind_ok {Tree α β : Type} {part : Parser α} {next : α → Parser β}
    {yield : Tree → List Token} {shown : Tree → α}
    (inverts : ∀ {value tokens rest}, part tokens = .ok (value, rest) →
      ∃ tree, tokens = yield tree ++ rest ∧ shown tree = value)
    {value : β} {tokens rest : List Token} (h : (part >>= next) tokens = .ok (value, rest)) :
    ∃ (tree : Tree) (left : List Token),
      tokens = yield tree ++ left ∧ next (shown tree) left = .ok (value, rest) := by
  obtain ⟨found, left, read, remaining⟩ := bind_eq_ok.1 h
  obtain ⟨tree, rfl, rfl⟩ := inverts read
  exact ⟨tree, left, rfl, remaining⟩

theorem word_ok {value : String} {tokens rest : List Token}
    (h : Parser.word tokens = .ok (value, rest)) :
    ∃ word : Word, tokens = word.yield ++ rest ∧ word.value = value := by
  obtain ⟨token, taken, rfl⟩ := map_eq_ok.1 h
  obtain ⟨accepted, rfl⟩ := take_eq_ok.1 taken
  obtain ⟨word, rfl⟩ := exists_word accepted
  exact ⟨word, rfl, rfl⟩

theorem wordOrString_ok {value : String} {tokens rest : List Token}
    (h : wordOrString tokens = .ok (value, rest)) :
    (∃ word : Word, tokens = word.yield ++ rest ∧ word.value = value) ∨
      ∃ text : Quoted, tokens = text.yield ++ rest ∧ text.value = value := by
  obtain ⟨token, taken, rfl⟩ := map_eq_ok.1 h
  obtain ⟨accepted, rfl⟩ := take_eq_ok.1 taken
  rcases Bool.or_eq_true _ _ ▸ accepted with isWord | isQuoted
  · obtain ⟨word, rfl⟩ := exists_word isWord
    exact .inl ⟨word, rfl, rfl⟩
  · exact .inr ⟨⟨token, by simpa [Token.isQuoted] using isQuoted⟩, rfl, rfl⟩

/-! ### Lists -/

/-- Items with signs between them are the items of a chain. -/
theorem separated_ok {Item α : Type} {mark : Mark} {item : Parser α}
    {itemYield : Item → List Token} {value : Item → α}
    (inverts : ∀ read tokens rest, item tokens = .ok (read, rest) →
      ∃ tree, tokens = itemYield tree ++ rest ∧ value tree = read)
    {values : List α} {tokens rest : List Token}
    (h : separated mark item tokens = .ok (values, rest)) :
    ∃ chain : Chain (Sign mark) Item,
      tokens = chain.tokens Terminal.yield itemYield ++ rest ∧ chain.values value = values := by
  -- An entry is a sign with the item after it.
  have invertsEntry : ∀ read tokens rest,
      (do Parser.mark mark; item) tokens = .ok (read, rest) →
      ∃ entry : Sign mark × Item,
        tokens = entry.1.yield ++ itemYield entry.2 ++ rest ∧ value entry.2 = read := by
    intro read tokens rest h
    obtain ⟨sign, middle, rfl, itemRead⟩ := mark_bind_ok h
    obtain ⟨tree, rfl, rfl⟩ := inverts read middle rest itemRead
    exact ⟨(sign, tree), rfl, rfl⟩
  obtain ⟨read, left, firstRead, remaining⟩ := bind_eq_ok.1 h
  obtain ⟨first, rfl, rfl⟩ := inverts read tokens left firstRead
  obtain ⟨others, middle, othersRead, done⟩ := bind_eq_ok.1 remaining
  obtain ⟨rfl, rfl⟩ := pure_eq_ok.1 done
  obtain ⟨entries, rfl, rfl⟩ := items_of_many invertsEntry othersRead
  obtain ⟨chain, rfl, rfl⟩ := Chain.exists_of_others first entries
  exact ⟨chain, by rw [Chain.tokens_eq, List.append_assoc], Chain.values_eq value chain⟩

theorem words_ok {values : List String} {tokens rest : List Token}
    (h : many Token.isWord Parser.word tokens = .ok (values, rest)) :
    ∃ words : List Word, tokens = words.flatMap Word.yield ++ rest ∧ words.map Word.value = values :=
  items_of_many (fun _ _ _ => word_ok) h

/-- Words after a first one are a list of words. -/
theorem exists_wordList (first : Word) (others : List Word) :
    ∃ words : WordList, words.yield = first.yield ++ others.flatMap Word.yield ∧
      words.values Word.value = first.value :: others.map Word.value := by
  obtain ⟨words, rfl, same⟩ := Chain.exists_of_others first (others.map (Prod.mk ()))
  refine ⟨words, ?_, ?_⟩
  · rw [WordList.yield, Chain.adjacent_eq, same, List.flatMap_map]
  · rw [Chain.values_eq, same, List.map_map]
    rfl

/-! ### Literals and addresses -/

theorem castArgument_ok {argument : Option String} {tokens rest : List Token}
    (h : castArgument tokens = .ok (argument, rest)) (name : Word) (opening : Sign .openParen) :
    ∃ tree : Literal, name.yield ++ opening.yield ++ tokens = tree.yield ++ rest ∧
      tree.value = .cast name.value argument := by
  obtain ⟨_, middle, argumentRead, ends⟩ := bind_eq_ok.1 h
  obtain ⟨closing, left, rfl, done⟩ := mark_bind_ok ends
  obtain ⟨rfl, rfl⟩ := pure_eq_ok.1 done
  rcases optional_eq_ok argumentRead with ⟨text, read, rfl⟩ | ⟨rfl, rfl⟩
  -- A name with an argument is a cast, and without one a generator.
  · rcases wordOrString_ok read with ⟨word, rfl, rfl⟩ | ⟨quoted, rfl, rfl⟩
    · exact ⟨.castWord name opening word closing, by simp [Literal.yield, Terminal.yield], rfl⟩
    · exact ⟨.castQuoted name opening quoted closing, by simp [Literal.yield, Terminal.yield], rfl⟩
  · exact ⟨.generator name opening closing, by simp [Literal.yield, Terminal.yield], rfl⟩

theorem literal_ok {value : WideColumn.Literal} {tokens rest : List Token}
    (h : literal tokens = .ok (value, rest)) :
    ∃ tree : Literal, tokens = tree.yield ++ rest ∧ tree.value = value := by
  rcases choice_eq_ok h with string | word
  · obtain ⟨text, left, read, done⟩ := bind_eq_ok.1 string
    obtain ⟨rfl, rfl⟩ := pure_eq_ok.1 done
    rcases wordOrString_ok read with ⟨word, rfl, rfl⟩ | ⟨quoted, rfl, rfl⟩
    · exact ⟨.word word, rfl, rfl⟩
    · exact ⟨.quoted quoted, rfl, rfl⟩
  · obtain ⟨name, left, rfl, remaining⟩ := bind_ok word_ok word
    obtain ⟨argument, last, argumentRead, done⟩ := bind_eq_ok.1 remaining
    rcases optional_eq_ok argumentRead with ⟨content, cast, rfl⟩ | ⟨rfl, rfl⟩
    · obtain ⟨rfl, rfl⟩ := pure_eq_ok.1 done
      obtain ⟨opening, inside, rfl, castRead⟩ := mark_bind_ok cast
      obtain ⟨tree, tokens, shown⟩ := castArgument_ok castRead name opening
      exact ⟨tree, by simpa [Terminal.yield] using tokens, shown⟩
    · obtain ⟨rfl, rfl⟩ := pure_eq_ok.1 done
      exact ⟨.word name, rfl, rfl⟩

theorem bracketed_ok {value : WideColumn.Literal} {tokens rest : List Token}
    (h : bracketed tokens = .ok (value, rest)) :
    ∃ tree : Bracketed, tokens = tree.yield ++ rest ∧ tree.literal.value = value := by
  obtain ⟨opening, inside, rfl, remaining⟩ := mark_bind_ok h
  obtain ⟨literal, left, rfl, ends⟩ := bind_ok literal_ok remaining
  obtain ⟨closing, after, rfl, done⟩ := mark_bind_ok ends
  obtain ⟨rfl, rfl⟩ := pure_eq_ok.1 done
  exact ⟨⟨opening, literal, closing⟩, by simp [Bracketed.yield, Terminal.yield], rfl⟩

theorem addressIn_ok {value : Address} {tokens rest : List Token} (family : Word)
    (h : addressIn family.value tokens = .ok (value, rest)) :
    ∃ brackets : BracketList,
      tokens = brackets.yield ++ rest ∧ ColumnRef.value ⟨family, brackets⟩ = .ok value := by
  obtain ⟨first, left, rfl, remaining⟩ := bind_ok bracketed_ok h
  obtain ⟨others, middle, rfl, ruled⟩ := bind_ok (items_of_many fun _ _ _ => bracketed_ok) remaining
  -- How many columns there may be is settled after the last bracket.
  obtain ⟨settles, rfl⟩ := settle_eq_ok ruled
  obtain ⟨brackets, rfl, same⟩ := Chain.exists_of_others first (others.map (Prod.mk ()))
  refine ⟨brackets, ?_, ?_⟩
  · rw [BracketList.yield, Chain.adjacent_eq, same, List.flatMap_map, List.append_assoc]
  · rw [ColumnRef.value, same, List.map_map]
    exact settles

theorem address_ok {value : Address} {tokens rest : List Token}
    (h : address tokens = .ok (value, rest)) :
    ∃ tree : ColumnRef, tokens = tree.yield ++ rest ∧ tree.value = .ok value := by
  obtain ⟨family, left, rfl, remaining⟩ := bind_ok word_ok h
  obtain ⟨brackets, rfl, valued⟩ := addressIn_ok family remaining
  exact ⟨⟨family, brackets⟩, rfl, valued⟩

/-! ### Attributes -/

theorem atom_ok {value : String} {tokens rest : List Token}
    (h : atom tokens = .ok (value, rest)) :
    ∃ tree : HashAtom, tokens = tree.yield ++ rest ∧ tree.value = value := by
  rcases choice_eq_ok h with string | word
  · rcases wordOrString_ok string with ⟨word, rfl, rfl⟩ | ⟨quoted, rfl, rfl⟩
    · exact ⟨.word word, rfl, rfl⟩
    · exact ⟨.quoted quoted, rfl, rfl⟩
  · obtain ⟨whole, left, rfl, remaining⟩ := bind_ok word_ok word
    obtain ⟨second, last, secondRead, done⟩ := bind_eq_ok.1 remaining
    rcases optional_eq_ok secondRead with ⟨after, dotted, rfl⟩ | ⟨rfl, rfl⟩
    · obtain ⟨rfl, rfl⟩ := pure_eq_ok.1 done
      obtain ⟨dot, inside, rfl, fractionRead⟩ := mark_bind_ok dotted
      obtain ⟨fraction, rfl, rfl⟩ := word_ok fractionRead
      exact ⟨.decimal whole dot fraction, by simp [HashAtom.yield, Terminal.yield], rfl⟩
    · obtain ⟨rfl, rfl⟩ := pure_eq_ok.1 done
      exact ⟨.word whole, rfl, rfl⟩

theorem pair_ok {value : String × String} {tokens rest : List Token}
    (h : pair tokens = .ok (value, rest)) :
    ∃ tree : HashPair, tokens = tree.yield ++ rest ∧ tree.value = value := by
  obtain ⟨key, left, rfl, remaining⟩ := bind_ok atom_ok h
  obtain ⟨colon, middle, rfl, ends⟩ := mark_bind_ok remaining
  obtain ⟨content, last, rfl, done⟩ := bind_ok atom_ok ends
  obtain ⟨rfl, rfl⟩ := pure_eq_ok.1 done
  exact ⟨⟨key, colon, content⟩, by simp [HashPair.yield, Terminal.yield], rfl⟩

theorem hash_ok {value : Table String String} {tokens rest : List Token}
    (h : Parser.hash tokens = .ok (value, rest)) :
    ∃ tree : Hash, tokens = tree.yield ++ rest ∧ tree.value = value := by
  obtain ⟨opening, inside, rfl, remaining⟩ := mark_bind_ok h
  rcases choice_eq_ok remaining with closed | items
  · obtain ⟨closing, left, rfl, done⟩ := mark_bind_ok closed
    obtain ⟨rfl, rfl⟩ := pure_eq_ok.1 done
    exact ⟨.empty opening closing, rfl, rfl⟩
  · obtain ⟨chain, left, rfl, ends⟩ := bind_ok (separated_ok fun _ _ _ => pair_ok) items
    obtain ⟨closing, last, rfl, done⟩ := mark_bind_ok ends
    obtain ⟨rfl, rfl⟩ := pure_eq_ok.1 done
    exact ⟨.items opening chain closing, by simp [Hash.yield, HashItems.yield, Terminal.yield], rfl⟩

theorem item_ok {value : AttributeItem} {tokens rest : List Token}
    (h : item tokens = .ok (value, rest)) :
    ∃ tree : ArrayItem, tokens = tree.yield ++ rest ∧ tree.value = value := by
  rcases choice_eq_ok h with braces | text
  · obtain ⟨tree, left, rfl, done⟩ := bind_ok hash_ok braces
    obtain ⟨rfl, rfl⟩ := pure_eq_ok.1 done
    exact ⟨.hash tree, rfl, rfl⟩
  · obtain ⟨content, left, read, done⟩ := bind_eq_ok.1 text
    obtain ⟨rfl, rfl⟩ := pure_eq_ok.1 done
    rcases wordOrString_ok read with ⟨word, rfl, rfl⟩ | ⟨quoted, rfl, rfl⟩
    · exact ⟨.word word, rfl, rfl⟩
    · exact ⟨.quoted quoted, rfl, rfl⟩

theorem list_ok {values : List AttributeItem} {tokens rest : List Token}
    (h : Parser.list tokens = .ok (values, rest)) :
    ∃ tree : PropertyValue, tokens = tree.yield ++ rest ∧ tree.value = .list values := by
  obtain ⟨opening, inside, rfl, remaining⟩ := mark_bind_ok h
  rcases choice_eq_ok remaining with closed | items
  · obtain ⟨closing, left, rfl, done⟩ := mark_bind_ok closed
    obtain ⟨rfl, rfl⟩ := pure_eq_ok.1 done
    exact ⟨.emptyArray opening closing, rfl, rfl⟩
  · obtain ⟨chain, left, rfl, ends⟩ := bind_ok (separated_ok fun _ _ _ => item_ok) items
    obtain ⟨closing, last, rfl, done⟩ := mark_bind_ok ends
    obtain ⟨rfl, rfl⟩ := pure_eq_ok.1 done
    refine ⟨.array opening chain closing, ?_, rfl⟩
    simp [PropertyValue.yield, ArrayItems.yield, Terminal.yield]

theorem attributeValue_ok {value : AttributeValue} {tokens rest : List Token}
    (h : attributeValue tokens = .ok (value, rest)) :
    ∃ tree : PropertyValue, tokens = tree.yield ++ rest ∧ tree.value = value := by
  rcases choice_eq_ok h with brackets | other
  · obtain ⟨items, left, listRead, done⟩ := bind_eq_ok.1 brackets
    obtain ⟨rfl, rfl⟩ := pure_eq_ok.1 done
    exact list_ok listRead
  rcases choice_eq_ok other with braces | scalar
  · obtain ⟨tree, left, rfl, done⟩ := bind_ok hash_ok braces
    obtain ⟨rfl, rfl⟩ := pure_eq_ok.1 done
    exact ⟨.hash tree, rfl, rfl⟩
  · obtain ⟨tree, left, rfl, done⟩ := bind_ok atom_ok scalar
    obtain ⟨rfl, rfl⟩ := pure_eq_ok.1 done
    cases tree with
    | word name => exact ⟨.word name, rfl, rfl⟩
    | quoted text => exact ⟨.quoted text, rfl, rfl⟩
    | decimal whole dot fraction => exact ⟨.decimal whole dot fraction, rfl, rfl⟩

theorem namedValue_ok {value : String × AttributeValue} {tokens rest : List Token}
    (h : namedValue tokens = .ok (value, rest)) :
    ∃ tree : Property, tokens = tree.yield ++ rest ∧ tree.value = value := by
  obtain ⟨name, left, rfl, remaining⟩ := bind_ok word_ok h
  obtain ⟨equal, middle, rfl, ends⟩ := mark_bind_ok remaining
  obtain ⟨tree, last, rfl, done⟩ := bind_ok attributeValue_ok ends
  obtain ⟨rfl, rfl⟩ := pure_eq_ok.1 done
  exact ⟨⟨name, equal, tree⟩, by simp [Property.yield, Terminal.yield], rfl⟩

theorem nextAttribute_ok (known after : Attributes) (tokens rest : List Token)
    (h : nextAttribute known tokens = .ok (after, rest)) :
    ∃ entry : Reserved .and × Property,
      tokens = entry.1.yield ++ entry.2.yield ++ rest ∧ entry.2.addTo known = .ok after := by
  obtain ⟨link, left, rfl, remaining⟩ := keyword_bind_ok h
  obtain ⟨property, middle, rfl, ruled⟩ := bind_ok namedValue_ok remaining
  obtain ⟨settles, rfl⟩ := settle_eq_ok ruled
  exact ⟨(link, property), rfl, settles⟩

theorem attributes_ok {value : Attributes} {tokens rest : List Token}
    (h : attributes tokens = .ok (value, rest)) :
    ∃ tree : WithClause, tokens = tree.yield ++ rest ∧ tree.value = .ok value := by
  rcases choice_eq_ok h with given | absent
  · obtain ⟨lead, left, rfl, remaining⟩ := keyword_bind_ok given
    obtain ⟨first, middle, rfl, loop⟩ := bind_ok namedValue_ok remaining
    -- Each turn of the loop adds one property to those before it, as the value of the tree does.
    obtain ⟨entries, rfl, made⟩ := steps_of_whileNext nextAttribute_ok loop
    obtain ⟨properties, rfl, rfl⟩ := Chain.exists_of_others first entries
    refine ⟨.given lead properties, ?_, (PropertyList.value_eq properties).trans made⟩
    rw [WithClause.yield, PropertyList.yield, Chain.tokens_eq]
    simp [Terminal.yield]
  · obtain ⟨rfl, rfl⟩ := pure_eq_ok.1 absent
    exact ⟨.empty, rfl, rfl⟩

/-! ### Clauses -/

theorem limit_ok {value : Option Int} {tokens rest : List Token}
    (h : limit tokens = .ok (value, rest)) :
    ∃ tree : LimitClause, tokens = tree.yield ++ rest ∧ tree.value = .ok value := by
  rcases optional_eq_ok h with ⟨found, given, rfl⟩ | ⟨rfl, rfl⟩
  · obtain ⟨lead, left, rfl, remaining⟩ := keyword_bind_ok given
    obtain ⟨amount, last, rfl, ruled⟩ := bind_ok word_ok remaining
    obtain ⟨settles, rfl⟩ := settle_eq_ok ruled
    refine ⟨.given lead amount, rfl, ?_⟩
    rw [LimitClause.value_given, settles]
    rfl
  · exact ⟨.empty, rfl, rfl⟩

theorem timeToLive_ok {value : Option Int} {tokens rest : List Token}
    (h : timeToLive tokens = .ok (value, rest)) :
    ∃ tree : TtlClause, tokens = tree.yield ++ rest ∧ tree.value = .ok value := by
  rcases optional_eq_ok h with ⟨found, given, rfl⟩ | ⟨rfl, rfl⟩
  · obtain ⟨lead, left, rfl, remaining⟩ := keyword_bind_ok given
    obtain ⟨name, second, rfl, valued⟩ := bind_ok word_ok remaining
    obtain ⟨equal, third, rfl, ends⟩ := mark_bind_ok valued
    obtain ⟨amount, last, rfl, ruled⟩ := bind_ok word_ok ends
    obtain ⟨settles, rfl⟩ := settle_eq_ok ruled
    refine ⟨.given lead name equal amount, by simp [TtlClause.yield, Terminal.yield], ?_⟩
    rw [TtlClause.value_given, settles]
    rfl
  · exact ⟨.empty, rfl, rfl⟩

theorem amount_ok {value : Int} {tokens rest : List Token}
    (h : amount tokens = .ok (value, rest)) :
    ∃ tree : ByClause, tokens = tree.yield ++ rest ∧ tree.value = .ok value := by
  obtain ⟨found, middle, present, done⟩ := bind_eq_ok.1 h
  obtain ⟨rfl, rfl⟩ := pure_eq_ok.1 done
  rcases optional_eq_ok present with ⟨number, given, rfl⟩ | ⟨rfl, rfl⟩
  · obtain ⟨lead, left, rfl, remaining⟩ := keyword_bind_ok given
    obtain ⟨word, last, rfl, ruled⟩ := bind_ok word_ok remaining
    obtain ⟨settles, rfl⟩ := settle_eq_ok ruled
    exact ⟨.given lead word, rfl, settles⟩
  · exact ⟨.empty, rfl, rfl⟩

theorem asValidator_ok {value : Option String} {tokens rest : List Token}
    (h : asValidator tokens = .ok (value, rest)) :
    ∃ tree : AsClause, tokens = tree.yield ++ rest ∧ tree.value = value := by
  rcases optional_eq_ok h with ⟨found, given, rfl⟩ | ⟨rfl, rfl⟩
  · obtain ⟨lead, left, rfl, wordRead⟩ := keyword_bind_ok given
    obtain ⟨word, rfl, rfl⟩ := word_ok wordRead
    exact ⟨.given lead word, rfl, rfl⟩
  · exact ⟨.empty, rfl, rfl⟩

/-! ### Conditions and ranges -/

/-- The mark of a comparison that was read is in front. -/
theorem comparison_way (shown : Comparison) {value : Comparison} {tokens rest : List Token}
    (h : (do Parser.mark (comparisonMark shown); return shown : Parser Comparison) tokens =
      .ok (value, rest)) :
    ∃ sign : Sign (comparisonMark value), tokens = sign.token :: rest := by
  obtain ⟨sign, left, rfl, done⟩ := mark_bind_ok h
  obtain ⟨rfl, rfl⟩ := pure_eq_ok.1 done
  exact ⟨sign, rfl⟩

theorem comparison_ok {value : Comparison} {tokens rest : List Token}
    (h : comparison tokens = .ok (value, rest)) :
    ∃ sign : Sign (comparisonMark value), tokens = sign.token :: rest := by
  -- The marks are tried one after the other.
  rcases choice_eq_ok h with read | others
  · exact comparison_way .equal read
  rcases choice_eq_ok others with read | others
  · exact comparison_way .greater read
  rcases choice_eq_ok others with read | others
  · exact comparison_way .greaterEqual read
  rcases choice_eq_ok others with read | read
  · exact comparison_way .less read
  · exact comparison_way .lessEqual read

theorem condition_ok {value : WideColumn.Condition} {tokens rest : List Token}
    (h : condition tokens = .ok (value, rest)) :
    ∃ tree : Condition, tokens = tree.yield ++ rest ∧ tree.value = value := by
  obtain ⟨column, second, rfl, remaining⟩ := bind_ok literal_ok h
  obtain ⟨comparison, third, signRead, ends⟩ := bind_eq_ok.1 remaining
  obtain ⟨sign, rfl⟩ := comparison_ok signRead
  obtain ⟨content, last, rfl, done⟩ := bind_ok literal_ok ends
  obtain ⟨rfl, rfl⟩ := pure_eq_ok.1 done
  exact ⟨⟨column, comparison, sign, content⟩, by simp [Condition.yield, Terminal.yield], rfl⟩

theorem conditions_ok {values : List WideColumn.Condition} {tokens rest : List Token}
    (h : conditions tokens = .ok (values, rest)) :
    ∃ tree : ConditionList, tokens = tree.yield ++ rest ∧ tree.values Condition.value = values := by
  have inverts : ∀ read tokens rest,
      (do Parser.keyword .and; condition) tokens = .ok (read, rest) →
      ∃ entry : Reserved .and × Condition,
        tokens = entry.1.yield ++ entry.2.yield ++ rest ∧ entry.2.value = read := by
    intro read tokens rest h
    obtain ⟨link, middle, rfl, conditionRead⟩ := keyword_bind_ok h
    obtain ⟨tree, rfl, rfl⟩ := condition_ok conditionRead
    exact ⟨(link, tree), rfl, rfl⟩
  obtain ⟨first, left, rfl, remaining⟩ := bind_ok condition_ok h
  obtain ⟨others, middle, othersRead, done⟩ := bind_eq_ok.1 remaining
  obtain ⟨rfl, rfl⟩ := pure_eq_ok.1 done
  obtain ⟨entries, rfl, rfl⟩ := items_of_many inverts othersRead
  obtain ⟨chain, rfl, rfl⟩ := Chain.exists_of_others first entries
  refine ⟨chain, ?_, Chain.values_eq Condition.value chain⟩
  rw [ConditionList.yield, Chain.tokens_eq, List.append_assoc]

theorem rangeBound_ok {begins : Token → Bool} {value : Option WideColumn.Literal}
    {tokens rest : List Token}
    (h : Parser.optional begins literal tokens = .ok (value, rest)) :
    ∃ tree : RangeBound, tokens = tree.yield ++ rest ∧ tree.value = value := by
  rcases optional_eq_ok h with ⟨found, read, rfl⟩ | ⟨rfl, rfl⟩
  · obtain ⟨tree, rfl, rfl⟩ := literal_ok read
    exact ⟨.given tree, rfl, rfl⟩
  · exact ⟨.empty, rfl, rfl⟩

theorem range_ok {value : Option WideColumn.Literal × Option WideColumn.Literal}
    {tokens rest : List Token} (h : range tokens = .ok (value, rest)) :
    ∃ tree : RangeClause, tokens = tree.yield ++ rest ∧ tree.value = value := by
  rcases choice_eq_ok h with given | absent
  · obtain ⟨opening, first, rfl, remaining⟩ := mark_bind_ok given
    obtain ⟨start, second, rfl, after⟩ := bind_ok rangeBound_ok remaining
    obtain ⟨colon, third, rfl, bound⟩ := mark_bind_ok after
    obtain ⟨stop, fourth, rfl, ends⟩ := bind_ok rangeBound_ok bound
    obtain ⟨closing, last, rfl, done⟩ := mark_bind_ok ends
    obtain ⟨rfl, rfl⟩ := pure_eq_ok.1 done
    exact ⟨.given opening start colon stop closing, by simp [RangeClause.yield, Terminal.yield], rfl⟩
  · obtain ⟨rfl, rfl⟩ := pure_eq_ok.1 absent
    exact ⟨.empty, rfl, rfl⟩

theorem host_ok {value : String} {tokens rest : List Token}
    (h : host tokens = .ok (value, rest)) :
    ∃ tree : Host, tokens = Host.yield tree ++ rest ∧ Host.value tree = value := by
  -- The loop puts the words together as it reads them.
  have inverts : ∀ (name after : String) (tokens rest : List Token),
      (do Parser.mark .dot; return name ++ "." ++ (← Parser.word) : Parser String) tokens =
        .ok (after, rest) →
      ∃ entry : Sign .dot × Word, tokens = entry.1.yield ++ entry.2.yield ++ rest ∧
        (pure (name ++ "." ++ entry.2.value) : Except ParseFailure String) = .ok after := by
    intro name after tokens rest h
    obtain ⟨dot, middle, rfl, remaining⟩ := mark_bind_ok h
    obtain ⟨word, last, rfl, done⟩ := bind_ok word_ok remaining
    obtain ⟨rfl, rfl⟩ := pure_eq_ok.1 done
    exact ⟨(dot, word), by simp [Terminal.yield], rfl⟩
  obtain ⟨first, left, rfl, loop⟩ := bind_ok word_ok h
  obtain ⟨entries, rfl, made⟩ := steps_of_whileNext inverts loop
  obtain ⟨chain, rfl, rfl⟩ := Chain.exists_of_others first entries
  rw [List.foldlM_pure] at made
  refine ⟨chain, ?_, (Host.value_eq chain).trans (Except.ok.inj made)⟩
  rw [Host.yield, Chain.tokens_eq, List.append_assoc]

/-! ### Commands -/

theorem definition_ok {ofKeyspace ofFamily : String → Attributes → WideColumn.Command}
    {value : WideColumn.Command} {tokens rest : List Token}
    (h : definition ofKeyspace ofFamily tokens = .ok (value, rest)) :
    (∃ (kind : Reserved .keyspace) (name : Word) (tree : WithClause) (attributes : Attributes),
      tokens = kind.yield ++ name.yield ++ tree.yield ++ rest ∧ tree.value = .ok attributes ∧
        value = ofKeyspace name.value attributes) ∨
    ∃ (column : Reserved .column) (family : Reserved .family) (name : Word) (tree : WithClause)
      (attributes : Attributes),
      tokens = column.yield ++ family.yield ++ name.yield ++ tree.yield ++ rest ∧
        tree.value = .ok attributes ∧ value = ofFamily name.value attributes := by
  rcases choice_eq_ok h with ofKeyspaceRead | ofFamilyRead
  · obtain ⟨kind, second, rfl, remaining⟩ := keyword_bind_ok ofKeyspaceRead
    obtain ⟨name, third, rfl, ends⟩ := bind_ok word_ok remaining
    obtain ⟨attributes, last, attributesRead, done⟩ := bind_eq_ok.1 ends
    obtain ⟨tree, rfl, valued⟩ := attributes_ok attributesRead
    obtain ⟨rfl, rfl⟩ := pure_eq_ok.1 done
    exact .inl ⟨kind, name, tree, attributes, by simp [Terminal.yield], valued, rfl⟩
  · obtain ⟨column, second, rfl, remaining⟩ := keyword_bind_ok ofFamilyRead
    obtain ⟨family, third, rfl, named⟩ := keyword_bind_ok remaining
    obtain ⟨name, fourth, rfl, ends⟩ := bind_ok word_ok named
    obtain ⟨attributes, last, attributesRead, done⟩ := bind_eq_ok.1 ends
    obtain ⟨tree, rfl, valued⟩ := attributes_ok attributesRead
    obtain ⟨rfl, rfl⟩ := pure_eq_ok.1 done
    exact .inr ⟨column, family, name, tree, attributes, by simp [Terminal.yield], valued, rfl⟩

theorem dropTarget_ok (lead : Reserved .drop) {value : WideColumn.Command}
    {tokens rest : List Token} (h : dropTarget tokens = .ok (value, rest)) :
    ∃ tree : Command, lead.token :: tokens = tree.yield ++ rest ∧ tree.value = .ok value := by
  rcases choice_eq_ok h with keyspace | others
  · obtain ⟨kind, second, rfl, remaining⟩ := keyword_bind_ok keyspace
    obtain ⟨name, third, rfl, done⟩ := bind_ok word_ok remaining
    obtain ⟨rfl, rfl⟩ := pure_eq_ok.1 done
    exact ⟨.dropKeyspace lead kind name, by simp [Command.yield, Terminal.yield], rfl⟩
  rcases choice_eq_ok others with columnFamily | indexed
  · obtain ⟨column, second, rfl, remaining⟩ := keyword_bind_ok columnFamily
    obtain ⟨family, third, rfl, named⟩ := keyword_bind_ok remaining
    obtain ⟨name, fourth, rfl, done⟩ := bind_ok word_ok named
    obtain ⟨rfl, rfl⟩ := pure_eq_ok.1 done
    exact ⟨.dropFamily lead column family name, by simp [Command.yield, Terminal.yield], rfl⟩
  · obtain ⟨index, second, rfl, remaining⟩ := keyword_bind_ok indexed
    obtain ⟨on, third, rfl, named⟩ := keyword_bind_ok remaining
    obtain ⟨family, fourth, rfl, dotted⟩ := bind_ok word_ok named
    obtain ⟨dot, fifth, rfl, ends⟩ := mark_bind_ok dotted
    obtain ⟨column, last, rfl, done⟩ := bind_ok literal_ok ends
    obtain ⟨rfl, rfl⟩ := pure_eq_ok.1 done
    exact ⟨.dropIndex lead index on family dot column, by simp [Command.yield, Terminal.yield], rfl⟩

theorem getTarget_ok (lead : Reserved .get) {value : WideColumn.Command}
    {tokens rest : List Token} (h : getTarget tokens = .ok (value, rest)) :
    ∃ tree : Command, lead.token :: tokens = tree.yield ++ rest ∧ tree.value = .ok value := by
  obtain ⟨family, second, rfl, remaining⟩ := bind_ok word_ok h
  rcases choice_eq_ok remaining with addressed | conditional
  · obtain ⟨address, third, addressRead, clauses⟩ := bind_eq_ok.1 addressed
    obtain ⟨brackets, rfl, valued⟩ := addressIn_ok family addressRead
    obtain ⟨validator, fourth, rfl, ends⟩ := bind_ok asValidator_ok clauses
    obtain ⟨bound, last, limitRead, done⟩ := bind_eq_ok.1 ends
    obtain ⟨limit, rfl, limited⟩ := limit_ok limitRead
    obtain ⟨rfl, rfl⟩ := pure_eq_ok.1 done
    refine ⟨.get lead ⟨family, brackets⟩ validator limit, ?_, ?_⟩
    · simp [Command.yield, ColumnRef.yield, Terminal.yield]
    · rw [Command.value, valued, limited]
      rfl
  · obtain ⟨link, third, rfl, conditioned⟩ := keyword_bind_ok conditional
    obtain ⟨conditions, fourth, rfl, ends⟩ := bind_ok conditions_ok conditioned
    obtain ⟨bound, last, limitRead, done⟩ := bind_eq_ok.1 ends
    obtain ⟨limit, rfl, limited⟩ := limit_ok limitRead
    obtain ⟨rfl, rfl⟩ := pure_eq_ok.1 done
    refine ⟨.getWhere lead family link conditions limit, ?_, ?_⟩
    · simp [Command.yield, Terminal.yield]
    · rw [Command.value, limited]
      rfl

theorem counterChange_ok {change : Address → Int → WideColumn.Command}
    {value : WideColumn.Command} {tokens rest : List Token}
    (h : (do return change (← address) (← amount) : Parser WideColumn.Command) tokens =
      .ok (value, rest)) :
    ∃ (ref : ColumnRef) (tree : ByClause) (place : Address) (number : Int),
      tokens = ref.yield ++ tree.yield ++ rest ∧ ref.value = .ok place ∧ tree.value = .ok number ∧
        value = change place number := by
  obtain ⟨place, second, addressRead, ends⟩ := bind_eq_ok.1 h
  obtain ⟨ref, rfl, valued⟩ := address_ok addressRead
  obtain ⟨number, last, amountRead, done⟩ := bind_eq_ok.1 ends
  obtain ⟨tree, rfl, counted⟩ := amount_ok amountRead
  obtain ⟨rfl, rfl⟩ := pure_eq_ok.1 done
  exact ⟨ref, tree, place, number, by simp, valued, counted, rfl⟩

/-- What is read after the keyword of a command makes a tree of that command. -/
theorem commandAfter_ok {keyword : Keyword} (lead : Reserved keyword) {value : WideColumn.Command}
    {tokens rest : List Token} (h : commandAfter keyword tokens = .ok (value, rest)) :
    ∃ tree : Command, lead.token :: tokens = tree.yield ++ rest ∧ tree.value = .ok value := by
  cases keyword with
  | use =>
    obtain ⟨text, last, nameRead, done⟩ := bind_eq_ok.1 h
    obtain ⟨rfl, rfl⟩ := pure_eq_ok.1 done
    rcases wordOrString_ok nameRead with ⟨word, rfl, rfl⟩ | ⟨quoted, rfl, rfl⟩
    · exact ⟨.useWord lead word, rfl, rfl⟩
    · exact ⟨.useQuoted lead quoted, rfl, rfl⟩
  | create =>
    rcases definition_ok h with ⟨kind, name, tree, attributes, rfl, valued, rfl⟩ |
      ⟨column, family, name, tree, attributes, rfl, valued, rfl⟩
    · refine ⟨.createKeyspace lead kind name tree, by simp [Command.yield, Terminal.yield], ?_⟩
      rw [Command.value, valued]
      rfl
    · refine ⟨.createFamily lead column family name tree, ?_, ?_⟩
      · simp [Command.yield, Terminal.yield]
      · rw [Command.value, valued]
        rfl
  | update =>
    rcases definition_ok h with ⟨kind, name, tree, attributes, rfl, valued, rfl⟩ |
      ⟨column, family, name, tree, attributes, rfl, valued, rfl⟩
    · refine ⟨.updateKeyspace lead kind name tree, by simp [Command.yield, Terminal.yield], ?_⟩
      rw [Command.value, valued]
      rfl
    · refine ⟨.updateFamily lead column family name tree, ?_, ?_⟩
      · simp [Command.yield, Terminal.yield]
      · rw [Command.value, valued]
        rfl
  | drop => exact dropTarget_ok lead h
  | assume =>
    obtain ⟨family, second, rfl, remaining⟩ := bind_ok word_ok h
    obtain ⟨kind, third, rfl, linked⟩ := bind_ok word_ok remaining
    obtain ⟨link, fourth, rfl, ends⟩ := keyword_bind_ok linked
    obtain ⟨validator, last, rfl, done⟩ := bind_ok word_ok ends
    obtain ⟨rfl, rfl⟩ := pure_eq_ok.1 done
    exact ⟨.assume lead family kind link validator, by simp [Command.yield, Terminal.yield], rfl⟩
  | set =>
    obtain ⟨address, second, addressRead, remaining⟩ := bind_eq_ok.1 h
    obtain ⟨ref, rfl, valued⟩ := address_ok addressRead
    obtain ⟨equal, third, rfl, contents⟩ := mark_bind_ok remaining
    obtain ⟨content, fourth, rfl, ends⟩ := bind_ok literal_ok contents
    obtain ⟨duration, last, ttlRead, done⟩ := bind_eq_ok.1 ends
    obtain ⟨ttl, rfl, lasting⟩ := timeToLive_ok ttlRead
    obtain ⟨rfl, rfl⟩ := pure_eq_ok.1 done
    refine ⟨.set lead ref equal content ttl, by simp [Command.yield, Terminal.yield], ?_⟩
    rw [Command.value, valued, lasting]
    rfl
  | get => exact getTarget_ok lead h
  | del =>
    obtain ⟨address, last, addressRead, done⟩ := bind_eq_ok.1 h
    obtain ⟨ref, rfl, valued⟩ := address_ok addressRead
    obtain ⟨rfl, rfl⟩ := pure_eq_ok.1 done
    refine ⟨.del lead ref, rfl, ?_⟩
    rw [Command.value, valued]
    rfl
  | incr =>
    obtain ⟨ref, amount, address, number, rfl, valued, counted, rfl⟩ := counterChange_ok h
    refine ⟨.incr lead ref amount, by simp [Command.yield, Terminal.yield], ?_⟩
    rw [Command.value, valued, counted]
    rfl
  | decr =>
    obtain ⟨ref, amount, address, number, rfl, valued, counted, rfl⟩ := counterChange_ok h
    refine ⟨.decr lead ref amount, by simp [Command.yield, Terminal.yield], ?_⟩
    rw [Command.value, valued, counted]
    rfl
  | count =>
    obtain ⟨address, last, addressRead, done⟩ := bind_eq_ok.1 h
    obtain ⟨ref, rfl, valued⟩ := address_ok addressRead
    obtain ⟨rfl, rfl⟩ := pure_eq_ok.1 done
    refine ⟨.count lead ref, rfl, ?_⟩
    rw [Command.value, valued]
    rfl
  | list =>
    obtain ⟨family, second, rfl, remaining⟩ := bind_ok word_ok h
    obtain ⟨range, third, rfl, ends⟩ := bind_ok range_ok remaining
    obtain ⟨bound, last, limitRead, done⟩ := bind_eq_ok.1 ends
    obtain ⟨limit, rfl, limited⟩ := limit_ok limitRead
    obtain ⟨rfl, rfl⟩ := pure_eq_ok.1 done
    refine ⟨.list lead family range limit, by simp [Command.yield, Terminal.yield], ?_⟩
    rw [Command.value, limited]
    rfl
  | truncate =>
    obtain ⟨family, last, rfl, done⟩ := bind_ok word_ok h
    obtain ⟨rfl, rfl⟩ := pure_eq_ok.1 done
    exact ⟨.truncate lead family, rfl, rfl⟩
  | describe =>
    obtain ⟨words, left, rfl, ends⟩ := bind_ok words_ok h
    obtain ⟨target, last, ruled, done⟩ := bind_eq_ok.1 ends
    obtain ⟨settles, rfl⟩ := settle_eq_ok ruled
    obtain ⟨rfl, rfl⟩ := pure_eq_ok.1 done
    -- The grammar has a production of its own for no words at all.
    cases words with
    | nil => exact ⟨.describe lead, rfl, by rw [Command.value, ← List.map_nil, settles]; rfl⟩
    | cons first others =>
      obtain ⟨list, yields, values⟩ := exists_wordList first others
      refine ⟨.describeWords lead list, ?_, ?_⟩
      · simp [Command.yield, yields, Terminal.yield]
      · rw [Command.value, values, ← List.map_cons, settles]
        rfl
  | «show» =>
    obtain ⟨first, second, rfl, remaining⟩ := bind_ok word_ok h
    obtain ⟨others, third, rfl, ends⟩ := bind_ok words_ok remaining
    obtain ⟨target, last, ruled, done⟩ := bind_eq_ok.1 ends
    obtain ⟨settles, rfl⟩ := settle_eq_ok ruled
    obtain ⟨rfl, rfl⟩ := pure_eq_ok.1 done
    obtain ⟨list, yields, values⟩ := exists_wordList first others
    refine ⟨.show lead list, ?_, ?_⟩
    · simp [Command.yield, yields, Terminal.yield]
    · rw [Command.value, values, settles]
      rfl
  | help =>
    obtain ⟨words, left, rfl, done⟩ := bind_ok words_ok h
    obtain ⟨rfl, rfl⟩ := pure_eq_ok.1 done
    cases words with
    | nil => exact ⟨.help lead, rfl, rfl⟩
    | cons first others =>
      obtain ⟨list, yields, values⟩ := exists_wordList first others
      refine ⟨.helpWords lead list, ?_, ?_⟩
      · simp [Command.yield, yields, Terminal.yield]
      · rw [Command.value, values]
        rfl
  | connect =>
    obtain ⟨host, second, rfl, remaining⟩ := bind_ok host_ok h
    obtain ⟨slash, third, rfl, ends⟩ := mark_bind_ok remaining
    obtain ⟨port, fourth, rfl, settled⟩ := bind_ok word_ok ends
    obtain ⟨number, last, ruled, done⟩ := bind_eq_ok.1 settled
    obtain ⟨settles, rfl⟩ := settle_eq_ok ruled
    obtain ⟨rfl, rfl⟩ := pure_eq_ok.1 done
    refine ⟨.connect lead host slash port, by simp [Command.yield, Terminal.yield], ?_⟩
    rw [Command.value, settles]
    rfl
  | exit =>
    obtain ⟨rfl, rfl⟩ := pure_eq_ok.1 h
    exact ⟨.exit lead, rfl, rfl⟩
  | quit =>
    obtain ⟨rfl, rfl⟩ := pure_eq_ok.1 h
    exact ⟨.quit lead, rfl, rfl⟩
  -- The keywords that are left lead no command.
  | _ => cases h

theorem command_ok {value : WideColumn.Command} {tokens rest : List Token}
    (h : Parser.command tokens = .ok (value, rest)) :
    ∃ tree : Command, tokens = tree.yield ++ rest ∧ tree.value = .ok value := by
  rcases choice_eq_ok h with question | lead
  · obtain ⟨mark, last, rfl, done⟩ := mark_bind_ok question
    obtain ⟨rfl, rfl⟩ := pure_eq_ok.1 done
    exact ⟨.question mark, rfl, rfl⟩
  · obtain ⟨token, left, taken, remaining⟩ := bind_eq_ok.1 lead
    obtain ⟨-, rfl⟩ := take_eq_ok.1 taken
    cases kind : token.kind with
    | keyword keyword =>
      simp only [kind] at remaining
      exact commandAfter_ok ⟨token, kind⟩ remaining
    | _ =>
      simp only [kind] at remaining
      cases remaining

/-- A statement that was read to the end has a derivation tree with its command. -/
theorem statement_ok {value : WideColumn.Command} {tokens rest : List Token}
    (h : Parser.statement tokens = .ok (value, rest)) :
    ∃ tree : Statement, tree.yield = tokens ∧ tree.value = .ok value := by
  obtain ⟨found, left, commandRead, remaining⟩ := bind_eq_ok.1 h
  obtain ⟨command, rfl, valued⟩ := command_ok commandRead
  obtain ⟨semicolon, last, closed, ends⟩ := bind_eq_ok.1 remaining
  -- Nothing may be left after the command but one semicolon.
  cases last with
  | cons token others => cases ends
  | nil =>
    cases ends
    rcases optional_eq_ok closed with ⟨_, markRead, rfl⟩ | ⟨rfl, rfl⟩
    · obtain ⟨sign, rfl⟩ := mark_eq_ok.1 markRead
      exact ⟨.closed command sign, rfl, valued⟩
    · exact ⟨.bare command, (List.append_nil _).symm, valued⟩

end WideColumn.Grammar
