import WideColumn.Proofs.Grammar.Follow

/-!
# The grammar is unambiguous

A list of tokens has at most one derivation tree. For each nonterminal more is shown: if the tokens
of two trees stand in front of two lists, and the whole is the same, then the trees are the same and
so is what comes after them (`Splits`). What comes after must not begin with a token that could go
on with the tree; without this condition a word before an open parenthesis could be a whole literal
or the name of a cast.

That keywords are words does no harm: where a list of words ends, and where a clause is left out,
the next token is never one that a word could be.
-/

namespace WideColumn.Grammar

open WideColumn.Parser

/-- Trees are told apart by their tokens in front of anything that can follow them. -/
def Splits {Tree : Type} (yield : Tree → List Token) (stops : List Token → Prop) : Prop :=
  ∀ ⦃tree other : Tree⦄ ⦃rest more : List Token⦄, stops rest → stops more →
    yield tree ++ rest = yield other ++ more → tree = other ∧ rest = more

/-! ### Tokens -/

@[simp] theorem Terminal.token_inj {kind : Token.Kind} {terminal other : Terminal kind} :
    terminal.token = other.token ↔ terminal = other := by
  constructor
  · intro h
    cases terminal
    cases other
    cases h
    rfl
  · rintro rfl
    rfl

/-- Tokens of two sorts are not the same. -/
theorem Terminal.token_ne {kind sort : Token.Kind} (terminal : Terminal kind)
    (other : Terminal sort) (apart : kind ≠ sort) : terminal.token ≠ other.token := by
  intro same
  exact apart (terminal.kind_eq.symm.trans ((congrArg Token.kind same).trans other.kind_eq))

/-- A word is not the token of a sort that is none of words. -/
theorem Word.token_ne (word : Word) {token : Token} (apart : token.isWord = false) :
    word.token ≠ token := by
  rintro rfl
  rw [word.isWord_token] at apart
  cases apart

@[simp] theorem Word.token_inj {word other : Word} : word.token = other.token ↔ word = other := by
  constructor
  · intro h
    cases word with
    | plain token =>
      cases other with
      | plain token' => exact congrArg plain (Terminal.token_inj.1 h)
      | reserved keyword' token' => exact absurd h (token.token_ne token' (by simp))
    | reserved keyword token =>
      cases other with
      | plain token' => exact absurd h (token.token_ne token' (by simp))
      | reserved keyword' token' =>
        by_cases same : keyword = keyword'
        · subst same
          exact congrArg (reserved keyword) (Terminal.token_inj.1 h)
        · exact absurd h (token.token_ne token' (by simpa using same))
  · rintro rfl
    rfl

@[simp] theorem word_ne_quoted (word : Word) (text : Quoted) : word.token ≠ text.token :=
  word.token_ne text.isWord_token

@[simp] theorem quoted_ne_word (text : Quoted) (word : Word) : text.token ≠ word.token :=
  (word_ne_quoted word text).symm

@[simp] theorem word_ne_sign (word : Word) {mark : Mark} (sign : Sign mark) :
    word.token ≠ sign.token :=
  word.token_ne sign.isWord_token

@[simp] theorem sign_ne_word {mark : Mark} (sign : Sign mark) (word : Word) :
    sign.token ≠ word.token :=
  (word_ne_sign word sign).symm

@[simp] theorem quoted_ne_sign (text : Quoted) {mark : Mark} (sign : Sign mark) :
    text.token ≠ sign.token :=
  text.token_ne sign (by simp)

@[simp] theorem sign_ne_quoted {mark : Mark} (sign : Sign mark) (text : Quoted) :
    sign.token ≠ text.token :=
  sign.token_ne text (by simp)

theorem terminal_splits (kind : Token.Kind) :
    Splits (Terminal.yield : Terminal kind → List Token) fun _ => True := by
  intro terminal other rest more _ _ same
  simpa [Terminal.yield] using same

theorem word_splits : Splits Word.yield fun _ => True := by
  intro word other rest more _ _ same
  simpa [Word.yield] using same

/-- Lists are not the same if a class has the first token of only one of them. -/
theorem ne_of_head {begins : Token → Bool} {tokens others : List Token}
    (h : tokens.head?.any begins = true) (h' : Without begins others) : tokens ≠ others := by
  rintro rfl
  exact Bool.noConfusion (h.symm.trans h')

/-! ### Lists -/

/-- Items in a row are told apart if each of them is and if what follows begins none. -/
theorem flatMap_splits {Item : Type} {yield : Item → List Token} {stops : List Token → Prop}
    {begins : Token → Bool} (item : Splits yield stops)
    (starts : ∀ item rest, (yield item ++ rest).head?.any begins = true)
    (between : ∀ item rest, stops (yield item ++ rest)) :
    Splits (fun items : List Item => items.flatMap yield) fun rest =>
      stops rest ∧ Without begins rest := by
  intro items others rest more ⟨last, ends⟩ ⟨last', ends'⟩ same
  -- If one list is longer, its next item begins where the other list has ended.
  induction items generalizing others with
  | nil =>
    cases others with
    | nil => exact ⟨rfl, same⟩
    | cons other others =>
      have begun := starts other (others.flatMap yield ++ more)
      rw [← List.append_assoc, ← List.flatMap_cons, ← same] at begun
      exact absurd rfl (ne_of_head begun ends)
  | cons first items ih =>
    cases others with
    | nil =>
      have begun := starts first (items.flatMap yield ++ rest)
      rw [← List.append_assoc, ← List.flatMap_cons, same] at begun
      exact absurd rfl (ne_of_head begun ends')
    | cons other others =>
      simp only [List.flatMap_cons, List.append_assoc] at same
      obtain ⟨rfl, tail⟩ := item (stops_flatMap between last items) (stops_flatMap between last' others)
        same
      obtain ⟨rfl, rfl⟩ := ih tail
      exact ⟨rfl, rfl⟩

/-- Chains of items are told apart if their entries are: the first item without a separator and
each other one with it. -/
theorem chain_splits {Separator Item : Type} {separatorYield : Separator → List Token}
    {itemYield : Item → List Token} {stops : List Token → Prop} {begins : Token → Bool}
    (item : Splits itemYield stops) (separator : Splits separatorYield fun _ => True)
    (starts : ∀ sign item rest,
      (separatorYield sign ++ itemYield item ++ rest).head?.any begins = true)
    (between : ∀ sign item rest, stops (separatorYield sign ++ itemYield item ++ rest)) :
    Splits (Chain.tokens separatorYield itemYield) fun rest => stops rest ∧ Without begins rest := by
  have entry : Splits (fun entry : Separator × Item => separatorYield entry.1 ++ itemYield entry.2)
      stops := by
    rintro ⟨sign, tree⟩ ⟨sign', other⟩ rest more ends ends' same
    simp only [List.append_assoc] at same
    obtain ⟨rfl, tail⟩ := separator trivial trivial same
    obtain ⟨rfl, rfl⟩ := item ends ends' tail
    exact ⟨rfl, rfl⟩
  have between := fun entry : Separator × Item => between entry.1 entry.2
  have entries := flatMap_splits entry (fun entry => starts entry.1 entry.2) between
  intro chain other rest more ends ends' same
  simp only [Chain.tokens_eq, List.append_assoc] at same
  obtain ⟨first, tail⟩ := item (stops_flatMap between ends.1 chain.others)
    (stops_flatMap between ends'.1 other.others) same
  obtain ⟨others, rfl⟩ := entries ends ends' tail
  exact ⟨Chain.eq_of_others first others, rfl⟩

/-! ### Literals and addresses -/

theorem literal_splits : Splits Literal.yield (Without (Token.isMark .openParen)) := by
  intro tree other rest more ends ends' same
  cases tree <;> cases other <;>
    simp only [Literal.yield, Terminal.yield, Word.yield, List.cons_append, List.nil_append,
      List.cons.injEq, Word.token_inj, Terminal.token_inj] at same <;>
    simp_all
  -- A word and a cast differ in the open parenthesis, which cannot follow the word.
  all_goals
    obtain ⟨rfl, rfl⟩ := same
    simp at ends'

theorem bracketed_splits : Splits Bracketed.yield fun _ => True := by
  rintro ⟨opening, literal, closing⟩ ⟨opening', literal', closing'⟩ rest more _ _ same
  simp only [Bracketed.yield, List.append_assoc] at same
  obtain ⟨rfl, inner⟩ := terminal_splits _ trivial trivial same
  obtain ⟨rfl, ends⟩ := literal_splits (by simp [Terminal.yield]) (by simp [Terminal.yield]) inner
  obtain ⟨rfl, rfl⟩ := terminal_splits _ trivial trivial ends
  exact ⟨rfl, rfl⟩

theorem nothing_splits : Splits (fun _ : Unit => []) fun _ => True :=
  fun _ _ _ _ _ _ same => ⟨rfl, same⟩

theorem bracketList_splits :
    Splits BracketList.yield fun rest => True ∧ Without (Token.isMark .openBracket) rest :=
  chain_splits bracketed_splits nothing_splits (by simp [Bracketed.yield, Terminal.yield])
    fun _ _ _ => trivial

theorem columnRef_splits : Splits ColumnRef.yield (Without (Token.isMark .openBracket)) := by
  rintro ⟨family, brackets⟩ ⟨family', brackets'⟩ rest more ends ends' same
  simp only [ColumnRef.yield, List.append_assoc] at same
  obtain ⟨rfl, inner⟩ := word_splits trivial trivial same
  obtain ⟨rfl, rfl⟩ := bracketList_splits ⟨trivial, ends⟩ ⟨trivial, ends'⟩ inner
  exact ⟨rfl, rfl⟩

/-! ### Attributes -/

theorem hashAtom_splits : Splits HashAtom.yield (Without (Token.isMark .dot)) := by
  intro tree other rest more ends ends' same
  cases tree <;> cases other <;>
    simp only [HashAtom.yield, Terminal.yield, Word.yield, List.cons_append, List.nil_append,
      List.cons.injEq, Word.token_inj, Terminal.token_inj] at same <;>
    simp_all
  -- A word and a decimal differ in the dot, which cannot follow the word.
  obtain ⟨rfl, rfl⟩ := same
  simp at ends'

theorem hashPair_splits : Splits HashPair.yield (Without (Token.isMark .dot)) := by
  rintro ⟨key, colon, content⟩ ⟨key', colon', content'⟩ rest more ends ends' same
  simp only [HashPair.yield, List.append_assoc] at same
  obtain ⟨rfl, second⟩ := hashAtom_splits (by simp [Terminal.yield]) (by simp [Terminal.yield]) same
  obtain ⟨rfl, third⟩ := terminal_splits _ trivial trivial second
  obtain ⟨rfl, rfl⟩ := hashAtom_splits ends ends' third
  exact ⟨rfl, rfl⟩

theorem hashItems_splits :
    Splits HashItems.yield fun rest =>
      Without (Token.isMark .dot) rest ∧ Without (Token.isMark .comma) rest :=
  chain_splits hashPair_splits (terminal_splits _) (by simp [Terminal.yield])
    (by simp [Terminal.yield])

theorem hash_splits : Splits Hash.yield fun _ => True := by
  intro tree other rest more _ _ same
  cases tree with
  | empty opening closing =>
    cases other with
    | empty opening' closing' => simpa [Hash.yield, Terminal.yield, and_assoc] using same
    | items opening' pairs' closing' =>
      simp only [Hash.yield, Terminal.yield, List.cons_append, List.nil_append, List.append_assoc,
        List.cons.injEq] at same
      exact absurd same.2 (ne_of_head (by simp) (pairs'.head_yield _ .closeBrace))
  | items opening pairs closing =>
    cases other with
    | empty opening' closing' =>
      simp only [Hash.yield, Terminal.yield, List.cons_append, List.nil_append, List.append_assoc,
        List.cons.injEq] at same
      exact absurd same.2.symm (ne_of_head (by simp) (pairs.head_yield _ .closeBrace))
    | items opening' pairs' closing' =>
      simp only [Hash.yield, List.append_assoc] at same
      obtain ⟨rfl, second⟩ := terminal_splits _ trivial trivial same
      obtain ⟨rfl, third⟩ := hashItems_splits (by simp [Terminal.yield]) (by simp [Terminal.yield])
        second
      obtain ⟨rfl, rfl⟩ := terminal_splits _ trivial trivial third
      exact ⟨rfl, rfl⟩

theorem arrayItem_splits : Splits ArrayItem.yield fun _ => True := by
  intro tree other rest more _ _ same
  cases tree with
  | hash entries =>
    cases other with
    | hash entries' =>
      obtain ⟨rfl, rfl⟩ := hash_splits trivial trivial same
      exact ⟨rfl, rfl⟩
    | word name | quoted text =>
      refine absurd same (ne_of_head (entries.head_yield rest .openBrace) ?_)
      simp [ArrayItem.yield, Terminal.yield, Word.yield]
  | word name | quoted text =>
    cases other with
    | hash entries =>
      refine absurd same.symm (ne_of_head (entries.head_yield more .openBrace) ?_)
      simp [ArrayItem.yield, Terminal.yield, Word.yield]
    | word name' | quoted text' =>
      simp_all [ArrayItem.yield, Terminal.yield, Word.yield]

theorem arrayItems_splits :
    Splits ArrayItems.yield fun rest => True ∧ Without (Token.isMark .comma) rest :=
  chain_splits arrayItem_splits (terminal_splits _) (by simp [Terminal.yield]) fun _ _ _ => trivial

theorem propertyValue_splits : Splits PropertyValue.yield (Without (Token.isMark .dot)) := by
  intro tree other rest more ends ends' same
  cases tree with
  | hash entries =>
    cases other with
    | hash entries' =>
      obtain ⟨rfl, rfl⟩ := hash_splits trivial trivial same
      exact ⟨rfl, rfl⟩
    | _ =>
      refine absurd same (ne_of_head (entries.head_yield rest .openBrace) ?_)
      simp [PropertyValue.yield, Terminal.yield, Word.yield]
  | array opening items closing =>
    cases other with
    | array opening' items' closing' =>
      simp only [PropertyValue.yield, List.append_assoc] at same
      obtain ⟨rfl, second⟩ := terminal_splits _ trivial trivial same
      obtain ⟨rfl, third⟩ := arrayItems_splits (by simp [Terminal.yield]) (by simp [Terminal.yield])
        second
      obtain ⟨rfl, rfl⟩ := terminal_splits _ trivial trivial third
      exact ⟨rfl, rfl⟩
    | emptyArray opening' closing' =>
      simp only [PropertyValue.yield, Terminal.yield, List.cons_append, List.nil_append,
        List.append_assoc, List.cons.injEq] at same
      exact absurd same.2.symm (ne_of_head (by simp) (items.head_yield _))
    | hash entries =>
      refine absurd same.symm (ne_of_head (entries.head_yield more .openBrace) ?_)
      simp [PropertyValue.yield, Terminal.yield]
    | _ => simp [PropertyValue.yield, Terminal.yield, Word.yield] at same
  | emptyArray opening closing =>
    cases other with
    | array opening' items' closing' =>
      simp only [PropertyValue.yield, Terminal.yield, List.cons_append, List.nil_append,
        List.append_assoc, List.cons.injEq] at same
      exact absurd same.2 (ne_of_head (by simp) (items'.head_yield _))
    | hash entries =>
      refine absurd same.symm (ne_of_head (entries.head_yield more .openBrace) ?_)
      simp [PropertyValue.yield, Terminal.yield]
    | _ => simp_all [PropertyValue.yield, Terminal.yield, Word.yield]
  | _ =>
    cases other with
    | hash entries =>
      refine absurd same.symm (ne_of_head (entries.head_yield more .openBrace) ?_)
      simp [PropertyValue.yield, Terminal.yield, Word.yield]
    | _ =>
      simp only [PropertyValue.yield, Terminal.yield, Word.yield, List.cons_append,
        List.nil_append, List.append_assoc, List.cons.injEq, Word.token_inj,
        Terminal.token_inj] at same
      simp_all <;> (obtain ⟨rfl, rfl⟩ := same; simp at ends')

theorem property_splits : Splits Property.yield (Without (Token.isMark .dot)) := by
  rintro ⟨name, equal, content⟩ ⟨name', equal', content'⟩ rest more ends ends' same
  simp only [Property.yield, List.append_assoc] at same
  obtain ⟨rfl, second⟩ := word_splits trivial trivial same
  obtain ⟨rfl, third⟩ := terminal_splits _ trivial trivial second
  obtain ⟨rfl, rfl⟩ := propertyValue_splits ends ends' third
  exact ⟨rfl, rfl⟩

theorem properties_splits :
    Splits PropertyList.yield fun rest =>
      Without (Token.isMark .dot) rest ∧ Without (Token.isKeyword .and) rest :=
  chain_splits property_splits (terminal_splits _) (by simp [Terminal.yield])
    (by simp [Terminal.yield])

/-! ### Clauses -/

theorem withClause_splits : Splits WithClause.yield (Follows commandEnd) := by
  intro tree other rest more ends ends' same
  cases tree <;> cases other
  case given.given lead properties lead' properties' =>
    simp only [WithClause.yield, List.append_assoc] at same
    obtain ⟨rfl, second⟩ := terminal_splits _ trivial trivial same
    obtain ⟨rfl, rfl⟩ := properties_splits
      ⟨ends.not_mark (by decide), ends.not_keyword (by decide)⟩
      ⟨ends'.not_mark (by decide), ends'.not_keyword (by decide)⟩ second
    exact ⟨rfl, rfl⟩
  -- Where only one tree has the clause, what follows the other begins with its keyword.
  all_goals simp_all [WithClause.yield, Terminal.yield, commandEnd]
  rw [← same] at ends'
  simp at ends'

theorem ttlClause_splits : Splits TtlClause.yield (Without (Token.isKeyword .with)) := by
  intro tree other rest more ends ends' same
  cases tree <;> cases other <;> simp_all [TtlClause.yield, Terminal.yield, Word.yield]
  rw [← same] at ends'
  simp at ends'

theorem asClause_splits : Splits AsClause.yield (Without (Token.isKeyword .as)) := by
  intro tree other rest more ends ends' same
  cases tree <;> cases other <;> simp_all [AsClause.yield, Terminal.yield, Word.yield]
  rw [← same] at ends'
  simp at ends'

theorem limitClause_splits : Splits LimitClause.yield (Without (Token.isKeyword .limit)) := by
  intro tree other rest more ends ends' same
  cases tree <;> cases other <;> simp_all [LimitClause.yield, Terminal.yield, Word.yield]
  rw [← same] at ends'
  simp at ends'

theorem byClause_splits : Splits ByClause.yield (Without (Token.isKeyword .by)) := by
  intro tree other rest more ends ends' same
  cases tree <;> cases other <;> simp_all [ByClause.yield, Terminal.yield, Word.yield]
  rw [← same] at ends'
  simp at ends'

/-! ### Conditions and ranges -/

/-- The mark of a comparison tells which one it is. -/
theorem comparisonMark_inj {shown other : Comparison} :
    comparisonMark shown = comparisonMark other ↔ shown = other := by
  cases shown <;> cases other <;> decide

theorem condition_splits : Splits Condition.yield (Without (Token.isMark .openParen)) := by
  rintro ⟨column, shown, sign, content⟩ ⟨column', shown', sign', content'⟩ rest more ends ends' same
  simp only [Condition.yield, List.append_assoc] at same
  have opens := comparisonMark_ne_openParen
  obtain ⟨rfl, second⟩ := literal_splits (by simp [Terminal.yield, opens])
    (by simp [Terminal.yield, opens]) same
  simp only [Terminal.yield, List.cons_append, List.nil_append, List.cons.injEq] at second
  obtain ⟨first, third⟩ := second
  -- Two comparisons have the same mark only if they are the same.
  by_cases kinds : shown = shown'
  · subst kinds
    obtain ⟨rfl, rfl⟩ := literal_splits ends ends' third
    obtain rfl := Terminal.token_inj.1 first
    exact ⟨rfl, rfl⟩
  · exact absurd first (sign.token_ne sign' (by simpa [comparisonMark_inj] using kinds))

theorem conditions_splits : Splits ConditionList.yield (Follows conditionsEnd) := by
  have chain : Splits ConditionList.yield fun rest =>
      Without (Token.isMark .openParen) rest ∧ Without (Token.isKeyword .and) rest :=
    chain_splits condition_splits (terminal_splits _) (by simp [Terminal.yield])
      (by simp [Terminal.yield])
  intro tree other rest more ends ends' same
  exact chain ⟨ends.not_mark (by decide), ends.not_keyword (by decide)⟩
    ⟨ends'.not_mark (by decide), ends'.not_keyword (by decide)⟩ same

/-- A bound of a range is told apart in front of the mark that ends it. -/
theorem rangeBound_splits {mark : Mark} (other : mark ≠ .openParen) {bound bound' : RangeBound}
    {closing closing' : Sign mark} {rest more : List Token}
    (same : bound.yield ++ closing.token :: rest = bound'.yield ++ closing'.token :: more) :
    bound = bound' ∧ closing = closing' ∧ rest = more := by
  cases bound with
  | empty =>
    cases bound' with
    | empty => simpa [RangeBound.yield] using same
    | given literal =>
      exact absurd same (ne_of_head (by simp [RangeBound.yield]) (literal.head_yield _ mark))
  | given literal =>
    cases bound' with
    | empty =>
      exact absurd same.symm (ne_of_head (by simp [RangeBound.yield]) (literal.head_yield _ mark))
    | given literal' =>
      obtain ⟨rfl, ends⟩ := literal_splits (by simp [other]) (by simp [other]) same
      simpa using ends

theorem rangeClause_splits : Splits RangeClause.yield (Without (Token.isMark .openBracket)) := by
  intro tree other rest more ends ends' same
  cases tree <;> cases other
  case given.given opening start colon stop closing opening' start' colon' stop' closing' =>
    simp only [RangeClause.yield, Terminal.yield, List.append_assoc, List.cons_append,
      List.nil_append, List.cons.injEq, Terminal.token_inj] at same
    obtain ⟨rfl, second⟩ := same
    obtain ⟨rfl, rfl, third⟩ := rangeBound_splits (by decide) second
    obtain ⟨rfl, rfl, rfl⟩ := rangeBound_splits (by decide) third
    exact ⟨rfl, rfl⟩
  all_goals simp_all [RangeClause.yield, Terminal.yield]
  rw [← same] at ends'
  simp at ends'

theorem host_splits :
    Splits Host.yield fun rest => True ∧ Without (Token.isMark .dot) rest :=
  chain_splits word_splits (terminal_splits _) (by simp [Terminal.yield]) fun _ _ _ => trivial

theorem words_splits : Splits WordList.yield fun rest => True ∧ Without Token.isWord rest :=
  chain_splits word_splits nothing_splits (by simp [Word.yield]) fun _ _ _ => trivial

/-! ### Commands -/

section Productions

variable {keyword : Keyword} {lead lead' : Reserved keyword} {rest more : List Token}

theorem keyspaceDefinition_splits {kind kind' : Reserved .keyspace} {name name' : Word}
    {attributes attributes' : WithClause} (ends : Follows commandEnd rest)
    (ends' : Follows commandEnd more)
    (same : lead.yield ++ (kind.yield ++ (name.yield ++ (attributes.yield ++ rest))) =
      lead'.yield ++ (kind'.yield ++ (name'.yield ++ (attributes'.yield ++ more)))) :
    lead = lead' ∧ kind = kind' ∧ name = name' ∧ attributes = attributes' ∧ rest = more := by
  obtain ⟨rfl, second⟩ := terminal_splits _ trivial trivial same
  obtain ⟨rfl, third⟩ := terminal_splits _ trivial trivial second
  obtain ⟨rfl, fourth⟩ := word_splits trivial trivial third
  obtain ⟨rfl, rfl⟩ := withClause_splits ends ends' fourth
  exact ⟨rfl, rfl, rfl, rfl, rfl⟩

theorem familyDefinition_splits {column column' : Reserved .column}
    {family family' : Reserved .family} {name name' : Word} {attributes attributes' : WithClause}
    (ends : Follows commandEnd rest) (ends' : Follows commandEnd more)
    (same :
      lead.yield ++ (column.yield ++ (family.yield ++ (name.yield ++ (attributes.yield ++ rest)))) =
        lead'.yield ++
          (column'.yield ++ (family'.yield ++ (name'.yield ++ (attributes'.yield ++ more))))) :
    lead = lead' ∧ column = column' ∧ family = family' ∧ name = name' ∧
      attributes = attributes' ∧ rest = more := by
  obtain ⟨rfl, second⟩ := terminal_splits _ trivial trivial same
  obtain ⟨rfl, third⟩ := terminal_splits _ trivial trivial second
  obtain ⟨rfl, fourth⟩ := terminal_splits _ trivial trivial third
  obtain ⟨rfl, fifth⟩ := word_splits trivial trivial fourth
  obtain ⟨rfl, rfl⟩ := withClause_splits ends ends' fifth
  exact ⟨rfl, rfl, rfl, rfl, rfl, rfl⟩

theorem addressed_splits {address address' : ColumnRef} (ends : Follows commandEnd rest)
    (ends' : Follows commandEnd more)
    (same : lead.yield ++ (address.yield ++ rest) = lead'.yield ++ (address'.yield ++ more)) :
    lead = lead' ∧ address = address' ∧ rest = more := by
  obtain ⟨rfl, second⟩ := terminal_splits _ trivial trivial same
  obtain ⟨rfl, rfl⟩ := columnRef_splits (ends.not_mark (by decide)) (ends'.not_mark (by decide))
    second
  exact ⟨rfl, rfl, rfl⟩

theorem counterChange_splits {address address' : ColumnRef} {amount amount' : ByClause}
    (ends : Follows commandEnd rest) (ends' : Follows commandEnd more)
    (same : lead.yield ++ (address.yield ++ (amount.yield ++ rest)) =
      lead'.yield ++ (address'.yield ++ (amount'.yield ++ more))) :
    lead = lead' ∧ address = address' ∧ amount = amount' ∧ rest = more := by
  obtain ⟨rfl, second⟩ := terminal_splits _ trivial trivial same
  obtain ⟨rfl, third⟩ := columnRef_splits ((amount.follows ends).not_mark (by decide))
    ((amount'.follows ends').not_mark (by decide)) second
  obtain ⟨rfl, rfl⟩ := byClause_splits (ends.not_keyword (by decide))
    (ends'.not_keyword (by decide)) third
  exact ⟨rfl, rfl, rfl, rfl⟩

theorem commandWords_splits {words words' : WordList} (ends : Follows commandEnd rest)
    (ends' : Follows commandEnd more)
    (same : lead.yield ++ (words.yield ++ rest) = lead'.yield ++ (words'.yield ++ more)) :
    lead = lead' ∧ words = words' ∧ rest = more := by
  obtain ⟨rfl, second⟩ := terminal_splits _ trivial trivial same
  obtain ⟨rfl, rfl⟩ := words_splits ⟨trivial, not_word_of_commandEnd ends⟩
    ⟨trivial, not_word_of_commandEnd ends'⟩ second
  exact ⟨rfl, rfl, rfl⟩

/-- No command is followed by a word, so words after the keyword belong to the command. -/
theorem bare_ne_commandWords {words : WordList} (ends : Follows commandEnd rest) :
    lead.yield ++ rest ≠ lead'.yield ++ (words.yield ++ more) := by
  intro same
  obtain ⟨-, second⟩ := terminal_splits _ trivial trivial same
  exact ne_of_head (words.head_yield more) (not_word_of_commandEnd ends) second.symm

end Productions

namespace Command

/-- The sort of the token that a command begins with. -/
def leadKind : Command → Token.Kind
  | useWord _ _ | useQuoted _ _ => .keyword .use
  | connect _ _ _ _ => .keyword .connect
  | exit _ => .keyword .exit
  | quit _ => .keyword .quit
  | createKeyspace _ _ _ _ | createFamily _ _ _ _ _ => .keyword .create
  | updateKeyspace _ _ _ _ | updateFamily _ _ _ _ _ => .keyword .update
  | dropKeyspace _ _ _ | dropFamily _ _ _ _ | dropIndex _ _ _ _ _ _ => .keyword .drop
  | assume _ _ _ _ _ => .keyword .assume
  | set _ _ _ _ _ => .keyword .set
  | get _ _ _ _ | getWhere _ _ _ _ _ => .keyword .get
  | del _ _ => .keyword .del
  | incr _ _ _ => .keyword .incr
  | decr _ _ _ => .keyword .decr
  | count _ _ => .keyword .count
  | list _ _ _ _ => .keyword .list
  | truncate _ _ => .keyword .truncate
  | describe _ | describeWords _ _ => .keyword .describe
  | «show» _ _ => .keyword .show
  | help _ | helpWords _ _ => .keyword .help
  | question _ => .mark .question

theorem head_yield (tree : Command) (rest : List Token) :
    (tree.yield ++ rest).head?.map Token.kind = some tree.leadKind := by
  cases tree with
  | _ => simp [yield, leadKind, Terminal.yield]

/-- Trees with the same tokens in front begin with the same keyword. -/
theorem leadKind_eq {tree other : Command} {rest more : List Token}
    (same : tree.yield ++ rest = other.yield ++ more) : tree.leadKind = other.leadKind := by
  have first := tree.head_yield rest
  rw [same, other.head_yield more] at first
  exact (Option.some.inj first).symm

end Command

theorem command_splits : Splits Command.yield (Follows commandEnd) := by
  intro tree other rest more ends ends' same
  have leads := Command.leadKind_eq same
  -- Trees of commands with different keywords are told apart by these.
  cases tree with
  | useWord lead name | useQuoted lead name =>
    cases other with
    | useWord lead' name' | useQuoted lead' name' =>
      simp_all [Command.yield, Terminal.yield, Word.yield]
    | _ => cases leads
  | connect lead host slash port =>
    cases other with
    | connect lead' host' slash' port' =>
      simp only [Command.yield, List.append_assoc] at same
      obtain ⟨rfl, second⟩ := terminal_splits _ trivial trivial same
      obtain ⟨rfl, third⟩ := host_splits (by simp [Terminal.yield]) (by simp [Terminal.yield]) second
      obtain ⟨rfl, fourth⟩ := terminal_splits _ trivial trivial third
      obtain ⟨rfl, rfl⟩ := word_splits trivial trivial fourth
      exact ⟨rfl, rfl⟩
    | _ => cases leads
  | exit lead =>
    cases other with
    | exit lead' => simp_all [Command.yield, Terminal.yield]
    | _ => cases leads
  | quit lead =>
    cases other with
    | quit lead' => simp_all [Command.yield, Terminal.yield]
    | _ => cases leads
  | createKeyspace lead kind name attributes =>
    cases other with
    | createKeyspace lead' kind' name' attributes' =>
      simp only [Command.yield, List.append_assoc] at same
      obtain ⟨rfl, rfl, rfl, rfl, rfl⟩ := keyspaceDefinition_splits ends ends' same
      exact ⟨rfl, rfl⟩
    | createFamily lead' column' family' name' attributes' =>
      simp [Command.yield, Terminal.yield, kind.token_ne column'] at same
    | _ => cases leads
  | createFamily lead column family name attributes =>
    cases other with
    | createKeyspace lead' kind' name' attributes' =>
      simp [Command.yield, Terminal.yield, column.token_ne kind'] at same
    | createFamily lead' column' family' name' attributes' =>
      simp only [Command.yield, List.append_assoc] at same
      obtain ⟨rfl, rfl, rfl, rfl, rfl, rfl⟩ := familyDefinition_splits ends ends' same
      exact ⟨rfl, rfl⟩
    | _ => cases leads
  | updateKeyspace lead kind name attributes =>
    cases other with
    | updateKeyspace lead' kind' name' attributes' =>
      simp only [Command.yield, List.append_assoc] at same
      obtain ⟨rfl, rfl, rfl, rfl, rfl⟩ := keyspaceDefinition_splits ends ends' same
      exact ⟨rfl, rfl⟩
    | updateFamily lead' column' family' name' attributes' =>
      simp [Command.yield, Terminal.yield, kind.token_ne column'] at same
    | _ => cases leads
  | updateFamily lead column family name attributes =>
    cases other with
    | updateKeyspace lead' kind' name' attributes' =>
      simp [Command.yield, Terminal.yield, column.token_ne kind'] at same
    | updateFamily lead' column' family' name' attributes' =>
      simp only [Command.yield, List.append_assoc] at same
      obtain ⟨rfl, rfl, rfl, rfl, rfl, rfl⟩ := familyDefinition_splits ends ends' same
      exact ⟨rfl, rfl⟩
    | _ => cases leads
  | dropKeyspace lead kind name =>
    cases other with
    | dropKeyspace lead' kind' name' => simp_all [Command.yield, Terminal.yield, Word.yield]
    | dropFamily lead' column' family' name' =>
      simp [Command.yield, Terminal.yield, kind.token_ne column'] at same
    | dropIndex lead' index' on' family' dot' column' =>
      simp [Command.yield, Terminal.yield, kind.token_ne index'] at same
    | _ => cases leads
  | dropFamily lead column family name =>
    cases other with
    | dropKeyspace lead' kind' name' =>
      simp [Command.yield, Terminal.yield, column.token_ne kind'] at same
    | dropFamily lead' column' family' name' =>
      simp_all [Command.yield, Terminal.yield, Word.yield]
    | dropIndex lead' index' on' family' dot' column' =>
      simp [Command.yield, Terminal.yield, column.token_ne index'] at same
    | _ => cases leads
  | dropIndex lead index on family dot column =>
    cases other with
    | dropKeyspace lead' kind' name' =>
      simp [Command.yield, Terminal.yield, index.token_ne kind'] at same
    | dropFamily lead' column' family' name' =>
      simp [Command.yield, Terminal.yield, index.token_ne column'] at same
    | dropIndex lead' index' on' family' dot' column' =>
      simp only [Command.yield, Terminal.yield, Word.yield, List.cons_append, List.nil_append,
        List.cons.injEq, Terminal.token_inj, Word.token_inj] at same
      obtain ⟨rfl, rfl, rfl, rfl, rfl, last⟩ := same
      obtain ⟨rfl, rfl⟩ := literal_splits (ends.not_mark (by decide)) (ends'.not_mark (by decide))
        last
      exact ⟨rfl, rfl⟩
    | _ => cases leads
  | assume lead family kind link validator =>
    cases other with
    | assume lead' family' kind' link' validator' =>
      simp_all [Command.yield, Terminal.yield, Word.yield]
    | _ => cases leads
  | set lead address equal content ttl =>
    cases other with
    | set lead' address' equal' content' ttl' =>
      simp only [Command.yield, List.append_assoc] at same
      obtain ⟨rfl, second⟩ := terminal_splits _ trivial trivial same
      obtain ⟨rfl, third⟩ := columnRef_splits (by simp [Terminal.yield]) (by simp [Terminal.yield])
        second
      obtain ⟨rfl, fourth⟩ := terminal_splits _ trivial trivial third
      obtain ⟨rfl, fifth⟩ := literal_splits ((ttl.follows ends).not_mark (by decide))
        ((ttl'.follows ends').not_mark (by decide)) fourth
      obtain ⟨rfl, rfl⟩ := ttlClause_splits (ends.not_keyword (by decide))
        (ends'.not_keyword (by decide)) fifth
      exact ⟨rfl, rfl⟩
    | _ => cases leads
  | get lead address validator limit =>
    cases other with
    | get lead' address' validator' limit' =>
      simp only [Command.yield, List.append_assoc] at same
      obtain ⟨rfl, second⟩ := terminal_splits _ trivial trivial same
      obtain ⟨rfl, third⟩ := columnRef_splits
        ((validator.follows (limit.follows ends)).not_mark (by decide))
        ((validator'.follows (limit'.follows ends')).not_mark (by decide)) second
      obtain ⟨rfl, fourth⟩ := asClause_splits ((limit.follows ends).not_keyword (by decide))
        ((limit'.follows ends').not_keyword (by decide)) third
      obtain ⟨rfl, rfl⟩ := limitClause_splits (ends.not_keyword (by decide))
        (ends'.not_keyword (by decide)) fourth
      exact ⟨rfl, rfl⟩
    | getWhere lead' family' link' conditions' limit' =>
      simp only [Command.yield, ColumnRef.yield, Terminal.yield, Word.yield, List.append_assoc,
        List.cons_append, List.nil_append, List.cons.injEq] at same
      exact absurd same.2.2 (ne_of_head (address.brackets.head_yield _) (by simp))
    | _ => cases leads
  | getWhere lead family link conditions limit =>
    cases other with
    | get lead' address' validator' limit' =>
      simp only [Command.yield, ColumnRef.yield, Terminal.yield, Word.yield, List.append_assoc,
        List.cons_append, List.nil_append, List.cons.injEq] at same
      exact absurd same.2.2.symm (ne_of_head (address'.brackets.head_yield _) (by simp))
    | getWhere lead' family' link' conditions' limit' =>
      simp only [Command.yield, List.append_assoc] at same
      obtain ⟨rfl, second⟩ := terminal_splits _ trivial trivial same
      obtain ⟨rfl, third⟩ := word_splits trivial trivial second
      obtain ⟨rfl, fourth⟩ := terminal_splits _ trivial trivial third
      obtain ⟨rfl, fifth⟩ := conditions_splits (limit.follows ends) (limit'.follows ends') fourth
      obtain ⟨rfl, rfl⟩ := limitClause_splits (ends.not_keyword (by decide))
        (ends'.not_keyword (by decide)) fifth
      exact ⟨rfl, rfl⟩
    | _ => cases leads
  | del lead address =>
    cases other with
    | del lead' address' =>
      simp only [Command.yield, List.append_assoc] at same
      obtain ⟨rfl, rfl, rfl⟩ := addressed_splits ends ends' same
      exact ⟨rfl, rfl⟩
    | _ => cases leads
  | incr lead address amount =>
    cases other with
    | incr lead' address' amount' =>
      simp only [Command.yield, List.append_assoc] at same
      obtain ⟨rfl, rfl, rfl, rfl⟩ := counterChange_splits ends ends' same
      exact ⟨rfl, rfl⟩
    | _ => cases leads
  | decr lead address amount =>
    cases other with
    | decr lead' address' amount' =>
      simp only [Command.yield, List.append_assoc] at same
      obtain ⟨rfl, rfl, rfl, rfl⟩ := counterChange_splits ends ends' same
      exact ⟨rfl, rfl⟩
    | _ => cases leads
  | count lead address =>
    cases other with
    | count lead' address' =>
      simp only [Command.yield, List.append_assoc] at same
      obtain ⟨rfl, rfl, rfl⟩ := addressed_splits ends ends' same
      exact ⟨rfl, rfl⟩
    | _ => cases leads
  | list lead family range limit =>
    cases other with
    | list lead' family' range' limit' =>
      simp only [Command.yield, List.append_assoc] at same
      obtain ⟨rfl, second⟩ := terminal_splits _ trivial trivial same
      obtain ⟨rfl, third⟩ := word_splits trivial trivial second
      obtain ⟨rfl, fourth⟩ := rangeClause_splits ((limit.follows ends).not_mark (by decide))
        ((limit'.follows ends').not_mark (by decide)) third
      obtain ⟨rfl, rfl⟩ := limitClause_splits (ends.not_keyword (by decide))
        (ends'.not_keyword (by decide)) fourth
      exact ⟨rfl, rfl⟩
    | _ => cases leads
  | truncate lead family =>
    cases other with
    | truncate lead' family' => simp_all [Command.yield, Terminal.yield, Word.yield]
    | _ => cases leads
  | describe lead =>
    cases other with
    | describe lead' => simp_all [Command.yield, Terminal.yield]
    | describeWords lead' words =>
      simp only [Command.yield, List.append_assoc] at same
      exact absurd same (bare_ne_commandWords ends)
    | _ => cases leads
  | describeWords lead words =>
    cases other with
    | describe lead' =>
      simp only [Command.yield, List.append_assoc] at same
      exact absurd same.symm (bare_ne_commandWords ends')
    | describeWords lead' words' =>
      simp only [Command.yield, List.append_assoc] at same
      obtain ⟨rfl, rfl, rfl⟩ := commandWords_splits ends ends' same
      exact ⟨rfl, rfl⟩
    | _ => cases leads
  | «show» lead words =>
    cases other with
    | «show» lead' words' =>
      simp only [Command.yield, List.append_assoc] at same
      obtain ⟨rfl, rfl, rfl⟩ := commandWords_splits ends ends' same
      exact ⟨rfl, rfl⟩
    | _ => cases leads
  | help lead =>
    cases other with
    | help lead' => simp_all [Command.yield, Terminal.yield]
    | helpWords lead' words =>
      simp only [Command.yield, List.append_assoc] at same
      exact absurd same (bare_ne_commandWords ends)
    | _ => cases leads
  | helpWords lead words =>
    cases other with
    | help lead' =>
      simp only [Command.yield, List.append_assoc] at same
      exact absurd same.symm (bare_ne_commandWords ends')
    | helpWords lead' words' =>
      simp only [Command.yield, List.append_assoc] at same
      obtain ⟨rfl, rfl, rfl⟩ := commandWords_splits ends ends' same
      exact ⟨rfl, rfl⟩
    | _ => cases leads
  | question mark =>
    cases other with
    | question mark' => simp_all [Command.yield, Terminal.yield]
    | _ => cases leads

/-- A list of tokens has at most one derivation tree. -/
theorem statement_unique {tree other : Statement} (same : tree.yield = other.yield) :
    tree = other := by
  have closedEnd : ∀ semicolon : Sign .semicolon, Follows commandEnd [semicolon.token] := by
    intro semicolon
    simp [commandEnd]
  cases tree with
  | closed command semicolon =>
    cases other with
    | closed command' semicolon' =>
      obtain ⟨rfl, ends⟩ := command_splits (closedEnd semicolon) (closedEnd semicolon') same
      simp only [List.cons.injEq, Terminal.token_inj, and_true] at ends
      rw [ends]
    | bare command' =>
      obtain ⟨-, ends⟩ := command_splits (closedEnd semicolon) Follows.nil
        (same.trans (List.append_nil _).symm)
      cases ends
  | bare command =>
    cases other with
    | closed command' semicolon' =>
      obtain ⟨-, ends⟩ := command_splits Follows.nil (closedEnd semicolon')
        ((List.append_nil _).trans same)
      cases ends
    | bare command' =>
      obtain ⟨rfl, -⟩ := command_splits Follows.nil Follows.nil
        ((List.append_nil _).trans (same.trans (List.append_nil _).symm))
      rfl

end WideColumn.Grammar
