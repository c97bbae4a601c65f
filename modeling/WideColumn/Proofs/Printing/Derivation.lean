import WideColumn.Proofs.Grammar
import WideColumn.Proofs.Printing.Lexing
import WideColumn.Proofs.Tables

/-!
# Printed pieces have a derivation

Tokens that read the pieces of a part of a command are the tokens of a derivation tree, and its value
is that part. The lemmas with the name of a sort of piece take one piece off the front; those with
the name of a part build its tree.
-/

namespace WideColumn.Printing

open Grammar

/-! ### Taking pieces off -/

section Front

variable {pieces : List Piece} {tokens : List Token}

theorem reads_nil (h : Reads [] tokens) : tokens = [] :=
  List.forall₂_nil_left_iff.1 h

theorem reads_append {others : List Piece} (h : Reads (pieces ++ others) tokens) :
    ∃ front back, tokens = front ++ back ∧ Reads pieces front ∧ Reads others back := by
  induction pieces generalizing tokens with
  | nil => exact ⟨[], tokens, rfl, .nil, h⟩
  | cons piece pieces ih =>
    obtain ⟨token, rest, first, later, rfl⟩ := List.forall₂_cons_left_iff.1 h
    obtain ⟨front, back, rfl, before, after⟩ := ih later
    exact ⟨token :: front, back, rfl, .cons first before, after⟩

theorem reads_keyword {name : Keyword} (h : Reads (.keyword name :: pieces) tokens) :
    ∃ (lead : Reserved name) (rest : List Token),
      tokens = lead.yield ++ rest ∧ Reads pieces rest := by
  obtain ⟨token, rest, first, later, rfl⟩ := List.forall₂_cons_left_iff.1 h
  exact ⟨⟨token, first⟩, rest, rfl, later⟩

theorem reads_mark {sign : Mark} (h : Reads (.mark sign :: pieces) tokens) :
    ∃ (found : Sign sign) (rest : List Token), tokens = found.yield ++ rest ∧ Reads pieces rest := by
  obtain ⟨token, rest, first, later, rfl⟩ := List.forall₂_cons_left_iff.1 h
  exact ⟨⟨token, first⟩, rest, rfl, later⟩

theorem reads_quoted {text : String} (h : Reads (.quoted text :: pieces) tokens) :
    ∃ (found : Quoted) (rest : List Token),
      tokens = found.yield ++ rest ∧ found.value = text ∧ Reads pieces rest := by
  obtain ⟨token, rest, first, later, rfl⟩ := List.forall₂_cons_left_iff.1 h
  exact ⟨⟨token, first.1⟩, rest, rfl, first.2, later⟩

theorem reads_word {text : String} (h : Reads (.word text :: pieces) tokens) :
    ∃ (found : Word) (rest : List Token),
      tokens = found.yield ++ rest ∧ found.value = text ∧ Reads pieces rest := by
  obtain ⟨token, rest, first, later, rfl⟩ := List.forall₂_cons_left_iff.1 h
  obtain ⟨found, rfl⟩ := exists_word first.1
  exact ⟨found, rest, rfl, first.2, later⟩

theorem reads_fixed {text : String} (h : Reads (.fixed text :: pieces) tokens) :
    ∃ (found : Word) (rest : List Token),
      tokens = found.yield ++ rest ∧ Text.lowered found.value = text ∧ Reads pieces rest := by
  obtain ⟨token, rest, first, later, rfl⟩ := List.forall₂_cons_left_iff.1 h
  obtain ⟨found, rfl⟩ := exists_word first.1
  exact ⟨found, rest, rfl, first.2, later⟩

end Front

/-! ### Lists -/

section Lists

variable {α Item Separator : Type} {pieces : α → List Piece} {itemYield : Item → List Token}
  {value : Item → α} {tokens : List Token}

/-- Sources in a row have trees if each of them has one. -/
theorem flatMap_trees {sources : List α}
    (item : ∀ source ∈ sources, ∀ tokens, Reads (pieces source) tokens →
      ∃ tree, tokens = itemYield tree ∧ value tree = source)
    (h : Reads (sources.flatMap pieces) tokens) :
    ∃ trees : List Item, tokens = trees.flatMap itemYield ∧ trees.map value = sources := by
  induction sources generalizing tokens with
  | nil => exact ⟨[], reads_nil h, rfl⟩
  | cons source sources ih =>
    obtain ⟨front, back, rfl, first, later⟩ := reads_append h
    obtain ⟨tree, rfl, valued⟩ := item source List.mem_cons_self front first
    obtain ⟨trees, rfl, others⟩ := ih (fun other mem => item other (List.mem_cons_of_mem _ mem)) later
    exact ⟨tree :: trees, rfl, by rw [List.map_cons, valued, others]⟩

/-- Sources with a separator between them have a chain of trees if each of them has a tree. -/
theorem separated_chain {separator : Piece} {separatorYield : Separator → List Token}
    {first : α} {others : List α}
    (sign : ∀ pieces tokens, Reads (separator :: pieces) tokens →
      ∃ (found : Separator) (rest : List Token),
        tokens = separatorYield found ++ rest ∧ Reads pieces rest)
    (item : ∀ source ∈ first :: others, ∀ tokens, Reads (pieces source) tokens →
      ∃ tree, tokens = itemYield tree ∧ value tree = source)
    (h : Reads (separated separator ((first :: others).map pieces)) tokens) :
    ∃ chain : Chain Separator Item,
      tokens = chain.tokens separatorYield itemYield ∧ chain.values value = first :: others := by
  rw [List.map_cons, separated, List.flatMap_map] at h
  obtain ⟨front, back, rfl, firstReads, othersRead⟩ := reads_append h
  obtain ⟨tree, rfl, valued⟩ := item first List.mem_cons_self front firstReads
  -- A separator makes an entry with the source after it.
  have entry : ∀ source ∈ others, ∀ tokens, Reads (separator :: pieces source) tokens →
      ∃ found : Separator × Item,
        tokens = separatorYield found.1 ++ itemYield found.2 ∧ value found.2 = source := by
    intro source mem tokens reads
    obtain ⟨found, rest, rfl, later⟩ := sign _ _ reads
    obtain ⟨tree, rfl, same⟩ := item source (List.mem_cons_of_mem _ mem) rest later
    exact ⟨(found, tree), rfl, same⟩
  obtain ⟨entries, rfl, values⟩ := flatMap_trees entry othersRead
  obtain ⟨chain, rfl, rfl⟩ := Chain.exists_of_others tree entries
  refine ⟨chain, (Chain.tokens_eq _ _ chain).symm, ?_⟩
  rw [Chain.values_eq, valued, values]

end Lists

/-! ### Literals and addresses -/

theorem literal_tree {content : WideColumn.Literal} {tokens : List Token}
    (h : Reads (literal content) tokens) :
    ∃ tree : Grammar.Literal, tokens = tree.yield ∧ tree.value = content := by
  cases content with
  | plain text =>
    obtain ⟨quoted, rest, rfl, rfl, ends⟩ := reads_quoted h
    obtain rfl := reads_nil ends
    exact ⟨.quoted quoted, List.append_nil _, rfl⟩
  | cast function argument =>
    cases argument with
    | none =>
      obtain ⟨name, first, rfl, rfl, opened⟩ := reads_word h
      obtain ⟨opening, second, rfl, closed⟩ := reads_mark opened
      obtain ⟨closing, third, rfl, ends⟩ := reads_mark closed
      obtain rfl := reads_nil ends
      exact ⟨.generator name opening closing, by simp [Grammar.Literal.yield], rfl⟩
    | some argument =>
      obtain ⟨name, first, rfl, rfl, opened⟩ := reads_word h
      obtain ⟨opening, second, rfl, inside⟩ := reads_mark opened
      obtain ⟨content, third, rfl, rfl, closed⟩ := reads_quoted inside
      obtain ⟨closing, fourth, rfl, ends⟩ := reads_mark closed
      obtain rfl := reads_nil ends
      exact ⟨.castQuoted name opening content closing, by simp [Grammar.Literal.yield], rfl⟩

theorem bracketed_tree {content : WideColumn.Literal} {tokens : List Token}
    (h : Reads (bracketed content) tokens) :
    ∃ tree : Bracketed, tokens = tree.yield ∧ tree.literal.value = content := by
  obtain ⟨opening, first, rfl, inside⟩ := reads_mark h
  obtain ⟨front, back, rfl, inner, closed⟩ := reads_append inside
  obtain ⟨literal, rfl, rfl⟩ := literal_tree inner
  obtain ⟨closing, last, rfl, ends⟩ := reads_mark closed
  obtain rfl := reads_nil ends
  exact ⟨⟨opening, literal, closing⟩, by simp [Bracketed.yield], rfl⟩

theorem ofList?_toList (columns : Columns) : Columns.ofList? columns.toList = some columns := by
  cases columns <;> rfl

theorem address_tree {target : Address} {tokens : List Token} (h : Reads (address target) tokens) :
    ∃ tree : ColumnRef, tokens = tree.yield ∧ tree.value = .ok target := by
  obtain ⟨family, first, rfl, named, rest⟩ := reads_word h
  obtain ⟨front, back, rfl, keyReads, columnsRead⟩ := reads_append rest
  obtain ⟨key, rfl, valued⟩ := bracketed_tree keyReads
  obtain ⟨columns, rfl, values⟩ := flatMap_trees (fun _ _ _ => bracketed_tree) columnsRead
  -- The first bracket has the key, the others have the columns.
  obtain ⟨brackets, rfl, same⟩ := Chain.exists_of_others key (columns.map (Prod.mk ()))
  refine ⟨⟨family, brackets⟩, ?_, ?_⟩
  · rw [ColumnRef.yield, BracketList.yield, Chain.adjacent_eq, same, List.flatMap_map]
  · have found : (brackets.others.map fun entry => entry.2.literal.value) =
        target.columns.toList := by
      rw [same, List.map_map, ← values]
      rfl
    rw [ColumnRef.value, found, ofList?_toList, named, valued]

/-! ### Attributes -/

theorem pair_tree {entry : String × String} {tokens : List Token}
    (h : Reads (pair entry) tokens) :
    ∃ tree : HashPair, tokens = tree.yield ∧ tree.value = entry := by
  obtain ⟨key, first, rfl, keyed, rest⟩ := reads_quoted h
  obtain ⟨colon, second, rfl, after⟩ := reads_mark rest
  obtain ⟨content, third, rfl, valued, ends⟩ := reads_quoted after
  obtain rfl := reads_nil ends
  refine ⟨⟨.quoted key, colon, .quoted content⟩, by simp [HashPair.yield, HashAtom.yield], ?_⟩
  rw [HashPair.value, HashAtom.value, HashAtom.value, keyed, valued]

theorem hash_tree {entries : Table String String} {tokens : List Token}
    (h : Reads (hash entries) tokens) :
    ∃ tree : Hash, tokens = tree.yield ∧ tree.value = entries := by
  obtain ⟨opening, first, rfl, inside⟩ := reads_mark h
  obtain ⟨front, back, rfl, inner, closed⟩ := reads_append inside
  obtain ⟨closing, last, rfl, ends⟩ := reads_mark closed
  obtain rfl := reads_nil ends
  -- The grammar has a production of its own for a hash without pairs.
  cases list : entries.entries with
  | nil =>
    rw [list] at inner
    obtain rfl := reads_nil inner
    exact ⟨.empty opening closing, by simp [Hash.yield], Table.ext list.symm⟩
  | cons entry others =>
    rw [list] at inner
    obtain ⟨pairs, rfl, values⟩ :=
      separated_chain (fun _ _ => reads_mark) (fun _ _ _ => pair_tree) inner
    refine ⟨.items opening pairs closing, by simp [Hash.yield, HashItems.yield], ?_⟩
    rw [Hash.value, values, ← list]
    exact entries.ofList_entries

theorem item_tree {content : AttributeItem} {tokens : List Token}
    (h : Reads (item content) tokens) :
    ∃ tree : ArrayItem, tokens = tree.yield ∧ tree.value = content := by
  cases content with
  | text text =>
    obtain ⟨quoted, rest, rfl, rfl, ends⟩ := reads_quoted h
    obtain rfl := reads_nil ends
    exact ⟨.quoted quoted, List.append_nil _, rfl⟩
  | hash entries =>
    obtain ⟨tree, rfl, rfl⟩ := hash_tree h
    exact ⟨.hash tree, rfl, rfl⟩

theorem attributeValue_tree {content : AttributeValue} {tokens : List Token}
    (h : Reads (attributeValue content) tokens) :
    ∃ tree : PropertyValue, tokens = tree.yield ∧ tree.value = content := by
  cases content with
  | text text =>
    obtain ⟨quoted, rest, rfl, rfl, ends⟩ := reads_quoted h
    obtain rfl := reads_nil ends
    exact ⟨.quoted quoted, List.append_nil _, rfl⟩
  | list items =>
    obtain ⟨opening, first, rfl, inside⟩ := reads_mark h
    obtain ⟨front, back, rfl, inner, closed⟩ := reads_append inside
    obtain ⟨closing, last, rfl, ends⟩ := reads_mark closed
    obtain rfl := reads_nil ends
    cases items with
    | nil =>
      obtain rfl := reads_nil inner
      exact ⟨.emptyArray opening closing, by simp [PropertyValue.yield], rfl⟩
    | cons content others =>
      obtain ⟨chain, rfl, values⟩ :=
        separated_chain (fun _ _ => reads_mark) (fun _ _ _ => item_tree) inner
      refine ⟨.array opening chain closing, ?_, ?_⟩
      · simp [PropertyValue.yield, ArrayItems.yield]
      · rw [PropertyValue.value, values]

theorem property_tree {entry : String × AttributeValue} {tokens : List Token}
    (small : IsSmall entry.1) (h : Reads (property entry) tokens) :
    ∃ tree : Property, tokens = tree.yield ∧ tree.value = entry := by
  obtain ⟨name, first, rfl, named, rest⟩ := reads_word h
  obtain ⟨equal, second, rfl, after⟩ := reads_mark rest
  obtain ⟨content, rfl, valued⟩ := attributeValue_tree after
  refine ⟨⟨name, equal, content⟩, by simp [Property.yield], ?_⟩
  rw [Property.value, valued, named, small]

/-- Attributes with distinct names are all kept. -/
theorem propertyList_value (tree : PropertyList)
    (distinct : ((tree.values Property.value).map Prod.fst).Nodup) :
    tree.value = .ok (Table.ofList (tree.values Property.value)) := by
  induction tree with
  | single property => rfl
  | multiple properties link property ih =>
    rw [Chain.values, List.map_append, List.nodup_append] at distinct
    obtain ⟨before, -, apart⟩ := distinct
    -- A name that no property before it has is not refused.
    have new : property.value.1 ∉ (properties.values Property.value).map Prod.fst :=
      fun mem => apart _ mem property.value.1 (by simp) rfl
    rw [PropertyList.value, ih before, Chain.values, Table.ofList_concat]
    show property.addTo (Table.ofList (properties.values Property.value)) = _
    rw [Property.addTo, Table.get?_ofList_of_not_mem before new]

theorem attributes_tree {properties : Attributes} {tokens : List Token}
    (formed : IsProperties properties) (h : Reads (attributes properties) tokens) :
    ∃ tree : WithClause, tokens = tree.yield ∧ tree.value = .ok properties := by
  unfold attributes at h
  cases list : properties.entries with
  | nil =>
    rw [list] at h
    obtain rfl := reads_nil h
    exact ⟨.empty, rfl, congrArg Except.ok (Table.ext list.symm)⟩
  | cons entry others =>
    rw [list] at h
    obtain ⟨lead, rest, rfl, inside⟩ := reads_keyword h
    -- Names are stored in small letters, so only these come back as they were.
    have small : ∀ source ∈ entry :: others, IsSmall source.1 := by
      intro source mem
      rw [← list] at mem
      exact (formed source.1 (List.mem_map_of_mem mem)).2
    obtain ⟨chain, rfl, values⟩ := separated_chain (fun _ _ => reads_keyword)
      (fun source mem _ => property_tree (small source mem)) inside
    refine ⟨.given lead chain, rfl, ?_⟩
    rw [← list] at values
    rw [WithClause.value, propertyList_value chain (values ▸ properties.distinct), values,
      properties.ofList_entries]

/-! ### Clauses -/

/-- A number that is written in few enough digits is read back for any purpose. -/
theorem integer_write {value : Int} (short : IsShort value) (purpose : String) :
    Parser.integer purpose (Numeral.write value) = .ok value := by
  have digits : (Nat.toDigits 10 value.natAbs).length ≤ Numeral.maxDigits := by
    rw [← Nat.toList_repr, String.length_toList]
    exact short
  rw [Parser.integer, Numeral.decimal?_write digits]

theorem limit_tree {bound : Option Int} {tokens : List Token} (formed : IsLimit bound)
    (h : Reads (limit bound) tokens) :
    ∃ tree : LimitClause, tokens = tree.yield ∧ tree.value = .ok bound := by
  cases bound with
  | none => exact ⟨.empty, reads_nil h, rfl⟩
  | some value =>
    obtain ⟨positive, short⟩ := formed value rfl
    obtain ⟨lead, first, rfl, rest⟩ := reads_keyword h
    obtain ⟨amount, last, rfl, spelled, ends⟩ := reads_word rest
    obtain rfl := reads_nil ends
    refine ⟨.given lead amount, by simp [LimitClause.yield], ?_⟩
    rw [LimitClause.value_given, spelled, integer_write short]
    simp [bind, Except.bind, Int.not_le.2 positive]
    rfl

theorem timeToLive_tree {ttl : Option Int} {tokens : List Token}
    (short : ∀ amount ∈ ttl, IsShort amount) (h : Reads (timeToLive ttl) tokens) :
    ∃ tree : TtlClause, tokens = tree.yield ∧ tree.value = .ok ttl := by
  cases ttl with
  | none => exact ⟨.empty, reads_nil h, rfl⟩
  | some value =>
    obtain ⟨lead, first, rfl, named⟩ := reads_keyword h
    obtain ⟨name, second, rfl, isTtl, rest⟩ := reads_fixed named
    obtain ⟨equal, third, rfl, valued⟩ := reads_mark rest
    obtain ⟨amount, last, rfl, spelled, ends⟩ := reads_word valued
    obtain rfl := reads_nil ends
    refine ⟨.given lead name equal amount, by simp [TtlClause.yield], ?_⟩
    rw [TtlClause.value_given, spelled, integer_write (short value rfl), isTtl]
    rfl

theorem asValidator_tree {validator : Option String} {tokens : List Token}
    (h : Reads (asValidator validator) tokens) :
    ∃ tree : AsClause, tokens = tree.yield ∧ tree.value = validator := by
  cases validator with
  | none => exact ⟨.empty, reads_nil h, rfl⟩
  | some name =>
    obtain ⟨lead, first, rfl, rest⟩ := reads_keyword h
    obtain ⟨word, last, rfl, rfl, ends⟩ := reads_word rest
    obtain rfl := reads_nil ends
    exact ⟨.given lead word, by simp [AsClause.yield], rfl⟩

theorem amount_tree {value : Int} {tokens : List Token} (short : IsShort value)
    (h : Reads [.keyword .by, number value] tokens) :
    ∃ tree : ByClause, tokens = tree.yield ∧ tree.value = .ok value := by
  obtain ⟨lead, first, rfl, rest⟩ := reads_keyword h
  obtain ⟨amount, last, rfl, spelled, ends⟩ := reads_word rest
  obtain rfl := reads_nil ends
  refine ⟨.given lead amount, by simp [ByClause.yield], ?_⟩
  rw [ByClause.value, spelled, integer_write short]

/-! ### Conditions, ranges and hosts -/

theorem condition_tree {shown : WideColumn.Condition} {tokens : List Token}
    (h : Reads (condition shown) tokens) :
    ∃ tree : Grammar.Condition, tokens = tree.yield ∧ tree.value = shown := by
  obtain ⟨column, comparison, content⟩ := shown
  obtain ⟨front, back, rfl, left, rest⟩ := reads_append h
  obtain ⟨columnTree, rfl, rfl⟩ := literal_tree left
  obtain ⟨sign, last, rfl, right⟩ := reads_mark rest
  obtain ⟨contentTree, rfl, rfl⟩ := literal_tree right
  exact ⟨⟨columnTree, comparison, sign, contentTree⟩, by simp [Grammar.Condition.yield], rfl⟩

theorem conditions_tree {conditions : List WideColumn.Condition} {tokens : List Token}
    (nonempty : conditions ≠ [])
    (h : Reads (separated (.keyword .and) (conditions.map condition)) tokens) :
    ∃ tree : ConditionList,
      tokens = tree.yield ∧ tree.values Grammar.Condition.value = conditions := by
  cases conditions with
  | nil => exact absurd rfl nonempty
  | cons first others =>
    exact separated_chain (fun _ _ => reads_keyword) (fun _ _ _ => condition_tree) h

theorem bound_tree {content : Option WideColumn.Literal} {tokens : List Token}
    (h : Reads (bound content) tokens) :
    ∃ tree : RangeBound, tokens = tree.yield ∧ tree.value = content := by
  cases content with
  | none => exact ⟨.empty, reads_nil h, rfl⟩
  | some content =>
    obtain ⟨tree, rfl, rfl⟩ := literal_tree h
    exact ⟨.given tree, rfl, rfl⟩

/-- Bounds that are both left out are not written, and all others are in brackets. -/
theorem range_tree {start stop : Option WideColumn.Literal} {tokens : List Token}
    (h : Reads (range start stop) tokens) :
    ∃ tree : RangeClause, tokens = tree.yield ∧ tree.value = (start, stop) := by
  have brackets : ∀ {tokens}, Reads (.mark .openBracket ::
      (bound start ++ .mark .colon :: (bound stop ++ [.mark .closeBracket]))) tokens →
      ∃ tree : RangeClause, tokens = tree.yield ∧ tree.value = (start, stop) := by
    intro tokens h
    obtain ⟨opening, first, rfl, inside⟩ := reads_mark h
    obtain ⟨front, back, rfl, lower, rest⟩ := reads_append inside
    obtain ⟨startTree, rfl, rfl⟩ := bound_tree lower
    obtain ⟨colon, second, rfl, after⟩ := reads_mark rest
    obtain ⟨middle, last, rfl, upper, closed⟩ := reads_append after
    obtain ⟨stopTree, rfl, rfl⟩ := bound_tree upper
    obtain ⟨closing, third, rfl, ends⟩ := reads_mark closed
    obtain rfl := reads_nil ends
    exact ⟨.given opening startTree colon stopTree closing, by simp [RangeClause.yield], rfl⟩
  cases start with
  | none =>
    cases stop with
    | none => exact ⟨.empty, reads_nil h, rfl⟩
    | some upper => exact brackets h
  | some lower =>
    cases stop <;> exact brackets h

theorem word_tree {text : String} {tokens : List Token} (h : Reads [.word text] tokens) :
    ∃ tree : Word, tokens = tree.yield ∧ tree.value = text := by
  obtain ⟨word, rest, rfl, rfl, ends⟩ := reads_word h
  obtain rfl := reads_nil ends
  exact ⟨word, List.append_nil _, rfl⟩

/-- The name of a host joins its words with dots. -/
theorem host_value (tree : Host) :
    Host.value tree = ".".intercalate (tree.values Word.value) := by
  induction tree with
  | single word => exact String.intercalate_singleton.symm
  | multiple host dot word ih =>
    have nonempty : host.values Word.value ≠ [] := by simp [Chain.values_eq]
    rw [Host.value, ih, Chain.values,
      String.intercalate_append_of_ne_nil nonempty (List.cons_ne_nil _ _),
      String.intercalate_singleton]

theorem intercalate_hostWords (name : String) : ".".intercalate (hostWords name) = name := by
  refine String.toList_inj.1 ?_
  rw [String.toList_intercalate, hostWords, List.map_map]
  have same : String.toList ∘ String.ofList = id := funext fun _ => String.toList_ofList
  rw [same, List.map_id]
  exact List.intercalate_splitOn '.'

theorem host_tree {name : String} {tokens : List Token} (h : Reads (host name) tokens) :
    ∃ tree : Host, tokens = Host.yield tree ∧ Host.value tree = name := by
  -- There is always a word before the first dot.
  cases words : hostWords name with
  | nil => exact absurd (List.map_eq_nil_iff.1 words) (List.splitOnP_ne_nil _ _)
  | cons first others =>
    rw [host, words] at h
    obtain ⟨tree, rfl, values⟩ :=
      separated_chain (fun _ _ => reads_mark) (fun _ _ _ => word_tree) h
    exact ⟨tree, rfl, by rw [host_value, values, ← words, intercalate_hostWords]⟩

/-! ### Lists of words -/

/-- Words in a row have a list of words if each of them has a word. -/
theorem wordList_tree {pieces : String → Piece} {value : Word → String} {first : String}
    {others : List String} {tokens : List Token}
    (word : ∀ text tokens, Reads [pieces text] tokens →
      ∃ tree : Word, tokens = tree.yield ∧ value tree = text)
    (h : Reads ((first :: others).map pieces) tokens) :
    ∃ tree : WordList, tokens = tree.yield ∧ tree.values value = first :: others := by
  rw [List.map_eq_flatMap] at h
  obtain ⟨words, rfl, values⟩ := flatMap_trees (fun text _ tokens => word text tokens) h
  obtain ⟨lead, later, rfl, leads, follows⟩ := List.map_eq_cons_iff.1 values
  obtain ⟨tree, rfl, same⟩ := Chain.exists_of_others lead (later.map (Prod.mk ()))
  refine ⟨tree, ?_, ?_⟩
  · rw [WordList.yield, Chain.adjacent_eq, same, List.flatMap_map, List.flatMap_cons]
  · rw [Chain.values_eq, same, List.map_map, leads, ← follows]
    rfl

theorem fixed_tree {text : String} {tokens : List Token} (h : Reads [.fixed text] tokens) :
    ∃ tree : Word, tokens = tree.yield ∧ Text.lowered tree.value = text := by
  obtain ⟨word, rest, rfl, small, ends⟩ := reads_fixed h
  obtain rfl := reads_nil ends
  exact ⟨word, List.append_nil _, small⟩

theorem lowered_values (tree : WordList) :
    (tree.values Word.value).map Text.lowered =
      tree.values fun word => Text.lowered word.value := by
  rw [Chain.values_eq, Chain.values_eq, List.map_cons, List.map_map]
  rfl

theorem showTarget_tree {target : ShowTarget} {tokens : List Token}
    (h : Reads ((showWords target).map .fixed) tokens) :
    ∃ tree : WordList,
      tokens = tree.yield ∧ Parser.showTarget (tree.values Word.value) = .ok target := by
  obtain ⟨first, others, words⟩ : ∃ first others, showWords target = first :: others := by
    cases target <;> exact ⟨_, _, rfl⟩
  rw [words] at h
  obtain ⟨tree, rfl, values⟩ := wordList_tree (fun _ _ => fixed_tree) h
  refine ⟨tree, rfl, ?_⟩
  rw [Parser.showTarget, lowered_values, values, ← words]
  cases target <;> rfl

theorem describeTarget_tree {target : DescribeTarget} {tokens : List Token}
    (h : Reads (describeTarget target) tokens) :
    ∃ tree : WordList,
      tokens = tree.yield ∧ Parser.describeTarget (tree.values Word.value) = .ok target := by
  cases target with
  | cluster =>
    obtain ⟨word, rfl, small⟩ := fixed_tree h
    exact ⟨.single word, rfl, by simp [Chain.values, Parser.describeTarget, small]⟩
  | keyspace name =>
    cases name with
    | none =>
      obtain ⟨word, rfl, small⟩ := fixed_tree h
      exact ⟨.single word, rfl, by simp [Chain.values, Parser.describeTarget, small]⟩
    | some name =>
      obtain ⟨kind, rest, rfl, small, named⟩ := reads_fixed h
      obtain ⟨word, rfl, rfl⟩ := word_tree named
      refine ⟨.multiple (.single kind) () word, ?_, ?_⟩
      · simp [WordList.yield, Chain.adjacent, Chain.tokens]
      · simp [Chain.values, Parser.describeTarget, small]

/-! ### Commands -/

section Commands

variable {lead : Keyword} {tokens : List Token}

theorem keyspaceDefinition_tree {name : String} {properties : Attributes}
    (formed : IsProperties properties)
    (h : Reads (.keyword lead :: .keyword .keyspace :: .word name :: attributes properties)
      tokens) :
    ∃ (start : Reserved lead) (kind : Reserved .keyspace) (word : Word) (given : WithClause),
      tokens = start.yield ++ kind.yield ++ word.yield ++ given.yield ∧ word.value = name ∧
        given.value = .ok properties := by
  obtain ⟨start, first, rfl, kinded⟩ := reads_keyword h
  obtain ⟨kind, second, rfl, named⟩ := reads_keyword kinded
  obtain ⟨word, third, rfl, same, rest⟩ := reads_word named
  obtain ⟨given, rfl, valued⟩ := attributes_tree formed rest
  exact ⟨start, kind, word, given, by simp, same, valued⟩

theorem familyDefinition_tree {name : String} {properties : Attributes}
    (formed : IsProperties properties)
    (h : Reads (.keyword lead :: .keyword .column :: .keyword .family :: .word name ::
      attributes properties) tokens) :
    ∃ (start : Reserved lead) (column : Reserved .column) (kind : Reserved .family) (word : Word)
      (given : WithClause),
      tokens = start.yield ++ column.yield ++ kind.yield ++ word.yield ++ given.yield ∧
        word.value = name ∧ given.value = .ok properties := by
  obtain ⟨start, first, rfl, columned⟩ := reads_keyword h
  obtain ⟨column, second, rfl, kinded⟩ := reads_keyword columned
  obtain ⟨kind, third, rfl, named⟩ := reads_keyword kinded
  obtain ⟨word, fourth, rfl, same, rest⟩ := reads_word named
  obtain ⟨given, rfl, valued⟩ := attributes_tree formed rest
  exact ⟨start, column, kind, word, given, by simp, same, valued⟩

theorem counterChange_tree {target : WideColumn.Address} {amount : Int} (short : IsShort amount)
    (h : Reads (.keyword lead :: (address target ++ [.keyword .by, number amount])) tokens) :
    ∃ (start : Reserved lead) (place : ColumnRef) (change : ByClause),
      tokens = start.yield ++ place.yield ++ change.yield ∧ place.value = .ok target ∧
        change.value = .ok amount := by
  obtain ⟨start, first, rfl, located⟩ := reads_keyword h
  obtain ⟨front, last, rfl, addressed, changed⟩ := reads_append located
  obtain ⟨place, rfl, targeted⟩ := address_tree addressed
  obtain ⟨change, rfl, valued⟩ := amount_tree short changed
  exact ⟨start, place, change, by simp, targeted, valued⟩

end Commands

/-- Tokens that read the pieces of a command have a derivation as that command. -/
theorem command_tree {stated : WideColumn.Command} {tokens : List Token}
    (printable : Printable stated) (h : Reads (command stated) tokens) :
    ∃ tree : Grammar.Command, tokens = tree.yield ∧ tree.value = .ok stated := by
  cases stated with
  | use keyspace =>
    obtain ⟨lead, first, rfl, named⟩ := reads_keyword h
    obtain ⟨name, rest, rfl, rfl, ends⟩ := reads_quoted named
    obtain rfl := reads_nil ends
    exact ⟨.useQuoted lead name, by simp [Grammar.Command.yield], rfl⟩
  | createKeyspace name properties =>
    obtain ⟨lead, kind, word, given, rfl, rfl, valued⟩ := keyspaceDefinition_tree printable.2 h
    refine ⟨.createKeyspace lead kind word given, rfl, ?_⟩
    rw [Grammar.Command.value, valued]
    rfl
  | updateKeyspace name properties =>
    obtain ⟨lead, kind, word, given, rfl, rfl, valued⟩ := keyspaceDefinition_tree printable.2 h
    refine ⟨.updateKeyspace lead kind word given, rfl, ?_⟩
    rw [Grammar.Command.value, valued]
    rfl
  | dropKeyspace name =>
    obtain ⟨lead, first, rfl, kinded⟩ := reads_keyword h
    obtain ⟨kind, second, rfl, named⟩ := reads_keyword kinded
    obtain ⟨word, rfl, rfl⟩ := word_tree named
    exact ⟨.dropKeyspace lead kind word, by simp [Grammar.Command.yield], rfl⟩
  | createFamily name properties =>
    obtain ⟨lead, column, kind, word, given, rfl, rfl, valued⟩ :=
      familyDefinition_tree printable.2 h
    refine ⟨.createFamily lead column kind word given, rfl, ?_⟩
    rw [Grammar.Command.value, valued]
    rfl
  | updateFamily name properties =>
    obtain ⟨lead, column, kind, word, given, rfl, rfl, valued⟩ :=
      familyDefinition_tree printable.2 h
    refine ⟨.updateFamily lead column kind word given, rfl, ?_⟩
    rw [Grammar.Command.value, valued]
    rfl
  | dropFamily name =>
    obtain ⟨lead, first, rfl, columned⟩ := reads_keyword h
    obtain ⟨column, second, rfl, kinded⟩ := reads_keyword columned
    obtain ⟨kind, third, rfl, named⟩ := reads_keyword kinded
    obtain ⟨word, rfl, rfl⟩ := word_tree named
    exact ⟨.dropFamily lead column kind word, by simp [Grammar.Command.yield], rfl⟩
  | dropIndex family column =>
    obtain ⟨lead, first, rfl, indexed⟩ := reads_keyword h
    obtain ⟨index, second, rfl, located⟩ := reads_keyword indexed
    obtain ⟨on, third, rfl, named⟩ := reads_keyword located
    obtain ⟨word, fourth, rfl, rfl, dotted⟩ := reads_word named
    obtain ⟨dot, last, rfl, rest⟩ := reads_mark dotted
    obtain ⟨content, rfl, rfl⟩ := literal_tree rest
    exact ⟨.dropIndex lead index on word dot content, by simp [Grammar.Command.yield], rfl⟩
  | assume family kind validator =>
    obtain ⟨lead, first, rfl, named⟩ := reads_keyword h
    obtain ⟨word, second, rfl, rfl, kinded⟩ := reads_word named
    obtain ⟨part, third, rfl, rfl, linked⟩ := reads_word kinded
    obtain ⟨link, fourth, rfl, validated⟩ := reads_keyword linked
    obtain ⟨checked, rfl, rfl⟩ := word_tree validated
    refine ⟨.assume lead word part link checked, by simp [Grammar.Command.yield], ?_⟩
    rw [Grammar.Command.value, printable.2.2.1]
  | set target value ttl =>
    obtain ⟨lead, first, rfl, located⟩ := reads_keyword h
    obtain ⟨front, second, rfl, addressed, rest⟩ := reads_append located
    obtain ⟨address, rfl, targeted⟩ := address_tree addressed
    obtain ⟨equal, third, rfl, right⟩ := reads_mark rest
    obtain ⟨middle, last, rfl, stored, ends⟩ := reads_append right
    obtain ⟨content, rfl, rfl⟩ := literal_tree stored
    obtain ⟨lifetime, rfl, timed⟩ := timeToLive_tree printable.2.2 ends
    refine ⟨.set lead address equal content lifetime, by simp [Grammar.Command.yield], ?_⟩
    rw [Grammar.Command.value, targeted, timed]
    rfl
  | get target validator bound =>
    obtain ⟨lead, first, rfl, located⟩ := reads_keyword h
    obtain ⟨front, second, rfl, addressed, rest⟩ := reads_append located
    obtain ⟨address, rfl, targeted⟩ := address_tree addressed
    obtain ⟨middle, last, rfl, shown, limited⟩ := reads_append rest
    obtain ⟨shownAs, rfl, rfl⟩ := asValidator_tree shown
    obtain ⟨most, rfl, valued⟩ := limit_tree printable.2.2 limited
    refine ⟨.get lead address shownAs most, by simp [Grammar.Command.yield], ?_⟩
    rw [Grammar.Command.value, targeted, valued]
    rfl
  | getWhere family conditions bound =>
    obtain ⟨lead, first, rfl, named⟩ := reads_keyword h
    obtain ⟨word, second, rfl, rfl, linked⟩ := reads_word named
    obtain ⟨link, third, rfl, rest⟩ := reads_keyword linked
    obtain ⟨front, last, rfl, tested, limited⟩ := reads_append rest
    obtain ⟨tests, rfl, valued⟩ := conditions_tree printable.2.1 tested
    obtain ⟨most, rfl, bounded⟩ := limit_tree printable.2.2.2 limited
    refine ⟨.getWhere lead word link tests most, by simp [Grammar.Command.yield], ?_⟩
    rw [Grammar.Command.value, valued, bounded]
    rfl
  | del target =>
    obtain ⟨lead, first, rfl, located⟩ := reads_keyword h
    obtain ⟨address, rfl, targeted⟩ := address_tree located
    exact ⟨.del lead address, rfl, by rw [Grammar.Command.value, targeted]; rfl⟩
  | incr target amount =>
    obtain ⟨lead, place, change, rfl, targeted, valued⟩ := counterChange_tree printable.2 h
    refine ⟨.incr lead place change, rfl, ?_⟩
    rw [Grammar.Command.value, targeted, valued]
    rfl
  | decr target amount =>
    obtain ⟨lead, place, change, rfl, targeted, valued⟩ := counterChange_tree printable.2 h
    refine ⟨.decr lead place change, rfl, ?_⟩
    rw [Grammar.Command.value, targeted, valued]
    rfl
  | count target =>
    obtain ⟨lead, first, rfl, located⟩ := reads_keyword h
    obtain ⟨address, rfl, targeted⟩ := address_tree located
    exact ⟨.count lead address, rfl, by rw [Grammar.Command.value, targeted]; rfl⟩
  | list family start stop bound =>
    obtain ⟨lead, first, rfl, named⟩ := reads_keyword h
    obtain ⟨word, second, rfl, rfl, rest⟩ := reads_word named
    obtain ⟨front, last, rfl, between, limited⟩ := reads_append rest
    obtain ⟨bounds, rfl, valued⟩ := range_tree between
    obtain ⟨most, rfl, bounded⟩ := limit_tree printable.2.2.2 limited
    refine ⟨.list lead word bounds most, by simp [Grammar.Command.yield], ?_⟩
    rw [Grammar.Command.value, valued, bounded]
    rfl
  | truncate family =>
    obtain ⟨lead, first, rfl, named⟩ := reads_keyword h
    obtain ⟨word, rfl, rfl⟩ := word_tree named
    exact ⟨.truncate lead word, rfl, rfl⟩
  | describe target =>
    obtain ⟨lead, first, rfl, rest⟩ := reads_keyword h
    obtain ⟨words, rfl, targeted⟩ := describeTarget_tree rest
    exact ⟨.describeWords lead words, rfl, by rw [Grammar.Command.value, targeted]; rfl⟩
  | «show» target =>
    obtain ⟨lead, first, rfl, rest⟩ := reads_keyword h
    obtain ⟨words, rfl, targeted⟩ := showTarget_tree rest
    exact ⟨.show lead words, rfl, by rw [Grammar.Command.value, targeted]; rfl⟩
  | help topic =>
    obtain ⟨lead, first, rfl, rest⟩ := reads_keyword h
    cases topic with
    | nil =>
      obtain rfl := reads_nil rest
      exact ⟨.help lead, by simp [Grammar.Command.yield], rfl⟩
    | cons word others =>
      obtain ⟨words, rfl, valued⟩ := wordList_tree (fun _ _ => word_tree) rest
      refine ⟨.helpWords lead words, rfl, ?_⟩
      -- Small letters stay as they are when the topic is looked up.
      have small : (word :: others).map Text.lowered = word :: others :=
        (List.map_congr_left fun text mem => (printable text mem).2).trans (List.map_id _)
      rw [Grammar.Command.value, valued, small]
  | connect name port =>
    obtain ⟨lead, first, rfl, located⟩ := reads_keyword h
    obtain ⟨front, second, rfl, hosted, rest⟩ := reads_append located
    obtain ⟨host, rfl, rfl⟩ := host_tree hosted
    obtain ⟨slash, third, rfl, numbered⟩ := reads_mark rest
    obtain ⟨word, rfl, spelled⟩ := word_tree numbered
    refine ⟨.connect lead host slash word, by simp [Grammar.Command.yield], ?_⟩
    rw [Grammar.Command.value, spelled, integer_write printable.2]
    rfl
  | exit =>
    obtain ⟨lead, rest, rfl, ends⟩ := reads_keyword h
    obtain rfl := reads_nil ends
    exact ⟨.exit lead, by simp [Grammar.Command.yield], rfl⟩

end WideColumn.Printing
