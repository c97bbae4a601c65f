import WideColumn.Proofs.Grammar.Exactness
import WideColumn.Proofs.Printing.Derivation

/-!
# What is printed is parsed back

The pieces of a printable command are well formed, so a text that lays them out is cut into tokens
that read them; these tokens have a derivation as the command; and the parser finds it.
-/

namespace WideColumn.Printing

/-! ### Pieces of printable commands -/

section Formed

/-- Whether all pieces of a list are well formed. -/
def AllFormed (pieces : List Piece) : Prop :=
  ∀ piece ∈ pieces, piece.WellFormed

variable {piece : Piece} {pieces others : List Piece}

@[simp] theorem allFormed_nil : AllFormed [] :=
  fun _ mem => absurd mem List.not_mem_nil

@[simp] theorem allFormed_cons : AllFormed (piece :: pieces) ↔ piece.WellFormed ∧ AllFormed pieces :=
  List.forall_mem_cons

@[simp] theorem allFormed_append :
    AllFormed (pieces ++ others) ↔ AllFormed pieces ∧ AllFormed others :=
  List.forall_mem_append

@[simp] theorem wellFormed_keyword (name : Keyword) : (Piece.keyword name).WellFormed :=
  trivial

@[simp] theorem wellFormed_mark (sign : Mark) : (Piece.mark sign).WellFormed :=
  trivial

@[simp] theorem wellFormed_quoted (text : String) : (Piece.quoted text).WellFormed :=
  trivial

@[simp] theorem wellFormed_word (text : String) : (Piece.word text).WellFormed ↔ IsWord text :=
  Iff.rfl

@[simp] theorem wellFormed_fixed (text : String) :
    (Piece.fixed text).WellFormed ↔ IsWord text ∧ IsSmall text :=
  Iff.rfl

/-- Digits and a minus sign make a word. -/
@[simp] theorem wellFormed_number (value : Int) : (number value).WellFormed := by
  have digits : ∀ c ∈ Nat.toDigits 10 value.natAbs, Token.isWordChar c = true := by
    intro c mem
    have digit := Nat.isDigit_of_mem_toDigits (by decide) (by decide) mem
    simp [Token.isWordChar, Char.isAlphanum, digit]
  have spelled := Numeral.write_toList value
  constructor
  · intro empty
    rw [empty] at spelled
    have some : Nat.toDigits 10 value.natAbs ≠ [] := Nat.toDigits_ne_nil
    exact some (List.append_eq_nil_iff.1 spelled.symm).2
  · rw [spelled, List.all_append, Bool.and_eq_true]
    refine ⟨?_, List.all_eq_true.2 digits⟩
    split <;> rfl

variable {α : Type} {source : α → List Piece}

theorem allFormed_flatMap {sources : List α} (each : ∀ part ∈ sources, AllFormed (source part)) :
    AllFormed (sources.flatMap source) := by
  intro piece mem
  obtain ⟨part, among, inside⟩ := List.mem_flatMap.1 mem
  exact each part among piece inside

theorem allFormed_separated {separator : Piece} (formed : separator.WellFormed) {sources : List α}
    (each : ∀ part ∈ sources, AllFormed (source part)) :
    AllFormed (separated separator (sources.map source)) := by
  cases sources with
  | nil => exact allFormed_nil
  | cons first others =>
    rw [List.map_cons, separated, List.flatMap_map, allFormed_append]
    refine ⟨each first List.mem_cons_self, allFormed_flatMap fun part among => ?_⟩
    rw [allFormed_cons]
    exact ⟨formed, each part (List.mem_cons_of_mem _ among)⟩

theorem allFormed_literal {content : Literal} (formed : IsLiteral content) :
    AllFormed (literal content) := by
  cases content with
  | plain text => simp [literal]
  | cast function argument =>
    have word : IsWord function := formed
    cases argument <;> simp [literal, word]

theorem allFormed_bracketed {content : Literal} (formed : IsLiteral content) :
    AllFormed (bracketed content) := by
  simp [bracketed, allFormed_literal formed]

theorem allFormed_address {target : Address} (formed : IsAddress target) :
    AllFormed (address target) := by
  obtain ⟨family, key, columns⟩ := formed
  have inside : AllFormed (target.columns.toList.flatMap bracketed) :=
    allFormed_flatMap fun content mem => allFormed_bracketed (columns content mem)
  simp [address, family, allFormed_bracketed key, inside]

theorem allFormed_hash (entries : Table String String) : AllFormed (hash entries) := by
  have inside : AllFormed (separated (.mark .comma) (entries.entries.map pair)) :=
    allFormed_separated (wellFormed_mark _) fun entry _ => by simp [pair]
  simp [hash, inside]

theorem allFormed_attributeValue (content : AttributeValue) :
    AllFormed (attributeValue content) := by
  cases content with
  | text text => simp [attributeValue]
  | list items =>
    have inside : AllFormed (separated (.mark .comma) (items.map item)) := by
      refine allFormed_separated (wellFormed_mark _) fun content _ => ?_
      cases content with
      | text text => simp [item]
      | hash entries => exact allFormed_hash entries
    simp [attributeValue, inside]

theorem allFormed_attributes {properties : Attributes} (formed : IsProperties properties) :
    AllFormed (attributes properties) := by
  have each : ∀ entry ∈ properties.entries, AllFormed (property entry) := by
    intro entry mem
    have word := (formed entry.1 (List.mem_map_of_mem mem)).1
    simp [property, word, allFormed_attributeValue]
  rw [attributes]
  split
  · exact allFormed_nil
  · rename_i entries
    rw [allFormed_cons]
    exact ⟨wellFormed_keyword _, allFormed_separated (wellFormed_keyword _) each⟩

theorem allFormed_limit (bound : Option Int) : AllFormed (limit bound) := by
  cases bound <;> simp [limit]

theorem allFormed_timeToLive (ttl : Option Int) : AllFormed (timeToLive ttl) := by
  have fixed : IsWord "ttl" ∧ IsSmall "ttl" := by decide
  cases ttl <;> simp [timeToLive, fixed]

theorem allFormed_asValidator {validator : Option String}
    (formed : ∀ name ∈ validator, IsWord name) : AllFormed (asValidator validator) := by
  cases validator with
  | none => exact allFormed_nil
  | some name => simp [asValidator, formed name rfl]

theorem allFormed_conditions {conditions : List Condition}
    (formed : ∀ shown ∈ conditions, IsLiteral shown.column ∧ IsLiteral shown.value) :
    AllFormed (separated (.keyword .and) (conditions.map condition)) := by
  refine allFormed_separated (wellFormed_keyword _) fun shown mem => ?_
  obtain ⟨column, content⟩ := formed shown mem
  simp [condition, allFormed_literal column, allFormed_literal content]

theorem allFormed_bound {content : Option Literal}
    (formed : ∀ literal ∈ content, IsLiteral literal) : AllFormed (bound content) := by
  cases content with
  | none => exact allFormed_nil
  | some literal => exact allFormed_literal (formed literal rfl)

theorem allFormed_range {start stop : Option Literal}
    (lower : ∀ content ∈ start, IsLiteral content) (upper : ∀ content ∈ stop, IsLiteral content) :
    AllFormed (range start stop) := by
  have inside := And.intro (allFormed_bound lower) (allFormed_bound upper)
  cases start <;> cases stop <;> simp_all [range]

theorem allFormed_host {name : String} (formed : ∀ word ∈ hostWords name, IsWord word) :
    AllFormed (host name) :=
  allFormed_separated (wellFormed_mark _) fun word mem => by simp [formed word mem]

theorem allFormed_words {words : List String} (formed : ∀ word ∈ words, IsWord word) :
    AllFormed (words.map .word) := by
  intro piece mem
  obtain ⟨word, among, rfl⟩ := List.mem_map.1 mem
  exact formed word among

theorem allFormed_showWords (target : ShowTarget) :
    AllFormed ((showWords target).map .fixed) := by
  have words : ∀ word ∈ showWords target, IsWord word ∧ IsSmall word := by
    cases target <;> decide
  intro piece mem
  obtain ⟨word, among, rfl⟩ := List.mem_map.1 mem
  exact words word among

theorem allFormed_describeTarget {target : DescribeTarget}
    (printable : Printable (.describe target)) : AllFormed (describeTarget target) := by
  have fixed : ∀ word ∈ ["cluster", "keyspace"], IsWord word ∧ IsSmall word := by decide
  cases target with
  | cluster => simp [describeTarget, fixed]
  | keyspace name =>
    cases name with
    | none => simp [describeTarget, fixed]
    | some name =>
      have word : IsWord name := printable
      simp [describeTarget, fixed, word]

/-- The pieces of a printable command are well formed. -/
theorem allFormed_command {stated : Command} (printable : Printable stated) :
    AllFormed (command stated) := by
  cases stated with
  | use keyspace => simp [command]
  | createKeyspace name properties | updateKeyspace name properties
  | createFamily name properties | updateFamily name properties =>
    simp [command, printable.1, allFormed_attributes printable.2]
  | dropKeyspace name | dropFamily name | truncate name =>
    have word : IsWord name := printable
    simp [command, word]
  | dropIndex family column => simp [command, printable.1, allFormed_literal printable.2]
  | assume family kind validator =>
    simp [command, printable.1, printable.2.1, printable.2.2.2]
  | set target value ttl =>
    simp [command, allFormed_address printable.1, allFormed_literal printable.2.1,
      allFormed_timeToLive]
  | get target validator bound =>
    simp [command, allFormed_address printable.1, allFormed_asValidator printable.2.1,
      allFormed_limit]
  | getWhere family conditions bound =>
    simp [command, printable.1, allFormed_conditions printable.2.2.1, allFormed_limit]
  | del target | count target => simp [command, allFormed_address printable]
  | incr target amount | decr target amount => simp [command, allFormed_address printable.1]
  | list family start stop bound =>
    simp [command, printable.1, allFormed_range printable.2.1 printable.2.2.1, allFormed_limit]
  | describe target => simp [command, allFormed_describeTarget printable]
  | «show» target => simp [command, allFormed_showWords]
  | help topic => simp [command, allFormed_words fun word mem => (printable word mem).1]
  | connect name port => simp [command, allFormed_host printable.1]
  | exit => simp [command]

theorem allFormed_statement {stated : Command} (printable : Printable stated) :
    AllFormed (statement stated) := by
  simp [statement, allFormed_command printable]

end Formed

/-! ### Layouts -/

/-- A well-formed piece is spelled by its spelling. -/
theorem spelled_spelling {piece : Piece} (formed : piece.WellFormed) :
    piece.Spelled piece.spelling := by
  cases piece with
  | keyword name =>
    rw [Piece.Spelled, Piece.spelling]
    cases name <;> decide
  | fixed text =>
    -- On the letters of words the small letters of ASCII are those of Unicode.
    have ascii := fun c mem => toNat_lt_of_isWordChar (List.all_eq_true.1 formed.1.2 c mem)
    have small : Text.lowered text = text := formed.2
    rw [Piece.Spelled, Piece.spelling, ← lower_of_ascii ascii]
    exact (String.toList_ofList).symm.trans (congrArg String.toList small)
  | word text => exact rfl
  | quoted text => exact rfl
  | mark sign => exact rfl

/-- A gap in front of a text lays out the same pieces. -/
theorem writes_gap {gap text : List Char} {pieces : List Piece} (blank : gap.all Token.isGap = true)
    (writes : Writes pieces text) : Writes pieces (gap ++ text) := by
  cases writes with
  | done more => exact .done (by rw [List.all_append, blank, more]; rfl)
  | piece more spelled ends others =>
    rw [← List.append_assoc]
    exact .piece (by rw [List.all_append, blank, more]; rfl) spelled ends others

/-- Pieces with single spaces between them are laid out. -/
theorem writes_spaced {pieces : List Piece} (formed : AllFormed pieces) :
    Writes pieces (spaced pieces) := by
  have noGap : ([] : List Char).all Token.isGap = true := rfl
  induction pieces with
  | nil => exact .done noGap
  | cons piece pieces ih =>
    rw [allFormed_cons] at formed
    have spelled := spelled_spelling formed.1
    -- Only words have to be kept apart, but a space is right after every piece.
    cases pieces with
    | nil =>
      have ends : piece.EndsBefore [] := by
        cases piece with
        | mark sign => cases sign <;> simp [Piece.EndsBefore]
        | _ => simp [Piece.EndsBefore]
      have laid := Writes.piece noGap spelled ends (.done noGap)
      rwa [List.append_nil] at laid
    | cons next pieces =>
      have ends : piece.EndsBefore (' ' :: spaced (next :: pieces)) := by
        cases piece with
        | mark sign => cases sign <;> simp [Piece.EndsBefore]
        | _ => simp [Piece.EndsBefore, Token.isWordChar]
      have space : [' '].all Token.isGap = true := by decide
      exact .piece noGap spelled ends (writes_gap space (ih formed.2))

/-! ### The round trip -/

/-- A text that lays out a printable command is parsed as that command. -/
theorem parse_of_writes {stated : Command} (printable : Printable stated) {text : String}
    (writes : Writes (statement stated) text.toList) : Command.parse text = .ok stated := by
  obtain ⟨front, back, tokens, reads, last⟩ :=
    reads_append (reads_read writes (allFormed_statement printable))
  obtain ⟨tree, rfl, valued⟩ := command_tree printable reads
  -- The semicolon at the end is all that is left after the command.
  obtain ⟨semicolon, rest, rfl, ends⟩ := reads_mark last
  obtain rfl := reads_nil ends
  refine Command.parse_eq_ok.2 (Command.ofTokens_eq_ok.2 ⟨.closed tree semicolon, ?_, valued⟩)
  rw [tokens, List.append_nil]
  rfl

theorem writes_print {stated : Command} (printable : Printable stated) :
    Writes (statement stated) (print stated).toList := by
  rw [print, String.toList_ofList]
  exact writes_spaced (allFormed_statement printable)

/-- The statement that takes a keyspace into use lays out its pieces, whatever the name is. -/
theorem writes_useStatement (keyspace : String) :
    Writes (statement (.use keyspace)) (Invocation.useStatement keyspace).toList := by
  have noGap : ([] : List Char).all Token.isGap = true := rfl
  have space : [' '].all Token.isGap = true := by decide
  have spelled : (Invocation.useStatement keyspace).toList =
      [] ++ (['u', 's', 'e'] ++ ([' '] ++ ((Piece.quoted keyspace).spelling ++
        ([] ++ ([';'] ++ []))))) := by
    simp [Invocation.useStatement, Text.escaped, Piece.spelling, toString]
  rw [spelled]
  exact .piece noGap rfl rfl (.piece space rfl trivial (.piece noGap rfl trivial (.done noGap)))

/-- However a printable command is laid out, with gaps anywhere between its pieces and keywords in
any letter case, it is parsed as that command; so is its layout with single spaces. In particular
the statement that takes a keyspace into use does just that, whatever the name is. -/
theorem parse_print :
    (∀ stated : Command, Printable stated → ∀ text : String,
      Writes (statement stated) text.toList → Command.parse text = .ok stated) ∧
    (∀ stated : Command, Printable stated → Command.parse (print stated) = .ok stated) ∧
    ∀ keyspace : String,
      Command.parse (Invocation.useStatement keyspace) = .ok (.use keyspace) := by
  refine ⟨fun stated printable text writes => ?_, fun stated printable => ?_, fun keyspace => ?_⟩
  · exact parse_of_writes printable writes
  · exact parse_of_writes printable (writes_print printable)
  · have anyName : Printable (.use keyspace) := trivial
    exact parse_of_writes anyName (writes_useStatement keyspace)

/-- A keyword in capitals with a name that is one too, and a key that looks like the end of its
statement. -/
theorem parse_print_truncate_del :
    Command.parse "TRUNCATE\tlist;" = .ok (.truncate "list") ∧
    Command.parse (print (.del ⟨"f", .plain "k'];\n", .none⟩)) =
      .ok (.del ⟨"f", .plain "k'];\n", .none⟩) := by
  -- The first layout is built from its last piece to its first.
  have word : IsWord "list" ∧ IsWord "f" := by decide
  have closed : Writes [.mark .semicolon] [';'] :=
    @Writes.piece [] [';'] [] (.mark .semicolon) [] rfl rfl trivial (.done rfl)
  have named : Writes [.word "list", .mark .semicolon] "\tlist;".toList :=
    @Writes.piece ['\t'] "list".toList _ (.word "list") _ rfl rfl rfl closed
  have writes : Writes (statement (.truncate "list")) "TRUNCATE\tlist;".toList :=
    @Writes.piece [] "TRUNCATE".toList _ (.keyword .truncate) _ rfl rfl rfl named
  have truncated : Printable (.truncate "list") := word.1
  have deleted : Printable (.del ⟨"f", .plain "k'];\n", .none⟩) :=
    ⟨word.2, trivial, fun _ mem => absurd mem List.not_mem_nil⟩
  exact ⟨parse_print.1 _ truncated _ writes, parse_print.2.1 _ deleted⟩

end WideColumn.Printing
