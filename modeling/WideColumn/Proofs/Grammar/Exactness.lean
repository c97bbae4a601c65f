import WideColumn.Proofs.Grammar.Completeness
import WideColumn.Proofs.Grammar.Soundness
import WideColumn.Proofs.Grammar.Unambiguity
import WideColumn.Proofs.Lexing

/-!
# The parser is exact

A text that can be cut into tokens states a command if and only if its tokens have a derivation
whose value is that command, and there is never more than one derivation. All other texts that can
be cut into tokens are refused with a parse failure.

A text of blanks and semicolons is refused before it is cut. That agrees with the grammar because a
statement begins with a keyword or a question mark.
-/

namespace WideColumn

open Grammar

namespace Command

/-- A list of tokens is a command just when it has a derivation with that value. -/
theorem ofTokens_eq_ok {tokens : List Token} {command : Command} :
    ofTokens tokens = .ok command ↔
      ∃ tree : Statement, tree.yield = tokens ∧ tree.value = .ok command := by
  constructor
  · intro h
    cases read : Parser.statement tokens with
    | error refusal => simp [ofTokens, read, Except.map] at h
    | ok found =>
      obtain ⟨value, rest⟩ := found
      rw [ofTokens, read] at h
      cases h
      exact statement_ok read
  · rintro ⟨tree, rfl, valued⟩
    rw [ofTokens, statement_yield, valued]
    rfl

/-- The first token of a statement is a keyword or a question mark. -/
theorem exists_lead (tree : Statement) :
    ∃ token ∈ tree.yield, token.kind ≠ .unreadable ∧ token.kind ≠ .mark .semicolon := by
  -- A semicolon after the command does not change what comes first.
  have first : ∀ (command : Grammar.Command) (rest : List Token),
      ∃ token ∈ command.yield ++ rest,
        token.kind ≠ .unreadable ∧ token.kind ≠ .mark .semicolon := by
    intro command rest
    have lead := command.head_yield rest
    cases tokens : command.yield ++ rest with
    | nil => simp [tokens] at lead
    | cons token others =>
      rw [tokens, List.head?_cons, Option.map_some, Option.some.injEq] at lead
      refine ⟨token, List.mem_cons_self, ?_, ?_⟩
      all_goals
        rw [lead]
        cases command <;> simp [Grammar.Command.leadKind]
  cases tree with
  | closed command semicolon => exact first command semicolon.yield
  | bare command => simpa [Statement.yield] using first command []

/-- The tokens of a text that counts as empty are no statement. -/
theorem not_statement_of_isEmptyText {text : List Char} (empty : isEmptyText text = true)
    (tree : Statement) : tree.yield ≠ Token.read text := by
  intro same
  obtain ⟨token, mem, readable, noSemicolon⟩ := exists_lead tree
  rw [same] at mem
  rcases Token.kinds_of_readFrom (blank_of_isEmptyText empty) _ _ token mem with h | h
  · exact readable h
  · exact noSemicolon h

/-- The command of a text is that of its tokens. -/
theorem parse_eq_ok {text : String} {command : Command} :
    parse text = .ok command ↔ ofTokens (Token.read text.toList) = .ok command := by
  -- A text that counts as empty is refused at once, and its tokens are no statement either.
  by_cases empty : isEmptyText text.toList
  · constructor
    · intro h
      simp [parse, empty] at h
    · intro h
      obtain ⟨tree, same, -⟩ := ofTokens_eq_ok.1 h
      exact absurd same (not_statement_of_isEmptyText empty tree)
  · rw [parse, if_neg empty]
    cases ofTokens (Token.read text.toList) <;> simp

/-- Whatever is no command is refused with a parse failure. -/
theorem parse_failure (text : String) (h : ∀ command, parse text ≠ .ok command) :
    ∃ cause, parse text = .error (.parse cause) := by
  rw [parse] at h ⊢
  split
  · exact ⟨_, rfl⟩
  · rename_i nonempty
    rw [if_neg nonempty] at h
    cases found : ofTokens (Token.read text.toList) with
    | ok command => exact absurd (by rw [found]) (h command)
    | error refusal => exact ⟨_, rfl⟩

/-- The parser gives exactly the values of the derivations of a text, of which there is at most
one, and refuses everything else with a parse failure. -/
theorem parse_exact (text : String) (tokens : List Token)
    (tokenized : Token.tokenize text = .ok tokens) :
    (∀ command, parse text = .ok command ↔
      ∃ tree : Statement, tree.yield = tokens ∧ tree.value = .ok command) ∧
    (∀ tree other : Statement, tree.yield = other.yield → tree = other) ∧
    ((∀ command, parse text ≠ .ok command) → ∃ cause, parse text = .error (.parse cause)) := by
  have read : Token.read text.toList = tokens := by
    rw [Token.tokenize] at tokenized
    split at tokenized
    · cases tokenized
    · exact Except.ok.inj tokenized
  refine ⟨fun command => ?_, fun tree other => statement_unique, parse_failure text⟩
  rw [parse_eq_ok, read]
  exact ofTokens_eq_ok

/-- In `use list` the second keyword is a word: the name of a keyspace. -/
theorem parse_use_list :
    Token.tokenize "use list" = .ok [⟨.keyword .use, ['u', 's', 'e'], 0⟩,
      ⟨.keyword .list, ['l', 'i', 's', 't'], 4⟩] ∧
    parse "use list" = .ok (.use "list") := by
  have tokenized : Token.tokenize "use list" = .ok [⟨.keyword .use, ['u', 's', 'e'], 0⟩,
      ⟨.keyword .list, ['l', 'i', 's', 't'], 4⟩] := by decide
  refine ⟨tokenized, ((parse_exact _ _ tokenized).1 _).2 ⟨.bare (.useWord ⟨_, rfl⟩
    (.reserved .list ⟨_, rfl⟩)), rfl, rfl⟩⟩

end Command

end WideColumn
