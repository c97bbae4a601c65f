import WideColumn.Proofs.Grammar
import WideColumn.Proofs.Parsing

/-!
# What can follow a part of a statement

The parser tells by the next token whether a part is complete. Here are the sorts that this token
has after a command, an address, an attribute and the conditions, and how the clauses of a command
pass them on: in front of a clause comes its keyword or, if it is left out, what follows it.
-/

namespace WideColumn.Grammar

open WideColumn.Parser

/-- The sorts of the token after a command. -/
def commandEnd : List Token.Kind :=
  [.mark .semicolon]

/-- The sorts of the token after an address. -/
def addressEnd : List Token.Kind :=
  [.mark .equal, .keyword .as, .keyword .limit, .keyword .by, .mark .semicolon]

/-- The sorts of the token after an attribute. -/
def attributeEnd : List Token.Kind :=
  [.keyword .and, .mark .semicolon]

/-- The sorts of the token after the conditions of a statement. -/
def conditionsEnd : List Token.Kind :=
  [.keyword .limit, .mark .semicolon]

theorem not_word_of_commandEnd {rest : List Token} (h : Follows commandEnd rest) :
    Without Token.isWord rest :=
  h.any_head fun token kind => by
    rw [commandEnd, List.mem_singleton] at kind
    rw [Token.isWord, kind]

theorem all_endsCommand {rest : List Token} (h : Follows commandEnd rest) :
    rest.head?.all endsCommand = true :=
  h.all_head fun token kind => by simpa [endsCommand, Token.isMark, commandEnd] using kind

theorem all_followsAddress {rest : List Token} (h : Follows addressEnd rest) :
    rest.head?.all followsAddress = true :=
  h.all_head fun token kind => by
    simpa [followsAddress, endsCommand, Token.isMark, Token.isKeyword, addressEnd, or_assoc]
      using kind

theorem all_attributeEnd {rest : List Token} (h : Follows attributeEnd rest) :
    rest.head?.all (fun token => token.isKeyword .and || endsCommand token) = true :=
  h.all_head fun token kind => by
    simpa [endsCommand, Token.isMark, Token.isKeyword, attributeEnd] using kind

variable {rest : List Token}

theorem LimitClause.follows (tree : LimitClause) (ends : Follows commandEnd rest) :
    Follows conditionsEnd (tree.yield ++ rest) := by
  cases tree with
  | empty => exact ends.mono (by decide)
  | given lead amount => simp [yield, Terminal.yield, conditionsEnd]

theorem AsClause.follows (tree : AsClause) (ends : Follows conditionsEnd rest) :
    Follows addressEnd (tree.yield ++ rest) := by
  cases tree with
  | empty => exact ends.mono (by decide)
  | given lead validator => simp [yield, Terminal.yield, addressEnd]

theorem ByClause.follows (tree : ByClause) (ends : Follows commandEnd rest) :
    Follows addressEnd (tree.yield ++ rest) := by
  cases tree with
  | empty => exact ends.mono (by decide)
  | given lead amount => simp [yield, Terminal.yield, addressEnd]

theorem TtlClause.follows (tree : TtlClause) (ends : Follows commandEnd rest) :
    Follows [.keyword .with, .mark .semicolon] (tree.yield ++ rest) := by
  cases tree with
  | empty => exact ends.mono (by decide)
  | given lead name equal amount => simp [yield, Terminal.yield]

end WideColumn.Grammar
