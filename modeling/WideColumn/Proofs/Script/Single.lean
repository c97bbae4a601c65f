import WideColumn.Proofs.Script.Comments
import WideColumn.Proofs.Script.Tokens

/-!
# Scripts of one statement

A text whose only semicolon outside strings is its last token is one statement, and the script that it
makes has this statement, just as it was typed. Comments are the exception: a line that starts with two
dashes is left out before quotes are looked at, also if it starts inside a string. Such a line takes
its dashes with it, so the statement that is left cannot be the text (`Script.ne_trim_of_comment`), and
the script has the statement as typed just if it has no such line
(`Token.statements_eq_singleton_iff`).
-/

namespace WideColumn

open Text

namespace Script

/-! ### Dashes -/

theorem count_of_blank {blanks : List Char} (blank : Blank blanks) : blanks.count '-' = 0 :=
  List.count_eq_zero.2 fun mem => absurd (blank '-' mem) (by decide)

/-- Trimming leaves the dashes. -/
theorem count_trim (text : List Char) : (trim text).count '-' = text.count '-' := by
  obtain ⟨before, after, front, back, same⟩ := eq_trim text
  have counted := congrArg (List.count '-') same
  rw [List.count_append, List.count_append, count_of_blank front, count_of_blank back] at counted
  omega

/-- The dashes of lines are those of the text that they are joined to. -/
theorem count_unlines_append (first second : List (List Char)) :
    (unlines (first ++ second)).count '-' =
      (unlines first).count '-' + (unlines second).count '-' := by
  obtain ⟨gap, blank, joined⟩ := unlines_append first second
  rw [joined, List.count_append, List.count_append, count_of_blank blank]
  omega

theorem count_unlines_cons (line : List Char) (rest : List (List Char)) :
    (unlines (line :: rest)).count '-' = line.count '-' + (unlines rest).count '-' := by
  have joined := count_unlines_append [line] rest
  rwa [List.singleton_append, unlines_singleton] at joined

theorem count_unlines_filter_le (keeps : List Char → Bool) (lines : List (List Char)) :
    (unlines (lines.filter keeps)).count '-' ≤ (unlines lines).count '-' := by
  induction lines with
  | nil => exact Nat.le_refl _
  | cons line rest ih =>
    rw [List.filter_cons, count_unlines_cons]
    split
    · rw [count_unlines_cons]
      omega
    · omega

theorem count_of_isComment {line : List Char} (comment : isComment line = true) :
    0 < line.count '-' := by
  obtain ⟨rest, same⟩ := List.isPrefixOf_iff_prefix.1 comment
  rw [← count_trim, ← same]
  exact List.count_pos_iff.2 (List.mem_append_left rest List.mem_cons_self)

/-- Comments are left out with their dashes. -/
theorem count_withoutComments_lt {text line : List Char} (mem : line ∈ lines text)
    (comment : isComment line = true) : (withoutComments text).count '-' < text.count '-' := by
  obtain ⟨before, after, cut⟩ := List.append_of_mem mem
  have dashes := count_of_isComment comment
  have front := count_unlines_filter_le (fun line => !isComment line) before
  have back := count_unlines_filter_le (fun line => !isComment line) after
  calc (withoutComments text).count '-'
      = (unlines (before.filter fun line => !isComment line)).count '-' +
          (unlines (after.filter fun line => !isComment line)).count '-' := by
        rw [withoutComments, cut, List.filter_append, List.filter_cons_of_neg (by simp [comment]),
          count_unlines_append]
    _ < (unlines before).count '-' + (line.count '-' + (unlines after).count '-') := by omega
    _ = (unlines (lines text)).count '-' := by
        rw [cut, count_unlines_append, count_unlines_cons]
    _ = text.count '-' := by rw [unlines_lines]

/-- A text with comments is none of its own statements. -/
theorem ne_trim_of_comment {text line : List Char} (mem : line ∈ lines text)
    (comment : isComment line = true) : ∀ statement ∈ split text, statement ≠ trim text := by
  intro statement inside same
  obtain ⟨piece, cut, rfl⟩ := List.mem_map.1 (List.mem_filter.1 inside).1
  have fewer := count_withoutComments_lt mem comment
  have part : piece.count '-' ≤ (withoutComments text).count '-' := by
    rw [← flatten_pieces .outside (withoutComments text)]
    exact (List.sublist_flatten_of_mem cut).count_le '-'
  have equal : piece.count '-' = text.count '-' := by
    rw [← count_trim piece, same, count_trim]
  omega

end Script

namespace Token

open Script

variable {text : List Char} {body : List Lexeme}

/-! ### One semicolon -/

theorem Parted.of_flatten_eq_nil {parts : List (List Lexeme)} (parted : Parted parts)
    (empty : parts.flatten = []) : parts = [[]] := by
  cases parted with
  | last => rw [List.flatten_singleton.symm.trans empty]
  | part => simp at empty

/-- A text with one semicolon, at its end, has two parts: all of it, and nothing. -/
theorem Parted.of_flatten_concat {parts : List (List Lexeme)} (parted : Parted parts)
    (plain : ∀ lexeme ∈ body, lexeme.1 ≠ .mark .semicolon) {last : Lexeme}
    (ends : last.1 = .mark .semicolon) (joined : parts.flatten = body ++ [last]) :
    parts = [body ++ [semicolon], []] := by
  cases parted with
  | @last part all =>
    rw [List.flatten_singleton] at joined
    exact absurd ends (all last (joined ▸ List.mem_append_right body List.mem_cons_self))
  | @part front others _ parted =>
    rw [List.flatten_cons, List.append_assoc, List.singleton_append] at joined
    -- A second semicolon would stand in the body.
    cases rest : others.flatten with
    | nil =>
      rw [rest] at joined
      rw [(List.append_inj' joined rfl).1, parted.of_flatten_eq_nil rest]
    | cons next more =>
      have inside : semicolon ∈ body := by
        have dropped := congrArg List.dropLast joined
        rw [List.dropLast_concat, rest,
          List.dropLast_append_of_ne_nil (List.cons_ne_nil _ _)] at dropped
        rw [← dropped]
        exact List.mem_append_right front List.mem_cons_self
      exact absurd rfl (plain semicolon inside)

/-- The statements of a text with one semicolon, at its end, if it has no comments: the text, or none
if there is nothing in front of the semicolon. -/
theorem Lexes.statementsOf {last : Lexeme} (lexes : Lexes text (body ++ [last]))
    (plain : ∀ lexeme ∈ body, lexeme.1 ≠ .mark .semicolon) (ends : last.1 = .mark .semicolon) :
    Script.statementsOf text = if body = [] then [] else [Text.trim text] := by
  obtain ⟨parts, each, joined, parted⟩ := lexes.pieces
  rw [parted.of_flatten_concat plain ends joined] at each
  obtain ⟨whole, rest, first, others, cut⟩ := List.forall₂_cons_right_iff.1 each
  obtain ⟨final, none, second, nothing, rfl⟩ := List.forall₂_cons_right_iff.1 others
  obtain rfl := List.forall₂_nil_right_iff.1 nothing
  have blank : Blank final := second.blank
  have same : Text.trim text = Text.trim whole := by
    rw [← flatten_pieces .outside text, cut]
    simp only [List.flatten_cons, List.flatten_nil, List.append_nil]
    exact trim_append_blank blank
  have kept : isStatement (Text.trim whole) = true ↔ body ≠ [] := by
    rw [first.isStatement_iff]
    simp
  rw [Script.statementsOf, cut, same, List.map_cons, List.map_singleton, trim_eq_nil.2 blank]
  split
  · rename_i empty
    have dropped : ¬isStatement (Text.trim whole) = true := fun statement => kept.1 statement empty
    rw [List.filter_cons_of_neg dropped]
    rfl
  · rename_i nonempty
    rw [List.filter_cons_of_pos (kept.2 nonempty)]
    rfl

/-! ### The theorem -/

/-- A text whose only semicolon is its last token is a script of one statement, which is the text
without the blanks around it, just if it has a token in front of the semicolon and no line starts with
two dashes. -/
theorem statements_eq_singleton_iff {content : String} {tokens : List Token} {last : Token}
    (tokenized : tokenize content = .ok (tokens ++ [last]))
    (ends : last.isMark .semicolon = true)
    (only : ∀ token ∈ tokens, token.isMark .semicolon = false) :
    statements content = [String.ofList (trim content.toList)] ↔
      tokens ≠ [] ∧ ∀ line ∈ lines content.toList, isComment line = false := by
  have lexes := lexes_of_tokenize tokenized
  rw [List.map_append, List.map_singleton] at lexes
  have plain : ∀ lexeme ∈ tokens.map lexemeOf, lexeme.1 ≠ .mark .semicolon := by
    intro lexeme mem
    obtain ⟨token, inside, rfl⟩ := List.mem_map.1 mem
    exact beq_eq_false_iff_ne.1 (only token inside)
  have whole := lexes.statementsOf plain (beq_iff_eq.1 ends)
  have listed : statements content = [String.ofList (trim content.toList)] ↔
      split content.toList = [trim content.toList] := by
    rw [statements, ← List.map_singleton]
    exact (List.map_injective_iff.2 fun _ _ => String.ofList_inj.1).eq_iff
  rw [listed]
  constructor
  · intro single
    have none : ∀ line ∈ lines content.toList, isComment line = false := by
      refine fun line mem => Bool.eq_false_iff.2 fun comment => ?_
      exact ne_trim_of_comment mem comment _ (single ▸ List.mem_cons_self) rfl
    refine ⟨fun empty => ?_, none⟩
    rw [split_eq, withoutComments_eq none, whole, if_pos (List.map_eq_nil_iff.2 empty)] at single
    cases single
  · rintro ⟨nonempty, none⟩
    rw [split_eq, withoutComments_eq none, whole, if_neg (by simpa using nonempty)]

/-- A string with a semicolon, a line break and two dashes, none of them at the start of a line. -/
theorem statements_eq_singleton_iff_string :
    tokenize "use 'a;\n b --';\n" =
        .ok ([⟨.keyword .use, "use".toList, 0⟩, ⟨.quoted, "'a;\n b --'".toList, 4⟩] ++
          [⟨.mark .semicolon, [';'], 14⟩]) ∧
      (statements "use 'a;\n b --';\n" = [String.ofList (trim "use 'a;\n b --';\n".toList)] ↔
        [(⟨.keyword .use, "use".toList, 0⟩ : Token), ⟨.quoted, "'a;\n b --'".toList, 4⟩] ≠ [] ∧
          ∀ line ∈ lines "use 'a;\n b --';\n".toList, isComment line = false) := by
  have tokenized : tokenize "use 'a;\n b --';\n" =
      .ok ([⟨.keyword .use, "use".toList, 0⟩, ⟨.quoted, "'a;\n b --'".toList, 4⟩] ++
        [⟨.mark .semicolon, [';'], 14⟩]) := by
    decide +kernel
  exact ⟨tokenized, statements_eq_singleton_iff tokenized (by decide) (by decide)⟩

/-- Whether every line that starts with two dashes starts inside quotes. -/
def DashesQuoted (text : List Char) : Prop :=
  ∀ number < (lines text).length, ∀ line ∈ (lines text)[number]?, isComment line = true →
    modeAfter (((lines text).take number).flatMap (· ++ ['\n'])) ≠ .outside

/-- A line of a string that starts with two dashes is left out of the statement. -/
theorem statements_drop_quoted_line :
    ¬∀ (content : String) (tokens : List Token) (last : Token),
      tokenize content = .ok (tokens ++ [last]) → last.isMark .semicolon = true →
      (∀ token ∈ tokens, token.isMark .semicolon = false) → tokens ≠ [] →
      DashesQuoted content.toList → statements content = [String.ofList (trim content.toList)] := by
  intro whole
  let content := "set F['k']['c'] = 'a\n-- b\nc';"
  have quoted : DashesQuoted content.toList := by
    unfold DashesQuoted
    decide +kernel
  have same := whole content (read content.toList).dropLast ⟨.mark .semicolon, [';'], 28⟩
    (by decide +kernel) (by decide) (by decide +kernel) (by decide +kernel) quoted
  revert same
  decide +kernel

end Token

end WideColumn
