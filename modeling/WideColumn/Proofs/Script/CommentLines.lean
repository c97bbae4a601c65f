import WideColumn.Proofs.Script.Single
import WideColumn.Proofs.Script.Unterminated

/-!
# Comment lines in a buffer

A comment line that is put at a line boundary of a text goes away with the other comments before the
quotes of the text are looked at, so it changes neither the statements nor where quotes end, wherever
the boundary is (`withoutComments_insertLine`). Whether a buffer is complete hangs on the statements
alone, unless the buffer is a statement that needs no semicolon: these are looked for in the buffer as
it was typed, so beside a comment they are not found.
-/

namespace WideColumn

namespace Text

/-! ### Lines that are put into a text -/

/-- The text with a line in front of the one with a number, or at the end if there is none. -/
def insertLine (number : Nat) (line text : List Char) : List Char :=
  unlines ((lines text).take number ++ line :: (lines text).drop number)

/-- Lines have no line feeds in them. -/
theorem feed_not_mem (text : List Char) : ∀ line ∈ lines text, '\n' ∉ line := by
  induction text with
  | nil => exact fun line mem => List.mem_singleton.1 mem ▸ List.not_mem_nil
  | cons c rest ih =>
    by_cases feed : c = '\n'
    · subst feed
      rw [lines_feed]
      exact List.forall_mem_cons.2 ⟨List.not_mem_nil, ih⟩
    · rw [lines_cons feed]
      cases found : lines rest with
      | nil => exact nofun
      | cons first others =>
        rw [found] at ih
        obtain ⟨here, later⟩ := List.forall_mem_cons.1 ih
        refine List.forall_mem_cons.2 ⟨fun mem => ?_, later⟩
        rcases List.mem_cons.1 mem with same | mem
        · exact feed same.symm
        · exact here mem

/-- A line that was put into a text is one of its lines. -/
theorem lines_insertLine (number : Nat) {line : List Char} (oneLine : '\n' ∉ line)
    (text : List Char) :
    lines (insertLine number line text) =
      (lines text).take number ++ line :: (lines text).drop number := by
  refine List.splitOn_intercalate '\n' (fun other mem => ?_) (by simp)
  rcases List.mem_append.1 mem with front | behind
  · exact feed_not_mem text other (List.mem_of_mem_take front)
  · rcases List.mem_cons.1 behind with rfl | behind
    · exact oneLine
    · exact feed_not_mem text other (List.mem_of_mem_drop behind)

end Text

namespace Script

open Text

variable {line : List Char} {buffer : String}

/-! ### Comments -/

/-- A line that starts with two dashes is a comment. -/
theorem isComment_dashes (text : List Char) : isComment ('-' :: '-' :: text) = true := by
  have solid : isBlank '-' = false := by decide
  have kept : ('-' :: '-' :: text).dropWhile isBlank = '-' :: '-' :: text :=
    List.dropWhile_cons_of_neg (by simp [solid])
  rw [isComment, trim, trimWhile, kept, trimEndWhile_cons solid, trimEndWhile_cons solid]
  rfl

/-- A comment that was put into a text is left out with the others. -/
theorem withoutComments_insertLine (number : Nat) (oneLine : '\n' ∉ line)
    (comment : isComment line = true) (text : List Char) :
    withoutComments (insertLine number line text) = withoutComments text := by
  rw [withoutComments, lines_insertLine number oneLine, List.filter_append,
    List.filter_cons_of_neg (by simp [comment]), ← List.filter_append, List.take_append_drop,
    withoutComments]

/-- The dashes of a comment are in the text that it was put into. -/
theorem dash_mem_insertLine (number : Nat) (comment : isComment line = true) (text : List Char) :
    '-' ∈ insertLine number line text := by
  have dashes := count_of_isComment comment
  refine List.count_pos_iff.1 ?_
  rw [insertLine, count_unlines_append, count_unlines_cons]
  omega

/-! ### Statements that need no semicolon -/

/-- A text with a dash is no statement that needs no semicolon. -/
theorem not_isBare_of_dash (dash : '-' ∈ buffer.toList) : ¬IsBare buffer := by
  intro bare
  rcases mem_trim_or dash with inner | blank
  · exact not_mem_of_isBare bare (by decide) (by decide) (by simp [bareStatements]) inner
  · exact absurd blank (by decide)

/-- A statement that needs no semicolon has none. -/
theorem semicolon_not_mem_of_isBare (bare : IsBare buffer) : ';' ∉ buffer.toList := by
  intro semicolon
  rcases mem_trim_or semicolon with inner | blank
  · exact not_mem_of_isBare bare (by decide) (by decide) (by simp [bareStatements]) inner
  · exact absurd blank (by decide)

theorem isComplete_of_isBare (bare : IsBare buffer) : isComplete buffer = true := by
  have filled : (trim buffer.toList).isEmpty = false := by
    refine Bool.eq_false_iff.2 fun empty => ?_
    rw [IsBare, List.isEmpty_iff.1 empty] at bare
    exact absurd bare (by decide)
  have found := List.contains_iff_mem.2 bare
  simp only [isComplete, filled, found, Bool.not_false, Bool.true_or, Bool.and_true]

/-- The text of a statement that needs no semicolon is a statement without one. -/
theorem endsWithSemicolon_of_isBare (bare : IsBare buffer) :
    (split buffer.toList).getLast?.any endsWithSemicolon = false := by
  have absent := semicolon_not_mem_of_isBare bare
  have noComments : ∀ line ∈ lines buffer.toList, isComment line = false := by
    refine fun line mem => Bool.eq_false_iff.2 fun comment => not_isBare_of_dash ?_ bare
    have fewer := count_withoutComments_lt mem comment
    exact List.count_pos_iff.1 (by omega)
  rw [split_eq, Token.withoutComments_eq noComments, statementsOf,
    (cut_of_not_mem .outside absent).pieces, List.nil_append, List.map_singleton]
  refine Bool.eq_false_iff.2 fun ends => ?_
  obtain ⟨statement, last, semicolon⟩ := (Option.any_eq_true _ _).1 ends
  have whole := List.mem_singleton.1 (List.mem_filter.1 (List.mem_of_getLast? last)).1
  obtain ⟨before, after, -, -, same⟩ := eq_trim buffer.toList
  rw [endsWithSemicolon, beq_iff_eq, whole] at semicolon
  refine absent (same ▸ ?_)
  exact List.mem_append_right before (List.mem_append_left after (List.mem_of_getLast? semicolon))

/-- Other buffers are complete if their statements are: a text without any has no last one. -/
theorem isComplete_iff_split (clear : ¬IsBare buffer) : isComplete buffer = true ↔
    modeAfter (withoutComments buffer.toList) = .outside ∧
      (split buffer.toList).getLast?.any endsWithSemicolon = true := by
  rw [isComplete_iff clear]
  refine ⟨And.right, fun ends => ⟨fun blank => ?_, ends⟩⟩
  obtain ⟨-, last⟩ := ends
  rw [split_eq, statementsOf_of_blank (blank_withoutComments blank)] at last
  cases last

/-! ### The theorem -/

/-- A comment line at a line boundary of a buffer leaves the statements of the buffer as they are, and
it leaves the buffer complete or not complete just if the buffer is no statement that needs no
semicolon. -/
theorem isComplete_insertComment (buffer : String) (number : Nat) (text : List Char)
    (oneLine : '\n' ∉ text) :
    let commented := String.ofList (insertLine number ("-- ".toList ++ text) buffer.toList)
    statements commented = statements buffer ∧
      (isComplete commented = isComplete buffer ↔ ¬IsBare buffer) := by
  intro commented
  have comment : isComment ("-- ".toList ++ text) = true := isComment_dashes (' ' :: text)
  have single : '\n' ∉ "-- ".toList ++ text := by
    simpa using oneLine
  have chars : commented.toList = insertLine number ("-- ".toList ++ text) buffer.toList :=
    String.toList_ofList
  have left : withoutComments commented.toList = withoutComments buffer.toList := by
    rw [chars, withoutComments_insertLine number single comment]
  have same : split commented.toList = split buffer.toList := by
    rw [split_eq, left, split_eq]
  have clear : ¬IsBare commented :=
    not_isBare_of_dash (chars ▸ dash_mem_insertLine number comment buffer.toList)
  refine ⟨by rw [statements, same, statements], fun equal bare => ?_, fun notBare => ?_⟩
  · -- The comment hides the statement, and the text has no semicolon to be found instead.
    have complete := equal.trans (isComplete_of_isBare bare)
    have semicolon := ((isComplete_iff_split clear).1 complete).2
    rw [same, endsWithSemicolon_of_isBare bare] at semicolon
    cases semicolon
  · rw [Bool.eq_iff_iff, isComplete_iff_split clear, isComplete_iff_split notBare, left, same]

/-- A comment with a quote and a semicolon, between the lines of a statement. -/
theorem isComplete_insertComment_quote :
    '\n' ∉ "don't;".toList ∧
      insertLine 1 ("-- ".toList ++ "don't;".toList) "use\nk;".toList =
        "use\n-- don't;\nk;".toList ∧
      statements "use\n-- don't;\nk;" = statements "use\nk;" ∧
      (isComplete "use\n-- don't;\nk;" = isComplete "use\nk;" ↔ ¬IsBare "use\nk;") := by
  have oneLine : '\n' ∉ "don't;".toList := by decide
  have inserted : insertLine 1 ("-- ".toList ++ "don't;".toList) "use\nk;".toList =
      "use\n-- don't;\nk;".toList := by
    decide +kernel
  have same := isComplete_insertComment "use\nk;" 1 "don't;".toList oneLine
  rw [inserted, String.ofList_toList] at same
  exact ⟨oneLine, inserted, same⟩

/-- The statement `help` is complete by itself, and not behind a comment, where it is still the only
statement. -/
theorem isComplete_help_commented :
    insertLine 0 ("-- ".toList ++ "x".toList) "help".toList = "-- x\nhelp".toList ∧
      isComplete "help" = true ∧ isComplete "-- x\nhelp" = false ∧
      statements "-- x\nhelp" = ["help"] :=
  ⟨by decide +kernel, by decide +kernel, by decide +kernel, by decide +kernel⟩

end Script

end WideColumn
