import WideColumn.Proofs.Script.Cutting

/-!
# Leaving comments out

Comments are left out line by line, so a text that is put together at a line feed loses the comments
that its parts lose. Blanks at either end of a text are not trimmed but kept, or go with a comment
that they stand in; so trimming a text does not change its statements.
-/

namespace WideColumn

/-! ### Lines -/

namespace Text

theorem lines_feed (text : List Char) : lines ('\n' :: text) = [] :: lines text :=
  List.splitOn_append_cons_self [] text

theorem lines_cons {c : Char} (differ : c ≠ '\n') (text : List Char) :
    lines (c :: text) = (lines text).modifyHead (c :: ·) := by
  rw [lines, List.splitOn_cons_eq_if_modifyHead, if_neg (by simpa using differ)]
  rfl

theorem unlines_singleton (line : List Char) : unlines [line] = line :=
  List.intercalate_singleton

theorem unlines_cons_cons (line next : List Char) (lines : List (List Char)) :
    unlines (line :: next :: lines) = line ++ '\n' :: unlines (next :: lines) := by
  simp only [unlines, List.intercalate_cons_cons, List.append_assoc, List.singleton_append]

/-- Text at the end of the last line is text at the end. -/
theorem unlines_concat (before : List (List Char)) (last text : List Char) :
    unlines (before ++ [last ++ text]) = unlines (before ++ [last]) ++ text := by
  induction before with
  | nil => simp only [unlines, List.nil_append, List.intercalate_singleton]
  | cons line rest ih =>
    have nonempty {final : List Char} : rest ++ [final] ≠ [] := by simp
    simp only [unlines, List.cons_append, List.intercalate_cons_of_ne_nil nonempty,
      List.append_assoc] at ih ⊢
    rw [ih]

/-- Lines that are joined in two parts have a line feed between the parts, or one part is empty. -/
theorem unlines_append (first second : List (List Char)) :
    ∃ gap, Blank gap ∧ unlines (first ++ second) = unlines first ++ (gap ++ unlines second) := by
  have feed : Blank ['\n'] := blank_singleton rfl
  cases second with
  | nil =>
    refine ⟨[], blank_nil, ?_⟩
    rw [List.append_nil]
    exact (List.append_nil _).symm
  | cons next others =>
    induction first with
    | nil => exact ⟨[], blank_nil, rfl⟩
    | cons line rest ih =>
      cases rest with
      | nil =>
        refine ⟨['\n'], feed, ?_⟩
        simp only [unlines, List.singleton_append, List.intercalate_cons_cons,
          List.intercalate_singleton, List.append_assoc]
      | cons after rest =>
        obtain ⟨gap, blank, same⟩ := ih
        refine ⟨gap, blank, ?_⟩
        simp only [unlines, List.cons_append, List.intercalate_cons_cons, List.append_assoc] at same ⊢
        rw [same]

end Text

namespace Script

open Text

/-! ### Comments -/

/-- Comments are left out line by line. -/
theorem withoutComments_join (first second : List Char) :
    ∃ gap, Blank gap ∧ withoutComments (first ++ '\n' :: second) =
      withoutComments first ++ (gap ++ withoutComments second) := by
  have cut : lines (first ++ '\n' :: second) = lines first ++ lines second :=
    List.splitOn_append_cons_self first second
  rw [withoutComments, cut, List.filter_append]
  exact unlines_append _ _

/-- Blanks around a line do not make it a comment, nor keep it from being one. -/
theorem isComment_of_trim {line other : List Char} (same : trim line = trim other) :
    isComment line = isComment other := by
  rw [isComment, same, isComment]

/-- A blank in front of a text stays in front, or goes with a comment. -/
theorem withoutComments_cons {c : Char} (blank : isBlank c = true) (text : List Char) :
    ∃ kept, Blank kept ∧ withoutComments (c :: text) = kept ++ withoutComments text := by
  have space : Blank [c] := blank_singleton blank
  by_cases feed : c = '\n'
  · subst feed
    obtain ⟨gap, blank, same⟩ := withoutComments_join [] text
    exact ⟨gap, blank, same⟩
  · cases found : lines text with
    | nil => exact absurd found (lines_ne_nil text)
    | cons line others =>
      have same : isComment (c :: line) = isComment line :=
        isComment_of_trim (trim_blank_append space)
      rw [withoutComments, lines_cons feed, withoutComments, found, List.modifyHead_cons,
        List.filter_cons, List.filter_cons, same]
      split
      · refine ⟨[c], space, ?_⟩
        cases others.filter fun line => !isComment line <;> rfl
      · exact ⟨[], blank_nil, rfl⟩

theorem withoutComments_blank_append {blanks : List Char} (blank : Blank blanks)
    (text : List Char) :
    ∃ kept, Blank kept ∧ withoutComments (blanks ++ text) = kept ++ withoutComments text := by
  induction blanks with
  | nil => exact ⟨[], blank_nil, rfl⟩
  | cons c rest ih =>
    obtain ⟨inner, innerBlank, same⟩ := ih fun other mem => blank other (List.mem_cons_of_mem c mem)
    obtain ⟨front, frontBlank, whole⟩ :=
      withoutComments_cons (blank c List.mem_cons_self) (rest ++ text)
    refine ⟨front ++ inner, frontBlank.append innerBlank, ?_⟩
    rw [List.cons_append, whole, same, List.append_assoc]

/-- What is put behind a text without a line feed goes into its last line. -/
theorem exists_last_line (text : List Char) :
    ∃ before last, lines text = before ++ [last] ∧
      ∀ c, c ≠ '\n' → lines (text ++ [c]) = before ++ [last ++ [c]] := by
  induction text with
  | nil =>
    refine ⟨[], [], rfl, fun c differ => ?_⟩
    exact List.splitOn_eq_singleton (by simpa using differ.symm)
  | cons first rest ih =>
    obtain ⟨before, last, same, later⟩ := ih
    by_cases feed : first = '\n'
    · subst feed
      refine ⟨[] :: before, last, by rw [lines_feed, same, List.cons_append], fun c differ => ?_⟩
      rw [List.cons_append, lines_feed, later c differ, List.cons_append]
    · cases before with
      | nil =>
        refine ⟨[], first :: last, by rw [lines_cons feed, same]; rfl, fun c differ => ?_⟩
        rw [List.cons_append, lines_cons feed, later c differ]
        rfl
      | cons head others =>
        refine ⟨(first :: head) :: others, last, by rw [lines_cons feed, same]; rfl,
          fun c differ => ?_⟩
        rw [List.cons_append, lines_cons feed, later c differ]
        rfl

/-- A blank behind a text stays behind, or goes with a comment. -/
theorem withoutComments_concat {c : Char} (blank : isBlank c = true) (text : List Char) :
    ∃ kept, Blank kept ∧ withoutComments (text ++ [c]) = withoutComments text ++ kept := by
  have space : Blank [c] := blank_singleton blank
  by_cases feed : c = '\n'
  · subst feed
    obtain ⟨gap, blank, same⟩ := withoutComments_join text []
    exact ⟨gap, blank, same.trans (congrArg _ (List.append_nil gap))⟩
  · obtain ⟨before, last, same, later⟩ := exists_last_line text
    have comment : isComment (last ++ [c]) = isComment last :=
      isComment_of_trim (trim_append_blank space)
    rw [withoutComments, later c feed, withoutComments, same, List.filter_append,
      List.filter_append, List.filter_cons, List.filter_cons, comment]
    split
    · exact ⟨[c], space, unlines_concat _ last [c]⟩
    · exact ⟨[], blank_nil, (List.append_nil _).symm⟩

theorem withoutComments_append_blank (text : List Char) {blanks : List Char}
    (blank : Blank blanks) :
    ∃ kept, Blank kept ∧ withoutComments (text ++ blanks) = withoutComments text ++ kept := by
  induction blanks generalizing text with
  | nil => exact ⟨[], blank_nil, by rw [List.append_nil, List.append_nil]⟩
  | cons c rest ih =>
    obtain ⟨front, frontBlank, same⟩ := withoutComments_concat (blank c List.mem_cons_self) text
    obtain ⟨back, backBlank, whole⟩ :=
      ih (text ++ [c]) fun other mem => blank other (List.mem_cons_of_mem c mem)
    refine ⟨front ++ back, frontBlank.append backBlank, ?_⟩
    rw [List.append_cons, whole, same, List.append_assoc]

theorem blank_withoutComments {blanks : List Char} (blank : Blank blanks) :
    Blank (withoutComments blanks) := by
  obtain ⟨kept, all, same⟩ := withoutComments_blank_append blank []
  rw [List.append_nil] at same
  exact same ▸ all.append blank_nil

/-! ### Trimming -/

/-- Trimming a text neither changes its statements nor whether it ends outside quotes. -/
theorem split_trim (text : List Char) :
    split (trim text) = split text ∧
      (modeAfter (withoutComments (trim text)) = .outside ↔
        modeAfter (withoutComments text) = .outside) := by
  obtain ⟨before, after, front, back, same⟩ := eq_trim text
  obtain ⟨left, leftBlank, leftSame⟩ := withoutComments_blank_append front (trim text ++ after)
  obtain ⟨right, rightBlank, rightSame⟩ := withoutComments_append_blank (trim text) back
  have whole : withoutComments text = left ++ (withoutComments (trim text) ++ right) := by
    rw [same, leftSame, rightSame, ← same]
  rw [split_eq, split_eq, whole]
  constructor
  · rw [(ended_of_blank leftBlank).statementsOf_append, statementsOf_of_blank leftBlank,
      statementsOf_append_blank rightBlank, List.nil_append]
  · rw [modeAfter_append, modeAfter_of_blank leftBlank, List.foldl_append,
      foldl_blank (Mode.sound_outside.foldl _) rightBlank]
    exact Iff.rfl

end Script

end WideColumn
