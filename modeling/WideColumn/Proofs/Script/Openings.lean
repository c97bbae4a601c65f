import WideColumn.Proofs.Script.Comments

/-!
# Lines that begin in the middle of a text

A text that is written into a line stays there unless it has a line feed, and what comes behind a
line feed begins a line of its own. A text opens a line with given characters if they stand behind
one of its line feeds (`OpensLine`). Where texts are written one below another, the lines that begin
with these characters are one for each text that begins with them itself, and those that the texts
open (`length_begun_stacked_le_iff`).
-/

namespace WideColumn.Text

variable {start first rest text : List Char} {c : Char}

/-- Whether a text has a line, other than its first one, that begins with given characters. -/
def OpensLine (start text : List Char) : Prop :=
  '\n' :: start <:+: text

instance (start text : List Char) : Decidable (OpensLine start text) :=
  inferInstanceAs (Decidable (_ <:+: _))

/-- The lines of a list that begin with given characters. -/
def begun (start : List Char) (lines : List (List Char)) : List (List Char) :=
  lines.filter (start.isPrefixOf ·)

/-- Texts one below another, each with a line feed behind it. -/
def stacked (texts : List (List Char)) : List Char :=
  texts.flatMap (· ++ ['\n'])

/-! ### Beginnings -/

/-- A character that the beginning does not have ends the search for it. -/
theorem prefix_append_cons_iff (absent : c ∉ start) :
    start <+: first ++ c :: rest ↔ start <+: first := by
  refine ⟨fun whole => ?_, fun early => early.trans (List.prefix_append _ _)⟩
  rcases List.prefix_or_prefix_of_prefix whole (List.prefix_append first (c :: rest)) with
    early | ⟨behind, rfl⟩
  · exact early
  · cases behind with
    | nil => exact (List.append_nil first).symm ▸ List.prefix_rfl
    | cons d others =>
      have next := (List.prefix_append_right_inj first).1 whole
      obtain rfl := (List.cons_prefix_cons.1 next).1
      exact absurd (List.mem_append_right first List.mem_cons_self) absent

theorem opensLine_cons :
    OpensLine start (c :: rest) ↔ (c = '\n' ∧ start <+: rest) ∨ OpensLine start rest := by
  rw [OpensLine, List.infix_cons_iff, List.cons_prefix_cons, eq_comm]
  exact Iff.rfl

theorem opensLine_cons_of_ne (differ : c ≠ '\n') :
    OpensLine start (c :: rest) ↔ OpensLine start rest :=
  opensLine_cons.trans (or_iff_right fun feed => differ feed.1)

theorem not_opensLine_of_not_mem (noFeed : '\n' ∉ text) : ¬ OpensLine start text :=
  fun opens => noFeed (opens.subset List.mem_cons_self)

/-- A character that the beginning does not have stands between the lines that the text in front of
it opens and those that are opened from it on. -/
theorem opensLine_append_cons (absent : c ∉ start) : OpensLine start (first ++ c :: rest) ↔
    OpensLine start first ∨ OpensLine start (c :: rest) := by
  induction first with
  | nil => simp only [List.nil_append, not_opensLine_of_not_mem List.not_mem_nil, false_or]
  | cons d others ih =>
    rw [List.cons_append, opensLine_cons, ih, prefix_append_cons_iff absent, ← or_assoc,
      ← opensLine_cons]

/-- In front of a text a part without a line feed changes nothing. -/
theorem opensLine_append (noFeed : '\n' ∉ first) :
    OpensLine start (first ++ rest) ↔ OpensLine start rest := by
  induction first with
  | nil => rfl
  | cons d others ih =>
    obtain ⟨differ, later⟩ := List.ne_and_not_mem_of_not_mem_cons noFeed
    rw [List.cons_append, opensLine_cons_of_ne differ.symm, ih later]

/-! ### The lines that begin so -/

/-- The first line of a text. -/
def firstLine (text : List Char) : List Char :=
  (lines text).headD []

theorem lines_eq_cons (text : List Char) : lines text = firstLine text :: (lines text).tail := by
  obtain ⟨line, others, found⟩ := List.exists_cons_of_ne_nil (lines_ne_nil text)
  rw [firstLine, found]
  rfl

theorem firstLine_of_not_mem (noFeed : '\n' ∉ text) : firstLine text = text := by
  rw [firstLine, lines, List.splitOn_eq_singleton noFeed]
  rfl

/-- What begins a text begins its first line. -/
theorem prefix_firstLine (noFeed : '\n' ∉ start) :
    start <+: firstLine text ↔ start <+: text := by
  have whole := unlines_lines text
  rw [lines_eq_cons text] at whole
  cases others : (lines text).tail with
  | nil =>
    rw [others, unlines_singleton] at whole
    rw [whole]
  | cons next later =>
    rw [others, unlines_cons_cons] at whole
    rw [← prefix_append_cons_iff noFeed, whole]

theorem begun_cons (start text : List Char) (others : List (List Char)) :
    begun start (text :: others) =
      (if start <+: text then [text] else []) ++ begun start others := by
  rw [begun, List.filter_cons]
  simp only [List.isPrefixOf_iff_prefix]
  split <;> rfl

theorem begun_lines (noFeed : '\n' ∉ start) (text : List Char) : begun start (lines text) =
    (if start <+: text then [firstLine text] else []) ++ begun start (lines text).tail := by
  rw [lines_eq_cons text, begun_cons, List.tail_cons]
  simp only [prefix_firstLine noFeed]

/-- A text opens a line just if there is such a line behind its first one. -/
theorem begun_tail_eq_nil (noFeed : '\n' ∉ start) :
    begun start (lines text).tail = [] ↔ ¬ OpensLine start text := by
  induction text with
  | nil => exact iff_of_true rfl (not_opensLine_of_not_mem List.not_mem_nil)
  | cons c rest ih =>
    by_cases feed : c = '\n'
    · rw [feed, lines_feed, List.tail_cons, begun_lines noFeed, List.append_eq_nil_iff, ih,
        opensLine_cons, not_or]
      simp
    · rw [lines_cons feed, List.tail_modifyHead, ih, opensLine_cons_of_ne feed]

/-! ### Texts one below another -/

theorem lines_stacked (texts : List (List Char)) :
    lines (stacked texts) = texts.flatMap lines ++ [[]] := by
  induction texts with
  | nil => rfl
  | cons text others ih =>
    rw [List.flatMap_cons, List.append_assoc, ← ih]
    exact (congrArg lines (List.append_assoc _ _ _)).trans (List.splitOn_append_cons_self _ _)

section Stacked

variable (noFeed : '\n' ∉ start)

include noFeed

theorem begun_stacked_cons (text : List Char) (others : List (List Char)) :
    begun start (lines (stacked (text :: others))) =
      (if start <+: text then [firstLine text] else []) ++ begun start (lines text).tail ++
        begun start (lines (stacked others)) := by
  rw [lines_stacked, List.flatMap_cons, List.append_assoc, ← lines_stacked]
  exact (List.filter_append ..).trans (congrArg (· ++ _) (begun_lines noFeed text))

variable (filled : start ≠ [])

include filled

omit noFeed in
theorem begun_stacked_nil : begun start (lines (stacked [])) = [] := by
  obtain ⟨c, others, rfl⟩ := List.exists_cons_of_ne_nil filled
  rfl

/-- No more lines begin with given characters than texts do just if none of the texts opens one. -/
theorem length_begun_stacked_le_iff (texts : List (List Char)) :
    (begun start (lines (stacked texts))).length ≤ (begun start texts).length ↔
      ∀ text ∈ texts, ¬ OpensLine start text := by
  have counted : (begun start (lines (stacked texts))).length = (begun start texts).length +
      (texts.flatMap fun text => begun start (lines text).tail).length := by
    induction texts with
    | nil => exact congrArg List.length (begun_stacked_nil filled)
    | cons text others ih =>
      rw [begun_stacked_cons noFeed, begun_cons, List.flatMap_cons]
      simp only [List.length_append, ih]
      split <;> simp only [List.length_singleton, List.length_nil] <;> omega
  calc (begun start (lines (stacked texts))).length ≤ (begun start texts).length
    _ ↔ (texts.flatMap fun text => begun start (lines text).tail).length = 0 := by omega
    _ ↔ ∀ text ∈ texts, begun start (lines text).tail = [] := by
      rw [List.length_eq_zero_iff, List.flatMap_eq_nil_iff]
    _ ↔ ∀ text ∈ texts, ¬ OpensLine start text :=
      forall₂_congr fun _ _ => begun_tail_eq_nil noFeed

/-- If no text opens a line with given characters, then the lines that begin with them are the first
ones of the texts that do. -/
theorem begun_stacked {texts : List (List Char)}
    (none : ∀ text ∈ texts, ¬ OpensLine start text) :
    begun start (lines (stacked texts)) = (begun start texts).map firstLine := by
  induction texts with
  | nil => exact begun_stacked_nil filled
  | cons text others ih =>
    obtain ⟨closed, rest⟩ := List.forall_mem_cons.1 none
    rw [begun_stacked_cons noFeed, begun_cons, (begun_tail_eq_nil noFeed).2 closed, ih rest,
      List.append_nil, List.map_append]
    split <;> rfl

end Stacked

end WideColumn.Text
