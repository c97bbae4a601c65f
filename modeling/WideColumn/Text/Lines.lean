/-!
# Lines

A text is cut into lines at its line feeds and joined again without loss.
-/

namespace WideColumn.Text

/-- The lines of a text, which has one more of them than line feeds. -/
def lines (text : List Char) : List (List Char) :=
  text.splitOn '\n'

/-- Lines with a line feed between them. -/
def unlines (lines : List (List Char)) : List Char :=
  ['\n'].intercalate lines

/-- A text has at least one line. -/
theorem lines_ne_nil (text : List Char) : lines text ≠ [] :=
  List.splitOn_ne_nil '\n' text

/-- The lines of a text give the text back. -/
theorem unlines_lines (text : List Char) : unlines (lines text) = text :=
  List.intercalate_splitOn '\n'

/-- The text with a line feed for every line break, also for a carriage return alone or in front of
a line feed. -/
def unifyBreaks : List Char → List Char
  | '\r' :: '\n' :: rest => '\n' :: unifyBreaks rest
  | '\r' :: rest => '\n' :: unifyBreaks rest
  | c :: rest => c :: unifyBreaks rest
  | [] => []

/-- The lines that a reader gets one by one: there is none after a last line feed. -/
def inputLines (text : List Char) : List (List Char) :=
  let all := lines text
  if all.getLast? = some [] then all.dropLast else all

end WideColumn.Text
