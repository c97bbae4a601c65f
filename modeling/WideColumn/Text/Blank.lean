/-!
# Blank characters

Blank characters separate the parts of a text and are cut off its ends. The set is that of
Unicode white space together with the four information separators U+001C to U+001F.
-/

namespace WideColumn.Text

/-- Whether `c` is white space or an information separator. -/
def isBlank (c : Char) : Bool :=
  let point := c.toNat
  (0x09 ≤ point && point ≤ 0x0d) || (0x1c ≤ point && point ≤ 0x20) || point == 0x85 ||
  point == 0xa0 || point == 0x1680 || (0x2000 ≤ point && point ≤ 0x200a) || point == 0x2028 ||
  point == 0x2029 || point == 0x202f || point == 0x205f || point == 0x3000

/-- Every white space character that core knows is blank. -/
theorem isBlank_of_isWhitespace {c : Char} (h : c.isWhitespace = true) : isBlank c = true := by
  simp only [Char.isWhitespace, Bool.or_eq_true, decide_eq_true_eq] at h
  rcases h with ((rfl | rfl) | rfl) | rfl <;> decide

/-- The text without the characters of class `drops` at its end. -/
def trimEndWhile (drops : Char → Bool) (text : List Char) : List Char :=
  (text.reverse.dropWhile drops).reverse

/-- The text without the characters of class `drops` at either end. -/
def trimWhile (drops : Char → Bool) (text : List Char) : List Char :=
  trimEndWhile drops (text.dropWhile drops)

/-- The text without the blanks at either end. -/
def trim (text : List Char) : List Char :=
  trimWhile isBlank text

end WideColumn.Text
