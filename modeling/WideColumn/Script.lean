import WideColumn.Text.Blank
import WideColumn.Text.Case
import WideColumn.Text.Lines

/-!
# Scripts

A script is a text of several statements. Lines that start with two dashes are comments. A statement
ends with a semicolon outside quotes; quotes open at a quote of either sort and close at the next of
the same sort that no backslash escapes. What is left at the end counts as a statement as well.
-/

namespace WideColumn.Script

/-! ### Quotes -/

/-- Where in a script a character stands. -/
inductive Mode where
  | outside
  | quoted (quote : Char)
  /-- Right after a backslash inside quotes. -/
  | escaped (quote : Char)
  deriving DecidableEq, Repr

/-- Where the character after `c` stands. -/
def Mode.next (mode : Mode) (c : Char) : Mode :=
  match mode with
  | outside => if c = '\'' ∨ c = '"' then quoted c else outside
  | quoted quote =>
    if c = '\\' then escaped quote else if c = quote then outside else quoted quote
  | escaped quote => quoted quote

/-- Where a character after a text stands. -/
def modeAfter (text : List Char) : Mode :=
  text.foldl Mode.next .outside

/-! ### Cutting -/

/-- The pieces of a text, each but the last with the semicolon that ends it. -/
def pieces (mode : Mode) : List Char → List (List Char)
  | [] => [[]]
  | c :: rest =>
    if mode = .outside ∧ c = ';' then [c] :: pieces .outside rest
    else
      match pieces (mode.next c) rest with
      | first :: others => (c :: first) :: others
      | [] => [[c]]

/-- There is always a last piece. -/
theorem pieces_ne_nil (mode : Mode) (text : List Char) : pieces mode text ≠ [] := by
  cases text with
  | nil => simp [pieces]
  | cons c rest =>
    unfold pieces
    split
    · simp
    · split <;> simp

/-- The pieces of a text give the text back. -/
theorem flatten_pieces (mode : Mode) (text : List Char) : (pieces mode text).flatten = text := by
  induction text generalizing mode with
  | nil => rfl
  | cons c rest ih =>
    unfold pieces
    split
    · simp [ih]
    · cases h : pieces (mode.next c) rest with
      | nil => exact absurd h (pieces_ne_nil _ rest)
      | cons first others =>
        have joined := ih (mode.next c)
        rw [h] at joined
        simpa using joined

/-- Whether a line is a comment. -/
def isComment (line : List Char) : Bool :=
  ['-', '-'].isPrefixOf (Text.trim line)

/-- The text without its comments. -/
def withoutComments (text : List Char) : List Char :=
  Text.unlines ((Text.lines text).filter fun line => !isComment line)

/-- Whether a trimmed piece is a statement, and not empty or just a semicolon. -/
def isStatement (piece : List Char) : Bool :=
  !piece.isEmpty && piece != [';']

/-- The statements of a text, each with the semicolon that ends it. -/
def split (text : List Char) : List (List Char) :=
  ((pieces .outside (withoutComments text)).map Text.trim).filter isStatement

/-- The statements of a script. -/
def statements (text : String) : List String :=
  (split text.toList).map String.ofList

/-! ### Completeness -/

/-- The statements that need no semicolon at the prompt. -/
def bareStatements : List String :=
  ["help", "?", "exit", "quit"]

/-- Whether a text ends with a semicolon. -/
def endsWithSemicolon (text : List Char) : Bool :=
  text.getLast? == some ';'

/-- Whether what was typed so far is to be executed: it is a statement that needs no semicolon, or
it ends outside quotes and its last statement has its semicolon. -/
def isComplete (buffer : String) : Bool :=
  let bare := Text.trim buffer.toList
  !bare.isEmpty &&
    (bareStatements.contains (String.ofList (Text.lower bare)) ||
      (modeAfter (withoutComments bare) == .outside &&
        (split bare).getLast?.any endsWithSemicolon))

end WideColumn.Script
