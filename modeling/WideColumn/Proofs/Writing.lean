import Mathlib.Data.List.Forall2
import WideColumn.Numeral
import WideColumn.Token.Lexer

/-!
# What is written is read back

Two ways in which a value is put into a statement: a text as an escaped string between quotes, and a
number in decimal digits. Reading gives the value back.

An escaped text has no quote that is not behind a backslash and no line break behind one, so the
string ends at the quote after it, wherever that stands.
-/

namespace WideColumn

/-! ### Escaped texts -/

namespace Text

theorem escape_cons (c : Char) (text : List Char) : escape (c :: text) = escapeChar c ++ escape text :=
  rfl

/-- The letter of an escape sequence is no line break. -/
theorem escapeLetter?_ne_newline {c letter : Char} (h : escapeLetter? c = some letter) :
    letter ≠ '\n' := by
  rintro rfl
  unfold escapeLetter? at h
  split at h <;> simp at h

/-- A character without an escape letter is neither a single quote nor a backslash. -/
theorem plain_of_escapeLetter?_none {c : Char} (h : escapeLetter? c = none) :
    c ≠ '\'' ∧ c ≠ '\\' := by
  constructor <;> (rintro rfl; cases h)

theorem decode_cons {c : Char} (notEscape : c ≠ '\\') (rest : List Char) :
    decode (c :: rest) = c :: decode rest := by
  rw [decode]
  exact fun _ _ same => absurd same notEscape

/-- Decoding gives an escaped text back. -/
theorem decode_escape (text : List Char) : decode (escape text) = text := by
  induction text with
  | nil => rfl
  | cons c text ih =>
    rw [escape_cons, escapeChar]
    cases letter : escapeLetter? c with
    | some letter =>
      simp only [List.cons_append, List.nil_append, decode]
      rw [escapedChar?_of_escapeLetter? letter]
      simp [ih]
    | none =>
      have plain := plain_of_escapeLetter?_none letter
      rw [List.singleton_append, decode_cons plain.2, ih]

/-- An escaped text between single quotes stands for the text. -/
theorem unescape_quoted (text : List Char) : unescape ('\'' :: (escape text ++ ['\''])) = text := by
  simp [unescape, stripQuotes, decode_escape]

end Text

/-- A string goes from its quote to the quote after the escaped text. -/
theorem Token.closeString_escape (text after : List Char) :
    closeString '\'' (Text.escape text ++ '\'' :: after) =
      some (Text.escape text ++ ['\''], after) := by
  induction text with
  | nil => rfl
  | cons c text ih =>
    rw [Text.escape_cons, Text.escapeChar]
    -- A character is written as a backslash and a letter or as itself, and neither closes the string.
    cases letter : Text.escapeLetter? c with
    | some letter =>
      have sameLine := Text.escapeLetter?_ne_newline letter
      simp only [List.cons_append, List.nil_append, closeString]
      simp [sameLine, ih]
    | none =>
      have plain := Text.plain_of_escapeLetter?_none letter
      simp only [List.cons_append, List.nil_append]
      rw [closeString]
      · simp [plain, ih]
      · simp [plain.2]

/-! ### Numbers -/

/-- Items are all read just when each of them is. -/
theorem mapM_eq_some {α β : Type} {read? : α → Option β} {items : List α} {values : List β} :
    items.mapM read? = some values ↔
      List.Forall₂ (fun item value => read? item = some value) items values := by
  induction items generalizing values with
  | nil => simp [List.forall₂_nil_left_iff, eq_comm]
  | cons item rest ih =>
    rw [List.mapM_cons]
    constructor
    · intro read
      obtain ⟨value, first, read⟩ := Option.bind_eq_some_iff.1 read
      obtain ⟨later, others, same⟩ := Option.bind_eq_some_iff.1 read
      cases same
      exact .cons first (ih.1 others)
    · intro read
      cases read with
      | cons first others =>
        rw [first, ih.2 others]
        rfl

/-- A text without characters to drop is left as it is. -/
theorem Text.trimWhile_of_none {drops : Char → Bool} {text : List Char}
    (none : ∀ c ∈ text, drops c = false) : trimWhile drops text = text := by
  have kept : ∀ {text : List Char}, (∀ c ∈ text, drops c = false) → text.dropWhile drops = text := by
    intro text none
    cases text with
    | nil => rfl
    | cons c rest => simp [none c List.mem_cons_self]
  rw [trimWhile, kept none, trimEndWhile, kept fun c mem => none c (List.mem_reverse.1 mem),
    List.reverse_reverse]

namespace Numeral

/-- The value of an ASCII digit among the digits of all scripts. -/
theorem decimalDigit?_of_isDigit {c : Char} (digit : c.isDigit = true) :
    Text.decimalDigit? c = some (c.toNat - 0x30) := by
  obtain ⟨low, high⟩ := Char.isDigit_iff_toNat.1 digit
  have found : (decide (0x30 ≤ c.toNat) && decide (c.toNat < 0x30 + 10)) = true := by
    simp only [Bool.and_eq_true, decide_eq_true_eq]
    exact ⟨low, Nat.lt_succ_of_le high⟩
  rw [Text.decimalDigit?, Text.decimalZeros, List.find?_cons, found]
  rfl

/-- Digits without underscores are read one by one. -/
theorem separated?_of_mapM {digit? : Char → Option Nat} {digits : List Char} {values : List Nat}
    (nonempty : digits ≠ []) (noUnderscore : ∀ c ∈ digits, c ≠ '_')
    (read : digits.mapM digit? = some values) : separated? digit? digits = some values := by
  induction mapM_eq_some.1 read with
  | nil => exact absurd rfl nonempty
  | @cons c value rest values first others ih =>
    cases others with
    | nil => simp [separated?, first]
    | @cons next _ more _ second later =>
      have apart : next ≠ '_' := noUnderscore next (by simp)
      have found := ih (List.cons_ne_nil _ _)
        (fun other mem => noUnderscore other (List.mem_cons_of_mem _ mem))
        (mapM_eq_some.2 (.cons second later))
      rw [separated?, first]
      simp [found]

/-- ASCII digits are read one by one. -/
theorem separated?_digits {digits : List Char} (nonempty : digits ≠ [])
    (isDigit : ∀ c ∈ digits, c.isDigit = true) :
    separated? Text.decimalDigit? digits = some (digits.map fun c => c.toNat - 0x30) := by
  refine separated?_of_mapM nonempty (fun c mem => ?_) (mapM_eq_some.2 ?_)
  · rintro rfl
    exact absurd (isDigit '_' mem) (by decide)
  · rw [List.forall₂_map_right_iff, List.forall₂_same]
    exact fun c mem => decimalDigit?_of_isDigit (isDigit c mem)

/-- The digits of a number spell it. -/
theorem ofDigits_toDigits (number : Nat) :
    ofDigits 10 ((Nat.toDigits 10 number).map fun c => c.toNat - 0x30) = number := by
  have folded : ∀ (digits : List Char) (start : Nat),
      (digits.map fun c => c.toNat - 0x30).foldl (fun total digit => total * 10 + digit) start =
        Nat.ofDigitChars 10 digits start := by
    intro digits start
    rw [List.foldl_map, Nat.ofDigitChars_eq_foldl]
    congr 1
    funext total c
    rw [Nat.mul_comm]
    rfl
  rw [ofDigits, folded]
  exact Nat.ofDigitChars_ten_toDigits

/-- The characters of a written number are digits, after a minus sign if it is negative. -/
theorem write_toList (value : Int) :
    (write value).toList =
      (if value < 0 then ['-'] else []) ++ Nat.toDigits 10 value.natAbs := by
  rw [write, Int.toString_eq_repr, Int.repr_eq_if]
  by_cases negative : value < 0
  · have size : (-value).toNat = value.natAbs := by omega
    simp [negative, Int.not_le.2 negative, size]
  · have size : value.toNat = value.natAbs := by omega
    simp [negative, Int.not_lt.1 negative, size]

theorem mem_write {value : Int} {c : Char} (mem : c ∈ (write value).toList) :
    c = '-' ∨ c.isDigit = true := by
  rw [write_toList, List.mem_append] at mem
  rcases mem with sign | digit
  · split at sign
    · exact .inl (List.mem_singleton.1 sign)
    · cases sign
  · exact .inr (Nat.isDigit_of_mem_toDigits (by decide) (by decide) digit)

theorem not_isBlank_of_isDigit {c : Char} (digit : c.isDigit = true) : Text.isBlank c = false := by
  obtain ⟨low, high⟩ := Char.isDigit_iff_toNat.1 digit
  have low : 0x30 ≤ c.toNat := low
  have high : c.toNat ≤ 0x39 := high
  refine Bool.eq_false_iff.2 fun blank => ?_
  simp only [Text.isBlank, Bool.or_eq_true, Bool.and_eq_true, decide_eq_true_eq, beq_iff_eq]
    at blank
  omega

theorem not_isPadding_of_isDigit {c : Char} (digit : c.isDigit = true) : isPadding c = false := by
  rw [isPadding, not_isBlank_of_isDigit digit, Bool.false_and]

/-- A written number is read back wherever its digits are. -/
theorem lenient?_write {magnitude? : List Char → Option Nat} {value : Int}
    (reads : magnitude? (Nat.toDigits 10 value.natAbs) = some value.natAbs) :
    lenient? magnitude? (write value).toList = some value := by
  have isDigit : ∀ c ∈ Nat.toDigits 10 value.natAbs, c.isDigit = true := fun c mem =>
    Nat.isDigit_of_mem_toDigits (by decide) (by decide) mem
  have noPadding : ∀ c ∈ (write value).toList, isPadding c = false := by
    intro c mem
    rcases mem_write mem with rfl | digit
    · decide
    · exact not_isPadding_of_isDigit digit
  rw [lenient?, Text.trimWhile_of_none noPadding, write_toList]
  by_cases negative : value < 0
  · rw [if_pos negative, List.singleton_append]
    simp only [reads]
    have same : -(value.natAbs : Int) = value := by omega
    exact congrArg some same
  · -- The first character is a digit, so it is taken for no sign.
    rw [if_neg negative, List.nil_append]
    split
    · rename_i digits same
      exact absurd (isDigit '-' (by simp [same])) (by decide)
    · rename_i digits same
      exact absurd (isDigit '+' (by simp [same])) (by decide)
    · rw [reads]
      simp only [Option.map_some, Option.some.injEq, Int.ofNat_eq_natCast]
      omega

/-- A number that is written in no more digits than may be read is read back. -/
theorem decimal?_write {value : Int} (short : (Nat.toDigits 10 value.natAbs).length ≤ maxDigits) :
    decimal? (write value).toList = some value := by
  -- The limit on digits is all that a decimal numeral checks beyond its digits.
  have allowed (values : List Nat) (few : values.length ≤ maxDigits) :
      (guard (values.length ≤ maxDigits) : Option Unit) = some () := if_pos few
  have isDigit : ∀ c ∈ Nat.toDigits 10 value.natAbs, c.isDigit = true := fun c mem =>
    Nat.isDigit_of_mem_toDigits (by decide) (by decide) mem
  refine lenient?_write ?_
  rw [separated?_digits Nat.toDigits_ne_nil isDigit, Option.bind_eq_bind, Option.bind_some,
    allowed _ (by simpa using short), Option.bind_eq_bind, Option.bind_some, Option.pure_def,
    ofDigits_toDigits]

end Numeral

end WideColumn
