import Mathlib.Data.List.TakeWhile
import WideColumn.Command.Parser

/-!
# What a text is cut into

Facts about single steps of cutting a text into tokens, and the texts that are left out before any
cutting: a text of blanks and semicolons has no tokens but semicolons and what cannot be read.
-/

namespace WideColumn

/-! ### Empty texts -/

namespace Text

theorem mem_dropWhile_or {text : List Char} {c : Char} (drops : Char → Bool) (h : c ∈ text) :
    c ∈ text.dropWhile drops ∨ drops c = true := by
  rw [← List.takeWhile_append_dropWhile (p := drops) (l := text), List.mem_append] at h
  rcases h with dropped | kept
  · exact .inr (List.mem_takeWhile_imp dropped)
  · exact .inl kept

theorem mem_trimEndWhile_or {text : List Char} {c : Char} (drops : Char → Bool) (h : c ∈ text) :
    c ∈ trimEndWhile drops text ∨ drops c = true := by
  rw [trimEndWhile, List.mem_reverse]
  exact mem_dropWhile_or drops (List.mem_reverse.2 h)

theorem mem_trim_or {text : List Char} {c : Char} (h : c ∈ text) :
    c ∈ trim text ∨ isBlank c = true := by
  rcases mem_dropWhile_or isBlank h with kept | blank
  · exact mem_trimEndWhile_or isBlank kept
  · exact .inr blank

end Text

/-- A text that counts as empty has no characters but blanks and semicolons. -/
theorem Command.blank_of_isEmptyText {text : List Char} (h : isEmptyText text = true) (c : Char)
    (mem : c ∈ text) : Text.isBlank c = true ∨ c = ';' := by
  rcases Text.mem_trim_or mem with inner | blank
  · rcases Text.mem_trimEndWhile_or (· == ';') inner with left | semicolon
    · rcases Text.mem_trim_or left with last | blank
      · rw [isEmptyText, List.isEmpty_iff] at h
        rw [h] at last
        cases last
      · exact .inl blank
    · exact .inr (by simpa using semicolon)
  · exact .inl blank

namespace Token

/-! ### What no token starts with -/

theorem isUpper_iff_toNat {c : Char} : c.isUpper = true ↔ 0x41 ≤ c.toNat ∧ c.toNat ≤ 0x5a := by
  have capital : c.isUpper = decide (c.val ≥ 'A'.val ∧ c.val ≤ 'Z'.val) := rfl
  rw [capital, decide_eq_true_eq]
  exact Iff.rfl

theorem isLower_iff_toNat {c : Char} : c.isLower = true ↔ 0x61 ≤ c.toNat ∧ c.toNat ≤ 0x7a := by
  have small : c.isLower = (decide (c.val ≥ 'a'.val) && decide (c.val ≤ 'z'.val)) := rfl
  rw [small, Bool.and_eq_true, decide_eq_true_eq, decide_eq_true_eq]
  exact Iff.rfl

/-- What the characters of words are. -/
theorem isWordChar_iff {c : Char} : isWordChar c = true ↔
    ((c.isUpper = true ∨ c.isLower = true) ∨ c.isDigit = true) ∨ c = '_' ∨ c = '-' := by
  have kinds : isWordChar c = (((c.isUpper || c.isLower) || c.isDigit) || c == '_' || c == '-') :=
    rfl
  rw [kinds]
  simp only [Bool.or_eq_true, beq_iff_eq, or_assoc]

/-- The numbers of the characters of words. -/
theorem toNat_of_isWordChar {c : Char} (h : isWordChar c = true) :
    (0x30 ≤ c.toNat ∧ c.toNat ≤ 0x39) ∨ (0x41 ≤ c.toNat ∧ c.toNat ≤ 0x5a) ∨
      (0x61 ≤ c.toNat ∧ c.toNat ≤ 0x7a) ∨ c.toNat = 0x5f ∨ c.toNat = 0x2d := by
  rcases isWordChar_iff.1 h with ((upper | lower) | digit) | rfl | rfl
  · exact .inr (.inl (isUpper_iff_toNat.1 upper))
  · exact .inr (.inr (.inl (isLower_iff_toNat.1 lower)))
  · exact .inl (Char.isDigit_iff_toNat.1 digit)
  · decide
  · decide

theorem not_isWordChar_of_isBlank {c : Char} (blank : Text.isBlank c = true) :
    isWordChar c = false := by
  refine Bool.eq_false_iff.2 fun word => ?_
  have range := toNat_of_isWordChar word
  simp only [Text.isBlank, Bool.or_eq_true, Bool.and_eq_true, decide_eq_true_eq, beq_iff_eq]
    at blank
  omega

/-- No token starts with a blank. -/
theorem startOf?_of_isBlank {c : Char} (blank : Text.isBlank c = true) (rest : List Char) :
    startOf? (c :: rest) = none := by
  have noQuote : ¬(c = '\'' ∨ c = '"') := by
    rintro (rfl | rfl) <;> exact absurd blank (by decide)
  have noMark : markAt? (c :: rest) = none := by
    unfold markAt?
    split
    all_goals first
      | rfl
      | (rename_i same; cases same; exact absurd blank (by decide))
  rw [startOf?, if_neg noQuote, if_neg (by simp [not_isWordChar_of_isBlank blank]), noMark]
  rfl

/-- What stands between tokens is blank. -/
theorem isBlank_of_isGap {c : Char} (h : isGap c = true) : Text.isBlank c = true := by
  simp only [isGap, Bool.or_eq_true, beq_iff_eq] at h
  rcases h with ((rfl | rfl) | rfl) | rfl <;> decide

/-- A text of blanks and semicolons is cut into semicolons, up to what cannot be read. -/
theorem kinds_of_readFrom {text : List Char}
    (blank : ∀ c ∈ text, Text.isBlank c = true ∨ c = ';') (fuel position : Nat) :
    ∀ token ∈ readFrom fuel position text,
      token.kind = .unreadable ∨ token.kind = .mark .semicolon := by
  induction fuel generalizing position text with
  | zero => simp [readFrom]
  | succ fuel ih =>
    cases text with
    | nil => simp [readFrom]
    | cons c rest =>
      have later := fun position => ih (fun c mem => blank c (List.mem_cons_of_mem _ mem)) position
      rw [readFrom]
      split
      · exact later (position + 1)
      · rcases blank c List.mem_cons_self with space | rfl
        · simp [startOf?_of_isBlank space]
        · have start : startOf? (';' :: rest) = some (.mark .semicolon, [';'], rest) := by
            simp [startOf?, isWordChar, markAt?]
          rw [start]
          simpa using later (position + 1)

end Token

end WideColumn
