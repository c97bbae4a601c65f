import Mathlib.Data.List.Forall2
import WideColumn.Proofs.Lexing
import WideColumn.Proofs.Printing
import WideColumn.Proofs.Writing

/-!
# Printed pieces are cut into their tokens

A text that lays out pieces is cut into one token for each of them, which says what the piece says
(`Reads`). No text of a piece can end it early or run over into the next piece: an escaped text has
no bare quote, and a word goes up to the first character that is none of words.
-/

namespace WideColumn.Printing

open Token

/-! ### What a token says -/

/-- A token that reads a piece. -/
def Piece.ReadBy : Piece → Token → Prop
  | keyword name, token => token.kind = .keyword name
  | fixed text, token => token.isWord = true ∧ Text.lowered token.value = text
  | word text, token => token.isWord = true ∧ token.value = text
  | quoted text, token => token.kind = .quoted ∧ token.value = text
  | mark sign, token => token.kind = .mark sign

/-- Tokens that read pieces, one token for each. -/
abbrev Reads (pieces : List Piece) (tokens : List Token) : Prop :=
  List.Forall₂ Piece.ReadBy pieces tokens

/-- Whether the text of a piece that is a word makes one. A fixed word is in small letters. -/
def Piece.WellFormed : Piece → Prop
  | fixed text => IsWord text ∧ IsSmall text
  | word text => IsWord text
  | _ => True

/-! ### Letter case -/

theorem toLower_of_not_isUpper {c : Char} (small : ¬c.isUpper = true) : c.toLower = c := by
  rw [isUpper_iff_toNat] at small
  exact dif_neg small

/-- The small form of a capital is a small letter. -/
theorem isLower_toLower {c : Char} (upper : c.isUpper = true) : c.toLower.isLower = true := by
  obtain ⟨low, high⟩ := isUpper_iff_toNat.1 upper
  have moved : c.toLower.toNat = (c.val + 0x20).toNat :=
    congrArg Char.toNat (dif_pos (isUpper_iff_toNat.1 upper))
  have plus : (c.val + 0x20).toNat = (c.toNat + 0x20) % 2 ^ 32 := UInt32.toNat_add _ _
  rw [isLower_iff_toNat]
  omega

theorem isWordChar_toLower (c : Char) : isWordChar c.toLower = isWordChar c := by
  by_cases upper : c.isUpper = true
  · have before : isWordChar c = true := isWordChar_iff.2 (.inl (.inl (.inl upper)))
    have after : isWordChar c.toLower = true :=
      isWordChar_iff.2 (.inl (.inl (.inr (isLower_toLower upper))))
    rw [before, after]
  · rw [toLower_of_not_isUpper upper]

/-- Letter case does not matter for whether characters make a word. -/
theorem word_of_spelled {lexeme : List Char} {text : String} (word : IsWord text)
    (spelled : lexeme.map Char.toLower = text.toList) :
    lexeme ≠ [] ∧ lexeme.all isWordChar = true := by
  constructor
  · rintro rfl
    exact word.1 (String.toList_inj.1 spelled.symm)
  · have small := word.2
    rw [← spelled, List.all_map] at small
    rw [← small]
    congr 1
    funext c
    exact (isWordChar_toLower c).symm

theorem toNat_lt_of_isWordChar {c : Char} (h : isWordChar c = true) : c.toNat < 0x80 := by
  have range := toNat_of_isWordChar h
  omega

/-- The small form of an ASCII text goes letter by letter. -/
theorem lower_of_ascii {text : List Char} (ascii : ∀ c ∈ text, c.toNat < 0x80) :
    Text.lower text = text.map Char.toLower := by
  have after : ∀ before, Text.lowerAfter before text = text.map Char.toLower := by
    induction text with
    | nil => intro before; rfl
    | cons c rest ih =>
      intro before
      have small := ascii c List.mem_cons_self
      have noSigma : c ≠ 'Σ' := by
        rintro rfl
        exact absurd small (by decide)
      have noDotted : c ≠ 'İ' := by
        rintro rfl
        exact absurd small (by decide)
      rw [Text.lowerAfter, ih fun c mem => ascii c (List.mem_cons_of_mem _ mem), Text.lowerIn,
        if_neg noSigma, if_neg noDotted, if_pos small]
      rfl
  exact after []

theorem isWord_spelling (name : Keyword) : IsWord name.spelling := by
  cases name <;> decide

theorem ofWord?_of_spelled {name : Keyword} {lexeme : List Char}
    (spelled : lexeme.map Char.toLower = name.spelling.toList) :
    Keyword.ofWord? lexeme = some name := by
  rw [Keyword.ofWord?, spelled]
  cases name <;> decide

/-! ### Single tokens -/

/-- A word is cut where the characters of words end. -/
theorem startOf?_word {lexeme rest : List Char} (nonempty : lexeme ≠ [])
    (word : lexeme.all isWordChar = true) (ends : rest.head?.all (!isWordChar ·) = true) :
    startOf? (lexeme ++ rest) = some (wordKind lexeme, lexeme, rest) := by
  have isWord : ∀ c ∈ lexeme, isWordChar c = true := List.all_eq_true.1 word
  have takes : (lexeme ++ rest).takeWhile isWordChar = lexeme := by
    rw [List.takeWhile_append_of_pos isWord]
    cases rest with
    | nil => simp
    | cons c rest => simp_all
  have drops : (lexeme ++ rest).dropWhile isWordChar = rest := by
    rw [List.dropWhile_append_of_pos isWord]
    cases rest with
    | nil => rfl
    | cons c rest => simp_all
  cases lexeme with
  | nil => exact absurd rfl nonempty
  | cons c others =>
    have first := isWord c List.mem_cons_self
    have noQuote : ¬(c = '\'' ∨ c = '"') := by
      rintro (rfl | rfl) <;> exact absurd first (by decide)
    rw [List.cons_append] at takes drops ⊢
    simp only [startOf?, if_neg noQuote, first, if_true, takes, drops]

/-- A token that is cut as a word is one, and says its characters. -/
theorem value_wordKind (lexeme : List Char) (position : Nat) :
    (⟨wordKind lexeme, lexeme, position⟩ : Token).isWord = true ∧
      (⟨wordKind lexeme, lexeme, position⟩ : Token).value = String.ofList lexeme := by
  rw [wordKind]
  cases Keyword.ofWord? lexeme <;> exact ⟨rfl, rfl⟩

/-- An angle in front of anything but an equals sign is a mark of its own. -/
theorem markAt?_angle {rest : List Char} (ends : rest.head? ≠ some '=') :
    markAt? ('>' :: rest) = some (.greater, 1) ∧ markAt? ('<' :: rest) = some (.less, 1) := by
  cases rest with
  | nil => exact ⟨rfl, rfl⟩
  | cons c others =>
    have other : c ≠ '=' := fun same => ends (congrArg some same)
    constructor <;> (rw [markAt?]; simp [other])

theorem startOf?_mark {sign : Mark} {rest : List Char} (ends : (Piece.mark sign).EndsBefore rest) :
    startOf? (sign.spelling ++ rest) = some (.mark sign, sign.spelling, rest) := by
  cases sign
  case greater => simp [Mark.spelling, startOf?, isWordChar, (markAt?_angle ends).1]
  case less => simp [Mark.spelling, startOf?, isWordChar, (markAt?_angle ends).2]
  all_goals simp [Mark.spelling, startOf?, isWordChar, markAt?]

theorem startOf?_quoted (text : String) (rest : List Char) :
    startOf? ((Piece.quoted text).spelling ++ rest) =
      some (.quoted, (Piece.quoted text).spelling, rest) := by
  simp [Piece.spelling, startOf?, closeString_escape]

/-- In front of a text in which a piece ends, the piece is cut off as a token that reads it. -/
theorem startOf?_piece {piece : Piece} {lexeme rest : List Char} (formed : piece.WellFormed)
    (spelled : piece.Spelled lexeme) (ends : piece.EndsBefore rest) :
    lexeme ≠ [] ∧ ∃ kind, startOf? (lexeme ++ rest) = some (kind, lexeme, rest) ∧
      ∀ position, piece.ReadBy ⟨kind, lexeme, position⟩ := by
  cases piece with
  | keyword name =>
    obtain ⟨nonempty, isWord⟩ := word_of_spelled (isWord_spelling name) spelled
    refine ⟨nonempty, _, startOf?_word nonempty isWord ends, fun position => ?_⟩
    rw [Piece.ReadBy, wordKind, ofWord?_of_spelled spelled]
  | fixed text =>
    obtain ⟨nonempty, isWord⟩ := word_of_spelled formed.1 spelled
    refine ⟨nonempty, _, startOf?_word nonempty isWord ends, fun position => ⟨?_, ?_⟩⟩
    · exact (value_wordKind lexeme position).1
    · have ascii := fun c mem => toNat_lt_of_isWordChar (List.all_eq_true.1 isWord c mem)
      rw [(value_wordKind lexeme position).2, Text.lowered, String.toList_ofList,
        lower_of_ascii ascii, spelled, String.ofList_toList]
  | word text =>
    obtain rfl := spelled
    have nonempty : text.toList ≠ [] := fun empty => formed.1 (String.toList_inj.1 empty)
    refine ⟨nonempty, _, startOf?_word nonempty formed.2 ends, fun position => ⟨?_, ?_⟩⟩
    · exact (value_wordKind _ position).1
    · exact (value_wordKind _ position).2.trans String.ofList_toList
  | quoted text =>
    obtain rfl := spelled
    refine ⟨List.cons_ne_nil _ _, _, startOf?_quoted text rest, fun position => ⟨rfl, ?_⟩⟩
    simp [Token.value, Piece.spelling, Text.unescape_quoted]
  | mark sign =>
    obtain rfl := spelled
    exact ⟨by cases sign <;> decide, _, startOf?_mark ends, fun position => rfl⟩

/-! ### Whole texts -/

/-- Gaps are passed over. -/
theorem readFrom_gap {gap : List Char} (blank : gap.all isGap = true) (text : List Char)
    (fuel position : Nat) (enough : (gap ++ text).length ≤ fuel) :
    ∃ left, text.length ≤ left ∧
      readFrom fuel position (gap ++ text) = readFrom left (position + gap.length) text := by
  induction gap generalizing fuel position with
  | nil => exact ⟨fuel, enough, rfl⟩
  | cons c gap ih =>
    cases fuel with
    | zero => simp at enough
    | succ fuel =>
      rw [List.all_cons, Bool.and_eq_true] at blank
      obtain ⟨left, most, same⟩ :=
        ih blank.2 fuel (position + 1) (Nat.le_of_succ_le_succ enough)
      refine ⟨left, most, ?_⟩
      rw [List.cons_append, readFrom, if_pos blank.1, same, List.length_cons,
        Nat.add_right_comm, Nat.add_assoc]

/-- A text that lays out pieces is cut into tokens that read them. -/
theorem reads_of_writes {pieces : List Piece} {text : List Char} (writes : Writes pieces text)
    (formed : ∀ piece ∈ pieces, piece.WellFormed) (fuel position : Nat)
    (enough : text.length ≤ fuel) : Reads pieces (readFrom fuel position text) := by
  induction writes generalizing fuel position with
  | @done gap blank =>
    rw [← List.append_nil gap] at enough ⊢
    obtain ⟨left, -, same⟩ := readFrom_gap blank [] fuel position enough
    rw [same]
    cases left <;> exact .nil
  | @piece gap lexeme rest piece pieces blank spelled ends others ih =>
    obtain ⟨left, most, same⟩ := readFrom_gap blank (lexeme ++ rest) fuel position enough
    obtain ⟨nonempty, kind, start, reads⟩ :=
      startOf?_piece (formed piece List.mem_cons_self) spelled ends
    rw [same]
    cases lexeme with
    | nil => exact absurd rfl nonempty
    | cons c lexeme =>
      cases left with
      | zero => simp at most
      | succ left =>
        -- A gap would not have started a token.
        have noGap : isGap c = false := by
          refine Bool.eq_false_iff.2 fun isGap => ?_
          rw [List.cons_append, startOf?_of_isBlank (isBlank_of_isGap isGap)] at start
          cases start
        rw [List.cons_append] at start most ⊢
        rw [readFrom, noGap, start]
        refine .cons (reads _) (ih (fun other mem => ?_) left _ ?_)
        · exact formed other (List.mem_cons_of_mem _ mem)
        · rw [List.length_cons, List.length_append] at most
          omega

/-- The tokens of a text that lays out pieces read them. -/
theorem reads_read {pieces : List Piece} {text : List Char} (writes : Writes pieces text)
    (formed : ∀ piece ∈ pieces, piece.WellFormed) : Reads pieces (read text) :=
  reads_of_writes writes formed _ _ (Nat.le_refl _)

end WideColumn.Printing
