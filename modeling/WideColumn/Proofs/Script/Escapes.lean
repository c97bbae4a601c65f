import WideColumn.Proofs.Script.Strings

/-!
# Escaped texts

An escaped text is made of characters that are neither quotes nor backslashes and of pairs of a
backslash and a letter (`Text.Paired`), all on one line. So it is one string in quotes of either kind,
and since no quote comes first in it, it is not taken for a text that is in quotes already. Reading it
gives the text back, with quotes around it and without (`Text.escape_exact`).
-/

namespace WideColumn.Text

variable {c letter : Char}

/-! ### Characters -/

/-- A text in which each quote stands behind a backslash, and each backslash in front of a character
that it belongs to. -/
inductive Paired : List Char → Prop
  | nil : Paired []
  | plain {c : Char} {rest : List Char} (single : c ≠ '\'') (double : c ≠ '"') (notEscape : c ≠ '\\')
      (paired : Paired rest) : Paired (c :: rest)
  | pair {letter : Char} {rest : List Char} (paired : Paired rest) : Paired ('\\' :: letter :: rest)

/-- A character that has no escape letter breaks no line and is no double quote either. -/
theorem inLine_of_escapeLetter?_none (none : escapeLetter? c = none) :
    c ≠ '\n' ∧ c ≠ '\r' ∧ c ≠ '"' := by
  refine ⟨?_, ?_, ?_⟩ <;>
  · rintro rfl
    cases none

theorem escapeLetter?_ne_return (some : escapeLetter? c = some letter) : letter ≠ '\r' := by
  rintro rfl
  unfold escapeLetter? at some
  split at some <;> simp at some

/-- Nothing that is written for a character breaks the line. -/
theorem inLine_escapeChar (c : Char) : '\n' ∉ escapeChar c ∧ '\r' ∉ escapeChar c := by
  unfold escapeChar
  cases written : escapeLetter? c with
  | none =>
    obtain ⟨noFeed, noReturn, -⟩ := inLine_of_escapeLetter?_none written
    exact ⟨by simpa using noFeed.symm, by simpa using noReturn.symm⟩
  | some letter =>
    have noFeed := escapeLetter?_ne_newline written
    have noReturn := escapeLetter?_ne_return written
    exact ⟨by simpa using noFeed.symm, by simpa using noReturn.symm⟩

/-! ### Texts -/

theorem inLine_escape (text : List Char) : '\n' ∉ escape text ∧ '\r' ∉ escape text := by
  constructor <;>
  · intro mem
    obtain ⟨c, -, written⟩ := List.mem_flatMap.1 mem
    simp [inLine_escapeChar c] at written

theorem paired_escape (text : List Char) : Paired (escape text) := by
  induction text with
  | nil => exact .nil
  | cons c text ih =>
    rw [escape_cons, escapeChar]
    cases written : escapeLetter? c with
    | none =>
      obtain ⟨single, notEscape⟩ := plain_of_escapeLetter?_none written
      obtain ⟨-, -, double⟩ := inLine_of_escapeLetter?_none written
      exact .plain single double notEscape ih
    | some letter => exact .pair ih

/-- A text whose quotes are all behind backslashes is not in quotes itself. -/
theorem Paired.not_isQuoted {text : List Char} (paired : Paired text) : ¬IsQuoted text := by
  rintro ⟨inner, rfl⟩
  cases paired with
  | plain single => exact single rfl

theorem unescape_bare (text : List Char) : unescape (escape text) = text := by
  rw [(unescape_eq_decode_iff _).2 (paired_escape text).not_isQuoted, decode_escape]

/-! ### Between quotes -/

/-- Such a text on one line goes up to the quote behind it. -/
theorem Paired.closes {quote : Char} {text : List Char} (isQuote : quote = '\'' ∨ quote = '"')
    (paired : Paired text) (inLine : '\n' ∉ text) : Token.Closes quote (text ++ [quote]) := by
  induction paired with
  | nil => exact .quote
  | @plain c rest single double notEscape _ ih =>
    have notQuote : c ≠ quote := by
      rcases isQuote with rfl | rfl
      · exact single
      · exact double
    exact .char notQuote notEscape (ih fun later => inLine (List.mem_cons_of_mem c later))
  | @pair letter rest _ ih =>
    simp only [List.mem_cons, not_or] at inLine
    exact .escape (Ne.symm inLine.2.1) (ih inLine.2.2)

/-- Whether what is written between two quotes is one string, and a text is its value. -/
def Encloses (quote : Char) (written text : List Char) : Prop :=
  ∃ token, Token.tokenize (String.ofList (quote :: (written ++ [quote]))) = .ok [token] ∧
    token.kind = .quoted ∧ token.value = String.ofList text

theorem encloses_escape {quote : Char} (isQuote : quote = '\'' ∨ quote = '"') (text : List Char) :
    Encloses quote (escape text) text := by
  have closes := (paired_escape text).closes isQuote (inLine_escape text).1
  have lexes := Token.Lexes.token (.quoted isQuote closes) .done
  rw [List.append_nil] at lexes
  obtain ⟨tokens, read, same⟩ := lexes.tokenize
  obtain ⟨token, rfl, only⟩ := List.map_eq_singleton_iff.1 same
  obtain ⟨kind, lexeme⟩ := Prod.mk.inj only
  refine ⟨token, read, kind, ?_⟩
  -- Single quotes are taken off as part of reading the text, double quotes before.
  rcases isQuote with rfl | rfl
  · rw [Token.value, kind, lexeme]
    exact congrArg String.ofList (unescape_quoted text)
  · simp only [Token.value, kind, lexeme, List.dropLast_concat, unescape_bare]

/-- Escaping loses nothing, and what it writes can stand between quotes of either kind: it has no line
break, no quote without a backslash and no backslash without a letter. -/
theorem escape_exact :
    (∀ text, unescape (escape text) = text ∧ unescape ('\'' :: (escape text ++ ['\''])) = text ∧
      '\n' ∉ escape text ∧ '\r' ∉ escape text ∧ Paired (escape text) ∧
      Encloses '\'' (escape text) text ∧ Encloses '"' (escape text) text) ∧
    Function.Injective escape := by
  refine ⟨fun text => ⟨unescape_bare text, unescape_quoted text, ?_⟩, ?_⟩
  · obtain ⟨noFeed, noReturn⟩ := inLine_escape text
    exact ⟨noFeed, noReturn, paired_escape text, encloses_escape (.inl rfl) text,
      encloses_escape (.inr rfl) text⟩
  · exact Function.LeftInverse.injective unescape_bare

/-- The text `'\'` begins and ends with quotes and has a backslash before the last of them. -/
example : escape "'\\'".toList = "\\'\\\\\\'".toList ∧ unescape "\\'\\\\\\'".toList = "'\\'".toList := by
  decide

end WideColumn.Text
