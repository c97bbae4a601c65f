import WideColumn.Proofs.Script.Tokens

/-!
# What stands between double quotes

Between double quotes there are characters that stand for themselves and pairs of a backslash and a
character (`StringPart`). Any such text is one string, and each part has a meaning of its own, so the
string means the parts' meanings in a row. The value of the string is that, unless what stands between
the double quotes is in single quotes once more: this second pair is taken off too, and the value is
too short (`Token.tokenize_doubleQuoted`).
-/

namespace WideColumn

namespace Text

/-! ### Parts of a string -/

/-- The characters that mean something else behind a backslash, with what they mean. -/
def sequences : List (Char × Char) :=
  [('b', '\x08'), ('t', '\t'), ('n', '\n'), ('f', '\x0c'), ('r', '\r'), ('"', '"'), ('\'', '\''),
    ('\\', '\\')]

theorem lookup_sequences (c : Char) : sequences.lookup c = escapedChar? c := by
  unfold escapedChar?
  split
  case h_9 b t n f r double single escape =>
    simp only [sequences, List.lookup_eq_none_iff, List.forall_mem_cons, bne_iff_ne, ne_eq]
    exact ⟨b, t, n, f, r, double, single, escape, nofun⟩
  all_goals rfl

/-- A part of what can stand between double quotes. -/
inductive StringPart where
  /-- A character that is neither a backslash nor a double quote. -/
  | plain (c : Char) (notEscape : c ≠ '\\') (notQuote : c ≠ '"')
  /-- A backslash and a character on the same line. -/
  | pair (c : Char) (sameLine : c ≠ '\n')

/-- How a part is written. -/
def StringPart.spelling : StringPart → List Char
  | plain c _ _ => [c]
  | pair c _ => ['\\', c]

/-- What a part means: a pair that is none of the sequences means itself. -/
def StringPart.meaning : StringPart → List Char
  | plain c _ _ => [c]
  | pair c _ => ((sequences.lookup c).map fun raw => [raw]).getD ['\\', c]

/-- How a string is written. -/
def spelling (parts : List StringPart) : List Char :=
  parts.flatMap StringPart.spelling

/-- What a string means. -/
def meaning (parts : List StringPart) : List Char :=
  parts.flatMap StringPart.meaning

/-! ### Decoding -/

/-- Decoding reads part by part. -/
theorem decode_spelling (parts : List StringPart) : decode (spelling parts) = meaning parts := by
  induction parts with
  | nil => rfl
  | cons part parts ih =>
    have written : spelling (part :: parts) = part.spelling ++ spelling parts := rfl
    have meant : meaning (part :: parts) = part.meaning ++ meaning parts := rfl
    rw [written, meant, ← ih]
    cases part with
    | plain c notEscape notQuote => exact decode_cons notEscape _
    | pair c sameLine =>
      rw [StringPart.spelling, StringPart.meaning, List.cons_append, List.singleton_append, decode,
        lookup_sequences]
      cases escapedChar? c <;> rfl

/-- A character more is not decoded to less. -/
theorem length_decode_le (text : List Char) (c : Char) :
    (decode text).length ≤ (decode (text ++ [c])).length := by
  induction text using decode.induct with
  | case1 letter rest raw sequence ih =>
    rw [List.cons_append, List.cons_append, decode, decode, sequence]
    exact Nat.succ_le_succ ih
  | case2 letter rest kept ih =>
    rw [List.cons_append, List.cons_append, decode, decode, kept]
    exact Nat.succ_le_succ (Nat.succ_le_succ ih)
  | case3 first rest noPair ih =>
    by_cases escape : first = '\\'
    · -- A backslash that makes no pair is the last character.
      cases rest with
      | nil =>
        subst escape
        rw [List.singleton_append, decode]
        cases escapedChar? c <;> simp [decode]
      | cons letter rest => exact absurd rfl (noPair letter rest escape)
    · rw [List.cons_append, decode_cons escape, decode_cons escape]
      exact Nat.succ_le_succ ih
  | case4 => exact Nat.zero_le _

/-! ### Single quotes inside -/

/-- Whether a text is in single quotes. -/
def IsQuoted (text : List Char) : Prop :=
  ∃ inner, text = '\'' :: (inner ++ ['\''])

theorem stripQuotes_quoted (inner : List Char) : stripQuotes ('\'' :: (inner ++ ['\''])) = inner := by
  simp [stripQuotes]

theorem stripQuotes_of_not {text : List Char} (bare : ¬IsQuoted text) : stripQuotes text = text := by
  unfold stripQuotes
  split
  · rename_i rest
    split
    · rename_i closed
      obtain ⟨inner, rfl⟩ := List.getLast?_eq_some_iff.1 closed
      exact absurd ⟨inner, rfl⟩ bare
    · rfl
  · rfl

/-- The single quotes around a text are part of what it means, so taking them off changes that. -/
theorem unescape_eq_decode_iff (text : List Char) :
    unescape text = decode text ↔ ¬IsQuoted text := by
  constructor
  · rintro same ⟨inner, rfl⟩
    have shorter := congrArg List.length same
    rw [unescape, stripQuotes_quoted, decode_cons (by decide), List.length_cons] at shorter
    have grows := length_decode_le inner '\''
    omega
  · intro bare
    rw [unescape, stripQuotes_of_not bare]

end Text

namespace Token

open Text

/-! ### Strings as tokens -/

theorem closes_spelling (parts : List StringPart) : Closes '"' (spelling parts ++ ['"']) := by
  induction parts with
  | nil => exact .quote
  | cons part parts ih =>
    cases part with
    | plain c notEscape notQuote => exact .char notQuote notEscape ih
    | pair c sameLine => exact .escape sameLine ih

/-- Parts between double quotes are one string. Its value is what the parts mean just if they are not
in single quotes as a whole; if they are, it is what stands between these. -/
theorem tokenize_doubleQuoted (parts : List StringPart) :
    ∃ token, tokenize (String.ofList ('"' :: (spelling parts ++ ['"']))) = .ok [token] ∧
      token.kind = .quoted ∧
      (token.value = String.ofList (meaning parts) ↔ ¬IsQuoted (spelling parts)) ∧
      ∀ inner, spelling parts = '\'' :: (inner ++ ['\'']) →
        token.value = String.ofList (decode inner) := by
  have lexes : Lexes ('"' :: (spelling parts ++ ['"']))
      [(.quoted, '"' :: (spelling parts ++ ['"']))] := by
    have made := Lexes.token (.quoted (.inr rfl) (closes_spelling parts)) .done
    rwa [List.append_nil] at made
  obtain ⟨tokens, read, same⟩ := lexes.tokenize
  obtain ⟨token, rfl, only⟩ := List.map_eq_singleton_iff.1 same
  obtain ⟨kind, lexeme⟩ := Prod.mk.inj only
  have value : token.value = String.ofList (unescape (spelling parts)) := by
    simp only [Token.value, kind, lexeme, List.dropLast_concat]
  refine ⟨token, read, kind, ?_, fun inner quoted => ?_⟩
  · rw [value, String.ofList_inj, ← decode_spelling]
    exact unescape_eq_decode_iff _
  · rw [value, quoted, unescape, stripQuotes_quoted]

/-- The string `"'a'"` has the value `a`, without the single quotes that stand in it. -/
theorem tokenize_doubleQuoted_quoted :
    ¬∀ parts : List StringPart,
      ∃ token, tokenize (String.ofList ('"' :: (spelling parts ++ ['"']))) = .ok [token] ∧
        token.kind = .quoted ∧ token.value = String.ofList (meaning parts) := by
  intro exact
  obtain ⟨token, read, -, value⟩ := exact
    [.plain '\'' (by decide) (by decide), .plain 'a' (by decide) (by decide),
      .plain '\'' (by decide) (by decide)]
  have known : tokenize "\"'a'\"" = .ok [⟨.quoted, "\"'a'\"".toList, 0⟩] := by decide +kernel
  have same := Except.ok.inj (read.symm.trans known)
  rw [(List.cons.inj same).1] at value
  revert value
  decide

end Token

end WideColumn
