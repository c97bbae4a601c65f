import WideColumn.Proofs.Lexing.Covering
import WideColumn.Proofs.Script.Prompt

/-!
# Strings that are not closed

The splitter and the lexer each follow the quotes of a text. They part at one place only: inside quotes
a backslash in front of a line break escapes it for the splitter, while no string has one for the lexer
(`Broken`). So a string that the lexer finds open is broken, or it is open for the splitter as well, and
then the buffer that it stands in is not complete. What carries the argument is that tokens and gaps
lead the splitter from outside quotes to outside quotes.
-/

namespace WideColumn

open Text

namespace Token

variable {quote : Char} {before text rest : List Char} {tokens : List Token}

/-! ### Open strings -/

/-- The rest of a string behind its first quote, if a backslash that escapes something stands in front
of a line break before the string is closed. -/
inductive Broken (quote : Char) : List Char → Prop
  | here {rest : List Char} : Broken quote ('\\' :: '\n' :: rest)
  | escape {c : Char} {rest : List Char} (sameLine : c ≠ '\n') (broken : Broken quote rest) :
    Broken quote ('\\' :: c :: rest)
  | char {c : Char} {rest : List Char} (notQuote : c ≠ quote) (notEscape : c ≠ '\\')
      (broken : Broken quote rest) : Broken quote (c :: rest)

/-- What is broken is not closed. -/
theorem Broken.closeString (broken : Broken quote rest) : closeString quote rest = none := by
  induction broken with
  | here => rfl
  | escape sameLine broken ih =>
    rw [Token.closeString, if_neg sameLine, ih]
    rfl
  | char notQuote notEscape broken ih =>
    rw [Token.closeString, if_neg notQuote, if_neg notEscape, ih]
    · rfl
    · exact fun _ _ same => absurd same notEscape

/-- What is not closed is broken, or the splitter is still in quotes at its end. -/
theorem broken_of_closeString (opened : closeString quote rest = none)
    (outside : rest.foldl Script.Mode.next (.quoted quote) = .outside) : Broken quote rest := by
  induction rest using closeString.induct (quote) with
  | case1 => cases outside
  | case2 rest => exact .here
  | case3 c rest sameLine ih =>
    rw [closeString, if_neg sameLine, Option.map_eq_none_iff] at opened
    exact .escape sameLine (ih opened outside)
  | case4 rest unescaped =>
    rw [closeString, if_pos rfl] at opened
    · cases opened
    · exact unescaped
  | case5 rest unescaped notQuote =>
    cases rest with
    | nil => cases outside
    | cons c rest => exact absurd rfl (unescaped c rest rfl)
  | case6 c rest unescaped notQuote notEscape ih =>
    rw [closeString, if_neg notQuote, if_neg notEscape, Option.map_eq_none_iff] at opened
    · have stay : (Script.Mode.quoted quote).next c = .quoted quote := by
        simp [Script.Mode.next, notQuote, notEscape]
      rw [List.foldl_cons, stay] at outside
      exact .char notQuote notEscape (ih opened outside)
    · exact unescaped

/-- A string opens at a position, behind tokens and gaps. -/
def OpensAt (text : List Char) (position : Nat) (quote : Char) (body : List Char) : Prop :=
  ∃ tokens covered, text = covered ++ quote :: body ∧ covered.length = position ∧
    (quote = '\'' ∨ quote = '"') ∧ Covers (quote :: body) [] tokens text

/-- A string opens at a position and is broken. -/
def BrokenAt (text : List Char) (position : Nat) : Prop :=
  ∃ quote body, OpensAt text position quote body ∧ Broken quote body

/-- A text cannot be read because of a string that opens at a position and is not closed. -/
def UnterminatedAt (content : String) (position : Nat) : Prop :=
  ∃ excerpt, tokenize content = .error (.parse (.unterminatedString position excerpt))

variable {content : String} {position : Nat}

theorem unterminatedAt_iff : UnterminatedAt content position ↔
    ∃ quote body, OpensAt content.toList position quote body ∧ closeString quote body = none := by
  constructor
  · rintro ⟨shown, failed⟩
    obtain ⟨tokens, rest, covers, rfl | stuck⟩ :=
      exists_covers [] content.toList (.inl rfl)
    · rw [covers.tokenize] at failed
      cases failed
    · obtain ⟨covered, whole, stopped⟩ := covers.tokenize_stuck stuck
      obtain ⟨c, body, rfl, -, start⟩ := stuck
      rw [stopped, unreadableFailure_cons] at failed
      split at failed
      · rename_i mark
        cases failed
        rw [startOf?, if_pos mark, Option.map_eq_none_iff] at start
        exact ⟨c, body, ⟨tokens, covered, whole, rfl, mark, covers⟩, start⟩
      · cases failed
  · rintro ⟨quote, body, ⟨tokens, covered, whole, rfl, mark, covers⟩, opened⟩
    have stuck : Stuck (quote :: body) := by
      refine ⟨quote, body, rfl, ?_, ?_⟩
      · rcases mark with rfl | rfl <;> rfl
      · rw [startOf?, if_pos mark, opened]
        rfl
    obtain ⟨front, same, stopped⟩ := covers.tokenize_stuck stuck
    obtain rfl := List.append_cancel_right (whole.symm.trans same)
    rw [unreadableFailure_cons, if_pos mark] at stopped
    exact ⟨_, stopped⟩

theorem unterminatedAt_of_brokenAt (broken : BrokenAt content.toList position) :
    UnterminatedAt content position := by
  obtain ⟨quote, body, opens, broken⟩ := broken
  exact unterminatedAt_iff.2 ⟨quote, body, opens, broken.closeString⟩

/-- Tokens and gaps lead the splitter from outside quotes to outside quotes. -/
theorem Covers.outside (covers : Covers rest before tokens text) :
    ∃ covered, text = covered ++ rest ∧ Script.modeAfter covered = .outside := by
  have blanks {gap : List Char} (blank : gap.all isGap = true) : Script.modeAfter gap = .outside :=
    Script.modeAfter_of_blank fun c mem => isBlank_of_isGap (List.all_eq_true.1 blank c mem)
  induction covers with
  | done _ blank => exact ⟨_, rfl, blanks blank⟩
  | @token before gap after token tokens blank stands between covers ih =>
    obtain ⟨covered, rfl, later⟩ := ih
    have lexeme : Script.modeAfter token.lexeme = .outside := by
      rcases between.fits.cut with ⟨-, semicolon⟩ | ⟨-, -, outside⟩
      · rw [semicolon]
        rfl
      · exact outside
    refine ⟨gap ++ (token.lexeme ++ covered), by simp only [List.append_assoc], ?_⟩
    rw [Script.modeAfter_append, blanks blank]
    change Script.modeAfter (token.lexeme ++ covered) = _
    rw [Script.modeAfter_append, lexeme]
    exact later

/-- In a text that ends outside quotes for the splitter, only broken strings are not closed. -/
theorem unterminatedAt_iff_brokenAt (outside : Script.modeAfter content.toList = .outside) :
    UnterminatedAt content position ↔ BrokenAt content.toList position := by
  refine ⟨fun unterminated => ?_, unterminatedAt_of_brokenAt⟩
  obtain ⟨quote, body, opens, opened⟩ := unterminatedAt_iff.1 unterminated
  refine ⟨quote, body, opens, broken_of_closeString opened ?_⟩
  obtain ⟨tokens, covered, whole, -, mark, covers⟩ := opens
  obtain ⟨front, same, start⟩ := covers.outside
  have enter : Script.Mode.outside.next quote = .quoted quote := if_pos mark
  rwa [same, Script.modeAfter_append, start, List.foldl_cons, enter] at outside

end Token

namespace Script

variable {mode : Mode} {text last : List Char} {ended : List (List Char)} {buffer : String}

/-! ### Statements and buffers -/

theorem modeAfter_trim (text : List Char) :
    modeAfter (trim text) = .outside ↔ modeAfter text = .outside := by
  obtain ⟨before, after, front, back, same⟩ := eq_trim text
  have alone : modeAfter text = after.foldl Mode.next (modeAfter (trim text)) := by
    rw [← modeAfter_append]
    conv_lhs => rw [same, modeAfter_append, modeAfter_of_blank front]
    rfl
  rw [alone, foldl_blank (sound_modeAfter _) back]

/-- A piece that ends with a semicolon ends outside quotes. -/
theorem Cut.closed (cut : Cut mode text ended last) {head : List Char} {others : List (List Char)}
    (first : ended = head :: others) :
    head.foldl Mode.next mode = .outside ∧ ∀ piece ∈ others, modeAfter piece = .outside := by
  induction cut generalizing head others with
  | done mode => cases first
  | @stop rest last ended cut ih =>
    cases first
    refine ⟨rfl, fun piece mem => ?_⟩
    cases ended with
    | nil => cases mem
    | cons next more =>
      obtain ⟨here, later⟩ := ih rfl
      rcases List.mem_cons.1 mem with rfl | mem
      · exact here
      · exact later piece mem
  | last inside cut ih => cases first
  | first inside cut ih =>
    cases first
    exact ih rfl

/-- The statements of a text that ends outside quotes end outside quotes. -/
theorem modeAfter_of_mem_statementsOf (outside : modeAfter text = .outside) :
    ∀ statement ∈ statementsOf text, modeAfter statement = .outside := by
  obtain ⟨ended, last, cut⟩ := exists_cut .outside text
  intro statement mem
  obtain ⟨piece, inside, rfl⟩ := List.mem_map.1 (List.mem_filter.1 mem).1
  rw [cut.pieces] at inside
  refine (modeAfter_trim piece).2 ?_
  rcases List.mem_append.1 inside with before | final
  · cases ended with
    | nil => cases before
    | cons head others =>
      obtain ⟨here, later⟩ := cut.closed rfl
      rcases List.mem_cons.1 before with rfl | mem
      · exact here
      · exact later piece mem
  · rw [List.mem_singleton.1 final]
    exact cut.last_alone.2.trans outside

/-- An ASCII character of a text has its small form in the small form of the text. -/
theorem toLower_mem_lower {c : Char} (ascii : c.toNat < 0x80) (mem : c ∈ text) :
    c.toLower ∈ lower text := by
  have after (before : List Char) : c.toLower ∈ lowerAfter before text := by
    induction text generalizing before with
    | nil => cases mem
    | cons other rest ih =>
      rw [lowerAfter]
      rcases List.mem_cons.1 mem with rfl | mem
      · have noSigma : c ≠ 'Σ' := by
          rintro rfl
          exact absurd ascii (by decide)
        have noDotted : c ≠ 'İ' := by
          rintro rfl
          exact absurd ascii (by decide)
        rw [lowerIn, if_neg noSigma, if_neg noDotted, if_pos ascii]
        exact List.mem_append_left _ List.mem_cons_self
      · exact List.mem_append_right _ (ih mem _)
  exact after []

/-- A statement that needs no semicolon has the characters of its small form only. -/
theorem not_mem_of_isBare (bare : IsBare buffer) {c : Char} (ascii : c.toNat < 0x80)
    (same : c.toLower = c) (absent : ∀ statement ∈ bareStatements, c ∉ statement.toList) :
    c ∉ trim buffer.toList := by
  intro mem
  have small := toLower_mem_lower ascii mem
  rw [same] at small
  exact absent _ bare (by rwa [String.toList_ofList])

/-- A statement that needs no semicolon has no quotes. -/
theorem modeAfter_of_isBare (bare : IsBare buffer) : modeAfter buffer.toList = .outside := by
  refine (modeAfter_trim _).1 (Token.cut_of_plain fun c mem => ⟨?_, ?_, ?_⟩).2
  all_goals
    rintro rfl
    exact not_mem_of_isBare bare (by decide) (by decide) (by simp [bareStatements]) mem

theorem modeAfter_of_isComplete
    (noComments : ∀ line ∈ lines buffer.toList, isComment line = false)
    (complete : isComplete buffer = true) : modeAfter buffer.toList = .outside := by
  by_cases bare : IsBare buffer
  · exact modeAfter_of_isBare bare
  · have outside := ((isComplete_iff bare).1 complete).2.1
    rwa [Token.withoutComments_eq noComments] at outside

/-- A buffer that is not complete and ends in quotes waits for the next line at a prompt. -/
theorem take_of_modeAfter {held line : String} (typed : Prompt.extend held line = buffer)
    (incomplete : isComplete buffer = false) (inside : modeAfter buffer.toList ≠ .outside) :
    Prompt.take held line = ([], buffer) := by
  have filled : ¬(trim buffer.toList).isEmpty = true := fun empty =>
    inside (modeAfter_of_blank (trim_eq_nil.1 (List.isEmpty_iff.1 empty)))
  simp only [Prompt.take, typed, if_neg filled, incomplete, Bool.false_eq_true, if_false]

/-- In a complete buffer without comments, and in each of its statements, only broken strings are not
closed. A buffer with another string that is not closed is not complete, and is kept at the prompt. -/
theorem isComplete_unterminated (buffer : String)
    (noComments : ∀ line ∈ lines buffer.toList, isComment line = false) :
    (isComplete buffer = true →
      (∀ statement ∈ statements buffer, ∀ position,
        Token.UnterminatedAt statement position ↔ Token.BrokenAt statement.toList position) ∧
      ∀ position, Token.UnterminatedAt buffer position ↔ Token.BrokenAt buffer.toList position) ∧
    ∀ position, Token.UnterminatedAt buffer position →
      Token.BrokenAt buffer.toList position ∨ (isComplete buffer = false ∧
        ∀ held line, Prompt.extend held line = buffer → Prompt.take held line = ([], buffer)) := by
  refine ⟨fun complete => ?_, fun position unterminated => ?_⟩
  · have outside := modeAfter_of_isComplete noComments complete
    refine ⟨fun statement mem position => ?_, fun position =>
      Token.unterminatedAt_iff_brokenAt outside⟩
    obtain ⟨piece, within, rfl⟩ := List.mem_map.1 mem
    rw [split_eq, Token.withoutComments_eq noComments] at within
    refine Token.unterminatedAt_iff_brokenAt ?_
    rw [String.toList_ofList]
    exact modeAfter_of_mem_statementsOf outside piece within
  · by_cases outside : modeAfter buffer.toList = .outside
    · exact .inl ((Token.unterminatedAt_iff_brokenAt outside).1 unterminated)
    · have incomplete : isComplete buffer = false := Bool.eq_false_iff.2 fun complete =>
        outside (modeAfter_of_isComplete noComments complete)
      exact .inr ⟨incomplete, fun held line typed => take_of_modeAfter typed incomplete outside⟩

/-- The second statement of a complete buffer has a string that is not closed, and it is broken. -/
theorem isComplete_unterminated_second :
    isComplete "use 'a;'; use 'b\\\nc';" = true ∧
      statements "use 'a;'; use 'b\\\nc';" = ["use 'a;';", "use 'b\\\nc';"] ∧
      Token.BrokenAt "use 'b\\\nc';".toList 4 := by
  have complete : isComplete "use 'a;'; use 'b\\\nc';" = true := by decide +kernel
  have cut : statements "use 'a;'; use 'b\\\nc';" = ["use 'a;';", "use 'b\\\nc';"] := by
    decide +kernel
  have noComments : ∀ line ∈ lines "use 'a;'; use 'b\\\nc';".toList, isComment line = false := by
    decide +kernel
  have unterminated : Token.UnterminatedAt "use 'b\\\nc';" 4 := ⟨"'b\\\nc';", by rfl⟩
  obtain ⟨each, -⟩ := (isComplete_unterminated _ noComments).1 complete
  exact ⟨complete, cut, (each _ (by rw [cut]; simp) 4).1 unterminated⟩

/-- A complete buffer, which is its own only statement, can have a string that is not closed. -/
theorem isComplete_lineBreak :
    (∀ line ∈ lines "use 'a\\\nb';".toList, isComment line = false) ∧
      isComplete "use 'a\\\nb';" = true ∧
      statements "use 'a\\\nb';" = ["use 'a\\\nb';"] ∧
      Token.UnterminatedAt "use 'a\\\nb';" 4 :=
  ⟨by decide +kernel, by decide +kernel, by decide +kernel, "'a\\\nb';", by rfl⟩

end Script

end WideColumn
