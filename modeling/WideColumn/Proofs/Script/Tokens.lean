import WideColumn.Proofs.Printing.Lexing
import WideColumn.Proofs.Script.Cutting

/-!
# Where the splitter and the lexer agree

A text that can be read to its end is made of lexemes with gaps around them (`Lexes`). Every lexeme but
a semicolon leads from outside quotes to outside quotes, and there is no semicolon in it at which a
script would be cut; in particular a string ends for the splitter where it ends for the lexer. So each
piece of the text is made of lexemes of the text, and all but the last piece end with their only
semicolon.
-/

namespace WideColumn.Token

open Text Script

/-! ### Strings -/

/-- The rest of a string behind its first quote, up to and with the quote that closes it. -/
inductive Closes (quote : Char) : List Char → Prop
  | quote : Closes quote [quote]
  | escape {c : Char} {body : List Char} (sameLine : c ≠ '\n') (closes : Closes quote body) :
    Closes quote ('\\' :: c :: body)
  | char {c : Char} {body : List Char} (notQuote : c ≠ quote) (notEscape : c ≠ '\\')
      (closes : Closes quote body) : Closes quote (c :: body)

variable {quote : Char} {body text lexeme after rest : List Char} {kind : Kind}

theorem closes_of_closeString (closed : closeString quote text = some (body, after)) :
    Closes quote body ∧ text = body ++ after := by
  induction text using closeString.induct (quote) generalizing body with
  | case1 => cases closed
  | case2 rest => cases closed
  | case3 c rest sameLine ih =>
    rw [closeString, if_neg sameLine] at closed
    obtain ⟨⟨inner, left⟩, found, same⟩ := Option.map_eq_some_iff.1 closed
    cases same
    obtain ⟨closes, rfl⟩ := ih found
    exact ⟨.escape sameLine closes, rfl⟩
  | case4 rest unescaped =>
    rw [closeString, if_pos rfl] at closed
    · cases closed
      exact ⟨.quote, rfl⟩
    · exact unescaped
  | case5 rest unescaped notQuote =>
    rw [closeString, if_neg notQuote, if_pos rfl] at closed
    · cases closed
    · exact unescaped
  | case6 c rest unescaped notQuote notEscape ih =>
    rw [closeString, if_neg notQuote, if_neg notEscape] at closed
    · obtain ⟨⟨inner, left⟩, found, same⟩ := Option.map_eq_some_iff.1 closed
      cases same
      obtain ⟨closes, rfl⟩ := ih found
      exact ⟨.char notQuote notEscape closes, rfl⟩
    · exact unescaped

theorem Closes.closeString (closes : Closes quote body) (notEscape : quote ≠ '\\')
    (after : List Char) : closeString quote (body ++ after) = some (body, after) := by
  induction closes with
  | quote =>
    rw [List.singleton_append, Token.closeString, if_pos rfl]
    exact fun _ _ same => absurd same notEscape
  | escape sameLine closes ih =>
    rw [List.cons_append, List.cons_append, Token.closeString, if_neg sameLine, ih]
    rfl
  | char notQuote plain closes ih =>
    rw [List.cons_append, Token.closeString, if_neg notQuote, if_neg plain, ih]
    · rfl
    · exact fun _ _ same => absurd same plain

theorem Closes.exists_concat (closes : Closes quote body) : ∃ front, body = front ++ [quote] := by
  induction closes with
  | quote => exact ⟨[], rfl⟩
  | @escape c _ _ _ ih =>
    obtain ⟨front, rfl⟩ := ih
    exact ⟨'\\' :: c :: front, rfl⟩
  | @char c _ _ _ _ ih =>
    obtain ⟨front, rfl⟩ := ih
    exact ⟨c :: front, rfl⟩

/-- The splitter stays in a string until it closes, and is outside quotes then. -/
theorem Closes.cut (closes : Closes quote body) (notEscape : quote ≠ '\\') :
    Cut (.quoted quote) body [] body ∧ body.foldl Mode.next (.quoted quote) = .outside := by
  have inQuotes (c : Char) : ¬(Mode.quoted quote = .outside ∧ c = ';') := by simp
  have inEscape (c : Char) : ¬(Mode.escaped quote = .outside ∧ c = ';') := by simp
  induction closes with
  | quote =>
    have out : (Mode.quoted quote).next quote = .outside := by simp [Mode.next, notEscape]
    exact ⟨.last (inQuotes quote) (.done _), out⟩
  | @escape c body _ _ ih =>
    have skip : (Mode.quoted quote).next '\\' = .escaped quote := by simp [Mode.next]
    refine ⟨.last (inQuotes '\\') ?_, ?_⟩
    · rw [skip]
      exact .last (inEscape c) ih.1
    · rw [List.foldl_cons, skip]
      exact ih.2
  | @char c body notQuote plain _ ih =>
    have stay : (Mode.quoted quote).next c = .quoted quote := by simp [Mode.next, notQuote, plain]
    refine ⟨.last (inQuotes c) ?_, ?_⟩
    · rw [stay]
      exact ih.1
    · rw [List.foldl_cons, stay]
      exact ih.2

/-! ### Lexemes -/

/-- The sort and the characters of a token. -/
abbrev Lexeme := Kind × List Char

/-- Whether characters make a token of a sort in front of a text. -/
inductive Fits : Kind → List Char → List Char → Prop
  | quoted {quote : Char} {body rest : List Char} (mark : quote = '\'' ∨ quote = '"')
      (closes : Closes quote body) : Fits .quoted (quote :: body) rest
  | word {lexeme rest : List Char} (nonempty : lexeme ≠ []) (word : lexeme.all isWordChar = true)
      (ends : rest.head?.all (!isWordChar ·) = true) : Fits (wordKind lexeme) lexeme rest
  | mark (sign : Mark) {rest : List Char} (ends : (Printing.Piece.mark sign).EndsBefore rest) :
    Fits (.mark sign) sign.spelling rest

/-- A mark at the start of a text ends in front of the rest. -/
theorem fits_of_markAt? {sign : Mark} {size : Nat} (found : markAt? text = some (sign, size)) :
    text.take size = sign.spelling ∧ (Printing.Piece.mark sign).EndsBefore (text.drop size) := by
  unfold markAt? at found
  split at found
  all_goals cases found
  case h_3 rest other =>
    refine ⟨rfl, fun equal => ?_⟩
    obtain ⟨more, rfl⟩ := List.head?_eq_some_iff.1 equal
    exact other more rfl
  case h_4 rest other =>
    refine ⟨rfl, fun equal => ?_⟩
    obtain ⟨more, rfl⟩ := List.head?_eq_some_iff.1 equal
    exact other more rfl
  all_goals exact ⟨rfl, trivial⟩

/-- What a text starts with is what fits in front of the rest of it. -/
theorem startOf?_iff :
    startOf? text = some (kind, lexeme, after) ↔ text = lexeme ++ after ∧ Fits kind lexeme after := by
  constructor
  · intro start
    cases text with
    | nil => cases start
    | cons c rest =>
      rw [startOf?] at start
      split at start
      · rename_i mark
        obtain ⟨⟨body, left⟩, closed, same⟩ := Option.map_eq_some_iff.1 start
        cases same
        obtain ⟨closes, rfl⟩ := closes_of_closeString closed
        exact ⟨rfl, .quoted mark closes⟩
      · split at start
        · rename_i word
          cases start
          refine ⟨List.takeWhile_append_dropWhile.symm, .word ?_ List.all_takeWhile ?_⟩
          · rw [List.takeWhile_cons_of_pos word]
            exact List.cons_ne_nil _ _
          · have stops := List.head?_dropWhile_not isWordChar (c :: rest)
            cases next : ((c :: rest).dropWhile isWordChar).head? with
            | none => rfl
            | some other =>
              rw [next] at stops
              simpa using stops
        · obtain ⟨⟨sign, size⟩, found, same⟩ := Option.map_eq_some_iff.1 start
          cases same
          obtain ⟨spelled, ends⟩ := fits_of_markAt? found
          refine ⟨(List.take_append_drop size _).symm, ?_⟩
          rw [spelled]
          exact .mark sign ends
  · rintro ⟨rfl, fits⟩
    cases fits with
    | @quoted quote body _ mark closes =>
      have notEscape : quote ≠ '\\' := by
        rcases mark with rfl | rfl <;> decide
      rw [List.cons_append, startOf?, if_pos mark, closes.closeString notEscape]
      rfl
    | word nonempty word ends => exact Printing.startOf?_word nonempty word ends
    | mark sign ends => exact Printing.startOf?_mark ends

/-- What fits in front of a text fits in front of the first part of it. -/
theorem Fits.of_prefix (fits : Fits kind lexeme after) (first : rest <+: after) :
    Fits kind lexeme rest := by
  obtain ⟨more, rfl⟩ := first
  have head (holds : Option Char → Prop) (nothing : holds none) (next : holds (rest ++ more).head?) :
      holds rest.head? := by
    cases rest with
    | nil => exact nothing
    | cons c others => exact next
  cases fits with
  | quoted mark closes => exact .quoted mark closes
  | word nonempty word ends =>
    exact .word nonempty word (head (fun next => next.all (!isWordChar ·) = true) rfl ends)
  | mark sign ends =>
    refine .mark sign ?_
    cases sign
    case greater => exact head (· ≠ some '=') nofun ends
    case less => exact head (· ≠ some '=') nofun ends
    all_goals trivial

/-- A lexeme ends with a character that is not blank. -/
theorem Fits.solid (fits : Fits kind lexeme rest) :
    ∃ front last, lexeme = front ++ [last] ∧ isBlank last = false := by
  cases fits with
  | @quoted quote body _ mark closes =>
    obtain ⟨front, rfl⟩ := closes.exists_concat
    refine ⟨quote :: front, quote, rfl, ?_⟩
    rcases mark with rfl | rfl <;> decide
  | word nonempty word ends =>
    refine ⟨lexeme.dropLast, lexeme.getLast nonempty,
      (List.dropLast_concat_getLast nonempty).symm, Bool.eq_false_iff.2 fun blank => ?_⟩
    have isWord := List.all_eq_true.1 word _ (List.getLast_mem nonempty)
    rw [not_isWordChar_of_isBlank blank] at isWord
    cases isWord
  | mark sign ends =>
    cases sign
    case greaterEqual => exact ⟨['>'], '=', rfl, by decide⟩
    case lessEqual => exact ⟨['<'], '=', rfl, by decide⟩
    all_goals exact ⟨[], _, rfl, by decide⟩

theorem Fits.ne_nil (fits : Fits kind lexeme rest) : lexeme ≠ [] := by
  obtain ⟨front, last, rfl, -⟩ := fits.solid
  simp

theorem Fits.readable (fits : Fits kind lexeme rest) : kind ≠ .unreadable := by
  cases fits with
  | quoted => exact nofun
  | word =>
    unfold wordKind
    split <;> exact nofun
  | mark => exact nofun

/-- A text without quotes or semicolons is read outside quotes, and is not cut. -/
theorem cut_of_plain (plain : ∀ c ∈ text, c ≠ '\'' ∧ c ≠ '"' ∧ c ≠ ';') :
    Cut .outside text [] text ∧ modeAfter text = .outside := by
  refine ⟨cut_of_not_mem _ fun mem => (plain ';' mem).2.2 rfl, ?_⟩
  induction text with
  | nil => rfl
  | cons c rest ih =>
    obtain ⟨single, double, -⟩ := plain c List.mem_cons_self
    have stay : Mode.outside.next c = .outside := by simp [Mode.next, single, double]
    rw [modeAfter, List.foldl_cons, stay]
    exact ih fun other mem => plain other (List.mem_cons_of_mem c mem)

/-- For the splitter a lexeme is the semicolon that ends a piece, or a part of a piece that leads from
outside quotes to outside quotes. -/
theorem Fits.cut (fits : Fits kind lexeme rest) :
    (kind = .mark .semicolon ∧ lexeme = [';']) ∨
      (kind ≠ .mark .semicolon ∧ Cut .outside lexeme [] lexeme ∧ modeAfter lexeme = .outside) := by
  cases fits with
  | @quoted quote body _ mark closes =>
    have notEscape : quote ≠ '\\' := by
      rcases mark with rfl | rfl <;> decide
    have notStop : ¬(Mode.outside = .outside ∧ quote = ';') := by
      rcases mark with rfl | rfl <;> decide
    have enter : Mode.outside.next quote = .quoted quote := if_pos mark
    obtain ⟨cut, out⟩ := closes.cut notEscape
    refine .inr ⟨by decide, .last notStop (enter ▸ cut), ?_⟩
    rw [modeAfter, List.foldl_cons, enter, out]
  | word nonempty word ends =>
    refine .inr ⟨?_, cut_of_plain fun c mem => ?_⟩
    · unfold wordKind
      split <;> simp
    · have isWord := List.all_eq_true.1 word c mem
      refine ⟨?_, ?_, ?_⟩ <;>
      · rintro rfl
        exact absurd isWord (by decide)
  | mark sign ends =>
    cases sign
    case semicolon => exact .inl ⟨rfl, rfl⟩
    all_goals exact .inr ⟨by decide, cut_of_plain (by simp [Mark.spelling])⟩

/-! ### The lexemes of a text -/

/-- How a text is made of lexemes, with gaps around them. -/
inductive Lexes : List Char → List Lexeme → Prop
  | done : Lexes [] []
  | gap {c : Char} {rest : List Char} {lexemes : List Lexeme} (gap : isGap c = true)
      (lexes : Lexes rest lexemes) : Lexes (c :: rest) lexemes
  | token {kind : Kind} {lexeme after : List Char} {lexemes : List Lexeme}
      (fits : Fits kind lexeme after) (lexes : Lexes after lexemes) :
      Lexes (lexeme ++ after) ((kind, lexeme) :: lexemes)

/-- What a token is, wherever it stands. -/
def lexemeOf (token : Token) : Lexeme :=
  (token.kind, token.lexeme)

variable {lexemes : List Lexeme} {c : Char}

theorem lexes_of_readFrom {fuel position : Nat} (enough : text.length ≤ fuel)
    (readable : ∀ token ∈ readFrom fuel position text, token.kind ≠ .unreadable) :
    Lexes text ((readFrom fuel position text).map lexemeOf) := by
  induction fuel generalizing position text with
  | zero =>
    obtain rfl := List.length_eq_zero_iff.1 (Nat.le_zero.1 enough)
    exact .done
  | succ fuel ih =>
    cases text with
    | nil => exact .done
    | cons c rest =>
      rw [readFrom] at readable ⊢
      split at readable
      · rename_i gap
        rw [if_pos gap]
        exact .gap gap (ih (Nat.le_of_succ_le_succ enough) readable)
      · rename_i noGap
        rw [if_neg noGap]
        cases start : startOf? (c :: rest) with
        | none =>
          rw [start] at readable
          exact absurd rfl (readable _ List.mem_cons_self)
        | some found =>
          obtain ⟨kind, lexeme, after⟩ := found
          rw [start] at readable
          obtain ⟨same, fits⟩ := startOf?_iff.1 start
          have shorter : after.length ≤ fuel := by
            have total := congrArg List.length same
            have positive := List.length_pos_iff.2 fits.ne_nil
            rw [List.length_append] at total
            omega
          rw [same]
          exact .token fits (ih shorter fun token mem => readable token (List.mem_cons_of_mem _ mem))

/-- The tokens of a text that can be read to its end are what the text is made of. -/
theorem lexes_of_tokenize {content : String} {tokens : List Token}
    (tokenized : tokenize content = .ok tokens) :
    Lexes content.toList (tokens.map lexemeOf) := by
  unfold tokenize at tokenized
  dsimp only at tokenized
  split at tokenized
  · cases tokenized
  · rename_i readable
    cases tokenized
    refine lexes_of_readFrom (Nat.le_refl _) fun token mem unreadable => ?_
    exact List.find?_eq_none.1 readable token mem (beq_iff_eq.2 unreadable)

theorem Lexes.readFrom (lexes : Lexes text lexemes) {fuel : Nat} (position : Nat)
    (enough : text.length ≤ fuel) : (readFrom fuel position text).map lexemeOf = lexemes := by
  induction lexes generalizing fuel position with
  | done => cases fuel <;> rfl
  | @gap c rest lexemes gap lexes ih =>
    cases fuel with
    | zero => cases enough
    | succ fuel =>
      rw [Token.readFrom, if_pos gap]
      exact ih (position + 1) (Nat.le_of_succ_le_succ enough)
  | @token kind lexeme after lexemes fits lexes ih =>
    have start := startOf?_iff.2 ⟨rfl, fits⟩
    cases whole : lexeme ++ after with
    | nil => exact absurd (List.append_eq_nil_iff.1 whole).1 fits.ne_nil
    | cons c rest =>
      have positive := List.length_pos_iff.2 fits.ne_nil
      rw [whole] at start
      have noGap : ¬isGap c = true := by
        intro gap
        rw [startOf?_of_isBlank (isBlank_of_isGap gap)] at start
        cases start
      cases fuel with
      | zero =>
        rw [whole] at enough
        cases enough
      | succ fuel =>
        rw [List.length_append] at enough
        rw [Token.readFrom, if_neg noGap, start]
        exact congrArg _ (ih (position + lexeme.length) (by omega))

theorem Lexes.readable (lexes : Lexes text lexemes) : ∀ lexeme ∈ lexemes, lexeme.1 ≠ .unreadable := by
  induction lexes with
  | done => exact nofun
  | gap gap lexes ih => exact ih
  | token fits lexes ih =>
    intro lexeme mem
    rcases List.mem_cons.1 mem with rfl | mem
    · exact fits.readable
    · exact ih lexeme mem

/-- A text that is made of lexemes can be read to its end, and these are its tokens. -/
theorem Lexes.tokenize (lexes : Lexes text lexemes) :
    ∃ tokens, Token.tokenize (String.ofList text) = .ok tokens ∧ tokens.map lexemeOf = lexemes := by
  have same := lexes.readFrom 0 (Nat.le_refl text.length)
  refine ⟨read text, ?_, same⟩
  have none : (read text).find? (fun token => token.kind == .unreadable) = none := by
    refine List.find?_eq_none.2 fun token mem unreadable => ?_
    have mem : lexemeOf token ∈ lexemes := same ▸ List.mem_map_of_mem mem
    exact lexes.readable _ mem (beq_iff_eq.1 unreadable)
  unfold Token.tokenize
  rw [String.toList_ofList]
  dsimp only
  rw [none]

/-! ### Trimming -/

/-- A blank at the start of a text that can be read is a gap. -/
theorem Lexes.of_cons (lexes : Lexes (c :: rest) lexemes) (blank : isBlank c = true) :
    Lexes rest lexemes := by
  generalize same : c :: rest = whole at lexes
  cases lexes with
  | done => cases same
  | gap gap lexes =>
    cases same
    exact lexes
  | token fits lexes =>
    have start := startOf?_iff.2 ⟨same, fits⟩
    rw [startOf?_of_isBlank blank] at start
    cases start

/-- So is a blank at the end. -/
theorem Lexes.of_concat (lexes : Lexes (text ++ [c]) lexemes) (blank : isBlank c = true) :
    Lexes text lexemes := by
  generalize same : text ++ [c] = whole at lexes
  induction lexes generalizing text with
  | done => simp at same
  | @gap first rest lexemes gap lexes ih =>
    cases text with
    | nil =>
      cases same
      exact lexes
    | cons other text =>
      obtain ⟨rfl, later⟩ := List.cons.inj same
      exact .gap gap (ih later)
  | @token kind lexeme after lexemes fits lexes ih =>
    rcases List.eq_nil_or_concat after with rfl | ⟨before, last, rfl⟩
    · obtain ⟨front, last, rfl, solid⟩ := fits.solid
      rw [List.append_nil] at same
      obtain ⟨-, ends⟩ := List.append_inj' same rfl
      rw [(List.cons.inj ends).1, solid] at blank
      cases blank
    · rw [List.concat_eq_append, ← List.append_assoc] at same
      obtain ⟨rfl, ends⟩ := List.append_inj' same rfl
      rw [List.concat_eq_append, ← ends] at fits ih
      exact .token (fits.of_prefix (List.prefix_append before [c])) (ih rfl)

/-- The lexemes of a text are those of the text without the blanks at its ends. -/
theorem Lexes.trim (lexes : Lexes text lexemes) : Lexes (trim text) lexemes := by
  obtain ⟨before, after, front, back, same⟩ := eq_trim text
  rw [same] at lexes
  have inner : Lexes (Text.trim text ++ after) lexemes := by
    clear same
    induction before with
    | nil => exact lexes
    | cons c rest ih =>
      exact ih (lexes.of_cons (front c List.mem_cons_self))
        fun other mem => front other (List.mem_cons_of_mem c mem)
  clear lexes same
  induction after using List.reverseRecOn with
  | nil => rwa [List.append_nil] at inner
  | append_singleton rest c ih =>
    rw [← List.append_assoc] at inner
    exact ih (fun other mem => back other (List.mem_append_left _ mem))
      (inner.of_concat (back c (List.mem_append_right _ List.mem_cons_self)))

/-! ### The lexemes of the pieces -/

/-- The semicolon as a lexeme. -/
def semicolon : Lexeme :=
  (.mark .semicolon, [';'])

/-- How lexemes are parted at their semicolons: every part but the last has one, at its end. -/
inductive Parted : List (List Lexeme) → Prop
  | last {part : List Lexeme} (plain : ∀ lexeme ∈ part, lexeme.1 ≠ .mark .semicolon) :
    Parted [part]
  | part {body : List Lexeme} {others : List (List Lexeme)}
      (plain : ∀ lexeme ∈ body, lexeme.1 ≠ .mark .semicolon) (parted : Parted others) :
    Parted ((body ++ [semicolon]) :: others)

/-- A lexeme that is no semicolon goes into the first part. -/
theorem Parted.cons {first : List Lexeme} {others : List (List Lexeme)} {lexeme : Lexeme}
    (parted : Parted (first :: others)) (plain : lexeme.1 ≠ .mark .semicolon) :
    Parted ((lexeme :: first) :: others) := by
  cases parted with
  | last all => exact .last (List.forall_mem_cons.2 ⟨plain, all⟩)
  | @part body _ all parted =>
    show Parted ((lexeme :: body ++ [semicolon]) :: others)
    exact .part (List.forall_mem_cons.2 ⟨plain, all⟩) parted

/-- The pieces of a text that is made of lexemes are made of these lexemes, parted at semicolons. -/
theorem Lexes.pieces (lexes : Lexes text lexemes) :
    ∃ parts, List.Forall₂ Lexes (pieces .outside text) parts ∧ parts.flatten = lexemes ∧
      Parted parts := by
  induction lexes with
  | done => exact ⟨[[]], .cons .done .nil, rfl, .last nofun⟩
  | @gap c rest lexemes gap lexes ih =>
    obtain ⟨parts, each, whole, parted⟩ := ih
    have blank : Blank [c] := blank_singleton (isBlank_of_isGap gap)
    have cut := (cut_of_blank .outside blank).pieces_append (modeAfter_of_blank blank) rest
    rw [List.singleton_append, List.nil_append] at cut
    rw [cut]
    cases found : Script.pieces .outside rest with
    | nil => exact absurd found (pieces_ne_nil _ _)
    | cons head others =>
      rw [found] at each
      cases each with
      | cons first later => exact ⟨_, .cons (.gap gap first) later, whole, parted⟩
  | @token kind lexeme after lexemes fits lexes ih =>
    obtain ⟨parts, each, whole, parted⟩ := ih
    rcases fits.cut with ⟨rfl, rfl⟩ | ⟨plain, cut, outside⟩
    · rw [List.singleton_append, pieces_semicolon]
      have alone : Lexes [';'] [semicolon] := by
        have lexes := Lexes.token (fits.of_prefix List.nil_prefix) .done
        rwa [List.append_nil] at lexes
      have ended : Parted (([] ++ [semicolon]) :: parts) := .part nofun parted
      exact ⟨_, .cons alone each, congrArg (semicolon :: ·) whole, ended⟩
    · rw [cut.pieces_append outside, List.nil_append]
      have joined := flatten_pieces .outside after
      cases found : Script.pieces .outside after with
      | nil => exact absurd found (pieces_ne_nil _ _)
      | cons head others =>
        rw [found] at each joined
        cases each with
        | @cons _ part _ parts first later =>
          have shorter : head <+: after := ⟨others.flatten, joined⟩
          exact ⟨((kind, lexeme) :: part) :: parts, .cons (.token (fits.of_prefix shorter) first) later,
            congrArg ((kind, lexeme) :: ·) whole, parted.cons plain⟩

/-! ### Which pieces are statements -/

theorem Lexes.blank (lexes : Lexes text []) : Blank text := by
  generalize none : ([] : List Lexeme) = lexemes at lexes
  induction lexes with
  | done => exact blank_nil
  | @gap c rest _ gap lexes ih => exact List.forall_mem_cons.2 ⟨isBlank_of_isGap gap, ih none⟩
  | token => cases none

theorem Lexes.eq_nil (lexes : Lexes [] lexemes) : lexemes = [] := by
  generalize none : ([] : List Char) = text at lexes
  cases lexes with
  | done => rfl
  | gap => cases none
  | token fits lexes => exact absurd (List.append_eq_nil_iff.1 none.symm).1 fits.ne_nil

/-- A text with a semicolon for its only token is a semicolon between blanks. -/
theorem Lexes.trim_semicolon (lexes : Lexes text [semicolon]) : Text.trim text = [';'] := by
  generalize only : [semicolon] = lexemes at lexes
  induction lexes with
  | done => cases only
  | @gap c rest _ gap lexes ih =>
    have blank : Blank [c] := blank_singleton (isBlank_of_isGap gap)
    exact (trim_blank_append blank).trans (ih only)
  | @token kind lexeme after lexemes fits lexes ih =>
    obtain ⟨same, rfl⟩ := List.cons.inj only
    cases same
    rw [trim_append_blank lexes.blank]
    decide

theorem Lexes.eq_semicolon (lexes : Lexes [';'] lexemes) : lexemes = [semicolon] := by
  have start : startOf? [';'] = some (.mark .semicolon, [';'], []) := by decide
  have read := lexes.readFrom 0 (Nat.le_refl [';'].length)
  rw [← read]
  decide

/-- A piece is a statement just if it has a token that is not a semicolon. -/
theorem Lexes.isStatement_iff (lexes : Lexes text lexemes) :
    isStatement (Text.trim text) = true ↔ lexemes ≠ [] ∧ lexemes ≠ [semicolon] := by
  have split : isStatement (Text.trim text) = true ↔
      Text.trim text ≠ [] ∧ Text.trim text ≠ [';'] := by
    simp [isStatement]
  rw [split]
  refine and_congr (not_congr ⟨fun empty => ?_, ?_⟩) (not_congr ⟨fun only => ?_, ?_⟩)
  · exact (empty ▸ lexes.trim).eq_nil
  · rintro rfl
    exact trim_eq_nil.2 lexes.blank
  · exact (only ▸ lexes.trim).eq_semicolon
  · rintro rfl
    exact lexes.trim_semicolon

/-! ### The lexemes of the statements -/

/-- Items without the ends that come first, or directly behind another end. -/
def withoutEmpty {α : Type} (isEnd : α → Bool) : (fresh : Bool) → List α → List α
  | _, [] => []
  | fresh, item :: rest =>
    if isEnd item then if fresh then withoutEmpty isEnd true rest
      else item :: withoutEmpty isEnd true rest
    else item :: withoutEmpty isEnd false rest

theorem map_withoutEmpty {α β : Type} (view : α → β) (isEnd : β → Bool) (fresh : Bool)
    (items : List α) :
    (withoutEmpty (fun item => isEnd (view item)) fresh items).map view =
      withoutEmpty isEnd fresh (items.map view) := by
  induction items generalizing fresh with
  | nil => rfl
  | cons item rest ih =>
    rw [List.map_cons, withoutEmpty, withoutEmpty]
    cases isEnd (view item) <;> cases fresh <;> simp [ih]

/-- Whether a lexeme is a semicolon. -/
def Lexeme.isEnd (lexeme : Lexeme) : Bool :=
  lexeme.1 == .mark .semicolon

theorem withoutEmpty_plain {body : List Lexeme} (fresh : Bool)
    (plain : ∀ lexeme ∈ body, lexeme.1 ≠ .mark .semicolon) (nonempty : body ≠ [])
    (rest : List Lexeme) :
    withoutEmpty Lexeme.isEnd fresh (body ++ rest) =
      body ++ withoutEmpty Lexeme.isEnd false rest := by
  induction body generalizing fresh with
  | nil => exact absurd rfl nonempty
  | cons lexeme others ih =>
    obtain ⟨first, later⟩ := List.forall_mem_cons.1 plain
    have goesOn : lexeme.isEnd = false := beq_eq_false_iff_ne.2 first
    rw [List.cons_append, withoutEmpty, goesOn]
    cases others with
    | nil => rfl
    | cons next more => exact congrArg (lexeme :: ·) (ih false later nofun)

/-- Whether a part has a lexeme that is not a semicolon. -/
def isKept (part : List Lexeme) : Bool :=
  part ≠ [] && part ≠ [semicolon]

/-- Leaving out the parts of a semicolon alone leaves out the semicolons behind no other lexeme. -/
theorem Parted.flatten_filter {parts : List (List Lexeme)} (parted : Parted parts) :
    (parts.filter isKept).flatten = withoutEmpty Lexeme.isEnd true parts.flatten := by
  induction parted with
  | @last part plain =>
    rw [List.flatten_singleton]
    by_cases empty : part = []
    · rw [empty]
      rfl
    · have kept : isKept part = true := by
        have other : part ≠ [semicolon] := by
          rintro rfl
          exact plain semicolon List.mem_cons_self rfl
        simp [isKept, empty, other]
      have same := withoutEmpty_plain true plain empty []
      rw [List.append_nil, withoutEmpty, List.append_nil] at same
      rw [same, List.filter_cons_of_pos kept, List.filter_nil, List.flatten_singleton]
  | @part body others plain parted ih =>
    have stops : semicolon.isEnd = true := rfl
    rw [List.flatten_cons, List.append_assoc, List.singleton_append]
    by_cases empty : body = []
    · have dropped : isKept (body ++ [semicolon]) ≠ true := by
        rw [empty]
        decide
      rw [List.filter_cons_of_neg dropped, ih, empty, List.nil_append, withoutEmpty, stops]
      rfl
    · have kept : isKept (body ++ [semicolon]) = true := by
        simp [isKept, empty]
      rw [List.filter_cons_of_pos kept, List.flatten_cons, ih, withoutEmpty_plain true plain empty,
        withoutEmpty, stops, List.append_assoc]
      rfl

theorem Parted.dropLast {parts : List (List Lexeme)} (parted : Parted parts) :
    ∀ part ∈ parts, ∀ lexeme ∈ part.dropLast, lexeme.1 ≠ .mark .semicolon := by
  induction parted with
  | @last part plain =>
    intro found mem lexeme inside
    rw [List.mem_singleton.1 mem] at inside
    exact plain lexeme ((List.dropLast_sublist part).subset inside)
  | @part body others plain parted ih =>
    intro found mem
    rcases List.mem_cons.1 mem with rfl | mem
    · rw [List.dropLast_concat]
      exact plain
    · exact ih found mem

/-- Only the parts with a lexeme that is not a semicolon are statements. -/
theorem lexes_filter {found : List (List Char)} {parts : List (List Lexeme)}
    (each : List.Forall₂ Lexes found parts) :
    List.Forall₂ Lexes ((found.map Text.trim).filter isStatement) (parts.filter isKept) := by
  induction each with
  | nil => exact .nil
  | @cons piece part pieces parts first others ih =>
    have same : isStatement (Text.trim piece) = isKept part := by
      rw [Bool.eq_iff_iff, first.isStatement_iff]
      simp [isKept]
    rw [List.map_cons, List.filter_cons, List.filter_cons, same]
    split
    · exact .cons first.trim ih
    · exact ih

theorem mapM_tokenize {texts : List (List Char)} {parts : List (List Lexeme)}
    (each : List.Forall₂ Lexes texts parts) :
    ∃ lists, (texts.map String.ofList).mapM Token.tokenize = .ok lists ∧
      lists.map (List.map lexemeOf) = parts := by
  induction each with
  | nil => exact ⟨[], rfl, rfl⟩
  | cons first others ih =>
    obtain ⟨tokens, read, same⟩ := first.tokenize
    obtain ⟨lists, later, rest⟩ := ih
    refine ⟨tokens :: lists, ?_, ?_⟩
    · rw [List.map_cons, List.mapM_cons, read, later]
      rfl
    · rw [List.map_cons, same, rest]

/-- Without comment lines nothing is left out of a text. -/
theorem withoutComments_eq (none : ∀ line ∈ lines text, isComment line = false) :
    withoutComments text = text := by
  have all : (lines text).filter (fun line => !isComment line) = lines text :=
    List.filter_eq_self.2 fun line mem => by simp [none line mem]
  rw [withoutComments, all, unlines_lines]

/-- The statements of a text without comment lines have the tokens that the text has as a whole, but
for the semicolons that come first or directly behind another one; and a statement has a semicolon
only as its last token. -/
theorem tokenize_statements {content : String} {tokens : List Token}
    (noComments : ∀ line ∈ lines content.toList, isComment line = false)
    (tokenized : tokenize content = .ok tokens) :
    ∃ lists, (statements content).mapM tokenize = .ok lists ∧
      lists.flatten.map (fun token => (token.kind, token.value)) =
        (withoutEmpty (isMark .semicolon) true tokens).map (fun token => (token.kind, token.value)) ∧
      ∀ list ∈ lists, ∀ token ∈ list.dropLast, token.isMark .semicolon = false := by
  obtain ⟨parts, each, whole, parted⟩ := (lexes_of_tokenize tokenized).pieces
  obtain ⟨lists, read, same⟩ := mapM_tokenize (lexes_filter each)
  refine ⟨lists, ?_, ?_, fun list mem token inside => ?_⟩
  · rw [statements, split_eq, withoutComments_eq noComments]
    exact read
  · -- Sort and value of a token are a function of its lexeme.
    let view (lexeme : Lexeme) : Kind × String := (lexeme.1, (⟨lexeme.1, lexeme.2, 0⟩ : Token).value)
    calc lists.flatten.map (fun token => view (lexemeOf token))
        = ((lists.map (List.map lexemeOf)).flatten).map view := by
          rw [← List.map_flatten, List.map_map]
          rfl
      _ = (withoutEmpty Lexeme.isEnd true (tokens.map lexemeOf)).map view := by
          rw [same, parted.flatten_filter, whole]
      _ = (withoutEmpty (isMark .semicolon) true tokens).map fun token => view (lexemeOf token) := by
          rw [← map_withoutEmpty, List.map_map]
          rfl
  · have part : list.map lexemeOf ∈ parts := by
      have kept : list.map lexemeOf ∈ parts.filter isKept := same ▸ List.mem_map_of_mem mem
      exact (List.mem_filter.1 kept).1
    have front : lexemeOf token ∈ (list.map lexemeOf).dropLast := by
      rw [← List.map_dropLast]
      exact List.mem_map_of_mem inside
    exact beq_eq_false_iff_ne.2 (parted.dropLast _ part _ front)

/-- Of four semicolons outside quotes one comes first and one directly behind another; the one in the
string ends nothing. -/
theorem tokenize_statements_string :
    statements "; use 'a;\\'b';; list\nc;" = ["use 'a;\\'b';", "list\nc;"] ∧
      ∃ lists, (statements "; use 'a;\\'b';; list\nc;").mapM tokenize = .ok lists ∧
        lists.flatten.map (fun token => (token.kind, token.value)) =
          [(.keyword .use, "use"), (.quoted, "a;'b"), (.mark .semicolon, ";"),
            (.keyword .list, "list"), (.word, "c"), (.mark .semicolon, ";")] ∧
        ∀ list ∈ lists, ∀ token ∈ list.dropLast, token.isMark .semicolon = false := by
  have cut : statements "; use 'a;\\'b';; list\nc;" = ["use 'a;\\'b';", "list\nc;"] := by
    decide +kernel
  have known : (tokenize "; use 'a;\\'b';; list\nc;").toOption.map (fun tokens =>
      (withoutEmpty (isMark .semicolon) true tokens).map fun token => (token.kind, token.value)) =
        some [(.keyword .use, "use"), (.quoted, "a;'b"), (.mark .semicolon, ";"),
          (.keyword .list, "list"), (.word, "c"), (.mark .semicolon, ";")] := by
    decide +kernel
  have noComments : ∀ line ∈ lines "; use 'a;\\'b';; list\nc;".toList, isComment line = false := by
    decide +kernel
  cases tokenized : tokenize "; use 'a;\\'b';; list\nc;" with
  | error failure =>
    rw [tokenized] at known
    cases known
  | ok tokens =>
    rw [tokenized] at known
    obtain ⟨lists, read, same, last⟩ := tokenize_statements noComments tokenized
    exact ⟨cut, lists, read, same.trans (Option.some.inj known), last⟩

end WideColumn.Token
