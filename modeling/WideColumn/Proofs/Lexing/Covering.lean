import WideColumn.Proofs.Script.Tokens

/-!
# Every character of a text is accounted for

Tokens and the gaps between them make up a text without overlap (`Covers`), and what each token is can
be said without the rules that find it (`Between`): a string, a word as long as it can be, or a mark.
Where a text cannot be read to its end, its tokens cover it up to the first place that is no gap and
that no token starts at. The induction is on the places where reading stops for a moment; what carries
it is that no word goes on across such a place.
-/

namespace WideColumn.Token

open Text

/-! ### What a token can be -/

/-- A quote, and all that follows up to and with the first quote of its sort that is not escaped. -/
def IsString (lexeme : List Char) : Prop :=
  ∃ quote body, (quote = '\'' ∨ quote = '"') ∧ Closes quote body ∧ lexeme = quote :: body

/-- Whether no word goes on from one text into the next. -/
def Apart (before after : List Char) : Prop :=
  before.getLast?.all (!isWordChar ·) = true ∨ after.head?.all (!isWordChar ·) = true

/-- Characters of words, with no more of them in front or behind. -/
structure IsRun (before lexeme after : List Char) : Prop where
  nonempty : lexeme ≠ []
  word : lexeme.all isWordChar = true
  starts : before.getLast?.all (!isWordChar ·) = true
  ends : after.head?.all (!isWordChar ·) = true

/-- What a token is between the text in front of it and the text behind it. -/
def Between (before : List Char) (token : Token) (after : List Char) : Prop :=
  match token.kind with
  | .quoted => IsString token.lexeme
  | .word => IsRun before token.lexeme after ∧ token.value = String.ofList token.lexeme ∧
      ∀ keyword : Keyword, sameIgnoringCase token.value keyword.spelling = false
  | .keyword keyword => IsRun before token.lexeme after ∧
      token.value = String.ofList token.lexeme ∧
      sameIgnoringCase token.value keyword.spelling = true
  | .mark mark => token.lexeme = mark.spelling ∧
      (mark = .greater ∨ mark = .less → after.head? ≠ some '=')
  | .unreadable => False

/-- Whether characters are a token if they stand alone. -/
def IsLexeme (lexeme : List Char) : Prop :=
  IsString lexeme ∨ (lexeme ≠ [] ∧ lexeme.all isWordChar = true) ∨
    ∃ mark : Mark, lexeme = mark.spelling

/-- How a text behind another one is made of tokens and the gaps between them, up to a rest. Each token
has the number of characters in front of it as its position. -/
inductive Covers (rest : List Char) : (before : List Char) → List Token → List Char → Prop
  | done {before : List Char} (gap : List Char) (blank : gap.all isGap = true) :
      Covers rest before [] (gap ++ rest)
  | token {before : List Char} (gap : List Char) {after : List Char} {token : Token}
      {tokens : List Token} (blank : gap.all isGap = true)
      (stands : token.position = (before ++ gap).length)
      (between : Between (before ++ gap) token after)
      (covers : Covers rest (before ++ gap ++ token.lexeme) tokens after) :
      Covers rest before (token :: tokens) (gap ++ (token.lexeme ++ after))

variable {before text lexeme after rest : List Char} {kind : Kind} {token : Token}
  {tokens : List Token}

/-! ### Single tokens -/

/-- The keyword that a word is, if it is one, is the only one that it equals in some letter case. -/
theorem ofWord?_eq_some_iff (word : lexeme.all isWordChar = true) {keyword : Keyword} :
    Keyword.ofWord? lexeme = some keyword ↔
      sameIgnoringCase (String.ofList lexeme) keyword.spelling = true := by
  have ascii : ∀ c ∈ lexeme, c.toNat < 0x80 := fun c mem =>
    Printing.toNat_lt_of_isWordChar (List.all_eq_true.1 word c mem)
  have small : ∀ keyword : Keyword, lowered keyword.spelling = keyword.spelling := fun keyword => by
    cases keyword <;> decide +kernel
  rw [sameIgnoringCase, beq_iff_eq, small, lowered, String.toList_ofList,
    Printing.lower_of_ascii ascii]
  constructor
  · intro found
    have spelled := List.find?_some (p := fun keyword : Keyword =>
      keyword.spelling == String.ofList (lexeme.map Char.toLower)) found
    exact (beq_iff_eq.1 spelled).symm
  · intro same
    exact Printing.ofWord?_of_spelled (by rw [← same, String.toList_ofList])

theorem IsRun.between (run : IsRun before lexeme after) (position : Nat) :
    Between before ⟨wordKind lexeme, lexeme, position⟩ after := by
  have value := (Printing.value_wordKind lexeme position).2
  cases found : Keyword.ofWord? lexeme with
  | none =>
    have kind : wordKind lexeme = .word := by rw [wordKind, found]
    rw [kind] at value ⊢
    refine ⟨run, value, fun keyword => Bool.eq_false_iff.2 fun same => ?_⟩
    rw [value, ← ofWord?_eq_some_iff run.word, found] at same
    cases same
  | some keyword =>
    have kind : wordKind lexeme = .keyword keyword := by rw [wordKind, found]
    rw [kind] at value ⊢
    refine ⟨run, value, ?_⟩
    rw [value]
    exact (ofWord?_eq_some_iff run.word).1 found

/-- A word that fits in front of a text is as long as it can be on both sides. -/
theorem isRun_of_apart (apart : Apart before (lexeme ++ after)) (nonempty : lexeme ≠ [])
    (word : lexeme.all isWordChar = true) (ends : after.head?.all (!isWordChar ·) = true) :
    IsRun before lexeme after := by
  refine ⟨nonempty, word, apart.resolve_right fun other => ?_, ends⟩
  obtain ⟨c, others, rfl⟩ := List.exists_cons_of_ne_nil nonempty
  have isWord := List.all_eq_true.1 word c List.mem_cons_self
  simp [isWord] at other

theorem Fits.between (fits : Fits kind lexeme after) (apart : Apart before (lexeme ++ after))
    (position : Nat) : Between before ⟨kind, lexeme, position⟩ after := by
  cases fits with
  | @quoted quote body _ mark closes => exact ⟨quote, body, mark, closes, rfl⟩
  | word nonempty word ends => exact (isRun_of_apart apart nonempty word ends).between position
  | mark sign ends =>
    refine ⟨rfl, ?_⟩
    rintro (rfl | rfl) <;> exact ends

/-- No word goes on behind what fits in front of a text. -/
theorem Fits.apart (fits : Fits kind lexeme after) (before : List Char) :
    Apart (before ++ lexeme) after := by
  cases fits with
  | @quoted quote body _ mark closes =>
    obtain ⟨front, rfl⟩ := closes.exists_concat
    have last : (before ++ quote :: (front ++ [quote])).getLast? = some quote := by
      rw [← List.cons_append, ← List.append_assoc, List.getLast?_concat]
    refine .inl ?_
    rw [last]
    rcases mark with rfl | rfl <;> decide
  | word nonempty word ends => exact .inr ends
  | mark sign ends =>
    refine .inl ?_
    rw [List.getLast?_append]
    cases sign <;> rfl

/-- What a token is between two texts is what fits in front of the second one. -/
theorem Between.fits (between : Between before token after) :
    Fits token.kind token.lexeme after := by
  obtain ⟨kind, lexeme, position⟩ := token
  cases kind with
  | quoted =>
    obtain ⟨quote, body, mark, closes, rfl⟩ := between
    exact .quoted mark closes
  | word =>
    obtain ⟨run, value, other⟩ := between
    have kind : wordKind lexeme = .word := by
      cases found : Keyword.ofWord? lexeme with
      | none => rw [wordKind, found]
      | some keyword =>
        have same := (ofWord?_eq_some_iff run.word).1 found
        rw [← value, other keyword] at same
        cases same
    exact kind ▸ .word run.nonempty run.word run.ends
  | keyword keyword =>
    obtain ⟨run, value, same⟩ := between
    have kind : wordKind lexeme = .keyword keyword := by
      rw [wordKind, (ofWord?_eq_some_iff run.word).2 (value ▸ same)]
    exact kind ▸ .word run.nonempty run.word run.ends
  | mark sign =>
    obtain ⟨rfl, ends⟩ := between
    refine .mark sign ?_
    cases sign
    case greater => exact ends (.inl rfl)
    case less => exact ends (.inr rfl)
    all_goals trivial
  | unreadable => exact between.elim

theorem Between.ne_nil (between : Between before token after) : token.lexeme ≠ [] := by
  unfold Between at between
  split at between
  · obtain ⟨quote, body, -, -, same⟩ := between
    exact same ▸ List.cons_ne_nil quote body
  · exact between.1.nonempty
  · exact between.1.nonempty
  · rename_i mark _
    rw [between.1]
    cases mark <;> exact List.cons_ne_nil _ _
  · exact between.elim

theorem Between.readable (between : Between before token after) : token.kind ≠ .unreadable := by
  intro unreadable
  unfold Between at between
  rw [unreadable] at between
  exact between

/-- What is a token if it stands alone is the start of a token in front of any text. -/
theorem exists_start (isLexeme : IsLexeme lexeme) (after : List Char) :
    startOf? (lexeme ++ after) ≠ none := by
  have starts {kind : Kind} {first rest : List Char} (fits : Fits kind first rest)
      (same : lexeme ++ after = first ++ rest) : startOf? (lexeme ++ after) ≠ none := by
    rw [startOf?_iff.2 ⟨same, fits⟩]
    exact Option.some_ne_none _
  rcases isLexeme with ⟨quote, body, mark, closes, rfl⟩ | ⟨nonempty, word⟩ | ⟨mark, rfl⟩
  · exact starts (.quoted mark closes) rfl
  · -- The word may go on in the text behind it.
    obtain ⟨more, rest, run, ends, rfl⟩ : ∃ more rest, more.all isWordChar = true ∧
        rest.head?.all (!isWordChar ·) = true ∧ after = more ++ rest := by
      refine ⟨after.takeWhile isWordChar, after.dropWhile isWordChar, List.all_takeWhile, ?_,
        List.takeWhile_append_dropWhile.symm⟩
      have stops := List.head?_dropWhile_not isWordChar after
      cases next : (after.dropWhile isWordChar).head? with
      | none => rfl
      | some c => simpa [next] using stops
    refine starts (show Fits (wordKind (lexeme ++ more)) _ rest from .word ?_ ?_ ends)
      (List.append_assoc ..).symm
    · exact fun empty => nonempty (List.append_eq_nil_iff.1 empty).1
    · rw [List.all_append, word, run]
      rfl
  · by_cases ends : (Printing.Piece.mark mark).EndsBefore after
    · exact starts (.mark mark ends) rfl
    · -- An angle is the first half of a longer mark then.
      cases mark
      case greater =>
        obtain ⟨rest, rfl⟩ := List.head?_eq_some_iff.1 (Classical.not_not.1 ends)
        exact starts (.mark .greaterEqual trivial) rfl
      case less =>
        obtain ⟨rest, rfl⟩ := List.head?_eq_some_iff.1 (Classical.not_not.1 ends)
        exact starts (.mark .lessEqual trivial) rfl
      all_goals exact absurd trivial ends

/-! ### Whole texts -/

theorem Covers.gap {c : Char} (gap : isGap c = true) (covers : Covers rest (before ++ [c]) tokens text) :
    Covers rest before tokens (c :: text) := by
  have longer {others : List Char} (blank : others.all isGap = true) :
      (c :: others).all isGap = true := by
    rw [List.all_cons, gap, blank]
    rfl
  cases covers with
  | @done _ others blank => exact .done (c :: others) (longer blank)
  | @token _ others after token tokens blank stands between covers =>
    have shift : before ++ [c] ++ others = before ++ c :: others := by
      rw [List.append_assoc, List.singleton_append]
    rw [shift] at stands between covers
    exact .token (c :: others) (longer blank) stands between covers

theorem Covers.readable (covers : Covers rest before tokens text) :
    ∀ token ∈ tokens, token.kind ≠ .unreadable := by
  induction covers with
  | done => exact nofun
  | token _ _ _ between _ ih => exact List.forall_mem_cons.2 ⟨between.readable, ih⟩

theorem Covers.position_le (covers : Covers rest before tokens text) :
    ∀ token ∈ tokens, before.length ≤ token.position := by
  induction covers with
  | done => exact nofun
  | token _ _ stands _ _ ih =>
    simp only [List.length_append] at stands ih
    exact List.forall_mem_cons.2 ⟨by omega, fun token mem => by have := ih token mem; omega⟩

/-- Tokens that cover a text stand one behind the other. -/
theorem Covers.increasing (covers : Covers rest before tokens text) :
    tokens.Pairwise (·.position < ·.position) := by
  induction covers with
  | done => exact .nil
  | @token _ _ _ token _ _ stands between covers ih =>
    refine .cons (fun other mem => ?_) ih
    have behind := covers.position_le other mem
    have positive := List.length_pos_iff.2 between.ne_nil
    simp only [List.length_append] at stands behind
    omega

/-- A text that reading cannot go on in: neither a gap nor a token starts it. -/
def Stuck (text : List Char) : Prop :=
  ∃ c rest, text = c :: rest ∧ isGap c = false ∧ startOf? text = none

/-- Tokens and gaps cover a text up to its end, or up to where reading is stuck. -/
theorem exists_covers (before text : List Char) (apart : Apart before text) :
    ∃ tokens rest, Covers rest before tokens text ∧ (rest = [] ∨ Stuck rest) := by
  induction sized : text.length using Nat.strong_induction_on generalizing before text with
  | _ size ih =>
    cases text with
    | nil => exact ⟨[], [], .done [] rfl, .inl rfl⟩
    | cons c more =>
      cases gap : isGap c with
      | true =>
        have next : Apart (before ++ [c]) more := by
          refine .inl ?_
          rw [List.getLast?_concat, Option.all_some,
            not_isWordChar_of_isBlank (isBlank_of_isGap gap)]
          rfl
        obtain ⟨tokens, rest, covers, ends⟩ := ih more.length (sized ▸ Nat.lt_add_one _) _ _ next rfl
        exact ⟨tokens, rest, covers.gap gap, ends⟩
      | false =>
        cases start : startOf? (c :: more) with
        | none => exact ⟨[], c :: more, .done [] rfl, .inr ⟨c, more, rfl, gap, start⟩⟩
        | some found =>
          obtain ⟨kind, lexeme, after⟩ := found
          obtain ⟨same, fits⟩ := startOf?_iff.1 start
          rw [same] at apart sized ⊢
          have shorter : after.length < size := by
            have positive := List.length_pos_iff.2 fits.ne_nil
            rw [List.length_append] at sized
            omega
          obtain ⟨tokens, rest, covers, ends⟩ := ih after.length shorter _ _ (fits.apart before) rfl
          refine ⟨⟨kind, lexeme, before.length⟩ :: tokens, rest, ?_, ends⟩
          refine .token [] rfl ?_ ?_ ?_
          · rw [List.append_nil]
          · rw [List.append_nil]
            exact fits.between apart _
          · rw [List.append_nil]
            exact covers

/-- What is left of a text, as the token that ends a list of tokens. -/
def leftover (position : Nat) : List Char → List Token
  | [] => []
  | text => [⟨.unreadable, text, position⟩]

theorem readFrom_of_ends (ends : rest = [] ∨ Stuck rest) {fuel : Nat} (enough : rest.length ≤ fuel)
    (position : Nat) : readFrom fuel position rest = leftover position rest := by
  rcases ends with rfl | ⟨c, more, rfl, noGap, start⟩
  · cases fuel <;> rfl
  · cases fuel with
    | zero => cases enough
    | succ fuel =>
      rw [readFrom, noGap, start]
      rfl

/-- Tokens that cover a text, up to its end or to where reading is stuck, are what is read of it. -/
theorem Covers.readFrom (covers : Covers rest before tokens text) (ends : rest = [] ∨ Stuck rest)
    {fuel : Nat} (enough : text.length ≤ fuel) : ∃ covered, text = covered ++ rest ∧
      readFrom fuel before.length text = tokens ++ leftover (before ++ covered).length rest := by
  induction covers generalizing fuel with
  | @done before gap blank =>
    obtain ⟨left, most, same⟩ := Printing.readFrom_gap blank rest fuel before.length enough
    refine ⟨gap, rfl, ?_⟩
    rw [same, readFrom_of_ends ends most, List.length_append]
    rfl
  | @token before gap after token tokens blank stands between covers ih =>
    obtain ⟨left, most, same⟩ :=
      Printing.readFrom_gap blank (token.lexeme ++ after) fuel before.length enough
    have start := startOf?_iff.2 ⟨rfl, between.fits⟩
    rw [same, ← List.length_append, ← stands]
    cases whole : token.lexeme ++ after with
    | nil => exact absurd (List.append_eq_nil_iff.1 whole).1 between.ne_nil
    | cons c more =>
      have noGap : ¬isGap c = true := by
        intro gap
        rw [whole, startOf?_of_isBlank (isBlank_of_isGap gap)] at start
        cases start
      cases left with
      | zero => exact absurd most (by rw [whole]; exact Nat.not_succ_le_zero _)
      | succ left =>
        have shorter : after.length ≤ left := by
          have positive := List.length_pos_iff.2 between.ne_nil
          rw [List.length_append] at most
          omega
        obtain ⟨covered, rfl, read⟩ := ih shorter
        rw [whole] at start
        rw [List.length_append, ← stands] at read
        simp only [List.append_assoc] at read
        refine ⟨gap ++ (token.lexeme ++ covered), ?_, ?_⟩
        · rw [← whole, List.append_assoc, List.append_assoc]
        · rw [Token.readFrom, if_neg noGap, start]
          exact congrArg (token :: ·) read

/-- Tokens that cover a text to its end are its tokens. -/
theorem Covers.tokenize {content : String} (covers : Covers [] [] tokens content.toList) :
    tokenize content = .ok tokens := by
  obtain ⟨covered, -, reading⟩ := covers.readFrom (.inl rfl) (Nat.le_refl content.toList.length)
  have whole : read content.toList = tokens := reading.trans (List.append_nil tokens)
  have readable : tokens.find? (·.kind == .unreadable) = none :=
    List.find?_eq_none.2 fun token mem unreadable =>
      covers.readable token mem (beq_iff_eq.1 unreadable)
  simp only [Token.tokenize, whole, readable]

/-- A text whose tokens cover it up to where reading is stuck cannot be read for what stands there. -/
theorem Covers.tokenize_stuck {content : String} (covers : Covers rest [] tokens content.toList)
    (stuck : Stuck rest) : ∃ covered, content.toList = covered ++ rest ∧
      Token.tokenize content = .error (.parse (unreadableFailure covered.length rest)) := by
  obtain ⟨covered, whole, reading⟩ :=
    covers.readFrom (.inr stuck) (Nat.le_refl content.toList.length)
  obtain ⟨c, more, rfl, -, -⟩ := stuck
  have reading : read content.toList = tokens ++ [⟨.unreadable, c :: more, covered.length⟩] :=
    reading
  have readable : tokens.find? (·.kind == .unreadable) = none :=
    List.find?_eq_none.2 fun token mem unreadable =>
      covers.readable token mem (beq_iff_eq.1 unreadable)
  refine ⟨covered, whole, ?_⟩
  simp only [Token.tokenize, reading, List.find?_append, readable]
  rfl

/-- The tokens of a text that can be read to its end cover it. -/
theorem covers_of_tokenize {content : String} (tokenized : Token.tokenize content = .ok tokens) :
    Covers [] [] tokens content.toList := by
  obtain ⟨found, rest, covers, rfl | stuck⟩ :=
    exists_covers [] content.toList (.inl rfl)
  · rw [covers.tokenize] at tokenized
    cases tokenized
    exact covers
  · obtain ⟨covered, -, failed⟩ := covers.tokenize_stuck stuck
    rw [failed] at tokenized
    cases tokenized

/-! ### Failures -/

/-- What a failure quotes of the text at which reading stopped. -/
def excerpt (text : List Char) : String :=
  String.ofList (text.take excerptLength)

/-- Whether a text that no token starts with is a string that is not closed depends on its first
character only. -/
theorem unreadableFailure_cons (position : Nat) (c : Char) (rest : List Char) :
    unreadableFailure position (c :: rest) =
      if c = '\'' ∨ c = '"' then .unterminatedString position (excerpt (c :: rest))
      else .illegalCharacter c position (excerpt (c :: rest)) := by
  by_cases single : c = '\''
  · rw [single]
    rfl
  by_cases double : c = '"'
  · rw [double]
    rfl
  simp [unreadableFailure, excerpt, single, double]

/-- Whether a failure says that a string is not closed. -/
def SaysUnterminated (failure : ParseFailure) : Prop :=
  "Unterminated string literal".toList <+: failure.message.toList

theorem saysUnterminated_unterminatedString (position : Nat) (rest : String) :
    SaysUnterminated (.unterminatedString position rest) := by
  have opening : "Unterminated string literal at position " =
      "Unterminated string literal" ++ " at position " := by
    decide +kernel
  have whole : (ParseFailure.unterminatedString position rest).message =
      "Unterminated string literal at position " ++ toString position ++ ": " ++ escaped rest :=
    rfl
  rw [SaysUnterminated, whole, opening, String.append_assoc, String.append_assoc,
    String.append_assoc, String.toList_append]
  exact List.prefix_append ..

theorem not_saysUnterminated_illegalCharacter (c : Char) (position : Nat) (rest : String) :
    ¬SaysUnterminated (.illegalCharacter c position rest) := by
  have whole : (ParseFailure.illegalCharacter c position rest).message =
      "Illegal character '" ++ String.ofList (escapeChar c) ++ "' at position " ++
        toString position :=
    rfl
  rintro ⟨more, same⟩
  have first := congrArg List.head? same
  rw [whole, String.append_assoc, String.append_assoc, String.toList_append,
    List.head?_append_of_ne_nil _ (by decide), List.head?_append_of_ne_nil _ (by decide)] at first
  exact absurd first (by decide)

/-- The tokens of a text and the gaps between them are the text; where it cannot be read to its end,
they are what stands in front of the first character that is no gap and that no token starts with. -/
theorem tokenize_covers (content : String) :
    match tokenize content with
    | .ok tokens => Covers [] [] tokens content.toList ∧ tokens.Pairwise (·.position < ·.position)
    | .error failure => ∃ tokens covered c rest, content.toList = covered ++ c :: rest ∧
        Covers (c :: rest) [] tokens content.toList ∧ tokens.Pairwise (·.position < ·.position) ∧
        isGap c = false ∧ (∀ lexeme, lexeme <+: c :: rest → ¬IsLexeme lexeme) ∧
        ∃ cause, failure = .parse cause ∧ (SaysUnterminated cause ↔ c = '\'' ∨ c = '"') ∧
          cause = if c = '\'' ∨ c = '"'
            then .unterminatedString covered.length (excerpt (c :: rest))
            else .illegalCharacter c covered.length (excerpt (c :: rest)) := by
  obtain ⟨tokens, rest, covers, rfl | stuck⟩ :=
    exists_covers [] content.toList (.inl rfl)
  · rw [covers.tokenize]
    exact ⟨covers, covers.increasing⟩
  · obtain ⟨covered, whole, failed⟩ := covers.tokenize_stuck stuck
    obtain ⟨c, more, rfl, noGap, start⟩ := stuck
    rw [failed]
    refine ⟨tokens, covered, c, more, whole, covers, covers.increasing, noGap, ?_, _, rfl, ?_,
      unreadableFailure_cons ..⟩
    · rintro lexeme ⟨after, same⟩ isLexeme
      exact exists_start isLexeme after (same ▸ start)
    · rw [unreadableFailure_cons]
      split
      · rename_i quote
        exact iff_of_true (saysUnterminated_unterminatedString ..) quote
      · rename_i plain
        exact iff_of_false (not_saysUnterminated_illegalCharacter c _ _) plain

end WideColumn.Token
