import WideColumn.Proofs.Codec.Ordering
import WideColumn.Proofs.Grammar.Exactness
import WideColumn.Proofs.Script.Tokens

/-!
# Numbers in statements

Four clauses have a number at their end: the amount that a counter changes by, upwards and downwards,
the time to live of a value, and the number of rows to list (`Grammar.NumberPlace`). The number is meant
to be written as digits, with a minus sign in front of them if it is negative. Reading takes single
underscores between digits too, and no more than 4300 digits; so a statement means what it is meant to
mean just if its number has no underscores and is not longer than that
(`Command.parse_number_iff`).
-/

namespace WideColumn

/-! ### Numerals with underscores -/

namespace Numeral

/-- Digits with at most one underscore between two of them, and the digits alone. -/
inductive Grouped : List Char → List Char → Prop
  | one {c : Char} (digit : c.isDigit = true) : Grouped [c] [c]
  | next {c : Char} {rest digits : List Char} (digit : c.isDigit = true)
      (grouped : Grouped rest digits) : Grouped (c :: rest) (c :: digits)
  | underscore {c : Char} {rest digits : List Char} (digit : c.isDigit = true)
      (grouped : Grouped rest digits) : Grouped (c :: '_' :: rest) (c :: digits)

/-- Whether a text is a numeral for a number if underscores between its digits are left out. -/
inductive DenotesGrouped : List Char → Int → Prop
  | natural {text digits : List Char} (grouped : Grouped text digits) :
    DenotesGrouped text (numberOf digits)
  | negative {text digits : List Char} (grouped : Grouped text digits) :
    DenotesGrouped ('-' :: text) (-(numberOf digits : Int))

/-- Whether a text has no more digits than are read. -/
def IsShort (text : List Char) : Prop :=
  text.countP Char.isDigit ≤ maxDigits

/-- Whether a text is read as a number though it is no numeral. -/
def Underscored (text : List Char) (value : Int) : Prop :=
  DenotesGrouped text value ∧ '_' ∈ text ∧ IsShort text

/-- Whether a text is a numeral that is not read. -/
def Overlong (text : List Char) (value : Int) : Prop :=
  Denotes text value ∧ ¬IsShort text

variable {c : Char} {text digits : List Char} {value : Int}

theorem Grouped.allDigits (grouped : Grouped text digits) : digits ≠ [] ∧ AllDigits digits := by
  induction grouped with
  | one digit => exact ⟨List.cons_ne_nil _ _, by simpa [AllDigits] using digit⟩
  | next digit _ ih => exact ⟨List.cons_ne_nil _ _, List.forall_mem_cons.2 ⟨digit, ih.2⟩⟩
  | underscore digit _ ih => exact ⟨List.cons_ne_nil _ _, List.forall_mem_cons.2 ⟨digit, ih.2⟩⟩

theorem Grouped.head (grouped : Grouped (c :: text) digits) : c.isDigit = true := by
  cases grouped with
  | one digit => exact digit
  | next digit _ => exact digit
  | underscore digit _ => exact digit

theorem Grouped.countP (grouped : Grouped text digits) :
    text.countP Char.isDigit = digits.length := by
  have underscore : Char.isDigit '_' = false := by decide
  induction grouped with
  | one digit => simp [digit]
  | next digit _ ih => simp [digit, ih]
  | underscore digit _ ih => simp [digit, underscore, ih]

/-- Without underscores a text is its digits. -/
theorem Grouped.eq (grouped : Grouped text digits) (plain : '_' ∉ text) : digits = text := by
  induction grouped with
  | one => rfl
  | next _ _ ih => rw [ih fun later => plain (List.mem_cons_of_mem _ later)]
  | underscore => exact absurd (by simp) plain

theorem grouped_of_allDigits (nonempty : digits ≠ []) (all : AllDigits digits) :
    Grouped digits digits := by
  induction digits with
  | nil => exact absurd rfl nonempty
  | cons c rest ih =>
    obtain ⟨digit, others⟩ := List.forall_mem_cons.1 all
    cases rest with
    | nil => exact .one digit
    | cons next more => exact .next digit (ih (List.cons_ne_nil _ _) others)

theorem not_mem_of_allDigits (all : AllDigits digits) : '_' ∉ digits := fun mem =>
  absurd (all '_' mem) (by decide)

/-- A numeral is a numeral with underscores that has none. -/
theorem denotes_iff_grouped :
    Denotes text value ↔ DenotesGrouped text value ∧ '_' ∉ text := by
  constructor
  · intro denotes
    cases denotes with
    | natural nonempty all =>
      exact ⟨.natural (grouped_of_allDigits nonempty all), not_mem_of_allDigits all⟩
    | negative nonempty all =>
      refine ⟨.negative (grouped_of_allDigits nonempty all), ?_⟩
      simpa using not_mem_of_allDigits all
  · rintro ⟨denotes, plain⟩
    cases denotes with
    | natural grouped =>
      obtain rfl := grouped.eq plain
      exact .natural grouped.allDigits.1 grouped.allDigits.2
    | negative grouped =>
      obtain rfl := grouped.eq fun later => plain (List.mem_cons_of_mem _ later)
      exact .negative grouped.allDigits.1 grouped.allDigits.2

/-! ### Reading words -/

/-- Of the characters of words only the ten digits are read as digits. -/
theorem decimalDigit?_of_isWordChar (word : Token.isWordChar c = true) {number : Nat} :
    Text.decimalDigit? c = some number ↔ c.isDigit = true ∧ number = digitValue c := by
  constructor
  · intro read
    obtain ⟨first, found, rfl⟩ := Option.map_eq_some_iff.1 read
    have ascii : c.toNat < 0x660 := by
      have range := Token.toNat_of_isWordChar word
      omega
    have within := List.find?_some found
    simp only [Bool.and_eq_true, decide_eq_true_eq] at within
    -- The next script with digits begins above all characters of words.
    have known : ∀ first ∈ Text.decimalZeros, first = 0x30 ∨ 0x660 ≤ first := by decide
    obtain rfl : first = 0x30 := by
      have choice := known first (List.mem_of_find?_eq_some found)
      omega
    refine ⟨Char.isDigit_iff_toNat.2 ⟨within.1, ?_⟩, rfl⟩
    exact Nat.le_of_lt_succ within.2
  · rintro ⟨digit, rfl⟩
    exact decimalDigit?_of_isDigit digit

theorem separated?_of_grouped (grouped : Grouped text digits) :
    separated? Text.decimalDigit? text = some (digits.map digitValue) := by
  induction grouped with
  | one digit => simp [separated?, decimalDigit?_of_isDigit digit, digitValue]
  | @next c rest digits digit grouped ih =>
    cases rest with
    | nil => cases grouped
    | cons next more =>
      have apart : next ≠ '_' := by
        rintro rfl
        exact absurd grouped.head (by decide)
      rw [separated?, decimalDigit?_of_isDigit digit]
      simp [ih, digitValue]
  | underscore digit grouped ih =>
    simp [separated?, decimalDigit?_of_isDigit digit, ih, digitValue]

theorem grouped_of_separated? : ∀ {text : List Char} {values : List Nat},
    (∀ c ∈ text, Token.isWordChar c = true) → separated? Text.decimalDigit? text = some values →
      ∃ digits, Grouped text digits ∧ values = digits.map digitValue
  | [], _, _, read => by cases read
  | c :: rest, values, word, read => by
    rw [separated?] at read
    obtain ⟨value, first, read⟩ := Option.bind_eq_some_iff.1 read
    obtain ⟨digit, rfl⟩ := (decimalDigit?_of_isWordChar (word c List.mem_cons_self)).1 first
    split at read
    · cases read
      exact ⟨[c], .one digit, rfl⟩
    · obtain ⟨others, later, same⟩ := Option.bind_eq_some_iff.1 read
      cases same
      obtain ⟨digits, grouped, rfl⟩ := grouped_of_separated?
        (fun other mem => word other (List.mem_cons_of_mem _ (List.mem_cons_of_mem _ mem))) later
      exact ⟨c :: digits, .underscore digit grouped, rfl⟩
    · obtain ⟨others, later, same⟩ := Option.bind_eq_some_iff.1 read
      cases same
      obtain ⟨digits, grouped, rfl⟩ := grouped_of_separated?
        (fun other mem => word other (List.mem_cons_of_mem _ mem)) later
      exact ⟨c :: digits, .next digit grouped, rfl⟩

/-- The digits of a word behind its sign are read if there are not too many. -/
theorem magnitude_of_word (word : ∀ c ∈ text, Token.isWordChar c = true) {number : Nat} :
    (do
      let values ← separated? Text.decimalDigit? text
      guard (values.length ≤ maxDigits)
      return ofDigits 10 values : Option Nat) = some number ↔
    ∃ digits, Grouped text digits ∧ IsShort text ∧ number = numberOf digits := by
  constructor
  · intro read
    obtain ⟨values, separated, read⟩ := Option.bind_eq_some_iff.1 read
    obtain ⟨few, same⟩ := guard_bind_eq_some.1 read
    obtain ⟨digits, grouped, rfl⟩ := grouped_of_separated? word separated
    rw [List.length_map, ← grouped.countP] at few
    exact ⟨digits, grouped, few, (Option.some.inj same).symm⟩
  · rintro ⟨digits, grouped, few, rfl⟩
    rw [separated?_of_grouped grouped]
    refine guard_bind_eq_some.2 ⟨?_, rfl⟩
    rw [List.length_map, ← grouped.countP]
    exact few

/-- Nothing but a minus sign is taken off a word before its digits are read. -/
theorem lenient?_of_word {magnitude? : List Char → Option Nat}
    (word : ∀ c ∈ text, Token.isWordChar c = true) :
    lenient? magnitude? text = some value ↔
      (∃ digits number, text = '-' :: digits ∧ magnitude? digits = some number ∧
        value = -(number : Int)) ∨
      (∀ digits, text ≠ '-' :: digits) ∧ ∃ number : Nat, magnitude? text = some number ∧
        value = number := by
  have noPadding : ∀ c ∈ text, isPadding c = false := by
    intro c mem
    have noBlank : Text.isBlank c = false := Bool.eq_false_iff.2 fun blank =>
      absurd (word c mem) (by simp [Token.not_isWordChar_of_isBlank blank])
    rw [isPadding, noBlank, Bool.false_and]
  rw [lenient?, Text.trimWhile_of_none noPadding]
  split
  · rename_i digits
    constructor
    · intro read
      obtain ⟨_, lifted, rfl⟩ := Option.map_eq_some_iff.1 read
      obtain ⟨number, found, same⟩ := Option.bind_eq_some_iff.1 lifted
      cases same
      exact .inl ⟨digits, number, rfl, found, rfl⟩
    · rintro (⟨_, number, same, found, rfl⟩ | ⟨unsigned, -⟩)
      · cases same
        rw [found]
        rfl
      · exact absurd rfl (unsigned digits)
  · exact absurd (word '+' List.mem_cons_self) (by decide)
  · rename_i unsigned _
    rw [Option.map_eq_some_iff]
    constructor
    · rintro ⟨number, found, rfl⟩
      exact .inr ⟨unsigned, number, found, rfl⟩
    · rintro (⟨digits, number, same, -⟩ | ⟨-, number, found, rfl⟩)
      · exact absurd same (unsigned digits)
      · exact ⟨number, found, rfl⟩

/-- A word is read just if it has few enough digits and is a numeral but for underscores. -/
theorem decimal?_of_word (word : ∀ c ∈ text, Token.isWordChar c = true) :
    decimal? text = some value ↔ DenotesGrouped text value ∧ IsShort text := by
  have minus (digits : List Char) : IsShort ('-' :: digits) ↔ IsShort digits := by
    rw [IsShort, List.countP_cons_of_neg (by decide)]
    rfl
  rw [decimal?, lenient?_of_word word]
  constructor
  · rintro (⟨digits, number, rfl, read, rfl⟩ | ⟨-, number, read, rfl⟩)
    · obtain ⟨_, grouped, few, rfl⟩ := (magnitude_of_word
        fun c mem => word c (List.mem_cons_of_mem _ mem)).1 read
      exact ⟨.negative grouped, (minus digits).2 few⟩
    · obtain ⟨_, grouped, few, rfl⟩ := (magnitude_of_word word).1 read
      exact ⟨.natural grouped, few⟩
  · rintro ⟨denotes, few⟩
    cases denotes with
    | natural grouped =>
      refine .inr ⟨?_, _, (magnitude_of_word word).2 ⟨_, grouped, few, rfl⟩, rfl⟩
      rintro digits rfl
      exact absurd grouped.head (by decide)
    | @negative text digits grouped =>
      have read := (magnitude_of_word fun c mem => word c (List.mem_cons_of_mem _ mem)).2
        ⟨digits, grouped, (minus text).1 few, rfl⟩
      exact .inl ⟨text, _, rfl, read, rfl⟩

end Numeral

/-! ### Words of a text -/

namespace Token

theorem Lexes.fits {text : List Char} {lexemes : List Lexeme} (lexes : Lexes text lexemes) :
    ∀ lexeme ∈ lexemes, ∃ rest, Fits lexeme.1 lexeme.2 rest := by
  induction lexes with
  | done => exact nofun
  | gap _ _ ih => exact ih
  | token fits _ ih => exact List.forall_mem_cons.2 ⟨⟨_, fits⟩, ih⟩

/-- A token that can stand for a word is made of the characters of words. -/
theorem isWordChar_of_tokenize {text : String} {tokens : List Token}
    (tokenized : tokenize text = .ok tokens) {token : Token} (mem : token ∈ tokens)
    (isWord : token.isWord = true) : ∀ c ∈ token.value.toList, isWordChar c = true := by
  obtain ⟨kind, lexeme, position⟩ := token
  obtain ⟨rest, fits⟩ := (lexes_of_tokenize tokenized).fits _ (List.mem_map_of_mem mem)
  simp only [lexemeOf] at fits
  cases fits with
  | quoted => cases isWord
  | mark => cases isWord
  | word _ word _ =>
    have value : Token.value ⟨wordKind lexeme, lexeme, position⟩ = String.ofList lexeme := by
      unfold wordKind
      split <;> rfl
    rw [value, String.toList_ofList]
    exact List.all_eq_true.1 word

end Token

/-! ### Clauses that end with a number -/

namespace Grammar

/-- An address with no more columns than an address may have. -/
structure Target where
  tree : ColumnRef
  address : Address
  value_eq : tree.value = .ok address

/-- What stands in front of a number in a statement. -/
inductive NumberPlace where
  | increase (lead : Reserved .incr) (target : Target) (link : Reserved .by)
  | decrease (lead : Reserved .decr) (target : Target) (link : Reserved .by)
  | timeToLive (lead : Reserved .set) (target : Target) (equal : Sign .equal) (content : Literal)
      (link : Reserved .with) (name : Word) (named : Text.lowered name.value = "ttl")
      (sign : Sign .equal)
  | limit (lead : Reserved .list) (family : Word) (range : RangeClause) (link : Reserved .limit)

namespace NumberPlace

/-- The command with a word in the place. -/
def fill : NumberPlace → Word → Command
  | increase lead target link, word => .incr lead target.tree (.given link word)
  | decrease lead target link, word => .decr lead target.tree (.given link word)
  | timeToLive lead target equal content link name _ sign, word =>
    .set lead target.tree equal content (.given link name sign word)
  | limit lead family range link, word => .list lead family range (.given link word)

/-- The statement with a word in the place, and perhaps a semicolon behind it. -/
def statement (place : NumberPlace) (word : Word) : Option (Sign .semicolon) → Statement
  | some semicolon => .closed (place.fill word) semicolon
  | none => .bare (place.fill word)

/-- The command that a number in the place makes. -/
def command : NumberPlace → Int → WideColumn.Command
  | increase _ target _, amount => .incr target.address amount
  | decrease _ target _, amount => .decr target.address amount
  | timeToLive _ target _ content _ _ _ _, seconds => .set target.address content.value (some seconds)
  | limit _ family range _, count =>
    .list family.value range.value.1 range.value.2 (some count)

/-- What the number is for, as a failure calls it. -/
def purpose : NumberPlace → String
  | increase .. => "by"
  | decrease .. => "by"
  | timeToLive .. => "ttl"
  | limit .. => "limit"

/-- The numbers that the place is for. -/
def Allows : NumberPlace → Int → Prop
  | limit .., count => 0 < count
  | _, _ => True

instance (place : NumberPlace) (value : Int) : Decidable (place.Allows value) :=
  match place with
  | limit .. => inferInstanceAs (Decidable (0 < value))
  | increase .. | decrease .. | timeToLive .. => inferInstanceAs (Decidable True)

variable (place : NumberPlace) (word : Word)

/-- What a statement is worth is decided by the number in the place. -/
theorem value_fill : (place.fill word).value = (do
    let value ← Parser.integer place.purpose word.value
    if place.Allows value then return place.command value
    else throw (.limitNotPositive value word.value)) := by
  cases place with
  | increase lead target link =>
    simp only [fill, Command.value, target.value_eq, ByClause.value, purpose, command, Allows]
    rfl
  | decrease lead target link =>
    simp only [fill, Command.value, target.value_eq, ByClause.value, purpose, command, Allows]
    rfl
  | timeToLive lead target equal content link name named sign =>
    simp only [fill, Command.value, target.value_eq, TtlClause.value, purpose, command, Allows, named]
    cases Parser.integer "ttl" word.value <;> rfl
  | limit lead family range link =>
    simp only [fill, Command.value, LimitClause.value, purpose, command, Allows]
    cases Parser.integer "limit" word.value with
    | error cause => rfl
    | ok count =>
      by_cases positive : 0 < count
      · simp only [bind, Except.bind, positive, if_neg (Int.not_le.2 positive), if_pos]
        rfl
      · simp only [bind, Except.bind, positive, if_pos (Int.not_lt.1 positive), if_false]
        rfl

end NumberPlace

end Grammar

namespace Command

open Grammar

/-- A text with the tokens of a derivation states what the derivation is worth. -/
theorem parse_yield {text : String} {tree : Statement}
    (tokenized : Token.tokenize text = .ok tree.yield) :
    parse text = tree.value.mapError .parse := by
  have read : Token.read text.toList = tree.yield := by
    rw [Token.tokenize] at tokenized
    split at tokenized
    · cases tokenized
    · exact Except.ok.inj tokenized
  have nonempty : ¬isEmptyText text.toList = true := fun empty =>
    not_statement_of_isEmptyText empty tree read.symm
  rw [parse, if_neg nonempty, read, ofTokens, statement_yield]
  cases tree.value <;> rfl

variable {place : NumberPlace} {word : Word} {semicolon : Option (Sign .semicolon)} {text : String}

theorem parse_statement (tokenized : Token.tokenize text = .ok (place.statement word semicolon).yield) :
    parse text = (place.fill word).value.mapError .parse := by
  rw [parse_yield tokenized]
  cases semicolon <;> rfl

theorem isWordChar_of_statement
    (tokenized : Token.tokenize text = .ok (place.statement word semicolon).yield) :
    ∀ c ∈ word.value.toList, Token.isWordChar c = true := by
  have mem : word.token ∈ (place.statement word semicolon).yield := by
    cases semicolon <;> cases place <;>
      simp [NumberPlace.statement, NumberPlace.fill, Statement.yield, Command.yield, ByClause.yield,
        TtlClause.yield, LimitClause.yield, Word.yield]
  exact Token.isWordChar_of_tokenize tokenized mem word.isWord_token

/-- The statement is read if its word is a numeral but for underscores, short enough, for a number
that the place is for. -/
theorem parse_statement_eq_ok
    (tokenized : Token.tokenize text = .ok (place.statement word semicolon).yield)
    {command : WideColumn.Command} :
    parse text = .ok command ↔
      ∃ value, Numeral.DenotesGrouped word.value.toList value ∧ Numeral.IsShort word.value.toList ∧
        place.Allows value ∧ command = place.command value := by
  have read {value : Int} := @Numeral.decimal?_of_word _ value (isWordChar_of_statement tokenized)
  rw [parse_statement tokenized, NumberPlace.value_fill, Parser.integer]
  constructor
  · intro parsed
    cases found : Numeral.decimal? word.value.toList with
    | none =>
      rw [found] at parsed
      cases parsed
    | some value =>
      obtain ⟨denotes, short⟩ := read.1 found
      simp only [found, bind, Except.bind] at parsed
      split at parsed
      · rename_i allowed
        cases parsed
        exact ⟨value, denotes, short, allowed, rfl⟩
      · cases parsed
  · rintro ⟨value, denotes, short, allowed, rfl⟩
    rw [read.2 ⟨denotes, short⟩]
    simp only [bind, Except.bind, if_pos allowed]
    rfl

/-- Whatever is wrong with the statement is the word. -/
theorem parse_statement_error
    (tokenized : Token.tokenize text = .ok (place.statement word semicolon).yield)
    {failure : Failure} (failed : parse text = .error failure) :
    ∃ cause, failure = .parse cause ∧ cause.fragment = word.value := by
  rw [parse_statement tokenized, NumberPlace.value_fill, Parser.integer] at failed
  split at failed
  · simp only [bind, Except.bind] at failed
    split at failed
    · cases failed
    · cases failed
      exact ⟨_, rfl, rfl⟩
  · cases failed
    exact ⟨_, rfl, rfl⟩

/-- A statement that ends with a number states the command of the number that its last word is a numeral
for, and nothing if there is none or the place is not for it, if and only if the word is not a numeral
but for underscores, and no numeral that is too long, for a number that the place is for. It is refused
because of the word only. -/
theorem parse_number_iff (place : NumberPlace) (word : Word) (semicolon : Option (Sign .semicolon))
    (text : String)
    (tokenized : Token.tokenize text = .ok (place.statement word semicolon).yield) :
    ((∀ command, parse text = .ok command ↔
        ∃ value, Numeral.Denotes word.value.toList value ∧ place.Allows value ∧
          command = place.command value) ↔
      ¬∃ value, place.Allows value ∧ (Numeral.Underscored word.value.toList value ∨
        Numeral.Overlong word.value.toList value)) ∧
    (∀ command, parse text = .ok command ↔
      ∃ value, Numeral.DenotesGrouped word.value.toList value ∧ Numeral.IsShort word.value.toList ∧
        place.Allows value ∧ command = place.command value) ∧
    ∀ failure, parse text = .error failure →
      ∃ cause, failure = .parse cause ∧ cause.fragment = word.value := by
  refine ⟨?_, fun command => parse_statement_eq_ok tokenized,
    fun failure => parse_statement_error tokenized⟩
  simp only [parse_statement_eq_ok tokenized]
  constructor
  · rintro agree ⟨value, allowed, ⟨denotes, underscore, short⟩ | ⟨denotes, long⟩⟩
    · obtain ⟨_, plain, -⟩ := (agree _).1 ⟨value, denotes, short, allowed, rfl⟩
      exact (Numeral.denotes_iff_grouped.1 plain).2 underscore
    · obtain ⟨_, -, short, -⟩ := (agree _).2 ⟨value, denotes, allowed, rfl⟩
      exact long short
  · intro none command
    constructor
    · rintro ⟨value, denotes, short, allowed, rfl⟩
      have plain : '_' ∉ word.value.toList := fun underscore =>
        none ⟨value, allowed, .inl ⟨denotes, underscore, short⟩⟩
      exact ⟨value, Numeral.denotes_iff_grouped.2 ⟨denotes, plain⟩, allowed, rfl⟩
    · rintro ⟨value, denotes, allowed, rfl⟩
      have short : Numeral.IsShort word.value.toList := by
        by_contra long
        exact none ⟨value, allowed, .inr ⟨denotes, long⟩⟩
      exact ⟨value, (Numeral.denotes_iff_grouped.1 denotes).1, short, allowed, rfl⟩

/-- The statement `decr C[k][c] by -12` asks for a counter to be changed by minus twelve downwards. -/
theorem parse_decr_negative :
    ∃ (place : NumberPlace) (word : Word),
      Token.tokenize "decr C[k][c] by -12" = .ok (place.statement word none).yield ∧
      word.value = "-12" ∧
      parse "decr C[k][c] by -12" = .ok (.decr ⟨"C", .plain "k", .one (.plain "c")⟩ (-12)) := by
  let name (c : Char) (position : Nat) : Word := .plain ⟨⟨.word, [c], position⟩, rfl⟩
  let bracketed (c : Char) (position : Nat) : Bracketed :=
    ⟨⟨⟨.mark .openBracket, ['['], position⟩, rfl⟩, .word (name c (position + 1)),
      ⟨⟨.mark .closeBracket, [']'], position + 2⟩, rfl⟩⟩
  let target : Target :=
    ⟨⟨name 'C' 5, .multiple (.single (bracketed 'k' 6)) () (bracketed 'c' 9)⟩, _, rfl⟩
  let place : NumberPlace := .decrease ⟨⟨.keyword .decr, "decr".toList, 0⟩, rfl⟩ target
    ⟨⟨.keyword .by, "by".toList, 13⟩, rfl⟩
  let word : Word := .plain ⟨⟨.word, ['-', '1', '2'], 16⟩, rfl⟩
  have tokenized : Token.tokenize "decr C[k][c] by -12" = .ok (place.statement word none).yield := by
    decide +kernel
  have grouped : Numeral.Grouped ['1', '2'] ['1', '2'] := .next (by decide) (.one (by decide))
  have short : Numeral.IsShort ['-', '1', '2'] := by
    unfold Numeral.IsShort
    decide
  have spelled : word.value.toList = ['-', '1', '2'] := String.toList_ofList
  exact ⟨place, word, tokenized, rfl, ((parse_number_iff place word none _ tokenized).2.1 _).2
    ⟨-12, spelled ▸ .negative grouped, spelled ▸ short, trivial, rfl⟩⟩

/-- An amount with an underscore in it is read, though it is no numeral. -/
theorem parse_incr_underscored :
    parse "incr C[k][c] by 1_0" = .ok (.incr ⟨"C", .plain "k", .one (.plain "c")⟩ 10) ∧
      ¬∃ value, Numeral.Denotes "1_0".toList value := by
  refine ⟨by decide +kernel, ?_⟩
  rintro ⟨value, denotes⟩
  have unread : Numeral.strict? "1_0".toList = none := by decide
  rw [Numeral.denotes_iff.1 denotes] at unread
  cases unread

end Command

end WideColumn
