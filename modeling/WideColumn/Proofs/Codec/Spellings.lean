import WideColumn.Proofs.Codec.Ordering
import WideColumn.Proofs.Codec.Refusals

/-!
# The spellings of an identifier

An identifier is meant to be written as thirty-two hexadecimal digits with dashes between their groups
(`Uuid.Dashed`). Reading takes more: what is left of a text without dashes, braces and the words `urn:`
and `uuid:` has to be thirty-two characters that are a hexadecimal numeral with all that such a numeral
may have, blanks, a plus sign, the mark `0x`, underscores and the decimal digits of other scripts
(`Uuid.Lenient`, `Uuid.read?_eq_some_iff`). So a validator for identifiers takes just the texts that it
is meant to take if and only if no lenient spelling is brought that is not dashed
(`Validator.encode_uuid_iff`).
-/

namespace WideColumn

/-! ### Hexadecimal numerals -/

namespace Numeral

/-- Hexadecimal digits, the decimal ones from any script, with at most one underscore between two. -/
inductive Spaced : List Char → List Nat → Prop
  | one {c : Char} {value : Nat} (digit : hexDigit? c = some value) : Spaced [c] [value]
  | next {c : Char} {value : Nat} {rest : List Char} {values : List Nat}
      (digit : hexDigit? c = some value) (spaced : Spaced rest values) :
    Spaced (c :: rest) (value :: values)
  | underscore {c : Char} {value : Nat} {rest : List Char} {values : List Nat}
      (digit : hexDigit? c = some value) (spaced : Spaced rest values) :
    Spaced (c :: '_' :: rest) (value :: values)

/-- Digits that may have the mark `0x` in front of them, and an underscore behind the mark. -/
inductive Magnitude : List Char → List Nat → Prop
  | plain {text : List Char} {values : List Nat} (spaced : Spaced text values) :
    Magnitude text values
  | marked {zero mark : Char} {text : List Char} {values : List Nat}
      (isZero : Text.decimalDigit? zero = some 0) (isMark : mark = 'x' ∨ mark = 'X')
      (spaced : Spaced text values) : Magnitude (zero :: mark :: text) values
  | underscore {zero mark : Char} {text : List Char} {values : List Nat}
      (isZero : Text.decimalDigit? zero = some 0) (isMark : mark = 'x' ∨ mark = 'X')
      (spaced : Spaced text values) : Magnitude (zero :: mark :: '_' :: text) values

/-- A hexadecimal numeral without a minus sign, perhaps between blanks and with a plus sign. -/
def Spells (text : List Char) (values : List Nat) : Prop :=
  Magnitude (Text.trimWhile isPadding text) values ∨
    ∃ rest, Text.trimWhile isPadding text = '+' :: rest ∧ Magnitude rest values

variable {c : Char} {text : List Char} {value : Nat} {values : List Nat}

theorem hexDigit?_lt (digit : hexDigit? c = some value) : value < 16 := by
  rw [hexDigit?] at digit
  cases decimal : Text.decimalDigit? c with
  | none =>
    rw [decimal] at digit
    exact (Bytes.hexDigit_of_hexDigit? digit).1
  | some found =>
    rw [decimal] at digit
    cases digit
    exact Nat.lt_trans (Text.decimalDigit?_lt_ten decimal) (by decide)

/-- None of the marks is a digit. -/
theorem hexDigit?_mark (mark : c ∈ ['_', 'x', 'X', '+']) : hexDigit? c = none := by
  simp only [List.mem_cons, List.not_mem_nil, or_false] at mark
  obtain rfl | rfl | rfl | rfl := mark
  all_goals rfl

theorem not_mark_of_hexDigit? (digit : hexDigit? c = some value) : c ∉ ['_', 'x', 'X', '+'] := by
  intro mem
  rw [hexDigit?_mark mem] at digit
  cases digit

theorem Spaced.head (spaced : Spaced (c :: text) values) : ∃ value, hexDigit? c = some value := by
  cases spaced with
  | one digit => exact ⟨_, digit⟩
  | next digit _ => exact ⟨_, digit⟩
  | underscore digit _ => exact ⟨_, digit⟩

theorem spaced_of_separated? : ∀ {text : List Char} {values : List Nat},
    separated? hexDigit? text = some values → Spaced text values
  | [], _, read => by cases read
  | c :: rest, values, read => by
    rw [separated?] at read
    obtain ⟨value, digit, read⟩ := Option.bind_eq_some_iff.1 read
    split at read
    · cases read
      exact .one digit
    · obtain ⟨others, later, same⟩ := Option.bind_eq_some_iff.1 read
      cases same
      exact .underscore digit (spaced_of_separated? later)
    · obtain ⟨others, later, same⟩ := Option.bind_eq_some_iff.1 read
      cases same
      exact .next digit (spaced_of_separated? later)

/-- Digits that are read are spaced by underscores. -/
theorem separated?_eq_some : separated? hexDigit? text = some values ↔ Spaced text values := by
  refine ⟨spaced_of_separated?, fun spaced => ?_⟩
  induction spaced with
  | one digit => simp [separated?, digit]
  | @next c value rest values digit spaced ih =>
    cases rest with
    | nil => cases spaced
    | cons next more =>
      obtain ⟨_, second⟩ := spaced.head
      have apart : next ≠ '_' := by
        rintro rfl
        exact not_mark_of_hexDigit? second (by simp)
      rw [separated?, digit]
      simp [ih]
  | underscore digit spaced ih => simp [separated?, digit, ih]

/-- No mark stands where spaced digits have their second character. -/
theorem Spaced.second {first second : Char} {rest : List Char}
    (spaced : Spaced (first :: second :: rest) values) : second ≠ 'x' ∧ second ≠ 'X' := by
  cases spaced with
  | next _ spaced =>
    obtain ⟨_, digit⟩ := spaced.head
    have apart := not_mark_of_hexDigit? digit
    simp only [List.mem_cons, not_or] at apart
    exact ⟨apart.2.1, apart.2.2.1⟩
  | underscore _ _ => decide

/-- An underscore does not begin spaced digits. -/
theorem not_spaced_underscore (rest : List Char) : ¬Spaced ('_' :: rest) values := by
  intro spaced
  obtain ⟨_, digit⟩ := spaced.head
  exact not_mark_of_hexDigit? digit (by simp)

theorem separated?_dropHexMark :
    separated? hexDigit? (dropHexMark text) = some values ↔ Magnitude text values := by
  rw [separated?_eq_some]
  constructor
  · intro spaced
    unfold dropHexMark at spaced
    split at spaced
    · split at spaced
      · rename_i marks
        split at spaced
        · exact .underscore marks.1 marks.2 spaced
        · exact .marked marks.1 marks.2 spaced
      · exact .plain spaced
    · exact .plain spaced
  · intro magnitude
    cases magnitude with
    | plain spaced =>
      unfold dropHexMark
      split
      · rw [if_neg fun marks => marks.2.elim spaced.second.1 spaced.second.2]
        exact spaced
      · exact spaced
    | @marked zero mark rest values isZero isMark spaced =>
      unfold dropHexMark
      dsimp only
      rw [if_pos ⟨isZero, isMark⟩]
      split
      · exact absurd spaced (not_spaced_underscore _)
      · exact spaced
    | underscore isZero isMark spaced =>
      unfold dropHexMark
      dsimp only
      rwa [if_pos ⟨isZero, isMark⟩]

theorem Magnitude.head (magnitude : Magnitude (c :: text) values) :
    ∃ value, hexDigit? c = some value := by
  have digit (isZero : Text.decimalDigit? c = some 0) : ∃ value, hexDigit? c = some value :=
    ⟨0, by rw [hexDigit?, isZero]; rfl⟩
  cases magnitude with
  | plain spaced => exact spaced.head
  | marked isZero _ _ => exact digit isZero
  | underscore isZero _ _ => exact digit isZero

theorem trimWhile_sublist (drops : Char → Bool) (text : List Char) :
    (Text.trimWhile drops text).Sublist text := by
  have ends := (List.dropWhile_sublist (l := (text.dropWhile drops).reverse) drops).reverse
  rw [List.reverse_reverse] at ends
  exact ends.trans (List.dropWhile_sublist drops)

theorem magnitude_eq_some {number : Int} :
    ((separated? hexDigit? (dropHexMark text)).map (ofDigits 16)).map Int.ofNat = some number ↔
      ∃ values, Magnitude text values ∧ number = (ofDigits 16 values : Nat) := by
  simp only [Option.map_eq_some_iff, separated?_dropHexMark]
  constructor
  · rintro ⟨_, ⟨values, magnitude, rfl⟩, rfl⟩
    exact ⟨values, magnitude, rfl⟩
  · rintro ⟨values, magnitude, rfl⟩
    exact ⟨_, ⟨values, magnitude, rfl⟩, rfl⟩

/-- Without a minus sign, a hexadecimal numeral is read just if it spells digits, and it is the number
of these. -/
theorem hexadecimal?_eq_some (noMinus : '-' ∉ text) {number : Int} :
    hexadecimal? text = some number ↔
      ∃ values, Spells text values ∧ number = (ofDigits 16 values : Nat) := by
  have kept : '-' ∉ Text.trimWhile isPadding text := fun mem =>
    noMinus ((trimWhile_sublist isPadding text).subset mem)
  rw [hexadecimal?, lenient?]
  split
  · rename_i digits same
    exact absurd (same ▸ List.mem_cons_self) kept
  · rename_i digits same
    refine magnitude_eq_some.trans (exists_congr fun values => and_congr_left fun _ => ?_)
    rw [Spells, same]
    constructor
    · exact fun magnitude => .inr ⟨digits, rfl, magnitude⟩
    · rintro (magnitude | ⟨rest, again, magnitude⟩)
      · obtain ⟨_, digit⟩ := magnitude.head
        exact absurd (by simp) (not_mark_of_hexDigit? digit)
      · cases again
        exact magnitude
  · rename_i noPlus
    refine magnitude_eq_some.trans (exists_congr fun values => and_congr_left fun _ => ?_)
    have noSign : ¬∃ rest, Text.trimWhile isPadding text = '+' :: rest ∧ Magnitude rest values := by
      rintro ⟨rest, same, -⟩
      exact noPlus rest same
    exact (or_iff_left noSign).symm

/-! ### The digits of a numeral -/

theorem Spaced.values_lt (spaced : Spaced text values) : ∀ value ∈ values, value < 16 := by
  induction spaced with
  | one digit => simpa using hexDigit?_lt digit
  | next digit _ ih => exact List.forall_mem_cons.2 ⟨hexDigit?_lt digit, ih⟩
  | underscore digit _ ih => exact List.forall_mem_cons.2 ⟨hexDigit?_lt digit, ih⟩

theorem Spaced.length_le (spaced : Spaced text values) : values.length ≤ text.length := by
  induction spaced with
  | one _ => simp
  | next _ _ ih => simpa using ih
  | underscore _ _ ih =>
    simp only [List.length_cons]
    omega

/-- A numeral has no more digits than characters. -/
theorem Spells.length_le (spells : Spells text values) : values.length ≤ text.length := by
  have whole := (trimWhile_sublist isPadding text).length_le
  have part {text : List Char} (magnitude : Magnitude text values) :
      values.length ≤ text.length := by
    cases magnitude with
    | plain spaced => exact spaced.length_le
    | marked _ _ spaced => exact Nat.le_add_right_of_le (Nat.le_add_right_of_le spaced.length_le)
    | underscore _ _ spaced =>
      have short := spaced.length_le
      simp only [List.length_cons]
      omega
  rcases spells with magnitude | ⟨rest, same, magnitude⟩
  · exact (part magnitude).trans whole
  · rw [same, List.length_cons] at whole
    have short := part magnitude
    omega

theorem Spells.values_lt (spells : Spells text values) : ∀ value ∈ values, value < 16 := by
  have small {text : List Char} (magnitude : Magnitude text values) :
      ∀ value ∈ values, value < 16 := by
    cases magnitude with
    | plain spaced => exact spaced.values_lt
    | marked _ _ spaced => exact spaced.values_lt
    | underscore _ _ spaced => exact spaced.values_lt
  rcases spells with magnitude | ⟨_, _, magnitude⟩
  · exact small magnitude
  · exact small magnitude

/-- Plain digits spell themselves. -/
theorem spells_of_mapM (nonempty : text ≠ []) (read : text.mapM Bytes.hexDigit? = some values) :
    Spells text values := by
  have plain := forall_of_mapM read fun c value digit => (hexDigit?_of_bytes digit).2
  have digits : text.mapM hexDigit? = some values :=
    mapM_eq_some.2 ((mapM_eq_some.1 read).imp fun _ _ digit => (hexDigit?_of_bytes digit).1)
  have spaced : separated? hexDigit? text = some values := by
    refine separated?_of_mapM nonempty (fun c mem => ?_) digits
    rintro rfl
    exact (plain '_' mem).2 (by simp)
  rw [Spells, Text.trimWhile_of_none fun c mem => (plain c mem).1]
  exact .inl (.plain (separated?_eq_some.1 spaced))

end Numeral

/-! ### Bytes and fields of an identifier -/

namespace Bytes

theorem length_ofHexValues {values : List Nat} (small : ∀ value ∈ values, value < 16)
    (even : values.length % 2 = 0) : 2 * (ofHexValues values).length = values.length := by
  rw [← length_nibbles, nibbles_ofHexValues small even]

/-- Bytes are the number that their digits spell. -/
theorem toNat_eq_ofDigits (data : Bytes) : data.toNat = Numeral.ofDigits 16 (nibbles data) := by
  induction data with
  | nil => rfl
  | cons byte data ih =>
    have digits : Numeral.ofDigits 16 [byte.toNat / 16, byte.toNat % 16] = byte.toNat := by
      simp only [Numeral.ofDigits, List.foldl_cons, List.foldl_nil]
      omega
    have split : nibbles (byte :: data) = [byte.toNat / 16, byte.toNat % 16] ++ nibbles data := rfl
    rw [toNat_cons, ih, split, Numeral.ofDigits_append, digits, length_nibbles, Nat.pow_mul]

end Bytes

namespace Uuid

variable {text : List Char} {value : Nat} {values : List Nat}

/-- Thirty-two hexadecimal digits with dashes between their groups. -/
def Dashed (text : List Char) (values : List Nat) : Prop :=
  ∃ digits, Hyphenated digits text ∧ digits.mapM Bytes.hexDigit? = some values

/-- Whether the digits of an identifier are laid out as the standard says, in its first version. -/
def FirstVersion (values : List Nat) : Prop :=
  values[12]? = some 1 ∧ ∃ variant, values[16]? = some variant ∧ 8 ≤ variant ∧ variant < 12

/-- Thirty-two characters that spell a hexadecimal numeral, once the dashes, the braces and the words
`urn:` and `uuid:` are passed over, and its digits with zeros in front. -/
def Lenient (text : List Char) (values : List Nat) : Prop :=
  (digitsOf text).length = 32 ∧ ∃ digits, Numeral.Spells (digitsOf text) digits ∧
    values = List.replicate (32 - digits.length) 0 ++ digits

theorem Lenient.length_eq (lenient : Lenient text values) : values.length = 32 := by
  obtain ⟨length, digits, spells, rfl⟩ := lenient
  have short := spells.length_le
  rw [List.length_append, List.length_replicate]
  omega

theorem Lenient.values_lt (lenient : Lenient text values) : ∀ value ∈ values, value < 16 := by
  obtain ⟨-, digits, spells, rfl⟩ := lenient
  intro value mem
  rcases List.mem_append.1 mem with zero | digit
  · rw [List.eq_of_mem_replicate zero]
    decide
  · exact spells.values_lt value digit

theorem ofDigits_replicate (count : Nat) (digits : List Nat) :
    Numeral.ofDigits 16 (List.replicate count 0 ++ digits) = Numeral.ofDigits 16 digits := by
  have zeros : Numeral.ofDigits 16 (List.replicate count 0) = 0 := by
    induction count with
    | zero => rfl
    | succ count ih =>
      rw [List.replicate_succ']
      rw [Numeral.ofDigits_concat, ih]
  rw [Numeral.ofDigits_append, zeros, Nat.zero_mul, Nat.zero_add]

/-- An identifier is read just from its lenient spellings. -/
theorem read?_eq_some_iff :
    read? text = some value ↔ ∃ values, Lenient text values ∧ value = Numeral.ofDigits 16 values := by
  have noMinus : '-' ∉ digitsOf text := fun mem => by
    simpa using (List.mem_filter.1 mem).2
  rw [read?_eq_some, Numeral.hexadecimal?_eq_some noMinus]
  constructor
  · rintro ⟨length, ⟨digits, spells, same⟩, -⟩
    refine ⟨_, ⟨length, digits, spells, rfl⟩, ?_⟩
    rw [ofDigits_replicate]
    exact Int.ofNat.inj same
  · rintro ⟨values, lenient, rfl⟩
    have below := Numeral.ofDigits_lt lenient.values_lt
    rw [lenient.length_eq] at below
    obtain ⟨length, digits, spells, rfl⟩ := lenient
    exact ⟨length, ⟨digits, spells, by rw [ofDigits_replicate]⟩, below⟩

/-- The dashed form is one of the lenient spellings. -/
theorem Dashed.lenient (dashed : Dashed text values) : Lenient text values := by
  obtain ⟨digits, hyphenated, read⟩ := dashed
  have found := digitsOf_hyphenated hyphenated read
  have length := hyphenated.1
  have nonempty : digits ≠ [] := by
    rintro rfl
    cases length
  have count : values.length = 32 := by
    rw [← (mapM_eq_some.1 read).length_eq, length]
  refine ⟨by rw [found, length], values, found ▸ Numeral.spells_of_mapM nonempty read, ?_⟩
  rw [count]
  rfl

/-- The bytes of an identifier are those that its digits spell. -/
theorem bytes_ofDigits (length : values.length = 32) (small : ∀ value ∈ values, value < 16) :
    bytes (Numeral.ofDigits 16 values) = Bytes.ofHexValues values := by
  have even : values.length % 2 = 0 := by omega
  have count := Bytes.length_ofHexValues small even
  have number : (Bytes.ofHexValues values).toNat = Numeral.ofDigits 16 values := by
    rw [Bytes.toNat_eq_ofDigits, Bytes.nibbles_ofHexValues small even]
  rw [← number]
  exact Validator.bytes_toNat (by omega)

/-- A digit of a number is found by how many digits there are behind it. -/
theorem digit_of_ofDigits {place behind digit : Nat} (small : ∀ value ∈ values, value < 16)
    (found : values[place]? = some digit) (length : values.length = place + 1 + behind) :
    Numeral.ofDigits 16 values / 16 ^ behind % 16 = digit := by
  obtain ⟨within, same⟩ := List.getElem?_eq_some_iff.1 found
  let front := values.take place
  let rest := values.drop (place + 1)
  have count : rest.length = behind := by
    rw [List.length_drop]
    omega
  have below : Numeral.ofDigits 16 rest < 16 ^ behind :=
    count ▸ Numeral.ofDigits_lt fun value mem => small value (List.mem_of_mem_drop mem)
  have split : values = (front ++ [digit]) ++ rest := by
    rw [List.append_assoc, List.singleton_append, ← same, ← List.drop_eq_getElem_cons within,
      List.take_append_drop]
  have number : Numeral.ofDigits 16 values =
      Numeral.ofDigits 16 rest + 16 ^ behind * (Numeral.ofDigits 16 front * 16 + digit) := by
    conv_lhs => rw [split, Numeral.ofDigits_append, Numeral.ofDigits_concat, count]
    rw [Nat.mul_comm, Nat.add_comm]
  have last : digit < 16 := small digit (same ▸ List.getElem_mem within)
  rw [number, Nat.add_mul_div_left _ _ (Nat.pow_pos (by decide)), Nat.div_eq_of_lt below]
  omega

/-- The version and the layout of an identifier are told by its thirteenth and its seventeenth
digit. -/
theorem version?_ofDigits (length : values.length = 32) (small : ∀ value ∈ values, value < 16) :
    version? (Numeral.ofDigits 16 values) = some 1 ↔ FirstVersion values := by
  have thirteenth : values[12]? = some (Numeral.ofDigits 16 values / 16 ^ 19 % 16) := by
    have found := List.getElem?_eq_getElem (show 12 < values.length by omega)
    rw [digit_of_ofDigits small found (by omega), found]
  have seventeenth : values[16]? = some (Numeral.ofDigits 16 values / 16 ^ 15 % 16) := by
    have found := List.getElem?_eq_getElem (show 16 < values.length by omega)
    rw [digit_of_ofDigits small found (by omega), found]
  rw [FirstVersion, thirteenth, seventeenth]
  generalize Numeral.ofDigits 16 values = number
  have standard : isStandard number = true ↔
      8 ≤ number / 16 ^ 15 % 16 ∧ number / 16 ^ 15 % 16 < 12 := by
    rw [isStandard, Bool.and_eq_true, Bool.not_eq_true', Nat.testBit_eq_decide_div_mod_eq,
      Nat.testBit_eq_decide_div_mod_eq, decide_eq_true_eq, decide_eq_false_iff_not]
    omega
  have version : bitsAt number 76 4 = number / 16 ^ 19 % 16 := by
    rw [bitsAt, Nat.shiftRight_eq_div_pow]
    rfl
  rw [version?, version]
  constructor
  · intro first
    split at first
    · rename_i laid
      exact ⟨first, _, rfl, standard.1 laid⟩
    · cases first
  · rintro ⟨first, _, same, laid⟩
    cases same
    rw [if_pos (standard.2 laid), first]

/-! ### What is read beside the dashed form -/

/-- A text has one lenient reading at most. -/
theorem Lenient.eq {others : List Nat} (lenient : Lenient text values)
    (other : Lenient text others) : values = others := by
  have digits {values : List Nat} (lenient : Lenient text values) :
      ∀ value, read? text = some value → values = Bytes.nibbles (bytes value) := by
    intro value read
    have found := read?_eq_some_iff.2 ⟨values, lenient, rfl⟩
    obtain rfl := Option.some.inj (found.symm.trans read)
    have even : values.length % 2 = 0 := by
      rw [lenient.length_eq]
    rw [bytes_ofDigits lenient.length_eq lenient.values_lt,
      Bytes.nibbles_ofHexValues lenient.values_lt even]
  have read := read?_eq_some_iff.2 ⟨values, lenient, rfl⟩
  rw [digits lenient _ read, digits other _ read]

/-- A spelling that is read though the text is not dashed. -/
def Lax (text : List Char) (values : List Nat) : Prop :=
  Lenient text values ∧ ∀ written, ¬Dashed text written

/-- What is read is what is dashed, just if no other spelling is brought. -/
theorem forall_iff_not_lax (holds : List Nat → Prop) :
    (∀ data, (∃ values, Lenient text values ∧ holds values ∧ data = Bytes.ofHexValues values) ↔
      ∃ values, Dashed text values ∧ holds values ∧ data = Bytes.ofHexValues values) ↔
    ¬∃ values, Lax text values ∧ holds values := by
  constructor
  · rintro same ⟨values, ⟨lenient, notDashed⟩, held⟩
    obtain ⟨written, dashed, -, -⟩ := (same _).1 ⟨values, lenient, held, rfl⟩
    exact notDashed written dashed
  · intro none data
    constructor
    · rintro ⟨values, lenient, held, same⟩
      by_cases dashed : ∃ written, Dashed text written
      · obtain ⟨written, dashed⟩ := dashed
        exact ⟨values, lenient.eq dashed.lenient ▸ dashed, held, same⟩
      · exact absurd ⟨values, ⟨lenient, not_exists.1 dashed⟩, held⟩ none
    · rintro ⟨values, dashed, rest⟩
      exact ⟨values, dashed.lenient, rest⟩

theorem removeFrom_sublist (word : List Char) (skip : Nat) (text : List Char) :
    (removeFrom word skip text).Sublist text := by
  induction text generalizing skip with
  | nil =>
    cases skip <;> exact .slnil
  | cons c rest ih =>
    cases skip with
    | zero =>
      rw [removeFrom]
      split
      · exact .cons c (ih _)
      · exact .cons_cons c (ih 0)
    | succ skip => exact .cons c (ih skip)

/-- A text that is too short is not read. -/
theorem not_lenient_of_short (short : text.length < 32) : ¬Lenient text values := by
  rintro ⟨length, -⟩
  have sublist : (digitsOf text).Sublist text :=
    List.filter_sublist.trans ((Numeral.trimWhile_sublist _ _).trans
      ((removeFrom_sublist _ _ _).trans (removeFrom_sublist _ _ _)))
  have within := sublist.length_le
  omega

end Uuid

/-! ### Literals for identifiers -/

namespace Validator

open Failure (IsLiteral)

variable {text : String} {data : Bytes}

/-- A lexical identifier is made of any lenient spelling. -/
theorem encodeFixed_lexicalUuid_iff : lexicalUuid.encodeFixed text = .ok data ↔
    ∃ values, Uuid.Lenient (Text.trim text.toList) values ∧ data = Bytes.ofHexValues values := by
  rw [encodeFixed_lexicalUuid]
  constructor
  · rintro ⟨value, read, rfl⟩
    obtain ⟨values, lenient, rfl⟩ := Uuid.read?_eq_some_iff.1 read
    exact ⟨values, lenient, Uuid.bytes_ofDigits lenient.length_eq lenient.values_lt⟩
  · rintro ⟨values, lenient, rfl⟩
    exact ⟨_, Uuid.read?_eq_some_iff.2 ⟨values, lenient, rfl⟩,
      (Uuid.bytes_ofDigits lenient.length_eq lenient.values_lt).symm⟩

/-- A time-based identifier is made of any lenient spelling of the first version. -/
theorem encodeFixed_timeUuid_iff : timeUuid.encodeFixed text = .ok data ↔
    ∃ values, Uuid.Lenient (Text.trim text.toList) values ∧ Uuid.FirstVersion values ∧
      data = Bytes.ofHexValues values := by
  rw [encodeFixed_timeUuid]
  constructor
  · rintro ⟨value, read, first, rfl⟩
    obtain ⟨values, lenient, rfl⟩ := Uuid.read?_eq_some_iff.1 read
    exact ⟨values, lenient, (Uuid.version?_ofDigits lenient.length_eq lenient.values_lt).1 first,
      Uuid.bytes_ofDigits lenient.length_eq lenient.values_lt⟩
  · rintro ⟨values, lenient, first, rfl⟩
    exact ⟨_, Uuid.read?_eq_some_iff.2 ⟨values, lenient, rfl⟩,
      (Uuid.version?_ofDigits lenient.length_eq lenient.values_lt).2 first,
      (Uuid.bytes_ofDigits lenient.length_eq lenient.values_lt).symm⟩

/-- What is no longer than the word for a fresh identifier is too short to be read as one. -/
theorem not_lenient_of_now {bare word : List Char} {values : List Nat}
    (now : Text.lower word = "now".toList) (within : bare.length ≤ word.length) :
    ¬Uuid.Lenient bare values := by
  have letters : (Text.lower word).length = 3 := by
    rw [now]
    rfl
  have long := length_le_lower word
  exact Uuid.not_lenient_of_short (by omega)

theorem isNow_timeUuid_iff : timeUuid.isNow text = true ↔ Text.lower text.toList = "now".toList := by
  rw [isNow, beq_self_eq_true, Bool.true_and, beq_iff_eq, Text.lowered, ← String.toList_inj,
    String.toList_ofList]

/-- The word `now` is encoded as the next identifier that is drawn. -/
theorem encode_timeUuid_of_now (now : Text.lower text.toList = "now".toList) (supply : Supply) :
    (timeUuid.encode text supply).1 =
      .ok (Uuid.bytes (supply.timeId (supply.timesDrawn + 1))) := by
  rw [encode_of_isNow supply (isNow_timeUuid_iff.2 now)]

theorem encode_timeUuid_of_ne (other : Text.lower text.toList ≠ "now".toList) (supply : Supply) :
    (timeUuid.encode text supply).1 = timeUuid.encodeFixed text := by
  have drawsNone : timeUuid.isNow text = false :=
    Bool.eq_false_iff.2 fun now => other (isNow_timeUuid_iff.1 now)
  rw [encode_of_not_isNow supply drawsNone]

/-- With blanks beside it the word `now` is refused. -/
theorem encode_timeUuid_of_blank_now (now : Text.lower (Text.trim text.toList) = "now".toList)
    (other : Text.lower text.toList ≠ "now".toList) (supply : Supply) :
    ∃ cause, (timeUuid.encode text supply).1 = .error cause := by
  rw [encode_timeUuid_of_ne other]
  cases encoded : timeUuid.encodeFixed text with
  | error cause => exact ⟨cause, rfl⟩
  | ok data =>
    obtain ⟨_, lenient, -⟩ := encodeFixed_timeUuid_iff.1 encoded
    exact absurd lenient (not_lenient_of_now now le_rfl)

/-- A validator for identifiers makes of a dashed identifier the bytes that its digits spell, and it
refuses other texts as literals, if and only if the text between its blanks is no other lenient
spelling; for time-based identifiers, which have to be of the first version, the word `now` stands for
a fresh one. The word is refused with blanks beside it. -/
theorem encode_uuid_iff (text : String) (supply : Supply) :
    let bare := Text.trim text.toList
    let fresh := Uuid.bytes (supply.timeId (supply.timesDrawn + 1))
    FailsOnly IsLiteral (lexicalUuid.encode text supply).1 ∧
      FailsOnly IsLiteral (timeUuid.encode text supply).1 ∧
      ((∀ data, (lexicalUuid.encode text supply).1 = .ok data ↔
          ∃ values, Uuid.Dashed bare values ∧ data = Bytes.ofHexValues values) ↔
        ¬∃ values, Uuid.Lax bare values) ∧
      ((∀ data, (timeUuid.encode text supply).1 = .ok data ↔
          Text.lower text.toList = "now".toList ∧ data = fresh ∨
            ∃ values, Uuid.Dashed bare values ∧ Uuid.FirstVersion values ∧
              data = Bytes.ofHexValues values) ↔
        ¬∃ values, Uuid.Lax bare values ∧ Uuid.FirstVersion values) ∧
      (Text.lower bare = "now".toList → Text.lower text.toList ≠ "now".toList →
        ∃ cause, (timeUuid.encode text supply).1 = .error cause) := by
  intro bare fresh
  have lexical : (lexicalUuid.encode text supply).1 = lexicalUuid.encodeFixed text := rfl
  refine ⟨(encode_isLiteral_iff lexicalUuid text supply).2 nofun,
    (encode_isLiteral_iff timeUuid text supply).2 nofun, ?_, ?_,
    fun now other => encode_timeUuid_of_blank_now now other supply⟩
  · have only := @Uuid.forall_iff_not_lax bare fun _ => True
    simp only [true_and, and_true] at only
    simp only [lexical, encodeFixed_lexicalUuid_iff]
    exact only
  · by_cases now : Text.lower text.toList = "now".toList
    · have nothing {values : List Nat} : ¬Uuid.Lenient bare values :=
        not_lenient_of_now now (Numeral.trimWhile_sublist _ _).length_le
      refine iff_of_true (fun data => ?_) fun ⟨_, lax, _⟩ => nothing lax.1
      rw [encode_timeUuid_of_now now, Except.ok.injEq, eq_comm]
      constructor
      · exact fun same => .inl ⟨now, same⟩
      · rintro (⟨-, same⟩ | ⟨_, dashed, -⟩)
        · exact same
        · exact absurd dashed.lenient nothing
    · simp only [encode_timeUuid_of_ne now, encodeFixed_timeUuid_iff, now, false_and, false_or]
      exact Uuid.forall_iff_not_lax Uuid.FirstVersion

/-- Thirty-two digits without dashes are encoded. -/
theorem encode_uuid_undashed :
    (lexicalUuid.encode "00112233445566778899aabbccddeeff" ⟨id, id, 0, 0⟩).1 =
        .ok [0x00, 0x11, 0x22, 0x33, 0x44, 0x55, 0x66, 0x77, 0x88, 0x99, 0xaa, 0xbb, 0xcc, 0xdd,
          0xee, 0xff] ∧
      ¬∃ values, Uuid.Dashed (Text.trim "00112233445566778899aabbccddeeff".toList) values := by
  refine ⟨by decide +kernel, ?_⟩
  rintro ⟨values, digits, hyphenated, -⟩
  have length : (Text.trim "00112233445566778899aabbccddeeff".toList).length = 32 := by
    decide +kernel
  exact absurd (length.symm.trans hyphenated.length_eq) (by decide)

end Validator

end WideColumn
