import WideColumn.Proofs.Codec.Hexadecimal

/-!
# Identifiers and their written form

An identifier is written in thirty-two hexadecimal digits in groups with dashes between them
(`Hyphenated`). Reading passes over the dashes and takes the digits for what they spell, so every
identifier is read back from its written form (`read?_write`). Whatever text an identifier was read
from, the form in which it is written spells the same number; if the text gave its digits as plain
hexadecimal digits, these are the digits in small letters (`write_of_digits`).
-/

namespace WideColumn

namespace Numeral

/-- A hexadecimal digit is read as such, and is no mark of a numeral. -/
theorem hexDigit?_of_bytes {c : Char} {value : Nat} (digit : Bytes.hexDigit? c = some value) :
    hexDigit? c = some value ∧ isPadding c = false ∧ c ∉ ['_', 'x', 'X', '-', '+'] := by
  exact Bytes.forall_of_ascii (motive := fun c => ∀ value ∈ Bytes.hexDigit? c,
    hexDigit? c = some value ∧ isPadding c = false ∧ c ∉ ['_', 'x', 'X', '-', '+'])
    (by decide) (Bytes.ascii_of_hexDigit? digit) value digit

/-- What every hexadecimal digit is, all digits of a text are. -/
theorem forall_of_mapM {digits : List Char} {values : List Nat} {holds : Char → Prop}
    (read : digits.mapM Bytes.hexDigit? = some values)
    (each : ∀ c value, Bytes.hexDigit? c = some value → holds c) : ∀ c ∈ digits, holds c := by
  induction mapM_eq_some.1 read with
  | nil => simp
  | cons first others ih =>
    exact List.forall_mem_cons.2 ⟨each _ _ first, ih (mapM_eq_some.2 others)⟩

/-- Where no mark can begin, the digits are the whole numeral. -/
theorem dropHexMark_of_forall {digits : List Char} (noMark : ∀ c ∈ digits, c ≠ 'x' ∧ c ≠ 'X') :
    dropHexMark digits = digits := by
  unfold dropHexMark
  split
  · rename_i first mark rest
    have apart := noMark mark (by simp)
    rw [if_neg]
    rintro ⟨-, small | capital⟩
    · exact apart.1 small
    · exact apart.2 capital
  · rfl

/-- Plain hexadecimal digits are a numeral for the number that they spell. -/
theorem hexadecimal?_of_mapM {digits : List Char} {values : List Nat} (nonempty : digits ≠ [])
    (read : digits.mapM Bytes.hexDigit? = some values) :
    hexadecimal? digits = some (ofDigits 16 values : Nat) := by
  have plain := forall_of_mapM read fun c value digit => (hexDigit?_of_bytes digit).2
  have noMark : ∀ c ∈ digits, c ∉ ['_', 'x', 'X', '-', '+'] := fun c mem => (plain c mem).2
  have values? : digits.mapM hexDigit? = some values :=
    mapM_eq_some.2 ((mapM_eq_some.1 read).imp fun _ _ digit => (hexDigit?_of_bytes digit).1)
  have unmarked : dropHexMark digits = digits := by
    refine dropHexMark_of_forall fun c mem => ?_
    have apart := noMark c mem
    simp only [List.mem_cons, not_or] at apart
    exact ⟨apart.2.1, apart.2.2.1⟩
  have separated : separated? hexDigit? digits = some values := by
    refine separated?_of_mapM nonempty (fun c mem => ?_) values?
    rintro rfl
    exact noMark '_' mem (by simp)
  rw [hexadecimal?, lenient?, Text.trimWhile_of_none fun c mem => (plain c mem).1]
  split
  · exact absurd (by simp) (noMark '-' (by simp))
  · exact absurd (by simp) (noMark '+' (by simp))
  · rw [unmarked, separated]
    rfl

end Numeral

namespace Uuid

/-! ### The written form -/

/-- A text that is thirty-two digits in groups of eight, four, four, four and twelve, with dashes
between the groups. -/
def Hyphenated (digits text : List Char) : Prop :=
  digits.length = 32 ∧
    text = digits.take 8 ++ '-' :: (digits.drop 8).take 4 ++ '-' :: (digits.drop 12).take 4 ++
      '-' :: (digits.drop 16).take 4 ++ '-' :: digits.drop 20

theorem hyphenated_dashed {digits : List Char} (length : digits.length = 32) :
    Hyphenated digits (dashed digits).toList := by
  have last : (digits.drop 20).take 12 = digits.drop 20 := by
    rw [List.take_of_length_le]
    simp [length]
  refine ⟨length, ?_⟩
  simp [dashed, last]

theorem Hyphenated.length_eq {digits text : List Char} (hyphenated : Hyphenated digits text) :
    text.length = 36 := by
  obtain ⟨length, rfl⟩ := hyphenated
  simp [length]

/-- A hyphenated text has no characters but its digits and dashes. -/
theorem mem_of_hyphenated {digits text : List Char} (hyphenated : Hyphenated digits text) {c : Char}
    (mem : c ∈ text) : c ∈ digits ∨ c = '-' := by
  obtain ⟨-, rfl⟩ := hyphenated
  have group {start size : Nat} (mem : c ∈ (digits.drop start).take size) : c ∈ digits :=
    List.mem_of_mem_drop (List.mem_of_mem_take mem)
  simp only [List.mem_append, List.mem_cons] at mem
  rcases mem with (((mem | rfl | mem) | rfl | mem) | rfl | mem) | rfl | mem
  · exact .inl (List.mem_of_mem_take mem)
  · exact .inr rfl
  · exact .inl (group mem)
  · exact .inr rfl
  · exact .inl (group mem)
  · exact .inr rfl
  · exact .inl (group mem)
  · exact .inr rfl
  · exact .inl (List.mem_of_mem_drop mem)

/-- The groups together are the digits. -/
theorem append_groups (digits : List Char) :
    digits.take 8 ++ (digits.drop 8).take 4 ++ (digits.drop 12).take 4 ++
      (digits.drop 16).take 4 ++ digits.drop 20 = digits := by
  have next (start : Nat) :
      digits.take start ++ (digits.drop start).take 4 = digits.take (start + 4) :=
    List.take_add.symm
  rw [next 8, next 12, next 16, List.take_append_drop]

/-- Without the dashes, the digits are left. -/
theorem filter_hyphenated {digits text : List Char} (hyphenated : Hyphenated digits text)
    (noDash : '-' ∉ digits) : text.filter (· != '-') = digits := by
  obtain ⟨-, rfl⟩ := hyphenated
  have kept : ∀ c ∈ digits, (c != '-') = true := fun c mem => by
    refine bne_iff_ne.2 ?_
    rintro rfl
    exact noDash mem
  calc
    _ = (digits.take 8 ++ (digits.drop 8).take 4 ++ (digits.drop 12).take 4 ++
          (digits.drop 16).take 4 ++ digits.drop 20).filter (· != '-') := by
      simp [List.filter_append]
    _ = digits := by rw [append_groups, List.filter_eq_self.2 kept]

theorem hyphenated_write (value : Nat) :
    Hyphenated (Bytes.hexOfNat 32 value) (write value).toList := by
  obtain ⟨values, length, -, written, -⟩ := Bytes.exists_values 32 value
  refine hyphenated_dashed ?_
  rw [written, List.length_map, length]

/-! ### Reading -/

/-- Nothing is taken out where a character of the word does not occur. -/
theorem remove_of_not_mem {word text : List Char} {c : Char} (mem : c ∈ word) (absent : c ∉ text) :
    remove word text = text := by
  unfold remove
  induction text with
  | nil => rfl
  | cons first rest ih =>
    have noPrefix : word.isPrefixOf (first :: rest) = false := by
      refine Bool.eq_false_iff.2 fun isPrefix => ?_
      exact absent ((List.isPrefixOf_iff_prefix.1 isPrefix).subset mem)
    rw [removeFrom, noPrefix, ih fun later => absent (List.mem_cons_of_mem _ later)]
    simp

/-- The digits of a hyphenated text are found. -/
theorem digitsOf_hyphenated {digits text : List Char} {values : List Nat}
    (hyphenated : Hyphenated digits text) (read : digits.mapM Bytes.hexDigit? = some values) :
    digitsOf text = digits := by
  have plain : ∀ c ∈ digits, c ∉ [':', '{', '}', '-'] :=
    Numeral.forall_of_mapM read fun c value digit =>
      Bytes.forall_of_ascii (motive := fun c => ∀ value ∈ Bytes.hexDigit? c, c ∉ [':', '{', '}', '-'])
        (by decide) (Bytes.ascii_of_hexDigit? digit) value digit
  have noMark : ∀ c ∈ text, c ∉ [':', '{', '}'] := fun c mem => by
    rcases mem_of_hyphenated hyphenated mem with digit | rfl
    · have apart := plain c digit
      simp only [List.mem_cons, not_or] at apart ⊢
      exact ⟨apart.1, apart.2.1, apart.2.2.1, List.not_mem_nil⟩
    · decide
  have noColon : ':' ∉ text := fun mem => noMark ':' mem (by simp)
  have noBrace : ∀ c ∈ text, (c == '{' || c == '}') = false := fun c mem => by
    have apart := noMark c mem
    simp only [List.mem_cons, not_or] at apart
    simp [apart]
  have noDash : '-' ∉ digits := fun mem => plain '-' mem (by simp)
  rw [digitsOf, remove_of_not_mem (c := ':') (by decide) noColon,
    remove_of_not_mem (c := ':') (by decide) noColon, Text.trimWhile_of_none noBrace,
    filter_hyphenated hyphenated noDash]

/-- Reading succeeds just with thirty-two characters that are a numeral of 128 bits. -/
theorem read?_eq_some {text : List Char} {value : Nat} :
    read? text = some value ↔ (digitsOf text).length = 32 ∧
      Numeral.hexadecimal? (digitsOf text) = some (value : Int) ∧ value < 2 ^ 128 := by
  have range : (1 <<< 128 : Nat) = 2 ^ 128 := Nat.one_shiftLeft 128
  unfold read?
  rw [Numeral.guard_bind_eq_some]
  refine and_congr_right fun length => ?_
  constructor
  · intro found
    obtain ⟨number, read, found⟩ := Option.bind_eq_some_iff.1 found
    obtain ⟨⟨natural, below⟩, same⟩ := Numeral.guard_bind_eq_some.1 found
    obtain rfl := Option.some.inj same
    rw [range] at below
    exact ⟨by rw [read, Int.toNat_of_nonneg natural], by omega⟩
  · rintro ⟨read, below⟩
    refine Option.bind_eq_some_iff.2 ⟨value, read, Numeral.guard_bind_eq_some.2 ?_⟩
    refine ⟨⟨Int.natCast_nonneg value, ?_⟩, ?_⟩
    · omega
    · rw [Int.toNat_natCast]
      rfl

/-- Thirty-two plain digits are an identifier, the number that they spell. -/
theorem read?_of_mapM {text : List Char} {values : List Nat} (length : (digitsOf text).length = 32)
    (read : (digitsOf text).mapM Bytes.hexDigit? = some values) :
    read? text = some (Numeral.ofDigits 16 values) := by
  have nonempty : digitsOf text ≠ [] := by
    rw [← List.length_pos_iff]
    omega
  have count : values.length = 32 := by
    rw [← (mapM_eq_some.1 read).length_eq, length]
  have below := Numeral.ofDigits_lt (Bytes.lowercase_of_mapM read).1
  rw [count] at below
  exact read?_eq_some.2 ⟨length, Numeral.hexadecimal?_of_mapM nonempty read, below⟩

/-! ### Writing and reading -/

/-- An identifier is written in small digits that spell it. -/
theorem exists_write {value : Nat} (small : value < 2 ^ 128) :
    ∃ digits values, Hyphenated digits (write value).toList ∧
      (∀ c ∈ digits, c ∈ Bytes.digitChars) ∧ digits.mapM Bytes.hexDigit? = some values ∧
      Numeral.ofDigits 16 values = value := by
  obtain ⟨values, -, each, written, spelled⟩ := Bytes.exists_values 32 value
  refine ⟨Bytes.hexOfNat 32 value, values, hyphenated_write value, ?_, ?_, ?_⟩
  · rw [written]
    intro c mem
    obtain ⟨digit, inside, rfl⟩ := List.mem_map.1 mem
    exact Bytes.hexDigit_mem digit (each digit inside)
  · rw [written, Bytes.mapM_hexDigit each]
  · rw [spelled]
    exact Nat.mod_eq_of_lt small

/-- An identifier is read from its written form. -/
theorem read?_write {value : Nat} (small : value < 2 ^ 128) :
    read? (write value).toList = some value := by
  obtain ⟨digits, values, hyphenated, -, read, rfl⟩ := exists_write small
  have found := digitsOf_hyphenated hyphenated read
  exact read?_of_mapM (by rw [found]; exact hyphenated.1) (by rw [found]; exact read)

/-- An identifier that was read from plain digits is written in these, in small letters. -/
theorem write_of_digits {text : List Char} {values : List Nat}
    (length : (digitsOf text).length = 32)
    (read : (digitsOf text).mapM Bytes.hexDigit? = some values) :
    Hyphenated ((digitsOf text).map Char.toLower)
      (write (Numeral.ofDigits 16 values)).toList := by
  obtain ⟨small, lower⟩ := Bytes.lowercase_of_mapM read
  have count : values.length = 32 := by
    rw [← (mapM_eq_some.1 read).length_eq, length]
  rw [← lower, ← Bytes.hexOfNat_ofDigits small, count]
  exact hyphenated_write _

/-- No character of a written identifier is a blank. -/
theorem trim_write (value : Nat) : Text.trim (write value).toList = (write value).toList := by
  obtain ⟨values, -, each, written, -⟩ := Bytes.exists_values 32 value
  have noBlank : ('-' :: Bytes.digitChars).any Text.isBlank = false := by decide
  refine Text.trimWhile_of_none fun c mem =>
    eq_false_of_ne_true (List.any_eq_false.1 noBlank c ?_)
  rcases mem_of_hyphenated (hyphenated_write value) mem with digit | rfl
  · rw [written] at digit
    obtain ⟨number, inside, rfl⟩ := List.mem_map.1 digit
    exact List.mem_cons_of_mem _ (Bytes.hexDigit_mem number (each number inside))
  · exact List.mem_cons_self

/-! ### Time-based identifiers -/

/-- A number of 128 bits that is laid out as the standard says, in its first version. -/
def IsTimeBased (value : Nat) : Prop :=
  value < 2 ^ 128 ∧ version? value = some 1

/-- What is made of a time and a node is a time-based identifier. -/
theorem isTimeBased_timeBased (time node : Nat) : IsTimeBased (timeBased time node) := by
  have low : bitsAt time 0 32 < 2 ^ 32 := Nat.mod_lt _ (by decide)
  have middle : bitsAt time 32 16 < 2 ^ 16 := Nat.mod_lt _ (by decide)
  have high : bitsAt time 48 12 < 2 ^ 12 := Nat.mod_lt _ (by decide)
  have rest : bitsAt node 0 62 < 2 ^ 62 := Nat.mod_lt _ (by decide)
  have number : timeBased time node = bitsAt time 0 32 * 2 ^ 96 + bitsAt time 32 16 * 2 ^ 80 +
      (2 ^ 12 + bitsAt time 48 12) * 2 ^ 64 + 2 ^ 63 + bitsAt node 0 62 := by
    simp only [timeBased, Nat.shiftLeft_eq, Nat.one_mul]
  have top : (timeBased time node).testBit 63 = true := by
    rw [Nat.testBit_eq_decide_div_mod_eq]
    simp only [decide_eq_true_eq]
    omega
  have second : (timeBased time node).testBit 62 = false := by
    rw [Nat.testBit_eq_decide_div_mod_eq]
    simp only [decide_eq_false_iff_not]
    omega
  have version : bitsAt (timeBased time node) 76 4 = 1 := by
    simp only [bitsAt, Nat.shiftRight_eq_div_pow, Nat.one_shiftLeft]
    omega
  refine ⟨by omega, ?_⟩
  rw [version?, isStandard, top, second, version]
  rfl

end Uuid

end WideColumn
