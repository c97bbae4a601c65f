import Mathlib.Algebra.Group.Nat.Defs
import Mathlib.Data.List.Induction
import Mathlib.Data.List.TakeWhile
import WideColumn.Proofs.Writing
import WideColumn.Validator.Codec

/-!
# Numbers in bytes and in digits

A byte string of some width is the big-endian number below 256 to that width, and in two's complement
the number of which half the range is negative; both readings are exact inverses of writing
(`ofNat_toNat`, `toNat_ofNat`, `ofInt_toInt`, `toInt_ofInt`). The width that an integer is written in
is the least one that holds it (`signedWidth_le_iff`).

A strict numeral is read as a number whose digits are those of the numeral without its leading zeros
(`write_of_strict?`).
-/

namespace WideColumn

namespace Bytes

/-! ### Numbers without a sign -/

@[simp] theorem length_ofNat (width value : Nat) : (ofNat width value).length = width := by
  induction width generalizing value with
  | zero => rfl
  | succ width ih => simp [ofNat, ih]

theorem toNat_concat (data : Bytes) (byte : UInt8) :
    toNat (data ++ [byte]) = toNat data * 256 + byte.toNat := by
  simp [toNat]

theorem toNat_ofNat (width value : Nat) : toNat (ofNat width value) = value % 256 ^ width := by
  induction width generalizing value with
  | zero => simp [ofNat, toNat, Nat.mod_one]
  | succ width ih =>
    rw [ofNat, toNat_concat, ih, UInt8.toNat_ofNat', Nat.mod_mod, Nat.pow_succ,
      Nat.mul_comm (256 ^ width) 256, Nat.mod_mul]
    omega

theorem toNat_lt (data : Bytes) : data.toNat < 256 ^ data.length := by
  induction data using List.reverseRecOn with
  | nil => exact Nat.one_pos
  | append_singleton data byte ih =>
    have small := byte.toNat_lt
    rw [toNat_concat, List.length_append, List.length_singleton, Nat.pow_succ]
    omega

theorem ofNat_toNat (data : Bytes) : ofNat data.length data.toNat = data := by
  induction data using List.reverseRecOn with
  | nil => rfl
  | append_singleton data byte ih =>
    have small := byte.toNat_lt
    rw [toNat_concat, List.length_append, List.length_singleton, ofNat,
      (by omega : (toNat data * 256 + byte.toNat) / 256 = toNat data), ih,
      (by omega : (toNat data * 256 + byte.toNat) % 256 = byte.toNat), UInt8.ofNat_toNat]

/-! ### Two's complement -/

/-- Half the range of a width: the least number with a sign that is too large. -/
def half (width : Nat) : Nat :=
  2 ^ (8 * width - 1)

/-- Whether a width holds a number with a sign. -/
def Holds (width : Nat) (value : Int) : Prop :=
  -(half width : Int) ≤ value ∧ value < half width

theorem range_eq {width : Nat} (positive : 0 < width) : 256 ^ width = 2 * half width := by
  rw [half, ← Nat.pow_succ', (by omega : (8 * width - 1).succ = 8 * width), Nat.pow_mul]

theorem one_shiftLeft (width : Nat) : 1 <<< (8 * width) = 256 ^ width := by
  rw [Nat.one_shiftLeft, Nat.pow_mul]

theorem toInt_eq (data : Bytes) :
    data.toInt = if 2 * data.toNat < 256 ^ data.length then (data.toNat : Int)
      else (data.toNat : Int) - (256 ^ data.length : Nat) := by
  simp only [toInt, one_shiftLeft]

theorem holds_toInt {data : Bytes} (nonempty : data ≠ []) : Holds data.length data.toInt := by
  have small := data.toNat_lt
  have range := range_eq (List.length_pos_iff.2 nonempty)
  rw [toInt_eq]
  unfold Holds
  split <;> omega

@[simp] theorem length_ofInt (width : Nat) (value : Int) : (ofInt width value).length = width :=
  length_ofNat _ _

theorem toNat_ofInt (width : Nat) (value : Int) :
    ((ofInt width value).toNat : Int) = value % (256 ^ width : Nat) := by
  have positive : 0 < 256 ^ width := Nat.pow_pos (by decide)
  rw [ofInt, one_shiftLeft, toNat_ofNat]
  have low := Int.emod_nonneg value (by omega : ((256 ^ width : Nat) : Int) ≠ 0)
  have high := Int.emod_lt_of_pos value (by omega : (0 : Int) < (256 ^ width : Nat))
  rw [Nat.mod_eq_of_lt (by omega)]
  omega

/-- A number in a width that holds it is read back. -/
theorem toInt_ofInt {width : Nat} {value : Int} (positive : 0 < width) (holds : Holds width value) :
    toInt (ofInt width value) = value := by
  have range := range_eq positive
  have number := toNat_ofInt width value
  rw [toInt_eq, length_ofInt]
  unfold Holds at holds
  rcases Int.lt_or_le value 0 with negative | natural
  · have wrapped : value % (256 ^ width : Nat) = value + (256 ^ width : Nat) := by
      rw [← Int.add_emod_right, Int.emod_eq_of_lt (by omega) (by omega)]
    rw [if_neg (by omega)]
    omega
  · rw [Int.emod_eq_of_lt natural (by omega)] at number
    rw [if_pos (by omega)]
    omega

/-- A number is not too big for a width that holds it. -/
theorem ofInt?_of_holds {width : Nat} {value : Int} (positive : 0 < width)
    (holds : Holds width value) : ofInt? width value = some (ofInt width value) := by
  have range := range_eq positive
  unfold Holds at holds
  rw [ofInt?, one_shiftLeft, if_pos ⟨by omega, by omega⟩]

/-- Bytes are written again from the number that they are. -/
theorem ofInt_toInt (data : Bytes) : ofInt data.length data.toInt = data := by
  have small := data.toNat_lt
  have number : data.toInt % (256 ^ data.length : Nat) = data.toNat := by
    rw [toInt_eq]
    split
    · exact Int.emod_eq_of_lt (by omega) (by omega)
    · rw [Int.sub_emod_right]
      exact Int.emod_eq_of_lt (by omega) (by omega)
  rw [ofInt, one_shiftLeft, number, Int.toNat_natCast, ofNat_toNat]

/-! ### The least width -/

theorem signedWidth_pos (value : Int) : 0 < signedWidth value :=
  Nat.succ_pos _

/-- The number of bits of a number without a sign is the least exponent of two above it. -/
theorem bits_le_iff {number bits : Nat} :
    (if number = 0 then 0 else number.log2 + 1) ≤ bits ↔ number < 2 ^ bits := by
  split
  · rename_i zero
    rw [zero]
    exact ⟨fun _ => Nat.two_pow_pos bits, fun _ => Nat.zero_le bits⟩
  · rename_i nonzero
    rw [Nat.succ_le_iff, Nat.log2_lt nonzero]

/-- A width holds a number just when it is not below the least one. -/
theorem signedWidth_le_iff {width : Nat} {value : Int} (positive : 0 < width) :
    signedWidth value ≤ width ↔ Holds width value := by
  have bits := @bits_le_iff (if value < 0 then (-value - 1).toNat else value.toNat) (8 * width - 1)
  have within : (if value < 0 then (-value - 1).toNat else value.toNat) < half width ↔
      Holds width value := by
    unfold Holds
    split <;> omega
  rw [signedWidth, ← within, half, ← bits]
  omega

theorem holds_signedWidth (value : Int) : Holds (signedWidth value) value :=
  (signedWidth_le_iff (signedWidth_pos value)).1 (Nat.le_refl _)

end Bytes

namespace Numeral

/-! ### Digits -/

/-- Whether all characters of a text are ASCII digits. -/
def AllDigits (digits : List Char) : Prop :=
  ∀ c ∈ digits, c.isDigit = true

/-- The value of a digit. -/
def digitValue (c : Char) : Nat :=
  c.toNat - 0x30

theorem ofDigits_concat (base : Nat) (digits : List Nat) (digit : Nat) :
    ofDigits base (digits ++ [digit]) = ofDigits base digits * base + digit := by
  simp [ofDigits]

theorem ofDigits_append (base : Nat) (first second : List Nat) :
    ofDigits base (first ++ second) =
      ofDigits base first * base ^ second.length + ofDigits base second := by
  induction second using List.reverseRecOn with
  | nil => simp [ofDigits]
  | append_singleton second digit ih =>
    rw [← List.append_assoc, ofDigits_concat, ih, ofDigits_concat, List.length_append,
      List.length_singleton, Nat.pow_succ, Nat.add_mul, Nat.mul_assoc, Nat.add_assoc]

/-- Digits of a base spell a number below its power to their count. -/
theorem ofDigits_lt {base : Nat} {digits : List Nat} (small : ∀ digit ∈ digits, digit < base) :
    ofDigits base digits < base ^ digits.length := by
  induction digits using List.reverseRecOn with
  | nil => exact Nat.one_pos
  | append_singleton digits digit ih =>
    have last : digit < base := small digit (by simp)
    have before := ih fun other mem => small other (List.mem_append_left _ mem)
    rw [ofDigits_concat, List.length_append, List.length_singleton, Nat.pow_succ]
    calc
      ofDigits base digits * base + digit < (ofDigits base digits + 1) * base := by
        rw [Nat.succ_mul]
        omega
      _ ≤ base ^ digits.length * base := Nat.mul_le_mul_right base before

/-- The number of a text of digits. -/
def numberOf (digits : List Char) : Nat :=
  ofDigits 10 (digits.map digitValue)

theorem numberOf_append (first second : List Char) :
    numberOf (first ++ second) = numberOf first * 10 ^ second.length + numberOf second := by
  rw [numberOf, List.map_append, ofDigits_append, List.length_map]
  rfl

theorem allDigits_append {first second : List Char} :
    AllDigits (first ++ second) ↔ AllDigits first ∧ AllDigits second :=
  List.forall_mem_append

/-! ### Chunks of digits -/

/-- Digits of which there are not too many are a lenient numeral. -/
theorem decimal?_digits {digits : List Char} (nonempty : digits ≠ []) (all : AllDigits digits)
    (few : digits.length ≤ maxDigits) : decimal? digits = some (numberOf digits : Int) := by
  have noSign (sign : Char) (other : sign.isDigit = false) (rest : List Char) :
      digits ≠ sign :: rest := by
    rintro rfl
    exact absurd (all sign List.mem_cons_self) (by simp [other])
  have allowed : (guard ((digits.map digitValue).length ≤ maxDigits) : Option Unit) = some () :=
    if_pos (by rwa [List.length_map])
  have values : separated? Text.decimalDigit? digits = some (digits.map digitValue) :=
    separated?_digits nonempty all
  rw [decimal?, lenient?, Text.trimWhile_of_none fun c mem => not_isPadding_of_isDigit (all c mem)]
  split
  · exact absurd rfl (noSign '-' (by decide) _)
  · exact absurd rfl (noSign '+' (by decide) _)
  · rw [values, Option.bind_eq_bind, Option.bind_some, allowed]
    rfl

/-- One more chunk takes the number of the digits before it to that of the digits up to its end. -/
theorem withChunk?_take {digits : List Char} (all : AllDigits digits) {start : Nat}
    (within : start < digits.length) :
    withChunk? digits (numberOf (digits.take start)) start =
      some (numberOf (digits.take (start + chunkDigits)) : Int) := by
  have positive : 0 < chunkDigits := by decide
  have short : chunkDigits ≤ maxDigits := by decide
  rw [withChunk?, List.take_add]
  generalize cut : (digits.drop start).take chunkDigits = chunk
  have length : chunk.length = min chunkDigits (digits.length - start) := by
    rw [← cut, List.length_take, List.length_drop]
  have own : AllDigits chunk := fun c mem =>
    all c (List.mem_of_mem_drop (List.mem_of_mem_take (cut ▸ mem)))
  rw [decimal?_digits (List.length_pos_iff.1 (by omega)) own (by omega), numberOf_append]
  simp

/-- As many chunks as begin within the digits take nothing to the number of the digits up to their
end. -/
theorem foldlM_withChunk? {digits : List Char} (all : AllDigits digits) {count : Nat}
    (within : ∀ before < count, chunkDigits * before < digits.length) :
    (List.range' 0 count chunkDigits).foldlM (withChunk? digits) 0 =
      some (numberOf (digits.take (chunkDigits * count)) : Int) := by
  induction count with
  | zero => simp [numberOf, ofDigits]
  | succ count ih =>
    have last := within count (Nat.lt_succ_self count)
    rw [List.range'_concat, List.foldlM_append,
      ih fun before less => within before (Nat.lt_succ_of_lt less), Nat.mul_succ, Nat.zero_add,
      Option.bind_eq_bind, Option.bind_some, List.foldlM_cons, withChunk?_take all last]
    rfl

/-- Digits of any number are read as the number that they spell. -/
theorem ofChunks?_eq {digits : List Char} (all : AllDigits digits) :
    ofChunks? digits = some (numberOf digits : Int) := by
  have positive : 0 < chunkDigits := by decide
  -- The chunks begin within the digits, and no digits are left behind the last of them.
  have quotient := Nat.div_add_mod (digits.length + chunkDigits - 1) chunkDigits
  have remainder := Nat.mod_lt (digits.length + chunkDigits - 1) positive
  have within (before : Nat) (less : before < (digits.length + chunkDigits - 1) / chunkDigits) :
      chunkDigits * before < digits.length := by
    have begins := Nat.mul_le_mul_left chunkDigits (Nat.succ_le_of_lt less)
    rw [Nat.mul_succ] at begins
    omega
  rw [ofChunks?, foldlM_withChunk? all within, List.take_of_length_le (by omega)]

/-- A natural numeral is one or more digits. -/
theorem natural?_eq_some {digits : List Char} {number : Int} :
    natural? digits = some number ↔
      digits ≠ [] ∧ AllDigits digits ∧ number = numberOf digits := by
  have pattern : (digits.isEmpty || !digits.all Char.isDigit) = false ↔
      digits ≠ [] ∧ AllDigits digits := by
    simp [AllDigits]
  rw [natural?, ← and_assoc, ← pattern]
  cases h : digits.isEmpty || !digits.all Char.isDigit with
  | true => simp
  | false =>
    rw [if_neg (by simp), ofChunks?_eq (pattern.1 h).2]
    simp [eq_comm]

/-! ### Plain numerals -/

/-- The digits without leading zeros, of which a lone one stays. -/
def plainDigits (digits : List Char) : List Char :=
  match digits.dropWhile (· == '0') with
  | [] => ['0']
  | significant => significant

/-- The numeral without leading zeros, and without a minus sign before zero. -/
def plain (numeral : List Char) : List Char :=
  match numeral with
  | '-' :: digits => if plainDigits digits = ['0'] then ['0'] else '-' :: plainDigits digits
  | digits => plainDigits digits

theorem digitValue_lt {c : Char} (digit : c.isDigit = true) : digitValue c < 10 := by
  obtain ⟨low, high⟩ := Char.isDigit_iff_toNat.1 digit
  have low : 0x30 ≤ c.toNat := low
  have high : c.toNat ≤ 0x39 := high
  unfold digitValue
  omega

theorem digitValue_eq_zero {c : Char} (digit : c.isDigit = true) :
    digitValue c = 0 ↔ c = '0' := by
  obtain ⟨low, -⟩ := Char.isDigit_iff_toNat.1 digit
  have low : 0x30 ≤ c.toNat := low
  unfold digitValue
  constructor
  · intro zero
    exact Char.toNat_inj.1 (by show c.toNat = 0x30; omega)
  · rintro rfl
    rfl

/-- A digit is written as itself. -/
theorem toDigits_digitValue {c : Char} (digit : c.isDigit = true) :
    Nat.toDigits 10 (digitValue c) = [c] := by
  rw [Nat.toDigits_of_lt_base (digitValue_lt digit)]
  have point : c.toNat = 0x30 + digitValue c := by
    obtain ⟨low, -⟩ := Char.isDigit_iff_toNat.1 digit
    have low : 0x30 ≤ c.toNat := low
    unfold digitValue
    omega
  rw [List.singleton_inj, ← Char.toNat_inj, point]
  have small := digitValue_lt digit
  generalize digitValue c = value at small
  revert value
  decide

theorem numberOf_concat (digits : List Char) (c : Char) :
    numberOf (digits ++ [c]) = 10 * numberOf digits + digitValue c := by
  rw [numberOf, List.map_append, List.map_singleton, ofDigits_concat, Nat.mul_comm]
  rfl

/-- A number is zero just when all its digits are. -/
theorem numberOf_eq_zero {digits : List Char} (all : AllDigits digits) :
    numberOf digits = 0 ↔ digits.dropWhile (· == '0') = [] := by
  have zeros : numberOf digits = 0 ↔ ∀ c ∈ digits, c = '0' := by
    induction digits using List.reverseRecOn with
    | nil => simp [numberOf, ofDigits]
    | append_singleton digits c ih =>
      have last : digitValue c = 0 ↔ c = '0' := digitValue_eq_zero (all c (by simp))
      have before := ih fun other mem => all other (List.mem_append_left _ mem)
      rw [numberOf_concat, Nat.add_eq_zero_iff, last, Nat.mul_eq_zero, before,
        List.forall_mem_append]
      simp
  rw [zeros, List.dropWhile_eq_nil_iff]
  simp

/-- A number is written in the digits that it is read from, without the leading zeros. -/
theorem toDigits_numberOf {digits : List Char} (all : AllDigits digits) :
    Nat.toDigits 10 (numberOf digits) = plainDigits digits := by
  induction digits using List.reverseRecOn with
  | nil => rfl
  | append_singleton digits c ih =>
    have digit : c.isDigit = true := all c (by simp)
    have before : AllDigits digits := fun other mem => all other (List.mem_append_left _ mem)
    rw [numberOf_concat]
    by_cases zero : numberOf digits = 0
    · -- Only zeros stand before the last digit.
      rw [zero, Nat.mul_zero, Nat.zero_add, toDigits_digitValue digit, plainDigits,
        List.dropWhile_append, (numberOf_eq_zero before).1 zero]
      by_cases last : c = '0' <;> simp [last]
    · have some : digits.dropWhile (· == '0') ≠ [] := mt (numberOf_eq_zero before).2 zero
      rw [← Nat.toDigits_append_toDigits (by decide) (Nat.pos_of_ne_zero zero)
        (digitValue_lt digit), toDigits_digitValue digit, ih before, plainDigits, plainDigits,
        List.dropWhile_append]
      cases h : digits.dropWhile (· == '0') with
      | nil => exact absurd h some
      | cons first rest => simp

/-! ### Strict numerals -/

theorem plainDigits_of_eq_zero {digits : List Char} (all : AllDigits digits) :
    plainDigits digits = ['0'] ↔ numberOf digits = 0 := by
  rw [← toDigits_numberOf all]
  constructor
  · intro lone
    rw [← Nat.ofDigitChars_ten_toDigits (n := numberOf digits), lone]
    rfl
  · intro zero
    rw [zero, Nat.toDigits_zero]

theorem strict?_minus (digits : List Char) :
    strict? ('-' :: digits) = (natural? digits).map fun number => -number :=
  rfl

theorem strict?_unsigned {digits : List Char} (noSign : ∀ rest, digits ≠ '-' :: rest) :
    strict? digits = natural? digits := by
  rw [strict?]
  exact noSign

/-- A strict numeral stands for a number that is written as the plain numeral. -/
theorem write_of_strict? {text : List Char} {value : Int} (read : strict? text = some value) :
    (write value).toList = plain text := by
  rw [write_toList]
  by_cases signed : ∃ digits, text = '-' :: digits
  · obtain ⟨digits, rfl⟩ := signed
    rw [strict?_minus] at read
    obtain ⟨number, natural, rfl⟩ := Option.map_eq_some_iff.1 read
    obtain ⟨-, all, rfl⟩ := natural?_eq_some.1 natural
    have zero := plainDigits_of_eq_zero all
    rw [plain, Int.natAbs_neg, Int.natAbs_natCast, toDigits_numberOf all]
    -- Zero has no sign.
    by_cases lone : numberOf digits = 0
    · rw [if_neg (by omega), if_pos (zero.2 lone), zero.2 lone]
      rfl
    · rw [if_pos (by omega), if_neg (mt zero.1 lone)]
      rfl
  · have noSign : ∀ digits, text ≠ '-' :: digits := fun digits same => signed ⟨digits, same⟩
    rw [strict?_unsigned noSign] at read
    obtain ⟨-, all, rfl⟩ := natural?_eq_some.1 read
    rw [Int.natAbs_natCast, toDigits_numberOf all, if_neg (by omega), plain]
    · rfl
    · exact noSign

theorem allDigits_toDigits (number : Nat) : AllDigits (Nat.toDigits 10 number) :=
  fun _ mem => Nat.isDigit_of_mem_toDigits (by decide) (by decide) mem

theorem numberOf_toDigits (number : Nat) : numberOf (Nat.toDigits 10 number) = number :=
  ofDigits_toDigits number

theorem natural?_toDigits (number : Nat) :
    natural? (Nat.toDigits 10 number) = some (number : Int) :=
  natural?_eq_some.2 ⟨Nat.toDigits_ne_nil, allDigits_toDigits number, by rw [numberOf_toDigits]⟩

/-- A written number is a strict numeral for it. -/
theorem strict?_write (value : Int) : strict? (write value).toList = some value := by
  rw [write_toList]
  by_cases negative : value < 0
  · rw [if_pos negative, List.singleton_append, strict?_minus, natural?_toDigits]
    have same : -(value.natAbs : Int) = value := by omega
    exact congrArg some same
  · rw [if_neg negative, List.nil_append, strict?_unsigned, natural?_toDigits]
    · have same : (value.natAbs : Int) = value := by omega
      exact congrArg some same
    · -- The first character is a digit, so it is taken for no sign.
      intro digits same
      exact absurd (allDigits_toDigits value.natAbs '-' (by simp [same])) (by decide)

/-- No character of a written number is a blank. -/
theorem trim_write (value : Int) : Text.trim (write value).toList = (write value).toList := by
  refine Text.trimWhile_of_none fun c mem => ?_
  rcases mem_write mem with rfl | digit
  · decide
  · exact not_isBlank_of_isDigit digit

/-! ### Numbers of few digits -/

/-- Numbers of few digits are small. -/
theorem length_toString_le_iff {number : Nat} :
    (toString number).length ≤ maxDigits ↔ number < 10 ^ maxDigits := by
  have positive : 0 < maxDigits := by decide
  rw [Nat.toString_eq_ofList_toDigits, String.length_ofList]
  exact Nat.length_toDigits_le_iff (by decide) positive

/-- A number is written if it has no more digits than may be written. -/
theorem write?_of_lt {value : Int} (small : value.natAbs < 10 ^ maxDigits) :
    write? value = some (write value) :=
  if_pos (length_toString_le_iff.2 small)

/-- A number of more digits is not. -/
theorem write?_of_not_lt {value : Int} (large : ¬value.natAbs < 10 ^ maxDigits) :
    write? value = none :=
  if_neg fun short => large (length_toString_le_iff.1 short)

/-- What is read between underscores are values of digits. -/
theorem exists_digit_of_separated? {digit? : Char → Option Nat} {text : List Char}
    {values : List Nat} (read : separated? digit? text = some values) :
    ∀ value ∈ values, ∃ c, digit? c = some value := by
  fun_induction separated? digit? text generalizing values with
  | case1 => cases read
  | case2 c rest ih =>
    obtain ⟨first, digit, read⟩ := Option.bind_eq_some_iff.1 read
    -- After the first digit there is nothing, an underscore and more, or more at once.
    split at read
    · cases read
      simpa using ⟨c, digit⟩
    · obtain ⟨others, later, same⟩ := Option.bind_eq_some_iff.1 read
      cases same
      exact List.forall_mem_cons.2 ⟨⟨c, digit⟩, ih later⟩
    · simp only at ih
      obtain ⟨others, later, same⟩ := Option.bind_eq_some_iff.1 read
      cases same
      exact List.forall_mem_cons.2 ⟨⟨c, digit⟩, ih later⟩

/-- The digits after the sign of a lenient numeral spell its absolute value. -/
theorem exists_of_lenient? {magnitude? : List Char → Option Nat} {text : List Char} {value : Int}
    (read : lenient? magnitude? text = some value) :
    ∃ digits, magnitude? digits = some value.natAbs := by
  unfold lenient? at read
  split at read
  · obtain ⟨_, lifted, rfl⟩ := Option.map_eq_some_iff.1 read
    obtain ⟨number, found, same⟩ := Option.bind_eq_some_iff.1 lifted
    cases same
    rw [Int.natAbs_neg, Int.natAbs_natCast]
    exact ⟨_, found⟩
  · obtain ⟨number, found, rfl⟩ := Option.map_eq_some_iff.1 read
    exact ⟨_, found⟩
  · obtain ⟨number, found, rfl⟩ := Option.map_eq_some_iff.1 read
    exact ⟨_, found⟩

/-- A guard in front lets through just what it allows. -/
theorem guard_bind_eq_some {condition : Prop} [Decidable condition] {number : Nat}
    {rest : Unit → Option Nat} :
    (guard condition >>= rest) = some number ↔ condition ∧ rest () = some number := by
  unfold guard
  split
  · rename_i holds
    exact ⟨fun run => ⟨holds, run⟩, And.right⟩
  · rename_i fails
    constructor
    · intro run
      cases run
    · intro both
      exact absurd both.1 fails

/-- A lenient numeral has no more digits than may be written. -/
theorem natAbs_lt_of_decimal? {text : List Char} {value : Int}
    (read : decimal? text = some value) : value.natAbs < 10 ^ maxDigits := by
  obtain ⟨digits, found⟩ := exists_of_lenient? read
  obtain ⟨values, separated, found⟩ := Option.bind_eq_some_iff.1 found
  obtain ⟨few, same⟩ := guard_bind_eq_some.1 found
  have number : ofDigits 10 values = value.natAbs := Option.some.inj same
  have each : ∀ digit ∈ values, digit < 10 := fun digit mem => by
    obtain ⟨c, known⟩ := exists_digit_of_separated? separated digit mem
    exact Text.decimalDigit?_lt_ten known
  rw [← number]
  exact (ofDigits_lt each).trans_le (Nat.pow_le_pow_right (by decide) few)

end Numeral

end WideColumn
