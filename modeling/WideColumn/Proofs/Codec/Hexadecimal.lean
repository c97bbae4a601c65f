import WideColumn.Proofs.Codec.Numbers

/-!
# Bytes in hexadecimal digits

A byte is two hexadecimal digits, so a byte string and the list of its digit values say the same. The
values are read back from the digits that they are written in, and what was read from digits of
either letter case is written in the small ones (`lowercase_of_mapM`).
-/

namespace WideColumn

namespace Bytes

/-! ### Digits -/

/-- What holds of the first 128 code points holds of every ASCII character. -/
theorem forall_of_ascii {motive : Char → Prop}
    (each : ∀ point < 0x80, motive (Char.ofNat point)) {c : Char} (ascii : c.toNat < 0x80) :
    motive c := by
  have found := each c.toNat ascii
  rwa [Char.ofNat_toNat] at found

theorem ascii_of_hexDigit? {c : Char} {value : Nat} (digit : hexDigit? c = some value) :
    c.toNat < 0x80 := by
  have below {last : Char} (small : last.toNat < 0x80) (within : c ≤ last) : c.toNat < 0x80 :=
    Nat.lt_of_le_of_lt (Char.le_def.1 within) small
  unfold hexDigit? at digit
  split at digit
  · rename_i range
    exact below (by decide) range.2
  · split at digit
    · rename_i range
      exact below (by decide) range.2
    · split at digit
      · rename_i range
        exact below (by decide) range.2
      · cases digit

/-- The digits in small letters. -/
def digitChars : List Char :=
  ['0', '1', '2', '3', '4', '5', '6', '7', '8', '9', 'a', 'b', 'c', 'd', 'e', 'f']

theorem hexDigit?_hexDigit : ∀ value < 16, hexDigit? (hexDigit value) = some value := by
  decide

theorem hexDigit_mem : ∀ value < 16, hexDigit value ∈ digitChars := by
  decide

/-- A digit stands for a number below sixteen, whose digit is the small letter. -/
theorem hexDigit_of_hexDigit? {c : Char} {value : Nat} (digit : hexDigit? c = some value) :
    value < 16 ∧ hexDigit value = c.toLower := by
  exact forall_of_ascii
    (motive := fun c => ∀ value ∈ hexDigit? c, value < 16 ∧ hexDigit value = c.toLower)
    (by decide) (ascii_of_hexDigit? digit) value digit

/-- Digits are written from their values in small letters. -/
theorem lowercase_of_mapM {digits : List Char} {values : List Nat}
    (read : digits.mapM hexDigit? = some values) :
    (∀ value ∈ values, value < 16) ∧ values.map hexDigit = digits.map Char.toLower := by
  induction mapM_eq_some.1 read with
  | nil => simp
  | cons first others ih =>
    obtain ⟨small, lower⟩ := hexDigit_of_hexDigit? first
    obtain ⟨allSmall, allLower⟩ := ih (mapM_eq_some.2 others)
    exact ⟨List.forall_mem_cons.2 ⟨small, allSmall⟩, by rw [List.map_cons, lower, allLower]; rfl⟩

/-- Values are read back from their digits. -/
theorem mapM_hexDigit {values : List Nat} (small : ∀ value ∈ values, value < 16) :
    (values.map hexDigit).mapM hexDigit? = some values := by
  rw [mapM_eq_some, List.forall₂_map_left_iff, List.forall₂_same]
  exact fun value mem => hexDigit?_hexDigit value (small value mem)

/-! ### Bytes -/

/-- The digit values of bytes. -/
def nibbles (data : Bytes) : List Nat :=
  data.flatMap fun byte => [byte.toNat / 16, byte.toNat % 16]

theorem nibbles_cons (byte : UInt8) (data : Bytes) :
    nibbles (byte :: data) = byte.toNat / 16 :: byte.toNat % 16 :: nibbles data :=
  rfl

theorem hexDigits_eq (data : Bytes) : data.hexDigits = (nibbles data).map hexDigit := by
  rw [hexDigits, nibbles, List.map_flatMap]
  rfl

theorem nibbles_lt (data : Bytes) : ∀ value ∈ nibbles data, value < 16 := by
  induction data with
  | nil => simp [nibbles]
  | cons byte data ih =>
    have small := byte.toNat_lt
    simp only [nibbles_cons, List.mem_cons, forall_eq_or_imp]
    exact ⟨by omega, by omega, ih⟩

theorem length_nibbles (data : Bytes) : (nibbles data).length = 2 * data.length := by
  induction data with
  | nil => rfl
  | cons byte data ih =>
    simp only [nibbles_cons, List.length_cons, ih]
    omega

/-- Bytes are spelled by their digits. -/
theorem ofHexValues_nibbles (data : Bytes) : ofHexValues (nibbles data) = data := by
  induction data with
  | nil => rfl
  | cons byte data ih =>
    rw [nibbles_cons, ofHexValues, ih, Nat.div_add_mod', UInt8.ofNat_toNat]

/-- An even number of digit values are those of the bytes that they spell. -/
theorem nibbles_ofHexValues {values : List Nat} (small : ∀ value ∈ values, value < 16)
    (even : values.length % 2 = 0) : nibbles (ofHexValues values) = values := by
  induction values using ofHexValues.induct with
  | case1 high low rest ih =>
    simp only [List.mem_cons, forall_eq_or_imp] at small
    obtain ⟨highSmall, lowSmall, restSmall⟩ := small
    have byte : (UInt8.ofNat (high * 16 + low)).toNat = high * 16 + low := by
      rw [UInt8.toNat_ofNat']
      omega
    rw [ofHexValues, nibbles_cons, byte, ih restSmall (by simp only [List.length_cons] at even; omega),
      (by omega : (high * 16 + low) / 16 = high), (by omega : (high * 16 + low) % 16 = low)]
  | case2 values short =>
    -- Fewer than two values, and an even number of them, are none.
    cases values with
    | nil => rfl
    | cons value rest =>
      cases rest with
      | nil => simp at even
      | cons next more => exact absurd rfl (short value next more)

/-! ### Numbers -/

/-- A number is written in the digits whose values spell it. -/
theorem hexOfNat_ofDigits {values : List Nat} (small : ∀ value ∈ values, value < 16) :
    hexOfNat values.length (Numeral.ofDigits 16 values) = values.map hexDigit := by
  induction values using List.reverseRecOn with
  | nil => rfl
  | append_singleton values value ih =>
    have last : value < 16 := small value (by simp)
    rw [Numeral.ofDigits_concat, List.length_append, List.length_singleton, hexOfNat,
      (by omega : (Numeral.ofDigits 16 values * 16 + value) / 16 = Numeral.ofDigits 16 values),
      (by omega : (Numeral.ofDigits 16 values * 16 + value) % 16 = value),
      ih fun other mem => small other (List.mem_append_left _ mem), List.map_append]
    rfl

/-- The values of the digits that a number is written in. -/
theorem exists_values (width number : Nat) : ∃ values : List Nat, values.length = width ∧
    (∀ value ∈ values, value < 16) ∧ hexOfNat width number = values.map hexDigit ∧
      Numeral.ofDigits 16 values = number % 16 ^ width := by
  induction width generalizing number with
  | zero => exact ⟨[], rfl, by simp, rfl, (Nat.mod_one number).symm⟩
  | succ width ih =>
    obtain ⟨values, length, small, written, spelled⟩ := ih (number / 16)
    refine ⟨values ++ [number % 16], by simp [length], ?_, ?_, ?_⟩
    · simp only [List.forall_mem_append, List.forall_mem_singleton]
      exact ⟨small, Nat.mod_lt _ (by decide)⟩
    · rw [hexOfNat, written, List.map_append]
      rfl
    · rw [Numeral.ofDigits_concat, spelled, Nat.pow_succ, Nat.mul_comm (16 ^ width) 16, Nat.mod_mul]
      omega

end Bytes

end WideColumn
