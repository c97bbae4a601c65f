import WideColumn.Text.Utf8

/-!
# Texts and their bytes

The bytes of a text are those of the core library, so a byte string is well-formed just when it
spells some text. Decoding takes exactly these byte strings and gives the text that they spell:
`decode?_eq_some`.

A character of two, three or four bytes is a lead and tails of six bits each. Reading it back is
arithmetic on these parts, done once for each length; the shortest form is the only one that decodes.
-/

namespace WideColumn.Text.Utf8

/-- A byte string that is the byte form of a text. -/
def WellFormed (data : Bytes) : Prop :=
  data.toByteArray.IsValidUTF8

/-! ### The bytes of one character -/

section Character

variable {c : Char}

theorem toNat_lt (c : Char) : c.toNat < 0x110000 := by
  rcases c.valid with low | high
  · exact Nat.lt_trans low (by decide)
  · exact high.2

/-- A byte that carries on a character with six of its bits. -/
def tail (bits : Nat) : UInt8 :=
  UInt8.ofNat (0x80 + bits)

theorem encodeChar_one (high : c.toNat < 0x80) : encodeChar c = [UInt8.ofNat c.toNat] := by
  rw [encodeChar]
  exact if_pos high

theorem encodeChar_two (low : 0x80 ≤ c.toNat) (high : c.toNat < 0x800) :
    encodeChar c = [UInt8.ofNat (0xc0 + c.toNat / 64), tail (c.toNat % 64)] := by
  simp only [encodeChar, Nat.not_lt.2 low, high, if_true, if_false, Nat.shiftRight_eq_div_pow]
  simp [tail]

theorem encodeChar_three (low : 0x800 ≤ c.toNat) (high : c.toNat < 0x10000) :
    encodeChar c = [UInt8.ofNat (0xe0 + c.toNat / 64 / 64), tail (c.toNat / 64 % 64),
      tail (c.toNat % 64)] := by
  simp only [encodeChar, Nat.not_lt.2 low, Nat.not_lt.2 (Nat.le_trans (by decide) low : 0x80 ≤ _),
    high, if_true, if_false, Nat.shiftRight_eq_div_pow, Nat.div_div_eq_div_mul]
  simp [tail]

theorem encodeChar_four (low : 0x10000 ≤ c.toNat) :
    encodeChar c = [UInt8.ofNat (0xf0 + c.toNat / 64 / 64 / 64), tail (c.toNat / 64 / 64 % 64),
      tail (c.toNat / 64 % 64), tail (c.toNat % 64)] := by
  simp only [encodeChar, Nat.not_lt.2 low, Nat.not_lt.2 (Nat.le_trans (by decide) low : 0x80 ≤ _),
    Nat.not_lt.2 (Nat.le_trans (by decide) low : 0x800 ≤ _), if_false, Nat.shiftRight_eq_div_pow,
    Nat.div_div_eq_div_mul]
  simp [tail]

/-- The bytes of a character are those that the core library gives it. -/
theorem encodeChar_eq (c : Char) : encodeChar c = String.utf8EncodeChar c := by
  have bound := toNat_lt c
  have point : c.val.toNat = c.toNat := rfl
  have swap (first second : Nat) (same : first = second) : UInt8.ofNat first = UInt8.ofNat second :=
    congrArg UInt8.ofNat same
  unfold String.utf8EncodeChar
  simp only [point]
  by_cases one : c.toNat < 0x80
  · rw [encodeChar_one one, if_pos (by omega)]
  · rw [if_neg (by omega)]
    by_cases two : c.toNat < 0x800
    · rw [encodeChar_two (by omega) two, if_pos (by omega), tail]
      rw [swap _ _ (by omega : 0xc0 + c.toNat / 64 = c.toNat / 64 % 0x20 + 0xc0),
        swap _ _ (Nat.add_comm 0x80 (c.toNat % 64))]
    · rw [if_neg (by omega)]
      by_cases three : c.toNat < 0x10000
      · rw [encodeChar_three (by omega) three, if_pos (by omega), tail, tail]
        rw [swap _ _ (by omega : 0xe0 + c.toNat / 64 / 64 = c.toNat / 4096 % 0x10 + 0xe0),
          swap _ _ (Nat.add_comm 0x80 (c.toNat / 64 % 64)),
          swap _ _ (Nat.add_comm 0x80 (c.toNat % 64))]
      · rw [encodeChar_four (by omega), if_neg (by omega), tail, tail, tail]
        rw [swap _ _ (by omega : 0xf0 + c.toNat / 64 / 64 / 64 = c.toNat / 262144 % 0x08 + 0xf0),
          swap _ _ (by omega : 0x80 + c.toNat / 64 / 64 % 64 = c.toNat / 4096 % 0x40 + 0x80),
          swap _ _ (Nat.add_comm 0x80 (c.toNat / 64 % 64)),
          swap _ _ (Nat.add_comm 0x80 (c.toNat % 64))]

end Character

/-- The bytes of a text are those that the core library gives it. -/
theorem encode_eq (text : List Char) : encode text = text.flatMap String.utf8EncodeChar := by
  rw [encode, funext encodeChar_eq]

theorem wellFormed_iff {data : Bytes} : WellFormed data ↔ ∃ text, data = encode text := by
  constructor
  · rintro ⟨text, same⟩
    refine ⟨text, ?_⟩
    rw [encode_eq]
    exact List.toByteArray_inj.1 same
  · rintro ⟨text, rfl⟩
    exact ⟨text, by rw [encode_eq]; rfl⟩

/-! ### The parts of a character -/

theorem tailBits?_tail {bits : Nat} (small : bits < 64) : tailBits? (tail bits) = some bits := by
  have byte : (tail bits).toNat = 0x80 + bits := by
    rw [tail, UInt8.toNat_ofNat']
    omega
  rw [tailBits?, byte, if_pos (by omega), Nat.add_sub_cancel_left]

theorem tailBits?_eq_some {byte : UInt8} {bits : Nat} (found : tailBits? byte = some bits) :
    bits < 64 ∧ byte = tail bits := by
  unfold tailBits? at found
  split at found
  · rename_i within
    have rest := Option.some.inj found
    refine ⟨by omega, UInt8.toNat_inj.1 ?_⟩
    rw [tail, UInt8.toNat_ofNat']
    omega
  · cases found

theorem charFrom?_toNat {least : Nat} {c : Char} (above : least ≤ c.toNat) :
    charFrom? least c.toNat = some c := by
  rw [charFrom?, if_pos ⟨above, c.valid⟩, Char.ofNat_toNat]

theorem charFrom?_eq_some {least point : Nat} {c : Char} (found : charFrom? least point = some c) :
    least ≤ point ∧ c.toNat = point := by
  rw [charFrom?] at found
  split at found
  · rename_i known
    rw [← Option.some.inj found]
    exact ⟨known.1, by rw [Char.ofNat, dif_pos known.2]; rfl⟩
  · cases found

/-! ### Texts -/

/-- The number of a lead byte. -/
theorem toNat_lead {lead : Nat} (small : lead < 0x100) : (UInt8.ofNat lead).toNat = lead := by
  rw [UInt8.toNat_ofNat']
  exact Nat.mod_eq_of_lt small

/-- Decoding takes the bytes of a character off and goes on behind them. -/
theorem decode?_encodeChar (c : Char) (rest : Bytes) :
    decode? (encodeChar c ++ rest) = (decode? rest).bind fun more => some (c :: more) := by
  have bound := toNat_lt c
  have split (number : Nat) : number / 64 * 64 + number % 64 = number := Nat.div_add_mod' number 64
  rw [decode?.eq_def]
  by_cases one : c.toNat < 0x80
  · rw [encodeChar_one one]
    simp only [List.cons_append, List.nil_append, toNat_lead (by omega : c.toNat < 0x100)]
    rw [if_pos one, Char.ofNat_toNat]
    rfl
  by_cases two : c.toNat < 0x800
  · rw [encodeChar_two (by omega) two]
    simp only [List.cons_append, List.nil_append,
      toNat_lead (by omega : 0xc0 + c.toNat / 64 < 0x100)]
    rw [if_neg (by omega), if_pos (by omega), tailBits?_tail (by omega)]
    simp only [Nat.add_sub_cancel_left, Option.bind_eq_bind, Option.bind_some, split,
      charFrom?_toNat (by omega : 0x80 ≤ c.toNat)]
    rfl
  by_cases three : c.toNat < 0x10000
  · rw [encodeChar_three (by omega) three]
    simp only [List.cons_append, List.nil_append,
      toNat_lead (by omega : 0xe0 + c.toNat / 64 / 64 < 0x100)]
    rw [if_neg (by omega), if_neg (by omega), if_pos (by omega), tailBits?_tail (by omega),
      tailBits?_tail (by omega)]
    simp only [Nat.add_sub_cancel_left, Option.bind_eq_bind, Option.bind_some, split,
      charFrom?_toNat (by omega : 0x800 ≤ c.toNat)]
    rfl
  · rw [encodeChar_four (by omega)]
    simp only [List.cons_append, List.nil_append,
      toNat_lead (by omega : 0xf0 + c.toNat / 64 / 64 / 64 < 0x100)]
    rw [if_neg (by omega), if_neg (by omega), if_neg (by omega), if_pos (by omega),
      tailBits?_tail (by omega), tailBits?_tail (by omega), tailBits?_tail (by omega)]
    simp only [Nat.add_sub_cancel_left, Option.bind_eq_bind, Option.bind_some, split,
      charFrom?_toNat (by omega : 0x10000 ≤ c.toNat)]
    rfl

theorem decode?_encode (text : List Char) : decode? (encode text) = some text := by
  induction text with
  | nil => rfl
  | cons c text ih =>
    rw [encode, List.flatMap_cons, decode?_encodeChar, ← encode, ih]
    rfl

section Parts

variable {first : UInt8} {c : Char} {high middle low : Nat}

theorem eq_ofNat {lead : Nat} (same : first.toNat = lead) : first = UInt8.ofNat lead := by
  rw [← same, UInt8.ofNat_toNat]

/-- A character that was put together from a lead and a tail has these two bytes. -/
theorem encodeChar_of_two (range : 0xc0 ≤ first.toNat ∧ first.toNat < 0xe0) (lowSmall : low < 64)
    (above : 0x80 ≤ (first.toNat - 0xc0) * 64 + low)
    (point : c.toNat = (first.toNat - 0xc0) * 64 + low) : encodeChar c = [first, tail low] := by
  rw [encodeChar_two (by omega) (by omega)]
  rw [eq_ofNat (by omega : first.toNat = 0xc0 + c.toNat / 64), (by omega : c.toNat % 64 = low)]

theorem encodeChar_of_three (range : 0xe0 ≤ first.toNat ∧ first.toNat < 0xf0)
    (middleSmall : middle < 64) (lowSmall : low < 64)
    (above : 0x800 ≤ ((first.toNat - 0xe0) * 64 + middle) * 64 + low)
    (point : c.toNat = ((first.toNat - 0xe0) * 64 + middle) * 64 + low) :
    encodeChar c = [first, tail middle, tail low] := by
  rw [encodeChar_three (by omega) (by omega)]
  rw [eq_ofNat (by omega : first.toNat = 0xe0 + c.toNat / 64 / 64),
    (by omega : c.toNat / 64 % 64 = middle), (by omega : c.toNat % 64 = low)]

theorem encodeChar_of_four (range : 0xf0 ≤ first.toNat ∧ first.toNat < 0xf8) (highSmall : high < 64)
    (middleSmall : middle < 64) (lowSmall : low < 64)
    (above : 0x10000 ≤ (((first.toNat - 0xf0) * 64 + high) * 64 + middle) * 64 + low)
    (point : c.toNat = (((first.toNat - 0xf0) * 64 + high) * 64 + middle) * 64 + low) :
    encodeChar c = [first, tail high, tail middle, tail low] := by
  rw [encodeChar_four (by omega)]
  rw [eq_ofNat (by omega : first.toNat = 0xf0 + c.toNat / 64 / 64 / 64),
    (by omega : c.toNat / 64 / 64 % 64 = high), (by omega : c.toNat / 64 % 64 = middle),
    (by omega : c.toNat % 64 = low)]

end Parts

/-- What decodes begins with the bytes of a character, and what is behind them decodes as well. -/
theorem exists_of_decode? {first : UInt8} {rest : Bytes} {text : List Char}
    (read : decode? (first :: rest) = some text) :
    ∃ c more later, text = c :: more ∧ first :: rest = encodeChar c ++ later ∧
      decode? later = some more := by
  rw [decode?.eq_def] at read
  simp only at read
  by_cases one : first.toNat < 0x80
  · rw [if_pos one] at read
    obtain ⟨more, later, same⟩ := Option.bind_eq_some_iff.1 read
    cases same
    have point : (Char.ofNat first.toNat).toNat = first.toNat := by
      rw [Char.ofNat, dif_pos (.inl (by omega))]
      rfl
    refine ⟨_, more, rest, rfl, ?_, later⟩
    rw [encodeChar_one (by omega), point, UInt8.ofNat_toNat]
    rfl
  rw [if_neg one] at read
  by_cases two : 0xc0 ≤ first.toNat ∧ first.toNat < 0xe0
  · rw [if_pos two] at read
    split at read
    · rename_i second rest
      obtain ⟨low, lowBits, read⟩ := Option.bind_eq_some_iff.1 read
      obtain ⟨c, found, read⟩ := Option.bind_eq_some_iff.1 read
      obtain ⟨more, later, same⟩ := Option.bind_eq_some_iff.1 read
      obtain ⟨lowSmall, rfl⟩ := tailBits?_eq_some lowBits
      obtain ⟨above, point⟩ := charFrom?_eq_some found
      cases same
      refine ⟨c, more, rest, rfl, ?_, later⟩
      rw [encodeChar_of_two two lowSmall above point]
      rfl
    · cases read
  rw [if_neg two] at read
  by_cases three : 0xe0 ≤ first.toNat ∧ first.toNat < 0xf0
  · rw [if_pos three] at read
    split at read
    · rename_i second third rest
      obtain ⟨middle, middleBits, read⟩ := Option.bind_eq_some_iff.1 read
      obtain ⟨low, lowBits, read⟩ := Option.bind_eq_some_iff.1 read
      obtain ⟨c, found, read⟩ := Option.bind_eq_some_iff.1 read
      obtain ⟨more, later, same⟩ := Option.bind_eq_some_iff.1 read
      obtain ⟨middleSmall, rfl⟩ := tailBits?_eq_some middleBits
      obtain ⟨lowSmall, rfl⟩ := tailBits?_eq_some lowBits
      obtain ⟨above, point⟩ := charFrom?_eq_some found
      cases same
      refine ⟨c, more, rest, rfl, ?_, later⟩
      rw [encodeChar_of_three three middleSmall lowSmall above point]
      rfl
    · cases read
  rw [if_neg three] at read
  by_cases four : 0xf0 ≤ first.toNat ∧ first.toNat < 0xf8
  · rw [if_pos four] at read
    split at read
    · rename_i second third fourth rest
      obtain ⟨high, highBits, read⟩ := Option.bind_eq_some_iff.1 read
      obtain ⟨middle, middleBits, read⟩ := Option.bind_eq_some_iff.1 read
      obtain ⟨low, lowBits, read⟩ := Option.bind_eq_some_iff.1 read
      obtain ⟨c, found, read⟩ := Option.bind_eq_some_iff.1 read
      obtain ⟨more, later, same⟩ := Option.bind_eq_some_iff.1 read
      obtain ⟨highSmall, rfl⟩ := tailBits?_eq_some highBits
      obtain ⟨middleSmall, rfl⟩ := tailBits?_eq_some middleBits
      obtain ⟨lowSmall, rfl⟩ := tailBits?_eq_some lowBits
      obtain ⟨above, point⟩ := charFrom?_eq_some found
      cases same
      refine ⟨c, more, rest, rfl, ?_, later⟩
      rw [encodeChar_of_four four highSmall middleSmall lowSmall above point]
      rfl
    · cases read
  · rw [if_neg four] at read
    cases read

/-- A decoded text has the bytes that it was decoded from. -/
theorem encode_of_decode? {data : Bytes} {text : List Char} (read : decode? data = some text) :
    encode text = data := by
  induction text generalizing data with
  | nil =>
    cases data with
    | nil => rfl
    | cons first rest =>
      obtain ⟨c, more, later, same, -⟩ := exists_of_decode? read
      cases same
  | cons c text ih =>
    cases data with
    | nil => cases read
    | cons first rest =>
      obtain ⟨found, more, later, same, bytes, readLater⟩ := exists_of_decode? read
      cases same
      rw [bytes, ← ih readLater]
      rfl

theorem decode?_eq_some {data : Bytes} {text : List Char} :
    decode? data = some text ↔ data = encode text :=
  ⟨fun read => (encode_of_decode? read).symm, fun same => same ▸ decode?_encode text⟩

/-- What is not the byte form of a text is not decoded. -/
theorem decode?_eq_none {data : Bytes} (malformed : ¬WellFormed data) : decode? data = none := by
  cases read : decode? data with
  | none => rfl
  | some text => exact absurd (wellFormed_iff.2 ⟨text, decode?_eq_some.1 read⟩) malformed

end WideColumn.Text.Utf8
