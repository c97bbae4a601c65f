import WideColumn.Proofs.Codec.RoundTrip
import WideColumn.Proofs.Codec.Ties

/-!
# Stored bytes are in the order of what they mean

A validator compares the bytes that it makes of two literals as the literals compare by what they
mean (`Validator.MeansLess`, `Validator.sortKey_lt_iff`): numbers as numbers, texts by their code
points, hexadecimal digits by the bytes that they spell, identifiers as numbers of 128 bits, and
time-based ones by the time in them before anything else.

Three encodings carry this. Byte strings of one length compare as the numbers that they are
(`Bytes.lt_iff_toNat_lt`). The bytes of a character come before those of a greater one at a byte that
both have, so what follows them does not matter (`Text.Utf8.leads_encodeChar`). And the time of an
identifier is put together from three fields that do not stand in its order (`Uuid.hasTime_iff`).
-/

namespace WideColumn

/-! ### Byte strings of one length -/

namespace Bytes

theorem toNat_cons (byte : UInt8) (data : Bytes) :
    toNat (byte :: data) = byte.toNat * 256 ^ data.length + toNat data := by
  induction data using List.reverseRecOn with
  | nil => simp [toNat]
  | append_singleton data last ih =>
    rw [← List.cons_append, toNat_concat, ih, toNat_concat, List.length_append,
      List.length_singleton, Nat.pow_succ, Nat.add_mul, Nat.mul_assoc, Nat.add_assoc]

theorem cons_lt_cons_iff {byte other : UInt8} {rest more : Bytes} :
    byte :: rest < other :: more ↔
      byte.toNat < other.toNat ∨ byte.toNat = other.toNat ∧ rest < more := by
  rw [List.cons_lt_cons_iff, UInt8.lt_iff_toNat_lt, UInt8.toNat_inj]

theorem append_lt_append_iff (front : Bytes) {rest more : Bytes} :
    front ++ rest < front ++ more ↔ rest < more := by
  induction front with
  | nil => exact Iff.rfl
  | cons byte front ih =>
    rw [List.cons_append, List.cons_append, cons_lt_cons_iff, ih]
    simp

/-- The first digits decide where they differ. -/
theorem lt_of_first_lt {digit other rest more range : Nat} (less : digit < other)
    (small : rest < range) : digit * range + rest < other * range + more := by
  have step := Nat.mul_le_mul_right range (Nat.succ_le_of_lt less)
  rw [Nat.succ_mul] at step
  omega

/-- Byte strings of one length compare as the numbers that they are. -/
theorem lt_iff_toNat_lt {first second : Bytes} (same : first.length = second.length) :
    first < second ↔ first.toNat < second.toNat := by
  induction first generalizing second with
  | nil =>
    obtain rfl := List.length_eq_zero_iff.1 same.symm
    simp
  | cons byte rest ih =>
    cases second with
    | nil => cases same
    | cons other more =>
      have width : rest.length = more.length := Nat.succ.inj same
      have small : toNat rest < 256 ^ more.length := width ▸ toNat_lt rest
      have below : toNat more < 256 ^ more.length := toNat_lt more
      rw [cons_lt_cons_iff, toNat_cons, toNat_cons, ih width, width]
      rcases Nat.lt_trichotomy byte.toNat other.toNat with less | equal | above
      · exact iff_of_true (.inl less) (lt_of_first_lt less small)
      · rw [equal]
        omega
      · have after : other.toNat * _ + toNat more < byte.toNat * _ + toNat rest :=
          lt_of_first_lt above below
        omega

theorem hex_injective {data other : Bytes} (same : data.hex = other.hex) : data = other := by
  obtain ⟨shown, decoded, encoded⟩ := Validator.decode_bytes data
  obtain ⟨shown', decoded', encoded'⟩ := Validator.decode_bytes other
  cases decoded
  cases decoded'
  rw [same] at encoded
  exact Except.ok.inj (encoded.symm.trans encoded')

end Bytes

/-! ### Texts -/

namespace Text.Utf8

/-- Whether one byte string comes before another, whatever comes behind each of them. -/
def Leads (first second : Bytes) : Prop :=
  ∀ rest more, first ++ rest < second ++ more

/-- The bytes of a character, by how many there are. -/
theorem encodeChar_cases (c : Char) :
    (c.toNat < 0x80 ∧ encodeChar c = [UInt8.ofNat c.toNat]) ∨
    (0x80 ≤ c.toNat ∧ c.toNat < 0x800 ∧
      encodeChar c = [UInt8.ofNat (0xc0 + c.toNat / 64), tail (c.toNat % 64)]) ∨
    (0x800 ≤ c.toNat ∧ c.toNat < 0x10000 ∧
      encodeChar c = [UInt8.ofNat (0xe0 + c.toNat / 64 / 64), tail (c.toNat / 64 % 64),
        tail (c.toNat % 64)]) ∨
    (0x10000 ≤ c.toNat ∧ c.toNat < 0x110000 ∧
      encodeChar c = [UInt8.ofNat (0xf0 + c.toNat / 64 / 64 / 64), tail (c.toNat / 64 / 64 % 64),
        tail (c.toNat / 64 % 64), tail (c.toNat % 64)]) := by
  have bound := toNat_lt c
  by_cases one : c.toNat < 0x80
  · exact .inl ⟨one, encodeChar_one one⟩
  by_cases two : c.toNat < 0x800
  · exact .inr (.inl ⟨by omega, two, encodeChar_two (by omega) two⟩)
  by_cases three : c.toNat < 0x10000
  · exact .inr (.inr (.inl ⟨by omega, three, encodeChar_three (by omega) three⟩))
  · exact .inr (.inr (.inr ⟨by omega, bound, encodeChar_four (by omega)⟩))

/-- The bytes of a character lead those of a greater one. -/
theorem leads_encodeChar {c d : Char} (below : c.toNat < d.toNat) :
    Leads (encodeChar c) (encodeChar d) := by
  intro rest more
  -- More bytes have a greater lead; as many are the parts of the two points, the highest one first.
  rcases encodeChar_cases c with ⟨high, bytes⟩ | ⟨low, high, bytes⟩ | ⟨low, high, bytes⟩ |
      ⟨low, high, bytes⟩ <;>
    rcases encodeChar_cases d with ⟨high', bytes'⟩ | ⟨low', high', bytes'⟩ |
      ⟨low', high', bytes'⟩ | ⟨low', high', bytes'⟩ <;>
    rw [bytes, bytes'] <;>
    simp only [List.cons_append, Bytes.cons_lt_cons_iff, tail, UInt8.toNat_ofNat'] <;>
    omega

theorem encodeChar_ne_nil (c : Char) : encodeChar c ≠ [] := by
  rcases encodeChar_cases c with ⟨-, bytes⟩ | ⟨-, -, bytes⟩ | ⟨-, -, bytes⟩ | ⟨-, -, bytes⟩ <;>
    rw [bytes] <;> exact List.cons_ne_nil _ _

/-- The bytes of texts are in the order of the code points. -/
theorem encode_lt_iff (first second : List Char) :
    encode first < encode second ↔ first.map Char.toNat < second.map Char.toNat := by
  induction first generalizing second with
  | nil =>
    cases second with
    | nil => exact iff_of_false (List.lt_irrefl _) (List.lt_irrefl _)
    | cons d more =>
      have after : [] < encode (d :: more) := by
        obtain ⟨byte, others, bytes⟩ := List.exists_cons_of_ne_nil (encodeChar_ne_nil d)
        rw [encode, List.flatMap_cons, bytes]
        exact List.nil_lt_cons _ _
      exact iff_of_true after (List.nil_lt_cons _ _)
  | cons c rest ih =>
    cases second with
    | nil => exact iff_of_false (List.not_lt_nil _) (List.not_lt_nil _)
    | cons d more =>
      rw [encode, encode, List.flatMap_cons, List.flatMap_cons, ← encode, ← encode, List.map_cons,
        List.map_cons, List.cons_lt_cons_iff]
      rcases Nat.lt_trichotomy c.toNat d.toNat with less | equal | above
      · exact iff_of_true (leads_encodeChar less _ _) (.inl less)
      · obtain rfl := Char.toNat_inj.1 equal
        rw [Bytes.append_lt_append_iff, ih]
        simp
      · have after := leads_encodeChar above (encode more) (encode rest)
        refine iff_of_false (fun before => List.lt_asymm before after) ?_
        omega

end Text.Utf8

/-! ### Numerals and identifiers -/

/-- Whether a text is a decimal numeral for a number: one or more digits that spell it, or a minus
sign and digits that spell its negative. -/
inductive Numeral.Denotes : List Char → Int → Prop
  | natural {digits : List Char} (nonempty : digits ≠ []) (all : AllDigits digits) :
    Denotes digits (numberOf digits)
  | negative {digits : List Char} (nonempty : digits ≠ []) (all : AllDigits digits) :
    Denotes ('-' :: digits) (-(numberOf digits : Int))

theorem Numeral.denotes_iff {text : List Char} {value : Int} :
    Denotes text value ↔ strict? text = some value := by
  constructor
  · intro denotes
    cases denotes with
    | @natural digits nonempty all =>
      rw [strict?_unsigned, natural?_eq_some.2 ⟨nonempty, all, rfl⟩]
      rintro rest rfl
      exact absurd (all '-' List.mem_cons_self) (by decide)
    | negative nonempty all =>
      rw [strict?_minus, natural?_eq_some.2 ⟨nonempty, all, rfl⟩]
      rfl
  · intro read
    by_cases signed : ∃ digits, text = '-' :: digits
    · obtain ⟨digits, rfl⟩ := signed
      rw [strict?_minus] at read
      obtain ⟨number, natural, rfl⟩ := Option.map_eq_some_iff.1 read
      obtain ⟨nonempty, all, rfl⟩ := natural?_eq_some.1 natural
      exact .negative nonempty all
    · rw [strict?_unsigned fun digits same => signed ⟨digits, same⟩] at read
      obtain ⟨nonempty, all, rfl⟩ := natural?_eq_some.1 read
      exact .natural nonempty all

/-- Whether an identifier has a time in it. From the highest bit on it is made of the low part of the
time, the middle one, the version, the high part of the time, and bits of another meaning. -/
def Uuid.HasTime (value time : Nat) : Prop :=
  ∃ low middle version high rest, low < 2 ^ 32 ∧ middle < 2 ^ 16 ∧ version < 2 ^ 4 ∧
    high < 2 ^ 12 ∧ rest < 2 ^ 64 ∧
    value = low * 2 ^ 96 + middle * 2 ^ 80 + version * 2 ^ 76 + high * 2 ^ 64 + rest ∧
    time = high * 2 ^ 48 + middle * 2 ^ 32 + low

/-- Every identifier has one time. -/
theorem Uuid.hasTime_iff {value found : Nat} (small : value < 2 ^ 128) :
    HasTime value found ↔ found = time value := by
  have fields : time value =
      value / 2 ^ 64 % 2 ^ 12 * 2 ^ 48 + value / 2 ^ 80 % 2 ^ 16 * 2 ^ 32 + value / 2 ^ 96 := by
    simp only [time, bitsAt, Nat.shiftRight_eq_div_pow, Nat.shiftLeft_eq, Nat.one_mul]
  rw [fields]
  constructor
  · rintro ⟨low, middle, version, high, rest, lowSmall, middleSmall, versionSmall, highSmall,
      restSmall, same, rfl⟩
    have first : value / 2 ^ 96 = low := by omega
    have second : value / 2 ^ 80 % 2 ^ 16 = middle := by omega
    have third : value / 2 ^ 64 % 2 ^ 12 = high := by omega
    rw [first, second, third]
  · rintro rfl
    refine ⟨value / 2 ^ 96, value / 2 ^ 80 % 2 ^ 16, value / 2 ^ 76 % 2 ^ 4,
      value / 2 ^ 64 % 2 ^ 12, value % 2 ^ 64, ?_, ?_, ?_, ?_, ?_, ?_, rfl⟩ <;> omega

/-! ### Sort keys -/

namespace SortKey

/-- Keys compare from left to right. -/
theorem lt_iff (first second : SortKey) : first.lt second = true ↔
    first.measure.1 < second.measure.1 ∨ first.measure.1 = second.measure.1 ∧
      (first.measure.2.1 < second.measure.2.1 ∨ first.measure.2.1 = second.measure.2.1 ∧
        first.measure.2.2 < second.measure.2.2) := by
  unfold SortKey.lt
  generalize first.measure = one
  generalize second.measure = two
  obtain ⟨rank, value, data⟩ := one
  obtain ⟨rank', value', data'⟩ := two
  simp only [Bool.or_eq_true, Bool.and_eq_true, decide_eq_true_eq, beq_iff_eq]

theorem number_lt {value other : Int} :
    (number value).lt (number other) = true ↔ value < other := by
  simp [lt_iff, measure]

theorem instant_lt {time later : Nat} {data other : Bytes} :
    (instant time data).lt (instant later other) = true ↔
      time < later ∨ time = later ∧ data < other := by
  simp [lt_iff, measure, Int.natCast_inj]

theorem plain_lt {data other : Bytes} : (plain data).lt (plain other) = true ↔ data < other := by
  simp [lt_iff, measure]

end SortKey

/-! ### Meanings -/

namespace Validator

/-- Whether a literal means less than another one: as a text by its code points, as hexadecimal
digits by the bytes that these spell, as a number, or as an identifier by its number of 128 bits; a
time-based one by its time and then by its bytes. -/
def MeansLess (validator : Validator) (first second : String) : Prop :=
  match validator with
  | utf8 => first.toList.map Char.toNat < second.toList.map Char.toNat
  | bytes => ∃ data other : Bytes, bytes.Canonical first data.hex ∧ bytes.Canonical second other.hex ∧
      data < other
  | long | integer => ∃ value other, Numeral.Denotes (Text.trim first.toList) value ∧
      Numeral.Denotes (Text.trim second.toList) other ∧ value < other
  | lexicalUuid => ∃ value other, Uuid.read? (Text.trim first.toList) = some value ∧
      Uuid.read? (Text.trim second.toList) = some other ∧ value < other
  | timeUuid => ∃ value other, Uuid.read? (Text.trim first.toList) = some value ∧
      Uuid.read? (Text.trim second.toList) = some other ∧
      ∃ time later, Uuid.HasTime value time ∧ Uuid.HasTime other later ∧
        (time < later ∨ time = later ∧ Uuid.bytes value < Uuid.bytes other)
  | counter => False

variable {validator : Validator} {first second : String} {data other : Bytes}

/-- What two literals mean compares as the one thing does that each of them means. -/
theorem exists_means_iff {α : Type} {means means' : α → Prop} {value value' : α}
    (one : ∀ found, means found ↔ value = found) (two : ∀ found, means' found ↔ value' = found)
    (less : α → α → Prop) :
    (∃ found found', means found ∧ means' found' ∧ less found found') ↔ less value value' := by
  simp only [one, two]
  constructor
  · rintro ⟨_, _, rfl, rfl, holds⟩
    exact holds
  · exact fun holds => ⟨_, _, rfl, rfl, holds⟩

theorem numbers_lt_iff {value value' : Int}
    (read : Numeral.strict? (Text.trim first.toList) = some value)
    (read' : Numeral.strict? (Text.trim second.toList) = some value') :
    (∃ found found', Numeral.Denotes (Text.trim first.toList) found ∧
      Numeral.Denotes (Text.trim second.toList) found' ∧ found < found') ↔ value < value' :=
  exists_means_iff (fun found => by rw [Numeral.denotes_iff, read, Option.some_inj])
    (fun found => by rw [Numeral.denotes_iff, read', Option.some_inj]) _

theorem identifiers_iff {value value' : Nat} {text text' : List Char}
    (read : Uuid.read? text = some value) (read' : Uuid.read? text' = some value')
    (less : Nat → Nat → Prop) :
    (∃ found found', Uuid.read? text = some found ∧ Uuid.read? text' = some found' ∧
      less found found') ↔ less value value' :=
  exists_means_iff (fun found => by rw [read, Option.some_inj])
    (fun found => by rw [read', Option.some_inj]) less

theorem times_lt_iff {value value' : Nat} (small : value < 2 ^ 128) (small' : value' < 2 ^ 128)
    (tied : Prop) :
    (∃ time later, Uuid.HasTime value time ∧ Uuid.HasTime value' later ∧
      (time < later ∨ time = later ∧ tied)) ↔
      Uuid.time value < Uuid.time value' ∨ Uuid.time value = Uuid.time value' ∧ tied :=
  exists_means_iff (fun found => by rw [Uuid.hasTime_iff small, eq_comm])
    (fun found => by rw [Uuid.hasTime_iff small', eq_comm])
    fun time later => time < later ∨ time = later ∧ tied

theorem sortKey_ofInt {value : Int} (holds : Bytes.Holds 8 value) :
    long.sortKey (Bytes.ofInt 8 value) = .number value := by
  rw [sortKey, if_pos (Bytes.length_ofInt 8 value), Bytes.toInt_ofInt (by decide) holds]

theorem sortKey_shortest (value : Int) :
    integer.sortKey (Bytes.shortest value) = .number value := by
  rw [sortKey, if_neg (by simpa using (stores_shortest value).1), toInt_shortest]

theorem bytes_lt_iff {value value' : Nat} (small : value < 2 ^ 128) (small' : value' < 2 ^ 128) :
    Uuid.bytes value < Uuid.bytes value' ↔ value < value' := by
  rw [Bytes.lt_iff_toNat_lt (by rw [Uuid.bytes, Uuid.bytes, Bytes.length_ofNat, Bytes.length_ofNat]),
    toNat_bytes small, toNat_bytes small']

theorem sortKey_uuid {value : Nat} (small : value < 2 ^ 128) :
    timeUuid.sortKey (Uuid.bytes value) = .instant (Uuid.time value) (Uuid.bytes value) := by
  have length : (Uuid.bytes value).length = 16 := Bytes.length_ofNat 16 value
  rw [sortKey, if_pos length, toNat_bytes small]

theorem canonical_hex_iff (encoded : bytes.encodeFixed first = .ok data) (found : Bytes) :
    bytes.Canonical first found.hex ↔ data = found := by
  have own : bytes.Canonical first data.hex := canonical_of_encodeFixed encoded rfl
  refine ⟨fun canonical => Bytes.hex_injective (String.toList_inj.1 (own.trans canonical.symm)), ?_⟩
  rintro rfl
  exact own

/-- The sort keys of the bytes of two literals compare as the literals do by what they mean. -/
theorem sortKey_lt_of_encodeFixed (encoded : validator.encodeFixed first = .ok data)
    (encoded' : validator.encodeFixed second = .ok other) :
    (validator.sortKey data).lt (validator.sortKey other) = true ↔
      validator.MeansLess first second := by
  cases validator with
  | utf8 =>
    cases encoded
    cases encoded'
    exact SortKey.plain_lt.trans (Text.Utf8.encode_lt_iff _ _)
  | bytes =>
    exact SortKey.plain_lt.trans
      (exists_means_iff (canonical_hex_iff encoded) (canonical_hex_iff encoded') _).symm
  | long =>
    obtain ⟨value, read, holds, rfl⟩ := encodeFixed_long.1 encoded
    obtain ⟨value', read', holds', rfl⟩ := encodeFixed_long.1 encoded'
    rw [sortKey_ofInt holds, sortKey_ofInt holds', SortKey.number_lt]
    exact (numbers_lt_iff read read').symm
  | integer =>
    obtain ⟨value, read, rfl⟩ := encodeFixed_integer.1 encoded
    obtain ⟨value', read', rfl⟩ := encodeFixed_integer.1 encoded'
    rw [sortKey_shortest, sortKey_shortest, SortKey.number_lt]
    exact (numbers_lt_iff read read').symm
  | lexicalUuid =>
    obtain ⟨value, read, same⟩ := encodeFixed_lexicalUuid.1 encoded
    obtain ⟨value', read', same'⟩ := encodeFixed_lexicalUuid.1 encoded'
    have keys := bytes_lt_iff (Uuid.read?_eq_some.1 read).2.2 (Uuid.read?_eq_some.1 read').2.2
    rw [same, same']
    exact SortKey.plain_lt.trans (keys.trans (identifiers_iff read read' _).symm)
  | timeUuid =>
    obtain ⟨value, read, -, same⟩ := encodeFixed_timeUuid.1 encoded
    obtain ⟨value', read', -, same'⟩ := encodeFixed_timeUuid.1 encoded'
    have small := (Uuid.read?_eq_some.1 read).2.2
    have small' := (Uuid.read?_eq_some.1 read').2.2
    rw [same, same', sortKey_uuid small, sortKey_uuid small', SortKey.instant_lt, MeansLess,
      identifiers_iff read read', times_lt_iff small small']
  | counter => cases encoded

/-- Literals that stand for themselves are stored as bytes that sort by what the literals mean. -/
theorem sortKey_lt_iff {supply supply' left left' : Supply}
    (fixed : validator.isNow first = false) (fixed' : validator.isNow second = false)
    (encoded : validator.encode first supply = (.ok data, left))
    (encoded' : validator.encode second supply' = (.ok other, left')) :
    (validator.sortKey data).lt (validator.sortKey other) = true ↔
      validator.MeansLess first second := by
  rw [encode_of_not_isNow supply fixed] at encoded
  rw [encode_of_not_isNow supply' fixed'] at encoded'
  exact sortKey_lt_of_encodeFixed (Prod.mk.inj encoded).1 (Prod.mk.inj encoded').1

/-- A number of two bytes below one of one byte, and an identifier with the earlier time although its
bytes are the greater ones. -/
theorem sortKey_lt_iff_integer_time :
    integer.MeansLess " -129" "5" ∧
      timeUuid.MeansLess "FFFFFFFF-0000-1000-8000-000000000000"
        "00000000-0001-1000-8000-000000000000" ∧
      ¬Uuid.bytes 0xffffffff000010008000000000000000 < Uuid.bytes 0x110008000000000000000 := by
  let supply : Supply := { timeId := fun number => Uuid.timeBased number 0, randomId := Uuid.random }
  refine ⟨?_, ?_, by decide +kernel⟩
  · have encoded : integer.encode " -129" supply = (.ok [0xff, 0x7f], supply) := by
      rw [encode_of_not_isNow supply rfl]
      rfl
    have encoded' : integer.encode "5" supply = (.ok [5], supply) := by
      rw [encode_of_not_isNow supply rfl]
      rfl
    exact (sortKey_lt_iff rfl rfl encoded encoded').1 (by decide +kernel)
  · have encoded (text : String) (value : Nat) (fixed : timeUuid.isNow text = false)
        (read : Uuid.read? (Text.trim text.toList) = some value)
        (first : Uuid.version? value = some 1) :
        timeUuid.encode text supply = (.ok (Uuid.bytes value), supply) := by
      rw [encode_of_not_isNow supply fixed, encodeFixed_timeUuid.2 ⟨value, read, first, rfl⟩]
    have fixed : timeUuid.isNow "FFFFFFFF-0000-1000-8000-000000000000" = false := by decide +kernel
    have fixed' : timeUuid.isNow "00000000-0001-1000-8000-000000000000" = false := by decide +kernel
    refine (sortKey_lt_iff fixed fixed'
      (encoded _ 0xffffffff000010008000000000000000 fixed (by decide +kernel) (by decide +kernel))
      (encoded _ 0x110008000000000000000 fixed' (by decide +kernel) (by decide +kernel))).1 ?_
    decide +kernel

end Validator

end WideColumn
