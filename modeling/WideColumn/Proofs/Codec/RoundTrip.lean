import WideColumn.Proofs.Codec.Identifiers
import WideColumn.Proofs.Codec.Integers
import WideColumn.Proofs.Codec.Utf8
import WideColumn.Proofs.Success

/-!
# Codecs invert each other

Every byte string that a validator stores is shown as a text that stands for it again
(`encode_decode`), and a validator stores whatever bytes it makes of a literal (`stores_of_encode`).
So what a literal is shown as stands for the same bytes. It is the literal in its canonical form: a
text itself, a numeral without leading zeros, hexadecimal digits in small letters and of an even
number, an identifier in small digits between dashes.
-/

namespace WideColumn

/-- A supply whose time-based identifiers are such. -/
def Supply.Genuine (supply : Supply) : Prop :=
  ∀ number, Uuid.IsTimeBased (supply.timeId number)

namespace Validator

/-! ### Stored bytes and canonical texts -/

/-- The byte strings that stand for a text, a number or an identifier: well-formed ones, eight bytes,
two's complement of the least width, sixteen bytes, of version one for time-based identifiers. -/
def Stores : Validator → Bytes → Prop
  | utf8, data => Text.Utf8.WellFormed data
  | bytes, _ => True
  | long, data => data.length = 8
  | integer, data =>
    data ≠ [] ∧ ∀ other : Bytes, other ≠ [] → other.toInt = data.toInt → data.length ≤ other.length
  | lexicalUuid, data => data.length = 16
  | timeUuid, data => data.length = 16 ∧ Uuid.version? data.toNat = some 1
  | counter, _ => False

/-- An identifier in its canonical form: small digits between dashes that spell the number which was
read, and which are the digits that were read if these are plain ones. -/
def CanonicalUuid (text shown : List Char) : Prop :=
  ∃ digits values, Uuid.Hyphenated digits shown ∧ (∀ c ∈ digits, c ∈ Bytes.digitChars) ∧
    digits.mapM Bytes.hexDigit? = some values ∧
    Uuid.read? (Text.trim text) = some (Numeral.ofDigits 16 values) ∧
    (((Uuid.digitsOf (Text.trim text)).mapM Bytes.hexDigit?).isSome →
      digits = (Uuid.digitsOf (Text.trim text)).map Char.toLower)

/-- The canonical form of a literal. -/
def Canonical (validator : Validator) (text shown : String) : Prop :=
  match validator with
  | utf8 => shown = text
  | bytes => shown.toList =
      (if text.length % 2 = 0 then [] else ['0']) ++ text.toList.map Char.toLower
  | long | integer => shown.toList = Numeral.plain (Text.trim text.toList)
  | lexicalUuid | timeUuid => CanonicalUuid text.toList shown.toList
  | counter => False

variable {validator : Validator} {text : String} {data : Bytes}

theorem ne_nil_of_length {length : Nat} (long : data.length = length + 1) : data ≠ [] :=
  List.ne_nil_of_length_eq_add_one long

/-! ### Texts -/

theorem decode_utf8 (stores : utf8.Stores data) :
    ∃ shown, utf8.decode data = .ok shown ∧ utf8.encodeFixed shown = .ok data := by
  obtain ⟨chars, rfl⟩ := Text.Utf8.wellFormed_iff.1 stores
  refine ⟨String.ofList chars, ?_, ?_⟩
  · rw [decode, Text.Utf8.decode?_encode]
  · rw [encodeFixed, String.toList_ofList]

/-! ### Hexadecimal digits -/

/-- A literal of bytes is made of hexadecimal digits only. -/
theorem encodeHexadecimal_eq_ok : encodeHexadecimal text = .ok data ↔
    ∃ values, text.toList.mapM Bytes.hexDigit? = some values ∧
      data = Bytes.ofHexValues (if values.length % 2 = 0 then values else 0 :: values) := by
  unfold encodeHexadecimal
  by_cases broken : text.toList.getLast? = some '\n'
  · -- A line break is no digit, and is refused wherever the digits before it end.
    simp only [broken, if_true]
    constructor
    · intro encoded
      split at encoded <;> cases encoded
    · rintro ⟨values, read, -⟩
      have noBreak := Numeral.forall_of_mapM read fun c value digit => by
        show c ≠ '\n'
        rintro rfl
        cases digit
      exact absurd rfl (noBreak '\n' (List.mem_of_getLast? broken))
  · simp only [broken, if_false]
    cases read : text.toList.mapM Bytes.hexDigit? with
    | none => simp
    | some values => simp [eq_comm]

theorem decode_bytes (data : Bytes) :
    ∃ shown, bytes.decode data = .ok shown ∧ bytes.encodeFixed shown = .ok data := by
  refine ⟨data.hex, rfl, encodeHexadecimal_eq_ok.2 ⟨Bytes.nibbles data, ?_, ?_⟩⟩
  · rw [Bytes.hex, String.toList_ofList, Bytes.hexDigits_eq,
      Bytes.mapM_hexDigit (Bytes.nibbles_lt data)]
  · rw [if_pos (by rw [Bytes.length_nibbles]; omega), Bytes.ofHexValues_nibbles]

theorem canonical_bytes (encoded : bytes.encodeFixed text = .ok data) :
    ∃ shown, bytes.decode data = .ok shown ∧ bytes.Canonical text shown := by
  obtain ⟨values, read, rfl⟩ := encodeHexadecimal_eq_ok.1 encoded
  obtain ⟨small, lower⟩ := Bytes.lowercase_of_mapM read
  have count : values.length = text.length := (mapM_eq_some.1 read).length_eq.symm
  refine ⟨_, rfl, ?_⟩
  rw [Canonical, Bytes.hex, String.toList_ofList, Bytes.hexDigits_eq, ← lower, ← count]
  by_cases even : values.length % 2 = 0
  · rw [if_pos even, if_pos even, Bytes.nibbles_ofHexValues small even]
    rfl
  · rw [if_neg even, if_neg even, Bytes.nibbles_ofHexValues]
    · rfl
    · exact List.forall_mem_cons.2 ⟨by decide, small⟩
    · rw [List.length_cons]
      omega

/-! ### Numbers -/

theorem numberOf_eq_ok {value : Int} :
    validator.numberOf text = .ok value ↔ Numeral.strict? (Text.trim text.toList) = some value := by
  cases read : Numeral.strict? (Text.trim text.toList) <;> simp [numberOf, read]

theorem encodeLong_eq_ok {value : Int} :
    encodeLong value = .ok data ↔ Bytes.Holds 8 value ∧ data = Bytes.ofInt 8 value := by
  have range : Bytes.Holds 8 value ↔ -0x8000000000000000 ≤ value ∧ value ≤ 0x7fffffffffffffff := by
    unfold Bytes.Holds Bytes.half
    omega
  unfold encodeLong
  rw [range, shownInteger_eq]
  split
  · rename_i within
    simp [within, eq_comm]
  · rename_i outside
    simp [outside, bind, Except.bind, throw, throwThe, MonadExceptOf.throw]

theorem encodeFixed_long : long.encodeFixed text = .ok data ↔
    ∃ value, Numeral.strict? (Text.trim text.toList) = some value ∧ Bytes.Holds 8 value ∧
      data = Bytes.ofInt 8 value := by
  rw [encodeFixed, bind_eq_ok]
  simp only [numberOf_eq_ok, encodeLong_eq_ok]

theorem encodeFixed_integer : integer.encodeFixed text = .ok data ↔
    ∃ value, Numeral.strict? (Text.trim text.toList) = some value ∧
      data = Bytes.shortest value := by
  rw [encodeFixed, bind_eq_ok]
  simp only [numberOf_eq_ok, encodeInteger_eq, Except.ok.injEq]
  exact exists_congr fun value => and_congr_right fun _ => eq_comm

/-- Eight bytes are shown as the number that they hold. -/
theorem decode_of_length (length : data.length = 8) :
    long.decode data = .ok (Numeral.write data.toInt) := by
  rw [decode, decodeLong, if_neg (by simpa using ne_nil_of_length length), if_pos length]

/-- Bytes of any number are shown as the number that they hold. -/
theorem decode_of_ne_nil (nonempty : data ≠ []) :
    integer.decode data = .ok (Numeral.write data.toInt) := by
  rw [decode, if_neg (by simpa using nonempty), shownInteger_eq]

theorem decode_long (stores : long.Stores data) :
    ∃ shown, long.decode data = .ok shown ∧ long.encodeFixed shown = .ok data := by
  have length : data.length = 8 := stores
  refine ⟨_, decode_of_length length, encodeFixed_long.2 ⟨data.toInt, ?_, ?_, ?_⟩⟩
  · rw [Numeral.trim_write, Numeral.strict?_write]
  · exact length ▸ Bytes.holds_toInt (ne_nil_of_length length)
  · exact length ▸ (Bytes.ofInt_toInt data).symm

theorem toInt_shortest (value : Int) : (Bytes.shortest value).toInt = value :=
  Bytes.toInt_ofInt (Bytes.signedWidth_pos value) (Bytes.holds_signedWidth value)

/-- The least width is that of the number. -/
theorem shortest_toInt (stores : integer.Stores data) : Bytes.shortest data.toInt = data := by
  obtain ⟨nonempty, least⟩ := stores
  have positive := Bytes.signedWidth_pos data.toInt
  have above : Bytes.signedWidth data.toInt ≤ data.length :=
    (Bytes.signedWidth_le_iff (List.length_pos_iff.2 nonempty)).2 (Bytes.holds_toInt nonempty)
  -- The bytes that are written stand for the same number, so they are no fewer.
  have below : data.length ≤ Bytes.signedWidth data.toInt := by
    have bound := least (Bytes.shortest data.toInt)
      (by rw [← List.length_pos_iff, Bytes.shortest, Bytes.length_ofInt]; exact positive)
      (toInt_shortest data.toInt)
    rwa [Bytes.shortest, Bytes.length_ofInt] at bound
  rw [Bytes.shortest, Nat.le_antisymm above below, Bytes.ofInt_toInt]

theorem stores_shortest (value : Int) : integer.Stores (Bytes.shortest value) := by
  have positive := Bytes.signedWidth_pos value
  refine ⟨?_, fun other nonempty same => ?_⟩
  · rw [← List.length_pos_iff, Bytes.shortest, Bytes.length_ofInt]
    exact positive
  · rw [toInt_shortest] at same
    rw [Bytes.shortest, Bytes.length_ofInt,
      Bytes.signedWidth_le_iff (List.length_pos_iff.2 nonempty), ← same]
    exact Bytes.holds_toInt nonempty

theorem decode_integer (stores : integer.Stores data) :
    ∃ shown, integer.decode data = .ok shown ∧ integer.encodeFixed shown = .ok data := by
  refine ⟨_, decode_of_ne_nil stores.1, encodeFixed_integer.2 ⟨data.toInt, ?_, ?_⟩⟩
  · rw [Numeral.trim_write, Numeral.strict?_write]
  · exact (shortest_toInt stores).symm

/-! ### Identifiers -/

theorem uuidOf_eq_ok {value : Nat} :
    validator.uuidOf text = .ok value ↔ Uuid.read? (Text.trim text.toList) = some value := by
  cases read : Uuid.read? (Text.trim text.toList) <;> simp [uuidOf, read]

theorem encodeFixed_lexicalUuid : lexicalUuid.encodeFixed text = .ok data ↔
    ∃ value, Uuid.read? (Text.trim text.toList) = some value ∧ data = Uuid.bytes value := by
  rw [encodeFixed, bind_eq_ok]
  simp only [uuidOf_eq_ok, pure, Except.pure, Except.ok.injEq]
  exact exists_congr fun value => and_congr_right fun _ => eq_comm

theorem encodeFixed_timeUuid : timeUuid.encodeFixed text = .ok data ↔
    ∃ value, Uuid.read? (Text.trim text.toList) = some value ∧ Uuid.version? value = some 1 ∧
      data = Uuid.bytes value := by
  rw [encodeFixed, encodeTimeUuid, bind_eq_ok]
  simp only [uuidOf_eq_ok]
  refine exists_congr fun value => and_congr_right fun _ => ?_
  split
  · rename_i first
    simp [first, pure, Except.pure, eq_comm]
  · rename_i other
    simp [other, throw, throwThe, MonadExceptOf.throw]

/-- Sixteen bytes are shown as the identifier with their number. -/
theorem decodeUuid_of_length (length : data.length = 16) :
    decodeUuid data = .ok (Uuid.write data.toNat) := by
  rw [decodeUuid, if_neg (by simpa using ne_nil_of_length length), if_pos length]

theorem read?_write_toNat (length : data.length = 16) :
    Uuid.read? (Text.trim (Uuid.write data.toNat).toList) = some data.toNat := by
  have small := data.toNat_lt
  rw [length] at small
  rw [Uuid.trim_write, Uuid.read?_write (by omega)]

theorem bytes_toNat (length : data.length = 16) : Uuid.bytes data.toNat = data := by
  rw [Uuid.bytes, ← length, Bytes.ofNat_toNat]

theorem toNat_bytes {value : Nat} (small : value < 2 ^ 128) : (Uuid.bytes value).toNat = value := by
  rw [Uuid.bytes, Bytes.toNat_ofNat]
  exact Nat.mod_eq_of_lt (by omega)

theorem decode_lexicalUuid (stores : lexicalUuid.Stores data) :
    ∃ shown, lexicalUuid.decode data = .ok shown ∧ lexicalUuid.encodeFixed shown = .ok data :=
  ⟨_, decodeUuid_of_length stores,
    encodeFixed_lexicalUuid.2 ⟨_, read?_write_toNat stores, (bytes_toNat stores).symm⟩⟩

theorem decode_timeUuid (stores : timeUuid.Stores data) :
    ∃ shown, timeUuid.decode data = .ok shown ∧ timeUuid.encodeFixed shown = .ok data :=
  ⟨_, decodeUuid_of_length stores.1, encodeFixed_timeUuid.2
    ⟨_, read?_write_toNat stores.1, stores.2, (bytes_toNat stores.1).symm⟩⟩

/-- The bytes of a time-based identifier are such. -/
theorem stores_timeUuid {value : Nat} (timeBased : Uuid.IsTimeBased value) :
    timeUuid.Stores (Uuid.bytes value) := by
  refine ⟨Bytes.length_ofNat 16 value, ?_⟩
  rw [toNat_bytes timeBased.1]
  exact timeBased.2

theorem canonicalUuid_write {value : Nat} (read : Uuid.read? (Text.trim text.toList) = some value) :
    CanonicalUuid text.toList (Uuid.write value).toList := by
  obtain ⟨length, -, small⟩ := Uuid.read?_eq_some.1 read
  cases plain : (Uuid.digitsOf (Text.trim text.toList)).mapM Bytes.hexDigit? with
  | none =>
    obtain ⟨digits, values, hyphenated, each, spelled, rfl⟩ := Uuid.exists_write small
    exact ⟨digits, values, hyphenated, each, spelled, read, by simp [plain]⟩
  | some values =>
    obtain rfl : Numeral.ofDigits 16 values = value :=
      Option.some.inj ((Uuid.read?_of_mapM length plain).symm.trans read)
    obtain ⟨bounded, lower⟩ := Bytes.lowercase_of_mapM plain
    refine ⟨_, values, Uuid.write_of_digits length plain, ?_, ?_, read, fun _ => rfl⟩
    · rw [← lower]
      exact List.forall_mem_map.2 fun value mem => Bytes.hexDigit_mem value (bounded value mem)
    · rw [← lower, Bytes.mapM_hexDigit bounded]

/-- The bytes of an identifier are shown as its canonical form. -/
theorem canonicalUuid_of_decodeUuid {value : Nat} {shown : String}
    (read : Uuid.read? (Text.trim text.toList) = some value)
    (decoded : decodeUuid (Uuid.bytes value) = .ok shown) :
    CanonicalUuid text.toList shown.toList := by
  have length : (Uuid.bytes value).length = 16 := Bytes.length_ofNat 16 value
  rw [decodeUuid_of_length length, toNat_bytes (Uuid.read?_eq_some.1 read).2.2] at decoded
  obtain rfl := Except.ok.inj decoded
  exact canonicalUuid_write read

/-! ### Literals that stand for themselves -/

/-- What a validator makes of a literal, it stores. -/
theorem stores_of_encodeFixed (encoded : validator.encodeFixed text = .ok data) :
    validator.Stores data := by
  cases validator with
  | utf8 =>
    cases encoded
    exact Text.Utf8.wellFormed_iff.2 ⟨_, rfl⟩
  | bytes => trivial
  | long =>
    obtain ⟨value, -, -, rfl⟩ := encodeFixed_long.1 encoded
    exact Bytes.length_ofInt 8 value
  | integer =>
    obtain ⟨value, -, rfl⟩ := encodeFixed_integer.1 encoded
    exact stores_shortest value
  | lexicalUuid =>
    obtain ⟨value, -, same⟩ := encodeFixed_lexicalUuid.1 encoded
    rw [same]
    exact Bytes.length_ofNat 16 value
  | timeUuid =>
    obtain ⟨value, read, first, same⟩ := encodeFixed_timeUuid.1 encoded
    rw [same]
    exact stores_timeUuid ⟨(Uuid.read?_eq_some.1 read).2.2, first⟩
  | counter => cases encoded

/-- What a validator stores is shown as a literal for it. -/
theorem decode_of_stores (stores : validator.Stores data) :
    ∃ shown, validator.decode data = .ok shown ∧ validator.encodeFixed shown = .ok data := by
  cases validator with
  | utf8 => exact decode_utf8 stores
  | bytes => exact decode_bytes data
  | long => exact decode_long stores
  | integer => exact decode_integer stores
  | lexicalUuid => exact decode_lexicalUuid stores
  | timeUuid => exact decode_timeUuid stores
  | counter => exact stores.elim

/-- The bytes of a literal are shown as its canonical form. -/
theorem canonical_of_encodeFixed {shown : String} (encoded : validator.encodeFixed text = .ok data)
    (decoded : validator.decode data = .ok shown) : validator.Canonical text shown := by
  cases validator with
  | utf8 =>
    cases encoded
    rw [decode, Text.Utf8.decode?_encode] at decoded
    cases decoded
    exact String.ofList_toList
  | bytes =>
    obtain ⟨other, decoded', canonical⟩ := canonical_bytes encoded
    cases decoded.symm.trans decoded'
    exact canonical
  | long =>
    obtain ⟨value, read, holds, rfl⟩ := encodeFixed_long.1 encoded
    rw [decode_of_length (Bytes.length_ofInt 8 value), Bytes.toInt_ofInt (by decide) holds] at decoded
    cases decoded
    exact Numeral.write_of_strict? read
  | integer =>
    obtain ⟨value, read, rfl⟩ := encodeFixed_integer.1 encoded
    rw [decode_of_ne_nil (stores_shortest value).1, toInt_shortest] at decoded
    cases decoded
    exact Numeral.write_of_strict? read
  | lexicalUuid =>
    obtain ⟨value, read, same⟩ := encodeFixed_lexicalUuid.1 encoded
    rw [same] at decoded
    exact canonicalUuid_of_decodeUuid read decoded
  | timeUuid =>
    obtain ⟨value, read, -, same⟩ := encodeFixed_timeUuid.1 encoded
    rw [same] at decoded
    exact canonicalUuid_of_decodeUuid read decoded
  | counter => cases encoded

/-! ### Literals for fresh identifiers -/

/-- No text becomes shorter in small letters. -/
theorem length_le_lower (text : List Char) : text.length ≤ (Text.lower text).length := by
  have after : ∀ before, text.length ≤ (Text.lowerAfter before text).length := by
    induction text with
    | nil => simp
    | cons c rest ih =>
      intro before
      have one : 1 ≤ (Text.lowerIn before c rest).length := by
        unfold Text.lowerIn
        split_ifs <;> simp
      have others := ih (c :: before)
      rw [Text.lowerAfter, List.length_append, List.length_cons]
      omega
  exact after []

/-- A written identifier is too long to ask for a fresh one. -/
theorem isNow_write (value : Nat) : validator.isNow (Uuid.write value) = false := by
  have long : 36 ≤ (Text.lower (Uuid.write value).toList).length := by
    refine le_trans ?_ (length_le_lower _)
    rw [(Uuid.hyphenated_write value).length_eq]
  have other : Text.lowered (Uuid.write value) ≠ "now" := fun same => by
    rw [← String.toList_inj, Text.lowered, String.toList_ofList] at same
    rw [same] at long
    exact absurd long (by decide)
  rw [isNow, beq_false_of_ne other, Bool.and_false]

/-- What time-based identifiers are shown as stands for itself. -/
theorem isNow_of_decode {shown : String} (stores : validator.Stores data)
    (decoded : validator.decode data = .ok shown) : validator.isNow shown = false := by
  cases validator with
  | timeUuid =>
    rw [decode, decodeUuid_of_length stores.1] at decoded
    obtain rfl := Except.ok.inj decoded
    exact isNow_write _
  | _ => rfl

theorem encode_of_isNow (supply : Supply) (now : validator.isNow text = true) :
    validator.encode text supply =
      (.ok (Uuid.bytes (supply.timeId (supply.timesDrawn + 1))),
        { supply with timesDrawn := supply.timesDrawn + 1 }) := by
  rw [encode, if_pos now]
  rfl

theorem encode_of_not_isNow (supply : Supply) (fixed : validator.isNow text = false) :
    validator.encode text supply = (validator.encodeFixed text, supply) := by
  rw [encode, fixed]
  rfl

/-- What a validator makes of a literal, it stores, fresh identifiers included. -/
theorem stores_of_encode {supply left : Supply} (genuine : supply.Genuine)
    (encoded : validator.encode text supply = (.ok data, left)) : validator.Stores data := by
  cases now : validator.isNow text with
  | false =>
    rw [encode_of_not_isNow supply now] at encoded
    exact stores_of_encodeFixed (Prod.mk.inj encoded).1
  | true =>
    rw [encode_of_isNow supply now] at encoded
    obtain rfl := Except.ok.inj (Prod.mk.inj encoded).1
    obtain ⟨rfl, -⟩ : validator = timeUuid ∧ _ := by simpa [isNow] using now
    exact stores_timeUuid (genuine _)

/-- What a validator stores is shown as a literal for it, for which nothing is drawn. -/
theorem encode_decode (stores : validator.Stores data) :
    ∃ shown, validator.decode data = .ok shown ∧
      ∀ supply, validator.encode shown supply = (.ok data, supply) := by
  obtain ⟨shown, decoded, encoded⟩ := decode_of_stores stores
  refine ⟨shown, decoded, fun supply => ?_⟩
  rw [encode_of_not_isNow supply (isNow_of_decode stores decoded), encoded]

/-! ### Round trips -/

/-- Every literal that a validator takes is shown in its canonical form, which stands for the same
bytes; the bytes that a validator stores are shown as a literal that stands for them; and bytes that
are no text are not shown as one. -/
theorem codec_roundTrip (validator : Validator) :
    (∀ text data supply left, supply.Genuine → validator.encode text supply = (.ok data, left) →
      ∃ shown, validator.decode data = .ok shown ∧
        (∀ later, validator.encode shown later = (.ok data, later)) ∧
        (validator.isNow text = false → validator.Canonical text shown)) ∧
      (∀ data, validator.Stores data → ∃ shown, validator.decode data = .ok shown ∧
        ∀ supply, validator.encode shown supply = (.ok data, supply)) ∧
      ∀ data, ¬Text.Utf8.WellFormed data →
        utf8.decode data = .error (.literal (.notUtf8 data)) := by
  refine ⟨fun text data supply left genuine encoded => ?_, fun data stores => encode_decode stores,
    fun data malformed => ?_⟩
  · obtain ⟨shown, decoded, again⟩ := encode_decode (stores_of_encode genuine encoded)
    refine ⟨shown, decoded, again, fun fixed => ?_⟩
    rw [encode_of_not_isNow supply fixed] at encoded
    exact canonical_of_encodeFixed (Prod.mk.inj encoded).1 decoded
  · rw [decode, Text.Utf8.decode?_eq_none malformed]

/-- A fresh identifier, a numeral with a needless zero, and a byte that begins no text. -/
theorem codec_roundTrip_now_integer_utf8 :
    (∃ shown, timeUuid.decode (Uuid.bytes (Uuid.timeBased 1 0)) = .ok shown ∧
      ∀ later, timeUuid.encode shown later = (.ok (Uuid.bytes (Uuid.timeBased 1 0)), later)) ∧
      (∃ shown, integer.decode [0xff, 0x7f] = .ok shown ∧ integer.Canonical "-0129" shown) ∧
      utf8.decode [0xff] = .error (.literal (.notUtf8 [0xff])) := by
  let supply : Supply := { timeId := fun number => Uuid.timeBased number 0, randomId := Uuid.random }
  have genuine : supply.Genuine := fun number => Uuid.isTimeBased_timeBased number 0
  refine ⟨?_, ?_, (codec_roundTrip utf8).2.2 [0xff] fun text => ?_⟩
  · have encoded := encode_of_isNow supply (show timeUuid.isNow "now" = true by decide)
    obtain ⟨shown, decoded, again, -⟩ :=
      (codec_roundTrip timeUuid).1 "now" _ supply _ genuine encoded
    exact ⟨shown, decoded, again⟩
  · have encoded : integer.encode "-0129" supply = (.ok [0xff, 0x7f], supply) := by
      rw [encode_of_not_isNow supply rfl]
      rfl
    obtain ⟨shown, decoded, -, canonical⟩ :=
      (codec_roundTrip integer).1 "-0129" _ supply _ genuine encoded
    exact ⟨shown, decoded, canonical rfl⟩
  · obtain ⟨chars, same⟩ := Text.Utf8.wellFormed_iff.1 text
    have read := Text.Utf8.decode?_encode chars
    rw [← same] at read
    cases read

end Validator

end WideColumn
