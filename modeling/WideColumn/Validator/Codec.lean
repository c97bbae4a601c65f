import WideColumn.Supply
import WideColumn.Text.Utf8
import WideColumn.Uuid

/-!
# Codecs

Each validator turns literal text into the bytes that are stored and stored bytes into the text
that is shown. Texts are stored in UTF-8, hexadecimal literals as the bytes they spell, longs in
eight bytes and integers in as few bytes as two's complement allows, identifiers in sixteen bytes.
Counters have no literals. Empty bytes stand for the absence of a number or identifier.

Only the literal `now` of a time-based identifier draws from the supply of fresh ones; `encode` is
`encodeFixed` otherwise.
-/

namespace WideColumn.Validator

/-! ### From text to bytes -/

/-- The number of a literal, which may stand between blanks. -/
def numberOf (validator : Validator) (text : String) : Except Failure Int :=
  let bare := Text.trim text.toList
  match Numeral.strict? bare with
  | some value => .ok value
  | none => .error (.literal (.notANumeral (String.ofList bare) validator))

/-- The identifier of a literal, which may stand between blanks. -/
def uuidOf (validator : Validator) (text : String) : Except Failure Nat :=
  match Uuid.read? (Text.trim text.toList) with
  | some value => .ok value
  | none => .error (.literal (.notAUuid text validator))

/-- A number in eight bytes. -/
def encodeLong (value : Int) : Except Failure Bytes :=
  if -0x8000000000000000 ≤ value ∧ value ≤ 0x7fffffffffffffff then .ok (Bytes.ofInt 8 value)
  else do throw (.literal (.outOfRange (← shownInteger value)))

/-- A number in as few bytes as hold it, at least one. -/
def encodeInteger (value : Int) : Except Failure Bytes :=
  match Bytes.ofInt? (Bytes.signedWidth value) value with
  | some data => .ok data
  | none => .error (.digits .tooManyBytes)

/-- The bytes that hexadecimal digits spell; an odd number of digits gets a zero in front. A line
break after the digits is counted as one more of them, and is refused where it stands. -/
def encodeHexadecimal (text : String) : Except Failure Bytes :=
  let chars := text.toList
  let broken := chars.getLast? = some '\n'
  let digits := if broken then chars.dropLast else chars
  match digits.mapM Bytes.hexDigit? with
  | none => .error (.literal (.notHexadecimal text))
  | some values =>
    let even := values.length % 2 = 0
    if broken then
      .error (.digits (.notAHexDigit (if even then values.length + 1 else values.length)))
    else .ok (Bytes.ofHexValues (if even then values else 0 :: values))

/-- The bytes of a time-based identifier. -/
def encodeTimeUuid (text : String) : Except Failure Bytes := do
  let value ← uuidOf timeUuid text
  if Uuid.version? value = some 1 then return Uuid.bytes value
  else throw (.literal (.notTimeBased (Uuid.version? value) text))

/-- The bytes of a literal that stands for itself. -/
def encodeFixed (validator : Validator) (text : String) : Except Failure Bytes :=
  match validator with
  | utf8 => .ok (Text.Utf8.encode text.toList)
  | bytes => encodeHexadecimal text
  | long => do encodeLong (← numberOf long text)
  | integer => do encodeInteger (← numberOf integer text)
  | lexicalUuid => do return Uuid.bytes (← uuidOf lexicalUuid text)
  | timeUuid => encodeTimeUuid text
  | counter => .error (.literal .counterAssigned)

/-- Whether a literal asks for a fresh time-based identifier. -/
def isNow (validator : Validator) (text : String) : Bool :=
  validator == timeUuid && Text.lowered text == "now"

/-- The bytes of a literal. -/
def encode (validator : Validator) (text : String) : Draw Bytes :=
  if validator.isNow text then Uuid.bytes <$> Draw.timeId
  else Draw.ofExcept (validator.encodeFixed text)

/-- A fresh value, for a cast without an argument. -/
def generate (validator : Validator) : Draw Bytes :=
  match validator with
  | timeUuid => Uuid.bytes <$> Draw.timeId
  | lexicalUuid => Uuid.bytes <$> Draw.randomId
  | _ => throw (.literal (.argumentRequired validator))

/-! ### From bytes to text -/

/-- The text of eight bytes as a number. -/
def decodeLong (data : Bytes) : Except Failure String :=
  if data.isEmpty then .ok ""
  else if data.length = 8 then .ok (Numeral.write data.toInt)
  else .error (.literal (.notALong data.length))

/-- The text of sixteen bytes as an identifier. -/
def decodeUuid (data : Bytes) : Except Failure String :=
  if data.isEmpty then .ok ""
  else if data.length = 16 then .ok (Uuid.write data.toNat)
  else .error (.literal (.notUuidBytes data.length))

/-- The text of stored bytes. -/
def decode (validator : Validator) (data : Bytes) : Except Failure String :=
  match validator with
  | utf8 =>
    match Text.Utf8.decode? data with
    | some text => .ok (String.ofList text)
    | none => .error (.literal (.notUtf8 data))
  | bytes => .ok data.hex
  | long => decodeLong data
  | counter => decodeLong data
  | integer => if data.isEmpty then .ok "" else shownInteger data.toInt
  | lexicalUuid => decodeUuid data
  | timeUuid => decodeUuid data

end WideColumn.Validator
