import WideColumn.Numeral
import WideColumn.Text.Escape
import WideColumn.Validator

/-!
# Failures

Everything that can go wrong with a statement, by cause. The causes fall into seven kinds: a
statement that cannot be read, a clash with the schema, a literal or a stored value that a
validator does not accept, a call that the store rejects, a row of another shape than its column
family says, a command that does not fit the state of the session, and a number that cannot be
written or read at all. `Failure.message` has the wording.
-/

namespace WideColumn

/-! ### Reading a statement -/

/-- Why a text is not a statement. Each cause holds the part of the text that shows it. -/
inductive ParseFailure where
  /-- No token starts with `c`; `rest` is the text from there on, cut short. -/
  | illegalCharacter (c : Char) (position : Nat) (rest : String)
  | unterminatedString (position : Nat) (rest : String)
  | unexpectedToken (value : String) (position : Nat) (rest : String)
  | unexpectedEnd (tail : String)
  | emptyStatement (text : String)
  | notAnInteger (purpose word : String)
  | limitNotPositive (limit : Int) (word : String)
  | repeatedAttribute (name : String)
  | unknownSetOption (word : String)
  | tooManyColumns (family : String)
  | unknownDescribeTarget (words : String)
  | unknownShowTarget (words : String)
  | unknownHelpTopic (words : String)
  deriving DecidableEq, Repr

namespace ParseFailure

/-- The part of the statement that is at fault. -/
def fragment : ParseFailure → String
  | illegalCharacter _ _ rest => rest
  | unterminatedString _ rest => rest
  | unexpectedToken _ _ rest => rest
  | unexpectedEnd tail => tail
  | emptyStatement text => text
  | notAnInteger _ word => word
  | limitNotPositive _ word => word
  | repeatedAttribute name => name
  | unknownSetOption word => word
  | tooManyColumns family => family
  | unknownDescribeTarget words => words
  | unknownShowTarget words => words
  | unknownHelpTopic words => words

/-- The wording of a cause. -/
def message : ParseFailure → String
  | illegalCharacter c position _ =>
    let shown := String.ofList (Text.escapeChar c)
    s!"Illegal character '{shown}' at position {position}"
  | unterminatedString position rest =>
    s!"Unterminated string literal at position {position}: {Text.escaped rest}"
  | unexpectedToken value position _ =>
    s!"Syntax error at '{Text.escaped value}' (position {position})"
  | unexpectedEnd tail => s!"Syntax error at end of input: '{Text.escaped tail}'"
  | emptyStatement _ => "Empty statement"
  | notAnInteger purpose word => s!"Expected an integer for {purpose}, got '{word}'"
  | limitNotPositive limit _ => s!"limit must be positive, got {limit}"
  | repeatedAttribute name => s!"Attribute '{name}' given more than once"
  | unknownSetOption word => s!"Unknown set option '{word}', expected ttl"
  | tooManyColumns family => s!"Too many column specifications for '{family}'"
  | unknownDescribeTarget words => s!"Unknown describe target '{words}'"
  | unknownShowTarget words => s!"Unknown show target '{words}'"
  | unknownHelpTopic words => s!"No help for '{words}'"

end ParseFailure

/-! ### The schema -/

/-- How a statement clashes with the schema. -/
inductive SchemaFailure where
  | unknownValidator (name : String)
  | columnFamilyNotFound (family keyspace : String)
  | columnFamilyExists (family keyspace : String)
  | keyspaceNotFound (keyspace : String)
  | keyspaceExists (keyspace : String)
  | keyspaceGone (keyspace : String)
  | unknownAssumption (kind : String)
  | unknownKeyspaceAttribute (name : String)
  | unknownFamilyAttribute (name : String)
  | notABoolean (name value : String)
  | notAnInteger (name value : String)
  | notHashes (name : String)
  | badColumnType (value : String)
  | subcomparatorInStandard
  | metadataNotAList
  | metadataNotAHash
  | unknownMetadataAttribute (name : String)
  | metadataIncomplete
  | unsupportedIndexType (value : String)
  | onlyOneColumn (family : String)
  | subcolumnRequired (family : String)
  | columnRequired (family : String)
  | countOfColumn
  | noIndex (family literal : String)
  deriving DecidableEq, Repr

/-- The kinds of assumption, as the user names them. -/
def assumptionNames : List String :=
  ["keys", "comparator", "sub_comparator", "validator"]

/-- The wording of a cause. -/
def SchemaFailure.message : SchemaFailure → String
  | unknownValidator name =>
    let known := ", ".intercalate Validator.functionNames
    s!"Unknown validator type '{name}', use one of: {known}"
  | columnFamilyNotFound family keyspace =>
    s!"Column family '{family}' not found in keyspace '{keyspace}'"
  | columnFamilyExists family keyspace =>
    s!"Column family '{family}' already exists in keyspace '{keyspace}'"
  | keyspaceNotFound keyspace => s!"Keyspace '{keyspace}' not found"
  | keyspaceExists keyspace => s!"Keyspace '{keyspace}' already exists"
  | keyspaceGone keyspace => s!"Keyspace '{keyspace}' no longer exists"
  | unknownAssumption kind =>
    let known := ", ".intercalate assumptionNames
    s!"'{kind}' is not a valid assumption, use one of: {known}"
  | unknownKeyspaceAttribute name => s!"Unknown keyspace attribute '{name}'"
  | unknownFamilyAttribute name => s!"Unknown column family attribute '{name}'"
  | notABoolean name value => s!"Attribute '{name}' expects true or false, got '{value}'"
  | notAnInteger name value => s!"Attribute '{name}' expects an integer, got '{value}'"
  | notHashes name => s!"Attribute '{name}' expects a list of \x7bkey:value\x7d hashes"
  | badColumnType value => s!"column_type must be Standard or Super, got '{value}'"
  | subcomparatorInStandard => "subcomparator is only valid for super column families"
  | metadataNotAList =>
    "column_metadata expects a list of \x7bcolumn_name:..., validation_class:...\x7d hashes"
  | metadataNotAHash => "column_metadata entries must be \x7bkey:value\x7d hashes"
  | unknownMetadataAttribute name => s!"Unknown column_metadata attribute '{name}'"
  | metadataIncomplete => "column_metadata entries need column_name and validation_class"
  | unsupportedIndexType value =>
    s!"Unsupported index_type '{value}', only KEYS (0) is supported"
  | onlyOneColumn family =>
    s!"{family} is not a super column family, only one column may be given"
  | subcolumnRequired family =>
    s!"{family} is a super column family, use {family}[key][super][column]"
  | columnRequired family => s!"A column name is required, use {family}[key][column]"
  | countOfColumn => "count takes a row or a super column, not a single column"
  | noIndex family literal => s!"No index found on {family}.{literal}"

/-! ### Literals and stored values -/

/-- Why a validator does not accept a literal or a stored value. -/
inductive LiteralFailure where
  | notANumeral (text : String) (validator : Validator)
  | outOfRange (digits : String)
  | notAUuid (text : String) (validator : Validator)
  | notTimeBased (version : Option Nat) (text : String)
  | notHexadecimal (text : String)
  | counterAssigned
  | counterFamily (family : String)
  | argumentRequired (validator : Validator)
  | notUtf8 (data : Bytes)
  | notALong (size : Nat)
  | notUuidBytes (size : Nat)
  deriving DecidableEq, Repr

/-- A long text cut to its first forty characters. -/
def clipped (text : String) : String :=
  let chars := text.toList
  if chars.length ≤ 40 then text else String.ofList (chars.take 40) ++ "..."

/-- The wording of a cause. -/
def LiteralFailure.message : LiteralFailure → String
  | notANumeral text validator =>
    s!"'{clipped text}' is not a valid {validator.className} literal"
  | outOfRange digits => s!"{clipped digits} is out of range for LongType"
  | notAUuid text validator => s!"'{text}' is not a valid {validator.className} literal"
  | notTimeBased version text =>
    let shown := match version with
      | some number => toString number
      | none => "None"
    s!"Unsupported UUID version {shown} for TimeUUIDType: {text}"
  | notHexadecimal text => s!"cannot parse '{text}' as hex bytes"
  | counterAssigned => "Counter columns can not be assigned directly, use incr/decr instead"
  | counterFamily family =>
    s!"Column family {family} holds counters, use incr/decr instead of set"
  | argumentRequired validator => s!"{validator.functionName}() requires an argument"
  | notUtf8 data => s!"Value 0x{data.hex} is not valid UTF-8"
  | notALong size => s!"A long is exactly 8 bytes, got {size}"
  | notUuidBytes size => s!"UUIDs must be exactly 16 bytes, got {size}"

/-! ### The store -/

/-- The parts of a column family that cannot be changed. -/
inductive FixedAttribute where
  | columnType
  | comparator
  | subcomparator
  deriving DecidableEq, Repr

/-- The store's name for a part of a column family. -/
def FixedAttribute.name : FixedAttribute → String
  | columnType => "column_type"
  | comparator => "comparator_type"
  | subcomparator => "subcomparator_type"

/-- Why the store rejects a call. -/
inductive StoreFailure where
  | refused (host : String) (port : Int)
  | notConnected
  | noKeyspaceSet
  | keyspaceMissing (keyspace : String)
  | keyspaceTaken (keyspace : String)
  | familyUnconfigured (family : String)
  | familyUndefined (family : String)
  | familyTaken (family keyspace : String)
  | superColumnRequired (family : String)
  | superColumnInvalid (family : String)
  | columnMissing
  | invalidColumnName
  | ttlNotPositive (ttl : Int)
  | counterFamily (family : String)
  | notACounterFamily (family : String)
  | superIndexed
  | noIndexedEquality
  | attributeFixed (part : FixedAttribute)
  | noIndexOnColumn (column : Bytes) (family : String)
  deriving DecidableEq, Repr

/-- The wording of a cause. -/
def StoreFailure.message : StoreFailure → String
  | refused host port => s!"Connection refused: {host}/{port}"
  | notConnected => "Not connected to a server"
  | noKeyspaceSet => "You have not set a keyspace for this session"
  | keyspaceMissing keyspace => s!"Keyspace {keyspace} does not exist"
  | keyspaceTaken keyspace => s!"Keyspace {keyspace} already exists"
  | familyUnconfigured family => s!"unconfigured columnfamily {family}"
  | familyUndefined family => s!"CF is not defined in that keyspace: {family}"
  | familyTaken family keyspace => s!"{family} already exists in keyspace {keyspace}"
  | superColumnRequired family =>
    s!"supercolumn parameter is not optional for super CF {family}"
  | superColumnInvalid family => s!"supercolumn parameter is invalid for standard CF {family}"
  | columnMissing => "column parameter is not optional"
  | invalidColumnName => "invalid column name"
  | ttlNotPositive ttl => s!"ttl must be positive, got {ttl}"
  | counterFamily family => s!"invalid operation for commutative columnfamily {family}"
  | notACounterFamily family => s!"invalid operation for non commutative columnfamily {family}"
  | superIndexed => "Secondary indexes are not supported on super column families"
  | noIndexedEquality => "No indexed columns present in index clause with operator EQ"
  | attributeFixed part => s!"can't change {part.name}"
  | noIndexOnColumn column family => s!"No index found on column 0x{column.hex} of {family}"

/-! ### Rows of another shape -/

/-- What a call does with a super column. -/
inductive SuperColumnUse where
  | readAll
  | readOne
  | removeOne
  | write
  deriving DecidableEq, Repr

/-- What a row holds that its column family says it cannot hold. Column families that share their
rows can differ in this. -/
inductive ShapeFailure where
  /-- A column, a counter or another one, where a call needs a super column. -/
  | columnFound (isCounter : Bool) (use : SuperColumnUse)
  /-- A super column where a column is to be shown. -/
  | superColumnFound
  deriving DecidableEq, Repr

/-- The wording of a cause. -/
def ShapeFailure.message : ShapeFailure → String
  | columnFound isCounter use =>
    let found := if isCounter then "CounterColumn" else "Column"
    match use with
    | .readAll => s!"'{found}' object has no attribute 'items'"
    | .readOne => s!"'{found}' object has no attribute 'get'"
    | .removeOne => s!"'{found}' object has no attribute 'pop'"
    | .write => s!"'{found}' object does not support item assignment"
  | superColumnFound => "'dict' object has no attribute 'name'"

/-! ### The session -/

/-- Why the session does not take a command in its present state. -/
inductive StateFailure where
  | notConnected
  | noKeyspace
  | keyspaceNotFound (keyspace : String)
  deriving DecidableEq, Repr

/-- The wording of a cause. -/
def StateFailure.message : StateFailure → String
  | notConnected => "Not connected to a cassandra instance."
  | noKeyspace => "Not authenticated to a working keyspace."
  | keyspaceNotFound keyspace => s!"Keyspace {keyspace} not found."

/-! ### Numbers and digits -/

/-- A number too long to be written in digits or in bytes, or a character that is no hexadecimal
digit. -/
inductive DigitFailure where
  | tooManyDigits
  | tooManyBytes
  | notAHexDigit (position : Nat)
  deriving DecidableEq, Repr

/-- The wording of a cause. -/
def DigitFailure.message : DigitFailure → String
  | tooManyDigits =>
    "Exceeds the limit (4300 digits) for integer string conversion; " ++
      "use sys.set_int_max_str_digits() to increase the limit"
  | tooManyBytes => "int too big to convert"
  | notAHexDigit position =>
    s!"non-hexadecimal number found in fromhex() arg at position {position}"

/-! ### All causes -/

/-- The cause of a failed statement or call. -/
inductive Failure where
  | parse (cause : ParseFailure)
  | schema (cause : SchemaFailure)
  | literal (cause : LiteralFailure)
  | store (cause : StoreFailure)
  | shape (cause : ShapeFailure)
  | state (cause : StateFailure)
  | digits (cause : DigitFailure)
  deriving DecidableEq, Repr

namespace Failure

/-- The wording of a failure. -/
def message : Failure → String
  | parse cause => cause.message
  | schema cause => cause.message
  | literal cause => cause.message
  | store cause => cause.message
  | shape cause => cause.message
  | state cause => cause.message
  | digits cause => cause.message

/-- What a failure is called in front of its message. -/
def label : Failure → String
  | parse _ => "Syntax error"
  | schema _ => "Schema error"
  | literal _ => "Type error"
  | store _ => "Rpc error"
  | shape _ => "Error"
  | state _ => "State error"
  | digits _ => "Error"

end Failure

/-- The digits of a number that has to be shown, or the failure to write that many. -/
def shownNumber (value : Int) : Except Failure String :=
  match Numeral.write? value with
  | some digits => .ok digits
  | none => .error (.digits .tooManyDigits)

/-- The digits of a number of any length in front of `lower`, those of its lower chunks. All chunks but
the first are filled up with zeros. -/
def shownChunks (number : Nat) (lower : String) : Except Failure String := do
  if number < Numeral.chunkBase then
    return (← shownNumber number) ++ lower
  else
    let chunk ← shownNumber (number % Numeral.chunkBase : Nat)
    let filled := String.ofList (chunk.toList.leftpad Numeral.chunkDigits '0')
    shownChunks (number / Numeral.chunkBase) (filled ++ lower)
termination_by number
decreasing_by
  have many := Numeral.one_lt_chunkBase
  exact Nat.div_lt_self (by omega) many

/-- The digits of a number of any length, written in chunks from the right. -/
def shownInteger (value : Int) : Except Failure String := do
  let digits ← shownChunks value.natAbs ""
  return (if value < 0 then "-" else "") ++ digits

end WideColumn
