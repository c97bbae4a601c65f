import WideColumn.Command
import WideColumn.Schema
import WideColumn.Validator.Codec

/-!
# Resolving literals

Which validator reads a literal or shows stored bytes is settled by the first of these that speaks:
a cast around the literal; the definition of that very column, for its value; the declaration of
the column family; an assumption of the session; and a general default, text for keys and values
and plain bytes for column names. Bytes that the general default cannot show are shown as plain
bytes.
-/

namespace WideColumn

/-! ### Assumptions -/

/-- What a session may assume a validator for. -/
inductive AssumptionKind where
  | keys
  | comparator
  | subcomparator
  | value
  deriving DecidableEq, Repr

/-- The name of a kind of assumption. -/
def AssumptionKind.name : AssumptionKind → String
  | keys => "keys"
  | comparator => "comparator"
  | subcomparator => "sub_comparator"
  | value => "validator"

/-- The kind of assumption that a name stands for, in any letter case. -/
def AssumptionKind.ofName (name : String) : Except Failure AssumptionKind :=
  let small := Text.lowered name
  match [keys, comparator, subcomparator, value].find? fun kind => kind.name == small with
  | some kind => .ok kind
  | none => .error (.schema (.unknownAssumption small))

/-- The validators that a session assumes for one column family. -/
structure Assumptions where
  keys : Option Validator := none
  comparator : Option Validator := none
  subcomparator : Option Validator := none
  value : Option Validator := none
  deriving DecidableEq, Repr, Inhabited

/-- The assumptions with one more, which replaces an earlier one of its kind. -/
def Assumptions.add (assumptions : Assumptions) (kind : AssumptionKind) (validator : Validator) :
    Assumptions :=
  match kind with
  | .keys => { assumptions with keys := some validator }
  | .comparator => { assumptions with comparator := some validator }
  | .subcomparator => { assumptions with subcomparator := some validator }
  | .value => { assumptions with value := some validator }

/-! ### Choosing a validator -/

/-- The validator that a name stands for, which has to be known. -/
def Validator.named (name : String) : Except Failure Validator :=
  match Validator.find? name with
  | some validator => .ok validator
  | none => .error (.schema (.unknownValidator name))

/-- A validator, and whether only the general default spoke for it. -/
structure Choice where
  validator : Validator
  isDefault : Bool
  deriving DecidableEq, Repr

/-- The validator of a name that may not have been declared. -/
def declaredValidator : Option String → Except Failure (Option Validator)
  | some name => some <$> Validator.named name
  | none => .ok none

/-- The declaration if there is one, else the assumption, else the default. -/
def choose (declared : Option String) (assumed : Option Validator) (default : Validator) :
    Except Failure Choice := do
  match ← declaredValidator declared, assumed with
  | some validator, _ => return ⟨validator, false⟩
  | none, some validator => return ⟨validator, false⟩
  | none, none => return ⟨default, true⟩

/-- The bytes of a literal for which a validator was chosen; a cast names another one. -/
def Literal.encode (literal : Literal) (validator : Validator) : Draw Bytes :=
  match literal with
  | plain text => validator.encode text
  | cast function argument => do
    let cast ← Validator.named function
    match argument with
    | some text => cast.encode text
    | none => cast.generate

/-- The text of stored bytes; what the general default cannot show is shown as plain bytes. -/
def Choice.show (choice : Choice) (data : Bytes) : Except Failure String :=
  match choice.validator.decode data with
  | .error (.literal cause) => if choice.isDefault then .ok data.hex else .error (.literal cause)
  | result => result

/-- The validators of one column family in one session. -/
structure Resolver where
  family : ColumnFamily
  assumptions : Assumptions := {}

namespace Resolver

/-- The choice for row keys. -/
def keyChoice (resolver : Resolver) : Except Failure Choice :=
  choose resolver.family.keyValidationClass resolver.assumptions.keys .utf8

/-- The validator of row keys. -/
def keyValidator (resolver : Resolver) : Except Failure Validator :=
  Choice.validator <$> resolver.keyChoice

/-- The validator of column names, or of super column names if rows hold super columns. -/
def comparator (resolver : Resolver) : Except Failure Validator :=
  Choice.validator <$>
    choose resolver.family.comparatorType resolver.assumptions.comparator .bytes

/-- The validator of the names of columns in super columns. -/
def subcomparator (resolver : Resolver) : Except Failure Validator :=
  Choice.validator <$>
    choose resolver.family.subcomparatorType resolver.assumptions.subcomparator .bytes

/-- The validator of the names of columns that have a value. -/
def columnNameValidator (resolver : Resolver) : Except Failure Validator :=
  if resolver.family.isSuper then resolver.subcomparator else resolver.comparator

/-- The choice for the value of a column, or of columns without a definition of their own. -/
def valueChoice (resolver : Resolver) (column : Option Bytes) : Except Failure Choice :=
  match column.bind resolver.family.column? with
  | some definition => return ⟨← Validator.named definition.validationClass, false⟩
  | none =>
    choose resolver.family.defaultValidationClass resolver.assumptions.value .utf8

/-- The validator of the value of a column. -/
def valueValidator (resolver : Resolver) (column : Option Bytes) : Except Failure Validator :=
  Choice.validator <$> resolver.valueChoice column

/-! ### Bytes of literals -/

/-- The bytes of a literal, for a validator that has to be chosen first. -/
def encodeWith (validator : Except Failure Validator) (literal : Literal) : Draw Bytes := do
  literal.encode (← validator)

/-- The bytes of a row key. -/
def encodeKey (resolver : Resolver) (literal : Literal) : Draw Bytes :=
  encodeWith resolver.keyValidator literal

/-- The bytes of a super column name. -/
def encodeSuperColumn (resolver : Resolver) (literal : Literal) : Draw Bytes :=
  encodeWith resolver.comparator literal

/-- The bytes of the name of a column with a value. -/
def encodeColumn (resolver : Resolver) (literal : Literal) : Draw Bytes :=
  encodeWith resolver.columnNameValidator literal

/-- The bytes of a value that a column is set to. Counters are not set. -/
def encodeValue (resolver : Resolver) (literal : Literal) (column : Bytes) : Draw Bytes := do
  let validator ← resolver.valueValidator (some column)
  if validator = .counter then throw (.literal (.counterFamily resolver.family.name))
  literal.encode validator

/-! ### Text of stored bytes -/

/-- The text of a row key. -/
def showKey (resolver : Resolver) (data : Bytes) : Except Failure String := do
  (← resolver.keyChoice).show data

/-- The text of a super column name. -/
def showSuperColumn (resolver : Resolver) (data : Bytes) : Except Failure String := do
  (← resolver.comparator).decode data

/-- The text of the name of a column with a value. -/
def showColumn (resolver : Resolver) (data : Bytes) : Except Failure String := do
  (← resolver.columnNameValidator).decode data

/-- The text of the value of a column, with a validator asked for or with its own. -/
def showValue (resolver : Resolver) (data column : Bytes) (asked : Option Validator) :
    Except Failure String :=
  match asked with
  | some validator => validator.decode data
  | none => do (← resolver.valueChoice (some column)).show data

end Resolver

end WideColumn
