import WideColumn.Digest
import WideColumn.Order
import WideColumn.Schema
import WideColumn.Text.Quoted
import WideColumn.Text.Utf8
import WideColumn.Uuid

/-!
# Schema versions

Nodes tell whether they agree on the schema by a version token: the digest of a text that spells
out every definition, with the keyspaces in the order of their texts. A change of the schema also
counts into its token how many changes there were.
-/

namespace WideColumn.Schema

/-! ### The text of a schema -/

/-- A record as its type and its fields. -/
def record (type : String) (fields : List (String × String)) : String :=
  Text.enclosed (type ++ "(") ")" (fields.map fun (name, value) => name ++ "=" ++ value)

/-- A text that may be absent. -/
def optional : Option String → String
  | some text => Text.quoted text
  | none => "None"

/-- A yes or no. -/
def truth : Bool → String
  | true => "True"
  | false => "False"

/-- The text of a column definition. -/
def columnText (column : ColumnDefinition) : String :=
  record "ColumnDef" [
    ("name", column.name.quoted),
    ("validation_class", Text.quoted column.validationClass),
    ("index_type", optional column.indexType),
    ("index_name", optional column.indexName)]

/-- The text of a column family definition. -/
def familyText (family : ColumnFamily) : String :=
  record "CfDef" [
    ("keyspace", Text.quoted family.keyspace),
    ("name", Text.quoted family.name),
    ("column_type", Text.quoted family.columnType),
    ("comparator_type", optional family.comparatorType),
    ("subcomparator_type", optional family.subcomparatorType),
    ("key_validation_class", optional family.keyValidationClass),
    ("default_validation_class", optional family.defaultValidationClass),
    ("comment", optional family.comment),
    ("column_metadata", Text.enclosed "[" "]" (family.columnMetadata.map columnText)),
    ("options", Text.quotedEntries family.options.entries)]

/-- The text of a keyspace definition. -/
def keyspaceText (keyspace : Keyspace) : String :=
  record "KsDef" [
    ("name", Text.quoted keyspace.name),
    ("strategy_class", Text.quoted keyspace.strategyClass),
    ("strategy_options", Text.quotedEntries keyspace.strategyOptions.entries),
    ("durable_writes", truth keyspace.durableWrites),
    ("cf_defs", Text.enclosed "[" "]" (keyspace.families.map familyText))]

/-- The text of a schema, the same for any order of its keyspaces. -/
def text (keyspaces : List Keyspace) : String :=
  Text.enclosed "[" "]" ((Order.sortStrings (keyspaces.map keyspaceText)).map Text.quoted)

/-- The text of a schema after a number of changes. -/
def changedText (changes : Nat) (keyspaces : List Keyspace) : String :=
  Text.enclosed "(" ")" [toString changes, text keyspaces]

/-! ### Tokens -/

/-- The token of a description of the schema: its digest, laid out as an identifier. -/
def token (description : Bytes) : String :=
  Uuid.dashed (Bytes.hexDigits (Digest.md5 description))

/-- The token of a text. -/
def tokenOfText (description : String) : String :=
  token (Text.Utf8.encode description.toList)

/-- The version that the nodes report for a schema. -/
def version (keyspaces : List Keyspace) : String :=
  tokenOfText (text keyspaces)

/-- The version that a change of the schema reports. -/
def changedVersion (changes : Nat) (keyspaces : List Keyspace) : String :=
  tokenOfText (changedText changes keyspaces)

end WideColumn.Schema
