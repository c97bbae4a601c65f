import WideColumn.Bytes
import WideColumn.Failure
import WideColumn.Table
import WideColumn.Text.Case

/-!
# Schema definitions

A keyspace holds column families, and a column family says how its keys, column names and values
are validated, and which of its columns have a validator or an index of their own. Definitions keep
validators by name, as they were declared; a name that was not declared is absent.

Keyspaces and column families are found by name in any letter case.
-/

namespace WideColumn

/-- The validator of one column, and its index if it has one. -/
structure ColumnDefinition where
  name : Bytes
  validationClass : String
  indexType : Option String := none
  indexName : Option String := none
  deriving DecidableEq

/-- Whether the column has an index. -/
def ColumnDefinition.isIndexed (column : ColumnDefinition) : Bool :=
  column.indexType.isSome

/-- The type of an index over column values. -/
def keysIndex : String := "KEYS"

/-- The definition of a column family. -/
structure ColumnFamily where
  keyspace : String
  name : String
  columnType : String := "Standard"
  comparatorType : Option String := none
  subcomparatorType : Option String := none
  keyValidationClass : Option String := none
  defaultValidationClass : Option String := none
  comment : Option String := none
  columnMetadata : List ColumnDefinition := []
  options : Table String String := .empty
  deriving DecidableEq

namespace ColumnFamily

/-- Whether rows hold super columns, which in turn hold columns. -/
def isSuper (family : ColumnFamily) : Bool :=
  family.columnType == "Super"

/-- The first definition of a column with a name. -/
def column? (family : ColumnFamily) (name : Bytes) : Option ColumnDefinition :=
  family.columnMetadata.find? fun column => column.name == name

end ColumnFamily

/-- The strategy of a keyspace that names none. -/
def simpleStrategy : String := "org.apache.cassandra.locator.SimpleStrategy"

/-- The strategy of the keyspace that every store starts with. -/
def localStrategy : String := "org.apache.cassandra.locator.LocalStrategy"

/-- The options of a keyspace that gives none: one replica. -/
def oneReplica : Table String String :=
  Table.empty.put "replication_factor" "1"

/-- The definition of a keyspace. -/
structure Keyspace where
  name : String
  strategyClass : String := simpleStrategy
  strategyOptions : Table String String := oneReplica
  durableWrites : Bool := true
  families : List ColumnFamily := []
  deriving DecidableEq

namespace Keyspace

/-- The first column family with a name, in any letter case. -/
def family? (keyspace : Keyspace) (name : String) : Option ColumnFamily :=
  keyspace.families.find? fun family => Text.sameIgnoringCase family.name name

/-- The column family with a name, which has to exist. -/
def family (keyspace : Keyspace) (name : String) : Except Failure ColumnFamily :=
  match keyspace.family? name with
  | some family => .ok family
  | none => .error (.schema (.columnFamilyNotFound name keyspace.name))

/-- The first of some keyspaces with a name, in any letter case. -/
def find? (keyspaces : List Keyspace) (name : String) : Option Keyspace :=
  keyspaces.find? fun keyspace => Text.sameIgnoringCase keyspace.name name

end Keyspace

end WideColumn
