import WideColumn.Schema.Version
import WideColumn.Validator.SortKey

/-!
# The store

A single node that keeps keyspaces, their column families and the rows of these. A row of a standard
column family holds columns; a row of a super column family holds super columns, and each of them
holds columns. A column is either a value with the time of its writing and perhaps a time to live,
or a counter.

Rows are filed under the keyspace and the name of their column family, both as its definition has
them. A row or a super column stays on file when its last column goes; reading passes over it.

The keyspace of a definition need not be the one that holds the definition, so two column families
can share their rows although only one of them is super. What does not fit a column family is found
out only when a call comes across it.
-/

namespace WideColumn

/-! ### Rows -/

/-- What a column holds. -/
inductive Record where
  /-- A value, the microsecond it was written, and for how many seconds it lives. -/
  | value (data : Bytes) (timestamp : Int) (ttl : Option Int)
  | counter (total : Int)
  deriving DecidableEq, Repr

/-- Whether a column is a counter. -/
def Record.isCounter : Record → Bool
  | value _ _ _ => false
  | counter _ => true

/-- Whether a column can still be seen at a time. -/
def Record.isLive (now : Int) : Record → Bool
  | value _ timestamp (some ttl) => now < timestamp + ttl * 1000000
  | _ => true

/-- A column as it is read. -/
structure Cell where
  name : Bytes
  record : Record
  deriving DecidableEq, Repr

/-- A column or a super column as it is read. -/
inductive Entry where
  | cell (cell : Cell)
  | superColumn (name : Bytes) (cells : List Cell)
  /-- A super column where the row should have a column. It counts but cannot be shown. -/
  | misplaced
  deriving DecidableEq, Repr

/-- A row as a scan reads it. -/
structure RowSlice where
  key : Bytes
  entries : List Entry
  deriving DecidableEq, Repr

/-- What a row has under a name: a column, or a super column with the columns in it. -/
inductive Slot where
  | record (record : Record)
  | group (records : Table Bytes Record)
  deriving DecidableEq

namespace Slot

/-- The columns of a super column, for some use of it. -/
def superColumn (slot : Slot) (use : SuperColumnUse) : Except Failure (Table Bytes Record) :=
  match slot with
  | record found => .error (.shape (.columnFound found.isCounter use))
  | group records => .ok records

/-- The column, if it is one. -/
def record? : Slot → Option Record
  | record found => some found
  | group _ => none

end Slot

/-- A row: columns or super columns by name. -/
abbrev Row := Table Bytes Slot

namespace Row

/-- The columns of a super column, for some use of it, if there is something of its name. -/
def group? (row : Row) (name : Bytes) (use : SuperColumnUse) :
    Except Failure (Option (Table Bytes Record)) :=
  (row.get? name).mapM fun slot => slot.superColumn use

/-- A column of the row, or of one of its super columns. -/
def record? (row : Row) (superColumn : Option Bytes) (column : Bytes) :
    Except Failure (Option Record) := do
  match superColumn with
  | some name => return (← row.group? name .readOne).bind fun records => records.get? column
  | none => return (row.get? column).bind Slot.record?

/-- The row with a column put into it, or into one of its super columns. -/
def put (row : Row) (superColumn : Option Bytes) (column : Bytes) (record : Record) :
    Except Failure Row := do
  match superColumn with
  | some name =>
    let records := (← row.group? name .write).getD .empty
    return Table.put row name (.group (records.put column record))
  | none => return Table.put row column (.record record)

/-- The row without a column of it, or of one of its super columns. -/
def remove (row : Row) (superColumn : Option Bytes) (column : Bytes) : Except Failure Row := do
  match superColumn with
  | some name =>
    match ← row.group? name .removeOne with
    | some records => return Table.put row name (.group (records.erase column))
    | none => return row
  | none => return row.erase column

end Row

/-! ### The store and its connection -/

/-- Whether the store is connected to, and which keyspace was then selected. -/
inductive Connection where
  | closed
  | opened (keyspace : Option String)
  deriving DecidableEq, Repr

/-- The place of a row, a super column or a column. -/
structure Location where
  family : String
  key : Bytes
  superColumn : Option Bytes := none
  column : Option Bytes := none
  deriving DecidableEq, Repr

/-- The keyspace that every store starts with. -/
def systemKeyspace : Keyspace where
  name := "system"
  strategyClass := localStrategy
  strategyOptions := .empty

/-- A store. -/
structure Store where
  clusterName : String := "Test Cluster"
  connection : Connection := .closed
  /-- The keyspaces, in the order of their creation. -/
  keyspaces : List Keyspace := [systemKeyspace]
  /-- The rows of each column family, by keyspace and name. -/
  rows : Table (String × String) (Table Bytes Row) := .empty
  /-- How many changes of the schema there were. -/
  changes : Nat := 0
  deriving DecidableEq

namespace Store

/-- Whether the store is connected to. -/
def isConnected (store : Store) : Bool :=
  store.connection != .closed

/-- The keyspace selected over the connection. -/
def selected? (store : Store) : Option String :=
  match store.connection with
  | .closed => none
  | .opened keyspace => keyspace

/-- The store, newly connected to. -/
def connect (store : Store) : Store :=
  { store with connection := .opened store.selected? }

/-- The store, no longer connected to. -/
def close (store : Store) : Store :=
  { store with connection := .closed }

/-- Fail unless the store is connected to. -/
def requireConnected (store : Store) : Except Failure Unit :=
  if store.isConnected then .ok () else .error (.store .notConnected)

/-- A call that may change the store and may fail. What it changed before it failed stays changed. -/
abbrev Call (α : Type) := ExceptT Failure (StateM Store) α

/-- Select a keyspace, named in any letter case. -/
def selectKeyspace (name : String) : Call Unit := do
  let store ← get
  store.requireConnected
  match Keyspace.find? store.keyspaces name with
  | some keyspace => set { store with connection := .opened (some keyspace.name) }
  | none => throw (.store (.keyspaceMissing name))

/-- The keyspace with exactly a name. -/
def keyspace? (store : Store) (name : String) : Option Keyspace :=
  store.keyspaces.find? fun keyspace => keyspace.name == name

/-- The definition of the selected keyspace. -/
def currentKeyspace (store : Store) : Except Failure Keyspace := do
  store.requireConnected
  match store.selected? with
  | none => throw (.store .noKeyspaceSet)
  | some name =>
    match store.keyspace? name with
    | some keyspace => return keyspace
    | none => throw (.store (.keyspaceMissing name))

/-- The definition of the column family of the selected keyspace with exactly a name. -/
def family (store : Store) (name : String) : Except Failure ColumnFamily := do
  let keyspace ← store.currentKeyspace
  match keyspace.families.find? fun family => family.name == name with
  | some family => return family
  | none => throw (.store (.familyUnconfigured name))

/-- The rows of a column family. -/
def rowsOf (store : Store) (family : ColumnFamily) : Table Bytes Row :=
  (store.rows.get? (family.keyspace, family.name)).getD .empty

/-- The store with other rows in a column family. -/
def withRows (store : Store) (family : ColumnFamily) (rows : Table Bytes Row) : Store :=
  { store with rows := store.rows.put (family.keyspace, family.name) rows }

/-- The validator of a name; a name that is unknown or absent means plain bytes. -/
def validatorOf (name : Option String) : Validator :=
  (name.bind Validator.find?).getD .bytes

/-- Whether a column, or any column without a definition of its own, is a counter. -/
def holdsCounter (family : ColumnFamily) (column : Bytes) : Bool :=
  match family.column? column with
  | some definition => validatorOf (some definition.validationClass) == .counter
  | none => validatorOf family.defaultValidationClass == .counter

/-- Fail unless a location gives a super column just where the column family asks for one. -/
def checkShape (family : ColumnFamily) (location : Location) : Except Failure Unit :=
  if family.isSuper && location.column.isSome && location.superColumn.isNone then
    .error (.store (.superColumnRequired family.name))
  else if !family.isSuper && location.superColumn.isSome then
    .error (.store (.superColumnInvalid family.name))
  else .ok ()

end Store

end WideColumn
