import WideColumn.Store

/-!
# Changing and describing the schema

Each change of the schema is counted and gives the new schema version.
-/

namespace WideColumn

/-- The list with the first item of a class changed. -/
def modifyFirst {α : Type} (isMeant : α → Bool) (change : α → α) : List α → List α
  | [] => []
  | item :: rest =>
    if isMeant item then change item :: rest else item :: modifyFirst isMeant change rest

namespace Store

/-! ### Changes -/

/-- Count a change of the schema; the schema version after it. -/
def countChange : Call String := do
  modify fun store => { store with changes := store.changes + 1 }
  let store ← get
  return Schema.changedVersion store.changes store.keyspaces

/-- The store with another definition of a keyspace, in the place of the one with its name. -/
def withKeyspace (store : Store) (keyspace : Keyspace) : Store :=
  { store with
    keyspaces := store.keyspaces.map fun old =>
      if old.name == keyspace.name then keyspace else old }

/-- Add a keyspace; the column families that it comes with belong to it. -/
def createKeyspace (keyspace : Keyspace) : Call String := do
  let store ← get
  store.requireConnected
  if (Keyspace.find? store.keyspaces keyspace.name).isSome then
    throw (.store (.keyspaceTaken keyspace.name))
  let families := keyspace.families.map fun family => { family with keyspace := keyspace.name }
  set { store with keyspaces := store.keyspaces ++ [{ keyspace with families := families }] }
  countChange

/-- Replace the definition of a keyspace, but for its column families. -/
def updateKeyspace (keyspace : Keyspace) : Call String := do
  let store ← get
  store.requireConnected
  match store.keyspace? keyspace.name with
  | none => throw (.store (.keyspaceMissing keyspace.name))
  | some old =>
    -- The column families that are defined outlive the update.
    set (store.withKeyspace { keyspace with families := old.families })
    countChange

/-- Remove a keyspace with all its rows, and do not leave it selected. -/
def dropKeyspace (name : String) : Call String := do
  let store ← get
  store.requireConnected
  if (store.keyspace? name).isNone then throw (.store (.keyspaceMissing name))
  let connection := if store.connection = .opened (some name) then .opened none
    else store.connection
  set { store with
    connection := connection
    keyspaces := store.keyspaces.filter fun keyspace => keyspace.name != name
    -- Rows are kept by the names of keyspace and column family.
    rows := store.rows.filter fun entry => entry.1.1 != name }
  countChange

/-- Add a column family to the selected keyspace. -/
def createFamily (family : ColumnFamily) : Call String := do
  let store ← get
  let keyspace ← store.currentKeyspace
  if (keyspace.family? family.name).isSome then
    throw (.store (.familyTaken family.name keyspace.name))
  let family := { family with keyspace := keyspace.name }
  set (store.withKeyspace { keyspace with families := keyspace.families ++ [family] })
  countChange

/-- What an update would change in a column family that cannot be changed. -/
def fixedDifference? (old new : ColumnFamily) : Option FixedAttribute :=
  if new.columnType ≠ old.columnType then some .columnType
  else if new.comparatorType ≠ old.comparatorType then some .comparator
  else if new.subcomparatorType ≠ old.subcomparatorType then some .subcomparator
  else none

/-- Replace the definition of a column family. -/
def updateFamily (family : ColumnFamily) : Call String := do
  let store ← get
  let old ← store.family family.name
  if let some part := fixedDifference? old family then throw (.store (.attributeFixed part))
  let keyspace ← store.currentKeyspace
  let families := keyspace.families.map fun other =>
    if other.name == old.name then family else other
  set (store.withKeyspace { keyspace with families := families })
  countChange

/-- Remove a column family with all its rows. -/
def dropFamily (name : String) : Call String := do
  let store ← get
  let keyspace ← store.currentKeyspace
  let remaining := keyspace.families.filter fun family => family.name != name
  -- Where no column family has the name, all of them remain.
  if remaining.length = keyspace.families.length then throw (.store (.familyUndefined name))
  set (store.withKeyspace { keyspace with families := remaining })
  modify fun store => { store with rows := store.rows.erase (keyspace.name, name) }
  countChange

/-- A column family without the index on a column. -/
def withoutIndex (family : ColumnFamily) (column : Bytes) : ColumnFamily :=
  { family with
    columnMetadata := modifyFirst (fun definition => definition.name == column)
      (fun definition => { definition with indexType := none, indexName := none })
      family.columnMetadata }

/-- Remove the index on a column. -/
def dropIndex (familyName : String) (column : Bytes) : Call String := do
  let store ← get
  let family ← store.family familyName
  unless (family.column? column).any ColumnDefinition.isIndexed do
    throw (.store (.noIndexOnColumn column familyName))
  let keyspace ← store.currentKeyspace
  let families := modifyFirst (fun other => other.name == family.name)
    (fun other => withoutIndex other column) keyspace.families
  set (store.withKeyspace { keyspace with families := families })
  countChange

/-! ### Descriptions -/

/-- All keyspaces, by name. -/
def describeSchema (store : Store) : Except Failure (List Keyspace) := do
  store.requireConnected
  return Order.sort (fun first second => first.name ≤ second.name) store.keyspaces

/-- The keyspace with a name, in any letter case. -/
def describeKeyspace (store : Store) (name : String) : Except Failure (Option Keyspace) := do
  store.requireConnected
  return Keyspace.find? store.keyspaces name

/-- The name of the cluster. -/
def describeClusterName (store : Store) : Except Failure String := do
  store.requireConnected
  return store.clusterName

/-- The version of the interface. -/
def apiVersion : String := "19.10.0"

/-- The interface version of a store that is connected to. -/
def describeVersion (store : Store) : Except Failure String := do
  store.requireConnected
  return apiVersion

/-- The address under which a single node knows itself. -/
def localAddress : String := "127.0.0.1"

/-- The schema versions in the cluster, each with the nodes that have it. -/
def describeSchemaVersions (store : Store) : Except Failure (Table String (List String)) := do
  store.requireConnected
  return Table.empty.put (Schema.version store.keyspaces) [localAddress]

/-- How keys are laid out over nodes: in the order of their bytes. -/
def partitioner : String := "org.apache.cassandra.dht.ByteOrderedPartitioner"

/-- How nodes find out where they are. -/
def snitch : String := "org.apache.cassandra.locator.SimpleSnitch"

end Store

end WideColumn
