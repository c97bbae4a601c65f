import WideColumn.Schema

/-!
# Outcomes

What a command that succeeded gives back, with keys, names and values already as text.
-/

namespace WideColumn

/-- A column as it is shown. -/
inductive ShownCell where
  | column (name value : String) (timestamp ttl : Option Int)
  | counter (name value : String)
  deriving DecidableEq, Repr

/-- A column, or a super column with its columns, as it is shown. -/
inductive ShownEntry where
  | cell (cell : ShownCell)
  | superColumn (name : String) (cells : List ShownCell)
  deriving DecidableEq, Repr

/-- A row as it is shown. -/
structure ShownRow where
  key : String
  entries : List ShownEntry
  deriving DecidableEq, Repr

/-- The result of a command. -/
inductive Outcome where
  | keyspaceSelected (keyspace : String)
  | schemaChanged (version : String)
  | assumed (family : String)
  | inserted
  | incremented
  | decremented
  | column (cell : ShownCell)
  | notFound
  | entries (entries : List ShownEntry)
  | rows (rows : List ShownRow)
  | removed (what : String)
  | counted (count : Nat)
  | truncated (family : String)
  | cluster (snitch partitioner : String) (versions : Table String (List String))
  | keyspaces (keyspaces : List Keyspace)
  | text (text : String)
  | ended
  deriving DecidableEq

end WideColumn
