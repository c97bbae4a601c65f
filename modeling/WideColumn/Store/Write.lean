import WideColumn.Store

/-!
# Writing to the store

Calls that change the rows of one column family. A row or a super column that is written to and not
there yet is made first.
-/

namespace WideColumn.Store

/-- Change the rows of a column family. -/
def changeRows (familyName : String)
    (change : ColumnFamily → Table Bytes Row → Except Failure (Table Bytes Row)) : Call Unit := do
  let store ← get
  let family ← store.family familyName
  let rows ← change family (store.rowsOf family)
  set (store.withRows family rows)

/-- The row with a key, a new one if there is none. -/
def rowAt (rows : Table Bytes Row) (key : Bytes) : Row :=
  (rows.get? key).getD .empty

/-- The rows with a column put at a location. -/
def withRecord (rows : Table Bytes Row) (location : Location) (column : Bytes) (record : Record) :
    Except Failure (Table Bytes Row) := do
  let row ← (rowAt rows location.key).put location.superColumn column record
  return rows.put location.key row

/-- Where a counter at a location stands, which is at zero before its first change. -/
def totalAt (rows : Table Bytes Row) (location : Location) (column : Bytes) :
    Except Failure Int := do
  match ← (rowAt rows location.key).record? location.superColumn column with
  | some (.counter total) => return total
  | _ => return 0

/-- The rows without a row, a super column or a column. -/
def without (rows : Table Bytes Row) (location : Location) : Except Failure (Table Bytes Row) :=
  match rows.get? location.key with
  | none => .ok rows
  | some row =>
    match location.superColumn, location.column with
    | none, none => .ok (rows.erase location.key)
    | some name, none => .ok (rows.put location.key (row.erase name))
    -- The row stays, with or without further columns.
    | superColumn, some column => rows.put location.key <$> row.remove superColumn column

/-- The name of a column that is written to, which is not empty. -/
def requireColumnName (column : Option Bytes) : Except Failure Bytes :=
  match column with
  | some (byte :: rest) => .ok (byte :: rest)
  | _ => .error (.store .invalidColumnName)

/-- Fail unless a time to live, if there is one, is positive. -/
def requirePositive (ttl : Option Int) : Except Failure Unit :=
  match ttl with
  | none => .ok ()
  | some seconds => if seconds ≤ 0 then .error (.store (.ttlNotPositive seconds)) else .ok ()

/-- Set a column to a value, at a time and perhaps with a time to live. -/
def insertColumn (now : Int) (location : Location) (data : Bytes) (ttl : Option Int) :
    Call Unit := do
  let column ← requireColumnName location.column
  requirePositive ttl
  changeRows location.family fun family rows => do
    if holdsCounter family column then throw (.store (.counterFamily family.name))
    checkShape family location
    withRecord rows location column (.value data now ttl)

/-- Change a counter. -/
def addToCounter (location : Location) (delta : Int) : Call Unit := do
  let column ← requireColumnName location.column
  changeRows location.family fun family rows => do
    unless holdsCounter family column do throw (.store (.notACounterFamily family.name))
    checkShape family location
    -- A column without a record counts from zero.
    let total ← totalAt rows location column
    withRecord rows location column (.counter (total + delta))

/-- Remove a row, a super column or a column. Only the place of a column is checked. -/
def removeColumn (location : Location) : Call Unit :=
  changeRows location.family fun family rows => do
    if location.column.isSome then checkShape family location
    without rows location

/-- Remove all rows of a column family. -/
def truncate (familyName : String) : Call Unit :=
  changeRows familyName fun _ _ => .ok .empty

end WideColumn.Store
