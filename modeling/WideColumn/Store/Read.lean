import WideColumn.Command
import WideColumn.Store

/-!
# Reading from the store

Rows come in the order of the key validator and columns in the order of the comparator. Columns past
their time to live are not seen, and neither are super columns and rows in which nothing is seen.
-/

namespace WideColumn

/-! ### Rows as they are read -/

/-- What can be seen at a time of the columns of a super column, in the order of the column
family's subcomparator. -/
def liveCells (family : ColumnFamily) (now : Int) (records : Table Bytes Record) : List Cell :=
  let sorted := (Store.validatorOf family.subcomparatorType).sortOn Prod.fst records.entries
  (sorted.map fun (name, record) => ⟨name, record⟩).filter fun (cell : Cell) =>
    cell.record.isLive now

/-- A super column as it is read, if something can be seen of it. -/
def readSuperColumn (family : ColumnFamily) (now : Int) (name : Bytes)
    (records : Table Bytes Record) : Option Entry :=
  match liveCells family now records with
  | [] => none
  | cells => some (.superColumn name cells)

/-- A column as it is read, if it can be seen. -/
def readColumn (now : Int) (name : Bytes) : Slot → Option Entry
  | .record record => if record.isLive now then some (.cell ⟨name, record⟩) else none
  | .group _ => some .misplaced

/-- What can be seen of a row at a time. -/
def Row.read (family : ColumnFamily) (now : Int) (row : Row) : Except Failure (List Entry) := do
  let sorted := (Store.validatorOf family.comparatorType).sortOn Prod.fst row.entries
  if family.isSuper then
    let groups ← sorted.mapM fun (name, slot) => return (name, ← slot.superColumn .readAll)
    return groups.filterMap fun (name, records) => readSuperColumn family now name records
  else return sorted.filterMap fun (name, slot) => readColumn now name slot

/-- The first `count` items; a count below zero leaves that many off at the end. -/
def cut {α : Type} (count : Int) (items : List α) : List α :=
  if count < 0 then items.take (items.length - (-count).toNat) else items.take count.toNat

/-- The items up to the one with which `count` is reached, which is the first one for any count
below two. -/
def upTo {α : Type} (count : Int) (items : List α) : List α :=
  items.take (max 1 count.toNat)

/-- A condition on the stored value of a column. -/
structure IndexExpression where
  column : Bytes
  comparison : Comparison
  value : Bytes
  deriving DecidableEq, Repr

/-- Whether one sort key stands to another as a comparison asks. -/
def Comparison.holds (comparison : Comparison) (first second : SortKey) : Bool :=
  match comparison with
  | equal => first == second
  | greater => second.lt first
  | greaterEqual => second.le first
  | less => first.lt second
  | lessEqual => first.le second

namespace Store

/-! ### Single reads -/

/-- A column, or a super column if the location ends there. -/
def getColumn (store : Store) (now : Int) (location : Location) :
    Except Failure (Option Entry) := do
  let family ← store.family location.family
  checkShape family location
  let some row := (store.rowsOf family).get? location.key | return none
  match location.superColumn, location.column with
  | none, none => throw (.store .columnMissing)
  | some name, none =>
    let records ← row.group? name .readAll
    return records.bind (readSuperColumn family now name)
  | some _, some column =>
    let record ← row.record? location.superColumn column
    return (record.map .record).bind (readColumn now column)
  | none, some column => return (row.get? column).bind (readColumn now column)

/-- The first columns of a row or of a super column, or the first super columns of a row. -/
def getRow (store : Store) (now : Int) (familyName : String) (key : Bytes)
    (superColumn : Option Bytes) (count : Int) : Except Failure (List Entry) := do
  let family ← store.family familyName
  checkShape family ⟨familyName, key, superColumn, none⟩
  let some row := (store.rowsOf family).get? key | return []
  match superColumn with
  | none => return cut count (← row.read family now)
  | some name =>
    let some records ← row.group? name .readAll | return []
    return (cut count (liveCells family now records)).map .cell

/-! ### Scans -/

/-- The rows of a column family in the order of their keys. -/
def sortedRows (store : Store) (family : ColumnFamily) : List (Bytes × Row) :=
  (validatorOf family.keyValidationClass).sortOn Prod.fst (store.rowsOf family).entries

/-- Whether a key lies between two bounds, of which an empty one bounds nothing. -/
def inRange (validator : Validator) (start stop key : Bytes) : Bool :=
  (start.isEmpty || validator.precedes start key) && (stop.isEmpty || validator.precedes key stop)

/-- The first rows with a key between two bounds in which something can be seen. -/
def getSlice (store : Store) (now : Int) (familyName : String) (start stop : Bytes)
    (count : Int) : Except Failure (List RowSlice) := do
  let family ← store.family familyName
  let validator := validatorOf family.keyValidationClass
  let within := (store.sortedRows family).filter fun (key, _) => inRange validator start stop key
  -- A row that cannot be read counts only if the scan comes to it.
  let seen := within.filterMap fun (key, row) =>
    match row.read family now with
    | .ok [] => none
    | entries => some (RowSlice.mk key <$> entries)
  (upTo count seen).mapM id

/-- Whether a row has a value that can be seen and that stands to another one as asked. -/
def satisfies (family : ColumnFamily) (now : Int) (row : Row) (expression : IndexExpression) :
    Bool :=
  match (row.get? expression.column).bind Slot.record? with
  | some (.value data timestamp ttl) =>
    let declared := match family.column? expression.column with
      | some definition => some definition.validationClass
      | none => family.defaultValidationClass
    let validator := validatorOf declared
    Record.isLive now (.value data timestamp ttl) &&
      expression.comparison.holds (validator.sortKey data) (validator.sortKey expression.value)
  | _ => false

/-- Whether an expression asks for equality in an indexed column. -/
def usesIndex (family : ColumnFamily) (expression : IndexExpression) : Bool :=
  expression.comparison == .equal &&
    (family.column? expression.column).any fun definition =>
      definition.indexType == some keysIndex

/-- The first rows that satisfy some conditions, of which an index has to serve one. -/
def getIndexedSlices (store : Store) (now : Int) (familyName : String)
    (expressions : List IndexExpression) (count : Int) : Except Failure (List RowSlice) := do
  let family ← store.family familyName
  if family.isSuper then throw (.store .superIndexed)
  unless expressions.any (usesIndex family) do throw (.store .noIndexedEquality)
  let matching := (store.sortedRows family).filter fun (_, row) =>
    expressions.all (satisfies family now row)
  (upTo count matching).mapM fun (key, row) => return ⟨key, ← row.read family now⟩

end Store

end WideColumn
