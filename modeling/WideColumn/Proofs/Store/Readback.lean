import WideColumn.Proofs.Store.Changes
import WideColumn.Store.Read

/-!
# What was written is read

A column that was set is found at its place, with its value and its time, at the time at which it was
set; this holds whatever else the store has, and whether or not the place is inside a super column.
-/

namespace WideColumn

/-- A column that was put into a super column is found there. -/
theorem Row.record?_put {row after : Row} {name column : Bytes} {record : Record}
    (put : row.put (some name) column record = .ok after) :
    after.record? (some name) column = .ok (some record) := by
  obtain ⟨records, -, same⟩ := bind_eq_ok.1 put
  cases same
  simp only [Row.record?, Row.group?, Table.get?_put, if_true]
  show Except.ok (((records.getD .empty).put column record).get? column) = _
  rw [Table.get?_put, if_pos rfl]

/-- A column that was put into the row itself is found there. -/
theorem Row.get?_put {row after : Row} {column : Bytes} {record : Record}
    (put : row.put none column record = .ok after) :
    after.get? column = some (.record record) := by
  cases put
  rw [Table.get?_put, if_pos rfl]

namespace Store

variable {store after : Store}

@[simp] theorem rowsOf_withRows_self (family : ColumnFamily) (rows : Table Bytes Row) :
    (store.withRows family rows).rowsOf family = rows := by
  rw [rowsOf, withRows, Table.get?_put, if_pos rfl]
  rfl

/-- A value is seen at the time at which it was written: its time to live has only begun. -/
theorem isLive_of_requirePositive {now : Int} {data : Bytes} {ttl : Option Int}
    (positive : requirePositive ttl = .ok ()) : (Record.value data now ttl).isLive now = true := by
  cases ttl with
  | none => rfl
  | some seconds =>
    unfold requirePositive at positive
    simp only at positive
    split at positive
    · cases positive
    · rename_i positive
      simp only [Record.isLive, decide_eq_true_eq]
      omega

theorem getColumn_insertColumn {now : Int} {location : Location} {data : Bytes} {ttl : Option Int}
    {inserted : Unit} (run : insertColumn now location data ttl store = (.ok inserted, after)) :
    ∃ column, location.column = some column ∧
      after.getColumn now location = .ok (some (.cell ⟨column, .value data now ttl⟩)) := by
  obtain ⟨column, family, rows, given, positive, found, -, shape, changed, rfl⟩ :=
    insertColumn_ok run
  have live : (Record.value data now ttl).isLive now = true := isLive_of_requirePositive positive
  refine ⟨column, given, ?_⟩
  obtain ⟨row, put, same⟩ := bind_eq_ok.1 changed
  cases same
  obtain ⟨name, key, superColumn, _⟩ := location
  obtain rfl : _ = some column := given
  unfold getColumn
  refine bind_eq_ok.2 ⟨family, found, bind_eq_ok.2 ⟨(), shape, ?_⟩⟩
  rw [rowsOf_withRows_self, Table.get?_put, if_pos rfl]
  cases superColumn with
  | none =>
    show Except.ok ((row.get? column).bind (readColumn now column)) = _
    rw [Row.get?_put put]
    simp [readColumn, live]
  | some outer =>
    refine bind_eq_ok.2 ⟨some (.value data now ttl), Row.record?_put put, ?_⟩
    simp [readColumn, live, pure, Except.pure]

end Store

end WideColumn
