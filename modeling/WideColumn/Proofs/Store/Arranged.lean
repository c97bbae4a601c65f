import Mathlib.Logic.IsEmpty.Basic
import WideColumn.Proofs.Codec.Ties
import WideColumn.Proofs.Store.Reading

/-!
# Rows without their order of arrival

Tables keep their keys in order of arrival. Arranged, they have them in the order of a validator, and
only keys at the same place are still in order of arrival (`Table.arranged_eq_iff`). Every read of
more than one column sorts what it finds before it looks at it, and one of a single column finds it
by its name, so no read tells rows from the same rows arranged (`Store.getRow_arranged`,
`Store.getSlice_arranged`, `Store.getIndexedSlices_arranged`).
-/

namespace WideColumn

/-! ### Arranged tables -/

namespace Table

variable {α : Type} {validator : Validator} {view : α → α} {table other : Table Bytes α}
  {key : Bytes}

/-- The order of the entries that a validator gives by their keys. -/
def precedes (validator : Validator) (first second : Bytes × α) : Bool :=
  validator.precedes first.1 second.1

/-- An entry with another view of its value. -/
def viewed (view : α → α) (entry : Bytes × α) : Bytes × α :=
  (entry.1, view entry.2)

theorem ranks_precedes (validator : Validator) :
    Order.Ranks (precedes validator : Bytes × α → Bytes × α → Bool) where
  total first second := validator.ranks_precedes.total first.1 second.1
  trans first second third := validator.ranks_precedes.trans first.1 second.1 third.1

theorem keys_viewed (entries : List (Bytes × α)) :
    (entries.map (viewed view)).map Prod.fst = entries.map Prod.fst := by
  rw [List.map_map]
  rfl

/-- The table with its keys in the order of a validator, and with another view of its values. -/
def arranged (validator : Validator) (view : α → α) (table : Table Bytes α) : Table Bytes α where
  entries := (validator.sortOn Prod.fst table.entries).map (viewed view)
  distinct := by
    rw [keys_viewed]
    exact nodup_sortOn validator table

/-- Values may be viewed before the keys are sorted. -/
theorem sortOn_viewed (validator : Validator) (view : α → α) (entries : List (Bytes × α)) :
    validator.sortOn Prod.fst (entries.map (viewed view)) =
      (validator.sortOn Prod.fst entries).map (viewed view) := by
  show Order.sort (precedes validator) (entries.map (viewed view)) =
    (Order.sort (precedes validator) entries).map (viewed view)
  exact Order.sort_map (fun _ _ => rfl) entries

/-- What is arranged is sorted. -/
theorem sortOn_arranged (validator : Validator) (view : α → α) (table : Table Bytes α) :
    validator.sortOn Prod.fst (table.arranged validator view).entries =
      (table.arranged validator view).entries := by
  show validator.sortOn Prod.fst ((validator.sortOn Prod.fst table.entries).map (viewed view)) = _
  rw [sortOn_viewed]
  exact congrArg _ (Order.sort_sort (ranks_precedes validator) _)

theorem get?_arranged (validator : Validator) (view : α → α) (table : Table Bytes α)
    (key : Bytes) : (table.arranged validator view).get? key = (table.get? key).map view := by
  refine Option.ext fun value => ?_
  rw [get?_eq_some, Option.map_eq_some_iff]
  constructor
  · intro mem
    obtain ⟨⟨name, held⟩, inside, same⟩ := List.mem_map.1 mem
    cases same
    exact ⟨held, mem_sortOn.1 inside, rfl⟩
  · rintro ⟨held, found, rfl⟩
    exact List.mem_map.2 ⟨(key, held), mem_sortOn.2 found, rfl⟩

/-- The entries at the place of a key, in order of arrival. -/
def placed (validator : Validator) (view : α → α) (key : Bytes) (entries : List (Bytes × α)) :
    List (Bytes × α) :=
  (entries.map (viewed view)).filter fun entry => Order.tied validator.precedes key entry.1

/-- Arranging forgets all of the order of arrival but that of keys at the same place. -/
theorem arranged_eq_iff : table.arranged validator view = other.arranged validator view ↔
    ∀ key, placed validator view key table.entries = placed validator view key other.entries := by
  have sorted : (table.arranged validator view).entries = (other.arranged validator view).entries ↔
      ∀ entry : Bytes × α,
        placed validator view entry.1 table.entries = placed validator view entry.1 other.entries := by
    show (validator.sortOn Prod.fst table.entries).map (viewed view) =
      (validator.sortOn Prod.fst other.entries).map (viewed view) ↔ _
    rw [← sortOn_viewed, ← sortOn_viewed]
    exact Order.sort_eq_sort (ranks_precedes validator)
  constructor
  · intro same key
    rcases isEmpty_or_nonempty α with none | ⟨⟨value⟩⟩
    · rw [Subsingleton.elim table.entries other.entries]
    · exact sorted.1 (congrArg entries same) (key, value)
  · exact fun same => ext (sorted.2 fun entry => same entry.1)

/-! ### Changed values -/

theorem viewed_putIn (view : α → α) (key : Bytes) (value : α) (entries : List (Bytes × α)) :
    (putIn key value entries).map (viewed view) = putIn key (view value) (entries.map (viewed view)) := by
  induction entries with
  | nil => rfl
  | cons entry rest ih =>
    by_cases same : entry.1 = key
    · simp [putIn, viewed, same]
    · simp [putIn, viewed, same, ih]

/-- A value is put at the place of its key. -/
theorem placed_putIn (validator : Validator) (view : α → α) (wanted key : Bytes) (value : α)
    (entries : List (Bytes × α)) :
    placed validator view wanted (putIn key value entries) =
      if Order.tied validator.precedes wanted key
      then putIn key (view value) (placed validator view wanted entries)
      else placed validator view wanted entries := by
  rw [placed, viewed_putIn]
  exact filter_putIn (Order.tied validator.precedes wanted) key (view value) _

/-- The table with what it has for a key changed. -/
def update (table : Table Bytes α) (key : Bytes) (change : Option α → α) : Table Bytes α :=
  table.put key (change (table.get? key))

theorem arranged_put_congr {value held : α}
    (same : table.arranged validator view = other.arranged validator view)
    (sameValue : view value = view held) :
    (table.put key value).arranged validator view = (other.put key held).arranged validator view := by
  rw [arranged_eq_iff] at same ⊢
  intro wanted
  show placed validator view wanted (putIn key value _) =
    placed validator view wanted (putIn key held _)
  rw [placed_putIn, placed_putIn, same, sameValue]

/-- Tables that are arranged alike stay so when they are changed alike. -/
theorem arranged_update_congr {change : Option α → α}
    (same : table.arranged validator view = other.arranged validator view)
    (alike : ∀ {before held : Option α}, before.map view = held.map view →
      view (change before) = view (change held)) :
    (table.update key change).arranged validator view =
      (other.update key change).arranged validator view := by
  refine arranged_put_congr same (alike ?_)
  rw [← get?_arranged validator, same, get?_arranged]

/-- Keys at different places may be given their values in either order. -/
theorem arranged_update_comm {later : Bytes} {change laterChange : Option α → α}
    (apart : Order.tied validator.precedes key later = false) :
    ((table.update key change).update later laterChange).arranged validator view =
      ((table.update later laterChange).update key change).arranged validator view := by
  have differ : key ≠ later := by
    rintro rfl
    rw [validator.ranks_precedes.tied_self] at apart
    cases apart
  simp only [update, get?_put, if_neg differ, if_neg differ.symm]
  rw [arranged_eq_iff]
  intro wanted
  show placed validator view wanted (putIn later _ (putIn key _ _)) =
    placed validator view wanted (putIn key _ (putIn later _ _))
  simp only [placed_putIn]
  split
  · rename_i one
    split
    · rename_i two
      -- Nothing is at the places of both keys.
      have together := validator.ranks_precedes.tied_trans (Order.tied_symm two) one
      rw [apart] at together
      cases together
    · rfl
  · rfl

/-- One key may be changed twice in either order if its value may. -/
theorem arranged_update_update {change later : Option α → α}
    (alike : ∀ before, view (later (some (change before))) = view (change (some (later before)))) :
    ((table.update key change).update key later).arranged validator view =
      ((table.update key later).update key change).arranged validator view := by
  simp only [update, get?_put, if_true, put_put]
  exact arranged_put_congr rfl (alike _)

end Table

/-! ### Arranged rows -/

variable {family : ColumnFamily}

/-- The columns of a super column in the order of the subcomparator. -/
def Slot.arranged (family : ColumnFamily) : Slot → Slot
  | .record found => .record found
  | .group records => .group (records.arranged (Store.validatorOf family.subcomparatorType) id)

/-- The row with its columns and those of its super columns in order. -/
def Row.arranged (family : ColumnFamily) (row : Row) : Row :=
  Table.arranged (Store.validatorOf family.comparatorType) (Slot.arranged family) row

/-- Rows in order, with their columns in order. -/
def Store.arranged (family : ColumnFamily) (rows : Table Bytes Row) : Table Bytes Row :=
  Table.arranged (validatorOf family.keyValidationClass) (Row.arranged family) rows

@[simp] theorem Slot.record?_arranged (slot : Slot) :
    (slot.arranged family).record? = slot.record? := by
  cases slot <;> rfl

/-! ### Reading one row -/

@[simp] theorem liveCells_arranged (now : Int) (records : Table Bytes Record) :
    liveCells family now (records.arranged (Store.validatorOf family.subcomparatorType) id) =
      liveCells family now records := by
  unfold liveCells
  rw [Table.sortOn_arranged]
  show (((_ : List _).map (Table.viewed id)).map _).filter _ = _
  rw [List.map_map]
  rfl

@[simp] theorem readSuperColumn_arranged (now : Int) (name : Bytes)
    (records : Table Bytes Record) :
    readSuperColumn family now name
        (records.arranged (Store.validatorOf family.subcomparatorType) id) =
      readSuperColumn family now name records := by
  rw [readSuperColumn, liveCells_arranged]
  rfl

@[simp] theorem readColumn_arranged (now : Int) (name : Bytes) (slot : Slot) :
    readColumn now name (slot.arranged family) = readColumn now name slot := by
  cases slot <;> rfl

@[simp] theorem Row.get?_arranged (row : Row) (name : Bytes) :
    (row.arranged family).get? name = (row.get? name).map (Slot.arranged family) :=
  Table.get?_arranged _ _ row name

/-- A super column may be looked up in the arranged row, by whoever sorts its columns. -/
theorem Row.group?_bind_arranged {β : Type} (row : Row) (name : Bytes) (use : SuperColumnUse)
    {next : Option (Table Bytes Record) → Except Failure β}
    (alike : ∀ records : Table Bytes Record,
      next (some (records.arranged (Store.validatorOf family.subcomparatorType) id)) =
        next (some records)) :
    ((row.arranged family).group? name use >>= next) = (row.group? name use >>= next) := by
  rw [Row.group?, Row.group?, Row.get?_arranged]
  cases row.get? name with
  | none => rfl
  | some slot =>
    cases slot with
    | record found => rfl
    | group records => exact alike records

/-- Items may be viewed before or after each of them is read. -/
theorem mapM_of_viewed {α β : Type} (view : α → α) (after : β → β) (read : α → Except Failure β)
    (alike : ∀ item, read (view item) = after <$> read item) (items : List α) :
    (items.map view).mapM read = List.map after <$> items.mapM read := by
  induction items with
  | nil => rfl
  | cons first rest ih =>
    rw [List.map_cons, List.mapM_cons, List.mapM_cons, alike, ih]
    cases read first with
    | error failure => rfl
    | ok value => cases rest.mapM read <;> rfl

@[simp] theorem Row.read_arranged (now : Int) (row : Row) :
    (row.arranged family).read family now = row.read family now := by
  unfold Row.read
  simp only [Row.arranged, Table.sortOn_arranged]
  split
  · have groups := mapM_of_viewed (Table.viewed (Slot.arranged family))
      (Table.viewed (Table.arranged (Store.validatorOf family.subcomparatorType) id))
      (fun item => return (item.1, ← item.2.superColumn .readAll))
      (fun item => by obtain ⟨name, slot⟩ := item; cases slot <;> rfl)
      ((Store.validatorOf family.comparatorType).sortOn Prod.fst row.entries)
    show (List.mapM (fun item : Bytes × Slot => return (item.1, ← item.2.superColumn .readAll))
      (List.map _ _) >>= fun groups => pure (groups.filterMap _)) = _
    rw [groups, bind_map_left]
    refine bind_congr fun groups => congrArg Except.ok ?_
    rw [List.filterMap_map]
    exact List.filterMap_congr fun item _ => readSuperColumn_arranged now item.1 item.2
  · refine congrArg Except.ok ?_
    show List.filterMap _ (List.map _ _) = _
    rw [List.filterMap_map]
    exact List.filterMap_congr fun item _ => readColumn_arranged now item.1 item.2

@[simp] theorem Store.satisfies_arranged (now : Int) (row : Row) :
    satisfies family now (row.arranged family) = satisfies family now row := by
  funext expression
  unfold satisfies
  rw [Row.get?_arranged]
  cases row.get? expression.column with
  | none => rfl
  | some slot => cases slot <;> rfl

/-! ### Reading the store -/

namespace Store

variable {store other : Store} {name : String}

/-- Whether two stores have one definition of a column family, and the same rows in it but for the
order of arrival of what its validators tell apart. -/
structure SameArranged (store other : Store) (name : String) : Prop where
  family : other.family name = store.family name
  rows : ∀ {family}, store.family name = .ok family →
    arranged family (other.rowsOf family) = arranged family (store.rowsOf family)

theorem get?_arranged (rows : Table Bytes Row) (key : Bytes) :
    (arranged family rows).get? key = (rows.get? key).map (Row.arranged family) :=
  Table.get?_arranged _ _ rows key

theorem viewed_sortedRows (store : Store) (family : ColumnFamily) :
    (store.sortedRows family).map (Table.viewed (Row.arranged family)) =
      (arranged family (store.rowsOf family)).entries :=
  rfl

theorem getRow_arranged (alike : SameArranged store other name) (now : Int) (key : Bytes)
    (superColumn : Option Bytes) (count : Int) :
    other.getRow now name key superColumn count = store.getRow now name key superColumn count := by
  unfold getRow
  rw [alike.family]
  refine bind_congr_of_ok fun family found => bind_congr_of_ok fun _ _ => ?_
  have rows : ((other.rowsOf family).get? key).map (Row.arranged family) =
      ((store.rowsOf family).get? key).map (Row.arranged family) := by
    rw [← get?_arranged, alike.rows found, get?_arranged]
  cases filed : (store.rowsOf family).get? key with
  | none =>
    rw [filed, Option.map_none, Option.map_eq_none_iff] at rows
    rw [rows]
  | some row =>
    rw [filed, Option.map_some, Option.map_eq_some_iff] at rows
    obtain ⟨held, found, same⟩ := rows
    rw [found]
    dsimp only
    cases superColumn with
    | none =>
      dsimp only
      rw [← Row.read_arranged, same, Row.read_arranged]
    | some outer =>
      dsimp only
      rw [← Row.group?_bind_arranged row, ← same, Row.group?_bind_arranged held]
      all_goals
        intro records
        dsimp only
        rw [liveCells_arranged]

/-- What a scan comes across in a row, if there is something to see or to fail for. -/
def comesAcross (family : ColumnFamily) (now : Int) (item : Bytes × Row) :
    Option (Except Failure RowSlice) :=
  match item.2.read family now with
  | .ok [] => none
  | entries => some (RowSlice.mk item.1 <$> entries)

theorem getSlice_arranged (alike : SameArranged store other name) (now : Int)
    (start stop : Bytes) (count : Int) :
    other.getSlice now name start stop count = store.getSlice now name start stop count := by
  unfold getSlice
  rw [alike.family]
  refine bind_congr_of_ok fun family found => ?_
  let within : Bytes × Row → Bool := fun item =>
    inRange (validatorOf family.keyValidationClass) start stop item.1
  -- A scan looks at keys, and at what can be seen of their rows.
  have scan (items : List (Bytes × Row)) :
      (items.filter within).filterMap (comesAcross family now) =
        ((items.map (Table.viewed (Row.arranged family))).filter within).filterMap
          (comesAcross family now) := by
    rw [List.filter_map, List.filterMap_map]
    refine List.filterMap_congr fun item _ => ?_
    simp only [comesAcross, Function.comp_apply, Table.viewed, Row.read_arranged]
  show (upTo count ((List.filter within _).filterMap (comesAcross family now))).mapM id =
    (upTo count ((List.filter within _).filterMap (comesAcross family now))).mapM id
  rw [scan, viewed_sortedRows, alike.rows found, ← viewed_sortedRows, ← scan]

theorem getIndexedSlices_arranged (alike : SameArranged store other name) (now : Int)
    (expressions : List IndexExpression) (count : Int) :
    other.getIndexedSlices now name expressions count =
      store.getIndexedSlices now name expressions count := by
  unfold getIndexedSlices
  rw [alike.family]
  refine bind_congr_of_ok fun family found => ?_
  let matching : Bytes × Row → Bool := fun item => expressions.all (satisfies family now item.2)
  let read : Bytes × Row → Except Failure RowSlice := fun item =>
    return ⟨item.1, ← item.2.read family now⟩
  -- Neither a condition on a row nor what is listed of it depends on how the row is arranged.
  have scan (items : List (Bytes × Row)) : (upTo count (items.filter matching)).mapM read =
      (upTo count ((items.map (Table.viewed (Row.arranged family))).filter matching)).mapM read := by
    rw [List.filter_map, ← map_upTo, List.mapM_map]
    simp only [matching, read, Function.comp_def, Table.viewed, Row.read_arranged,
      satisfies_arranged]
  have same : (upTo count ((other.sortedRows family).filter matching)).mapM read =
      (upTo count ((store.sortedRows family).filter matching)).mapM read := by
    rw [scan, viewed_sortedRows, alike.rows found, ← viewed_sortedRows, ← scan]
  cases super : family.isSuper with
  | true => rfl
  | false =>
    cases indexed : expressions.any (usesIndex family) with
    | false => rfl
    | true => exact same

end Store

end WideColumn
