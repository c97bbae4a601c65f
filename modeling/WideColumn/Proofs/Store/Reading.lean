import Mathlib.Data.List.Nodup
import Mathlib.Tactic.TFAE
import WideColumn.Proofs.Store.Flat
import WideColumn.Proofs.Store.Soundness
import WideColumn.Proofs.Success
import WideColumn.Proofs.Tables

/-!
# What reading lists

On rows that fit their column family no read fails for what it comes across, and each of them is a
pure function of what can be seen (`seen`, `liveCells`). A record is in these lists just if it is on
file under its names and is live, whatever the order in which they are sorted. Names are distinct on
file, and sorting and leaving out keep them so.
-/

namespace WideColumn

/-! ### Lists that are read -/

/-- The name of an entry, if it is of the right kind. -/
def Entry.name? : Entry → Option Bytes
  | cell found => some found.name
  | superColumn name _ => some name
  | misplaced => none

/-- Whether entries of a row can be shown side by side: they have names, all of them different, and
super columns have columns in them, again with different names. -/
structure WellListed (entries : List Entry) : Prop where
  placed : ∀ entry ∈ entries, entry.name?.isSome
  distinct : (entries.map Entry.name?).Nodup
  filled : ∀ name cells, .superColumn name cells ∈ entries →
    cells ≠ [] ∧ (cells.map Cell.name).Nodup

/-- What is left of a list can be shown as well. -/
theorem WellListed.sublist {entries rest : List Entry} (listed : WellListed entries)
    (sublist : rest.Sublist entries) : WellListed rest where
  placed entry mem := listed.placed entry (sublist.subset mem)
  distinct := listed.distinct.sublist (sublist.map _)
  filled name cells mem := listed.filled name cells (sublist.subset mem)

/-- Columns with different names can be shown side by side. -/
theorem wellListed_cells {cells : List Cell} (distinct : (cells.map Cell.name).Nodup) :
    WellListed (cells.map .cell) where
  placed entry mem := by
    obtain ⟨cell, -, rfl⟩ := List.mem_map.1 mem
    rfl
  distinct := by
    have named : (cells.map Entry.cell).map Entry.name? = (cells.map Cell.name).map some := by
      rw [List.map_map, List.map_map]
      rfl
    rw [named]
    exact distinct.map fun _ _ => Option.some.inj
  filled name inner mem := by
    obtain ⟨cell, -, same⟩ := List.mem_map.1 mem
    cases same

theorem cut_sublist {α : Type} (count : Int) (items : List α) : (cut count items).Sublist items := by
  unfold cut
  split
  · exact List.take_sublist _ _
  · exact List.take_sublist _ _

theorem upTo_sublist {α : Type} (count : Int) (items : List α) :
    (upTo count items).Sublist items :=
  List.take_sublist _ _

theorem map_upTo {α β : Type} (view : α → β) (count : Int) (items : List α) :
    (upTo count items).map view = upTo count (items.map view) :=
  List.map_take

/-- A count that is not below the number of items leaves none off. -/
theorem cut_of_le {α : Type} {count : Int} {items : List α} (within : items.length ≤ count) :
    cut count items = items := by
  rw [cut, if_neg (by omega)]
  exact List.take_of_length_le (by omega)

theorem upTo_of_le {α : Type} {count : Int} {items : List α} (within : items.length ≤ count) :
    upTo count items = items :=
  List.take_of_length_le (by omega)

theorem mapM_eq_ok {α β : Type} {read : α → Except Failure β} {view : α → β} {items : List α}
    (each : ∀ item ∈ items, read item = .ok (view item)) :
    items.mapM read = .ok (items.map view) := by
  induction items with
  | nil => rfl
  | cons first rest ih =>
    rw [List.mapM_cons, each first List.mem_cons_self,
      ih fun item mem => each item (List.mem_cons_of_mem first mem)]
    rfl

/-- Items with distinct names that are turned into items of the same names keep them distinct. -/
theorem map_filterMap_sublist {α β γ : Type} {view : α → Option β} {named : α → γ} {name : β → γ}
    (same : ∀ item found, view item = some found → name found = named item) (items : List α) :
    ((items.filterMap view).map name).Sublist (items.map named) := by
  induction items with
  | nil => exact .refl _
  | cons first rest ih =>
    cases seen : view first with
    | none =>
      rw [List.filterMap_cons_none seen]
      exact .cons _ ih
    | some found =>
      rw [List.filterMap_cons_some seen, List.map_cons, List.map_cons, same first found seen]
      exact .cons_cons _ ih

/-- Whether a read gives certain items for every count that they do not exceed. -/
def ListsAll {α : Type} (read : Int → Except Failure (List α)) (items : List α) : Prop :=
  ∀ count : Int, items.length ≤ count → read count = .ok items

/-! ### What can be seen -/

section Seen

variable {family : ColumnFamily} {now : Int} {name : Bytes} {row : Row}
  {records : Table Bytes Record} {cell : Cell} {cells : List Cell}

theorem sortOn_perm {α : Type} (validator : Validator) (bytesOf : α → Bytes) (items : List α) :
    (validator.sortOn bytesOf items).Perm items :=
  Order.sort_perm _ _

/-- A table that is sorted by its keys lists each key once. -/
theorem nodup_sortOn {α : Type} (validator : Validator) (table : Table Bytes α) :
    ((validator.sortOn Prod.fst table.entries).map Prod.fst).Nodup :=
  ((sortOn_perm validator Prod.fst table.entries).map _).nodup_iff.2 table.distinct

theorem mem_sortOn {α : Type} {validator : Validator} {table : Table Bytes α} {value : α} :
    (name, value) ∈ validator.sortOn Prod.fst table.entries ↔ table.get? name = some value := by
  rw [(sortOn_perm validator Prod.fst table.entries).mem_iff, Table.get?_eq_some]

/-- The columns of a super column that are listed are those on file that are live. -/
theorem mem_liveCells : cell ∈ liveCells family now records ↔
    records.get? cell.name = some cell.record ∧ cell.record.isLive now = true := by
  rw [liveCells, List.mem_filter, List.mem_map]
  constructor
  · rintro ⟨⟨⟨name, record⟩, mem, same⟩, live⟩
    cases same
    exact ⟨mem_sortOn.1 mem, live⟩
  · rintro ⟨found, live⟩
    exact ⟨⟨(cell.name, cell.record), mem_sortOn.2 found, rfl⟩, live⟩

theorem nodup_liveCells : ((liveCells family now records).map Cell.name).Nodup := by
  refine (nodup_sortOn (Store.validatorOf family.subcomparatorType) records).sublist ?_
  refine (List.filter_sublist.map Cell.name).trans ?_
  rw [List.map_map]
  exact .refl _

theorem readColumn_eq_some {record : Record} {entry : Entry} :
    readColumn now name (.record record) = some entry ↔
      record.isLive now = true ∧ entry = .cell ⟨name, record⟩ := by
  rw [readColumn]
  constructor
  · intro seen
    split at seen
    · rename_i live
      exact ⟨live, (Option.some.inj seen).symm⟩
    · cases seen
  · rintro ⟨live, rfl⟩
    exact if_pos live

theorem readSuperColumn_eq_some {entry : Entry} :
    readSuperColumn family now name records = some entry ↔
      liveCells family now records ≠ [] ∧
        entry = .superColumn name (liveCells family now records) := by
  rw [readSuperColumn]
  split
  · rename_i nothing
    rw [nothing]
    exact ⟨nofun, fun ⟨filled, _⟩ => absurd rfl filled⟩
  · rename_i filled
    exact ⟨fun seen => ⟨filled, (Option.some.inj seen).symm⟩, fun ⟨_, same⟩ => congrArg some same.symm⟩

/-- What can be seen of a slot. -/
def Slot.seen (family : ColumnFamily) (now : Int) (name : Bytes) : Slot → Option Entry
  | .record found => readColumn now name (.record found)
  | .group records => readSuperColumn family now name records

theorem Slot.seen_record_eq_some {found : Record} {entry : Entry} :
    Slot.seen family now name (.record found) = some entry ↔
      found.isLive now = true ∧ entry = .cell ⟨name, found⟩ :=
  readColumn_eq_some

theorem Slot.seen_group_eq_some {entry : Entry} :
    Slot.seen family now name (.group records) = some entry ↔
      liveCells family now records ≠ [] ∧
        entry = .superColumn name (liveCells family now records) :=
  readSuperColumn_eq_some

/-- What is seen of a slot has its name. -/
theorem Slot.name?_of_seen {slot : Slot} {entry : Entry}
    (seen : slot.seen family now name = some entry) : entry.name? = some name := by
  cases slot with
  | record record =>
    obtain ⟨-, rfl⟩ := seen_record_eq_some.1 seen
    rfl
  | group records =>
    obtain ⟨-, rfl⟩ := seen_group_eq_some.1 seen
    rfl

/-- What can be seen of a row, if it is in one layout. -/
def Row.seen (family : ColumnFamily) (now : Int) (row : Row) : List Entry :=
  ((Store.validatorOf family.comparatorType).sortOn Prod.fst row.entries).filterMap
    fun (name, slot) => slot.seen family now name

@[simp] theorem Row.seen_empty : Row.seen family now .empty = [] := rfl

theorem Row.mem_seen {entry : Entry} : entry ∈ row.seen family now ↔
    ∃ name slot, row.get? name = some slot ∧ slot.seen family now name = some entry := by
  rw [Row.seen, List.mem_filterMap]
  constructor
  · rintro ⟨⟨name, slot⟩, mem, seen⟩
    exact ⟨name, slot, mem_sortOn.1 mem, seen⟩
  · rintro ⟨name, slot, found, seen⟩
    exact ⟨(name, slot), mem_sortOn.2 found, seen⟩

/-- The columns of a row that are listed are those on file that are live. -/
theorem Row.cell_mem_seen : .cell cell ∈ row.seen family now ↔
    row.get? cell.name = some (.record cell.record) ∧ cell.record.isLive now = true := by
  rw [Row.mem_seen]
  constructor
  · rintro ⟨name, slot, found, seen⟩
    cases slot with
    | record record =>
      obtain ⟨live, same⟩ := Slot.seen_record_eq_some.1 seen
      cases same
      exact ⟨found, live⟩
    | group records =>
      obtain ⟨-, same⟩ := Slot.seen_group_eq_some.1 seen
      cases same
  · rintro ⟨found, live⟩
    exact ⟨cell.name, _, found, Slot.seen_record_eq_some.2 ⟨live, rfl⟩⟩

/-- The super columns of a row that are listed are those on file with live columns. -/
theorem Row.superColumn_mem_seen : .superColumn name cells ∈ row.seen family now ↔
    cells ≠ [] ∧ ∃ records, row.get? name = some (.group records) ∧
      cells = liveCells family now records := by
  rw [Row.mem_seen]
  constructor
  · rintro ⟨found, slot, get, seen⟩
    cases slot with
    | record record =>
      obtain ⟨-, same⟩ := Slot.seen_record_eq_some.1 seen
      cases same
    | group records =>
      obtain ⟨filled, same⟩ := Slot.seen_group_eq_some.1 seen
      cases same
      exact ⟨filled, records, get, rfl⟩
  · rintro ⟨filled, records, get, rfl⟩
    exact ⟨name, _, get, Slot.seen_group_eq_some.2 ⟨filled, rfl⟩⟩

/-- What can be seen of a row can be shown side by side. -/
theorem Row.wellListed_seen : WellListed (row.seen family now) where
  placed entry mem := by
    obtain ⟨name, slot, -, seen⟩ := Row.mem_seen.1 mem
    rw [Slot.name?_of_seen seen]
    rfl
  distinct := by
    let sorted := (Store.validatorOf family.comparatorType).sortOn Prod.fst row.entries
    have named : (sorted.map fun item => some item.1).Nodup := by
      have distinct := nodup_sortOn (Store.validatorOf family.comparatorType) row
      have split : (sorted.map fun item => some item.1) = (sorted.map Prod.fst).map some := by
        rw [List.map_map]
        rfl
      rw [split]
      exact distinct.map fun _ _ => Option.some.inj
    refine named.sublist (map_filterMap_sublist ?_ sorted)
    exact fun item entry seen => Slot.name?_of_seen seen
  filled name cells mem := by
    obtain ⟨filled, records, -, rfl⟩ := Row.superColumn_mem_seen.1 mem
    exact ⟨filled, nodup_liveCells⟩

end Seen

/-! ### The reads of a row -/

/-- Reading a row of one layout lists what can be seen of it. -/
theorem Row.read_eq {family : ColumnFamily} {row : Row} (fits : row.Fits family.isSuper)
    (now : Int) : row.read family now = .ok (row.seen family now) := by
  have layout {item : Bytes × Slot}
      (mem : item ∈ (Store.validatorOf family.comparatorType).sortOn Prod.fst row.entries) :
      item.2.isGroup = family.isSuper := fits item.1 item.2 (mem_sortOn.1 mem)
  unfold Row.read Row.seen
  cases super : family.isSuper with
  | true =>
    have each : ∀ item ∈ (Store.validatorOf family.comparatorType).sortOn Prod.fst row.entries,
        (do return (item.1, ← item.2.superColumn .readAll) : Except Failure _) =
          .ok (item.1, item.2.group?.getD .empty) := by
      rintro ⟨name, slot⟩ mem
      cases slot with
      | record record => exact absurd ((layout mem).trans super) nofun
      | group records => rfl
    refine bind_eq_ok.2 ⟨_, mapM_eq_ok each, congrArg Except.ok ?_⟩
    rw [List.filterMap_map]
    refine List.filterMap_congr fun item mem => ?_
    obtain ⟨name, slot⟩ := item
    cases slot with
    | record record => exact absurd ((layout mem).trans super) nofun
    | group records => rfl
  | false =>
    refine congrArg Except.ok (List.filterMap_congr fun item mem => ?_)
    obtain ⟨name, slot⟩ := item
    cases slot with
    | record record => rfl
    | group records => exact absurd ((layout mem).trans super) nofun

namespace Store

/-- The columns of a super column; there are none if it is not on file. -/
def groupAt (rows : Table Bytes Row) (key outer : Bytes) : Table Bytes Record :=
  (((rowAt rows key).get? outer).bind Slot.group?).getD .empty

section Reads

variable {store : Store} {name : String} {family : ColumnFamily} {now : Int} {key : Bytes}

theorem getRow_row (found : store.family name = .ok family)
    (fit : RowsFit family.isSuper (store.rowsOf family)) (count : Int) :
    store.getRow now name key none count =
      .ok (cut count ((rowAt (store.rowsOf family) key).seen family now)) := by
  have shape : checkShape family ⟨name, key, none, none⟩ = .ok () :=
    checkShape_ok ⟨fun _ given => absurd given nofun, fun _ => rfl⟩
  have fits := fit key
  simp only [getRow, found, shape, bind, Except.bind]
  rw [rowAt] at fits ⊢
  cases filed : (store.rowsOf family).get? key with
  | none =>
    rw [Option.getD_none, Row.seen_empty]
    exact congrArg Except.ok (List.sublist_nil.1 (cut_sublist count [])).symm
  | some row =>
    rw [filed] at fits
    exact map_eq_ok.2 ⟨_, Row.read_eq fits now, rfl⟩

theorem getRow_superColumn (found : store.family name = .ok family)
    (fit : RowsFit family.isSuper (store.rowsOf family)) (super : family.isSuper = true)
    (outer : Bytes) (count : Int) :
    store.getRow now name key (some outer) count =
      .ok ((cut count (liveCells family now (groupAt (store.rowsOf family) key outer))).map .cell) := by
  have shape : checkShape family ⟨name, key, some outer, none⟩ = .ok () :=
    checkShape_ok ⟨fun _ _ => rfl, fun standard => absurd (super.symm.trans standard) nofun⟩
  have nothing : (cut count ([] : List Cell)).map Entry.cell = [] := by
    rw [List.sublist_nil.1 (cut_sublist count [])]
    rfl
  have fits := fit key
  rw [super] at fits
  simp only [getRow, found, shape, bind, Except.bind]
  rw [groupAt]
  rw [rowAt] at fits ⊢
  cases filed : (store.rowsOf family).get? key with
  | none => exact congrArg Except.ok nothing.symm
  | some row =>
    rw [filed, Option.getD_some] at fits
    simp only [Row.group?_ok fits, Option.getD_some]
    cases (row.get? outer).bind Slot.group? with
    | none => exact congrArg Except.ok nothing.symm
    | some records => rfl

theorem getColumn_superColumn (found : store.family name = .ok family)
    (fit : RowsFit family.isSuper (store.rowsOf family)) (super : family.isSuper = true)
    (outer : Bytes) :
    store.getColumn now ⟨name, key, some outer, none⟩ =
      .ok (readSuperColumn family now outer (groupAt (store.rowsOf family) key outer)) := by
  have shape : checkShape family ⟨name, key, some outer, none⟩ = .ok () :=
    checkShape_ok ⟨fun _ _ => rfl, fun standard => absurd (super.symm.trans standard) nofun⟩
  have fits := fit key
  rw [super] at fits
  simp only [getColumn, found, shape, bind, Except.bind]
  rw [groupAt]
  rw [rowAt] at fits ⊢
  cases filed : (store.rowsOf family).get? key with
  | none => rfl
  | some row =>
    rw [filed, Option.getD_some] at fits
    simp only [Row.group?_ok fits, Option.getD_some]
    cases (row.get? outer).bind Slot.group? with
    | none => rfl
    | some records => rfl

/-- The answer for a column is the live record that is on file under its names. -/
theorem getColumn_eq_cell {outer : Option Bytes} {column : Bytes} {cell : Cell}
    (found : store.family name = .ok family)
    (fit : RowsFit family.isSuper (store.rowsOf family)) (formed : outer.isSome = family.isSuper) :
    store.getColumn now ⟨name, key, outer, some column⟩ = .ok (some (.cell cell)) ↔
      cell.name = column ∧ recordIn (store.rowsOf family) key outer cell.name = some cell.record ∧
        cell.record.isLive now = true := by
  rw [getColumn_ok found fit formed, Except.ok.injEq, Option.bind_eq_some_iff]
  constructor
  · rintro ⟨slot, mapped, seen⟩
    obtain ⟨record, filed, rfl⟩ := Option.map_eq_some_iff.1 mapped
    obtain ⟨live, same⟩ := readColumn_eq_some.1 seen
    cases same
    exact ⟨rfl, filed, live⟩
  · rintro ⟨rfl, filed, live⟩
    refine ⟨.record cell.record, ?_, readColumn_eq_some.2 ⟨live, rfl⟩⟩
    rw [filed, Option.map_some]

/-! ### Scans -/

/-- What a scan lists of a row, if there is something to see. -/
def seenSlice (family : ColumnFamily) (now : Int) (item : Bytes × Row) : Option RowSlice :=
  match item.2.seen family now with
  | [] => none
  | entries => some ⟨item.1, entries⟩

theorem seenSlice_eq_some {item : Bytes × Row} {slice : RowSlice} :
    seenSlice family now item = some slice ↔
      item.2.seen family now ≠ [] ∧ slice = ⟨item.1, item.2.seen family now⟩ := by
  rw [seenSlice]
  split
  · rename_i nothing
    rw [nothing]
    exact ⟨nofun, fun ⟨filled, _⟩ => absurd rfl filled⟩
  · rename_i filled
    exact ⟨fun seen => ⟨filled, (Option.some.inj seen).symm⟩, fun ⟨_, same⟩ => congrArg some same.symm⟩

/-- The rows between two bounds in which something can be seen. -/
def scan (store : Store) (family : ColumnFamily) (now : Int) (start stop : Bytes) : List RowSlice :=
  ((store.sortedRows family).filter fun item =>
    inRange (validatorOf family.keyValidationClass) start stop item.1).filterMap
      (seenSlice family now)

/-- The rows that a scan goes through are those on file. -/
theorem mem_sortedRows {row : Row} :
    (key, row) ∈ store.sortedRows family ↔ (store.rowsOf family).get? key = some row :=
  mem_sortOn

theorem getSlice_eq (found : store.family name = .ok family)
    (fit : RowsFit family.isSuper (store.rowsOf family)) (start stop : Bytes) (count : Int) :
    store.getSlice now name start stop count =
      .ok (upTo count (store.scan family now start stop)) := by
  have succeed (slices : List RowSlice) :
      (slices.map Except.ok : List (Except Failure RowSlice)).mapM id = .ok slices := by
    rw [List.mapM_map]
    exact (mapM_eq_ok fun _ _ => rfl).trans (congrArg Except.ok (List.map_id slices))
  refine bind_eq_ok.2 ⟨family, found, ?_⟩
  rw [scan, ← succeed, map_upTo, List.map_filterMap]
  refine congrArg (fun slices => (upTo count slices).mapM id)
    (List.filterMap_congr fun item mem => ?_)
  obtain ⟨key, row⟩ := item
  have held : (store.rowsOf family).get? key = some row :=
    mem_sortedRows.1 (List.mem_of_mem_filter mem)
  dsimp only
  rw [Row.read_eq (fit.get? held), seenSlice]
  cases row.seen family now <;> rfl

theorem mem_scan {start stop : Bytes} {slice : RowSlice} :
    slice ∈ store.scan family now start stop ↔
      inRange (validatorOf family.keyValidationClass) start stop slice.key = true ∧
        slice.entries = (rowAt (store.rowsOf family) slice.key).seen family now ∧
        slice.entries ≠ [] := by
  rw [scan, List.mem_filterMap]
  constructor
  · rintro ⟨⟨key, row⟩, mem, seen⟩
    obtain ⟨filled, rfl⟩ := seenSlice_eq_some.1 seen
    obtain ⟨mem, within⟩ := List.mem_filter.1 mem
    refine ⟨within, ?_, filled⟩
    rw [rowAt, mem_sortedRows.1 mem]
    rfl
  · rintro ⟨within, same, filled⟩
    cases filed : (store.rowsOf family).get? slice.key with
    | none =>
      rw [rowAt, filed] at same
      exact absurd same filled
    | some row =>
      rw [rowAt, filed, Option.getD_some] at same
      refine ⟨(slice.key, row), List.mem_filter.2 ⟨mem_sortedRows.2 filed, within⟩, ?_⟩
      rw [seenSlice_eq_some, ← same]
      exact ⟨filled, rfl⟩

theorem nodup_keys_scan {start stop : Bytes} :
    ((store.scan family now start stop).map RowSlice.key).Nodup := by
  have keyed (item : Bytes × Row) (slice : RowSlice) (seen : seenSlice family now item = some slice) :
      slice.key = item.1 := by
    rw [(seenSlice_eq_some.1 seen).2]
  refine List.Nodup.sublist (map_filterMap_sublist keyed _) ?_
  exact (nodup_sortOn (validatorOf family.keyValidationClass) (store.rowsOf family)).sublist
    (List.filter_sublist.map Prod.fst)

/-- An indexed read lists rows that are on file, each once, with what can be seen of them. -/
theorem getIndexedSlices_ok {expressions : List IndexExpression} {count : Int}
    {slices : List RowSlice} (found : store.family name = .ok family)
    (fit : RowsFit family.isSuper (store.rowsOf family))
    (run : store.getIndexedSlices now name expressions count = .ok slices) :
    ∃ items : List (Bytes × Row), items.Sublist (store.sortedRows family) ∧
      slices = items.map fun item => ⟨item.1, item.2.seen family now⟩ := by
  let matching := (store.sortedRows family).filter fun item =>
    expressions.all (satisfies family now item.2)
  have within : (upTo count matching).Sublist (store.sortedRows family) :=
    (upTo_sublist count matching).trans List.filter_sublist
  have each : ∀ item ∈ upTo count matching,
      (do return ⟨item.1, ← item.2.read family now⟩ : Except Failure RowSlice) =
        .ok ⟨item.1, item.2.seen family now⟩ := by
    intro item mem
    rw [Row.read_eq (fit.get? (mem_sortedRows.1 (within.subset mem)))]
    rfl
  refine ⟨upTo count matching, within, ?_⟩
  rw [getIndexedSlices, found] at run
  -- The two checks either refuse the call or let it go on to the rows.
  cases super : family.isSuper with
  | true =>
    simp only [bind, Except.bind, super, if_true] at run
    cases run
  | false =>
    cases indexed : expressions.any (usesIndex family) with
    | false =>
      simp only [bind, Except.bind, super, indexed, Bool.false_eq_true, if_false] at run
      cases run
    | true =>
      simp only [bind, Except.bind, super, indexed, Bool.false_eq_true, if_false, if_true] at run
      exact Except.ok.inj (run.symm.trans (mapM_eq_ok each))

/-! ### All reads list the same records -/

/-- A column of a row is listed just if its record is on file under its name and live. -/
theorem cell_mem_row {cell : Cell} :
    .cell cell ∈ (rowAt (store.rowsOf family) key).seen family now ↔
      recordIn (store.rowsOf family) key none cell.name = some cell.record ∧
        cell.record.isLive now = true := by
  rw [Row.cell_mem_seen, recordIn, Row.recordAt, Option.bind_eq_some_iff]
  refine and_congr_left fun _ => ⟨fun filed => ⟨_, filed, rfl⟩, ?_⟩
  rintro ⟨slot, filed, same⟩
  cases slot with
  | record record =>
    cases same
    exact filed
  | group records => cases same

/-- A column of a super column is listed just if its record is on file under both names and live. -/
theorem mem_liveCells_groupAt {outer : Bytes} {cell : Cell} :
    cell ∈ liveCells family now (groupAt (store.rowsOf family) key outer) ↔
      recordIn (store.rowsOf family) key (some outer) cell.name = some cell.record ∧
        cell.record.isLive now = true := by
  rw [mem_liveCells, groupAt, recordIn, Row.recordAt]
  cases ((rowAt (store.rowsOf family) key).get? outer).bind Slot.group? <;> rfl

/-- A row lists a super column with all its live columns, if it has any. -/
theorem superColumn_mem_row {outer : Bytes} {cells : List Cell} :
    .superColumn outer cells ∈ (rowAt (store.rowsOf family) key).seen family now ↔
      cells ≠ [] ∧ cells = liveCells family now (groupAt (store.rowsOf family) key outer) := by
  rw [Row.superColumn_mem_seen, groupAt]
  refine and_congr_right fun filled => ⟨?_, fun same => ?_⟩
  · rintro ⟨records, filed, rfl⟩
    rw [filed]
    rfl
  · -- Without a super column on file there would be no columns.
    cases filed : (rowAt (store.rowsOf family) key).get? outer with
    | none =>
      rw [filed] at same
      exact absurd same filled
    | some slot =>
      rw [filed] at same
      cases slot with
      | record record => exact absurd same filled
      | group records => exact ⟨records, rfl, same⟩

/-- A scan without bounds lists of each row what the row lists. -/
theorem mem_slice {entry : Entry} :
    (∃ slice ∈ store.scan family now [] [], slice.key = key ∧ entry ∈ slice.entries) ↔
      entry ∈ (rowAt (store.rowsOf family) key).seen family now := by
  constructor
  · rintro ⟨slice, mem, rfl, listed⟩
    obtain ⟨-, same, -⟩ := mem_scan.1 mem
    exact same ▸ listed
  · intro listed
    have filled : (rowAt (store.rowsOf family) key).seen family now ≠ [] := List.ne_nil_of_mem listed
    exact ⟨⟨key, _⟩, mem_scan.2 ⟨rfl, rfl, filled⟩, rfl, listed⟩

/-- In a standard column family a column is what its row lists under its name, and what a scan lists
under its name in its row. -/
theorem standard_tfae {column : Bytes} {cell : Cell} (found : store.family name = .ok family)
    (fit : RowsFit family.isSuper (store.rowsOf family)) (standard : family.isSuper = false) :
    [store.getColumn now ⟨name, key, none, some column⟩ = .ok (some (.cell cell)),
      cell.name = column ∧ .cell cell ∈ (rowAt (store.rowsOf family) key).seen family now,
      cell.name = column ∧ ∃ slice ∈ store.scan family now [] [],
        slice.key = key ∧ .cell cell ∈ slice.entries].TFAE := by
  have formed : (none : Option Bytes).isSome = family.isSuper := standard.symm
  tfae_have 1 ↔ 2 := by
    rw [getColumn_eq_cell found fit formed, cell_mem_row]
  tfae_have 2 ↔ 3 := by
    rw [mem_slice]
  tfae_finish

theorem super_tfae {outer column : Bytes} {cell : Cell} (found : store.family name = .ok family)
    (fit : RowsFit family.isSuper (store.rowsOf family)) (super : family.isSuper = true) :
    [store.getColumn now ⟨name, key, some outer, some column⟩ = .ok (some (.cell cell)),
      cell.name = column ∧ cell ∈ liveCells family now (groupAt (store.rowsOf family) key outer),
      cell.name = column ∧ ∃ cells,
        store.getColumn now ⟨name, key, some outer, none⟩ = .ok (some (.superColumn outer cells)) ∧
          cell ∈ cells,
      cell.name = column ∧ ∃ cells,
        .superColumn outer cells ∈ (rowAt (store.rowsOf family) key).seen family now ∧ cell ∈ cells,
      cell.name = column ∧ ∃ slice ∈ store.scan family now [] [], slice.key = key ∧
        ∃ cells, .superColumn outer cells ∈ slice.entries ∧ cell ∈ cells].TFAE := by
  have formed : (some outer).isSome = family.isSuper := super.symm
  tfae_have 1 ↔ 2 := by
    rw [getColumn_eq_cell found fit formed, mem_liveCells_groupAt]
  tfae_have 2 ↔ 3 := by
    rw [getColumn_superColumn found fit super]
    refine and_congr_right fun _ => ⟨fun mem => ?_, ?_⟩
    · have filled := List.ne_nil_of_mem mem
      exact ⟨_, congrArg Except.ok (readSuperColumn_eq_some.2 ⟨filled, rfl⟩), mem⟩
    · rintro ⟨cells, read, mem⟩
      obtain ⟨-, same⟩ := readSuperColumn_eq_some.1 (Except.ok.inj read)
      cases same
      exact mem
  tfae_have 2 ↔ 4 := by
    refine and_congr_right fun _ => ⟨fun mem => ?_, ?_⟩
    · exact ⟨_, superColumn_mem_row.2 ⟨List.ne_nil_of_mem mem, rfl⟩, mem⟩
    · rintro ⟨cells, listed, mem⟩
      exact (superColumn_mem_row.1 listed).2 ▸ mem
  tfae_have 4 ↔ 5 := by
    refine and_congr_right fun _ => ⟨?_, ?_⟩
    · rintro ⟨cells, listed, mem⟩
      obtain ⟨slice, sliced, keyed, inside⟩ := mem_slice.2 listed
      exact ⟨slice, sliced, keyed, cells, inside, mem⟩
    · rintro ⟨slice, sliced, keyed, cells, inside, mem⟩
      exact ⟨cells, mem_slice.1 ⟨slice, sliced, keyed, inside⟩, mem⟩
  tfae_finish

/-! ### Nothing is listed twice -/

/-- A super column is accepted only in a super column family. -/
theorem isSuper_of_checkShape {outer : Bytes} {column : Option Bytes}
    (shape : checkShape family ⟨name, key, some outer, column⟩ = .ok ()) :
    family.isSuper = true := by
  cases super : family.isSuper with
  | true => rfl
  | false =>
    rw [checkShape, super] at shape
    cases shape

theorem wellListed_getRow {outer : Option Bytes} {count : Int} {entries : List Entry}
    (found : store.family name = .ok family)
    (fit : RowsFit family.isSuper (store.rowsOf family))
    (run : store.getRow now name key outer count = .ok entries) : WellListed entries := by
  cases outer with
  | none =>
    rw [getRow_row found fit] at run
    cases run
    exact Row.wellListed_seen.sublist (cut_sublist count _)
  | some outer =>
    obtain ⟨same, known, checked⟩ := bind_eq_ok.1 run
    obtain rfl : same = family := Except.ok.inj (known.symm.trans found)
    obtain ⟨_, shape, -⟩ := bind_eq_ok.1 checked
    rw [getRow_superColumn found fit (isSuper_of_checkShape shape)] at run
    cases run
    exact wellListed_cells (nodup_liveCells.sublist ((cut_sublist count _).map Cell.name))

theorem wellListed_getColumn {outer column : Option Bytes} {entry : Entry}
    (found : store.family name = .ok family)
    (fit : RowsFit family.isSuper (store.rowsOf family))
    (run : store.getColumn now ⟨name, key, outer, column⟩ = .ok (some entry)) :
    WellListed [entry] := by
  obtain ⟨same, known, checked⟩ := bind_eq_ok.1 run
  obtain rfl : same = family := Except.ok.inj (known.symm.trans found)
  obtain ⟨_, shape, read⟩ := bind_eq_ok.1 checked
  cases column with
  | none =>
    cases outer with
    | none =>
      -- Without a column there has to be a super column, unless the row is not there.
      cases filed : (store.rowsOf same).get? key <;> rw [filed] at read <;> cases read
    | some outer =>
      rw [getColumn_superColumn found fit (isSuper_of_checkShape shape)] at run
      obtain ⟨filled, rfl⟩ := readSuperColumn_eq_some.1 (Except.ok.inj run)
      refine ⟨fun entry mem => ?_, List.nodup_singleton _, fun name cells mem => ?_⟩
      · rw [List.mem_singleton.1 mem]
        rfl
      · cases List.mem_singleton.1 mem
        exact ⟨filled, nodup_liveCells⟩
  | some column =>
    rw [getColumn_ok found fit (formed_of_checkShape rfl shape), Except.ok.injEq,
      Option.bind_eq_some_iff] at run
    obtain ⟨slot, mapped, seen⟩ := run
    obtain ⟨record, -, rfl⟩ := Option.map_eq_some_iff.1 mapped
    obtain ⟨-, rfl⟩ := readColumn_eq_some.1 seen
    have once : ([(⟨column, record⟩ : Cell)].map Cell.name).Nodup := List.nodup_singleton _
    exact wellListed_cells once

/-- Whether rows that a scan lists are each listed once, and as they are listed one by one. -/
structure WellScanned (store : Store) (now : Int) (name : String) (slices : List RowSlice) :
    Prop where
  distinct : (slices.map RowSlice.key).Nodup
  listed : ∀ slice ∈ slices, WellListed slice.entries
  same : ∀ slice ∈ slices, ListsAll (store.getRow now name slice.key none) slice.entries

/-- Rows that are on file and listed with what can be seen of them, each once, are well scanned. -/
theorem wellScanned_of_seen {slices : List RowSlice} (found : store.family name = .ok family)
    (fit : RowsFit family.isSuper (store.rowsOf family))
    (distinct : (slices.map RowSlice.key).Nodup)
    (seen : ∀ slice ∈ slices,
      slice.entries = (rowAt (store.rowsOf family) slice.key).seen family now) :
    store.WellScanned now name slices where
  distinct := distinct
  listed slice mem := by
    rw [seen slice mem]
    exact Row.wellListed_seen
  same slice mem count within := by
    rw [getRow_row found fit, ← seen slice mem, cut_of_le within]

theorem wellScanned_getSlice {start stop : Bytes} {count : Int} {slices : List RowSlice}
    (found : store.family name = .ok family)
    (fit : RowsFit family.isSuper (store.rowsOf family))
    (run : store.getSlice now name start stop count = .ok slices) :
    store.WellScanned now name slices ∧ ∀ slice ∈ slices, slice.entries ≠ [] := by
  rw [getSlice_eq found fit] at run
  cases run
  have sublist := upTo_sublist count (store.scan family now start stop)
  refine ⟨?_, fun slice mem => (mem_scan.1 (sublist.subset mem)).2.2⟩
  exact wellScanned_of_seen found fit (nodup_keys_scan.sublist (sublist.map _))
    fun slice mem => (mem_scan.1 (sublist.subset mem)).2.1

theorem wellScanned_getIndexedSlices {expressions : List IndexExpression} {count : Int}
    {slices : List RowSlice} (found : store.family name = .ok family)
    (fit : RowsFit family.isSuper (store.rowsOf family))
    (run : store.getIndexedSlices now name expressions count = .ok slices) :
    store.WellScanned now name slices := by
  obtain ⟨items, within, rfl⟩ := getIndexedSlices_ok found fit run
  refine wellScanned_of_seen found fit ?_ fun slice mem => ?_
  · rw [List.map_map]
    exact (nodup_sortOn (validatorOf family.keyValidationClass) (store.rowsOf family)).sublist
      (within.map Prod.fst)
  · obtain ⟨⟨key, row⟩, inside, rfl⟩ := List.mem_map.1 mem
    rw [rowAt, mem_sortedRows.1 (within.subset inside)]
    rfl

end Reads

end Store

end WideColumn
