import WideColumn.Proofs.Codec.Ties
import WideColumn.Proofs.Store.Reading

/-!
# Scans between two keys

A scan is a loop over the rows in the order of their keys (`Store.visit`). It passes over rows
before the first key and over rows in which nothing is seen, and it stops after the last key or with
the last row that is asked for. As the rows are sorted, nothing that comes after the stop was to be
listed, so the loop gives the first of all rows between the keys that are not empty
(`Store.visit_eq`), each of them with what can be seen of it (`Row.shownAs_seen`).
-/

open WideColumn.Order (StablySorted)

namespace WideColumn

section Shown

variable {family : ColumnFamily} {now : Int} {row : Row} {records : Table Bytes Record}

/-! ### What can be seen -/

/-- Whether something of a slot can be seen. -/
def Slot.hasLive (now : Int) : Slot → Bool
  | record found => found.isLive now
  | group records => records.entries.any fun (_, found) => found.isLive now

/-- Whether a row has a column that can be seen, itself or in one of its super columns. -/
def Row.hasLive (now : Int) (row : Row) : Bool :=
  row.entries.any fun (_, slot) => slot.hasLive now

/-- The columns of a super column that can be seen, in the order in which they came. -/
def liveIn (now : Int) (records : Table Bytes Record) : List Cell :=
  (records.entries.map fun (name, record) => ⟨name, record⟩).filter fun (cell : Cell) =>
    cell.record.isLive now

theorem liveIn_sorted :
    StablySorted (Store.validatorOf family.subcomparatorType).precedes Cell.name
      (liveIn now records) (liveCells family now records) := by
  have picked (list : List (Bytes × Record)) :
      (list.map fun (name, record) => (⟨name, record⟩ : Cell)).filter (fun cell =>
        cell.record.isLive now) = list.filterMap fun item =>
          Option.guard (fun cell : Cell => cell.record.isLive now) ⟨item.1, item.2⟩ := by
    rw [← List.filterMap_eq_filter, List.filterMap_map]
    rfl
  have sorts := Order.stablySorted_sort
    (Validator.ranks_precedes (Store.validatorOf family.subcomparatorType)) Prod.fst records.entries
  unfold liveIn liveCells
  rw [picked, picked]
  refine sorts.filterMap fun item cell seen => ?_
  obtain ⟨rfl, -⟩ := Option.guard_eq_some_iff.1 seen
  rfl

theorem liveCells_eq_nil : liveCells family now records = [] ↔
    (Slot.group records).hasLive now = false := by
  rw [List.eq_nil_iff_forall_not_mem, Slot.hasLive, List.any_eq_false]
  constructor
  · rintro none ⟨name, record⟩ mem live
    exact none ⟨name, record⟩ (mem_liveCells.2 ⟨Table.get?_eq_some.2 mem, live⟩)
  · intro dead cell mem
    obtain ⟨found, live⟩ := mem_liveCells.1 mem
    exact dead _ (Table.get?_eq_some.1 found) live

theorem Slot.seen_eq_none {name : Bytes} {slot : Slot} :
    slot.seen family now name = none ↔ slot.hasLive now = false := by
  cases slot with
  | record found =>
    show (if found.isLive now then _ else none) = none ↔ found.isLive now = false
    cases found.isLive now <;> simp
  | group records =>
    rw [← liveCells_eq_nil, Slot.seen, readSuperColumn]
    cases liveCells family now records <;> simp

theorem Row.seen_eq_nil : row.seen family now = [] ↔ row.hasLive now = false := by
  rw [Row.seen, List.filterMap_eq_nil_iff, Row.hasLive, List.any_eq_false]
  simp only [Slot.seen_eq_none, (sortOn_perm _ Prod.fst row.entries).mem_iff, Bool.not_eq_true]

/-- Whether entries are what can be seen of a row: its live columns, and its super columns that have
live ones, with these in the order of the subcomparator, all in the order of the comparator. -/
structure Row.ShownAs (family : ColumnFamily) (now : Int) (row : Row) (entries : List Entry) :
    Prop where
  placed : .misplaced ∉ entries
  cells : ∀ cell, .cell cell ∈ entries ↔
    row.get? cell.name = some (.record cell.record) ∧ cell.record.isLive now = true
  superColumns : ∀ name cells, .superColumn name cells ∈ entries ↔
    cells ≠ [] ∧ ∃ records, row.get? name = some (.group records) ∧
      StablySorted (Store.validatorOf family.subcomparatorType).precedes Cell.name
        (liveIn now records) cells
  ordered : StablySorted (Store.validatorOf family.comparatorType).precedes id
    (row.keys.filter fun name => some name ∈ entries.map Entry.name?)
    (entries.filterMap Entry.name?)

/-- The names that are listed of a row are those of slots in which something is seen. -/
theorem Row.names_seen :
    row.keys.filter (fun name => some name ∈ (row.seen family now).map Entry.name?) =
      row.entries.filterMap fun (name, slot) => (slot.seen family now name).bind Entry.name? := by
  rw [Table.keys, ← List.filterMap_eq_filter, List.filterMap_map]
  refine List.filterMap_congr fun item mem => ?_
  obtain ⟨name, slot⟩ := item
  have filed : row.get? name = some slot := Table.get?_eq_some.2 mem
  have listed : some name ∈ (row.seen family now).map Entry.name? ↔
      (slot.seen family now name).isSome := by
    rw [List.mem_map]
    constructor
    · rintro ⟨entry, mem, named⟩
      obtain ⟨other, found, get, seen⟩ := Row.mem_seen.1 mem
      obtain rfl : other = name := Option.some.inj ((Slot.name?_of_seen seen).symm.trans named)
      obtain rfl : found = slot := Option.some.inj (get.symm.trans filed)
      rw [seen]
      rfl
    · intro visible
      obtain ⟨entry, seen⟩ := Option.isSome_iff_exists.1 visible
      exact ⟨entry, Row.mem_seen.2 ⟨name, slot, filed, seen⟩, Slot.name?_of_seen seen⟩
  show Option.guard _ name = (slot.seen family now name).bind Entry.name?
  cases seen : slot.seen family now name with
  | none =>
    rw [seen] at listed
    exact Option.guard_eq_none_iff.2 (by simpa using listed)
  | some entry =>
    rw [seen] at listed
    rw [Option.bind_some, Slot.name?_of_seen seen]
    exact Option.guard_eq_some_iff.2 ⟨rfl, by simpa using listed⟩

theorem Row.shownAs_seen : row.ShownAs family now (row.seen family now) where
  placed mem := by
    have named := Row.wellListed_seen.placed _ mem
    cases named
  cells _ := Row.cell_mem_seen
  superColumns name cells := by
    rw [Row.superColumn_mem_seen]
    refine and_congr_right fun _ => exists_congr fun records => and_congr_right fun _ => ?_
    constructor
    · rintro rfl
      exact liveIn_sorted
    · exact fun sorts => sorts.eq (Validator.ranks_precedes _) liveIn_sorted
  ordered := by
    rw [Row.names_seen, Row.seen, List.filterMap_filterMap]
    have sorts := Order.stablySorted_sort
      (Validator.ranks_precedes (Store.validatorOf family.comparatorType)) Prod.fst row.entries
    refine sorts.filterMap fun item found seen => ?_
    obtain ⟨name, slot⟩ := item
    obtain ⟨entry, visible, named⟩ := Option.bind_eq_some_iff.1 seen
    exact Option.some.inj (named.symm.trans (Slot.name?_of_seen visible))

end Shown

namespace Store

/-! ### The loop -/

/-- Whether reading a row gives something, be it a failure. -/
def readsAny (family : ColumnFamily) (now : Int) (row : Row) : Bool :=
  match row.read family now with
  | .ok [] => false
  | _ => true

/-- A row as a scan reads it. -/
def readSlice (family : ColumnFamily) (now : Int) (item : Bytes × Row) : Except Failure RowSlice :=
  RowSlice.mk item.1 <$> item.2.read family now

/-- Go through rows, and add those that are to be listed to the ones that were found: pass over a
row before the first key and over an empty one, and stop after the last key and with as many rows as
are asked for. -/
def visit (family : ColumnFamily) (now : Int) (start stop : Bytes) (count : Int) :
    List (Bytes × Row) → List RowSlice → Except Failure (List RowSlice)
  | [], found => .ok found
  | (key, row) :: rest, found =>
    let place := (validatorOf family.keyValidationClass).sortKey
    if !start.isEmpty && (place key).lt (place start) then
      visit family now start stop count rest found
    else if !stop.isEmpty && (place stop).lt (place key) then .ok found
    else
      match row.read family now with
      | .error failure => .error failure
      | .ok [] => visit family now start stop count rest found
      | .ok entries =>
        let found := found ++ [⟨key, entries⟩]
        if count ≤ found.length then .ok found
        else visit family now start stop count rest found

section Loop

variable {store : Store} {name : String} {family : ColumnFamily} {now : Int}
  {start stop : Bytes} {count : Int}

/-- The rows of a list that a scan is to list. -/
def listable (family : ColumnFamily) (now : Int) (start stop : Bytes)
    (rows : List (Bytes × Row)) : List (Bytes × Row) :=
  rows.filter fun item =>
    inRange (validatorOf family.keyValidationClass) start stop item.1 && readsAny family now item.2

/-- The first rows of a list, as a scan reads them. -/
def readFirst (family : ColumnFamily) (now : Int) (limit : Nat) (rows : List (Bytes × Row)) :
    Except Failure (List RowSlice) :=
  (rows.take limit).mapM (readSlice family now)

theorem readFirst_nil (limit : Nat) : readFirst family now limit [] = .ok [] := by
  rw [readFirst, List.take_nil]
  rfl

theorem readFirst_of_ok {key : Bytes} {row : Row} {entries : List Entry}
    (read : row.read family now = .ok entries) (limit : Nat) (rest : List (Bytes × Row)) :
    readFirst family now (limit + 1) ((key, row) :: rest) =
      (⟨key, entries⟩ :: ·) <$> readFirst family now limit rest := by
  have slice : readSlice family now (key, row) = .ok ⟨key, entries⟩ := by
    rw [readSlice, read]
    rfl
  rw [readFirst, List.take_succ_cons, List.mapM_cons, slice, readFirst]
  cases (rest.take limit).mapM (readSlice family now) <;> rfl

theorem readFirst_of_error {key : Bytes} {row : Row} {failure : Failure}
    (read : row.read family now = .error failure) (limit : Nat) (rest : List (Bytes × Row)) :
    readFirst family now (limit + 1) ((key, row) :: rest) = .error failure := by
  have slice : readSlice family now (key, row) = .error failure := by
    rw [readSlice, read]
    rfl
  rw [readFirst, List.take_succ_cons, List.mapM_cons, slice]
  rfl

/-- Whether a scan passes over a key, which comes before its first one. -/
def isBefore (validator : Validator) (start key : Bytes) : Bool :=
  !start.isEmpty && (validator.sortKey key).lt (validator.sortKey start)

/-- Whether a scan stops at a key, which comes after its last one. -/
def isPast (validator : Validator) (stop key : Bytes) : Bool :=
  !stop.isEmpty && (validator.sortKey stop).lt (validator.sortKey key)

/-- A key lies between two bounds if it is neither passed over nor past the end. -/
theorem inRange_eq (validator : Validator) (start stop key : Bytes) :
    inRange validator start stop key =
      (!isBefore validator start key && !isPast validator stop key) := by
  simp only [inRange, isBefore, isPast, Validator.precedes, SortKey.le, Bool.not_and, Bool.not_not]

/-- From a key past the end on there are no keys between the bounds. -/
theorem inRange_of_past {validator : Validator} {key later : Bytes}
    (past : isPast validator stop key = true) (below : validator.precedes key later = true) :
    inRange validator start stop later = false := by
  obtain ⟨bounded, above⟩ := Bool.and_eq_true_iff.1 past
  have further : ¬validator.precedes later stop = true := fun back => by
    have reached := validator.ranks_precedes.trans _ _ _ below back
    rw [Validator.precedes, SortKey.le, above] at reached
    cases reached
  rw [Bool.not_eq_true'] at bounded
  rw [inRange, bounded, Bool.eq_false_iff.2 further]
  exact Bool.and_false _

theorem listable_cons {item : Bytes × Row} {rest : List (Bytes × Row)} :
    listable family now start stop (item :: rest) =
      if inRange (validatorOf family.keyValidationClass) start stop item.1 &&
          readsAny family now item.2 then item :: listable family now start stop rest
      else listable family now start stop rest :=
  List.filter_cons

/-- From a row past the end on there is nothing to list. -/
theorem listable_of_past {item : Bytes × Row} {rest : List (Bytes × Row)}
    (past : isPast (validatorOf family.keyValidationClass) stop item.1 = true)
    (below : ∀ later ∈ rest,
      (validatorOf family.keyValidationClass).precedes item.1 later.1 = true) :
    listable family now start stop (item :: rest) = [] := by
  have self := (validatorOf family.keyValidationClass).ranks_precedes.total item.1 item.1
  refine List.filter_eq_nil_iff.2 fun other mem => ?_
  have outside :
      inRange (validatorOf family.keyValidationClass) start stop other.1 = false := by
    rcases List.mem_cons.1 mem with rfl | later
    · exact inRange_of_past past (self.elim id id)
    · exact inRange_of_past past (below other later)
  rw [outside]
  exact Bool.false_ne_true

/-- Of rows in the order of their keys, the loop lists the first ones that are to be listed. -/
theorem visit_eq {rows : List (Bytes × Row)} {found : List RowSlice}
    (ordered : rows.Pairwise fun first second =>
      (validatorOf family.keyValidationClass).precedes first.1 second.1 = true)
    (more : found.length < max 1 count.toNat) :
    visit family now start stop count rows found =
      (found ++ ·) <$> readFirst family now (max 1 count.toNat - found.length)
        (listable family now start stop rows) := by
  induction rows generalizing found with
  | nil =>
    rw [visit, listable, List.filter_nil, readFirst_nil]
    exact congrArg Except.ok (List.append_nil found).symm
  | cons item rest ih =>
    obtain ⟨key, row⟩ := item
    obtain ⟨below, others⟩ := List.pairwise_cons.1 ordered
    have range := inRange_eq (validatorOf family.keyValidationClass) start stop key
    have left : max 1 count.toNat - found.length =
        (max 1 count.toNat - (found.length + 1)) + 1 := by omega
    change (if isBefore (validatorOf family.keyValidationClass) start key then _
      else if isPast (validatorOf family.keyValidationClass) stop key then _ else _) = _
    cases before : isBefore (validatorOf family.keyValidationClass) start key with
    | true =>
      rw [before] at range
      rw [if_pos rfl, ih others more, listable_cons, range]
      rfl
    | false =>
      cases past : isPast (validatorOf family.keyValidationClass) stop key with
      | true =>
        rw [listable_of_past past below, readFirst_nil]
        exact congrArg Except.ok (List.append_nil found).symm
      | false =>
        rw [before, past] at range
        rw [if_neg Bool.false_ne_true, if_neg Bool.false_ne_true, listable_cons, range]
        -- What is read of the row decides whether it counts.
        split
        · rename_i failure read
          have any : readsAny family now row = true := by rw [readsAny, read]
          rw [any, left]
          exact congrArg ((found ++ ·) <$> ·) (readFirst_of_error read _ _).symm
        · rename_i read
          have empty : readsAny family now row = false := by rw [readsAny, read]
          rw [empty, ih others more]
          rfl
        · rename_i entries filled read
          have any : readsAny family now row = true := by
            cases entries with
            | nil => exact absurd rfl filled
            | cons first others => rw [readsAny, read]
          have counted : (found ++ [(⟨key, entries⟩ : RowSlice)]).length = found.length + 1 :=
            List.length_append
          rw [any, left]
          show _ = (found ++ ·) <$> readFirst family now _ ((key, row) :: _)
          rw [readFirst_of_ok read]
          dsimp only
          rw [counted]
          split
          · rename_i enough
            have last : max 1 count.toNat - (found.length + 1) = 0 := by omega
            rw [last]
            rfl
          · rename_i short
            rw [ih others (by omega), counted]
            cases readFirst family now _ _ with
            | error failure => rfl
            | ok slices => exact congrArg Except.ok (List.append_assoc _ _ _)

/-- A scan reads the first rows that it is to list. -/
theorem getSlice_eq_readFirst (found : store.family name = .ok family) :
    store.getSlice now name start stop count = readFirst family now (max 1 count.toNat)
      (listable family now start stop (store.sortedRows family)) := by
  have picked (rows : List (Bytes × Row)) :
      (rows.filter fun item => readsAny family now item.2).map (readSlice family now) =
        rows.filterMap fun item =>
          if readsAny family now item.2 then some (readSlice family now item) else none := by
    rw [← List.filterMap_eq_map, List.filterMap_filter]
    rfl
  have split : listable family now start stop (store.sortedRows family) =
      ((store.sortedRows family).filter fun item =>
        inRange (validatorOf family.keyValidationClass) start stop item.1).filter
          fun item => readsAny family now item.2 := by
    rw [listable, List.filter_filter]
    exact List.filter_congr fun _ _ => Bool.and_comm _ _
  have read (items : List (Bytes × Row)) :
      readFirst family now (max 1 count.toNat) items =
        (upTo count (items.map (readSlice family now))).mapM id := by
    rw [readFirst, ← map_upTo, List.mapM_map]
    rfl
  rw [read, split, picked, getSlice, found]
  refine congrArg (fun slices => (upTo count slices).mapM id)
    (List.filterMap_congr fun item _ => ?_)
  obtain ⟨key, row⟩ := item
  dsimp only
  rw [readsAny, readSlice]
  rcases row.read family now with failure | (_ | ⟨first, others⟩) <;> rfl

/-- The loop is the scan. -/
theorem visit_sortedRows (found : store.family name = .ok family) :
    visit family now start stop count (store.sortedRows family) [] =
      store.getSlice now name start stop count := by
  have ranks := (validatorOf family.keyValidationClass).ranks_precedes
  have more : ([] : List RowSlice).length < max 1 count.toNat :=
    Nat.lt_of_lt_of_le Nat.zero_lt_one (Nat.le_max_left 1 _)
  have loop : visit family now start stop count (store.sortedRows family) [] =
      id <$> readFirst family now (max 1 count.toNat)
        (listable family now start stop (store.sortedRows family)) :=
    visit_eq (Order.sorted_sort (ranks.on Prod.fst) (store.rowsOf family).entries) more
  rw [loop, id_map, getSlice_eq_readFirst found]

theorem readsAny_of_fits {row : Row} (fits : row.Fits family.isSuper) :
    readsAny family now row = row.hasLive now := by
  rw [readsAny, Row.read_eq fits]
  cases live : row.hasLive now with
  | false => rw [Row.seen_eq_nil.2 live]
  | true =>
    cases seen : row.seen family now with
    | nil => exact absurd ((Row.seen_eq_nil.1 seen).symm.trans live) Bool.false_ne_true
    | cons first others => rfl

end Loop

/-! ### What a scan lists -/

/-- A scan gives the first rows of a certain list, as many as are asked for: the rows of the column
family, sorted stably by their keys, as far as their keys lie between the bounds and something is
read of them. To go through the sorted rows and to stop at the end of the bounds gives the same. A
row that fits the column family is read as what can be seen of it, in the order of the comparator,
and nothing is read of it just if it has no live column. -/
theorem getSlice_lists {store : Store} {name : String} {family : ColumnFamily} {count : Int}
    (found : store.family name = .ok family) (asked : 1 ≤ count) (now : Int) (start stop : Bytes) :
    ∃ sorted, StablySorted (validatorOf family.keyValidationClass).precedes Prod.fst
        (store.rowsOf family).entries sorted ∧
      store.getSlice now name start stop count = visit family now start stop count sorted [] ∧
      store.getSlice now name start stop count =
        ((sorted.filter fun item =>
          inRange (validatorOf family.keyValidationClass) start stop item.1 &&
            readsAny family now item.2).take count.toNat).mapM (readSlice family now) ∧
      (RowsFit family.isSuper (store.rowsOf family) → ∃ slices,
        store.getSlice now name start stop count = .ok slices ∧
        List.Forall₂
          (fun item slice => slice.key = item.1 ∧ item.2.ShownAs family now slice.entries)
          ((sorted.filter fun item =>
            inRange (validatorOf family.keyValidationClass) start stop item.1 &&
              item.2.hasLive now).take count.toNat) slices) := by
  have limit : max 1 count.toNat = count.toNat := by omega
  have read : store.getSlice now name start stop count = readFirst family now count.toNat
      (listable family now start stop (store.sortedRows family)) := by
    rw [getSlice_eq_readFirst found, limit]
  refine ⟨store.sortedRows family, ?_, (visit_sortedRows found).symm, read, fun fit => ?_⟩
  · exact Order.stablySorted_sort (Validator.ranks_precedes _) Prod.fst _
  have fits {item : Bytes × Row} (mem : item ∈ store.sortedRows family) :
      item.2.Fits family.isSuper := fit.get? (mem_sortedRows.1 mem)
  have same : listable family now start stop (store.sortedRows family) =
      (store.sortedRows family).filter fun item =>
        inRange (validatorOf family.keyValidationClass) start stop item.1 && item.2.hasLive now :=
    List.filter_congr fun item mem => by rw [readsAny_of_fits (fits mem)]
  rw [same] at read
  have each {item : Bytes × Row} (mem : item ∈ store.sortedRows family) :
      readSlice family now item = .ok ⟨item.1, item.2.seen family now⟩ := by
    rw [readSlice, Row.read_eq (fits mem)]
    rfl
  refine ⟨_, read.trans (mapM_eq_ok fun item mem =>
    each (List.mem_of_mem_filter (List.mem_of_mem_take mem))), ?_⟩
  rw [List.forall₂_map_right_iff, List.forall₂_same]
  exact fun item _ => ⟨rfl, Row.shownAs_seen⟩

/-- Rows that hold nothing of the other layout fit. -/
theorem rowsFit_of_entries {isSuper : Bool} {rows : Table Bytes Row}
    (same : ∀ item ∈ rows.entries, ∀ slot ∈ item.2.entries, slot.2.isGroup = isSuper) :
    RowsFit isSuper rows := by
  intro key name slot found
  rw [rowAt] at found
  cases filed : rows.get? key with
  | none =>
    rw [filed] at found
    cases found
  | some row =>
    rw [filed] at found
    exact same (key, row) (Table.get?_eq_some.1 filed) (name, slot) (Table.get?_eq_some.1 found)

/-- Three rows up to the integer three are asked for. The row of the integer one is no longer live,
so it does not count; the integer three has two keys, and both are listed, in the order in which
they came. -/
theorem getSlice_lists_integers :
    let family : ColumnFamily :=
      { keyspace := "k", name := "f", keyValidationClass := some "IntegerType" }
    let store : Store :=
      { connection := .opened (some "k"), keyspaces := [{ name := "k", families := [family] }] }
    let column (key : Bytes) (ttl : Option Int) : Write :=
      .insert 0 ⟨"f", key, none, some [0]⟩ [9] ttl
    let after := (runAll Write.perform
      [column [4] none, column [3] none, column [0, 3] none, column [1] (some 1), column [2] none]
      store).2
    after.family "f" = .ok family ∧ RowsFit family.isSuper (after.rowsOf family) ∧
      ∃ sorted slices, StablySorted Validator.integer.precedes Prod.fst
          (after.rowsOf family).entries sorted ∧
        visit family 5000000 [1] [3] 3 sorted [] = .ok slices ∧
        slices.map RowSlice.key = [[2], [3], [0, 3]] := by
  intro family store column after
  have known : after.family "f" = .ok family := by decide +kernel
  have fit : RowsFit family.isSuper (after.rowsOf family) := rowsFit_of_entries (by decide +kernel)
  have keys : (after.getSlice 5000000 "f" [1] [3] 3).toOption.map (·.map RowSlice.key) =
      some [[2], [3], [0, 3]] := by
    decide +kernel
  obtain ⟨sorted, sorts, loop, -, rest⟩ :=
    getSlice_lists known (by decide : (1 : Int) ≤ 3) 5000000 [1] [3]
  obtain ⟨slices, listed, -⟩ := rest fit
  rw [listed] at keys
  exact ⟨known, fit, sorted, slices, sorts, loop.symm.trans listed, Option.some.inj keys⟩

end Store

end WideColumn
