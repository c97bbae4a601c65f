import WideColumn.Proofs.Store.Limits

/-!
# How many entries a read has

What is on file of a row is counted without reading it: the columns that are live, or in a row of
super columns those in which some column is (`Store.liveAt`). A read of the row or of one of its super
columns has as many entries, up to its limit, and besides one for every super column that strayed
into a row of columns (`Store.straysAt`). There is none of these if the rows fit their column family.
-/

namespace WideColumn

variable {family : ColumnFamily} {isSuper : Bool} {now : Int} {row : Row}

/-! ### What is counted -/

/-- How many columns of a super column are live. -/
def liveRecords (now : Int) (records : Table Bytes Record) : Nat :=
  records.entries.countP fun item => item.2.isLive now

/-- Whether a slot is a live column in a row of columns, or a super column with a live column in a
row of super columns. -/
def Slot.isLive (isSuper : Bool) (now : Int) : Slot → Bool
  | .record found => !isSuper && found.isLive now
  | .group records => isSuper && records.entries.any fun item => item.2.isLive now

/-- Whether a slot is a super column in a row of columns. -/
def Slot.isStray (isSuper : Bool) (slot : Slot) : Bool :=
  !isSuper && slot.isGroup

/-- How many columns of a row are live, or how many super columns with a live column it has. -/
def Row.liveSlots (isSuper : Bool) (now : Int) (row : Row) : Nat :=
  row.entries.countP fun item => item.2.isLive isSuper now

/-- How many super columns there are in a row of columns. -/
def Row.straySlots (isSuper : Bool) (row : Row) : Nat :=
  row.entries.countP fun item => item.2.isStray isSuper

/-- Nothing strays in a row of one layout. -/
theorem Row.straySlots_of_fits (fits : row.Fits isSuper) : row.straySlots isSuper = 0 := by
  refine List.countP_eq_zero.2 fun item mem => ?_
  have layout : item.2.isGroup = isSuper := fits item.1 item.2 (Table.get?_eq_some.2 mem)
  simp [Slot.isStray, layout]

/-! ### What is read -/

theorem length_liveCells (records : Table Bytes Record) :
    (liveCells family now records).length = liveRecords now records := by
  have sorted := sortOn_perm (Store.validatorOf family.subcomparatorType) Prod.fst records.entries
  rw [liveCells, ← List.countP_eq_length_filter, List.countP_map, liveRecords]
  exact sorted.countP_eq _

/-- A super column is read if one of its columns is live. -/
theorem isSome_readSuperColumn (name : Bytes) (records : Table Bytes Record) :
    (readSuperColumn family now name records).isSome =
      records.entries.any fun item => item.2.isLive now := by
  have some_live : 0 < liveRecords now records ↔
      (records.entries.any fun item => item.2.isLive now) = true := by
    rw [liveRecords, List.countP_pos_iff, List.any_eq_true]
  rw [← @length_liveCells family] at some_live
  rw [Bool.eq_iff_iff, ← some_live, readSuperColumn]
  split
  · rename_i nothing
    simp [nothing]
  · rename_i filled
    simpa [List.length_pos_iff] using filled

/-- The super columns that are read of some slots. -/
theorem length_superColumns {slots : List (Bytes × Slot)}
    {groups : List (Bytes × Table Bytes Record)}
    (read : (slots.mapM fun (name, slot) => return (name, ← slot.superColumn .readAll)) =
      (.ok groups : Except Failure _)) :
    (groups.filterMap fun (name, records) => readSuperColumn family now name records).length =
      slots.countP fun item => item.2.isLive true now := by
  have each := forall₂_of_mapM_eq_ok read
  clear read
  rw [List.length_filterMap_eq_countP]
  induction each with
  | nil => rfl
  | @cons first group rest others grouped _ ih =>
    obtain ⟨name, slot⟩ := first
    cases slot with
    | record record => cases grouped
    | group records =>
      cases grouped
      rw [List.countP_cons, List.countP_cons, ih, isSome_readSuperColumn, Slot.isLive,
        Bool.true_and]

/-- A column that is read is live or misplaced. -/
theorem isSome_readColumn (name : Bytes) (slot : Slot) :
    (if (readColumn now name slot).isSome then 1 else 0) =
      (if slot.isLive false now then 1 else 0) + if slot.isStray false then 1 else 0 := by
  cases slot with
  | record record =>
    cases live : record.isLive now <;>
      simp [readColumn, Slot.isLive, Slot.isStray, Slot.isGroup, live]
  | group records => rfl

/-- The columns that are read of some slots, with those that are misplaced. -/
theorem length_columns (slots : List (Bytes × Slot)) :
    (slots.filterMap fun (name, slot) => readColumn now name slot).length =
      (slots.countP fun item => item.2.isLive false now) +
        slots.countP fun item => item.2.isStray false := by
  rw [List.length_filterMap_eq_countP]
  induction slots with
  | nil => rfl
  | cons first rest ih =>
    rw [List.countP_cons, List.countP_cons, List.countP_cons, ih, isSome_readColumn]
    omega

/-- A row that is read has an entry for each live slot and for each stray one. -/
theorem Row.length_read {entries : List Entry} (read : row.read family now = .ok entries) :
    entries.length = row.liveSlots family.isSuper now + row.straySlots family.isSuper := by
  have sorted := sortOn_perm (Store.validatorOf family.comparatorType) Prod.fst row.entries
  rw [Row.liveSlots, Row.straySlots, ← sorted.countP_eq, ← sorted.countP_eq]
  unfold Row.read at read
  cases super : family.isSuper with
  | true =>
    rw [super] at read
    obtain ⟨groups, grouped, same⟩ := bind_eq_ok.1 read
    cases same
    have none_stray : ((Store.validatorOf family.comparatorType).sortOn Prod.fst row.entries).countP
        (fun item => item.2.isStray true) = 0 :=
      List.countP_eq_zero.2 fun item _ => by simp [Slot.isStray]
    rw [length_superColumns grouped, none_stray, Nat.add_zero]
  | false =>
    rw [super] at read
    cases read
    exact length_columns _

namespace Store

variable {store : Store} {name : String} {key : Bytes} {outer : Option Bytes}

/-- How many columns are live in a row or in a super column of it; in a row of super columns, how many
of these have a live column. -/
def liveAt (store : Store) (family : ColumnFamily) (now : Int) (key : Bytes)
    (outer : Option Bytes) : Nat :=
  match outer with
  | none => (rowAt (store.rowsOf family) key).liveSlots family.isSuper now
  | some outer => liveRecords now (groupAt (store.rowsOf family) key outer)

/-- How many super columns there are in a row of columns. -/
def straysAt (store : Store) (family : ColumnFamily) (key : Bytes) (outer : Option Bytes) : Nat :=
  match outer with
  | none => (rowAt (store.rowsOf family) key).straySlots family.isSuper
  | some _ => 0

/-- Nothing strays among rows that fit their column family. -/
theorem straysAt_of_rowsFit (fit : RowsFit family.isSuper (store.rowsOf family)) (key : Bytes)
    (outer : Option Bytes) : store.straysAt family key outer = 0 := by
  cases outer with
  | none => exact Row.straySlots_of_fits (fit key)
  | some outer => rfl

/-- A read of a row or of a super column has an entry for all that is live or stray in it, up to its
limit. -/
theorem length_getRow (count : Nat) {entries : List Entry}
    (answered : store.getRow now name key outer count = .ok entries) :
    ∃ family, store.family name = .ok family ∧
      entries.length = min (store.liveAt family now key outer + store.straysAt family key outer)
        count := by
  obtain ⟨family, found, answered⟩ := bind_eq_ok.1 answered
  obtain ⟨_, -, answered⟩ := bind_eq_ok.1 answered
  refine ⟨family, found, ?_⟩
  cases filed : (store.rowsOf family).get? key with
  | none =>
    rw [filed] at answered
    cases answered
    have empty : rowAt (store.rowsOf family) key = .empty := by rw [rowAt, filed]; rfl
    cases outer with
    | none =>
      rw [liveAt, straysAt, empty]
      exact (Nat.zero_min count).symm
    | some outer =>
      rw [liveAt, straysAt, groupAt, empty]
      exact (Nat.zero_min count).symm
  | some row =>
    rw [filed] at answered
    have here : rowAt (store.rowsOf family) key = row := by rw [rowAt, filed]; rfl
    cases outer with
    | none =>
      obtain ⟨all, read, same⟩ := bind_eq_ok.1 answered
      cases same
      rw [cut_natCast, List.length_take, Row.length_read read, liveAt, straysAt, here, Nat.min_comm]
    | some outer =>
      obtain ⟨group, grouped, answered⟩ := bind_eq_ok.1 answered
      rw [liveAt, straysAt, groupAt, here, Nat.add_zero]
      cases named : row.get? outer with
      | none =>
        rw [Row.group?, named] at grouped
        cases grouped
        cases answered
        exact (Nat.zero_min count).symm
      | some slot =>
        rw [Row.group?, named] at grouped
        cases slot with
        | record record => cases grouped
        | group records =>
          cases grouped
          cases answered
          rw [List.length_map, cut_natCast, List.length_take, length_liveCells, Nat.min_comm]
          rfl

end Store

end WideColumn
