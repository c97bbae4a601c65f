import WideColumn.Proofs.Guarding
import WideColumn.Proofs.Store.Counters
import WideColumn.Proofs.Store.Reading

/-!
# Records that can be shown

What is on file is shown by the validators that a resolver chooses, whichever they were that made
it. If these read the names and the values of all records of a column family (`Store.Legible`), then
whatever a read lists of it can be shown. What carries the proofs is that a read lists nothing
without a record in it: a super column is listed with a live column, and a row of a scan with an
entry, so the names of both are in the place of a record.
-/

namespace WideColumn

/-- Whether a failure is anything but that of a literal or of stored bytes. -/
def Failure.NotLiteral : Failure → Prop
  | literal _ => False
  | _ => True

open Failure (NotLiteral)

namespace Resolver

variable {resolver : Resolver} {place : Store.Place} {cell : Cell}

/-- Whether the names of a place can be shown, and the value there. A counter holds no bytes. -/
structure Shows (resolver : Resolver) (place : Store.Place) (record : Record) : Prop where
  key : ∃ shown, resolver.showKey place.key = .ok shown
  superColumn : ∀ outer, place.superColumn = some outer →
    ∃ shown, resolver.showSuperColumn outer = .ok shown
  column : ∃ shown, resolver.showColumn place.column = .ok shown
  value : ∀ data timestamp ttl, record = .value data timestamp ttl →
    ∃ shown, resolver.showValue data place.column none = .ok shown

theorem Shows.failsOnly_showCell (shows : resolver.Shows place cell.record)
    (named : place.column = cell.name) :
    FailsOnly NotLiteral (Action.showCell resolver none cell) := by
  refine failsOnly_showCell_of resolver trivial ?_ fun data timestamp ttl held => ?_
  · exact failsOnly_of_exists (named ▸ shows.column)
  · exact failsOnly_of_exists (named ▸ shows.value data timestamp ttl held)

end Resolver

namespace Store

/-- Whether all records on file of a column family can be shown. -/
def Legible (store : Store) (resolver : Resolver) : Prop :=
  ∀ place record, place.family = resolver.family.name →
    store.records resolver.family.keyspace place = some record → resolver.Shows place record

namespace Legible

variable {store : Store} {resolver : Resolver} {name : String} {now count : Int} {key : Bytes}
  (legible : store.Legible resolver)

include legible

/-! ### What is listed -/

theorem shows {outer : Option Bytes} {column : Bytes} {record : Record}
    (filed : recordIn (store.rowsOf resolver.family) key outer column = some record) :
    resolver.Shows ⟨resolver.family.name, key, outer, column⟩ record :=
  legible _ record rfl filed

theorem shows_of_row {cell : Cell}
    (listed : .cell cell ∈ (rowAt (store.rowsOf resolver.family) key).seen resolver.family now) :
    resolver.Shows ⟨resolver.family.name, key, none, cell.name⟩ cell.record :=
  legible.shows (cell_mem_row.1 listed).1

theorem shows_of_group {outer : Bytes} {cell : Cell}
    (listed : cell ∈ liveCells resolver.family now
      (groupAt (store.rowsOf resolver.family) key outer)) :
    resolver.Shows ⟨resolver.family.name, key, some outer, cell.name⟩ cell.record :=
  legible.shows (mem_liveCells_groupAt.1 listed).1

/-- The key of a row with an entry, and the name of a super column, are in the place of a record. -/
theorem exists_shows {entry : Entry}
    (listed : entry ∈ (rowAt (store.rowsOf resolver.family) key).seen resolver.family now) :
    ∃ place record, resolver.Shows place record ∧ place.key = key ∧
      ∀ outer cells, entry = .superColumn outer cells → place.superColumn = some outer := by
  cases entry with
  | cell cell =>
    refine ⟨_, _, legible.shows_of_row listed, rfl, fun outer cells same => ?_⟩
    cases same
  | superColumn outer cells =>
    obtain ⟨filled, rfl⟩ := superColumn_mem_row.1 listed
    obtain ⟨cell, inside⟩ := List.exists_mem_of_ne_nil _ filled
    refine ⟨_, _, legible.shows_of_group inside, rfl, fun other cells same => ?_⟩
    cases same
    rfl
  | misplaced => cases Row.wellListed_seen.placed _ listed

theorem failsOnly_showEntry {entry : Entry}
    (listed : entry ∈ (rowAt (store.rowsOf resolver.family) key).seen resolver.family now) :
    FailsOnly NotLiteral (Action.showEntry resolver none entry) := by
  cases entry with
  | cell cell => exact ((legible.shows_of_row listed).failsOnly_showCell rfl).map _
  | superColumn outer cells =>
    obtain ⟨place, record, shows, -, named⟩ := legible.exists_shows listed
    obtain ⟨-, rfl⟩ := superColumn_mem_row.1 listed
    have name := shows.superColumn outer (named outer _ rfl)
    refine (failsOnly_of_exists name).bind fun _ _ => ?_
    refine (failsOnly_mapM fun cell inside => ?_).bind fun _ _ => failsOnly_pure _
    exact (legible.shows_of_group inside).failsOnly_showCell rfl
  | misplaced => exact failsOnly_throw.2 trivial

theorem failsOnly_showRow {start stop : Bytes} {slice : RowSlice}
    (scanned : slice ∈ store.scan resolver.family now start stop) :
    FailsOnly NotLiteral (Action.showRow resolver slice) := by
  obtain ⟨-, entries, filled⟩ := mem_scan.1 scanned
  rw [entries] at filled
  obtain ⟨entry, listed⟩ := List.exists_mem_of_ne_nil _ filled
  obtain ⟨place, record, shows, keyed, -⟩ := legible.exists_shows listed
  refine (failsOnly_of_exists (keyed ▸ shows.key)).bind fun _ _ => ?_
  rw [entries]
  exact (failsOnly_mapM fun entry listed => legible.failsOnly_showEntry listed).bind
    fun _ _ => failsOnly_pure _

/-! ### Reads -/

variable (found : store.family name = .ok resolver.family)
  (fit : RowsFit resolver.family.isSuper (store.rowsOf resolver.family))

include found fit

/-- The entries of a row or of a super column are read, and can be shown. -/
theorem getRow {outer : Option Bytes} (layered : outer.isSome → resolver.family.isSuper = true) :
    ∃ entries, store.getRow now name key outer count = .ok entries ∧
      FailsOnly NotLiteral (Action.showEntries resolver none entries) := by
  cases outer with
  | none =>
    refine ⟨_, getRow_row found fit count, failsOnly_mapM fun entry listed => ?_⟩
    exact legible.failsOnly_showEntry ((cut_sublist _ _).subset listed)
  | some outer =>
    refine ⟨_, getRow_superColumn found fit (layered rfl) outer count,
      failsOnly_mapM fun entry listed => ?_⟩
    obtain ⟨cell, mem, rfl⟩ := List.mem_map.1 listed
    have inside := (cut_sublist _ _).subset mem
    exact ((legible.shows_of_group inside).failsOnly_showCell rfl).map _

/-- A column is looked for, and can be shown if it is there. -/
theorem getColumn {outer : Option Bytes} {column : Bytes}
    (formed : outer.isSome = resolver.family.isSuper) :
    ∃ answer, store.getColumn now ⟨name, key, outer, some column⟩ = .ok answer ∧
      ∀ cell, answer = some (.cell cell) →
        FailsOnly NotLiteral (Action.showCell resolver none cell) := by
  obtain ⟨answer, read⟩ : ∃ answer,
      store.getColumn now ⟨name, key, outer, some column⟩ = .ok answer :=
    ⟨_, getColumn_ok found fit formed now⟩
  refine ⟨answer, read, fun cell there => ?_⟩
  rw [there] at read
  obtain ⟨rfl, filed, -⟩ := (getColumn_eq_cell found fit formed).1 read
  exact (legible.shows filed).failsOnly_showCell rfl

/-- The rows between two keys are read, and can be shown. -/
theorem getSlice (start stop : Bytes) :
    ∃ slices, store.getSlice now name start stop count = .ok slices ∧
      FailsOnly NotLiteral (Action.showRows resolver slices) := by
  refine ⟨_, getSlice_eq found fit start stop count, ?_⟩
  refine (failsOnly_mapM fun slice scanned => ?_).map _
  exact legible.failsOnly_showRow ((upTo_sublist _ _).subset scanned)

end Legible

end Store

end WideColumn
