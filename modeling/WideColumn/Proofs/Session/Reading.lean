import WideColumn.Proofs.Session.Soundness
import WideColumn.Proofs.Store.Reading

/-!
# All reads see the same records

In every state that a session reaches, rows fit their column families, so the reads of the store are
what they are on rows that fit: they list the same records, and each of them once.
-/

namespace WideColumn.State

variable {state : State} {name : String} {family : ColumnFamily}

/-- In every reachable state the reads of a column family agree at every time. In a standard one, a
column is what its row lists under its name, and what a scan without bounds lists in that row. In a
super one, it is what its super column lists, read as a part of the row or as a whole, what the row
lists in this super column, and what the scan lists there. No read lists a column, a super column or
a row twice, a super column without columns or, in a scan, a row without entries. -/
theorem reachable_reads_agree (reachable : Reachable state) (now : Int)
    (found : state.store.family name = .ok family) :
    (∃ slices, ListsAll (state.store.getSlice now name [] []) slices ∧
      ∀ key, ∃ entries, ListsAll (state.store.getRow now name key none) entries ∧
        (family.isSuper = false → ∀ column,
          (∃ answer, state.store.getColumn now ⟨name, key, none, some column⟩ = .ok answer) ∧
          ∀ cell,
            [state.store.getColumn now ⟨name, key, none, some column⟩ = .ok (some (.cell cell)),
              cell.name = column ∧ .cell cell ∈ entries,
              cell.name = column ∧ ∃ slice ∈ slices,
                slice.key = key ∧ .cell cell ∈ slice.entries].TFAE) ∧
        (family.isSuper = true → ∀ outer, ∃ cells : List Cell,
          ListsAll (state.store.getRow now name key (some outer)) (cells.map .cell) ∧
          (∃ answer, state.store.getColumn now ⟨name, key, some outer, none⟩ = .ok answer) ∧
          ∀ column,
            (∃ answer,
              state.store.getColumn now ⟨name, key, some outer, some column⟩ = .ok answer) ∧
            ∀ cell,
              [state.store.getColumn now ⟨name, key, some outer, some column⟩ =
                  .ok (some (.cell cell)),
                cell.name = column ∧ cell ∈ cells,
                cell.name = column ∧ ∃ inside, state.store.getColumn now
                  ⟨name, key, some outer, none⟩ = .ok (some (.superColumn outer inside)) ∧
                    cell ∈ inside,
                cell.name = column ∧ ∃ inside, .superColumn outer inside ∈ entries ∧
                  cell ∈ inside,
                cell.name = column ∧ ∃ slice ∈ slices, slice.key = key ∧
                  ∃ inside, .superColumn outer inside ∈ slice.entries ∧ cell ∈ inside].TFAE)) ∧
      (∀ key outer column entry,
        state.store.getColumn now ⟨name, key, outer, column⟩ = .ok (some entry) →
          WellListed [entry]) ∧
      (∀ key outer count entries,
        state.store.getRow now name key outer count = .ok entries → WellListed entries) ∧
      (∀ start stop count slices, state.store.getSlice now name start stop count = .ok slices →
        state.store.WellScanned now name slices ∧ ∀ slice ∈ slices, slice.entries ≠ []) ∧
      ∀ expressions count slices,
        state.store.getIndexedSlices now name expressions count = .ok slices →
          state.store.WellScanned now name slices := by
  have fit : Store.RowsFit family.isSuper (state.store.rowsOf family) :=
    reachable.sound.rowsFit found
  refine ⟨⟨state.store.scan family now [] [], fun count within => ?_, fun key =>
    ⟨(Store.rowAt (state.store.rowsOf family) key).seen family now, fun count within => ?_,
      fun standard column => ⟨?_, fun cell => ?_⟩, fun super outer =>
        ⟨liveCells family now (Store.groupAt (state.store.rowsOf family) key outer),
          fun count within => ?_, ?_, fun column => ⟨?_, fun cell => ?_⟩⟩⟩⟩, ?_, ?_, ?_, ?_⟩
  · rw [Store.getSlice_eq found fit, upTo_of_le within]
  · rw [Store.getRow_row found fit, cut_of_le within]
  · have formed : (none : Option Bytes).isSome = family.isSuper := standard.symm
    exact ⟨_, Store.getColumn_ok found fit formed now⟩
  · exact Store.standard_tfae found fit standard
  · rw [List.length_map] at within
    rw [Store.getRow_superColumn found fit super, cut_of_le within]
  · exact ⟨_, Store.getColumn_superColumn found fit super outer⟩
  · have formed : (some outer).isSome = family.isSuper := super.symm
    exact ⟨_, Store.getColumn_ok found fit formed now⟩
  · exact Store.super_tfae found fit super
  · exact fun key outer column entry read => Store.wellListed_getColumn found fit read
  · exact fun key outer count entries read => Store.wellListed_getRow found fit read
  · exact fun start stop count slices read => Store.wellScanned_getSlice found fit read
  · exact fun expressions count slices read => Store.wellScanned_getIndexedSlices found fit read

/-- A column that was set in a super column, and is then read by itself, is in the scan as well, in
its row and in its super column. -/
theorem reachable_reads_agree_set :
    let next (state : State) (statement : String) : State :=
      (state.answer { now := 0 } "\n" statement ⟨id, id, 0, 0⟩).1.2
    let used := next (next { store := Store.connect { clusterName := "c" } }
      "create keyspace K;") "use k;"
    let made := next used "create column family S with column_type = super;"
    let set := next made "set S['k']['0b']['0c'] = 'v';"
    let cell : Cell := ⟨[0x0c], .value [0x76] 0 none⟩
    ∃ family slices, set.store.family "S" = .ok family ∧
      ListsAll (set.store.getSlice 0 "S" [] []) slices ∧
      set.store.getColumn 0 ⟨"S", [0x6b], some [0x0b], some [0x0c]⟩ = .ok (some (.cell cell)) ∧
      ∃ slice ∈ slices, slice.key = [0x6b] ∧
        ∃ inside, .superColumn [0x0b] inside ∈ slice.entries ∧ cell ∈ inside := by
  intro next used made set cell
  have reachable : Reachable used := ((Reachable.connected "c").answered _ _ _ _).answered _ _ _ _
  have reachable : Reachable made := reachable.answered _ _ _ _
  have reachable : Reachable set := reachable.answered _ _ _ _
  have layout : ((set.store.family "S").toOption.map ColumnFamily.isSuper) = some true := by
    decide +kernel
  have read : (set.store.getColumn 0 ⟨"S", [0x6b], some [0x0b], some [0x0c]⟩).toOption =
      some (some (.cell cell)) := by
    decide +kernel
  obtain ⟨family, found, super⟩ := Option.map_eq_some_iff.1 layout
  have found : set.store.family "S" = .ok family := toOption_eq_some.1 found
  have read := toOption_eq_some.1 read
  obtain ⟨slices, sliced, rows⟩ := (reachable_reads_agree reachable 0 found).1
  obtain ⟨entries, -, -, inSuper⟩ := rows [0x6b]
  obtain ⟨cells, -, -, columns⟩ := inSuper super [0x0b]
  have agree := (columns [0x0c]).2 cell
  have scanned := (agree.out 0 4).1 read
  exact ⟨family, slices, found, sliced, read, scanned.2⟩

end WideColumn.State
