import WideColumn.Proofs.Guarding
import WideColumn.Proofs.Store.Changes

/-!
# When calls fail for no guarded cause

For each call on the store, what has to hold of its arguments so that it is not rejected for a cause
that commands rule out. It may still be rejected for another one, or come across rows of another
shape.
-/

namespace WideColumn

open Failure (Unguarded)

/-! ### Rows -/

section Rows

variable {allowed : Failure → Prop} (shapes : ∀ cause, allowed (.shape cause)) (row : Row)

include shapes

namespace Row

theorem failsOnly_superColumn (slot : Slot) (use : SuperColumnUse) :
    FailsOnly allowed (slot.superColumn use) := by
  cases slot with
  | record record => exact failsOnly_error.2 (shapes _)
  | group records => exact failsOnly_ok _

theorem failsOnly_group? (name : Bytes) (use : SuperColumnUse) :
    FailsOnly allowed (row.group? name use) := by
  unfold Row.group?
  cases row.get? name with
  | none => exact failsOnly_pure _
  | some slot => exact (failsOnly_superColumn shapes slot use).map some

theorem failsOnly_record? (superColumn : Option Bytes) (column : Bytes) :
    FailsOnly allowed (row.record? superColumn column) := by
  cases superColumn with
  | none => exact failsOnly_pure _
  | some name => exact (failsOnly_group? shapes row name _).bind fun _ _ => failsOnly_pure _

theorem failsOnly_put (superColumn : Option Bytes) (column : Bytes) (record : Record) :
    FailsOnly allowed (row.put superColumn column record) := by
  cases superColumn with
  | none => exact failsOnly_pure _
  | some name => exact (failsOnly_group? shapes row name _).bind fun _ _ => failsOnly_pure _

theorem failsOnly_remove (superColumn : Option Bytes) (column : Bytes) :
    FailsOnly allowed (row.remove superColumn column) := by
  cases superColumn with
  | none => exact failsOnly_pure _
  | some name =>
    refine (failsOnly_group? shapes row name _).bind fun found _ => ?_
    split <;> exact failsOnly_pure _

theorem failsOnly_read (family : ColumnFamily) (now : Int) :
    FailsOnly allowed (row.read family now) := by
  unfold Row.read
  dsimp only
  split
  · refine (failsOnly_mapM fun entry _ => ?_).bind fun _ _ => failsOnly_pure _
    exact (failsOnly_superColumn shapes _ _).bind fun _ _ => failsOnly_pure _
  · exact failsOnly_pure _

end Row

namespace Store

variable (rows : Table Bytes Row) (location : Location)

theorem failsOnly_withRecord (column : Bytes) (record : Record) :
    FailsOnly allowed (withRecord rows location column record) :=
  (Row.failsOnly_put shapes _ _ _ _).bind fun _ _ => failsOnly_pure _

theorem failsOnly_totalAt (column : Bytes) : FailsOnly allowed (totalAt rows location column) := by
  refine (Row.failsOnly_record? shapes _ _ _).bind fun _ _ => ?_
  split <;> exact failsOnly_pure _

theorem failsOnly_without : FailsOnly allowed (without rows location) := by
  unfold without
  split
  · exact failsOnly_ok _
  · split
    · exact failsOnly_ok _
    · exact failsOnly_ok _
    · exact (Row.failsOnly_remove shapes _ _ _).map _

end Store

end Rows

namespace Store

variable {store : Store} {name : String} {family : ColumnFamily} {location : Location}

/-- A command rules out no row of another shape. -/
theorem shaped (cause : ShapeFailure) : Unguarded (.shape cause) :=
  trivial

/-! ### Calls that read -/

section Reads

variable {allowed : Failure → Prop} (shapes : ∀ cause, allowed (.shape cause)) {now count : Int}

include shapes

theorem failsOnly_getColumn (found : store.family location.family = .ok family)
    (shape : checkShape family location = .ok ())
    (given : location.superColumn.isSome = true ∨ location.column.isSome = true) :
    FailsOnly allowed (store.getColumn now location) := by
  unfold getColumn
  rw [found]
  refine failsOnly_ok_bind ?_
  rw [shape]
  refine failsOnly_ok_bind ?_
  split
  · split
    · rename_i bare unnamed
      rw [bare, unnamed] at given
      rcases given with given | given <;> cases given
    · exact (Row.failsOnly_group? shapes _ _ _).bind fun _ _ => failsOnly_pure _
    · exact (Row.failsOnly_record? shapes _ _ _).bind fun _ _ => failsOnly_pure _
    · exact failsOnly_pure _
  · exact failsOnly_pure _

theorem failsOnly_getRow {key : Bytes} {superColumn : Option Bytes}
    (found : store.family name = .ok family)
    (shape : checkShape family ⟨name, key, superColumn, none⟩ = .ok ()) :
    FailsOnly allowed (store.getRow now name key superColumn count) := by
  unfold getRow
  rw [found]
  refine failsOnly_ok_bind ?_
  rw [shape]
  refine failsOnly_ok_bind ?_
  split
  · cases superColumn with
    | none => exact (Row.failsOnly_read shapes _ family now).bind fun _ _ => failsOnly_pure _
    | some outer =>
      refine (Row.failsOnly_group? shapes _ outer _).bind fun records _ => ?_
      split <;> exact failsOnly_pure _
  · exact failsOnly_pure _

theorem failsOnly_getSlice {start stop : Bytes} (found : store.family name = .ok family) :
    FailsOnly allowed (store.getSlice now name start stop count) := by
  unfold getSlice
  rw [found]
  refine failsOnly_ok_bind (failsOnly_mapM fun read mem => ?_)
  -- What the scan comes to is a row as it is read.
  obtain ⟨⟨key, row⟩, -, seen⟩ := List.mem_filterMap.1 (List.mem_of_mem_take mem)
  dsimp only at seen
  split at seen
  · cases seen
  · cases seen
    exact (Row.failsOnly_read shapes row family now).map _

end Reads

theorem failsOnly_getIndexedSlices {now count : Int} {expressions : List IndexExpression}
    (found : store.family name = .ok family) :
    FailsOnly Unguarded (store.getIndexedSlices now name expressions count) := by
  unfold getIndexedSlices
  rw [found]
  refine failsOnly_ok_bind ?_
  dsimp only
  split
  · exact failsOnly_throw_bind (fun guarded => guarded) _
  · split
    · refine failsOnly_mapM fun entry _ => ?_
      exact (Row.failsOnly_read shaped _ family now).bind fun _ _ => failsOnly_pure _
    · exact failsOnly_throw_bind (fun guarded => guarded) _

/-! ### Calls on rows -/

theorem failsOnly_changeRows
    {change : ColumnFamily → Table Bytes Row → Except Failure (Table Bytes Row)}
    (found : store.family name = .ok family)
    (only : FailsOnly Unguarded (change family (store.rowsOf family))) :
    FailsOnly Unguarded (changeRows name change store).1 := by
  rw [changeRows_apply, found]
  dsimp only
  split
  · rename_i failed
    rw [failed] at only
    exact failsOnly_error.2 (failsOnly_error.1 only)
  · exact failsOnly_ok _

theorem failsOnly_requireColumnName (given : Option Bytes) :
    FailsOnly Unguarded (requireColumnName given) := by
  unfold requireColumnName
  split
  · exact failsOnly_ok _
  · exact failsOnly_error.2 fun guarded => guarded

theorem failsOnly_requirePositive (ttl : Option Int) :
    FailsOnly Unguarded (requirePositive ttl) := by
  unfold requirePositive
  split
  · exact failsOnly_ok _
  · split
    · exact failsOnly_error.2 fun guarded => guarded
    · exact failsOnly_ok _

theorem failsOnly_insertColumn {now : Int} {data : Bytes} {ttl : Option Int}
    (found : store.family location.family = .ok family)
    (shape : checkShape family location = .ok ())
    (plain : ∀ column, location.column = some column → holdsCounter family column = false) :
    FailsOnly Unguarded (insertColumn now location data ttl store).1 := by
  refine Call.failsOnly_lift_bind (failsOnly_requireColumnName _) fun column named => ?_
  refine Call.failsOnly_lift_bind (failsOnly_requirePositive _) fun _ _ => ?_
  refine failsOnly_changeRows found ?_
  rw [plain column (requireColumnName_ok named), shape]
  exact failsOnly_withRecord shaped _ _ _ _

theorem failsOnly_addToCounter {delta : Int} (found : store.family location.family = .ok family)
    (shape : checkShape family location = .ok ()) :
    FailsOnly Unguarded (addToCounter location delta store).1 := by
  refine Call.failsOnly_lift_bind (failsOnly_requireColumnName _) fun column _ => ?_
  refine failsOnly_changeRows found ?_
  split
  · rw [shape]
    refine failsOnly_ok_bind ((failsOnly_totalAt shaped _ _ _).bind fun total _ => ?_)
    exact failsOnly_withRecord shaped _ _ _ _
  · exact failsOnly_throw_bind (fun guarded => guarded) _

theorem failsOnly_removeColumn (found : store.family location.family = .ok family)
    (shape : checkShape family location = .ok ()) :
    FailsOnly Unguarded (removeColumn location store).1 := by
  refine failsOnly_changeRows found ?_
  dsimp only
  split
  · rw [shape]
    exact failsOnly_without shaped _ _
  · exact failsOnly_without shaped _ _

theorem failsOnly_truncate (found : store.family name = .ok family) :
    FailsOnly Unguarded (truncate name store).1 :=
  failsOnly_changeRows found (failsOnly_ok _)

/-! ### Calls on the schema -/

variable {allowed : Failure → Prop}

theorem failsOnly_requireConnected (connected : store.isConnected = true) :
    FailsOnly allowed store.requireConnected := by
  rw [requireConnected, connected]
  exact failsOnly_ok _

/-- A schema that is put in place is counted without failing. -/
theorem failsOnly_change (given : Store) :
    FailsOnly allowed ((do set given; countChange : Call String) store).1 :=
  failsOnly_ok _

theorem failsOnly_selectKeyspace {keyspace : Keyspace} (connected : store.isConnected = true)
    (found : Keyspace.find? store.keyspaces name = some keyspace) :
    FailsOnly Unguarded (selectKeyspace name store).1 := by
  refine Call.failsOnly_get_bind ?_
  refine Call.failsOnly_lift_bind (failsOnly_requireConnected connected) fun _ _ => ?_
  rw [found]
  exact nofun

theorem failsOnly_createKeyspace {keyspace : Keyspace} (connected : store.isConnected = true)
    (free : Keyspace.find? store.keyspaces keyspace.name = none) :
    FailsOnly allowed (createKeyspace keyspace store).1 := by
  refine Call.failsOnly_get_bind ?_
  refine Call.failsOnly_lift_bind (failsOnly_requireConnected connected) fun _ _ => ?_
  rw [free]
  exact failsOnly_change _

theorem failsOnly_updateKeyspace {keyspace old : Keyspace} (connected : store.isConnected = true)
    (found : store.keyspace? keyspace.name = some old) :
    FailsOnly allowed (updateKeyspace keyspace store).1 := by
  refine Call.failsOnly_get_bind ?_
  refine Call.failsOnly_lift_bind (failsOnly_requireConnected connected) fun _ _ => ?_
  rw [found]
  exact failsOnly_change _

theorem failsOnly_dropKeyspace {keyspace : Keyspace} (connected : store.isConnected = true)
    (found : store.keyspace? name = some keyspace) :
    FailsOnly Unguarded (dropKeyspace name store).1 := by
  refine Call.failsOnly_get_bind ?_
  refine Call.failsOnly_lift_bind (failsOnly_requireConnected connected) fun _ _ => ?_
  rw [found]
  exact failsOnly_change _

theorem failsOnly_createFamily {keyspace : Keyspace} (current : store.currentKeyspace = .ok keyspace)
    (free : keyspace.family? family.name = none) :
    FailsOnly allowed (createFamily family store).1 := by
  refine Call.failsOnly_get_bind ?_
  rw [current]
  refine Call.failsOnly_lift_bind (failsOnly_ok _) fun _ same => ?_
  cases same
  rw [free]
  exact failsOnly_change _

/-- What cannot be changed is all that is in the way of an update. -/
theorem failsOnly_updateFamily_of_fixed {old : ColumnFamily}
    (found : store.family family.name = .ok old)
    (fixed : ∀ part, fixedDifference? old family = some part →
      allowed (.store (.attributeFixed part))) : FailsOnly allowed (updateFamily family store).1 := by
  obtain ⟨keyspace, current, -⟩ := family_eq_ok.1 found
  refine Call.failsOnly_get_bind ?_
  rw [found]
  refine Call.failsOnly_lift_bind (failsOnly_ok _) fun _ same => ?_
  cases same
  cases differs : fixedDifference? old family with
  | some part => exact failsOnly_error.2 (fixed part differs)
  | none =>
    dsimp only
    rw [current]
    exact Call.failsOnly_lift_bind (failsOnly_ok _) fun _ _ => failsOnly_change _

theorem failsOnly_updateFamily {old : ColumnFamily} (found : store.family family.name = .ok old) :
    FailsOnly Unguarded (updateFamily family store).1 :=
  failsOnly_updateFamily_of_fixed found fun _ _ guarded => guarded

/-- Where a column family has the name, it does not remain. -/
theorem failsOnly_dropFamily (found : store.family name = .ok family) :
    FailsOnly Unguarded (dropFamily name store).1 := by
  obtain ⟨keyspace, current, named⟩ := family_eq_ok.1 found
  have fewer : (keyspace.families.filter fun family => family.name != name).length ≠
      keyspace.families.length := by
    intro all
    have stays := List.length_filter_eq_length_iff.1 all family (List.mem_of_find?_eq_some named)
    have same := List.find?_some named
    simp_all
  refine Call.failsOnly_get_bind ?_
  rw [current]
  refine Call.failsOnly_lift_bind (failsOnly_ok _) fun _ same => ?_
  cases same
  rw [if_neg fewer]
  exact failsOnly_ok _

theorem failsOnly_dropIndex {column : Bytes} (found : store.family name = .ok family)
    (indexed : (family.column? column).any ColumnDefinition.isIndexed = true) :
    FailsOnly Unguarded (dropIndex name column store).1 := by
  obtain ⟨keyspace, current, -⟩ := family_eq_ok.1 found
  refine Call.failsOnly_get_bind ?_
  rw [found]
  refine Call.failsOnly_lift_bind (failsOnly_ok _) fun _ same => ?_
  cases same
  dsimp only
  rw [if_pos indexed, current]
  exact Call.failsOnly_lift_bind (failsOnly_ok _) fun _ _ => failsOnly_change _

end Store

end WideColumn
