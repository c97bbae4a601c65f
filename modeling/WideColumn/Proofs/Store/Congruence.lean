import WideColumn.Proofs.Store.Changes
import WideColumn.Proofs.TwoRuns
import WideColumn.Store.Read

/-!
# What calls on column families depend on

A call on a column family finds it in the selected keyspace, and works on its rows. In two stores that
have these in common (`Store.SameReach`) it reads the same. A relation of stores that putting rows and
putting a definition keep (`Store.Kept`) is kept by every call on a column family then, and the two
runs of the call end alike.
-/

namespace WideColumn.Store

variable {store other : Store} {name : String} {family : ColumnFamily}

/-! ### Reading -/

/-- Whether the same keyspace is selected in two stores, and its column families have the same rows. -/
structure SameReach (store other : Store) : Prop where
  current : other.currentKeyspace = store.currentKeyspace
  rows : ∀ {name family}, store.family name = .ok family → other.rowsOf family = store.rowsOf family

theorem family_congr (current : other.currentKeyspace = store.currentKeyspace) (name : String) :
    other.family name = store.family name := by
  unfold Store.family
  rw [current]

namespace SameReach

theorem sortedRows (reach : SameReach store other) (found : store.family name = .ok family) :
    other.sortedRows family = store.sortedRows family := by
  unfold Store.sortedRows
  rw [reach.rows found]

theorem getColumn (reach : SameReach store other) (now : Int) (location : Location) :
    other.getColumn now location = store.getColumn now location := by
  unfold Store.getColumn
  rw [family_congr reach.current]
  refine bind_congr_of_ok fun family found => ?_
  rw [reach.rows found]

theorem getRow (reach : SameReach store other) (now : Int) (familyName : String) (key : Bytes)
    (superColumn : Option Bytes) (count : Int) :
    other.getRow now familyName key superColumn count =
      store.getRow now familyName key superColumn count := by
  unfold Store.getRow
  rw [family_congr reach.current]
  refine bind_congr_of_ok fun family found => ?_
  rw [reach.rows found]

theorem getSlice (reach : SameReach store other) (now : Int) (familyName : String)
    (start stop : Bytes) (count : Int) :
    other.getSlice now familyName start stop count =
      store.getSlice now familyName start stop count := by
  unfold Store.getSlice
  rw [family_congr reach.current]
  refine bind_congr_of_ok fun family found => ?_
  rw [reach.sortedRows found]

theorem getIndexedSlices (reach : SameReach store other) (now : Int) (familyName : String)
    (expressions : List IndexExpression) (count : Int) :
    other.getIndexedSlices now familyName expressions count =
      store.getIndexedSlices now familyName expressions count := by
  unfold Store.getIndexedSlices
  rw [family_congr reach.current]
  refine bind_congr_of_ok fun family found => ?_
  rw [reach.sortedRows found]

end SameReach

/-! ### Changing -/

/-- The version that a change of the schema reports which leaves a store. -/
def reported (store : Store) : String :=
  Schema.changedVersion store.changes store.keyspaces

/-- The store without the rows that are filed under a name. -/
def withoutRows (store : Store) (place : String × String) : Store :=
  { store with rows := store.rows.erase place }

/-- Whether stores that are related stay so when rows or a definition are put into them, and what is
known of the versions that are reported then. -/
structure Kept (related : Store → Store → Prop) (same : String → String → Prop) : Prop where
  rows : ∀ {store other}, related store other → ∀ family rows,
    related (store.withRows family rows) (other.withRows family rows)
  without : ∀ {store other}, related store other → ∀ place,
    related (store.withoutRows place) (other.withoutRows place)
  keyspace : ∀ {store other}, related store other → ∀ keyspace,
    related (counted (store.withKeyspace keyspace)) (counted (other.withKeyspace keyspace))
  versions : ∀ {store other}, related store other → same store.reported other.reported

variable {related : Store → Store → Prop} {same : String → String → Prop}

/-- A new schema that is put in place is counted, and its version reported. -/
theorem Call.alike_change {given again : Store} (states : related (counted given) (counted again))
    (versions : same (counted given).reported (counted again).reported) :
    Alike related same ((do set given; countChange : Call String) store)
      ((do set again; countChange : Call String) other) :=
  .ok versions states

namespace Kept

theorem changeRows (kept : Kept related same) (reach : SameReach store other)
    (stores : related store other) (name : String)
    (change : ColumnFamily → Table Bytes Row → Except Failure (Table Bytes Row)) :
    Alike related Eq (Store.changeRows name change store) (Store.changeRows name change other) := by
  refine Call.alike_get_bind ?_
  refine Call.alike_lift_bind (family_congr reach.current name) stores fun family found => ?_
  refine Call.alike_lift_bind (congrArg (change family) (reach.rows found)) stores fun rows _ => ?_
  exact .ok rfl (kept.rows stores family rows)

theorem insertColumn (kept : Kept related same) (reach : SameReach store other)
    (stores : related store other) (now : Int) (location : Location) (data : Bytes)
    (ttl : Option Int) :
    Alike related Eq (Store.insertColumn now location data ttl store)
      (Store.insertColumn now location data ttl other) := by
  refine Call.alike_lift_bind rfl stores fun column _ => ?_
  refine Call.alike_lift_bind rfl stores fun _ _ => ?_
  exact kept.changeRows reach stores _ _

theorem addToCounter (kept : Kept related same) (reach : SameReach store other)
    (stores : related store other) (location : Location) (delta : Int) :
    Alike related Eq (Store.addToCounter location delta store)
      (Store.addToCounter location delta other) :=
  Call.alike_lift_bind rfl stores fun _ _ => kept.changeRows reach stores _ _

theorem removeColumn (kept : Kept related same) (reach : SameReach store other)
    (stores : related store other) (location : Location) :
    Alike related Eq (Store.removeColumn location store) (Store.removeColumn location other) :=
  kept.changeRows reach stores _ _

theorem truncate (kept : Kept related same) (reach : SameReach store other)
    (stores : related store other) (name : String) :
    Alike related Eq (Store.truncate name store) (Store.truncate name other) :=
  kept.changeRows reach stores _ _

theorem change (kept : Kept related same) (stores : related store other) (keyspace : Keyspace) :
    Alike related same
      ((do set (store.withKeyspace keyspace); countChange : Call String) store)
      ((do set (other.withKeyspace keyspace); countChange : Call String) other) :=
  Call.alike_change (kept.keyspace stores keyspace) (kept.versions (kept.keyspace stores keyspace))

variable (current : other.currentKeyspace = store.currentKeyspace)

include current

theorem createFamily (kept : Kept related same) (stores : related store other)
    (family : ColumnFamily) :
    Alike related same (Store.createFamily family store) (Store.createFamily family other) := by
  refine Call.alike_get_bind ?_
  refine Call.alike_lift_bind current stores fun keyspace _ => ?_
  dsimp only
  split
  · exact .error stores
  · exact kept.change stores _

theorem updateFamily (kept : Kept related same) (stores : related store other)
    (family : ColumnFamily) :
    Alike related same (Store.updateFamily family store) (Store.updateFamily family other) := by
  refine Call.alike_get_bind ?_
  refine Call.alike_lift_bind (family_congr current _) stores fun old _ => ?_
  dsimp only
  cases fixedDifference? old family with
  | some part => exact .error stores
  | none => exact Call.alike_lift_bind current stores fun keyspace _ => kept.change stores _

theorem dropFamily (kept : Kept related same) (stores : related store other) (name : String) :
    Alike related same (Store.dropFamily name store) (Store.dropFamily name other) := by
  refine Call.alike_get_bind ?_
  refine Call.alike_lift_bind current stores fun keyspace _ => ?_
  dsimp only
  split
  · exact .error stores
  · have states := kept.without (kept.keyspace stores
      { keyspace with families := keyspace.families.filter fun family => family.name != name })
      (keyspace.name, name)
    exact .ok (kept.versions states) states

theorem dropIndex (kept : Kept related same) (stores : related store other) (name : String)
    (column : Bytes) :
    Alike related same (Store.dropIndex name column store) (Store.dropIndex name column other) := by
  refine Call.alike_get_bind ?_
  refine Call.alike_lift_bind (family_congr current _) stores fun family _ => ?_
  dsimp only
  split
  · exact Call.alike_lift_bind current stores fun keyspace _ => kept.change stores _
  · exact .error stores

end Kept

end WideColumn.Store
