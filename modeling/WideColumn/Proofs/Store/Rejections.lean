import WideColumn.Proofs.Store.Guards

/-!
# Which calls on rows are rejected

The store rejects a call with a cause of its own (`Store.rejection?`). A call that comes across a
row of another layout fails too, but is not rejected. Calls look at the schema before they look at
the rows, so what they are rejected for does not depend on the rows (`DataCall.rejected_alike_iff`).
There is one exception: a read that names neither a super column nor a column is rejected only after
its row is found.

In a column family without super columns every path with a super column is rejected
(`Store.misplaced_rejected`), again with one exception: a removal that names no column takes the
super column for a column.
-/

namespace WideColumn

/-- Whether a failure is a row of another layout. -/
def Failure.IsShape : Failure → Prop
  | shape _ => True
  | _ => False

open Failure (IsShape)

namespace Store

variable {α β γ : Type}

/-! ### Rejections -/

/-- The cause for which a call was rejected, if it was. -/
def rejection? : Except Failure α → Option StoreFailure
  | .error (.store cause) => some cause
  | _ => none

/-- Rows of another layout can stop a call, but they are no cause to reject it. -/
theorem rejection?_of_failsOnly {result : Except Failure α} (only : FailsOnly IsShape result) :
    rejection? result = none := by
  cases result with
  | ok value => rfl
  | error failure =>
    cases failure with
    | shape cause => rfl
    | _ => exact (failsOnly_error.1 only).elim

theorem rejection?_map (change : α → β) (result : Except Failure α) :
    rejection? (change <$> result) = rejection? result := by
  cases result with
  | ok value => rfl
  | error failure => cases failure <;> rfl

/-- What goes on after the same first step is rejected alike if it is so after each value. -/
theorem rejection?_bind_congr {first : Except Failure α} {next : α → Except Failure β}
    {later : α → Except Failure γ}
    (rest : ∀ value, first = .ok value → rejection? (next value) = rejection? (later value)) :
    rejection? (first >>= next) = rejection? (first >>= later) := by
  cases first with
  | ok value => exact rest value rfl
  | error failure => cases failure <;> rfl

/-- If after a first step only rows of another layout can stop a call, it is rejected for what the
first step is rejected for. -/
theorem rejection?_bind_of_failsOnly {first : Except Failure α} {next : α → Except Failure β}
    (only : ∀ value, first = .ok value → FailsOnly IsShape (first >>= next)) :
    rejection? (first >>= next) = rejection? first := by
  cases first with
  | ok value => exact rejection?_of_failsOnly (only value rfl)
  | error failure => cases failure <;> rfl

/-- A check in front of a call, as seen in the reply. -/
theorem Call.fst_lift_bind (result : Except Failure α) (next : α → Call β) (store : Store) :
    (((liftM result : Call α) >>= next) store).1 =
      result >>= fun value => (next value store).1 := by
  cases result <;> rfl

theorem fst_changeRows (name : String)
    (change : ColumnFamily → Table Bytes Row → Except Failure (Table Bytes Row)) (store : Store) :
    (changeRows name change store).1 =
      store.family name >>= fun family =>
        (fun _ => ()) <$> change family (store.rowsOf family) := by
  rw [changeRows_apply]
  cases store.family name with
  | error failure => rfl
  | ok family =>
    show _ = (fun _ => ()) <$> change family (store.rowsOf family)
    cases changed : change family (store.rowsOf family) with
    | error failure =>
      simp only [changed]
      rfl
    | ok rows =>
      simp only [changed]
      rfl

/-! ### What reads are rejected for -/

theorem isShape (cause : ShapeFailure) : IsShape (.shape cause) :=
  trivial

section Reads

variable {store : Store} {location : Location} {now : Int} {name : String}

/-- A read of a row is rejected for its column family or for the shape of its path. -/
theorem rejection?_getRow (key : Bytes) (superColumn : Option Bytes) (count : Int) :
    rejection? (store.getRow now name key superColumn count) =
      rejection? (store.family name >>= (checkShape · ⟨name, key, superColumn, none⟩)) := by
  refine rejection?_bind_congr fun family found =>
    rejection?_bind_of_failsOnly fun _ shape => ?_
  have only : FailsOnly IsShape (store.getRow now name key superColumn count) :=
    failsOnly_getRow isShape found shape
  rwa [getRow, found] at only

/-- A scan of rows is rejected for its column family only. -/
theorem rejection?_getSlice (start stop : Bytes) (count : Int) :
    rejection? (store.getSlice now name start stop count) = rejection? (store.family name) :=
  rejection?_bind_of_failsOnly fun _ found => failsOnly_getSlice isShape found

/-- A read that names something in a row is rejected for its column family or for the shape of its
path. -/
theorem rejection?_getColumn
    (given : location.superColumn.isSome = true ∨ location.column.isSome = true) :
    rejection? (store.getColumn now location) =
      rejection? (store.family location.family >>= (checkShape · location)) := by
  refine rejection?_bind_congr fun family found =>
    rejection?_bind_of_failsOnly fun _ shape => ?_
  have only : FailsOnly IsShape (store.getColumn now location) :=
    failsOnly_getColumn isShape found shape given
  rwa [getColumn, found] at only

/-- A read that names nothing in a row is rejected just if the row is there. -/
theorem rejection?_getColumn_bare {family : ColumnFamily}
    (found : store.family location.family = .ok family) (bare : location.superColumn = none)
    (unnamed : location.column = none) :
    rejection? (store.getColumn now location) =
      if ((store.rowsOf family).get? location.key).isSome then some .columnMissing else none := by
  have shape : checkShape family location = .ok () := by
    rw [checkShape, bare, unnamed]
    simp
  rw [getColumn, found]
  show rejection? (checkShape family location >>= _) = _
  rw [shape, bare, unnamed]
  cases (store.rowsOf family).get? location.key with
  | none => rfl
  | some row => rfl

end Reads

end Store

/-! ### Two stores with the same schema -/

/-- A call that reads or changes rows. -/
inductive DataCall where
  | insertColumn (location : Location) (data : Bytes) (ttl : Option Int)
  | addToCounter (location : Location) (delta : Int)
  | removeColumn (location : Location)
  | truncate (family : String)
  | getColumn (location : Location)
  | getRow (family : String) (key : Bytes) (superColumn : Option Bytes) (count : Int)
  | getSlice (family : String) (start stop : Bytes) (count : Int)
  | getIndexedSlices (family : String) (expressions : List IndexExpression) (count : Int)

namespace DataCall

/-- The cause for which a store rejects a call at a time, if it does. -/
def rejection? (call : DataCall) (now : Int) (store : Store) : Option StoreFailure :=
  match call with
  | insertColumn location data ttl =>
    Store.rejection? (Store.insertColumn now location data ttl store).1
  | addToCounter location delta => Store.rejection? (Store.addToCounter location delta store).1
  | removeColumn location => Store.rejection? (Store.removeColumn location store).1
  | truncate family => Store.rejection? (Store.truncate family store).1
  | getColumn location => Store.rejection? (store.getColumn now location)
  | getRow family key superColumn count =>
    Store.rejection? (store.getRow now family key superColumn count)
  | getSlice family start stop count =>
    Store.rejection? (store.getSlice now family start stop count)
  | getIndexedSlices family expressions count =>
    Store.rejection? (store.getIndexedSlices now family expressions count)

/-- Whether, if a call reads from a row and names nothing in it, two stores both have the row or
neither does. -/
def FindsAlike (first second : Store) : DataCall → Prop
  | getColumn location => location.superColumn = none → location.column = none →
      ∀ family, first.family location.family = .ok family →
        ((first.rowsOf family).get? location.key).isSome =
          ((second.rowsOf family).get? location.key).isSome
  | _ => True

end DataCall

namespace Store

/-- Whether two stores have the same connection and the same schema, whatever their rows are. -/
structure SameSchema (first second : Store) : Prop where
  connection : first.connection = second.connection
  keyspaces : first.keyspaces = second.keyspaces

section TwoStores

variable {first second : Store} {location : Location} {now later : Int} {name : String}

theorem SameSchema.family (same : SameSchema first second) (name : String) :
    second.family name = first.family name := by
  obtain ⟨connection, keyspaces⟩ := same
  cases first
  cases second
  cases connection
  cases keyspaces
  rfl

/-- Calls on rows are rejected alike if they take the rows of a known column family alike. -/
theorem rejection?_changeRows (same : SameSchema first second)
    {change again : ColumnFamily → Table Bytes Row → Except Failure (Table Bytes Row)}
    (rest : ∀ family, rejection? (change family (first.rowsOf family)) =
      rejection? (again family (second.rowsOf family))) :
    rejection? (changeRows name change first).1 = rejection? (changeRows name again second).1 := by
  rw [fst_changeRows, fst_changeRows, same.family]
  refine rejection?_bind_congr fun family _ => ?_
  rw [rejection?_map, rejection?_map]
  exact rest family

/-- With no room for a failure but a row of another layout, neither of two results is a
rejection. -/
theorem rejection?_eq_of_failsOnly {α β : Type} {result : Except Failure α}
    {other : Except Failure β} (only : FailsOnly IsShape result)
    (alsoOnly : FailsOnly IsShape other) : rejection? result = rejection? other := by
  rw [rejection?_of_failsOnly only, rejection?_of_failsOnly alsoOnly]

theorem rejection?_insertColumn (same : SameSchema first second) (data : Bytes)
    (ttl : Option Int) : rejection? (insertColumn now location data ttl first).1 =
      rejection? (insertColumn later location data ttl second).1 := by
  unfold insertColumn
  rw [Call.fst_lift_bind, Call.fst_lift_bind]
  refine rejection?_bind_congr fun column _ => ?_
  rw [Call.fst_lift_bind, Call.fst_lift_bind]
  refine rejection?_bind_congr fun _ _ => rejection?_changeRows same fun family => ?_
  split
  · rfl
  · refine rejection?_bind_congr fun _ _ => rejection?_eq_of_failsOnly ?_ ?_
    · exact failsOnly_withRecord isShape _ _ _ _
    · exact failsOnly_withRecord isShape _ _ _ _

theorem rejection?_addToCounter (same : SameSchema first second) (delta : Int) :
    rejection? (addToCounter location delta first).1 =
      rejection? (addToCounter location delta second).1 := by
  have counted (rows : Table Bytes Row) (column : Bytes) : FailsOnly IsShape (do
      let total ← totalAt rows location column
      withRecord rows location column (.counter (total + delta))) :=
    (failsOnly_totalAt isShape _ _ _).bind fun _ _ => failsOnly_withRecord isShape _ _ _ _
  unfold addToCounter
  rw [Call.fst_lift_bind, Call.fst_lift_bind]
  refine rejection?_bind_congr fun column _ => rejection?_changeRows same fun family => ?_
  split
  · refine rejection?_bind_congr fun _ _ => rejection?_eq_of_failsOnly ?_ ?_
    · exact counted _ _
    · exact counted _ _
  · rfl

theorem rejection?_removeColumn (same : SameSchema first second) :
    rejection? (removeColumn location first).1 = rejection? (removeColumn location second).1 := by
  have rest (family : ColumnFamily) : rejection? (without (first.rowsOf family) location) =
      rejection? (without (second.rowsOf family) location) :=
    rejection?_eq_of_failsOnly (failsOnly_without isShape _ _) (failsOnly_without isShape _ _)
  refine rejection?_changeRows same fun family => ?_
  dsimp only
  split
  · exact rejection?_bind_congr fun _ _ => rest family
  · exact rest family

theorem rejection?_getIndexedSlices (same : SameSchema first second)
    (expressions : List IndexExpression) (count : Int) :
    rejection? (first.getIndexedSlices now name expressions count) =
      rejection? (second.getIndexedSlices later name expressions count) := by
  have listed (family : ColumnFamily) (moment : Int) (rows : List (Bytes × Row)) :
      FailsOnly IsShape (rows.mapM fun item => do
        return RowSlice.mk item.1 (← item.2.read family moment)) :=
    failsOnly_mapM fun item _ =>
      (Row.failsOnly_read isShape item.2 family moment).bind fun _ _ => failsOnly_pure _
  unfold getIndexedSlices
  rw [same.family]
  refine rejection?_bind_congr fun family _ => ?_
  dsimp only
  split
  · rfl
  · split
    · exact rejection?_eq_of_failsOnly (listed family now _) (listed family later _)
    · rfl

end TwoStores

end Store

namespace DataCall

section TwoStores

variable {first second : Store}

/-- A read that names something in a row is rejected alike in two stores. -/
theorem rejection?_getColumn_eq {location : Location} (same : first.SameSchema second)
    (given : location.superColumn.isSome = true ∨ location.column.isSome = true)
    (now later : Int) :
    rejection? (.getColumn location) now first = rejection? (.getColumn location) later second := by
  rw [rejection?, rejection?, Store.rejection?_getColumn given, Store.rejection?_getColumn given,
    same.family]

/-- A read that names nothing in a row is rejected in the store that has the row. -/
theorem rejected_alike_getColumn {location : Location} (same : first.SameSchema second)
    (bare : location.superColumn = none) (unnamed : location.column = none) (now later : Int) :
    (rejection? (.getColumn location) now first = rejection? (.getColumn location) later second ↔
      FindsAlike first second (.getColumn location)) ∧
    (((rejection? (.getColumn location) now first).isSome ↔
        (rejection? (.getColumn location) later second).isSome) ↔
      FindsAlike first second (.getColumn location)) := by
  cases found : first.family location.family with
  | error failure =>
    have equal : rejection? (.getColumn location) now first =
        rejection? (.getColumn location) later second := by
      rw [rejection?, rejection?, Store.getColumn, Store.getColumn, same.family, found]
      rfl
    have finds : FindsAlike first second (.getColumn location) := fun _ _ family known => by
      rw [found] at known
      cases known
    exact ⟨iff_of_true equal finds, iff_of_true (by rw [equal]) finds⟩
  | ok family =>
    have finds : FindsAlike first second (.getColumn location) ↔
        ((first.rowsOf family).get? location.key).isSome =
          ((second.rowsOf family).get? location.key).isSome := by
      refine ⟨fun rows => rows bare unnamed family found, fun rows _ _ other known => ?_⟩
      rw [found] at known
      cases known
      exact rows
    have again : second.family location.family = .ok family := by rw [same.family, found]
    rw [finds, rejection?, rejection?, Store.rejection?_getColumn_bare found bare unnamed,
      Store.rejection?_getColumn_bare again bare unnamed]
    cases ((first.rowsOf family).get? location.key).isSome <;>
      cases ((second.rowsOf family).get? location.key).isSome <;> simp

end TwoStores

end DataCall

/-- With the same schema, two stores reject a call for the same cause, unless the call reads from a
row, names nothing in it, and finds the row in one of them only. In that case one of them rejects it
and the other does not. -/
theorem DataCall.rejected_alike_iff {first second : Store} (same : first.SameSchema second)
    (call : DataCall) (now later : Int) :
    (call.rejection? now first = call.rejection? later second ↔ call.FindsAlike first second) ∧
    (((call.rejection? now first).isSome ↔ (call.rejection? later second).isSome) ↔
      call.FindsAlike first second) := by
  have alike (equal : call.rejection? now first = call.rejection? later second)
      (finds : call.FindsAlike first second) :
      (call.rejection? now first = call.rejection? later second ↔ call.FindsAlike first second) ∧
      (((call.rejection? now first).isSome ↔ (call.rejection? later second).isSome) ↔
        call.FindsAlike first second) :=
    ⟨iff_of_true equal finds, iff_of_true (by rw [equal]) finds⟩
  cases call with
  | insertColumn location data ttl =>
    exact alike (Store.rejection?_insertColumn same data ttl) trivial
  | addToCounter location delta => exact alike (Store.rejection?_addToCounter same delta) trivial
  | removeColumn location => exact alike (Store.rejection?_removeColumn same) trivial
  | truncate family => exact alike (Store.rejection?_changeRows same fun _ => rfl) trivial
  | getColumn location =>
    by_cases given : location.superColumn.isSome = true ∨ location.column.isSome = true
    · refine alike (rejection?_getColumn_eq same given now later) fun bare unnamed => ?_
      rw [bare, unnamed] at given
      exact given.elim nofun nofun
    · obtain ⟨bare, unnamed⟩ := not_or.1 given
      exact rejected_alike_getColumn same (Option.not_isSome_iff_eq_none.1 bare)
        (Option.not_isSome_iff_eq_none.1 unnamed) now later
  | getRow family key superColumn count =>
    refine alike ?_ trivial
    rw [rejection?, rejection?, Store.rejection?_getRow, Store.rejection?_getRow, same.family]
  | getSlice family start stop count =>
    refine alike ?_ trivial
    rw [rejection?, rejection?, Store.rejection?_getSlice, Store.rejection?_getSlice, same.family]
  | getIndexedSlices family expressions count =>
    exact alike (Store.rejection?_getIndexedSlices same expressions count) trivial

/-- A row that is on file in one of two stores is read in both, with the name of a column. -/
theorem DataCall.rejected_alike_named :
    let family : ColumnFamily := { keyspace := "k", name := "f" }
    let empty : Store :=
      { connection := .opened (some "k"), keyspaces := [{ name := "k", families := [family] }] }
    let filled := empty.withRows family (Table.empty.put [1] (Table.empty.put [2]
      (.record (.value [9] 0 none))))
    let call : DataCall := .getColumn ⟨"f", [1], none, some [2]⟩
    empty.SameSchema filled ∧ call.FindsAlike empty filled ∧
      call.rejection? 0 empty = call.rejection? 5 filled := by
  intro family empty filled call
  have same : empty.SameSchema filled := ⟨rfl, rfl⟩
  have finds : call.FindsAlike empty filled := nofun
  exact ⟨same, finds, (rejected_alike_iff same call 0 5).1.2 finds⟩

/-- A read that names nothing finds nothing where there is no row, and is rejected where there is
one. -/
theorem DataCall.rejected_bare :
    let family : ColumnFamily := { keyspace := "k", name := "f" }
    let empty : Store :=
      { connection := .opened (some "k"), keyspaces := [{ name := "k", families := [family] }] }
    let filled := empty.withRows family (Table.empty.put [1] (Table.empty.put [2]
      (.record (.value [9] 0 none))))
    empty.connection = filled.connection ∧ empty.keyspaces = filled.keyspaces ∧
      empty.getColumn 0 ⟨"f", [1], none, none⟩ = .ok none ∧
      filled.getColumn 0 ⟨"f", [1], none, none⟩ = .error (.store .columnMissing) := by
  decide +kernel

/-! ### Super columns where there are none -/

namespace Store

/-- Whether a call is rejected and leaves the store as it was. -/
def Call.Rejected (store : Store) (call : Call α) : Prop :=
  ∃ cause, call store = (.error (.store cause), store)

theorem Call.rejected_lift_bind {store : Store} {result : Except Failure α} {next : α → Call β}
    (checked : ∀ failure, result = .error failure → ∃ cause, failure = .store cause)
    (rest : ∀ value, result = .ok value → (next value).Rejected store) :
    Call.Rejected store (liftM result >>= next) := by
  cases result with
  | ok value => exact rest value rfl
  | error failure =>
    obtain ⟨cause, rfl⟩ := checked failure rfl
    exact ⟨cause, rfl⟩

/-- A call on rows is rejected if its change of them is. -/
theorem rejected_changeRows {store : Store} {name : String} {family : ColumnFamily}
    {change : ColumnFamily → Table Bytes Row → Except Failure (Table Bytes Row)}
    (found : store.family name = .ok family) (cause : StoreFailure)
    (rejected : change family (store.rowsOf family) = .error (.store cause)) :
    (changeRows name change).Rejected store := by
  refine ⟨cause, ?_⟩
  rw [changeRows_apply, found]
  dsimp only
  rw [rejected]

theorem changeRows_congr {store : Store} {name : String} {family : ColumnFamily}
    {change other : ColumnFamily → Table Bytes Row → Except Failure (Table Bytes Row)}
    (found : store.family name = .ok family)
    (same : change family (store.rowsOf family) = other family (store.rowsOf family)) :
    changeRows name change store = changeRows name other store := by
  rw [changeRows_apply, changeRows_apply, found]
  dsimp only
  rw [same]

theorem requireColumnName_eq_error {given : Option Bytes} {failure : Failure}
    (failed : requireColumnName given = .error failure) : ∃ cause, failure = .store cause := by
  unfold requireColumnName at failed
  split at failed
  · cases failed
  · cases failed
    exact ⟨_, rfl⟩

theorem requirePositive_eq_error {ttl : Option Int} {failure : Failure}
    (failed : requirePositive ttl = .error failure) : ∃ cause, failure = .store cause := by
  unfold requirePositive at failed
  split at failed
  · cases failed
  · split at failed
    · cases failed
      exact ⟨_, rfl⟩
    · cases failed

section Misplaced

variable {store : Store} {location : Location} {family : ColumnFamily}
  (standard : family.isSuper = false) (nested : location.superColumn.isSome = true)

include standard nested

/-- A path with a super column has the wrong shape for a column family without them. -/
theorem checkShape_misplaced :
    checkShape family location = .error (.store (.superColumnInvalid family.name)) := by
  rw [checkShape, standard, nested]
  rfl

theorem getColumn_misplaced (found : store.family location.family = .ok family) (now : Int) :
    store.getColumn now location = .error (.store (.superColumnInvalid family.name)) := by
  rw [getColumn, found]
  show (checkShape family location >>= _) = _
  rw [checkShape_misplaced standard nested]
  rfl

theorem getRow_misplaced (found : store.family location.family = .ok family) (now count : Int) :
    store.getRow now location.family location.key location.superColumn count =
      .error (.store (.superColumnInvalid family.name)) := by
  have shape : checkShape family ⟨location.family, location.key, location.superColumn, none⟩ =
      .error (.store (.superColumnInvalid family.name)) := checkShape_misplaced standard nested
  rw [getRow, found]
  show (checkShape family _ >>= _) = _
  rw [shape]
  rfl

theorem insertColumn_misplaced (found : store.family location.family = .ok family) (now : Int)
    (data : Bytes) (ttl : Option Int) : (insertColumn now location data ttl).Rejected store := by
  refine Call.rejected_lift_bind (fun _ => requireColumnName_eq_error) fun column _ => ?_
  refine Call.rejected_lift_bind (fun _ => requirePositive_eq_error) fun _ _ => ?_
  -- A counter is refused before the path is looked at.
  cases counts : holdsCounter family column with
  | true =>
    refine rejected_changeRows found (.counterFamily family.name) ?_
    rw [counts]
    rfl
  | false =>
    refine rejected_changeRows found (.superColumnInvalid family.name) ?_
    rw [counts, checkShape_misplaced standard nested]
    rfl

theorem addToCounter_misplaced (found : store.family location.family = .ok family) (delta : Int) :
    (addToCounter location delta).Rejected store := by
  refine Call.rejected_lift_bind (fun _ => requireColumnName_eq_error) fun column _ => ?_
  cases counts : holdsCounter family column with
  | true =>
    refine rejected_changeRows found (.superColumnInvalid family.name) ?_
    rw [counts, checkShape_misplaced standard nested]
    rfl
  | false =>
    refine rejected_changeRows found (.notACounterFamily family.name) ?_
    rw [counts]
    rfl

theorem removeColumn_misplaced (found : store.family location.family = .ok family)
    (given : location.column.isSome = true) : (removeColumn location).Rejected store := by
  refine rejected_changeRows found (.superColumnInvalid family.name) ?_
  dsimp only
  rw [if_pos given, checkShape_misplaced standard nested]
  rfl

/-- A removal that ends at a super column removes the column of its name. -/
theorem removeColumn_nested (found : store.family location.family = .ok family)
    (unnamed : location.column = none) : removeColumn location store =
      removeColumn { location with superColumn := none, column := location.superColumn } store := by
  obtain ⟨name, key, superColumn, column⟩ := location
  cases superColumn with
  | none => cases nested
  | some outer =>
    cases unnamed
    have shape : checkShape family ⟨name, key, none, some outer⟩ = .ok () := by
      rw [checkShape, standard]
      rfl
    refine changeRows_congr found ?_
    show without (store.rowsOf family) _ =
      checkShape family _ >>= fun _ => without (store.rowsOf family) _
    rw [shape, without, without]
    cases (store.rowsOf family).get? key <;> rfl

end Misplaced

/-- In a column family without super columns every path with a super column is rejected, in each
call that takes one, and nothing is changed. There is one exception: the removal of such a path
without a column is not rejected; it is that of the column with the name of the super column. -/
theorem misplaced_rejected {store : Store} {location : Location} {family : ColumnFamily}
    (found : store.family location.family = .ok family) (standard : family.isSuper = false)
    (nested : location.superColumn.isSome = true) :
    (∀ now, store.getColumn now location =
      .error (.store (.superColumnInvalid family.name))) ∧
    (∀ now count, store.getRow now location.family location.key location.superColumn count =
      .error (.store (.superColumnInvalid family.name))) ∧
    (∀ now data ttl, (insertColumn now location data ttl).Rejected store) ∧
    (∀ delta, (addToCounter location delta).Rejected store) ∧
    ((removeColumn location).Rejected store ↔ location.column.isSome = true) ∧
    (location.column = none → (removeColumn location store).1 = .ok () ∧
      removeColumn location store = removeColumn
        { location with superColumn := none, column := location.superColumn } store) := by
  have removes (unnamed : location.column = none) : (removeColumn location store).1 = .ok () := by
    obtain ⟨name, key, superColumn, column⟩ := location
    cases unnamed
    rw [removeColumn, fst_changeRows, found]
    show (fun _ => ()) <$> without (store.rowsOf family) _ = _
    rw [without]
    cases (store.rowsOf family).get? key <;> cases superColumn <;> rfl
  refine ⟨getColumn_misplaced standard nested found, getRow_misplaced standard nested found,
    insertColumn_misplaced standard nested found, addToCounter_misplaced standard nested found,
    ⟨?_, removeColumn_misplaced standard nested found⟩, fun unnamed =>
    ⟨removes unnamed, removeColumn_nested standard nested found unnamed⟩⟩
  rintro ⟨cause, rejected⟩
  by_contra unnamed
  rw [Option.not_isSome_iff_eq_none] at unnamed
  have removed := removes unnamed
  rw [rejected] at removed
  cases removed

/-- With a column behind the super column, a removal is rejected like any other call. -/
theorem misplaced_rejected_column :
    let family : ColumnFamily := { keyspace := "k", name := "f" }
    let store : Store :=
      { connection := .opened (some "k"), keyspaces := [{ name := "k", families := [family] }] }
    let location : Location := ⟨"f", [1], some [2], some [3]⟩
    store.family location.family = .ok family ∧ family.isSuper = false ∧
      location.superColumn.isSome = true ∧ (removeColumn location).Rejected store := by
  intro family store location
  have found : store.family location.family = .ok family := by decide
  have standard : family.isSuper = false := by decide
  exact ⟨found, standard, rfl, (misplaced_rejected found standard rfl).2.2.2.2.1.2 rfl⟩

/-- Where a row has a column of that name, the removal of a super column takes it away. -/
theorem misplaced_removed :
    let family : ColumnFamily := { keyspace := "k", name := "f" }
    let store : Store :=
      { connection := .opened (some "k"), keyspaces := [{ name := "k", families := [family] }] }
    let filled := (insertColumn 0 ⟨"f", [1], none, some [2]⟩ [9] none store).2
    let removed := removeColumn ⟨"f", [1], some [2], none⟩ filled
    family.isSuper = false ∧ filled.family "f" = .ok family ∧ removed.1 = .ok () ∧
      filled.getColumn 0 ⟨"f", [1], none, some [2]⟩ = .ok (some (.cell ⟨[2], .value [9] 0 none⟩)) ∧
      removed.2.getColumn 0 ⟨"f", [1], none, some [2]⟩ = .ok none := by
  decide +kernel

end Store

end WideColumn
