import WideColumn.Proofs.Store.Calls
import WideColumn.Proofs.Store.Rows
import WideColumn.Store.Read

/-!
# The store as a flat map

With its schema and the selected keyspace left as they are, a store that started without rows is one
flat map from places of columns to records. A call on rows either is refused, for a reason that the
schema alone gives, or binds or frees the places that it touches. The invariant of the simulation is
`Refines`: the schema is the old one, all rows fit their column families, and the records are those
of the flat map.
-/

namespace WideColumn.Store

/-! ### The flat map -/

/-- The place of a column: its column family, the key of its row, perhaps a super column, and its
name. -/
structure Place where
  family : String
  key : Bytes
  superColumn : Option Bytes
  column : Bytes
  deriving DecidableEq

/-- The full path of a place. -/
def Place.location (place : Place) : Location :=
  ⟨place.family, place.key, place.superColumn, some place.column⟩

/-- The records of all places. -/
abbrev FlatMap := Place → Option Record

namespace FlatMap

/-- The flat map without records. -/
def empty : FlatMap := fun _ => none

/-- Whether a record is shown at a time: a counter always, a value until its time to live is over. -/
def Shows (now : Int) : Record → Prop
  | .counter _ => True
  | .value _ _ none => True
  | .value _ timestamp (some ttl) => now < timestamp + ttl * 1000000

instance (now : Int) : (record : Record) → Decidable (Shows now record)
  | .counter _ | .value _ _ none => inferInstanceAs (Decidable True)
  | .value _ timestamp (some ttl) =>
    inferInstanceAs (Decidable (now < timestamp + ttl * 1000000))

/-- What can be seen of a place at a time. -/
def read (flat : FlatMap) (now : Int) (place : Place) : Option Entry :=
  ((flat place).filter fun record => decide (Shows now record)).map fun record =>
    .cell ⟨place.column, record⟩

end FlatMap

/-- A call that changes rows. -/
inductive Write where
  | insert (now : Int) (location : Location) (data : Bytes) (ttl : Option Int)
  | add (location : Location) (delta : Int)
  | remove (location : Location)
  | truncate (family : String)

namespace Write

/-- The call on the store. -/
def perform : Write → Call Unit
  | insert now location data ttl => insertColumn now location data ttl
  | add location delta => addToCounter location delta
  | remove location => removeColumn location
  | truncate family => Store.truncate family

/-- A call that fails changes nothing. -/
theorem isolated (call : Write) : call.perform.Isolated := by
  cases call with
  | insert now location data ttl => exact insertColumn_isolated now location data ttl
  | add location delta => exact addToCounter_isolated location delta
  | remove location => exact removeColumn_isolated location
  | truncate family => exact truncate_isolated family

/-- Whether a call binds or frees a place. -/
def Touches : Write → Place → Prop
  | insert _ location _ _, place | add location _, place => location = place.location
  | remove location, place =>
    location.family = place.family ∧ Covers location place.key place.superColumn place.column
  | truncate family, place => family = place.family

instance : (call : Write) → (place : Place) → Decidable (call.Touches place)
  | insert _ location _ _, place | add location _, place =>
    inferInstanceAs (Decidable (location = place.location))
  | remove _, _ => inferInstanceAs (Decidable (_ ∧ _))
  | truncate family, place => inferInstanceAs (Decidable (family = place.family))

/-- What a call binds a place to, given the record that it has. -/
def binding : Write → Option Record → Option Record
  | insert now _ data ttl, _ => some (.value data now ttl)
  | add _ delta, before => some (.counter (totalOf before + delta))
  | remove _, _ | truncate _, _ => none

/-- The flat map after a call that is not refused. -/
def effect (call : Write) (flat : FlatMap) : FlatMap := fun place =>
  if call.Touches place then call.binding (flat place) else flat place

/-- Whether a schema lets a call through. -/
def verdict (schema : Store) : Write → Except Failure Unit
  | insert _ location _ ttl => do
    let column ← requireColumnName location.column
    requirePositive ttl
    let family ← schema.family location.family
    if holdsCounter family column then throw (.store (.counterFamily family.name))
  | add location _ => do
    let column ← requireColumnName location.column
    let family ← schema.family location.family
    unless holdsCounter family column do throw (.store (.notACounterFamily family.name))
  | remove location => do
    let _ ← schema.family location.family
  | truncate family => do
    let _ ← schema.family family

/-- A call on the flat map. -/
def step (schema : Store) (call : Write) (flat : FlatMap) : Except Failure Unit × FlatMap :=
  match call.verdict schema with
  | .ok () => (.ok (), call.effect flat)
  | .error failure => (.error failure, flat)

/-- A location in a super column family gives a super column with each column, and one in a standard
column family gives none. -/
def WellPlaced (family : ColumnFamily) (location : Location) : Prop :=
  (family.isSuper = true → location.column.isSome → location.superColumn.isSome) ∧
    (family.isSuper = false → location.superColumn = none)

/-- Whether the location of a call is well placed. -/
def WellFormed (schema : Store) : Write → Prop
  | insert _ location _ _ | add location _ | remove location =>
    ∀ family, schema.family location.family = .ok family → WellPlaced family location
  | truncate _ => True

end Write

/-- Make calls one after the other; all replies, and the state at the end. -/
def runAll {State : Type} (perform : Write → State → Except Failure Unit × State) :
    List Write → State → List (Except Failure Unit) × State
  | [], state => ([], state)
  | call :: calls, state =>
    let (reply, after) := perform call state
    let (replies, last) := runAll perform calls after
    (reply :: replies, last)

/-! ### The simulation -/

section Simulation

variable {schema store : Store} {flat : FlatMap} {name : String} {family : ColumnFamily}

/-- A store and a flat map that agree, under a schema. -/
structure Refines (schema store : Store) (flat : FlatMap) : Prop where
  family : ∀ name, store.family name = schema.family name
  fit : ∀ name family, schema.family name = .ok family →
    RowsFit family.isSuper (store.rowsOf family)
  records : ∀ place family, schema.family place.family = .ok family →
    recordIn (store.rowsOf family) place.key place.superColumn place.column = flat place

/-- Column families of different names have their rows apart. -/
theorem rowsOf_withRows {other : String} {wanted : ColumnFamily}
    (found : schema.family name = .ok family) (otherFound : schema.family other = .ok wanted)
    (rows : Table Bytes Row) :
    (store.withRows family rows).rowsOf wanted =
      if name = other then rows else store.rowsOf wanted := by
  simp only [rowsOf, withRows, Table.get?_put]
  -- Rows are kept by the names of keyspace and column family.
  by_cases same : name = other
  · subst same
    rw [found] at otherFound
    cases otherFound
    simp
  · have apart : (family.keyspace, family.name) ≠ (wanted.keyspace, wanted.name) := by
      rw [name_of_family found, name_of_family otherFound]
      simp [same]
    rw [if_neg apart, if_neg same]

/-- Other rows in one column family, and the records that these rows have. -/
theorem Refines.withRows {rows : Table Bytes Row} {changed : FlatMap}
    (refines : Refines schema store flat) (found : schema.family name = .ok family)
    (fit : RowsFit family.isSuper rows)
    (here : ∀ place : Place, place.family = name →
      recordIn rows place.key place.superColumn place.column = changed place)
    (elsewhere : ∀ place : Place, place.family ≠ name → changed place = flat place) :
    Refines schema (store.withRows family rows) changed where
  family := refines.family
  fit other wanted otherFound := by
    rw [rowsOf_withRows found otherFound]
    split
    · rename_i same
      rw [← same, found] at otherFound
      cases otherFound
      exact fit
    · exact refines.fit other wanted otherFound
  records place wanted otherFound := by
    rw [rowsOf_withRows found otherFound]
    split
    · rename_i same
      exact here place same.symm
    · rename_i differ
      rw [elsewhere place (Ne.symm differ)]
      exact refines.records place wanted otherFound

/-- The shape of a well-placed location is accepted. -/
theorem checkShape_ok {location : Location} (placed : Write.WellPlaced family location) :
    checkShape family location = .ok () := by
  unfold checkShape
  cases super : family.isSuper with
  | false => simp [placed.2 super]
  | true =>
    have given := placed.1 super
    -- Only a column without a super column would be refused.
    cases column : location.column <;> cases superColumn : location.superColumn <;> simp_all

/-- Only the shape of a well-placed location is accepted. -/
theorem wellPlaced_of_checkShape {location : Location}
    (accepted : checkShape family location = .ok ()) : Write.WellPlaced family location := by
  unfold checkShape at accepted
  split at accepted
  · cases accepted
  · rename_i named
    split at accepted
    · cases accepted
    · rename_i plain
      constructor
      · intro super given
        simpa [super, given, Option.isSome_iff_ne_none] using named
      · intro standard
        simpa [standard] using plain

/-- With a column, a well-placed location has a super column just in a super column family. -/
theorem isSome_superColumn {location : Location} (placed : Write.WellPlaced family location)
    (given : location.column.isSome) : location.superColumn.isSome = family.isSuper := by
  cases super : family.isSuper with
  | false => rw [placed.2 super]; rfl
  | true => exact placed.1 super given

/-- Whether a location is a place, part by part. -/
theorem eq_location {location : Location} {column : Bytes} {place : Place}
    (given : location.column = some column) (same : place.family = location.family) :
    location = place.location ↔
      location.key = place.key ∧ location.superColumn = place.superColumn ∧
        column = place.column := by
  obtain ⟨family, key, superColumn, named⟩ := location
  subst given same
  simp [Place.location]

/-- A record more in the rows is a record more in the flat map. -/
theorem Refines.withRecord {location : Location} {column : Bytes}
    (refines : Refines schema store flat) (found : schema.family location.family = .ok family)
    (placed : Write.WellPlaced family location) (given : location.column = some column)
    (record : Record) :
    ∃ rows, Store.withRecord (store.rowsOf family) location column record = .ok rows ∧
      Refines schema (store.withRows family rows) fun place =>
        if location = place.location then some record else flat place := by
  have formed := isSome_superColumn placed (given ▸ rfl)
  obtain ⟨rows, put, fit, records⟩ :=
    withRecord_ok (refines.fit _ _ found) formed column record
  refine ⟨rows, put, refines.withRows found fit ?_ ?_⟩
  · intro place same
    rw [records]
    simp only [eq_location given same]
    split
    · rfl
    · exact refines.records place family (same ▸ found)
  · intro place differ
    rw [if_neg]
    rintro rfl
    exact differ rfl

theorem insert_refines {now : Int} {location : Location} {data : Bytes} {ttl : Option Int}
    (refines : Refines schema store flat)
    (formed : Write.WellFormed schema (.insert now location data ttl)) :
    (insertColumn now location data ttl store).1 =
        (Write.step schema (.insert now location data ttl) flat).1 ∧
      Refines schema (insertColumn now location data ttl store).2
        (Write.step schema (.insert now location data ttl) flat).2 := by
  simp only [insertColumn, Call.bind_apply, Call.lift_apply, Write.step, Write.verdict]
  -- Both sides make the same checks in the same order, so they refuse with the same failure.
  cases named : requireColumnName location.column with
  | error failure => exact ⟨rfl, refines⟩
  | ok column =>
    cases requirePositive ttl with
    | error failure => exact ⟨rfl, refines⟩
    | ok positive =>
      simp only [changeRows_apply, refines.family]
      cases found : schema.family location.family with
      | error failure => exact ⟨rfl, refines⟩
      | ok family =>
        cases counter : holdsCounter family column with
        | true =>
          simp only [bind, Except.bind, counter, if_true]
          exact ⟨rfl, refines⟩
        | false =>
          have placed := formed family found
          obtain ⟨rows, put, after⟩ :=
            refines.withRecord found placed (requireColumnName_ok named) (.value data now ttl)
          simp only [counter, Bool.false_eq_true, if_false, checkShape_ok placed, bind, Except.bind,
            put]
          exact ⟨rfl, after⟩

theorem add_refines {location : Location} {delta : Int} (refines : Refines schema store flat)
    (formed : Write.WellFormed schema (.add location delta)) :
    (addToCounter location delta store).1 = (Write.step schema (.add location delta) flat).1 ∧
      Refines schema (addToCounter location delta store).2
        (Write.step schema (.add location delta) flat).2 := by
  simp only [addToCounter, Call.bind_apply, Call.lift_apply, Write.step, Write.verdict]
  cases named : requireColumnName location.column with
  | error failure => exact ⟨rfl, refines⟩
  | ok column =>
    simp only [changeRows_apply, refines.family]
    cases found : schema.family location.family with
    | error failure => exact ⟨rfl, refines⟩
    | ok family =>
      cases counter : holdsCounter family column with
      | false =>
        simp only [bind, Except.bind, counter, Bool.false_eq_true, if_false]
        exact ⟨rfl, refines⟩
      | true =>
        have placed := formed family found
        have given := requireColumnName_ok named
        have total := totalAt_ok (refines.fit _ _ found)
          (isSome_superColumn placed (given ▸ rfl)) column
        obtain ⟨rows, put, after⟩ := refines.withRecord found placed given
          (.counter (totalOf (recordIn (store.rowsOf family) location.key location.superColumn
            column) + delta))
        simp only [bind, Except.bind, counter, if_true, checkShape_ok placed, total, put]
        refine ⟨rfl, ?_⟩
        -- At its own place the call finds the record of the flat map.
        have same : (fun place : Place => if location = place.location then
            some (Record.counter (totalOf (recordIn (store.rowsOf family) location.key
              location.superColumn column) + delta)) else flat place) =
            (Write.add location delta).effect flat := by
          funext place
          by_cases here : location = place.location
          · subst here
            cases given
            simp only [Write.effect, Write.Touches, Write.binding, if_true]
            rw [← refines.records place family found]
            rfl
          · simp [Write.effect, Write.Touches, here]
        rw [same] at after
        exact after

theorem remove_refines {location : Location} (refines : Refines schema store flat)
    (formed : Write.WellFormed schema (.remove location)) :
    (removeColumn location store).1 = (Write.step schema (.remove location) flat).1 ∧
      Refines schema (removeColumn location store).2
        (Write.step schema (.remove location) flat).2 := by
  simp only [removeColumn, changeRows_apply, refines.family, Write.step, Write.verdict]
  cases found : schema.family location.family with
  | error failure => exact ⟨rfl, refines⟩
  | ok family =>
    have placed := formed family found
    have outer : location.superColumn.isSome → family.isSuper = true := by
      intro given
      cases super : family.isSuper with
      | false => simp [placed.2 super] at given
      | true => rfl
    obtain ⟨rows, removed, fit, records⟩ :=
      without_ok (refines.fit _ _ found) outer (isSome_superColumn placed)
    -- The shape is checked only if there is a column, and then it is right.
    have checked : (do
        if location.column.isSome = true then checkShape family location
        without (store.rowsOf family) location) = .ok rows := by
      cases location.column.isSome <;>
        simp [checkShape_ok placed, removed, bind, Except.bind]
    have after : Refines schema (store.withRows family rows)
        ((Write.remove location).effect flat) := by
      apply refines.withRows found fit
      · intro place same
        rw [records, Write.effect]
        simp only [Write.Touches, same, true_and]
        split
        · rfl
        · exact refines.records place family (same ▸ found)
      · intro place differ
        rw [Write.effect, if_neg]
        rintro ⟨same, -⟩
        exact differ same.symm
    simp only [checked]
    exact ⟨rfl, after⟩

theorem truncate_refines {name : String} (refines : Refines schema store flat) :
    (truncate name store).1 = (Write.step schema (.truncate name) flat).1 ∧
      Refines schema (truncate name store).2 (Write.step schema (.truncate name) flat).2 := by
  simp only [truncate, changeRows_apply, refines.family, Write.step, Write.verdict]
  cases found : schema.family name with
  | error failure => exact ⟨rfl, refines⟩
  | ok family =>
    have after : Refines schema (store.withRows family .empty)
        ((Write.truncate name).effect flat) := by
      apply refines.withRows found rowsFit_empty
      · intro place same
        have touched : Write.Touches (.truncate name) place := same.symm
        rw [recordIn_empty, Write.effect, if_pos touched]
        rfl
      · intro place differ
        rw [Write.effect, if_neg]
        exact fun same => differ same.symm
    exact ⟨rfl, after⟩

/-- A call on the store is the same call on the flat map. -/
theorem step_refines {call : Write} (refines : Refines schema store flat)
    (formed : call.WellFormed schema) :
    (call.perform store).1 = (call.step schema flat).1 ∧
      Refines schema (call.perform store).2 (call.step schema flat).2 := by
  cases call with
  | insert now location data ttl => exact insert_refines refines formed
  | add location delta => exact add_refines refines formed
  | remove location => exact remove_refines refines formed
  | truncate name => exact truncate_refines refines

/-- A run of calls on the store is the same run on the flat map. -/
theorem runAll_refines {calls : List Write} (refines : Refines schema store flat)
    (formed : ∀ call ∈ calls, call.WellFormed schema) :
    (runAll Write.perform calls store).1 = (runAll (Write.step schema) calls flat).1 ∧
      Refines schema (runAll Write.perform calls store).2
        (runAll (Write.step schema) calls flat).2 := by
  -- Each call keeps the relation, which the rest of the run starts from.
  induction calls generalizing store flat with
  | nil => exact ⟨rfl, refines⟩
  | cons call calls ih =>
    obtain ⟨reply, after⟩ := step_refines refines (formed call List.mem_cons_self)
    obtain ⟨replies, last⟩ := ih after fun other mem => formed other (List.mem_cons_of_mem _ mem)
    refine ⟨?_, last⟩
    show (call.perform store).1 :: (runAll Write.perform calls (call.perform store).2).1 =
      (call.step schema flat).1 :: (runAll (Write.step schema) calls (call.step schema flat).2).1
    rw [reply, replies]

/-! ### Answers -/

theorem isLive_eq (now : Int) (record : Record) :
    record.isLive now = decide (FlatMap.Shows now record) := by
  cases record with
  | counter total => rfl
  | value data timestamp ttl => cases ttl <;> rfl

/-- A column is read as a record is shown. -/
theorem bind_readColumn (now : Int) (column : Bytes) (found : Option Record) :
    (found.map Slot.record).bind (readColumn now column) =
      (found.filter fun record => decide (FlatMap.Shows now record)).map fun record =>
        .cell ⟨column, record⟩ := by
  cases found with
  | none => rfl
  | some record =>
    rw [Option.map_some, Option.bind_some, readColumn, isLive_eq]
    by_cases shown : FlatMap.Shows now record <;> simp [shown, Option.filter]

/-- In a row of columns every slot is read as the record in it. -/
theorem bind_record? {row : Row} (fits : row.Fits false) (now : Int) (column : Bytes) :
    (row.get? column).bind (readColumn now column) =
      ((row.recordAt none column).map Slot.record).bind (readColumn now column) := by
  unfold Row.recordAt
  cases slot : row.get? column with
  | none => rfl
  | some found =>
    cases found with
    | record record => rfl
    | group records => exact absurd (fits column _ slot) (by simp [Slot.isGroup])

/-- The answer for a column is its record as it is read. -/
theorem getColumn_ok {key column : Bytes} {superColumn : Option Bytes}
    (found : store.family name = .ok family)
    (fit : RowsFit family.isSuper (store.rowsOf family))
    (formed : superColumn.isSome = family.isSuper) (now : Int) :
    store.getColumn now ⟨name, key, superColumn, some column⟩ =
      .ok (((recordIn (store.rowsOf family) key superColumn column).map Slot.record).bind
        (readColumn now column)) := by
  have placed : Write.WellPlaced family ⟨name, key, superColumn, some column⟩ := by
    constructor
    · intro super given
      exact formed.trans super
    · intro standard
      exact Option.not_isSome_iff_eq_none.1 (by simp [formed, standard])
  have fits := fit key
  simp only [getColumn, found, checkShape_ok placed, bind, Except.bind]
  -- A row that is not there is read like one without records.
  cases slot : (store.rowsOf family).get? key with
  | none =>
    have noRecord : recordIn (store.rowsOf family) key superColumn column = none := by
      simp [recordIn, rowAt, slot]
    rw [noRecord]
    rfl
  | some row =>
    have same : rowAt (store.rowsOf family) key = row := by rw [rowAt, slot]; rfl
    rw [same] at fits
    rw [recordIn, same]
    cases superColumn with
    | none =>
      have standard : family.isSuper = false := formed.symm
      rw [standard] at fits
      exact congrArg Except.ok (bind_record? fits now column)
    | some outer =>
      simp only [Row.record?_ok fits formed]
      rfl

/-- A store answers with what the flat map shows. -/
theorem getColumn_eq {place : Place} (refines : Refines schema store flat)
    (found : schema.family place.family = .ok family)
    (formed : place.superColumn.isSome = family.isSuper) (now : Int) :
    store.getColumn now place.location = .ok (flat.read now place) := by
  have known := (refines.family place.family).trans found
  rw [Place.location, getColumn_ok known (refines.fit _ _ found) formed,
    refines.records place family found, bind_readColumn]
  rfl

/-- A call leaves the places alone that it does not touch. -/
theorem step_of_not_touches {call : Write} {place : Place} (untouched : ¬call.Touches place) :
    (call.step schema flat).2 place = flat place := by
  unfold Write.step
  split
  · exact if_neg untouched
  · rfl

/-! ### Counters -/

/-- Whether all records of counter columns are counters, and no others are. -/
def CountersApart (schema : Store) (flat : FlatMap) : Prop :=
  ∀ place family record, schema.family place.family = .ok family → flat place = some record →
    record.isCounter = holdsCounter family place.column

/-- The kind of record that a call binds a place to is that of its column. -/
theorem isCounter_binding {call : Write} {place : Place} {record : Record}
    (accepted : call.verdict schema = .ok ()) (touched : call.Touches place)
    (bound : call.binding (flat place) = some record)
    (found : schema.family place.family = .ok family) :
    record.isCounter = holdsCounter family place.column := by
  -- Only the two calls that bind matter, and each is accepted for one kind of column only.
  cases call with
  | insert now location data ttl =>
    obtain rfl : location = place.location := touched
    cases bound
    simp only [Write.verdict, Place.location, found, bind, Except.bind] at accepted
    cases named : requireColumnName (some place.column) with
    | error failure => simp [named] at accepted
    | ok column =>
      cases requireColumnName_ok named
      cases counter : holdsCounter family place.column with
      | false => rfl
      | true =>
        cases positive : requirePositive ttl <;> simp [named, positive, counter] at accepted
  | add location delta =>
    obtain rfl : location = place.location := touched
    cases bound
    simp only [Write.verdict, Place.location, found, bind, Except.bind] at accepted
    cases named : requireColumnName (some place.column) with
    | error failure => simp [named] at accepted
    | ok column =>
      cases requireColumnName_ok named
      cases counter : holdsCounter family place.column with
      | true => rfl
      | false => simp [named, counter] at accepted
  | remove location => cases bound
  | truncate name => cases bound

theorem step_countersApart {call : Write} (apart : CountersApart schema flat) :
    CountersApart schema (call.step schema flat).2 := by
  unfold Write.step
  cases verdict : call.verdict schema with
  | error failure => exact apart
  | ok accepted =>
    intro place family record found bound
    simp only [Write.effect] at bound
    split at bound
    · rename_i touched
      exact isCounter_binding verdict touched bound found
    · exact apart place family record found bound

theorem runAll_countersApart (calls : List Write) (apart : CountersApart schema flat) :
    CountersApart schema (runAll (Write.step schema) calls flat).2 := by
  induction calls generalizing flat with
  | nil => exact apart
  | cons call calls ih => exact ih (step_countersApart apart)

/-! ### Runs from an empty store -/

/-- Whether no column family of the selected keyspace has rows. -/
def IsFresh (store : Store) : Prop :=
  ∀ name family, store.family name = .ok family → store.rowsOf family = .empty

theorem refines_empty (fresh : store.IsFresh) : Refines store store FlatMap.empty where
  family _ := rfl
  fit name family found := by
    rw [fresh name family found]
    exact rowsFit_empty
  records place family found := by
    rw [fresh _ family found]
    exact recordIn_empty _ _ _

end Simulation

/-- Calls on rows that start from none are calls on a flat map: they get the same replies, and
afterwards each place is answered with its record if that is shown at the time. A place has a
counter just if its column is for counters, and no further call changes the answer for a place that
it does not touch. -/
theorem runAll_flat {start : Store} (fresh : start.IsFresh) {calls : List Write}
    (formed : ∀ call ∈ calls, call.WellFormed start) :
    let (replies, after) := runAll Write.perform calls start
    let (flatReplies, flat) := runAll (Write.step start) calls FlatMap.empty
    replies = flatReplies ∧
      ∀ (place : Place) (family : ColumnFamily), start.family place.family = .ok family →
        place.superColumn.isSome = family.isSuper →
        (∀ now, after.getColumn now place.location = .ok (flat.read now place)) ∧
        (∀ record, flat place = some record →
          record.isCounter = holdsCounter family place.column) ∧
        ∀ call : Write, call.WellFormed start → ¬call.Touches place → ∀ now,
          (call.perform after).2.getColumn now place.location =
            after.getColumn now place.location := by
  obtain ⟨replies, refines⟩ := runAll_refines (refines_empty fresh) formed
  refine ⟨replies, fun place family found shape => ⟨?_, ?_, ?_⟩⟩
  · exact getColumn_eq refines found shape
  · intro record bound
    have apart : CountersApart start FlatMap.empty := by
      intro place family record found bound
      cases bound
    exact runAll_countersApart calls apart place family record found bound
  -- One more call keeps the relation too, and leaves the flat map alone at this place.
  · intro call placed untouched now
    have next := (step_refines refines placed).2
    rw [getColumn_eq next found shape, getColumn_eq refines found shape, FlatMap.read,
      FlatMap.read, step_of_not_touches untouched]

/-- A value in a super column is seen up to the end of its time to live. -/
theorem runAll_flat_insert :
    let family : ColumnFamily := { keyspace := "k", name := "s", columnType := "Super" }
    let start : Store :=
      { connection := .opened (some "k"), keyspaces := [{ name := "k", families := [family] }] }
    let calls := [Write.insert 5 ⟨"s", [1], some [2], some [3]⟩ [9] (some 1)]
    let (replies, after) := runAll Write.perform calls start
    replies = [.ok ()] ∧
      after.getColumn 1000004 ⟨"s", [1], some [2], some [3]⟩ =
        .ok (some (.cell ⟨[3], .value [9] 5 (some 1)⟩)) ∧
      after.getColumn 1000005 ⟨"s", [1], some [2], some [3]⟩ = .ok none := by
  intro family start calls
  have known : start.family "s" = .ok family := by rfl
  have fresh : start.IsFresh := fun name family found => rfl
  have formed : ∀ call ∈ calls, call.WellFormed start := by
    intro call mem
    obtain rfl := List.mem_singleton.1 mem
    intro other found
    cases known.symm.trans found
    exact ⟨fun super given => rfl, by decide⟩
  obtain ⟨replies, answers⟩ := runAll_flat fresh formed
  obtain ⟨answer, -⟩ := answers ⟨"s", [1], some [2], [3]⟩ family known rfl
  exact ⟨replies.trans rfl, (answer 1000004).trans rfl, (answer 1000005).trans rfl⟩

end WideColumn.Store
