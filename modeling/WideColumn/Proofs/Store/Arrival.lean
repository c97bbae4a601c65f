import WideColumn.Proofs.Store.Arranged
import WideColumn.Proofs.Store.Counters
import WideColumn.Proofs.Store.Readback

/-!
# The order of writing

Columns that are written at different places can be written in any order: no read tells the
difference, unless two of the places are the same for a validator (`Store.reads_of_perm`). What
carries this is that one write commutes with another in the arranged rows
(`Put.arranged_onRows_comm`).
-/

namespace WideColumn.Store

variable {family : ColumnFamily}

/-! ### Writing one column -/

/-- A column that is written: where it is, and what its record becomes. -/
structure Put where
  key : Bytes
  superColumn : Option Bytes
  column : Bytes
  change : Option Record → Record

namespace Put

/-- The name in the row. -/
def name (put : Put) : Bytes :=
  put.superColumn.getD put.column

/-- What the row has under the name afterwards. A column that is there in place of the super column
stays, as the call is then refused. -/
def onSlot (put : Put) (before : Option Slot) : Slot :=
  match put.superColumn, before with
  | none, before => .record (put.change (before.bind Slot.record?))
  | some _, some (.record found) => .record found
  | some _, some (.group records) => .group (records.update put.column put.change)
  | some _, none => .group (Table.empty.update put.column put.change)

/-- The row afterwards. -/
def onRow (put : Put) (before : Option Row) : Row :=
  Table.update (before.getD .empty) put.name put.onSlot

/-- The rows afterwards. -/
def onRows (put : Put) (rows : Table Bytes Row) : Table Bytes Row :=
  rows.update put.key put.onRow

/-- Whether two columns are written at places that the validators of a column family tell apart. -/
def Apart (family : ColumnFamily) (first second : Put) : Prop :=
  Order.tied (validatorOf family.keyValidationClass).precedes first.key second.key = false ∨
    first.key = second.key ∧
      (Order.tied (validatorOf family.comparatorType).precedes first.name second.name = false ∨
        first.name = second.name ∧ first.superColumn.isSome ∧ second.superColumn.isSome ∧
          Order.tied (validatorOf family.subcomparatorType).precedes first.column second.column =
            false)

variable {first second : Put} {rows other : Table Bytes Row}

theorem arranged_onSlot_congr (put : Put) {before held : Option Slot}
    (same : before.map (Slot.arranged family) = held.map (Slot.arranged family)) :
    (put.onSlot before).arranged family = (put.onSlot held).arranged family := by
  obtain ⟨key, superColumn, column, change⟩ := put
  have record : before.bind Slot.record? = held.bind Slot.record? := by
    have seen := congrArg (Option.bind · Slot.record?) same
    simpa [Option.bind_map, Function.comp_def] using seen
  cases superColumn with
  | none =>
    show Slot.record (change (before.bind Slot.record?)) = Slot.record _
    rw [record]
  | some outer =>
    rcases before with _ | ⟨found | records⟩ <;> rcases held with _ | ⟨stored | others⟩ <;>
      try cases same
    · rfl
    · rfl
    · have groups := Slot.group.inj (Option.some.inj same)
      refine congrArg Slot.group (Table.arranged_update_congr groups fun alike => ?_)
      rw [Option.map_id, id, id] at alike
      rw [alike]

theorem arranged_onRow_congr (put : Put) {before held : Option Row}
    (same : before.map (Row.arranged family) = held.map (Row.arranged family)) :
    (put.onRow before).arranged family = (put.onRow held).arranged family := by
  have rows : (before.getD .empty).arranged family = (held.getD .empty).arranged family := by
    cases before <;> cases held
    · rfl
    · cases same
    · cases same
    · exact Option.some.inj same
  exact Table.arranged_update_congr rows put.arranged_onSlot_congr

/-- Rows that are arranged alike stay so when a column is written. -/
theorem arranged_onRows_congr (put : Put)
    (same : arranged family rows = arranged family other) :
    arranged family (put.onRows rows) = arranged family (put.onRows other) :=
  Table.arranged_update_congr same put.arranged_onRow_congr

theorem arranged_onSlot_comm (super : first.superColumn.isSome) (sameSuper : second.superColumn.isSome)
    (apart : Order.tied (validatorOf family.subcomparatorType).precedes first.column second.column =
      false) (before : Option Slot) :
    (second.onSlot (some (first.onSlot before))).arranged family =
      (first.onSlot (some (second.onSlot before))).arranged family := by
  obtain ⟨key, _ | outer, column, change⟩ := first
  · cases super
  obtain ⟨otherKey, _ | otherOuter, otherColumn, otherChange⟩ := second
  · cases sameSuper
  rcases before with _ | ⟨found | records⟩
  · exact congrArg Slot.group (Table.arranged_update_comm apart)
  · rfl
  · exact congrArg Slot.group (Table.arranged_update_comm apart)

/-- Two columns at places apart may be written in either order. -/
theorem arranged_onRows_comm (apart : Apart family first second) (rows : Table Bytes Row) :
    arranged family (second.onRows (first.onRows rows)) =
      arranged family (first.onRows (second.onRows rows)) := by
  rcases apart with keys | ⟨sameKey, names⟩
  · exact Table.arranged_update_comm keys
  · unfold onRows
    rw [sameKey]
    refine Table.arranged_update_update fun before => ?_
    rcases names with names | ⟨sameName, super, otherSuper, columns⟩
    · exact Table.arranged_update_comm names
    · unfold onRow
      rw [sameName]
      exact Table.arranged_update_update (arranged_onSlot_comm super otherSuper columns)

end Put

/-! ### Calls that write a column -/

/-- The place of the column that a call sets or counts on. -/
def Write.address? : Write → Option Location
  | insert _ location _ _ | add location _ => some location
  | remove _ | truncate _ => none

/-- The column that is written at a location of a column family, if the definition and what the call
asks for let it through. -/
def putAt (family : ColumnFamily) (location : Location) (asked : Prop) [Decidable asked]
    (counts : Bool) (change : Option Record → Record) : Option Put :=
  match requireColumnName location.column with
  | .ok column =>
    if asked ∧ location.family = family.name ∧ holdsCounter family column = counts ∧
        checkShape family location = .ok () then
      some ⟨location.key, location.superColumn, column, change⟩
    else none
  | .error _ => none

/-- What a call writes in a column family. -/
def Write.put? (family : ColumnFamily) : Write → Option Put
  | insert now location data ttl =>
    putAt family location (requirePositive ttl = .ok ()) false fun _ => .value data now ttl
  | add location delta =>
    putAt family location True true fun before => .counter (totalOf before + delta)
  | remove _ | truncate _ => none

/-- The rows of a column family after a call that writes a column. -/
def Write.onRows (family : ColumnFamily) (rows : Table Bytes Row) (call : Write) :
    Table Bytes Row :=
  ((call.put? family).map fun put => put.onRows rows).getD rows

section Rows

variable {rows : Table Bytes Row} {put : Put}

theorem onRows_of_slot {before : Option Slot} {name : Bytes} (named : put.name = name)
    (found : (rowAt rows put.key).get? name = before) : put.onRows rows =
      rows.put put.key (Table.put (rowAt rows put.key) name (put.onSlot before)) := by
  subst named found
  rfl

/-- Where a column is in place of a super column, writing there would change nothing. -/
theorem onRows_of_misplaced {outer : Bytes} {found : Record} (super : put.superColumn = some outer)
    (misplaced : (rowAt rows put.key).get? outer = some (.record found)) :
    put.onRows rows = rows := by
  obtain ⟨key, _, column, change⟩ := put
  obtain rfl : _ = some outer := super
  have filed : rows.get? key = some (rowAt rows key) := by
    cases filed : rows.get? key with
    | none =>
      rw [rowAt, filed] at misplaced
      cases misplaced
    | some row => rw [rowAt, filed, Option.getD_some]
  rw [onRows_of_slot rfl misplaced]
  show rows.put key (Table.put (rowAt rows key) outer (.record found)) = rows
  rw [Table.put_self misplaced]
  exact Table.put_self filed

/-- Under a name there is no column, but perhaps a super column, or there is one. -/
theorem Slot.group_or_record (slot : Option Slot) :
    (∃ group : Option (Table Bytes Record), slot = group.map Slot.group) ∨
      ∃ held, slot = some (.record held) := by
  rcases slot with _ | ⟨held | records⟩
  · exact .inl ⟨none, rfl⟩
  · exact .inr ⟨held, rfl⟩
  · exact .inl ⟨some records, rfl⟩

theorem Row.group?_of_get? {row : Row} {name : Bytes} {group : Option (Table Bytes Record)}
    (found : row.get? name = group.map Slot.group) (use : SuperColumnUse) :
    row.group? name use = .ok group := by
  rw [Row.group?, found]
  cases group <;> rfl

/-- Either a counter is read and a record is written at a location, or both are refused. -/
theorem written_or_refused (rows : Table Bytes Row) (location : Location) (column : Bytes)
    (change : Option Record → Record) :
    let put : Put := ⟨location.key, location.superColumn, column, change⟩
    let before := recordIn rows location.key location.superColumn column
    (totalAt rows location column = .ok (totalOf before) ∧
        withRecord rows location column (change before) = .ok (put.onRows rows)) ∨
      (∃ failure, totalAt rows location column = .error failure) ∧
        (∀ record, ∃ failure, withRecord rows location column record = .error failure) ∧
          put.onRows rows = rows := by
  obtain ⟨name, key, superColumn, _⟩ := location
  dsimp only
  cases superColumn with
  | none => exact .inl ⟨totalAt_of_record? rfl, rfl⟩
  | some outer =>
    rcases Slot.group_or_record ((rowAt rows key).get? outer) with ⟨group, found⟩ | ⟨held, found⟩
    · have before : recordIn rows key (some outer) column =
          group.bind fun records => records.get? column := by
        cases group <;> simp [recordIn, Row.recordAt, found, Slot.group?]
      refine .inl ⟨totalAt_of_record? ?_, ?_⟩
      · simp only [Row.record?, Row.group?_of_get? found, before]
        rfl
      · rw [onRows_of_slot rfl found]
        simp only [withRecord, Row.put, Row.group?_of_get? found, before]
        cases group <;> rfl
    · refine .inr ⟨⟨.shape (.columnFound held.isCounter .readOne), ?_⟩,
        fun record => ⟨.shape (.columnFound held.isCounter .write), ?_⟩,
        onRows_of_misplaced rfl found⟩
      · simp only [totalAt, Row.record?, Row.group?, found]
        rfl
      · simp only [withRecord, Row.put, Row.group?, found]
        rfl

end Rows

/-! ### Runs -/

section Runs

variable {store : Store} {call : Write} {location : Location}

theorem rowsOf_changeRows (found : store.family family.name = .ok family) (name : String)
    (change : ColumnFamily → Table Bytes Row → Except Failure (Table Bytes Row)) :
    (changeRows name change store).2.rowsOf family =
      if name = family.name then
        (change family (store.rowsOf family)).toOption.getD (store.rowsOf family)
      else store.rowsOf family := by
  rw [changeRows_apply]
  by_cases same : name = family.name
  · subst same
    rw [found, if_pos rfl]
    dsimp only
    cases change family (store.rowsOf family) with
    | error failure => rfl
    | ok rows => exact rowsOf_withRows_self family rows
  · rw [if_neg same]
    cases other : store.family name with
    | error failure => rfl
    | ok elsewhere =>
      dsimp only
      cases change elsewhere (store.rowsOf elsewhere) with
      | error failure => rfl
      | ok rows => exact (rowsOf_withRows other found rows).trans (if_neg same)

/-- A change of rows that makes the checks of a call, and then writes or is refused, does what the call
is said to write. -/
theorem rowsOf_putAt {asked : Prop} [Decidable asked] {counts : Bool} {column : Bytes}
    {effect : Option Record → Record}
    {change : ColumnFamily → Table Bytes Row → Except Failure (Table Bytes Row)}
    (refusal : Failure) (write : Except Failure (Table Bytes Row))
    (found : store.family family.name = .ok family)
    (named : requireColumnName location.column = .ok column) (asks : asked)
    (checks : change family (store.rowsOf family) =
      if holdsCounter family column = counts then checkShape family location >>= fun _ => write
      else .error refusal)
    (writes : write.toOption.getD (store.rowsOf family) =
      Put.onRows ⟨location.key, location.superColumn, column, effect⟩ (store.rowsOf family)) :
    (changeRows location.family change store).2.rowsOf family =
      ((putAt family location asked counts effect).map fun put =>
        put.onRows (store.rowsOf family)).getD (store.rowsOf family) := by
  rw [rowsOf_changeRows found, checks, putAt, named]
  dsimp only
  by_cases here : location.family = family.name
  · by_cases kind : holdsCounter family column = counts
    · cases shape : checkShape family location with
      | error failure =>
        rw [if_pos here, if_pos kind, if_neg nofun]
        rfl
      | ok _ =>
        rw [if_pos here, if_pos kind, if_pos ⟨asks, here, kind, rfl⟩]
        exact writes
    · rw [if_pos here, if_neg kind, if_neg fun all => kind all.2.2.1]
      rfl
  · rw [if_neg here, if_neg fun all => here all.2.1]
    rfl

/-- What a call that writes a column does to the rows of a column family. -/
theorem Write.rowsOf_perform (found : store.family family.name = .ok family)
    (writes : call.address?.isSome) :
    (call.perform store).2.rowsOf family = call.onRows family (store.rowsOf family) := by
  cases call with
  | remove location => cases writes
  | truncate name => cases writes
  | insert now location data ttl =>
    simp only [Write.perform, insertColumn, Call.bind_apply, Call.lift_apply, Write.onRows,
      Write.put?]
    cases named : requireColumnName location.column with
    | error failure =>
      rw [putAt, named]
      rfl
    | ok column =>
      cases positive : requirePositive ttl with
      | error failure =>
        rw [putAt, named]
        rfl
      | ok _ =>
        refine rowsOf_putAt (.store (.counterFamily family.name))
          (withRecord (store.rowsOf family) location column (.value data now ttl))
          found named rfl ?_ ?_
        · cases holdsCounter family column <;> rfl
        · rcases written_or_refused (store.rowsOf family) location column
            (fun _ => .value data now ttl) with ⟨-, written⟩ | ⟨-, refused, same⟩
          · rw [written]
            rfl
          · obtain ⟨failure, refused⟩ := refused (.value data now ttl)
            rw [refused]
            exact same.symm
  | add location delta =>
    simp only [Write.perform, addToCounter, Call.bind_apply, Call.lift_apply, Write.onRows,
      Write.put?]
    cases named : requireColumnName location.column with
    | error failure =>
      rw [putAt, named]
      rfl
    | ok column =>
      refine rowsOf_putAt (.store (.notACounterFamily family.name))
        (do let total ← totalAt (store.rowsOf family) location column
            withRecord (store.rowsOf family) location column (.counter (total + delta)))
        found named trivial ?_ ?_
      · cases holdsCounter family column <;> rfl
      · rcases written_or_refused (store.rowsOf family) location column
          (fun before => .counter (totalOf before + delta)) with
          ⟨counted, written⟩ | ⟨⟨failure, refused⟩, -, same⟩
        · rw [counted]
          exact congrArg (fun rows => rows.toOption.getD (store.rowsOf family)) written
        · rw [refused]
          exact same.symm

/-- A call on rows changes no definition. -/
theorem Write.family_perform (call : Write) (store : Store) (name : String) :
    (call.perform store).2.family name = store.family name := by
  refine call.isolated.same (fun store => store.family name) fun done after run => ?_
  obtain ⟨_, _, -, rfl⟩ := Write.perform_ok run
  rfl

theorem family_runAll (calls : List Write) (store : Store) (name : String) :
    (runAll Write.perform calls store).2.family name = store.family name := by
  induction calls generalizing store with
  | nil => rfl
  | cons call calls ih => exact (ih _).trans (call.family_perform store name)

/-- The rows of a column family after a run change call by call. -/
theorem rowsOf_runAll {calls : List Write} (found : store.family family.name = .ok family)
    (writes : ∀ call ∈ calls, call.address?.isSome) :
    (runAll Write.perform calls store).2.rowsOf family =
      calls.foldl (Write.onRows family) (store.rowsOf family) := by
  induction calls generalizing store with
  | nil => rfl
  | cons call calls ih =>
    rw [List.foldl_cons, ← Write.rowsOf_perform found (writes call List.mem_cons_self)]
    exact ih ((call.family_perform store _).trans found) fun later mem =>
      writes later (List.mem_cons_of_mem call mem)

end Runs

/-! ### Places apart -/

/-- The name that a location has in its row. -/
def nameInRow (location : Location) : Bytes :=
  location.superColumn.getD (location.column.getD [])

/-- Whether two locations of a column family differ but are at one place for its validators, which
they are only if they name one integer in two ways. -/
def Tied (family : ColumnFamily) (first second : Location) : Prop :=
  first.family = family.name ∧ second.family = family.name ∧
    first.superColumn.isSome = second.superColumn.isSome ∧
      ((validatorOf family.keyValidationClass).Ties first.key second.key ∨
        first.key = second.key ∧
          ((validatorOf family.comparatorType).Ties (nameInRow first) (nameInRow second) ∨
            first.superColumn.isSome ∧ first.superColumn = second.superColumn ∧
              (validatorOf family.subcomparatorType).Ties (first.column.getD [])
                (second.column.getD [])))

instance (family : ColumnFamily) (first second : Location) :
    Decidable (Tied family first second) :=
  inferInstanceAs (Decidable (_ ∧ _ ∧ _ ∧ _))

/-- The place of a column that is written. -/
def Put.location (family : ColumnFamily) (put : Put) : Location :=
  ⟨family.name, put.key, put.superColumn, some put.column⟩

theorem putAt_eq_some {location : Location} {asked : Prop} [Decidable asked] {counts : Bool}
    {change : Option Record → Record} {put : Put}
    (writes : putAt family location asked counts change = some put) :
    location = put.location family ∧ put.superColumn.isSome = family.isSuper := by
  unfold putAt at writes
  split at writes
  · rename_i column named
    split at writes
    · rename_i checks
      obtain ⟨-, here, -, shape⟩ := checks
      cases writes
      have given := requireColumnName_ok named
      refine ⟨?_, formed_of_checkShape given shape⟩
      obtain ⟨name, key, superColumn, _⟩ := location
      cases given
      cases here
      rfl
    · cases writes
  · cases writes

theorem Write.address?_of_put? {call : Write} {put : Put} (writes : call.put? family = some put) :
    call.address? = some (put.location family) ∧ put.superColumn.isSome = family.isSuper := by
  cases call with
  | insert now location data ttl =>
    obtain ⟨place, shape⟩ := putAt_eq_some writes
    exact ⟨congrArg some place, shape⟩
  | add location delta =>
    obtain ⟨place, shape⟩ := putAt_eq_some writes
    exact ⟨congrArg some place, shape⟩
  | remove location => cases writes
  | truncate name => cases writes

/-- Different places that do not tie are told apart. -/
theorem Put.apart_of_untied {first second : Put}
    (differ : first.location family ≠ second.location family)
    (shape : first.superColumn.isSome = second.superColumn.isSome)
    (untied : ¬Tied family (first.location family) (second.location family)) :
    first.Apart family second := by
  have within := fun tie => untied ⟨rfl, rfl, shape, tie⟩
  by_cases sameKey : first.key = second.key
  · refine .inr ⟨sameKey, ?_⟩
    by_cases sameName : first.name = second.name
    · obtain ⟨key, _ | outer, column, change⟩ := first <;>
        obtain ⟨otherKey, _ | otherOuter, otherColumn, otherChange⟩ := second
      · cases sameKey
        cases sameName
        exact absurd rfl differ
      · cases shape
      · cases shape
      · cases sameKey
        cases sameName
        have columns : column ≠ otherColumn := fun same => differ (same ▸ rfl)
        exact .inr ⟨rfl, rfl, rfl, Validator.tied_precedes_eq_false columns fun ties =>
          within (.inr ⟨rfl, .inr ⟨rfl, rfl, ties⟩⟩)⟩
    · exact .inl (Validator.tied_precedes_eq_false sameName fun ties =>
        within (.inr ⟨sameKey, .inl ties⟩))
  · exact .inl (Validator.tied_precedes_eq_false sameKey fun ties => within (.inl ties))

/-! ### Any order -/

/-- Steps that are blind to what is not seen, and of which any two can be swapped, can be taken in
any order. -/
theorem view_foldl_of_perm {α β γ : Type} {view : β → γ} {step : β → α → β}
    (alike : ∀ {before other} item, view before = view other →
      view (step before item) = view (step other item))
    {items others : List α} (perm : items.Perm others)
    (swap : ∀ first ∈ items, ∀ second ∈ items, ∀ before,
      view (step (step before first) second) = view (step (step before second) first))
    {before other : β} (same : view before = view other) :
    view (items.foldl step before) = view (others.foldl step other) := by
  have run (items : List α) {before other : β} (same : view before = view other) :
      view (items.foldl step before) = view (items.foldl step other) := by
    induction items generalizing before other with
    | nil => exact same
    | cons item rest ih => exact ih (alike item same)
  induction perm generalizing before other with
  | nil => exact same
  | cons item _ ih =>
    refine ih (fun first mem second later => ?_) (alike item same)
    exact swap first (List.mem_cons_of_mem item mem) second (List.mem_cons_of_mem item later)
  | swap first second rest =>
    have swapped := swap second List.mem_cons_self first
      (List.mem_cons_of_mem second List.mem_cons_self) before
    exact run rest (swapped.trans (alike second (alike first same)))
  | trans one two ihOne ihTwo =>
    refine (ihOne swap rfl).trans (ihTwo (fun first mem second later => ?_) same)
    exact swap first (one.mem_iff.2 mem) second (one.mem_iff.2 later)

theorem Write.arranged_onRows_congr (call : Write) {rows other : Table Bytes Row}
    (same : arranged family rows = arranged family other) :
    arranged family (call.onRows family rows) = arranged family (call.onRows family other) := by
  unfold Write.onRows
  cases call.put? family with
  | none => exact same
  | some put => exact put.arranged_onRows_congr same

/-- Two calls at different places that do not tie may be made in either order. -/
theorem Write.arranged_onRows_comm {first second : Write} (differ : first.address? ≠ second.address?)
    (untied : ∀ place ∈ first.address?, ∀ other ∈ second.address?, ¬Tied family place other)
    (rows : Table Bytes Row) :
    arranged family (second.onRows family (first.onRows family rows)) =
      arranged family (first.onRows family (second.onRows family rows)) := by
  unfold Write.onRows
  cases one : first.put? family with
  | none => rfl
  | some put =>
    cases two : second.put? family with
    | none => rfl
    | some other =>
      obtain ⟨place, shape⟩ := Write.address?_of_put? one
      obtain ⟨otherPlace, otherShape⟩ := Write.address?_of_put? two
      refine Put.arranged_onRows_comm (Put.apart_of_untied ?_ (shape.trans otherShape.symm) ?_) rows
      · exact fun same => differ (place.trans ((congrArg some same).trans otherPlace.symm))
      · exact untied _ place _ otherPlace

/-- Calls that set columns or count on them, at different places of which no two tie in a column
family, can be made in any order: whatever is read of the column family afterwards is the same. -/
theorem reads_of_perm {store : Store} {calls others : List Write} {name : String}
    (perm : others.Perm calls) (writes : ∀ call ∈ calls, call.address?.isSome)
    (distinct : (calls.map Write.address?).Nodup)
    (untied : ∀ family, store.family name = .ok family →
      ∀ first ∈ calls.filterMap Write.address?, ∀ second ∈ calls.filterMap Write.address?,
        ¬Tied family first second) :
    let after := (runAll Write.perform calls store).2
    let other := (runAll Write.perform others store).2
    (∀ now key superColumn count,
        other.getRow now name key superColumn count = after.getRow now name key superColumn count) ∧
      (∀ now start stop count,
        other.getSlice now name start stop count = after.getSlice now name start stop count) ∧
      ∀ now expressions count, other.getIndexedSlices now name expressions count =
        after.getIndexedSlices now name expressions count := by
  have alike : SameArranged (runAll Write.perform calls store).2
      (runAll Write.perform others store).2 name := by
    refine ⟨by rw [family_runAll, family_runAll], fun {family} found => ?_⟩
    rw [family_runAll] at found
    obtain rfl := name_of_family found
    rw [rowsOf_runAll found writes,
      rowsOf_runAll found fun call mem => writes call (perm.mem_iff.1 mem)]
    refine view_foldl_of_perm (fun call => call.arranged_onRows_congr) perm
      (fun first mem second later rows => ?_) rfl
    rw [perm.mem_iff] at mem later
    by_cases same : first.address? = second.address?
    · rw [List.inj_on_of_nodup_map distinct mem later same]
    · refine Write.arranged_onRows_comm same (fun place given other otherGiven => ?_) rows
      exact untied family found place (List.mem_filterMap.2 ⟨first, mem, given⟩) other
        (List.mem_filterMap.2 ⟨second, later, otherGiven⟩)
  exact ⟨getRow_arranged alike, getSlice_arranged alike, getIndexedSlices_arranged alike⟩

/-- Three columns of two super columns, written in two orders, are listed in one. -/
theorem reads_of_perm_super :
    let family : ColumnFamily :=
      { keyspace := "k", name := "s", columnType := "Super", comparatorType := some "UTF8Type",
        subcomparatorType := some "IntegerType" }
    let store : Store :=
      { connection := .opened (some "k"), keyspaces := [{ name := "k", families := [family] }] }
    let calls := [Write.insert 5 ⟨"s", [1], some [2], some [1, 0]⟩ [9] none,
      .insert 5 ⟨"s", [1], some [2], some [255]⟩ [8] none,
      .insert 5 ⟨"s", [1], some [1], some [0]⟩ [7] none]
    let after := (runAll Write.perform calls store).2
    let other := (runAll Write.perform calls.reverse store).2
    other.getRow 6 "s" [1] none 100 = after.getRow 6 "s" [1] none 100 ∧
      after.getRow 6 "s" [1] none 100 =
        .ok [.superColumn [1] [⟨[0], .value [7] 5 none⟩],
          .superColumn [2] [⟨[255], .value [8] 5 none⟩, ⟨[1, 0], .value [9] 5 none⟩]] := by
  intro family store calls after other
  have known : store.family "s" = .ok family := by decide +kernel
  have untied : ∀ found, store.family "s" = .ok found →
      ∀ first ∈ calls.filterMap Write.address?, ∀ second ∈ calls.filterMap Write.address?,
        ¬Tied found first second := by
    intro found same
    obtain rfl : family = found := Except.ok.inj (known.symm.trans same)
    decide +kernel
  refine ⟨?_, by decide +kernel⟩
  exact (reads_of_perm (List.reverse_perm calls) (by decide) (by decide) untied).1 6 [1] none 100

/-- Two columns whose names are the integer zero in one byte and in two bytes are listed in the order
in which they were written. -/
theorem getRow_of_integers :
    let family : ColumnFamily :=
      { keyspace := "k", name := "f", comparatorType := some "IntegerType" }
    let store : Store :=
      { connection := .opened (some "k"), keyspaces := [{ name := "k", families := [family] }] }
    let calls := [Write.insert 5 ⟨"f", [1], none, some [0]⟩ [8] none,
      .insert 5 ⟨"f", [1], none, some [0, 0]⟩ [9] none]
    let after := (runAll Write.perform calls store).2
    let other := (runAll Write.perform calls.reverse store).2
    calls.reverse.Perm calls ∧ (∀ call ∈ calls, call.address?.isSome) ∧
      (calls.map Write.address?).Nodup ∧
      after.getRow 6 "f" [1] none 100 =
        .ok [.cell ⟨[0], .value [8] 5 none⟩, .cell ⟨[0, 0], .value [9] 5 none⟩] ∧
      other.getRow 6 "f" [1] none 100 =
        .ok [.cell ⟨[0, 0], .value [9] 5 none⟩, .cell ⟨[0], .value [8] 5 none⟩] :=
  ⟨List.reverse_perm _, by decide, by decide, by decide +kernel, by decide +kernel⟩

end WideColumn.Store
