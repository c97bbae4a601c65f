import WideColumn.Proofs.Session.Frames
import WideColumn.Proofs.Store.Updating

/-!
# Statements that update

A statement that updates a definition applies its attributes to the definition that is there and
puts the result back. So one definition is replaced in its place, by one that differs from it at
most in what the statement names (`State.updates_only_named`).
-/

namespace WideColumn.State

variable {state : State} {request : Request} {name : String} {attributes : Attributes}

/-- An update of a keyspace changes only what its attributes name. -/
theorem redefines_of_updateKeyspace (reachable : Reachable state)
    (parsed : Command.parse request.text = .ok (.updateKeyspace name attributes))
    (succeeded : (state.reply request).isSuccess = true) :
    ∃ store old new, state.after request = { state with store } ∧
      state.store.Redefines store old new ∧ Text.sameIgnoringCase old.name name = true ∧
      old.withAttributes attributes = .ok new ∧ old.ChangesOnly attributes.keys new := by
  obtain ⟨outcome, after, left, run, same⟩ := execute_of_isSuccess parsed succeeded
  obtain ⟨keyspaces, old, new, version, store, described, found, applied, called, rfl⟩ :=
    Action.updateKeyspace_ok (requireConnected_bind_ok run)
  rw [reachable.sound.filed.distinct.find?_of_perm (Store.describeSchema_perm described)] at found
  have only := Keyspace.changesOnly_of_withAttributes applied
  exact ⟨store, old, new, same, Store.redefines_of_updateKeyspace reachable.sound
    (Keyspace.mem_of_find? found) only.name only.families called,
    Keyspace.sameIgnoringCase_of_find? found, applied, only⟩

/-- An update of a column family changes only what its attributes name, and nothing fixed. -/
theorem redefines_of_updateFamily (reachable : Reachable state)
    (parsed : Command.parse request.text = .ok (.updateFamily name attributes))
    (succeeded : (state.reply request).isSuccess = true) :
    ∃ store old new left, state.after request = { state with store } ∧
      state.store.RedefinesFamily store old new ∧ Text.sameIgnoringCase old.name name = true ∧
      old.withAttributes attributes request.supply = (.ok new, left) ∧
      old.ChangesOnly attributes.keys new ∧ new.columnType = old.columnType ∧
      new.comparatorType = old.comparatorType ∧ new.subcomparatorType = old.subcomparatorType := by
  obtain ⟨outcome, after, left, run, same⟩ := execute_of_isSuccess parsed succeeded
  obtain ⟨keyspace, old, new, version, store, inUse, found, applied, called, rfl⟩ :=
    Action.updateFamily_ok (requireKeyspace_bind_ok run)
  have only := ColumnFamily.changesOnly_of_withAttributes applied
  have current := currentKeyspace_of_keyspace reachable.coherent inUse
  obtain ⟨redefined, fixed⟩ := Store.redefines_of_updateFamily reachable.sound current
    (Keyspace.mem_of_family found) only.name called
  exact ⟨store, old, new, left, same, redefined, Keyspace.sameIgnoringCase_of_family found, applied,
    only, fixed⟩

/-- To drop an index takes it from the first column of the name that the literal stands for. -/
theorem redefines_of_dropIndex {literal : Literal} (reachable : Reachable state)
    (parsed : Command.parse request.text = .ok (.dropIndex name literal))
    (succeeded : (state.reply request).isSuccess = true) :
    ∃ store resolver left front column back, state.after request = { state with store } ∧
      state.resolver name = .ok resolver ∧
      resolver.encodeColumn literal request.supply = (.ok column.name, left) ∧
      resolver.family.columnMetadata = front ++ column :: back ∧ column.isIndexed = true ∧
      (∀ other ∈ front, other.name ≠ column.name) ∧
      state.store.RedefinesFamily store resolver.family { resolver.family with
        columnMetadata :=
          front ++ { column with indexType := none, indexName := none } :: back } := by
  obtain ⟨outcome, after, left, run, same⟩ := execute_of_isSuccess parsed succeeded
  obtain ⟨resolver, data, version, store, resolved, encoded, called, rfl⟩ :=
    Action.dropIndex_ok (requireKeyspace_bind_ok run)
  have known := store_family_of_resolver reachable.coherent reachable.sound resolved
  obtain ⟨front, column, back, columns, rfl, indexed, first, redefined⟩ :=
    Store.redefines_of_dropIndex reachable.sound known called
  exact ⟨store, resolver, left, front, column, back, same, resolved, encoded, columns, indexed,
    first, redefined⟩

/-- A statement that updates a definition changes only what it names. An update of a keyspace or a
column family, and the drop of an index, replaces one definition in its place; every other
definition stays as it was and where it was, as do the rows and the session. An update applies its
attributes and leaves each one that it does not name, and the column families of a keyspace. To
give only a replication factor leaves the other options. What a column family holds and how its
names compare never changes. A column whose index is dropped keeps its name and validator, and the
other columns are as before. -/
theorem updates_only_named (reachable : Reachable state) (request : Request)
    (succeeded : (state.reply request).isSuccess = true) :
    (∀ name attributes, Command.parse request.text = .ok (.updateKeyspace name attributes) →
      ∃ store old new, state.after request = { state with store } ∧
        state.store.Redefines store old new ∧ Text.sameIgnoringCase old.name name = true ∧
        old.withAttributes attributes = .ok new ∧ old.ChangesOnly attributes.keys new) ∧
    (∀ name attributes, Command.parse request.text = .ok (.updateFamily name attributes) →
      ∃ store old new left, state.after request = { state with store } ∧
        state.store.RedefinesFamily store old new ∧ Text.sameIgnoringCase old.name name = true ∧
        old.withAttributes attributes request.supply = (.ok new, left) ∧
        old.ChangesOnly attributes.keys new ∧ new.columnType = old.columnType ∧
        new.comparatorType = old.comparatorType ∧ new.subcomparatorType = old.subcomparatorType) ∧
    (∀ name literal, Command.parse request.text = .ok (.dropIndex name literal) →
      ∃ store resolver left front column back, state.after request = { state with store } ∧
        state.resolver name = .ok resolver ∧
        resolver.encodeColumn literal request.supply = (.ok column.name, left) ∧
        resolver.family.columnMetadata = front ++ column :: back ∧ column.isIndexed = true ∧
        (∀ other ∈ front, other.name ≠ column.name) ∧
        state.store.RedefinesFamily store resolver.family { resolver.family with
          columnMetadata :=
            front ++ { column with indexType := none, indexName := none } :: back }) :=
  ⟨fun _ _ parsed => redefines_of_updateKeyspace reachable parsed succeeded,
    fun _ _ parsed => redefines_of_updateFamily reachable parsed succeeded,
    fun _ _ parsed => redefines_of_dropIndex reachable parsed succeeded⟩

/-- The comment of a column family between two others is changed; its index and options stay. -/
theorem updates_only_named_comment :
    let request (text : String) : Request := ⟨text, { now := 0 }, "\n", ⟨id, id, 0, 0⟩⟩
    let state := (initial "c" true).afterAll (["create keyspace k;", "use k;",
      "create column family A;",
      "create column family F with comparator = UTF8Type and gc_grace = 7 and column_metadata = " ++
        "[\x7bcolumn_name: a, validation_class: LongType, index_type: KEYS\x7d];",
      "create column family Z;"].map request)
    let update := request "update column family f with comment = 'x';"
    (state.reply update).isSuccess = true ∧
      ∃ store old new, state.after update = { state with store } ∧
        state.store.RedefinesFamily store old new ∧ Text.sameIgnoringCase old.name "f" = true ∧
        new.columnMetadata = old.columnMetadata ∧
        new.options.get? "gc_grace" = old.options.get? "gc_grace" := by
  intro request state update
  have reachable : Reachable state := (reachable_initial "c" true).afterAll _
  let attributes : Attributes := ⟨[("comment", .text "x")], by decide +kernel⟩
  have known : (Command.parse update.text).toOption = some (.updateFamily "f" attributes) ∧
      (state.reply update).isSuccess = true := by
    decide +kernel
  obtain ⟨parsed, succeeded⟩ := known
  clear_value state
  obtain ⟨store, old, new, left, same, redefined, named, -, only, -⟩ :=
    (updates_only_named reachable update succeeded).2.1 "f" attributes (toOption_eq_some.1 parsed)
  exact ⟨succeeded, store, old, new, same, redefined, named, only.columns (by decide),
    only.get?_options (by decide)⟩

end WideColumn.State
