import Mathlib.Data.List.Range
import WideColumn.Proofs.Schema.Version
import WideColumn.Proofs.Store.Changes
import WideColumn.Proofs.Store.Flat

/-!
# Schema versions in a run

A change of the schema either fails and leaves the store as it was, or is counted, and then reports
the token of a text that tells how many changes there were (`Store.Counts`). Nothing else counts as
one, so along a run the numbers go up one by one and the texts are all different
(`Store.versions_tell_schemas`).
-/

namespace WideColumn.Store

/-! ### Operations -/

/-- A change of the schema. -/
inductive SchemaChange where
  | createKeyspace (keyspace : Keyspace)
  | updateKeyspace (keyspace : Keyspace)
  | dropKeyspace (name : String)
  | createFamily (family : ColumnFamily)
  | updateFamily (family : ColumnFamily)
  | dropFamily (name : String)
  | dropIndex (family : String) (column : Bytes)

/-- The call on the store. -/
def SchemaChange.perform : SchemaChange → Call String
  | createKeyspace keyspace => Store.createKeyspace keyspace
  | updateKeyspace keyspace => Store.updateKeyspace keyspace
  | dropKeyspace name => Store.dropKeyspace name
  | createFamily family => Store.createFamily family
  | updateFamily family => Store.updateFamily family
  | dropFamily name => Store.dropFamily name
  | dropIndex family column => Store.dropIndex family column

/-- Whatever may change the store. -/
inductive Operation where
  | connect
  | close
  | select (keyspace : String)
  | write (call : Write)
  | change (call : SchemaChange)

namespace Operation

/-- The store after an operation. -/
def after : Operation → Store → Store
  | .connect, store => store.connect
  | .close, store => store.close
  | .select keyspace, store => (selectKeyspace keyspace store).2
  | .write call, store => (call.perform store).2
  | .change call, store => (call.perform store).2

/-- The schema version that an operation reports: a change of the schema does if it succeeds. -/
def version? : Operation → Store → Option String
  | .change call, store => (call.perform store).1.toOption
  | _, _ => none

end Operation

/-- The stores right after the changes of the schema in a run that succeed. -/
def changed : List Operation → Store → List Store
  | [], _ => []
  | operation :: rest, store =>
    if (operation.version? store).isSome then
      operation.after store :: changed rest (operation.after store)
    else changed rest (operation.after store)

/-- The text that stands behind the schema version of a change: the schema and the number of the
change. -/
def versionText (store : Store) : String :=
  Schema.changedText store.changes store.keyspaces

/-! ### Changes are counted -/

/-- Whether a call changes nothing if it fails, and otherwise is counted and reports the version that
goes with the schema and the new count. -/
def Counts (call : Call String) (store : Store) : Prop :=
  (∃ failure, call store = (.error failure, store)) ∨
    ∃ version after, call store = (.ok version, after) ∧ after.changes = store.changes + 1 ∧
      version = Schema.tokenOfText after.versionText

section Counts

variable {α : Type} {store : Store}

theorem counts_get_bind {next : Store → Call String} (rest : Counts (next store) store) :
    Counts (get >>= next) store :=
  rest

theorem counts_lift_bind {result : Except Failure α} {next : α → Call String}
    (rest : ∀ value, Counts (next value) store) : Counts (liftM result >>= next) store := by
  cases result with
  | error failure => exact .inl ⟨failure, rfl⟩
  | ok value => exact rest value

theorem counts_throw (failure : Failure) : Counts (throw failure) store :=
  .inl ⟨failure, rfl⟩

theorem counts_throw_bind (failure : Failure) (next : α → Call String) :
    Counts (throw failure >>= next) store :=
  .inl ⟨failure, rfl⟩

/-- A schema that is put in place is counted. -/
theorem counts_change {given : Store} (before : given.changes = store.changes) :
    Counts (do set given; countChange) store :=
  .inr ⟨_, _, rfl, congrArg (· + 1) before, rfl⟩

/-- Every change of the schema is counted. -/
theorem SchemaChange.counts (change : SchemaChange) (store : Store) :
    Counts change.perform store := by
  cases change with
  | createKeyspace keyspace =>
    refine counts_get_bind (counts_lift_bind fun _ => ?_)
    dsimp only
    split
    · exact counts_throw_bind _ _
    · exact counts_change rfl
  | updateKeyspace keyspace =>
    refine counts_get_bind (counts_lift_bind fun _ => ?_)
    split
    · exact counts_throw _
    · exact counts_change rfl
  | dropKeyspace name =>
    refine counts_get_bind (counts_lift_bind fun _ => ?_)
    dsimp only
    split
    · exact counts_throw_bind _ _
    · exact counts_change rfl
  | createFamily family =>
    refine counts_get_bind (counts_lift_bind fun _ => ?_)
    dsimp only
    split
    · exact counts_throw_bind _ _
    · exact counts_change rfl
  | updateFamily family =>
    refine counts_get_bind (counts_lift_bind fun old => ?_)
    cases fixedDifference? old family with
    | some part => exact counts_throw_bind _ _
    | none => exact counts_lift_bind fun _ => counts_change rfl
  | dropFamily name =>
    refine counts_get_bind (counts_lift_bind fun _ => ?_)
    dsimp only
    split
    · exact counts_throw_bind _ _
    · -- The rows of the column family go before the change is counted.
      exact .inr ⟨_, _, rfl, rfl, rfl⟩
  | dropIndex family column =>
    refine counts_get_bind (counts_lift_bind fun _ => ?_)
    dsimp only
    split
    · exact counts_lift_bind fun _ => counts_change rfl
    · exact counts_throw_bind _ _

end Counts

/-! ### Nothing else is counted -/

theorem Write.changes_of_perform (write : Write) (store : Store) :
    (write.perform store).2.changes = store.changes := by
  refine write.isolated.same changes fun done after run => ?_
  cases write with
  | insert now location data ttl =>
    obtain ⟨_, _, _, -, -, -, -, -, -, rfl⟩ := insertColumn_ok run
    rfl
  | add location delta =>
    obtain ⟨_, _, _, _, -, -, -, -, -, -, rfl⟩ := addToCounter_ok run
    rfl
  | remove location =>
    obtain ⟨_, _, -, -, rfl⟩ := removeColumn_ok run
    rfl
  | truncate family =>
    obtain ⟨_, -, rfl⟩ := truncate_ok run
    rfl

theorem changes_of_selectKeyspace (name : String) (store : Store) :
    (selectKeyspace name store).2.changes = store.changes := by
  refine (selectKeyspace_isolated name).same changes fun done after run => ?_
  obtain ⟨-, _, -, rfl⟩ := selectKeyspace_ok run
  rfl

/-- An operation is counted if it reports a version, and otherwise not. -/
theorem Operation.changes_of_after (operation : Operation) (store : Store) :
    (operation.version? store = none ∧ (operation.after store).changes = store.changes) ∨
      (operation.version? store).isSome = true ∧
        (operation.after store).changes = store.changes + 1 := by
  cases operation with
  | connect => exact .inl ⟨rfl, rfl⟩
  | close => exact .inl ⟨rfl, rfl⟩
  | select keyspace => exact .inl ⟨rfl, changes_of_selectKeyspace keyspace store⟩
  | write call => exact .inl ⟨rfl, call.changes_of_perform store⟩
  | change call =>
    rw [Operation.version?, Operation.after]
    rcases call.counts store with ⟨failure, run⟩ | ⟨version, after, run, counted, -⟩
    · rw [run]
      exact .inl ⟨rfl, rfl⟩
    · rw [run]
      exact .inr ⟨rfl, counted⟩

/-! ### Runs -/

/-- The numbers of the changes in a run go up one by one from where the run starts. -/
theorem numbers_of_changed (operations : List Operation) (store : Store) :
    (changed operations store).map Store.changes =
      List.range' (store.changes + 1) (changed operations store).length := by
  induction operations generalizing store with
  | nil => rfl
  | cons operation rest ih =>
    unfold changed
    rcases operation.changes_of_after store with ⟨silent, same⟩ | ⟨reported, counted⟩
    · rw [silent, if_neg (by simp), ih, same]
    · rw [if_pos reported, List.map_cons, ih, List.length_cons, List.range'_succ, counted]

theorem nodup_versionText (operations : List Operation) (store : Store) :
    ((changed operations store).map versionText).Nodup := by
  have numbers : ((changed operations store).map Store.changes).Nodup := by
    rw [numbers_of_changed]
    exact List.nodup_range'
  refine List.pairwise_map.2 ((List.pairwise_map.1 numbers).imp fun apart same => ?_)
  exact apart (Schema.changes_eq_of_changedText same)

/-- The text of a schema is the same just for the same keyspace definitions, each as often as it
occurs, in whatever order. A change of the schema that succeeds reports the token of the text of the
new schema and of its own number; one that fails changes nothing. In a run from any store these
numbers go up one by one, with every success and with nothing else, and the texts are all
different. -/
theorem versions_tell_schemas (keyspaces others : List Keyspace) (change : SchemaChange)
    (operations : List Operation) (store : Store) :
    (Schema.text keyspaces = Schema.text others ↔ keyspaces.Perm others) ∧
      ((∃ failure, change.perform store = (.error failure, store)) ∨
        ∃ version after, change.perform store = (.ok version, after) ∧
          after.changes = store.changes + 1 ∧
            version = Schema.tokenOfText after.versionText) ∧
      (changed operations store).map Store.changes =
          List.range' (store.changes + 1) (changed operations store).length ∧
        ((changed operations store).map versionText).Nodup :=
  ⟨Schema.text_eq_iff, change.counts store, numbers_of_changed operations store,
    nodup_versionText operations store⟩

end WideColumn.Store
