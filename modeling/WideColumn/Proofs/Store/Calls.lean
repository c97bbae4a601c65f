import WideColumn.Store.Definition
import WideColumn.Store.Write

/-!
# Calls that fail change nothing

A call is quiet if it never changes the store, sure if it never fails, and isolated if it leaves the
store as it was whenever it fails. Quiet steps followed by sure ones make an isolated call, and that
is how every call of the store is built: it checks first and changes the store when nothing can fail
any more.
-/

namespace WideColumn.Store

namespace Call

variable {α β : Type} {call : Call α} {next : α → Call β} {store : Store}

/-! ### Running a call -/

theorem bind_apply : (call >>= next) store =
    match call store with
    | (.ok value, after) => next value after
    | (.error failure, after) => (.error failure, after) := by
  have unfolded : (call >>= next) store =
      ExceptT.bindCont next (call store).1 (call store).2 := rfl
  rw [unfolded]
  cases call store with
  | mk result after => cases result <;> rfl

theorem lift_apply {result : Except Failure α} :
    (liftM result : Call α) store = (result, store) :=
  rfl

theorem get_apply : (get : Call Store) store = (.ok store, store) :=
  rfl

theorem set_apply {after : Store} : (set after : Call Unit) store = (.ok (), after) :=
  rfl

/-! ### Quiet, sure and isolated calls -/

/-- A call that never changes the store. -/
def Quiet (call : Call α) : Prop :=
  ∀ store, (call store).2 = store

/-- A call that never fails. -/
def Sure (call : Call α) : Prop :=
  ∀ store, ∃ value, (call store).1 = .ok value

/-- A call that leaves the store as it was whenever it fails. -/
def Isolated (call : Call α) : Prop :=
  ∀ store failure, (call store).1 = .error failure → (call store).2 = store

theorem quiet_lift (result : Except Failure α) : Quiet (liftM result : Call α) :=
  fun _ => rfl

theorem quiet_get : Quiet (get : Call Store) :=
  fun _ => rfl

theorem quiet_throw (failure : Failure) : Quiet (throw failure : Call α) :=
  fun _ => rfl

/-- Nothing comes after a failure. -/
theorem quiet_throw_bind (failure : Failure) (next : α → Call β) :
    Quiet (throw failure >>= next) :=
  fun _ => rfl

theorem sure_set (after : Store) : Sure (set after : Call Unit) :=
  fun _ => ⟨(), rfl⟩

theorem sure_modify (change : Store → Store) : Sure (modify change : Call Unit) :=
  fun _ => ⟨(), rfl⟩

theorem sure_get : Sure (get : Call Store) :=
  fun store => ⟨store, rfl⟩

theorem sure_pure (value : α) : Sure (pure value : Call α) :=
  fun _ => ⟨value, rfl⟩

theorem Sure.bind (sure : Sure call) (later : ∀ value, Sure (next value)) :
    Sure (call >>= next) := by
  intro store
  obtain ⟨value, ok⟩ := sure store
  rw [bind_apply]
  cases run : call store with
  | mk result after =>
    rw [run] at ok
    cases ok
    exact later value after

/-- What a call that is isolated leaves alone if it succeeds, it leaves alone. -/
theorem Isolated.same {γ : Type} (isolated : Isolated call) {store : Store} (view : Store → γ)
    (succeeds : ∀ value after, call store = (.ok value, after) → view after = view store) :
    view (call store).2 = view store := by
  cases run : call store with
  | mk result after =>
    cases result with
    | error failure =>
      have unchanged := isolated store failure (by rw [run])
      rw [run] at unchanged
      exact congrArg view unchanged
    | ok value => exact succeeds value after run

theorem Quiet.isolated (quiet : Quiet call) : Isolated call :=
  fun store _ _ => quiet store

theorem Sure.isolated (sure : Sure call) : Isolated call := by
  intro store failure failed
  obtain ⟨value, ok⟩ := sure store
  rw [ok] at failed
  cases failed

/-- What is isolated stays so behind a quiet step. -/
theorem Quiet.bind_isolated (quiet : Quiet call) (later : ∀ value, Isolated (next value)) :
    Isolated (call >>= next) := by
  intro store failure failed
  have same := quiet store
  rw [bind_apply] at failed ⊢
  cases run : call store with
  | mk result after =>
    rw [run] at same failed
    obtain rfl : after = store := same
    cases result with
    | error cause => rfl
    | ok value => exact later value after failure failed

end Call

open Call

/-! ### Calls on rows -/

/-- A column family is found under its name. -/
theorem name_of_family {store : Store} {name : String} {family : ColumnFamily}
    (found : store.family name = .ok family) : family.name = name := by
  unfold Store.family at found
  cases current : store.currentKeyspace with
  | error failure => simp [current, bind, Except.bind] at found
  | ok keyspace =>
    cases lookup : keyspace.families.find? fun family => family.name == name with
    | none => simp [current, lookup, bind, Except.bind] at found
    | some other =>
      simp [current, lookup, bind, Except.bind, pure, Except.pure] at found
      rw [← found]
      simpa using List.find?_some lookup

theorem requireColumnName_ok {given : Option Bytes} {column : Bytes}
    (named : requireColumnName given = .ok column) : given = some column := by
  unfold requireColumnName at named
  split at named
  · cases named
    rfl
  · cases named

theorem changeRows_apply (name : String)
    (change : ColumnFamily → Table Bytes Row → Except Failure (Table Bytes Row)) (store : Store) :
    changeRows name change store =
      match store.family name with
      | .error failure => (.error failure, store)
      | .ok family =>
        match change family (store.rowsOf family) with
        | .error failure => (.error failure, store)
        | .ok rows => (.ok (), store.withRows family rows) := by
  simp only [changeRows, bind_apply, get_apply, lift_apply]
  cases store.family name with
  | error failure => rfl
  | ok family =>
    cases h : change family (store.rowsOf family) with
    | error failure => simp only [h]
    | ok rows =>
      simp only [h]
      exact set_apply

theorem changeRows_isolated (name : String)
    (change : ColumnFamily → Table Bytes Row → Except Failure (Table Bytes Row)) :
    (changeRows name change).Isolated := by
  unfold changeRows
  apply quiet_get.bind_isolated
  intro store
  apply (quiet_lift _).bind_isolated
  intro family
  apply (quiet_lift _).bind_isolated
  intro rows
  exact (sure_set _).isolated

theorem insertColumn_isolated (now : Int) (location : Location) (data : Bytes) (ttl : Option Int) :
    (insertColumn now location data ttl).Isolated := by
  unfold insertColumn
  apply (quiet_lift _).bind_isolated
  intro column
  apply (quiet_lift _).bind_isolated
  intro positive
  exact changeRows_isolated _ _

theorem addToCounter_isolated (location : Location) (delta : Int) :
    (addToCounter location delta).Isolated := by
  unfold addToCounter
  apply (quiet_lift _).bind_isolated
  intro column
  exact changeRows_isolated _ _

theorem removeColumn_isolated (location : Location) : (removeColumn location).Isolated :=
  changeRows_isolated _ _

theorem truncate_isolated (name : String) : (truncate name).Isolated :=
  changeRows_isolated _ _

/-! ### Calls on the schema -/

theorem selectKeyspace_isolated (name : String) : (selectKeyspace name).Isolated := by
  unfold selectKeyspace
  apply quiet_get.bind_isolated
  intro store
  apply (quiet_lift _).bind_isolated
  intro connected
  split
  · exact (sure_set _).isolated
  · exact (quiet_throw _).isolated

theorem sure_countChange : Sure countChange := by
  unfold countChange
  apply (sure_modify _).bind
  intro counted
  apply sure_get.bind
  intro store
  exact sure_pure _

/-- A new schema that is put in place and then counted. -/
theorem change_isolated (after : Store) :
    Isolated (do set after; countChange) :=
  Sure.isolated ((sure_set after).bind fun _ => sure_countChange)

theorem createKeyspace_isolated (keyspace : Keyspace) : (createKeyspace keyspace).Isolated := by
  unfold createKeyspace
  apply quiet_get.bind_isolated
  intro store
  apply (quiet_lift _).bind_isolated
  intro connected
  dsimp only
  split
  · exact (quiet_throw_bind _ _).isolated
  · exact change_isolated _

theorem updateKeyspace_isolated (keyspace : Keyspace) : (updateKeyspace keyspace).Isolated := by
  unfold updateKeyspace
  apply quiet_get.bind_isolated
  intro store
  apply (quiet_lift _).bind_isolated
  intro connected
  split
  · exact (quiet_throw _).isolated
  · exact change_isolated _

theorem dropKeyspace_isolated (name : String) : (dropKeyspace name).Isolated := by
  unfold dropKeyspace
  apply quiet_get.bind_isolated
  intro store
  apply (quiet_lift _).bind_isolated
  intro connected
  dsimp only
  split
  · exact (quiet_throw_bind _ _).isolated
  · exact change_isolated _

theorem createFamily_isolated (family : ColumnFamily) : (createFamily family).Isolated := by
  unfold createFamily
  apply quiet_get.bind_isolated
  intro store
  apply (quiet_lift _).bind_isolated
  intro keyspace
  dsimp only
  split
  · exact (quiet_throw_bind _ _).isolated
  · exact change_isolated _

theorem updateFamily_isolated (family : ColumnFamily) : (updateFamily family).Isolated := by
  unfold updateFamily
  apply quiet_get.bind_isolated
  intro store
  apply (quiet_lift _).bind_isolated
  intro old
  dsimp only
  split
  · exact (quiet_throw_bind _ _).isolated
  · exact (quiet_lift _).bind_isolated fun keyspace => change_isolated _

theorem dropFamily_isolated (name : String) : (dropFamily name).Isolated := by
  unfold dropFamily
  apply quiet_get.bind_isolated
  intro store
  apply (quiet_lift _).bind_isolated
  intro keyspace
  -- The rows go after the definition, and neither step can fail.
  have changes (after : Store) (change : Store → Store) :
      Isolated (do set after; modify change; countChange) :=
    Sure.isolated ((sure_set after).bind fun _ => (sure_modify change).bind fun _ =>
      sure_countChange)
  dsimp only
  split
  · exact (quiet_throw_bind _ _).isolated
  · exact changes _ _

theorem dropIndex_isolated (familyName : String) (column : Bytes) :
    (dropIndex familyName column).Isolated := by
  unfold dropIndex
  apply quiet_get.bind_isolated
  intro store
  apply (quiet_lift _).bind_isolated
  intro family
  dsimp only
  split
  · exact (quiet_lift _).bind_isolated fun keyspace => change_isolated _
  · exact (quiet_throw_bind _ _).isolated

end WideColumn.Store
