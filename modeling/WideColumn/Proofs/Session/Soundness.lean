import WideColumn.Proofs.Session.Coherence
import WideColumn.Proofs.Store.Soundness

/-!
# Statements keep the store sound

Commands make definitions by attributes only, and only in the keyspace that is in use, so the
conditions under which calls keep a store sound are always met. In every state that statements lead
to, the store is therefore sound (`State.Reachable.sound`); `State.reachable_invariants` spells out
what that says about names, definitions and rows.
-/

namespace WideColumn.State

variable {state after : State} {moment : Moment} {supply left : Supply}

/-! ### Commands -/

theorem sound_createKeyspace (sound : state.store.Sound) {name : String} {attributes : Attributes}
    {outcome : Outcome}
    (run : Action.createKeyspace name attributes state supply = ((.ok outcome, after), left)) :
    after.store.Sound := by
  obtain ⟨keyspace, version, store, applied, called, rfl⟩ := Action.createKeyspace_ok run
  exact sound.createKeyspace (Keyspace.families_of_withAttributes applied) called

theorem sound_createFamily (sound : state.store.Sound) {name : String} {attributes : Attributes}
    {outcome : Outcome}
    (run : Action.createFamily name attributes state supply = ((.ok outcome, after), left)) :
    after.store.Sound := by
  obtain ⟨keyspace, family, version, store, -, -, applied, called, rfl⟩ :=
    Action.createFamily_ok run
  -- Nothing is declared before the attributes are applied.
  have defined : family.WellDefined :=
    ColumnFamily.wellDefined_of_withAttributes (by simp [ColumnFamily.validatorNames]) applied
  exact sound.createFamily defined called

/-- The definition that is updated is that of the selected keyspace. -/
theorem sound_updateFamily (selects : state.session.keyspace = state.store.selected?)
    (sound : state.store.Sound) {name : String} {attributes : Attributes} {outcome : Outcome}
    (run : Action.updateFamily name attributes state supply = ((.ok outcome, after), left)) :
    after.store.Sound := by
  obtain ⟨keyspace, old, family, version, store, inUse, found, applied, called, rfl⟩ :=
    Action.updateFamily_ok run
  obtain ⟨current, _, works, -, -, -⟩ := Store.updateFamily_ok called
  obtain rfl : keyspace = current :=
    keyspace_eq_current sound.filed selects inUse works
  obtain ⟨selected, mem⟩ := Store.of_currentKeyspace works
  have oldMem : old ∈ keyspace.families := Keyspace.mem_of_family found
  have defined : family.WellDefined :=
    ColumnFamily.wellDefined_of_withAttributes ((sound.defined keyspace mem).families old oldMem).known
      applied
  have belongs : family.keyspace = keyspace.name := by
    rw [(ColumnFamily.comesFrom_of_withAttributes applied).1.keyspace]
    exact sound.filed.belong keyspace mem old oldMem
  exact sound.updateFamily defined (belongs ▸ selected) called

theorem sound_addToCounter (sound : state.store.Sound) {address : Address} {delta : Int}
    {given outcome : Outcome}
    (run : Action.addToCounter address delta given state supply = ((.ok outcome, after), left)) :
    after.store.Sound := by
  obtain ⟨_, _, _, _, -, -, -, called, rfl, -⟩ := Action.addToCounter_ok run
  exact sound.addToCounter called

theorem sound_executeInKeyspace {command : Command} (fits : state.Fits command)
    (sound : state.store.Sound) {outcome : Outcome}
    (run : Action.executeInKeyspace moment command state supply = ((.ok outcome, after), left)) :
    after.store.Sound := by
  obtain ⟨_, -, run⟩ := Action.lift_bind_eq_ok.1 (Action.get_bind_eq_ok.1 run)
  cases command with
  | createFamily name attributes => exact sound_createFamily sound run
  | updateFamily name attributes =>
    exact sound_updateFamily (fits name attributes rfl) sound run
  | dropFamily name =>
    obtain ⟨_, _, _, _, -, -, called, rfl⟩ := Action.dropFamily_ok run
    exact sound.dropFamily called
  | dropIndex family column =>
    obtain ⟨_, _, _, _, -, -, called, rfl⟩ := Action.dropIndex_ok run
    exact sound.dropIndex called
  | assume family kind validator =>
    obtain ⟨_, _, _, _, -, -, -, -, rfl⟩ := Action.assume_ok run
    exact sound
  | set address value ttl =>
    obtain ⟨_, _, _, _, _, _, -, -, -, -, called, rfl, -⟩ := Action.setColumn_ok run
    exact sound.insertColumn called
  | get address validator limit =>
    exact (Action.getAddress_quiet moment address validator limit).eq_of_ok run ▸ sound
  | getWhere family conditions limit =>
    exact (Action.getMatching_quiet moment family conditions limit).eq_of_ok run ▸ sound
  | del address =>
    obtain ⟨_, _, _, -, -, called, rfl⟩ := Action.delete_ok run
    exact sound.removeColumn called
  | incr address amount => exact sound_addToCounter sound run
  | decr address amount => exact sound_addToCounter sound run
  | count address => exact (Action.countEntries_quiet moment address).eq_of_ok run ▸ sound
  | list family start stop limit =>
    exact (Action.listRows_quiet moment family start stop limit).eq_of_ok run ▸ sound
  | truncate family =>
    obtain ⟨_, _, _, -, -, called, rfl, -⟩ := Action.truncateFamily_ok run
    exact sound.truncate called
  -- All other commands are executed without a keyspace in use.
  | _ => cases run

theorem sound_execute_ok {command : Command} (fits : state.Fits command) (sound : state.store.Sound)
    {outcome : Outcome} (noConnect : ∀ host port, command ≠ .connect host port)
    (run : Action.execute moment command state supply = ((.ok outcome, after), left)) :
    after.store.Sound := by
  cases command with
  | help topic =>
    exact (Action.quiet_lift (Action.help topic)).eq_of_ok run ▸ sound
  | connect host port => exact absurd rfl (noConnect host port)
  | exit =>
    cases run
    exact sound.of_same rfl rfl
  | use name =>
    obtain ⟨_, _, _, -, -, called, rfl, -⟩ := Action.useKeyspace_ok (requireConnected_bind_ok run)
    obtain ⟨-, _, -, rfl⟩ := Store.selectKeyspace_ok called
    exact sound.of_same rfl rfl
  | createKeyspace name attributes =>
    exact sound_createKeyspace sound (requireConnected_bind_ok run)
  | updateKeyspace name attributes =>
    obtain ⟨_, _, _, _, _, -, -, -, called, rfl⟩ :=
      Action.updateKeyspace_ok (requireConnected_bind_ok run)
    exact sound.updateKeyspace called
  | dropKeyspace name =>
    obtain ⟨_, _, _, _, -, -, called, rfl⟩ :=
      Action.dropKeyspace_ok (requireConnected_bind_ok run)
    exact sound.dropKeyspace called
  | describe target =>
    exact (Action.describe_quiet target).eq_of_ok (requireConnected_bind_ok run) ▸ sound
  | «show» target =>
    exact (Action.inform_quiet target).eq_of_ok (requireConnected_bind_ok run) ▸ sound
  | _ => exact sound_executeInKeyspace fits sound (requireConnected_bind_ok run)

/-- A statement keeps the store sound. -/
theorem sound_answer (sound : state.store.Sound) (newline : String) {statement : String}
    (fits : ∀ command, Command.parse statement = .ok command → state.Fits command) :
    (state.answer moment newline statement supply).1.2.store.Sound := by
  refine answer_keeps (motive := fun state => state.store.Sound) sound (fun host port => ?_)
    fun command _ _ _ parsed noConnect run => sound_execute_ok (fits command parsed) sound noConnect run
  unfold State.connect
  split <;> exact sound.of_same rfl rfl

/-! ### All states -/

theorem Reachable.sound (reachable : Reachable state) : state.store.Sound := by
  induction reachable with
  | unconnected clusterName => exact Store.sound_new clusterName .closed
  | connected clusterName => exact Store.sound_new clusterName (.opened none)
  | answered reachable moment newline statement supply ih =>
    exact sound_answer ih newline fun command _ => reachable.coherent.fits command

/-- In every reachable state the names of keyspaces differ in more than letter case and each keyspace
is found by its own name. So do the names of the column families in it, which belong to it, have
known validators, and have one for the columns of super columns only if they are super. Rows are on
file only for a column family that is defined, and they hold super columns with columns in them if it
is super, and columns otherwise. -/
theorem reachable_invariants (reachable : Reachable state) :
    (state.store.keyspaces.map fun keyspace => Text.lowered keyspace.name).Nodup ∧
      (∀ keyspace ∈ state.store.keyspaces,
        state.store.keyspace? keyspace.name = some keyspace ∧
          (keyspace.families.map fun family => Text.lowered family.name).Nodup ∧
          ∀ family ∈ keyspace.families, family.keyspace = keyspace.name ∧
            (∀ name ∈ family.validatorNames, ∃ validator : Validator,
              validator.className = name ∧ Validator.find? name = some validator) ∧
            (family.subcomparatorType.isSome → family.isSuper = true)) ∧
      ∀ place rows, state.store.rows.get? place = some rows →
        ∃ keyspace ∈ state.store.keyspaces, ∃ family ∈ keyspace.families,
          (keyspace.name, family.name) = place ∧
            ∀ key row, rows.get? key = some row → ∀ name slot, row.get? name = some slot →
              if family.isSuper then ∃ columns, slot = .group columns
              else ∃ record, slot = .record record := by
  have sound := reachable.sound
  refine ⟨sound.filed.distinct, fun keyspace mem => ⟨?_, ?_, fun family held => ⟨?_, ?_, ?_⟩⟩,
    fun place rows filed => ?_⟩
  · exact sound.keyspace? mem
  · exact (sound.defined keyspace mem).distinct
  · exact sound.filed.belong keyspace mem family held
  · exact ((sound.defined keyspace mem).families family held).known
  · exact ((sound.defined keyspace mem).families family held).layered
  · obtain ⟨keyspace, mem, family, held, same, fit⟩ := sound.rows place rows filed
    refine ⟨keyspace, mem, family, held, same, fun key row found name slot get => ?_⟩
    have layout : slot.isGroup = family.isSuper := fit.get? found name slot get
    cases slot with
    | record record =>
      rw [← layout]
      exact ⟨record, rfl⟩
    | group columns =>
      rw [← layout]
      exact ⟨columns, rfl⟩

/-- A super column family that was made in other letters than it is named with has a row on file in
its own layout. -/
theorem reachable_invariants_super :
    let next (state : State) (statement : String) : State :=
      (state.answer { now := 0 } "\n" statement ⟨id, id, 0, 0⟩).1.2
    let filed := next { store := Store.connect { clusterName := "c" } } "create keyspace K;"
    let used := next filed "use k;"
    let made := next used "create column family S with column_type = super;"
    let set := next made "set s['k']['0b']['0c'] = 'v';"
    set.store.keyspaces.map Keyspace.name = ["system", "K"] ∧
      ∃ rows row slot, set.store.rows.get? ("K", "S") = some rows ∧
        rows.get? [0x6b] = some row ∧ row.get? [0x0b] = some slot ∧
        ∃ keyspace ∈ set.store.keyspaces, ∃ family ∈ keyspace.families,
          (keyspace.name, family.name) = ("K", "S") ∧
            if family.isSuper then ∃ columns, slot = .group columns
            else ∃ record, slot = .record record := by
  intro next filed used made set
  have reachable : Reachable filed := (Reachable.connected "c").answered _ _ _ _
  have reachable : Reachable used := reachable.answered _ _ _ _
  have reachable : Reachable made := reachable.answered _ _ _ _
  have reachable : Reachable set := reachable.answered _ _ _ _
  have names : set.store.keyspaces.map Keyspace.name = ["system", "K"] := by decide +kernel
  have known : ((set.store.rows.get? ("K", "S")).bind fun rows =>
      (rows.get? [0x6b]).bind fun row => row.get? [0x0b]).isSome := by
    decide +kernel
  obtain ⟨slot, found⟩ := Option.isSome_iff_exists.1 known
  obtain ⟨rows, filed, found⟩ := Option.bind_eq_some_iff.1 found
  obtain ⟨row, keyed, named⟩ := Option.bind_eq_some_iff.1 found
  obtain ⟨keyspace, mem, family, held, same, layout⟩ :=
    (reachable_invariants reachable).2.2 _ rows filed
  exact ⟨names, rows, row, slot, filed, keyed, named, keyspace, mem, family, held, same,
    layout _ row keyed _ slot named⟩

end WideColumn.State
