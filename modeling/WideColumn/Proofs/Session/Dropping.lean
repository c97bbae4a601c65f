import WideColumn.Proofs.Session.Rearranged
import WideColumn.Proofs.Store.Dropping

/-!
# Statements that drop and make again

To drop a column family or a keyspace takes away its definition and all its rows, and leaves every
other definition and all other rows. What is made later starts empty, under whatever name and with
whatever attributes (`State.CreatesEmpty`), and to make something and to drop it at once leaves
everything as it was (`State.dropped_for_good`).
-/

namespace WideColumn

/-- A column family is found by its name in any letter case. -/
theorem Keyspace.family_of_sameIgnoringCase {keyspace : Keyspace} {name other : String}
    {family : ColumnFamily} (found : keyspace.family name = .ok family)
    (same : Text.sameIgnoringCase name other = true) : keyspace.family other = .ok family := by
  have lowered : Text.lowered name = Text.lowered other := beq_iff_eq.1 same
  have lookup : keyspace.family? other = keyspace.family? name := by
    unfold Keyspace.family? Text.sameIgnoringCase
    rw [lowered]
  unfold Keyspace.family at found ⊢
  rw [lookup]
  split at found
  · exact found
  · cases found

/-- The name of the column family that a command reads from. -/
def Command.readFamily? : Command → Option String
  | get address _ _ => some address.family
  | getWhere family _ _ => some family
  | count address => some address.family
  | list family _ _ _ => some family
  | _ => none

/-- Whether an outcome of a read shows no record. -/
def Outcome.IsEmpty : Outcome → Prop
  | notFound => True
  | entries shown => shown = []
  | rows shown => shown = []
  | counted number => number = 0
  | _ => False

namespace State

/-- Whether the keyspace in use has a column family of a name and no record is found in it: neither
by a read of the store nor by a statement that names it in any letter case. -/
structure FindsNothing (state : State) (name : String) : Prop where
  vacant : ∃ keyspace family, state.keyspace = .ok keyspace ∧ keyspace.family name = .ok family ∧
    state.store.Vacant family
  reads : ∀ request command other, Command.parse request.text = .ok command →
    command.readFamily? = some other → Text.sameIgnoringCase name other = true →
    ∀ outcome text, state.reply request = .success outcome text → outcome.IsEmpty

/-- Whether each column family that is created from a state on, now or later, is empty when it is
created. -/
def CreatesEmpty (state : State) : Prop :=
  ∀ requests creation name attributes,
    Command.parse creation.text = .ok (.createFamily name attributes) →
    ((state.afterAll requests).reply creation).isSuccess = true →
    ((state.afterAll requests).after creation).FindsNothing name

variable {state after : State} {moment : Moment} {supply left : Supply} {outcome : Outcome}
  {name : String} {keyspace : Keyspace} {family : ColumnFamily} {request : Request}

/-! ### Reads of a vacant column family -/

section Reads

variable {resolver : Resolver} (vacant : state.store.Vacant resolver.family)

include vacant

theorem isEmpty_of_getAddress {address : Address} {validator : Option String}
    {limit : Option Int} (resolved : state.resolver address.family = .ok resolver)
    (run : Action.getAddress moment address validator limit state supply =
      ((.ok outcome, after), left)) : outcome.IsEmpty := by
  obtain ⟨found, again, run⟩ := Action.lift_bind_eq_ok.1 (Action.get_bind_eq_ok.1 run)
  obtain rfl : resolver = found := Except.ok.inj (resolved.symm.trans again)
  obtain ⟨asked, -, run⟩ := Action.lift_bind_eq_ok.1 run
  obtain ⟨location, drawn, located, run⟩ := Action.draw_bind_eq_ok.1 run
  have here := (Action.locate_shape located).1
  split at run
  · obtain ⟨entries, read, run⟩ := Action.lift_bind_eq_ok.1 run
    rw [here, vacant.row] at read
    obtain ⟨_, -, rfl⟩ := map_eq_ok.1 read
    cases run
    exact rfl
  · obtain ⟨entry, read, run⟩ := Action.lift_bind_eq_ok.1 run
    rw [vacant.column _ _ here] at read
    obtain ⟨_, -, rfl⟩ := map_eq_ok.1 read
    cases run
    trivial

theorem isEmpty_of_getMatching {conditions : List Condition} {limit : Option Int}
    (resolved : state.resolver name = .ok resolver)
    (run : Action.getMatching moment name conditions limit state supply =
      ((.ok outcome, after), left)) : outcome.IsEmpty := by
  obtain ⟨found, again, run⟩ := Action.lift_bind_eq_ok.1 (Action.get_bind_eq_ok.1 run)
  obtain rfl : resolver = found := Except.ok.inj (resolved.symm.trans again)
  obtain ⟨expressions, drawn, -, run⟩ := Action.draw_bind_eq_ok.1 run
  obtain ⟨rows, read, run⟩ := Action.lift_bind_eq_ok.1 run
  rcases vacant.indexed moment.now expressions (limit.getD Action.scanLimit) with none | refused
  · rw [none] at read
    cases read
    cases run
    exact rfl
  · obtain ⟨cause, refused⟩ := refused
    rw [refused] at read
    cases read

theorem isEmpty_of_countEntries {address : Address}
    (resolved : state.resolver address.family = .ok resolver)
    (run : Action.countEntries moment address state supply = ((.ok outcome, after), left)) :
    outcome.IsEmpty := by
  obtain ⟨found, again, run⟩ := Action.lift_bind_eq_ok.1 (Action.get_bind_eq_ok.1 run)
  obtain rfl : resolver = found := Except.ok.inj (resolved.symm.trans again)
  obtain ⟨location, drawn, located, run⟩ := Action.draw_bind_eq_ok.1 run
  have here := (Action.locate_shape located).1
  dsimp only at run
  split at run
  · cases run
  · obtain ⟨entries, read, run⟩ := Action.lift_bind_eq_ok.1 run
    rw [here, vacant.row] at read
    obtain ⟨_, -, rfl⟩ := map_eq_ok.1 read
    cases run
    exact rfl

theorem isEmpty_of_listRows {start stop : Option Literal} {limit : Option Int}
    (resolved : state.resolver name = .ok resolver)
    (run : Action.listRows moment name start stop limit state supply =
      ((.ok outcome, after), left)) : outcome.IsEmpty := by
  obtain ⟨found, again, run⟩ := Action.lift_bind_eq_ok.1 (Action.get_bind_eq_ok.1 run)
  obtain rfl : resolver = found := Except.ok.inj (resolved.symm.trans again)
  obtain ⟨first, drawn, -, run⟩ := Action.draw_bind_eq_ok.1 run
  obtain ⟨last, drawn, -, run⟩ := Action.draw_bind_eq_ok.1 run
  obtain ⟨rows, read, run⟩ := Action.lift_bind_eq_ok.1 run
  rw [vacant.slice] at read
  cases read
  cases run
  exact rfl

/-- A command that reads from a vacant column family, by whatever name, shows no record. -/
theorem isEmpty_of_execute {command : Command} (names : command.readFamily? = some name)
    (resolved : state.resolver name = .ok resolver)
    (run : Action.execute moment command state supply = ((.ok outcome, after), left)) :
    outcome.IsEmpty := by
  cases command with
  | get address validator limit =>
    cases names
    exact isEmpty_of_getAddress vacant resolved (requireKeyspace_bind_ok run)
  | getWhere family conditions limit =>
    cases names
    exact isEmpty_of_getMatching vacant resolved (requireKeyspace_bind_ok run)
  | count address =>
    cases names
    exact isEmpty_of_countEntries vacant resolved (requireKeyspace_bind_ok run)
  | list family start stop limit =>
    cases names
    exact isEmpty_of_listRows vacant resolved (requireKeyspace_bind_ok run)
  | _ => cases names

end Reads

/-! ### Creating -/

/-- The outcome of a reply is that of the command. -/
theorem execute_of_success {command : Command} {text : String}
    (parsed : Command.parse request.text = .ok command)
    (replied : state.reply request = .success outcome text) :
    ∃ after left, Action.execute request.moment command state request.supply =
      ((.ok outcome, after), left) := by
  unfold reply at replied
  rw [answer_of_parsed parsed] at replied
  cases run : Action.execute request.moment command state request.supply with
  | mk pair left =>
    obtain ⟨result, after⟩ := pair
    rw [run] at replied
    cases result with
    | error cause => cases replied
    | ok shown =>
      simp only [Reply.ofResult] at replied
      split at replied
      · cases replied
        exact ⟨after, left, rfl⟩
      · cases replied

/-- What the creation of a column family leaves: the column family is found, and it is vacant. -/
theorem exists_of_created (reachable : Reachable state) {attributes : Attributes}
    (parsed : Command.parse request.text = .ok (.createFamily name attributes))
    (created : (state.reply request).isSuccess = true) : ∃ keyspace family version store,
      Store.createFamily family state.store = (.ok version, store) ∧
        state.after request = { state with store } ∧
        State.keyspace { state with store } = .ok keyspace ∧ keyspace.family name = .ok family ∧
        family.name = name ∧ store.Vacant family := by
  obtain ⟨outcome, after, left, run, same⟩ := execute_of_isSuccess parsed created
  obtain ⟨keyspace, family, version, store, inUse, free, applied, called, rfl⟩ :=
    Action.createFamily_ok (requireKeyspace_bind_ok run)
  have comes := (ColumnFamily.comesFrom_of_withAttributes applied).1
  obtain rfl : family.name = name := comes.name
  obtain ⟨current, works, vacant⟩ := Store.vacant_of_createFamily reachable.sound called
  obtain rfl : keyspace = current :=
    Except.ok.inj ((currentKeyspace_of_keyspace reachable.coherent inUse).symm.trans works)
  have own : { family with keyspace := keyspace.name } = family := by
    rw [← show family.keyspace = keyspace.name from comes.keyspace]
  rw [own] at vacant
  have resolved := resolver_of_createFamily reachable.coherent reachable.sound.filed inUse
    comes.keyspace called
  obtain ⟨changed, used, known⟩ := bind_eq_ok.1 resolved
  obtain ⟨found, held, made⟩ := bind_eq_ok.1 known
  obtain rfl : found = family := congrArg Resolver.family (Except.ok.inj made)
  exact ⟨changed, found, version, store, called, same, used, held, rfl, vacant⟩

/-- A column family that was just created is empty, whatever was there before. -/
theorem findsNothing_of_created (reachable : Reachable state) {attributes : Attributes}
    (parsed : Command.parse request.text = .ok (.createFamily name attributes))
    (created : (state.reply request).isSuccess = true) :
    (state.after request).FindsNothing name := by
  obtain ⟨keyspace, family, version, store, -, same, inUse, found, -, vacant⟩ :=
    exists_of_created reachable parsed created
  rw [same]
  refine ⟨⟨keyspace, family, inUse, found, vacant⟩,
    fun request command other asked names alike outcome text replied => ?_⟩
  obtain ⟨after, left, run⟩ := execute_of_success asked replied
  have resolved : State.resolver { state with store } other =
      .ok ⟨family, state.session.assumptionsFor family keyspace.name⟩ :=
    bind_eq_ok.2 ⟨keyspace, inUse,
      bind_eq_ok.2 ⟨family, Keyspace.family_of_sameIgnoringCase found alike, rfl⟩⟩
  exact isEmpty_of_execute vacant names resolved run

theorem Reachable.createsEmpty (reachable : Reachable state) : state.CreatesEmpty :=
  fun requests _ _ _ parsed created =>
    findsNothing_of_created (reachable.afterAll requests) parsed created

/-! ### Dropping -/

theorem after_dropFamily (reachable : Reachable state)
    (parsed : Command.parse request.text = .ok (.dropFamily name))
    (dropped : (state.reply request).isSuccess = true) :
    ∃ keyspace family, state.keyspace = .ok keyspace ∧ keyspace.family name = .ok family ∧
      state.after request = { state with store := {
        state.store.withKeyspace { keyspace with families := keyspace.families.erase family } with
        rows := state.store.rows.erase (keyspace.name, family.name)
        changes := state.store.changes + 1 } } := by
  obtain ⟨outcome, after, left, run, same⟩ := execute_of_isSuccess parsed dropped
  obtain ⟨keyspace, family, version, store, inUse, found, called, rfl⟩ :=
    Action.dropFamily_ok (requireKeyspace_bind_ok run)
  have current := currentKeyspace_of_keyspace reachable.coherent inUse
  obtain ⟨again, drops⟩ :=
    Store.dropFamily_eq reachable.sound current (Keyspace.mem_of_family found)
  obtain ⟨-, rfl⟩ := Prod.mk.inj (called.symm.trans drops)
  exact ⟨keyspace, family, inUse, found, same⟩

theorem after_dropKeyspace (reachable : Reachable state)
    (parsed : Command.parse request.text = .ok (.dropKeyspace name))
    (dropped : (state.reply request).isSuccess = true) :
    ∃ keyspace, Keyspace.find? state.store.keyspaces name = some keyspace ∧
      state.after request = {
        session :=
          if state.session.keyspace = some keyspace.name then
            { state.session with keyspace := none }
          else state.session
        store := { state.store with
          connection := if state.store.connection = .opened (some keyspace.name) then .opened none
            else state.store.connection
          keyspaces := state.store.keyspaces.erase keyspace
          rows := state.store.rows.filter fun entry => entry.1.1 != keyspace.name
          changes := state.store.changes + 1 } } := by
  obtain ⟨outcome, after, left, run, same⟩ := execute_of_isSuccess parsed dropped
  obtain ⟨keyspaces, keyspace, version, store, described, found, called, rfl⟩ :=
    Action.dropKeyspace_ok (requireConnected_bind_ok run)
  rw [reachable.sound.filed.distinct.find?_of_perm (Store.describeSchema_perm described)] at found
  obtain ⟨again, drops⟩ := Store.dropKeyspace_eq reachable.sound
    (Action.isConnected_of_describeSchema described) (Keyspace.mem_of_find? found)
  obtain ⟨-, rfl⟩ := Prod.mk.inj (called.symm.trans drops)
  exact ⟨keyspace, found, same⟩

/-! ### Creating and dropping again -/

section Again

variable {attributes : Attributes} {dropping : Request} {other : String}

/-- To drop a column family that was just created succeeds, and leaves everything as it was. -/
theorem after_createFamily_dropFamily (reachable : Reachable state)
    (parsed : Command.parse request.text = .ok (.createFamily name attributes))
    (created : (state.reply request).isSuccess = true)
    (asked : Command.parse dropping.text = .ok (.dropFamily other))
    (alike : Text.sameIgnoringCase name other = true) :
    ((state.after request).reply dropping).isSuccess = true ∧
      (state.after request).after dropping =
        { state with store := { state.store with changes := state.store.changes + 2 } } := by
  have made : Reachable (state.after request) := reachable.answered _ _ _ _
  obtain ⟨keyspace, family, version, store, called, same, inUse, found, -, -⟩ :=
    exists_of_created reachable parsed created
  rw [same] at made ⊢
  obtain ⟨again, drops⟩ := Store.dropFamily_of_createFamily reachable.sound made.sound called
  obtain ⟨own, required, -⟩ := bind_eq_ok.1 inUse
  have run : Action.dropFamily other { state with store } dropping.supply =
      ((.ok (.schemaChanged again), { state with
        store := { state.store with changes := state.store.changes + 2 } }), dropping.supply) :=
    Action.dropFamily_eq_ok.2 ⟨keyspace, family, again, _, inUse,
      Keyspace.family_of_sameIgnoringCase found alike, drops, rfl, rfl, rfl⟩
  exact reply_of_schemaChanged dropping asked
    (requireKeyspace_bind_eq_ok.2 ⟨⟨own, required⟩, run⟩)

/-- A keyspace that was just created is listed, and found by its name in any letter case. -/
theorem listed_of_createKeyspace {version : String} {store : Store}
    (connected : state.store.isConnected = true) (distinct : Keyspace.DistinctNames store.keyspaces)
    (families : keyspace.families = [])
    (called : Store.createKeyspace keyspace state.store = (.ok version, store))
    (alike : Text.sameIgnoringCase keyspace.name other = true) :
    store.isConnected = true ∧ ∃ keyspaces, store.describeSchema = .ok keyspaces ∧
      Keyspace.find? keyspaces other = some keyspace := by
  have stays : store.isConnected = true := by
    obtain ⟨-, rfl⟩ := Store.createKeyspace_ok called
    exact connected
  have listed : store.describeSchema =
      .ok (Order.sort (fun first second => first.name ≤ second.name) store.keyspaces) :=
    bind_eq_ok.2 ⟨(), Store.requireConnected_eq_ok.2 stays, rfl⟩
  have known := Store.find?_of_createKeyspace families called
  refine ⟨stays, _, listed, ?_⟩
  exact (distinct.find?_of_perm (Store.describeSchema_perm listed)).trans
    (distinct.find? (Keyspace.mem_of_find? known) (beq_iff_eq.1 alike))

/-- To drop a keyspace that was just created succeeds, and leaves everything as it was. -/
theorem after_createKeyspace_dropKeyspace (reachable : Reachable state)
    (parsed : Command.parse request.text = .ok (.createKeyspace name attributes))
    (created : (state.reply request).isSuccess = true)
    (asked : Command.parse dropping.text = .ok (.dropKeyspace other))
    (alike : Text.sameIgnoringCase name other = true) :
    ((state.after request).reply dropping).isSuccess = true ∧
      (state.after request).after dropping =
        { state with store := { state.store with changes := state.store.changes + 2 } } := by
  have made : Reachable (state.after request) := reachable.answered _ _ _ _
  obtain ⟨outcome, after, left, run, same⟩ := execute_of_isSuccess parsed created
  replace same : state.after request = after := same
  obtain ⟨_, keyspace, version, store, described, -, applied, called, -, rfl, -⟩ :=
    Action.createKeyspace_eq_ok.1 (requireConnected_bind_ok run)
  rw [same] at made ⊢
  obtain rfl : keyspace.name = name := Keyspace.name_of_withAttributes applied
  have free := (Store.createKeyspace_ok called).1
  have idle : state.session.keyspace ≠ some keyspace.name := fun inUse => by
    obtain ⟨held, mem, named⟩ := List.mem_map.1 (reachable.coherent.defined _ inUse)
    exact Keyspace.ne_of_find?_eq_none free mem named
  have connected := Action.isConnected_of_describeSchema described
  obtain ⟨stays, keyspaces, listed, found⟩ := listed_of_createKeyspace connected
    made.sound.filed.distinct (Keyspace.families_of_withAttributes applied) called alike
  obtain ⟨again, drops⟩ := Store.dropKeyspace_of_createKeyspace reachable.sound made.sound
    connected (reachable.coherent.selected ▸ idle) called
  have run : Action.dropKeyspace other { state with store } dropping.supply =
      ((.ok (.schemaChanged again), { state with
        store := { state.store with changes := state.store.changes + 2 } }), dropping.supply) := by
    refine Action.dropKeyspace_eq_ok.2
      ⟨keyspaces, keyspace, again, _, listed, found, drops, rfl, ?_, rfl⟩
    rw [if_neg idle]
  have checked : State.requireConnected { state with store } = .ok () := by
    rw [requireConnected, if_pos stays]
  exact reply_of_schemaChanged dropping asked (requireConnected_bind_eq_ok.2 ⟨checked, run⟩)

end Again

/-- What a statement that succeeds drops is gone for good, and nothing else is gone. A column family
goes from the keyspace in use, with its rows, and a keyspace goes with all its rows and is no longer
in use; every other definition and all other rows stay. Whatever column family is created later,
under whatever name and with whatever attributes, no record is found in it. To create a column
family or a keyspace and to drop it at once leaves everything as it was, but for the count of
changes. -/
theorem dropped_for_good (reachable : Reachable state) (request : Request)
    (succeeded : (state.reply request).isSuccess = true) :
    (∀ name, Command.parse request.text = .ok (.dropFamily name) →
      (∃ keyspace family, state.keyspace = .ok keyspace ∧ keyspace.family name = .ok family ∧
        state.after request = { state with store := {
          state.store.withKeyspace { keyspace with
            families := keyspace.families.erase family } with
          rows := state.store.rows.erase (keyspace.name, family.name)
          changes := state.store.changes + 1 } }) ∧
      (state.after request).CreatesEmpty) ∧
    (∀ name, Command.parse request.text = .ok (.dropKeyspace name) →
      (∃ keyspace, Keyspace.find? state.store.keyspaces name = some keyspace ∧
        state.after request = {
          session :=
            if state.session.keyspace = some keyspace.name then
              { state.session with keyspace := none }
            else state.session
          store := { state.store with
            connection := if state.store.connection = .opened (some keyspace.name) then .opened none
              else state.store.connection
            keyspaces := state.store.keyspaces.erase keyspace
            rows := state.store.rows.filter fun entry => entry.1.1 != keyspace.name
            changes := state.store.changes + 1 } }) ∧
      (state.after request).CreatesEmpty) ∧
    (∀ name attributes, Command.parse request.text = .ok (.createFamily name attributes) →
      (state.after request).FindsNothing name ∧
      ∀ dropping other, Command.parse dropping.text = .ok (.dropFamily other) →
        Text.sameIgnoringCase name other = true →
        ((state.after request).reply dropping).isSuccess = true ∧
          (state.after request).after dropping =
            { state with store := { state.store with changes := state.store.changes + 2 } }) ∧
    (∀ name attributes, Command.parse request.text = .ok (.createKeyspace name attributes) →
      ∀ dropping other, Command.parse dropping.text = .ok (.dropKeyspace other) →
        Text.sameIgnoringCase name other = true →
        ((state.after request).reply dropping).isSuccess = true ∧
          (state.after request).after dropping =
            { state with store := { state.store with changes := state.store.changes + 2 } }) := by
  have later : Reachable (state.after request) := reachable.answered _ _ _ _
  refine ⟨fun name parsed => ⟨after_dropFamily reachable parsed succeeded, later.createsEmpty⟩,
    fun name parsed => ⟨after_dropKeyspace reachable parsed succeeded, later.createsEmpty⟩,
    fun name attributes parsed => ⟨findsNothing_of_created reachable parsed succeeded, ?_⟩,
    fun name attributes parsed => ?_⟩
  · exact fun dropping other asked alike =>
      after_createFamily_dropFamily reachable parsed succeeded asked alike
  · exact fun dropping other asked alike =>
      after_createKeyspace_dropKeyspace reachable parsed succeeded asked alike

/-- A super column family with a record is dropped and made again with columns, under its name in
other letters. -/
theorem dropped_for_good_super :
    let request (text : String) : Request := ⟨text, { now := 0 }, "\n", ⟨id, id, 0, 0⟩⟩
    let state := (initial "c" true).afterAll (["create keyspace k;", "use k;",
      "create column family F with column_type = super;", "set F['r']['0a']['0c'] = 'v';"].map
        request)
    let dropping := request "drop column family F;"
    let creation := request "create column family f;"
    let reading := request "list f;"
    state.store.records "k" ⟨"F", [0x72], some [0x0a], [0x0c]⟩ = some (.value [0x76] 0 none) ∧
      (((state.after dropping).after creation).reply reading).isSuccess = true ∧
      ((state.after dropping).after creation).FindsNothing "f" ∧
      (((state.after dropping).after creation).resolver "f").toOption.map (·.family.isSuper) =
        some false := by
  intro request state dropping creation reading
  have reachable : Reachable state := (reachable_initial "c" true).afterAll _
  have known : (Command.parse dropping.text).toOption = some (.dropFamily "F") ∧
      (Command.parse creation.text).toOption = some (.createFamily "f" .empty) ∧
      (state.reply dropping).isSuccess = true ∧
      ((state.after dropping).reply creation).isSuccess = true ∧
      state.store.records "k" ⟨"F", [0x72], some [0x0a], [0x0c]⟩ = some (.value [0x76] 0 none) ∧
      (((state.after dropping).after creation).reply reading).isSuccess = true ∧
      (((state.after dropping).after creation).resolver "f").toOption.map (·.family.isSuper) =
        some false := by
    decide +kernel
  obtain ⟨asked, again, dropped, created, there, answered, columns⟩ := known
  clear_value state
  have gone := (dropped_for_good reachable dropping dropped).1 "F" (toOption_eq_some.1 asked)
  exact ⟨there, answered, gone.2 [] creation "f" .empty (toOption_eq_some.1 again) created, columns⟩

end State

end WideColumn
