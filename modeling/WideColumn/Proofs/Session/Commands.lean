import WideColumn.Proofs.Success
import WideColumn.Session.Reply

/-!
# What commands do

For each command that may change the state, one lemma says what its steps gave if it succeeded: the
names and literals that were resolved, the call that was made on the store, and the state
afterwards. Commands that only read are quiet; see `WideColumn.Action.Quiet`.
-/

namespace WideColumn.Action

variable {state after : State} {supply left : Supply} {outcome : Outcome}

/-! ### Commands on data -/

theorem setColumn_ok {moment : Moment} {address : Address} {value : Literal} {ttl : Option Int}
    (run : setColumn moment address value ttl state supply = ((.ok outcome, after), left)) :
    ∃ resolver location column data drawn store, state.resolver address.family = .ok resolver ∧
      locate resolver address supply = (.ok location, drawn) ∧
      requireColumn resolver.family location = .ok column ∧
      resolver.encodeValue value column drawn = (.ok data, left) ∧
      Store.insertColumn moment.now location data ttl state.store = (.ok (), store) ∧
      after = { state with store } ∧ outcome = .inserted := by
  obtain ⟨resolver, resolved, run⟩ := lift_bind_eq_ok.1 (get_bind_eq_ok.1 run)
  obtain ⟨location, drawn, located, run⟩ := draw_bind_eq_ok.1 run
  obtain ⟨column, required, run⟩ := lift_bind_eq_ok.1 run
  obtain ⟨data, _, encoded, run⟩ := draw_bind_eq_ok.1 run
  obtain ⟨_, store, called, run⟩ := call_bind_eq_ok.1 run
  cases run
  exact ⟨resolver, location, column, data, drawn, store, resolved, located, required, encoded,
    called, rfl, rfl⟩

theorem delete_ok {address : Address}
    (run : delete address state supply = ((.ok outcome, after), left)) :
    ∃ resolver location store, state.resolver address.family = .ok resolver ∧
      locate resolver address supply = (.ok location, left) ∧
      Store.removeColumn location state.store = (.ok (), store) ∧ after = { state with store } := by
  obtain ⟨resolver, resolved, run⟩ := lift_bind_eq_ok.1 (get_bind_eq_ok.1 run)
  obtain ⟨location, drawn, located, run⟩ := draw_bind_eq_ok.1 run
  obtain ⟨_, store, called, run⟩ := call_bind_eq_ok.1 run
  -- Only the text of the outcome depends on what was removed.
  have same : after = { state with store } ∧ left = drawn := by
    split at run
    · cases run
      exact ⟨rfl, rfl⟩
    · split at run <;> cases run <;> exact ⟨rfl, rfl⟩
  obtain ⟨rfl, rfl⟩ := same
  exact ⟨resolver, location, store, resolved, located, called, rfl⟩

theorem addToCounter_ok {address : Address} {delta : Int} {given : Outcome}
    (run : addToCounter address delta given state supply = ((.ok outcome, after), left)) :
    ∃ resolver location column store, state.resolver address.family = .ok resolver ∧
      locate resolver address supply = (.ok location, left) ∧
      requireColumn resolver.family location = .ok column ∧
      Store.addToCounter location delta state.store = (.ok (), store) ∧
      after = { state with store } ∧ outcome = given := by
  obtain ⟨resolver, resolved, run⟩ := lift_bind_eq_ok.1 (get_bind_eq_ok.1 run)
  obtain ⟨location, drawn, located, run⟩ := draw_bind_eq_ok.1 run
  obtain ⟨column, required, run⟩ := lift_bind_eq_ok.1 run
  obtain ⟨_, store, called, run⟩ := call_bind_eq_ok.1 run
  cases run
  exact ⟨resolver, location, column, store, resolved, located, required, called, rfl, rfl⟩

theorem truncateFamily_ok {name : String}
    (run : truncateFamily name state supply = ((.ok outcome, after), left)) :
    ∃ keyspace family store, state.keyspace = .ok keyspace ∧ keyspace.family name = .ok family ∧
      Store.truncate family.name state.store = (.ok (), store) ∧ after = { state with store } ∧
      outcome = .truncated family.name := by
  obtain ⟨keyspace, inUse, run⟩ := lift_bind_eq_ok.1 (get_bind_eq_ok.1 run)
  obtain ⟨family, found, run⟩ := lift_bind_eq_ok.1 run
  obtain ⟨_, store, called, run⟩ := call_bind_eq_ok.1 run
  cases run
  exact ⟨keyspace, family, store, inUse, found, called, rfl, rfl⟩

theorem assume_ok {name kindName validatorName : String}
    (run : assume name kindName validatorName state supply = ((.ok outcome, after), left)) :
    ∃ keyspace family kind validator, state.keyspace = .ok keyspace ∧
      keyspace.family name = .ok family ∧ AssumptionKind.ofName kindName = .ok kind ∧
      Validator.named validatorName = .ok validator ∧
      after = { state with
        session := state.session.assume family keyspace.name kind validator } := by
  obtain ⟨keyspace, inUse, run⟩ := lift_bind_eq_ok.1 (get_bind_eq_ok.1 run)
  obtain ⟨family, found, run⟩ := lift_bind_eq_ok.1 run
  obtain ⟨kind, known, run⟩ := lift_bind_eq_ok.1 run
  obtain ⟨validator, named, run⟩ := lift_bind_eq_ok.1 run
  cases run
  exact ⟨keyspace, family, kind, validator, inUse, found, known, named, rfl⟩

/-! ### Commands on the schema -/

theorem schemaChange_eq_ok {change : Store.Call String} :
    (do return Outcome.schemaChanged (← call change)) state supply = ((.ok outcome, after), left) ↔
      ∃ version store, change state.store = (.ok version, store) ∧
        outcome = .schemaChanged version ∧ after = { state with store } ∧ left = supply := by
  refine call_bind_eq_ok.trans (exists_congr fun version => exists_congr fun store =>
    and_congr_right fun _ => ?_)
  constructor
  · intro run
    cases run
    exact ⟨rfl, rfl, rfl⟩
  · rintro ⟨rfl, rfl, rfl⟩
    rfl

/-- Looking for a keyspace needs a connection, and changes nothing. -/
theorem findKeyspace_bind_eq_ok {α : Type} {name : String} {next : Option Keyspace → Action α}
    {value : α} :
    (findKeyspace name >>= next) state supply = ((.ok value, after), left) ↔
      ∃ keyspaces, state.store.describeSchema = .ok keyspaces ∧
        next (Keyspace.find? keyspaces name) state supply = ((.ok value, after), left) := by
  rw [findKeyspace, bind_assoc]
  refine get_bind_eq_ok.trans ?_
  rw [bind_assoc]
  exact lift_bind_eq_ok

theorem useKeyspace_ok {name : String}
    (run : useKeyspace name state supply = ((.ok outcome, after), left)) :
    ∃ keyspaces keyspace store, state.store.describeSchema = .ok keyspaces ∧
      Keyspace.find? keyspaces name = some keyspace ∧
      Store.selectKeyspace keyspace.name state.store = (.ok (), store) ∧
      after = { session := { state.session with keyspace := some keyspace.name }, store } ∧
      outcome = .keyspaceSelected keyspace.name := by
  obtain ⟨keyspaces, described, run⟩ := findKeyspace_bind_eq_ok.1 run
  cases found : Keyspace.find? keyspaces name with
  | none =>
    rw [found] at run
    cases run
  | some keyspace =>
    rw [found] at run
    obtain ⟨_, store, called, run⟩ := call_bind_eq_ok.1 run
    cases run
    exact ⟨keyspaces, keyspace, store, described, found, called, rfl, rfl⟩

theorem createKeyspace_eq_ok {name : String} {attributes : Attributes} :
    createKeyspace name attributes state supply = ((.ok outcome, after), left) ↔
      ∃ keyspaces keyspace version store, state.store.describeSchema = .ok keyspaces ∧
        Keyspace.find? keyspaces name = none ∧
        Keyspace.withAttributes { name } attributes = .ok keyspace ∧
        Store.createKeyspace keyspace state.store = (.ok version, store) ∧
        outcome = .schemaChanged version ∧ after = { state with store } ∧ left = supply := by
  constructor
  · intro run
    obtain ⟨keyspaces, described, run⟩ := findKeyspace_bind_eq_ok.1 run
    dsimp only at run
    split at run
    · cases run
    · rename_i free
      obtain ⟨keyspace, applied, run⟩ := lift_bind_eq_ok.1 run
      obtain ⟨version, store, called, rest⟩ := schemaChange_eq_ok.1 run
      exact ⟨keyspaces, keyspace, version, store, described, by simpa using free, applied, called,
        rest⟩
  · rintro ⟨keyspaces, keyspace, version, store, described, free, applied, called, rest⟩
    refine findKeyspace_bind_eq_ok.2 ⟨keyspaces, described, ?_⟩
    rw [free]
    exact lift_bind_eq_ok.2 ⟨keyspace, applied,
      schemaChange_eq_ok.2 ⟨version, store, called, rest⟩⟩

theorem createKeyspace_ok {name : String} {attributes : Attributes}
    (run : createKeyspace name attributes state supply = ((.ok outcome, after), left)) :
    ∃ keyspace version store, Keyspace.withAttributes { name } attributes = .ok keyspace ∧
      Store.createKeyspace keyspace state.store = (.ok version, store) ∧
      after = { state with store } := by
  obtain ⟨_, keyspace, version, store, -, -, applied, called, -, same, -⟩ :=
    createKeyspace_eq_ok.1 run
  exact ⟨keyspace, version, store, applied, called, same⟩

/-- A keyspace that has to exist is found among all of them. -/
theorem existingKeyspace_bind_eq_ok {α : Type} {name : String} {next : Keyspace → Action α}
    {value : α} :
    (existingKeyspace name >>= next) state supply = ((.ok value, after), left) ↔
      ∃ keyspaces keyspace, state.store.describeSchema = .ok keyspaces ∧
        Keyspace.find? keyspaces name = some keyspace ∧
        next keyspace state supply = ((.ok value, after), left) := by
  rw [existingKeyspace, bind_assoc]
  refine findKeyspace_bind_eq_ok.trans ⟨?_, ?_⟩
  · rintro ⟨keyspaces, described, run⟩
    cases found : Keyspace.find? keyspaces name with
    | none =>
      rw [found] at run
      cases run
    | some keyspace =>
      rw [found] at run
      exact ⟨keyspaces, keyspace, described, found, run⟩
  · rintro ⟨keyspaces, keyspace, described, found, run⟩
    refine ⟨keyspaces, described, ?_⟩
    rw [found]
    exact run

theorem updateKeyspace_eq_ok {name : String} {attributes : Attributes} :
    updateKeyspace name attributes state supply = ((.ok outcome, after), left) ↔
      ∃ keyspaces old keyspace version store, state.store.describeSchema = .ok keyspaces ∧
        Keyspace.find? keyspaces name = some old ∧ old.withAttributes attributes = .ok keyspace ∧
        Store.updateKeyspace keyspace state.store = (.ok version, store) ∧
        outcome = .schemaChanged version ∧ after = { state with store } ∧ left = supply := by
  constructor
  · intro run
    obtain ⟨keyspaces, old, described, found, run⟩ := existingKeyspace_bind_eq_ok.1 run
    obtain ⟨keyspace, applied, run⟩ := lift_bind_eq_ok.1 run
    obtain ⟨version, store, called, rest⟩ := schemaChange_eq_ok.1 run
    exact ⟨keyspaces, old, keyspace, version, store, described, found, applied, called, rest⟩
  · rintro ⟨keyspaces, old, keyspace, version, store, described, found, applied, called, rest⟩
    exact existingKeyspace_bind_eq_ok.2 ⟨keyspaces, old, described, found,
      lift_bind_eq_ok.2 ⟨keyspace, applied,
        schemaChange_eq_ok.2 ⟨version, store, called, rest⟩⟩⟩

theorem updateKeyspace_ok {name : String} {attributes : Attributes}
    (run : updateKeyspace name attributes state supply = ((.ok outcome, after), left)) :
    ∃ keyspaces old keyspace version store, state.store.describeSchema = .ok keyspaces ∧
      Keyspace.find? keyspaces name = some old ∧ old.withAttributes attributes = .ok keyspace ∧
      Store.updateKeyspace keyspace state.store = (.ok version, store) ∧
      after = { state with store } := by
  obtain ⟨keyspaces, old, keyspace, version, store, described, found, applied, called, -, same, -⟩ :=
    updateKeyspace_eq_ok.1 run
  exact ⟨keyspaces, old, keyspace, version, store, described, found, applied, called, same⟩

theorem dropKeyspace_eq_ok {name : String} :
    dropKeyspace name state supply = ((.ok outcome, after), left) ↔
      ∃ keyspaces keyspace version store, state.store.describeSchema = .ok keyspaces ∧
        Keyspace.find? keyspaces name = some keyspace ∧
        Store.dropKeyspace keyspace.name state.store = (.ok version, store) ∧
        outcome = .schemaChanged version ∧
        after = {
          session :=
            if state.session.keyspace = some keyspace.name then
              { state.session with keyspace := none }
            else state.session
          store } ∧ left = supply := by
  constructor
  · intro run
    obtain ⟨keyspaces, keyspace, described, found, run⟩ := existingKeyspace_bind_eq_ok.1 run
    obtain ⟨version, store, called, run⟩ := call_bind_eq_ok.1 run
    cases run
    exact ⟨keyspaces, keyspace, version, store, described, found, called, rfl, rfl, rfl⟩
  · rintro ⟨keyspaces, keyspace, version, store, described, found, called, rfl, rfl, rfl⟩
    exact existingKeyspace_bind_eq_ok.2 ⟨keyspaces, keyspace, described, found,
      call_bind_eq_ok.2 ⟨version, store, called, rfl⟩⟩

theorem dropKeyspace_ok {name : String}
    (run : dropKeyspace name state supply = ((.ok outcome, after), left)) :
    ∃ keyspaces keyspace version store, state.store.describeSchema = .ok keyspaces ∧
      Keyspace.find? keyspaces name = some keyspace ∧
      Store.dropKeyspace keyspace.name state.store = (.ok version, store) ∧
      after = {
        session :=
          if state.session.keyspace = some keyspace.name then
            { state.session with keyspace := none }
          else state.session
        store } := by
  obtain ⟨keyspaces, keyspace, version, store, described, found, called, -, same, -⟩ :=
    dropKeyspace_eq_ok.1 run
  exact ⟨keyspaces, keyspace, version, store, described, found, called, same⟩

theorem createFamily_eq_ok {name : String} {attributes : Attributes} :
    createFamily name attributes state supply = ((.ok outcome, after), left) ↔
      ∃ keyspace family version store, state.keyspace = .ok keyspace ∧
        keyspace.family? name = none ∧
        ColumnFamily.withAttributes { keyspace := keyspace.name, name } attributes supply =
          (.ok family, left) ∧
        Store.createFamily family state.store = (.ok version, store) ∧
        outcome = .schemaChanged version ∧ after = { state with store } := by
  constructor
  · intro run
    obtain ⟨keyspace, inUse, run⟩ := lift_bind_eq_ok.1 (get_bind_eq_ok.1 run)
    dsimp only at run
    split at run
    · cases run
    · rename_i free
      obtain ⟨family, drawn, applied, run⟩ := draw_bind_eq_ok.1 run
      obtain ⟨version, store, called, shown, same, rfl⟩ := schemaChange_eq_ok.1 run
      exact ⟨keyspace, family, version, store, inUse, by simpa using free, applied, called, shown,
        same⟩
  · rintro ⟨keyspace, family, version, store, inUse, free, applied, called, shown, same⟩
    refine get_bind_eq_ok.2 (lift_bind_eq_ok.2 ⟨keyspace, inUse, ?_⟩)
    dsimp only
    rw [free]
    exact draw_bind_eq_ok.2 ⟨family, left, applied,
      schemaChange_eq_ok.2 ⟨version, store, called, shown, same, rfl⟩⟩

theorem createFamily_ok {name : String} {attributes : Attributes}
    (run : createFamily name attributes state supply = ((.ok outcome, after), left)) :
    ∃ keyspace family version store, state.keyspace = .ok keyspace ∧
      keyspace.family? name = none ∧
      ColumnFamily.withAttributes { keyspace := keyspace.name, name } attributes supply =
        (.ok family, left) ∧
      Store.createFamily family state.store = (.ok version, store) ∧
      after = { state with store } := by
  obtain ⟨keyspace, family, version, store, inUse, free, applied, called, -, same⟩ :=
    createFamily_eq_ok.1 run
  exact ⟨keyspace, family, version, store, inUse, free, applied, called, same⟩

theorem updateFamily_eq_ok {name : String} {attributes : Attributes} :
    updateFamily name attributes state supply = ((.ok outcome, after), left) ↔
      ∃ keyspace old family version store, state.keyspace = .ok keyspace ∧
        keyspace.family name = .ok old ∧ old.withAttributes attributes supply = (.ok family, left) ∧
        Store.updateFamily family state.store = (.ok version, store) ∧
        outcome = .schemaChanged version ∧ after = { state with store } := by
  constructor
  · intro run
    obtain ⟨keyspace, inUse, run⟩ := lift_bind_eq_ok.1 (get_bind_eq_ok.1 run)
    obtain ⟨old, found, run⟩ := lift_bind_eq_ok.1 run
    obtain ⟨family, drawn, applied, run⟩ := draw_bind_eq_ok.1 run
    obtain ⟨version, store, called, shown, same, rfl⟩ := schemaChange_eq_ok.1 run
    exact ⟨keyspace, old, family, version, store, inUse, found, applied, called, shown, same⟩
  · rintro ⟨keyspace, old, family, version, store, inUse, found, applied, called, shown, same⟩
    refine get_bind_eq_ok.2 (lift_bind_eq_ok.2 ⟨keyspace, inUse, ?_⟩)
    refine lift_bind_eq_ok.2 ⟨old, found, draw_bind_eq_ok.2 ⟨family, left, applied, ?_⟩⟩
    exact schemaChange_eq_ok.2 ⟨version, store, called, shown, same, rfl⟩

theorem updateFamily_ok {name : String} {attributes : Attributes}
    (run : updateFamily name attributes state supply = ((.ok outcome, after), left)) :
    ∃ keyspace old family version store, state.keyspace = .ok keyspace ∧
      keyspace.family name = .ok old ∧ old.withAttributes attributes supply = (.ok family, left) ∧
      Store.updateFamily family state.store = (.ok version, store) ∧
      after = { state with store } := by
  obtain ⟨keyspace, old, family, version, store, inUse, found, applied, called, -, same⟩ :=
    updateFamily_eq_ok.1 run
  exact ⟨keyspace, old, family, version, store, inUse, found, applied, called, same⟩

theorem dropFamily_eq_ok {name : String} :
    dropFamily name state supply = ((.ok outcome, after), left) ↔
      ∃ keyspace family version store, state.keyspace = .ok keyspace ∧
        keyspace.family name = .ok family ∧
        Store.dropFamily family.name state.store = (.ok version, store) ∧
        outcome = .schemaChanged version ∧ after = { state with store } ∧ left = supply := by
  constructor
  · intro run
    obtain ⟨keyspace, inUse, run⟩ := lift_bind_eq_ok.1 (get_bind_eq_ok.1 run)
    obtain ⟨family, found, run⟩ := lift_bind_eq_ok.1 run
    obtain ⟨version, store, called, rest⟩ := schemaChange_eq_ok.1 run
    exact ⟨keyspace, family, version, store, inUse, found, called, rest⟩
  · rintro ⟨keyspace, family, version, store, inUse, found, called, rest⟩
    refine get_bind_eq_ok.2 (lift_bind_eq_ok.2 ⟨keyspace, inUse, ?_⟩)
    exact lift_bind_eq_ok.2 ⟨family, found, schemaChange_eq_ok.2 ⟨version, store, called, rest⟩⟩

theorem dropFamily_ok {name : String}
    (run : dropFamily name state supply = ((.ok outcome, after), left)) :
    ∃ keyspace family version store, state.keyspace = .ok keyspace ∧
      keyspace.family name = .ok family ∧
      Store.dropFamily family.name state.store = (.ok version, store) ∧
      after = { state with store } := by
  obtain ⟨keyspace, family, version, store, inUse, found, called, -, same, -⟩ :=
    dropFamily_eq_ok.1 run
  exact ⟨keyspace, family, version, store, inUse, found, called, same⟩

theorem dropIndex_ok {name : String} {column : Literal}
    (run : dropIndex name column state supply = ((.ok outcome, after), left)) :
    ∃ resolver data version store, state.resolver name = .ok resolver ∧
      resolver.encodeColumn column supply = (.ok data, left) ∧
      Store.dropIndex resolver.family.name data state.store = (.ok version, store) ∧
      after = { state with store } := by
  obtain ⟨resolver, resolved, run⟩ := lift_bind_eq_ok.1 (get_bind_eq_ok.1 run)
  obtain ⟨data, drawn, encoded, run⟩ := draw_bind_eq_ok.1 run
  dsimp only at run
  split at run
  · obtain ⟨version, store, called, run⟩ := call_bind_eq_ok.1 run
    cases run
    exact ⟨resolver, data, version, store, resolved, encoded, called, rfl⟩
  · cases run

end WideColumn.Action
