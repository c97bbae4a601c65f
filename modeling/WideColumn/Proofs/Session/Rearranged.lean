import WideColumn.Proofs.Schema.Rearranged
import WideColumn.Proofs.Session.Counters
import WideColumn.Proofs.Session.Readback

/-!
# Definitions with their attributes in another order

Two statements that make or update one definition with the same attributes, in whatever orders, both
succeed or both fail. Keyspaces then differ in their options at most
(`State.keyspace_of_rearranged`), and column families in the order of theirs.
-/

namespace WideColumn

/-- What a statement does with a definition. -/
inductive Defining where
  | create
  | update
  deriving DecidableEq, Repr

namespace Defining

/-- The command that defines a keyspace. -/
def keyspace : Defining → String → Attributes → Command
  | create => .createKeyspace
  | update => .updateKeyspace

/-- The command that defines a column family. -/
def family : Defining → String → Attributes → Command
  | create => .createFamily
  | update => .updateFamily

end Defining

/-- Whether two keyspaces come from one by the same attributes, for each in an order of its own. -/
def Keyspace.Rearranged (attributes others : Attributes) (made remade : Keyspace) : Prop :=
  ∃ before : Keyspace, before.withAttributes attributes = .ok made ∧
    before.withAttributes others = .ok remade

/-! ### Columns and the literals that name them -/

/-- The validator that a definition declares for the names of columns with a value. -/
def ColumnFamily.innermostComparator (family : ColumnFamily) : Option String :=
  if family.isSuper then family.subcomparatorType else family.comparatorType

namespace Resolver

variable {resolver : Resolver} {attributes : Attributes} {supply left : Supply}

/-- Whether the items of a list define the columns of a column family, each for the plain literals with
the text of its name: such a literal stands for the name, unless it asks for a fresh identifier, and
values of this name are read by the validator that the item gives, unless an earlier column has the
name. -/
def DefinedBy (resolver : Resolver) (items : List AttributeItem) : Prop :=
  resolver.family.columnMetadata.length = items.length ∧
    ∀ i item column, items[i]? = some item → resolver.family.columnMetadata[i]? = some column →
      ∃ text validation validator, item.part? "column_name" = some text ∧
        item.part? "validation_class" = some validation ∧
        Validator.named validation = .ok validator ∧
        ((resolver.columnNameValidator = .ok .timeUuid → Text.lowered text ≠ "now") →
          (resolver.encodeColumn (.plain text)).Gives column.name) ∧
        ((∀ earlier ∈ resolver.family.columnMetadata.take i, earlier.name ≠ column.name) →
          resolver.valueValidator (some column.name) = .ok validator)

/-- A validator that is declared for column names is chosen whatever a session assumes. -/
theorem columnNameValidator_of_declared {name : String}
    (declared : resolver.family.innermostComparator = some name) :
    resolver.columnNameValidator = Validator.named name := by
  unfold ColumnFamily.innermostComparator at declared
  unfold columnNameValidator comparator subcomparator
  split at declared <;> simp only [*, if_true, if_false, Bool.false_eq_true, choose,
    declaredValidator] <;> cases Validator.named name <;> rfl

/-- The first definition for a column name says how the values of this name are read. -/
theorem valueValidator_of_first {i : Nat} {column : ColumnDefinition}
    (defined : resolver.family.columnMetadata[i]? = some column)
    (first : ∀ earlier ∈ resolver.family.columnMetadata.take i, earlier.name ≠ column.name) :
    resolver.valueValidator (some column.name) = Validator.named column.validationClass := by
  obtain ⟨bound, rfl⟩ := List.getElem?_eq_some_iff.1 defined
  have found : resolver.family.column? resolver.family.columnMetadata[i].name =
      some resolver.family.columnMetadata[i] := by
    refine List.find?_eq_some_iff_getElem.2 ⟨beq_self_eq_true _, i, bound, rfl, fun j before => ?_⟩
    have earlier := first _ (List.mem_take_iff_getElem.2 ⟨j, by omega, rfl⟩)
    simpa using earlier
  unfold valueValidator valueChoice
  rw [Option.bind_some, found]
  dsimp only
  cases Validator.named resolver.family.columnMetadata[i].validationClass <;> rfl

/-- Columns that attributes define are found by the texts of their names, if the validator of these is
declared. -/
theorem definedBy_of_withAttributes {family : ColumnFamily} {items : List AttributeItem}
    (given : attributes.get? "column_metadata" = some (.list items))
    (declared : resolver.family.innermostComparator.isSome = true)
    (run : family.withAttributes attributes supply = (.ok resolver.family, left)) :
    resolver.DefinedBy items := by
  obtain ⟨plain, -, -, run⟩ := ColumnFamily.withAttributes_eq_ok.1 run
  rw [given] at run
  obtain ⟨columns, read, made⟩ := run
  obtain ⟨_, nameValidator, same, chosen, defined⟩ := ColumnFamily.columnsOf_ok read
  cases same
  obtain ⟨name, declares⟩ := Option.isSome_iff_exists.1 declared
  -- The columns were named before they were in the definition, and without assumptions.
  have chosenNow : resolver.columnNameValidator = .ok nameValidator := by
    rw [columnNameValidator_of_declared declares, ← chosen]
    refine (columnNameValidator_of_declared ?_).symm
    rw [← declares, made]
    rfl
  have held : resolver.family.columnMetadata = columns := congrArg ColumnFamily.columnMetadata made
  refine ⟨held ▸ defined.length_eq.symm, fun i item column listed present => ?_⟩
  obtain ⟨bound, rfl⟩ := List.getElem?_eq_some_iff.1 listed
  rw [held] at present
  obtain ⟨within, rfl⟩ := List.getElem?_eq_some_iff.1 present
  obtain ⟨before, after, drawn⟩ := (List.forall₂_iff_get.1 defined).2 i bound within
  obtain ⟨text, validation, validator, named, validated, encoded, known, kept⟩ :=
    ColumnFamily.columnOf_ok drawn
  refine ⟨text, validation, validator, named, validated, known, fun fixed => ?_, fun first => ?_⟩
  · have plainly : ∀ chosen, resolver.columnNameValidator = .ok chosen →
        chosen.isNow text = false := by
      intro chosen names
      by_cases time : chosen = .timeUuid
      · rw [Validator.isNow, beq_false_of_ne (fixed (time ▸ names)), Bool.and_false]
      · rw [Validator.isNow, beq_false_of_ne time, Bool.false_and]
    have again : encodeWith resolver.columnNameValidator (.plain text) before =
        (.ok columns[i].name, after) := by
      rw [chosenNow]
      exact encoded
    obtain ⟨_, -, -, -, gives⟩ := encodeWith_ok plainly again
    exact gives
  · have classified : Validator.named columns[i].validationClass = .ok validator := by
      rw [show columns[i].validationClass = validator.className from kept, Validator.named,
        validator.find?_className]
    rw [valueValidator_of_first (held ▸ present) first, classified]

end Resolver

namespace Store

variable {store after : Store} {version : String} {keyspace : Keyspace}

/-- A keyspace that is created without column families is found by its name. -/
theorem find?_of_createKeyspace (bare : keyspace.families = [])
    (run : createKeyspace keyspace store = (.ok version, after)) :
    Keyspace.find? after.keyspaces keyspace.name = some keyspace := by
  obtain ⟨free, rfl⟩ := createKeyspace_ok run
  have made : ({ keyspace with families := keyspace.families.map fun family =>
      { family with keyspace := keyspace.name } } : Keyspace) = keyspace := by
    rw [bare]
    obtain ⟨_, _, _, _, _⟩ := keyspace
    cases bare
    rfl
  show Keyspace.find? (store.keyspaces ++ [_]) _ = _
  rw [made, Keyspace.find?, List.find?_append]
  rw [Keyspace.find?] at free
  rw [free]
  simp [Text.sameIgnoringCase]

/-- A keyspace that is updated with the column families that it has is found where it was. -/
theorem find?_of_updateKeyspace (distinct : Keyspace.DistinctNames store.keyspaces) {name : String}
    {old : Keyspace} (known : Keyspace.find? store.keyspaces name = some old)
    (named : keyspace.name = old.name) (families : keyspace.families = old.families)
    (run : updateKeyspace keyspace store = (.ok version, after)) :
    Keyspace.find? after.keyspaces name = some keyspace := by
  obtain ⟨replaced, found, rfl⟩ := updateKeyspace_ok run
  obtain ⟨mem, same⟩ := of_keyspace?_eq_some found
  obtain rfl : replaced = old :=
    distinct.eq mem (List.mem_of_find?_eq_some known) (same.trans named)
  show (store.withKeyspace _).keyspaces.find? _ = _
  rw [find?_withKeyspace fun old => Text.sameIgnoringCase old name]
  rw [Keyspace.find?] at known
  rw [known, Option.map_some, if_pos (beq_iff_eq.2 same), ← families]

end Store

namespace Action

variable {state after : State} {supply left : Supply} {outcome : Outcome} {name : String}
  {attributes others : Attributes}

/-! ### Keyspaces -/

theorem isConnected_of_describeSchema {keyspaces : List Keyspace}
    (described : state.store.describeSchema = .ok keyspaces) : state.store.isConnected = true := by
  obtain ⟨_, checked, -⟩ := WideColumn.bind_eq_ok.1 described
  exact Store.requireConnected_eq_ok.1 checked

/-- A keyspace that can be created can be created with its attributes in another order. -/
theorem createKeyspace_of_perm (perm : attributes.entries.Perm others.entries)
    (run : createKeyspace name attributes state supply = ((.ok outcome, after), left)) :
    ∃ version again made remade,
      createKeyspace name others state supply = ((.ok (.schemaChanged version), again), left) ∧
        Keyspace.Rearranged attributes others made remade ∧
        Keyspace.find? after.store.keyspaces name = some made ∧
        Keyspace.find? again.store.keyspaces name = some remade := by
  obtain ⟨keyspaces, made, _, store, described, free, applied, called, -, rfl, rfl⟩ :=
    createKeyspace_eq_ok.1 run
  obtain ⟨remade, reapplied⟩ := Keyspace.exists_withAttributes_of_perm perm applied
  have named : made.name = name := Keyspace.name_of_withAttributes applied
  have renamed : remade.name = name := Keyspace.name_of_withAttributes reapplied
  have vacant : Keyspace.find? state.store.keyspaces remade.name = none :=
    renamed ▸ named ▸ (Store.createKeyspace_ok called).1
  obtain ⟨version, succeeded⟩ := (Store.failsOnly_createKeyspace
    (isConnected_of_describeSchema described) vacant).succeeds
  have recalled : Store.createKeyspace remade state.store =
      (.ok version, (Store.createKeyspace remade state.store).2) := Prod.ext succeeded rfl
  refine ⟨version, _, made, remade, createKeyspace_eq_ok.2 ⟨keyspaces, remade, version, _,
    described, free, reapplied, recalled, rfl, rfl, rfl⟩, ⟨_, applied, reapplied⟩, ?_, ?_⟩
  · have found := Store.find?_of_createKeyspace (Keyspace.families_of_withAttributes applied) called
    rwa [named] at found
  · have found :=
      Store.find?_of_createKeyspace (Keyspace.families_of_withAttributes reapplied) recalled
    rwa [renamed] at found

/-- A keyspace that can be updated can be updated with its attributes in another order. -/
theorem updateKeyspace_of_perm (distinct : Keyspace.DistinctNames state.store.keyspaces)
    (perm : attributes.entries.Perm others.entries)
    (run : updateKeyspace name attributes state supply = ((.ok outcome, after), left)) :
    ∃ version again made remade,
      updateKeyspace name others state supply = ((.ok (.schemaChanged version), again), left) ∧
        Keyspace.Rearranged attributes others made remade ∧
        Keyspace.find? after.store.keyspaces name = some made ∧
        Keyspace.find? again.store.keyspaces name = some remade := by
  obtain ⟨keyspaces, old, made, _, store, described, found, applied, called, -, rfl, rfl⟩ :=
    updateKeyspace_eq_ok.1 run
  obtain ⟨remade, reapplied⟩ := Keyspace.exists_withAttributes_of_perm perm applied
  have named : made.name = old.name := Keyspace.name_of_withAttributes applied
  have renamed : remade.name = old.name := Keyspace.name_of_withAttributes reapplied
  have held : Keyspace.find? state.store.keyspaces name = some old := by
    rwa [← distinct.find?_of_perm (Store.describeSchema_perm described)]
  obtain ⟨replaced, exact, -⟩ := Store.updateKeyspace_ok called
  rw [named, ← renamed] at exact
  obtain ⟨version, succeeded⟩ := (Store.failsOnly_updateKeyspace
    (isConnected_of_describeSchema described) exact).succeeds
  have recalled : Store.updateKeyspace remade state.store =
      (.ok version, (Store.updateKeyspace remade state.store).2) := Prod.ext succeeded rfl
  exact ⟨version, _, made, remade, updateKeyspace_eq_ok.2 ⟨keyspaces, old, remade, version, _,
      described, found, reapplied, recalled, rfl, rfl, rfl⟩, ⟨_, applied, reapplied⟩,
    Store.find?_of_updateKeyspace distinct held named
      (Keyspace.families_of_withAttributes applied) called,
    Store.find?_of_updateKeyspace distinct held renamed
      (Keyspace.families_of_withAttributes reapplied) recalled⟩

end Action

namespace State

variable {state after : State} {supply left : Supply} {name : String}
  {attributes others : Attributes} {defining : Defining}

theorem reply_of_schemaChanged (request : Request) {command : Command} {version : String}
    (parsed : Command.parse request.text = .ok command)
    (run : Action.execute request.moment command state request.supply =
      ((.ok (.schemaChanged version), after), left)) :
    (state.reply request).isSuccess = true ∧ state.after request = after := by
  unfold reply State.after
  rw [answer_of_parsed parsed, run]
  exact ⟨rfl, rfl⟩

theorem execute_keyspace_of_perm (distinct : Keyspace.DistinctNames state.store.keyspaces)
    (perm : attributes.entries.Perm others.entries) {moment : Moment} {outcome : Outcome}
    (run : Action.execute moment (defining.keyspace name attributes) state supply =
      ((.ok outcome, after), left)) :
    ∃ version again made remade,
      Action.execute moment (defining.keyspace name others) state supply =
          ((.ok (.schemaChanged version), again), left) ∧
        Keyspace.Rearranged attributes others made remade ∧
        Keyspace.find? after.store.keyspaces name = some made ∧
        Keyspace.find? again.store.keyspaces name = some remade := by
  cases defining with
  | create =>
    obtain ⟨checked, run⟩ := requireConnected_bind_eq_ok.1 run
    obtain ⟨version, again, made, remade, rerun, rest⟩ := Action.createKeyspace_of_perm perm run
    exact ⟨version, again, made, remade, requireConnected_bind_eq_ok.2 ⟨checked, rerun⟩, rest⟩
  | update =>
    obtain ⟨checked, run⟩ := requireConnected_bind_eq_ok.1 run
    obtain ⟨version, again, made, remade, rerun, rest⟩ :=
      Action.updateKeyspace_of_perm distinct perm run
    exact ⟨version, again, made, remade, requireConnected_bind_eq_ok.2 ⟨checked, rerun⟩, rest⟩

theorem keyspace_of_perm (request : Request) (text : String)
    (distinct : Keyspace.DistinctNames state.store.keyspaces)
    (perm : attributes.entries.Perm others.entries)
    (parsed : Command.parse request.text = .ok (defining.keyspace name attributes))
    (reparsed : Command.parse text = .ok (defining.keyspace name others))
    (succeeded : (state.reply request).isSuccess = true) :
    (state.reply { request with text }).isSuccess = true ∧
      ∃ made remade, Keyspace.Rearranged attributes others made remade ∧
        Keyspace.find? (state.after request).store.keyspaces name = some made ∧
        Keyspace.find? (state.after { request with text }).store.keyspaces name = some remade := by
  obtain ⟨outcome, after, left, run, same⟩ := execute_of_isSuccess parsed succeeded
  obtain ⟨version, again, made, remade, rerun, origin, found, refound⟩ :=
    execute_keyspace_of_perm distinct perm run
  obtain ⟨success, reached⟩ := reply_of_schemaChanged { request with text } reparsed rerun
  refine ⟨success, made, remade, origin, ?_, ?_⟩
  · rw [State.after, same]
    exact found
  · rw [reached]
    exact refound

/-- Two statements that create or update a keyspace with the same attributes in two orders both
succeed or both fail. When they succeed the keyspace is the same but for its options. These are the
same just if both orders or none of them give a replication factor first and then all options, which
leave it out, or if the options name that very factor. So a factor that is given is kept but where
options come after it that do not name it. -/
theorem keyspace_of_rearranged (reachable : Reachable state) (request : Request) (text : String)
    (perm : attributes.entries.Perm others.entries)
    (parsed : Command.parse request.text = .ok (defining.keyspace name attributes))
    (reparsed : Command.parse text = .ok (defining.keyspace name others)) :
    (state.reply { request with text }).isSuccess = (state.reply request).isSuccess ∧
      ((state.reply request).isSuccess = true →
        ∃ made remade,
          Keyspace.find? (state.after request).store.keyspaces name = some made ∧
          Keyspace.find? (state.after { request with text }).store.keyspaces name = some remade ∧
          remade = { made with strategyOptions := remade.strategyOptions } ∧
          ((∀ option, remade.strategyOptions.get? option = made.strategyOptions.get? option) ↔
            (attributes.LosesFactor ↔ others.LosesFactor) ∨
              attributes.factorInOptions? = attributes.factor?) ∧
          ∀ factor, attributes.factor? = some factor →
            (made.strategyOptions.get? "replication_factor" = some factor ↔
              ¬attributes.LosesFactor ∨ attributes.factorInOptions? = some factor)) := by
  have distinct := reachable.sound.filed.distinct
  refine ⟨Bool.eq_iff_iff.2 ⟨fun succeeded => ?_, fun succeeded => ?_⟩, fun succeeded => ?_⟩
  · exact (keyspace_of_perm { request with text } request.text distinct perm.symm reparsed parsed
      succeeded).1
  · exact (keyspace_of_perm request text distinct perm parsed reparsed succeeded).1
  · obtain ⟨-, made, remade, ⟨before, applied, reapplied⟩, found, refound⟩ :=
      keyspace_of_perm request text distinct perm parsed reparsed succeeded
    exact ⟨made, remade, found, refound, Keyspace.withAttributes_of_perm perm applied reapplied,
      Keyspace.sameOptions_iff perm applied reapplied,
      fun factor given => Keyspace.factor_of_withAttributes applied given⟩

/-- Options before a factor leave it in, wherever the attributes between them stand. -/
theorem keyspace_of_rearranged_durable :
    let request : Request :=
      { text := "create keyspace k with strategy_options=[\x7ba:1\x7d] and durable_writes=false " ++
          "and replication_factor=3;"
        moment := { now := 0 }, newline := "\n", supply := ⟨id, id, 0, 0⟩ }
    let text := "create keyspace k with durable_writes=false and strategy_options=[\x7ba:1\x7d] " ++
      "and replication_factor=3;"
    let state := initial "c" true
    (state.reply { request with text }).isSuccess = true ∧
      ∃ made remade,
        Keyspace.find? (state.after request).store.keyspaces "k" = some made ∧
        Keyspace.find? (state.after { request with text }).store.keyspaces "k" = some remade ∧
        (∀ option, remade.strategyOptions.get? option = made.strategyOptions.get? option) ∧
        made.strategyOptions.get? "replication_factor" = some "3" := by
  intro request text state
  let whole : AttributeValue := .list [.hash ⟨[("a", "1")], by decide +kernel⟩]
  let attributes : Attributes := ⟨[("strategy_options", whole), ("durable_writes", .text "false"),
    ("replication_factor", .text "3")], by decide +kernel⟩
  let others : Attributes := ⟨[("durable_writes", .text "false"), ("strategy_options", whole),
    ("replication_factor", .text "3")], by decide +kernel⟩
  have perm : attributes.entries.Perm others.entries := List.Perm.swap _ _ _
  have parsed : Command.parse request.text = .ok (Defining.create.keyspace "k" attributes) := by
    decide +kernel
  have reparsed : Command.parse text = .ok (Defining.create.keyspace "k" others) := by
    decide +kernel
  have succeeded : (state.reply request).isSuccess = true := by decide +kernel
  have reachable : Reachable state := reachable_initial "c" true
  obtain ⟨both, defines⟩ := keyspace_of_rearranged reachable request text perm parsed reparsed
  obtain ⟨made, remade, found, refound, -, same, kept⟩ := defines succeeded
  have keeps : ¬attributes.LosesFactor := by decide +kernel
  have given : attributes.factor? = some "3" := by decide +kernel
  exact ⟨both.trans succeeded, made, remade, found, refound,
    same.2 (.inl (iff_of_false keeps (by decide +kernel))), (kept "3" given).2 (.inl keeps)⟩

/-- A factor is lost when all options come after it. -/
theorem keyspace_of_rearranged_lost :
    let define (text : String) : Request :=
      { text, moment := { now := 0 }, newline := "\n", supply := ⟨id, id, 0, 0⟩ }
    let first := define ("create keyspace k with strategy_options=[\x7ba:1\x7d] and " ++
      "replication_factor=3;")
    let second := define ("create keyspace k with replication_factor=3 and " ++
      "strategy_options=[\x7ba:1\x7d];")
    let factor (request : Request) : Option (Option String) :=
      (Keyspace.find? ((initial "c" true).after request).store.keyspaces "k").map fun keyspace =>
        keyspace.strategyOptions.get? "replication_factor"
    ((initial "c" true).reply first).isSuccess = true ∧
      ((initial "c" true).reply second).isSuccess = true ∧
      factor first = some (some "3") ∧ factor second = some none := by
  decide +kernel

/-! ### Column families -/

section Families

variable {keyspace : Keyspace} {old family : ColumnFamily} {store : Store} {version : String}

/-- The keyspace in use after a change of its column families. -/
theorem keyspace_of_withFamilies (inUse : state.keyspace = .ok keyspace)
    (families : List ColumnFamily) :
    State.keyspace { state with
      store := Store.counted (state.store.withKeyspace { keyspace with families }) } =
        .ok { keyspace with families } := by
  obtain ⟨name, required, inUse⟩ := bind_eq_ok.1 inUse
  obtain ⟨described, run, found⟩ := bind_eq_ok.1 inUse
  obtain ⟨_, checked, same⟩ := bind_eq_ok.1 run
  cases same
  split at found
  · rename_i held known
    cases found
    have replaced : Keyspace.find?
        (state.store.withKeyspace { keyspace with families }).keyspaces name =
          some { keyspace with families } := by
      rw [Keyspace.find?, Store.find?_withKeyspace fun other => Text.sameIgnoringCase other name]
      rw [Keyspace.find?] at known
      rw [known, Option.map_some, if_pos (beq_self_eq_true _)]
    refine bind_eq_ok.2 ⟨name, required, bind_eq_ok.2 ⟨some { keyspace with families },
      bind_eq_ok.2 ⟨(), checked, congrArg Except.ok replaced⟩, rfl⟩⟩
  · cases found

/-- A column family that was created is resolved by its name. -/
theorem resolver_of_createFamily (coherent : Coherent state)
    (filed : Keyspace.WellFiled state.store.keyspaces) (inUse : state.keyspace = .ok keyspace)
    (belongs : family.keyspace = keyspace.name)
    (called : Store.createFamily family state.store = (.ok version, store)) :
    State.resolver { state with store } family.name =
      .ok { family, assumptions := state.session.assumptionsFor family keyspace.name } := by
  obtain ⟨current, works, free, rfl⟩ := Store.createFamily_ok called
  obtain rfl : keyspace = current := keyspace_eq_current filed coherent.selected inUse works
  have own : { family with keyspace := keyspace.name } = family := by
    rw [← belongs]
  rw [own]
  refine bind_eq_ok.2 ⟨_, keyspace_of_withFamilies inUse _, bind_eq_ok.2 ⟨family, ?_, rfl⟩⟩
  unfold Keyspace.family? at free
  unfold Keyspace.family Keyspace.family?
  rw [List.find?_append, free]
  simp [Text.sameIgnoringCase]

/-- A column family that was updated is resolved by the names by which it was. -/
theorem resolver_of_updateFamily (coherent : Coherent state) (sound : state.store.Sound)
    (inUse : state.keyspace = .ok keyspace) (found : keyspace.family name = .ok old)
    (named : family.name = old.name)
    (called : Store.updateFamily family state.store = (.ok version, store)) :
    State.resolver { state with store } name =
      .ok { family, assumptions := state.session.assumptionsFor family keyspace.name } := by
  obtain ⟨current, replaced, works, known, -, rfl⟩ := Store.updateFamily_ok called
  obtain rfl : keyspace = current := keyspace_eq_current sound.filed coherent.selected inUse works
  rw [named, store_family_of_family coherent sound inUse found] at known
  cases known
  refine bind_eq_ok.2 ⟨_, keyspace_of_withFamilies inUse _, bind_eq_ok.2 ⟨family, ?_, rfl⟩⟩
  have names : ∀ other : ColumnFamily,
      (if other.name == old.name then family else other).name = other.name := by
    intro other
    split
    · rename_i same
      exact named.trans (beq_iff_eq.1 same).symm
    · rfl
  unfold Keyspace.family Keyspace.family? at found ⊢
  rw [List.find?_map]
  simp only [Function.comp_def, names]
  split at found
  · rename_i held exact
    cases found
    rw [exact, Option.map_some, if_pos (beq_self_eq_true _)]
  · cases found

end Families

/-- Whether attributes make a column family of one, and others one that is the same but for the order
of its options, with a name by which the two are resolved in two states. -/
def Remakes (attributes : Attributes) (name : String) (after again : State) : Prop :=
  ∃ resolver remade, after.resolver name = .ok resolver ∧
    again.resolver name = .ok { resolver with family := remade } ∧
    ColumnFamily.SameButOrder resolver.family remade ∧
    ∃ (before : ColumnFamily) (supply left : Supply),
      before.withAttributes attributes supply = (.ok resolver.family, left)

section Families

variable (coherent : Coherent state) (sound : state.store.Sound)
  (perm : attributes.entries.Perm others.entries)

include coherent sound perm

/-- A column family that can be created can be created with its attributes in another order. -/
theorem createFamily_of_perm {outcome : Outcome}
    (run : Action.createFamily name attributes state supply = ((.ok outcome, after), left)) :
    ∃ version again,
      Action.createFamily name others state supply = ((.ok (.schemaChanged version), again), left) ∧
        Remakes attributes name after again := by
  obtain ⟨keyspace, made, _, store, inUse, free, applied, called, -, rfl⟩ :=
    Action.createFamily_eq_ok.1 run
  obtain ⟨remade, reapplied, same⟩ := ColumnFamily.withAttributes_of_perm perm applied
  have comes := (ColumnFamily.comesFrom_of_withAttributes applied).1
  have comesAgain := (ColumnFamily.comesFrom_of_withAttributes reapplied).1
  obtain rfl : made.name = name := comes.name
  have renamed : remade.name = made.name := comesAgain.name
  have vacant : keyspace.family? remade.name = none := renamed ▸ free
  obtain ⟨version, succeeded⟩ := (Store.failsOnly_createFamily
    (currentKeyspace_of_keyspace coherent inUse) vacant).succeeds
  have recalled : Store.createFamily remade state.store =
      (.ok version, (Store.createFamily remade state.store).2) := Prod.ext succeeded rfl
  refine ⟨version, _, Action.createFamily_eq_ok.2 ⟨keyspace, remade, version, _, inUse, free,
    reapplied, recalled, rfl, rfl⟩, ⟨_, remade,
    resolver_of_createFamily coherent sound.filed inUse comes.keyspace called, ?_, same, _, _, _,
    applied⟩⟩
  have resolved :=
    resolver_of_createFamily coherent sound.filed inUse comesAgain.keyspace recalled
  rw [renamed, Session.assumptionsFor, renamed] at resolved
  exact resolved

/-- A column family that can be updated can be updated with its attributes in another order. -/
theorem updateFamily_of_perm {outcome : Outcome}
    (run : Action.updateFamily name attributes state supply = ((.ok outcome, after), left)) :
    ∃ version again,
      Action.updateFamily name others state supply = ((.ok (.schemaChanged version), again), left) ∧
        Remakes attributes name after again := by
  obtain ⟨keyspace, old, made, _, store, inUse, found, applied, called, -, rfl⟩ :=
    Action.updateFamily_eq_ok.1 run
  obtain ⟨remade, reapplied, same⟩ := ColumnFamily.withAttributes_of_perm perm applied
  have named : made.name = old.name := (ColumnFamily.comesFrom_of_withAttributes applied).1.name
  have renamed : remade.name = old.name := (ColumnFamily.comesFrom_of_withAttributes reapplied).1.name
  have known := store_family_of_family coherent sound inUse found
  -- What cannot be changed is the same in both orders.
  have fixed : Store.fixedDifference? old remade = none := by
    obtain ⟨_, replaced, -, exact, fits, -⟩ := Store.updateFamily_ok called
    rw [named, known] at exact
    cases exact
    rw [same.rest]
    exact fits
  obtain ⟨version, succeeded⟩ := (Store.failsOnly_updateFamily_of_fixed (renamed ▸ known)
    fun part differs => by rw [fixed] at differs; cases differs).succeeds
  have recalled : Store.updateFamily remade state.store =
      (.ok version, (Store.updateFamily remade state.store).2) := Prod.ext succeeded rfl
  refine ⟨version, _, Action.updateFamily_eq_ok.2 ⟨keyspace, old, remade, version, _, inUse, found,
    reapplied, recalled, rfl, rfl⟩, ⟨_, remade,
    resolver_of_updateFamily coherent sound inUse found named called, ?_, same, _, _, _, applied⟩⟩
  have resolved := resolver_of_updateFamily coherent sound inUse found renamed recalled
  rw [Session.assumptionsFor, renamed, ← named] at resolved
  exact resolved

theorem execute_family_of_perm {moment : Moment} {outcome : Outcome}
    (run : Action.execute moment (defining.family name attributes) state supply =
      ((.ok outcome, after), left)) :
    ∃ version again,
      Action.execute moment (defining.family name others) state supply =
          ((.ok (.schemaChanged version), again), left) ∧ Remakes attributes name after again := by
  cases defining with
  | create =>
    obtain ⟨checked, run⟩ := requireKeyspace_bind_eq_ok.1 run
    obtain ⟨version, again, rerun, remakes⟩ := createFamily_of_perm coherent sound perm run
    exact ⟨version, again, requireKeyspace_bind_eq_ok.2 ⟨checked, rerun⟩, remakes⟩
  | update =>
    obtain ⟨checked, run⟩ := requireKeyspace_bind_eq_ok.1 run
    obtain ⟨version, again, rerun, remakes⟩ := updateFamily_of_perm coherent sound perm run
    exact ⟨version, again, requireKeyspace_bind_eq_ok.2 ⟨checked, rerun⟩, remakes⟩

theorem family_of_perm (request : Request) (text : String)
    (parsed : Command.parse request.text = .ok (defining.family name attributes))
    (reparsed : Command.parse text = .ok (defining.family name others))
    (succeeded : (state.reply request).isSuccess = true) :
    (state.reply { request with text }).isSuccess = true ∧
      Remakes attributes name (state.after request) (state.after { request with text }) := by
  obtain ⟨outcome, after, left, run, same⟩ := execute_of_isSuccess parsed succeeded
  obtain ⟨version, again, rerun, remakes⟩ := execute_family_of_perm coherent sound perm run
  obtain ⟨success, reached⟩ := reply_of_schemaChanged { request with text } reparsed rerun
  rw [reached, State.after, same]
  exact ⟨success, remakes⟩

end Families

/-- Two statements that create or update a column family with the same attributes in two orders both
succeed or both fail, and when they succeed the column family is the same but for the order of its
options. The columns that they define are found by the texts of their names, if the validator of these
is declared. -/
theorem family_of_rearranged (reachable : Reachable state) (request : Request) (text : String)
    (perm : attributes.entries.Perm others.entries)
    (parsed : Command.parse request.text = .ok (defining.family name attributes))
    (reparsed : Command.parse text = .ok (defining.family name others)) :
    (state.reply { request with text }).isSuccess = (state.reply request).isSuccess ∧
      ((state.reply request).isSuccess = true →
        ∃ resolver again,
          (state.after request).resolver name = .ok resolver ∧
          (state.after { request with text }).resolver name =
            .ok { resolver with family := again } ∧
          ColumnFamily.SameButOrder resolver.family again ∧
          ∀ items, attributes.get? "column_metadata" = some (.list items) →
            resolver.family.innermostComparator.isSome = true → resolver.DefinedBy items) := by
  have coherent := reachable.coherent
  have sound := reachable.sound
  refine ⟨Bool.eq_iff_iff.2 ⟨fun succeeded => ?_, fun succeeded => ?_⟩, fun succeeded => ?_⟩
  · exact (family_of_perm coherent sound perm.symm { request with text } request.text reparsed parsed
      succeeded).1
  · exact (family_of_perm coherent sound perm request text parsed reparsed succeeded).1
  · obtain ⟨-, resolver, again, resolved, resolvedAgain, same, _, _, _, applied⟩ :=
      family_of_perm coherent sound perm request text parsed reparsed succeeded
    exact ⟨resolver, again, resolved, resolvedAgain, same, fun items given declared =>
      Resolver.definedBy_of_withAttributes given declared applied⟩

/-- A column is named by a comparator that is given after it. -/
theorem family_of_rearranged_comparator :
    let define (text : String) : Request :=
      { text, moment := { now := 0 }, newline := "\n", supply := ⟨id, id, 0, 0⟩ }
    let request := define ("create column family F with " ++
      "column_metadata=[\x7bcolumn_name:01, validation_class:UTF8Type\x7d] and comparator=LongType;")
    let text := "create column family F with comparator=LongType and " ++
      "column_metadata=[\x7bcolumn_name:01, validation_class:UTF8Type\x7d];"
    let state := (initial "c" true).afterAll [define "create keyspace k;", define "use k;"]
    (state.reply { request with text }).isSuccess = true ∧
      ∃ resolver again column, (state.after request).resolver "F" = .ok resolver ∧
        (state.after { request with text }).resolver "F" = .ok { resolver with family := again } ∧
        ColumnFamily.SameButOrder resolver.family again ∧
        resolver.family.columnMetadata = [column] ∧
        (resolver.encodeColumn (.plain "01")).Gives column.name ∧
        resolver.valueValidator (some column.name) = .ok .utf8 := by
  intro define request text state
  let item : AttributeItem :=
    .hash ⟨[("column_name", "01"), ("validation_class", "UTF8Type")], by decide +kernel⟩
  let attributes : Attributes :=
    ⟨[("column_metadata", .list [item]), ("comparator", .text "LongType")], by decide +kernel⟩
  let others : Attributes :=
    ⟨[("comparator", .text "LongType"), ("column_metadata", .list [item])], by decide +kernel⟩
  have perm : attributes.entries.Perm others.entries := List.Perm.swap _ _ _
  have parsed : Command.parse request.text = .ok (Defining.create.family "F" attributes) := by
    decide +kernel
  have reparsed : Command.parse text = .ok (Defining.create.family "F" others) := by
    decide +kernel
  have succeeded : (state.reply request).isSuccess = true := by decide +kernel
  have reachable : Reachable state := (reachable_initial "c" true).afterAll _
  obtain ⟨both, defines⟩ := family_of_rearranged reachable request text perm parsed reparsed
  obtain ⟨resolver, again, resolved, resolvedAgain, same, defined⟩ := defines succeeded
  have declared : resolver.family.innermostComparator.isSome = true := by
    have known : ((state.after request).resolver "F").toOption.all (fun resolver =>
        resolver.family.innermostComparator.isSome) = true := by
      decide +kernel
    rw [resolved] at known
    exact known
  obtain ⟨length, columns⟩ := defined [item] (by decide +kernel) declared
  obtain ⟨column, only⟩ := List.length_eq_one_iff.1 length
  obtain ⟨name, validation, validator, named, validated, known, gives, first⟩ :=
    columns 0 item column rfl (by rw [only]; rfl)
  have text01 : item.part? "column_name" = some "01" := by decide +kernel
  have utf8 : item.part? "validation_class" = some "UTF8Type" := by decide +kernel
  have class8 : Validator.named "UTF8Type" = .ok .utf8 := by decide +kernel
  cases named.symm.trans text01
  cases validated.symm.trans utf8
  cases known.symm.trans class8
  exact ⟨both.trans succeeded, resolver, again, column, resolved, resolvedAgain, same, only,
    gives fun _ => by decide +kernel, first nofun⟩

end State

end WideColumn
