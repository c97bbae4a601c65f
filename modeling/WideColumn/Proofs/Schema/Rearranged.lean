import WideColumn.Proofs.Schema.Attributes

/-!
# Attributes in another order

An attribute is accepted or refused for itself, and what it says it says about one part of a
definition. So attributes make the same column family in every order, but for the order of its
options (`ColumnFamily.withAttributes_of_perm`). Of a keyspace this is so but for one pair: the
options as a whole and the replication factor, which is one of them
(`Keyspace.strategyOptions_of_withAttributes`). Given after the factor, the options leave it out.
-/

namespace WideColumn

variable {attributes others : Attributes}

/-! ### Keyspaces -/

namespace Attributes

/-- Whether a replication factor is given, and all options after it. -/
def LosesFactor (attributes : Attributes) : Prop :=
  ["replication_factor", "strategy_options"].Sublist attributes.keys

instance : Decidable attributes.LosesFactor :=
  inferInstanceAs (Decidable (List.Sublist _ _))

/-- The options as a whole that attributes give. -/
def options? (attributes : Attributes) : Option (Table String String) := do
  let value ← attributes.get? "strategy_options"
  (value.table "strategy_options").toOption

/-- The replication factor that attributes give, as an option. -/
def factor? (attributes : Attributes) : Option String := do
  let value ← attributes.get? "replication_factor"
  Numeral.write <$> (value.integer "replication_factor").toOption

/-- The replication factor among the options as a whole. -/
def factorInOptions? (attributes : Attributes) : Option String :=
  attributes.options?.bind fun options => options.get? "replication_factor"

/-- The options that attributes leave, given those of before. -/
def optionsAfter (attributes : Attributes) (before : Table String String) : Table String String :=
  let given := attributes.options?.getD before
  match attributes.factor? with
  | some factor =>
    if attributes.LosesFactor then given else given.put "replication_factor" factor
  | none => given

section Cons

variable {name : String} {value : AttributeValue} {rest : List (String × AttributeValue)}
  (distinct : (((name, value) :: rest).map Prod.fst).Nodup)

theorem options?_cons : options? ⟨(name, value) :: rest, distinct⟩ =
    if name = "strategy_options" then (value.table "strategy_options").toOption
    else options? ⟨rest, (List.nodup_cons.1 distinct).2⟩ := by
  unfold options?
  by_cases same : name = "strategy_options" <;> simp [Table.get?, Table.valueIn, same]

theorem factor?_cons : factor? ⟨(name, value) :: rest, distinct⟩ =
    if name = "replication_factor" then
      Numeral.write <$> (value.integer "replication_factor").toOption
    else factor? ⟨rest, (List.nodup_cons.1 distinct).2⟩ := by
  unfold factor?
  by_cases same : name = "replication_factor" <;> simp [Table.get?, Table.valueIn, same]

theorem losesFactor_cons : LosesFactor ⟨(name, value) :: rest, distinct⟩ ↔
    LosesFactor ⟨rest, (List.nodup_cons.1 distinct).2⟩ ∨
      name = "replication_factor" ∧ "strategy_options" ∈ rest.map Prod.fst := by
  refine List.sublist_cons_iff.trans (or_congr Iff.rfl ⟨?_, ?_⟩)
  · rintro ⟨_, same, later⟩
    cases same
    exact ⟨rfl, List.singleton_sublist.1 later⟩
  · rintro ⟨rfl, later⟩
    exact ⟨_, rfl, List.singleton_sublist.2 later⟩

end Cons

theorem options?_of_perm (perm : attributes.entries.Perm others.entries) :
    others.options? = attributes.options? := by
  rw [options?, Table.get?_of_perm perm]
  rfl

theorem factor?_of_perm (perm : attributes.entries.Perm others.entries) :
    others.factor? = attributes.factor? := by
  rw [factor?, Table.get?_of_perm perm]
  rfl

theorem options?_eq_none (silent : "strategy_options" ∉ attributes.keys) :
    attributes.options? = none := by
  have missing : attributes.get? "strategy_options" = none := Table.valueIn_eq_none.2 silent
  simp [options?, missing]

theorem factor?_eq_none (silent : "replication_factor" ∉ attributes.keys) :
    attributes.factor? = none := by
  have missing : attributes.get? "replication_factor" = none := Table.valueIn_eq_none.2 silent
  simp [factor?, missing]

end Attributes

namespace Keyspace

variable {keyspace updated again : Keyspace}

theorem isOk_withAttribute (name : String) (value : AttributeValue) (keyspace other : Keyspace) :
    (keyspace.withAttribute name value).isOk = (other.withAttribute name value).isOk := by
  unfold withAttribute
  split
  case h_2 => cases value.table "strategy_options" <;> rfl
  case h_3 => cases value.integer "replication_factor" <;> rfl
  case h_4 => cases value.truth "durable_writes" <;> rfl
  all_goals rfl

/-- Whether attributes are accepted does not depend on their order. -/
theorem isOk_withAttributes_of_perm (perm : attributes.entries.Perm others.entries)
    (keyspace : Keyspace) :
    (keyspace.withAttributes others).isOk = (keyspace.withAttributes attributes).isOk :=
  isOk_foldlM_of_perm (fun entry => isOk_withAttribute entry.1 entry.2) perm keyspace

theorem exists_withAttributes_of_perm (perm : attributes.entries.Perm others.entries)
    (run : keyspace.withAttributes attributes = .ok updated) :
    ∃ again, keyspace.withAttributes others = .ok again := by
  have accepted := isOk_withAttributes_of_perm perm keyspace
  cases rerun : keyspace.withAttributes others with
  | error failure =>
    rw [run, rerun] at accepted
    cases accepted
  | ok again => exact ⟨again, rfl⟩

/-- What attributes say about anything but the options does not depend on their order. -/
theorem withAttributes_of_perm (perm : attributes.entries.Perm others.entries)
    (run : keyspace.withAttributes attributes = .ok updated)
    (rerun : keyspace.withAttributes others = .ok again) :
    again = { updated with strategyOptions := again.strategyOptions } := by
  have strategy : again.strategyClass = updated.strategyClass := by
    refine part_of_perm "placement_strategy" (fun value => .ok value.shown)
      (fun {state value after} run => ?_) (fun {state name value after} apart run => ?_) perm
      attributes.distinct run rerun
    · cases run
      rfl
    · rcases withAttribute_ok run with ⟨same, -⟩ | ⟨-, _, -, rfl⟩ | ⟨-, _, -, rfl⟩ | ⟨-, _, -, rfl⟩
      · exact absurd same apart
      all_goals rfl
  have durable : again.durableWrites = updated.durableWrites := by
    refine part_of_perm "durable_writes" (fun value => value.truth "durable_writes")
      (fun {state value after} run => ?_) (fun {state name value after} apart run => ?_) perm
      attributes.distinct run rerun
    · obtain ⟨durable, read, same⟩ := bind_eq_ok.1 run
      cases same
      exact read
    · rcases withAttribute_ok run with ⟨-, rfl⟩ | ⟨-, _, -, rfl⟩ | ⟨-, _, -, rfl⟩ | ⟨same, -⟩
      · rfl
      · rfl
      · rfl
      · exact absurd same apart
  have name := (name_of_withAttributes rerun).trans (name_of_withAttributes run).symm
  have families := (families_of_withAttributes rerun).trans (families_of_withAttributes run).symm
  obtain ⟨_, _, _, _, _⟩ := again
  obtain ⟨_, _, _, _, _⟩ := updated
  cases strategy
  cases durable
  cases name
  cases families
  rfl

/-- Each one of attributes that are accepted is accepted for itself. -/
theorem exists_withAttribute (run : keyspace.withAttributes attributes = .ok updated) {name : String}
    (given : name ∈ attributes.keys) :
    ∃ value after, attributes.get? name = some value ∧
      keyspace.withAttribute name value = .ok after := by
  obtain ⟨⟨name, value⟩, mem, rfl⟩ := List.mem_map.1 given
  have all := isOk_foldlM (fun entry => isOk_withAttribute entry.1 entry.2) attributes.entries keyspace
  have accepted : (keyspace.withAttribute name value).isOk = true :=
    List.all_eq_true.1 (all.symm.trans (congrArg Except.isOk run)) _ mem
  cases stepped : keyspace.withAttribute name value with
  | error failure =>
    rw [stepped] at accepted
    cases accepted
  | ok after => exact ⟨value, after, Table.get?_eq_some.2 mem, stepped⟩

theorem exists_options (run : keyspace.withAttributes attributes = .ok updated)
    (given : "strategy_options" ∈ attributes.keys) :
    ∃ options, attributes.options? = some options := by
  obtain ⟨value, after, found, stepped⟩ := exists_withAttribute run given
  obtain ⟨options, read, -⟩ := bind_eq_ok.1 stepped
  exact ⟨options, by simp [Attributes.options?, found, read, Except.toOption]⟩

theorem exists_factor (run : keyspace.withAttributes attributes = .ok updated)
    (given : "replication_factor" ∈ attributes.keys) :
    ∃ factor, attributes.factor? = some factor := by
  obtain ⟨value, after, found, stepped⟩ := exists_withAttribute run given
  obtain ⟨factor, read, -⟩ := bind_eq_ok.1 stepped
  exact ⟨Numeral.write factor, by simp [Attributes.factor?, found, read, Except.toOption]⟩

/-- The first attribute and the ones after it. -/
theorem optionsAfter_cons {name : String} {value : AttributeValue}
    {rest : List (String × AttributeValue)}
    (distinct : (((name, value) :: rest).map Prod.fst).Nodup)
    (stepped : keyspace.withAttribute name value = .ok again)
    (run : again.withAttributes ⟨rest, (List.nodup_cons.1 distinct).2⟩ = .ok updated) :
    Attributes.optionsAfter ⟨(name, value) :: rest, distinct⟩ keyspace.strategyOptions =
      Attributes.optionsAfter ⟨rest, (List.nodup_cons.1 distinct).2⟩ again.strategyOptions := by
  obtain ⟨new, later⟩ := List.nodup_cons.1 distinct
  rcases withAttribute_ok stepped with ⟨rfl, rfl⟩ | ⟨rfl, options, read, rfl⟩ |
    ⟨rfl, factor, read, rfl⟩ | ⟨rfl, _, -, rfl⟩
  · simp [Attributes.optionsAfter, Attributes.options?_cons, Attributes.factor?_cons,
      Attributes.losesFactor_cons]
  · have silent : Attributes.options? ⟨rest, later⟩ = none := Attributes.options?_eq_none new
    have kept : ¬Attributes.LosesFactor ⟨rest, later⟩ := fun loses => new (loses.subset (by simp))
    simp [Attributes.optionsAfter, Attributes.options?_cons, Attributes.factor?_cons,
      Attributes.losesFactor_cons, silent, read, Except.toOption, kept]
  · have silent : Attributes.factor? ⟨rest, later⟩ = none := Attributes.factor?_eq_none new
    have kept : ¬Attributes.LosesFactor ⟨rest, later⟩ := fun loses => new (loses.subset (by simp))
    by_cases whole : "strategy_options" ∈ rest.map Prod.fst
    · -- The options that come later replace the factor.
      obtain ⟨options, given⟩ := exists_options run whole
      simp [Attributes.optionsAfter, Attributes.options?_cons, Attributes.factor?_cons,
        Attributes.losesFactor_cons, silent, read, Except.toOption, given, whole]
    · have none : Attributes.options? ⟨rest, later⟩ = none := Attributes.options?_eq_none whole
      simp [Attributes.optionsAfter, Attributes.options?_cons, Attributes.factor?_cons,
        Attributes.losesFactor_cons, silent, read, Except.toOption, none, whole, kept]
  · simp [Attributes.optionsAfter, Attributes.options?_cons, Attributes.factor?_cons,
      Attributes.losesFactor_cons]

/-- The options after all attributes. -/
theorem strategyOptions_of_withAttributes
    (run : keyspace.withAttributes attributes = .ok updated) :
    updated.strategyOptions = attributes.optionsAfter keyspace.strategyOptions := by
  obtain ⟨entries, distinct⟩ := attributes
  change entries.foldlM _ keyspace = _ at run
  induction entries generalizing keyspace with
  | nil =>
    cases run
    rfl
  | cons entry rest ih =>
    obtain ⟨name, value⟩ := entry
    obtain ⟨new, later⟩ := List.nodup_cons.1 distinct
    rw [List.foldlM_cons] at run
    obtain ⟨between, stepped, run⟩ := bind_eq_ok.1 run
    rw [ih later run]
    exact (optionsAfter_cons distinct stepped run).symm

/-- A given replication factor is lost just if options that name another one, or none, come after
it. -/
theorem factor_of_withAttributes (run : keyspace.withAttributes attributes = .ok updated)
    {factor : String} (given : attributes.factor? = some factor) :
    updated.strategyOptions.get? "replication_factor" = some factor ↔
      ¬attributes.LosesFactor ∨ attributes.factorInOptions? = some factor := by
  rw [strategyOptions_of_withAttributes run, Attributes.optionsAfter, given]
  by_cases loses : attributes.LosesFactor
  · obtain ⟨options, whole⟩ := exists_options run (loses.subset (by simp))
    simp [loses, whole, Attributes.factorInOptions?]
  · simp [loses]

/-- Two orders of attributes leave the same options just if the factor is lost in both or in none, or
if it cannot be told which because the options name the same one. -/
theorem sameOptions_iff (perm : attributes.entries.Perm others.entries)
    (run : keyspace.withAttributes attributes = .ok updated)
    (rerun : keyspace.withAttributes others = .ok again) :
    (∀ name, again.strategyOptions.get? name = updated.strategyOptions.get? name) ↔
      (attributes.LosesFactor ↔ others.LosesFactor) ∨
        attributes.factorInOptions? = attributes.factor? := by
  rw [strategyOptions_of_withAttributes run, strategyOptions_of_withAttributes rerun]
  unfold Attributes.optionsAfter
  rw [Attributes.options?_of_perm perm, Attributes.factor?_of_perm perm]
  by_cases same : attributes.LosesFactor ↔ others.LosesFactor
  · simp [same]
  · -- The order that loses the factor has both attributes, so both orders do.
    have both : "replication_factor" ∈ attributes.keys ∧ "strategy_options" ∈ attributes.keys := by
      have keys : others.keys.Perm attributes.keys := (perm.map Prod.fst).symm
      by_cases loses : attributes.LosesFactor
      · exact ⟨loses.subset (by simp), loses.subset (by simp)⟩
      · have other : others.LosesFactor := by tauto
        exact ⟨keys.subset (other.subset (by simp)), keys.subset (other.subset (by simp))⟩
    obtain ⟨factor, given⟩ := exists_factor run both.1
    obtain ⟨options, whole⟩ := exists_options run both.2
    rw [given, whole, Attributes.factorInOptions?, whole]
    simp only [same, false_or, Option.bind_some, Option.getD_some]
    by_cases loses : attributes.LosesFactor
    · have keeps : ¬others.LosesFactor := by tauto
      simp only [loses, keeps, if_true, if_false]
      exact Table.get?_put_eq_iff
    · have other : others.LosesFactor := by tauto
      simp only [loses, other, if_true, if_false]
      exact (forall_congr' fun _ => eq_comm).trans Table.get?_put_eq_iff

end Keyspace

/-! ### Column families -/

namespace ColumnFamily

/-- What a definition has under the name of an attribute that is applied at once. -/
def held (family : ColumnFamily) (name : String) : Option String :=
  match name with
  | "column_type" => some family.columnType
  | "comparator" => family.comparatorType
  | "subcomparator" => family.subcomparatorType
  | "default_validation_class" => family.defaultValidationClass
  | "key_validation_class" => family.keyValidationClass
  | "comment" => family.comment
  | "column_metadata" => none
  | _ => family.options.get? name

/-- What an attribute puts under its name. -/
def given (name : String) (value : AttributeValue) : Except Failure (Option String) :=
  match name with
  | "column_type" => some <$> columnTypeOf value.shown
  | "comparator" | "subcomparator" | "default_validation_class" | "key_validation_class" =>
    some <$> Validator.className <$> Validator.named value.shown
  | "column_metadata" => .ok none
  | _ => .ok (some value.shown)

/-- Whether a definition is another one but for the order of its options. -/
structure SameButOrder (family other : ColumnFamily) : Prop where
  rest : other = { family with options := other.options }
  options : ∀ name, other.options.get? name = family.options.get? name

variable {family updated again : ColumnFamily} {supply left : Supply}

theorem isOk_withAttribute (name : String) (value : AttributeValue) (family other : ColumnFamily) :
    (family.withAttribute name value).isOk = (other.withAttribute name value).isOk := by
  unfold withAttribute
  dsimp only
  split
  case h_1 => cases columnTypeOf value.shown <;> rfl
  case h_8 => split <;> rfl
  case h_6 | h_7 => rfl
  all_goals cases Validator.named value.shown <;> rfl

/-- Options are held under their own names. -/
theorem held_option (family : ColumnFamily) (value : AttributeValue) :
    ∀ name ∈ optionNames, family.held name = family.options.get? name ∧
      given name value = .ok (some value.shown) := by
  simp [optionNames, held, given]

/-- Whether one definition has come from another without a change in what no attribute sets at
once. -/
structure KeepsRest (family updated : ColumnFamily) : Prop where
  columns : updated.columnMetadata = family.columnMetadata
  options : ∀ name ∉ optionNames, updated.options.get? name = family.options.get? name

/-- An attribute that is accepted sets what is held under its name. -/
theorem held_of_withAttribute {name : String} {value : AttributeValue}
    (run : family.withAttribute name value = .ok updated) :
    given name value = .ok (updated.held name) ∧
      (∀ other, name ≠ other → updated.held other = family.held other) ∧
      KeepsRest family updated := by
  unfold withAttribute at run
  dsimp only at run
  split at run
  case h_1 =>
    obtain ⟨type, read, same⟩ := bind_eq_ok.1 run
    cases same
    refine ⟨map_eq_ok.2 ⟨type, read, rfl⟩, fun other apart => ?_, rfl, fun _ _ => rfl⟩
    unfold held
    split <;> first | rfl | exact absurd rfl apart
  case h_6 =>
    cases run
    refine ⟨rfl, fun other apart => ?_, rfl, fun _ _ => rfl⟩
    unfold held
    split <;> first | rfl | exact absurd rfl apart
  case h_7 =>
    cases run
    exact ⟨rfl, fun _ _ => rfl, rfl, fun _ _ => rfl⟩
  case h_8 =>
    split at run
    · rename_i option
      cases run
      refine ⟨?_, fun other apart => ?_, rfl, fun other outside => ?_⟩
      · obtain ⟨own, read⟩ := held_option
          { family with options := family.options.put name value.shown } value name option
        rw [own, read, Table.get?_put, if_pos rfl]
      · unfold held
        split <;> first | rfl | exact (Table.get?_put ..).trans (if_neg apart)
      · have apart : name ≠ other := fun same => outside (same ▸ option)
        exact (Table.get?_put ..).trans (if_neg apart)
    · cases run
  -- What is left names a validator.
  all_goals
    obtain ⟨className, named, same⟩ := bind_eq_ok.1 run
    cases same
    refine ⟨map_eq_ok.2 ⟨className, named, rfl⟩, fun other apart => ?_, rfl, fun _ _ => rfl⟩
    unfold held
    split <;> first | rfl | exact absurd rfl apart

theorem keepsRest_of_withPlainAttributes
    (run : family.withPlainAttributes attributes = .ok updated) : KeepsRest family updated :=
  foldlM_relates KeepsRest (fun _ => ⟨rfl, fun _ _ => rfl⟩)
    (fun first second => ⟨second.columns.trans first.columns, fun name outside =>
      (second.options name outside).trans (first.options name outside)⟩)
    (fun _ _ _ _ run => (held_of_withAttribute run).2.2) run

/-- A definition is told by what it holds under names and by the rest. -/
theorem sameButOrder_of_held (held : ∀ name, again.held name = updated.held name)
    (keyspace : again.keyspace = updated.keyspace) (name : again.name = updated.name)
    (columns : again.columnMetadata = updated.columnMetadata)
    (options : ∀ name ∉ optionNames, again.options.get? name = updated.options.get? name) :
    SameButOrder updated again := by
  have type : again.columnType = updated.columnType := Option.some.inj (held "column_type")
  have comparator : again.comparatorType = updated.comparatorType := held "comparator"
  have subcomparator : again.subcomparatorType = updated.subcomparatorType := held "subcomparator"
  have values : again.defaultValidationClass = updated.defaultValidationClass :=
    held "default_validation_class"
  have keys : again.keyValidationClass = updated.keyValidationClass := held "key_validation_class"
  have comment : again.comment = updated.comment := held "comment"
  refine ⟨?_, fun option => ?_⟩
  · obtain ⟨_, _, _, _, _, _, _, _, _, _⟩ := again
    cases keyspace
    cases name
    cases type
    cases comparator
    cases subcomparator
    cases values
    cases keys
    cases comment
    cases columns
    rfl
  · by_cases known : option ∈ optionNames
    · have value := AttributeValue.text option
      rw [← (held_option again value option known).1, held option,
        (held_option updated value option known).1]
    · exact options option known

theorem isOk_withPlainAttributes_of_perm (perm : attributes.entries.Perm others.entries)
    (family : ColumnFamily) :
    (family.withPlainAttributes others).isOk = (family.withPlainAttributes attributes).isOk :=
  isOk_foldlM_of_perm (fun entry => isOk_withAttribute entry.1 entry.2) perm family

/-- What attributes say at once does not depend on their order, but for the order of options. -/
theorem sameButOrder_of_perm (perm : attributes.entries.Perm others.entries)
    (run : family.withPlainAttributes attributes = .ok updated)
    (rerun : family.withPlainAttributes others = .ok again) : SameButOrder updated again := by
  have rest := keepsRest_of_withPlainAttributes run
  have restAgain := keepsRest_of_withPlainAttributes rerun
  have comes := comesFrom_of_withPlainAttributes run
  have comesAgain := comesFrom_of_withPlainAttributes rerun
  refine sameButOrder_of_held (fun name => ?_) (comesAgain.keyspace.trans comes.keyspace.symm)
    (comesAgain.name.trans comes.name.symm) (restAgain.columns.trans rest.columns.symm)
    fun option outside => (restAgain.options option outside).trans (rest.options option outside).symm
  exact part_of_perm name (given name) (fun run => (held_of_withAttribute run).1)
    (fun apart run => (held_of_withAttribute run).2.1 _ apart) perm attributes.distinct run rerun

/-- Attributes that are accepted are so in every order, and make the same definition but for the order
of its options, with the same identifiers drawn. -/
theorem withAttributes_of_perm (perm : attributes.entries.Perm others.entries)
    (run : family.withAttributes attributes supply = (.ok updated, left)) :
    ∃ again, family.withAttributes others supply = (.ok again, left) ∧
      SameButOrder updated again := by
  obtain ⟨plain, applied, layered, run⟩ := withAttributes_eq_ok.1 run
  have accepted := isOk_withPlainAttributes_of_perm perm family
  cases reapplied : family.withPlainAttributes others with
  | error failure =>
    rw [applied, reapplied] at accepted
    cases accepted
  | ok other =>
    have same := sameButOrder_of_perm perm applied reapplied
    have relayered : other.subcomparatorType.isSome → other.isSuper = true := by
      rw [same.rest]
      exact layered
    have metadata := Table.get?_of_perm perm "column_metadata"
    cases given : attributes.get? "column_metadata" with
    | none =>
      rw [given] at run metadata
      obtain ⟨rfl, rfl⟩ := run
      refine ⟨other, withAttributes_eq_ok.2 ⟨other, reapplied, relayered, ?_⟩, same⟩
      rw [metadata]
      exact ⟨rfl, rfl⟩
    | some value =>
      rw [given] at run metadata
      obtain ⟨columns, read, rfl⟩ := run
      have reread : other.columnsOf value supply = (.ok columns, left) := by
        rw [same.rest]
        exact read
      refine ⟨{ other with columnMetadata := columns },
        withAttributes_eq_ok.2 ⟨other, reapplied, relayered, ?_⟩, ?_, same.options⟩
      · rw [metadata]
        exact ⟨columns, reread, rfl⟩
      · rw [same.rest]

end ColumnFamily

end WideColumn
