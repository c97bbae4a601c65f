import Mathlib.Data.List.Forall2
import WideColumn.Proofs.Folding
import WideColumn.Schema.Attributes

/-!
# What attributes make of a definition

Attributes leave a definition under its name and in its keyspace, and they put nothing into it for
a validator but the class name of one. A subcomparator is accepted for super column families only.
So a column family that is made by attributes is well defined (`ColumnFamily.WellDefined`), and it
stays so when attributes change it.
-/

namespace WideColumn

/-! ### Known validators -/

namespace Validator

/-- Whether a text is one of the names of a validator, letter by letter. -/
theorem contains_names (validator : Validator) (wanted : List Char) :
    validator.names.contains (String.ofList wanted) =
      (validator.names.map String.toList).contains wanted := by
  rw [Bool.eq_iff_iff, List.contains_iff_mem, List.contains_iff_mem, List.mem_map]
  constructor
  · intro mem
    exact ⟨_, mem, String.toList_ofList⟩
  · rintro ⟨name, mem, rfl⟩
    rwa [String.ofList_toList]

/-- The names of a validator, letter by letter. -/
theorem toList_names (validator : Validator) :
    validator.names.map String.toList =
      [validator.className.toList.map Char.toLower, validator.functionName.toList,
        (package ++ validator.className).toList.map Char.toLower] := by
  simp only [names, names.lowerAscii, List.map_cons, List.map_nil, String.toList_ofList]

/-- A validator is found by its class name. -/
theorem find?_className (validator : Validator) : find? validator.className = some validator := by
  unfold find? normalName
  simp only [contains_names, toList_names, all, List.find?_cons]
  cases validator <;> decide

/-- Whether a text is the class name of a validator, by which the validator is found. -/
def IsClassName (name : String) : Prop :=
  ∃ validator : Validator, validator.className = name ∧ find? name = some validator

theorem isClassName_className (validator : Validator) : IsClassName validator.className :=
  ⟨validator, rfl, validator.find?_className⟩

end Validator

namespace ColumnFamily

/-- The names of validators in a definition. -/
def validatorNames (family : ColumnFamily) : List String :=
  family.comparatorType.toList ++ family.subcomparatorType.toList ++
    family.keyValidationClass.toList ++ family.defaultValidationClass.toList ++
    family.columnMetadata.map ColumnDefinition.validationClass

/-- Whether the validators of a definition are known, and there is a validator for the columns of
super columns only if there are super columns. -/
structure WellDefined (family : ColumnFamily) : Prop where
  known : ∀ name ∈ family.validatorNames, Validator.IsClassName name
  layered : family.subcomparatorType.isSome → family.isSuper = true

/-! ### One attribute -/

/-- Whether a definition has come from another by attributes: it is in its place, and its
validators are those of the other or known ones. -/
structure ComesFrom (family updated : ColumnFamily) : Prop where
  keyspace : updated.keyspace = family.keyspace
  name : updated.name = family.name
  validators : ∀ name ∈ updated.validatorNames,
    name ∈ family.validatorNames ∨ Validator.IsClassName name

variable {family between updated : ColumnFamily} {attributes : Attributes} {supply left : Supply}

theorem ComesFrom.refl (family : ColumnFamily) : ComesFrom family family :=
  ⟨rfl, rfl, fun _ mem => .inl mem⟩

theorem ComesFrom.trans (first : ComesFrom family between) (second : ComesFrom between updated) :
    ComesFrom family updated where
  keyspace := second.keyspace.trans first.keyspace
  name := second.name.trans first.name
  validators name mem := by
    rcases second.validators name mem with old | known
    · exact first.validators name old
    · exact .inr known

theorem comesFrom_of_withAttribute {name : String} {value : AttributeValue}
    (run : family.withAttribute name value = .ok updated) : ComesFrom family updated := by
  unfold withAttribute at run
  dsimp only at run
  split at run
  case h_1 =>
    obtain ⟨_, -, same⟩ := bind_eq_ok.1 run
    cases same
    exact ⟨rfl, rfl, fun _ mem => .inl mem⟩
  case h_6 | h_7 =>
    cases run
    exact ⟨rfl, rfl, fun _ mem => .inl mem⟩
  case h_8 =>
    split at run
    · cases run
      exact ⟨rfl, rfl, fun _ mem => .inl mem⟩
    · cases run
  -- What is left names a validator.
  all_goals
    obtain ⟨className, named, same⟩ := bind_eq_ok.1 run
    obtain ⟨validator, -, rfl⟩ := map_eq_ok.1 named
    cases same
    refine ⟨rfl, rfl, fun stored mem => ?_⟩
    have known := validator.isClassName_className
    simp only [validatorNames, List.mem_append, Option.toList_some, List.mem_singleton] at mem ⊢
    by_cases fresh : stored = validator.className
    · exact .inr (fresh ▸ known)
    · exact .inl (by grind)

/-! ### All attributes -/

theorem comesFrom_of_withPlainAttributes
    (run : family.withPlainAttributes attributes = .ok updated) : ComesFrom family updated :=
  foldlM_relates ComesFrom .refl .trans (fun _ _ _ _ => comesFrom_of_withAttribute) run

end ColumnFamily

/-! ### Lists of draws -/

namespace Stateful

variable {σ α β : Type} {draw : α → ExceptT Failure (StateM σ) β} {items : List α}
  {before after : σ} {values : List β}

/-- What is drawn for the items of a list is drawn item by item. -/
theorem forall₂_of_mapM_eq_ok {related : α → β → Prop}
    (each : ∀ item before value after, draw item before = (.ok value, after) → related item value)
    (run : items.mapM draw before = (.ok values, after)) : List.Forall₂ related items values := by
  induction items generalizing before values with
  | nil =>
    rw [List.mapM_nil] at run
    cases run
    exact .nil
  | cons item rest ih =>
    rw [List.mapM_cons] at run
    obtain ⟨value, between, first, run⟩ := Stateful.bind_eq_ok.1 run
    obtain ⟨others, between, later, run⟩ := Stateful.bind_eq_ok.1 run
    cases run
    exact .cons (each item _ value _ first) (ih later)

end Stateful

/-- A part of a column definition, whatever the letter case of its name. -/
def AttributeItem.part? : AttributeItem → String → Option String
  | .text _, _ => none
  | .hash entries, name =>
    (Table.ofList (entries.entries.map fun (key, value) => (Text.lowered key, value))).get? name

namespace ColumnFamily

variable {family updated : ColumnFamily} {attributes : Attributes} {supply left : Supply}

/-- A column is defined by its parts: its name is what the validator of names makes of one of them,
and its own validator is named by another. -/
theorem columnOf_ok {nameValidator : Validator} {item : AttributeItem} {column : ColumnDefinition}
    (run : columnOf nameValidator item supply = (.ok column, left)) :
    ∃ text validation validator, item.part? "column_name" = some text ∧
      item.part? "validation_class" = some validation ∧
      nameValidator.encode text supply = (.ok column.name, left) ∧
      Validator.named validation = .ok validator ∧
      column.validationClass = validator.className := by
  unfold columnOf at run
  cases item with
  | text words => cases run
  | hash entries =>
    unfold AttributeItem.part?
    dsimp only at run ⊢
    generalize (Table.ofList _ : Table String String) = parts at run
    generalize Order.sortStrings _ = unknown at run
    cases unknown with
    | cons first others => cases run
    | nil =>
      cases named : parts.get? "column_name" with
      | none =>
        rw [named] at run
        cases run
      | some text =>
        cases declared : parts.get? "validation_class" with
        | none =>
          rw [named, declared] at run
          cases run
        | some validation =>
          rw [named, declared] at run
          obtain ⟨indexType, -, run⟩ := Stateful.lift_bind_eq_ok.1 run
          obtain ⟨stored, _, encoded, run⟩ := Stateful.bind_eq_ok.1 run
          obtain ⟨validator, known, run⟩ := Stateful.lift_bind_eq_ok.1 run
          cases run
          exact ⟨text, validation, validator, rfl, rfl, encoded, known, rfl⟩

theorem isClassName_of_columnOf {nameValidator : Validator} {item : AttributeItem}
    {column : ColumnDefinition}
    (run : columnOf nameValidator item supply = (.ok column, left)) :
    Validator.IsClassName column.validationClass := by
  obtain ⟨_, _, validator, -, -, -, -, same⟩ := columnOf_ok run
  exact same ▸ validator.isClassName_className

/-- Columns are defined one by one, with one validator for their names. -/
theorem columnsOf_ok {value : AttributeValue} {columns : List ColumnDefinition}
    (run : family.columnsOf value supply = (.ok columns, left)) :
    ∃ items nameValidator, value = .list items ∧
      Resolver.columnNameValidator { family } = .ok nameValidator ∧
      List.Forall₂ (fun item column => ∃ supply left,
        columnOf nameValidator item supply = (.ok column, left)) items columns := by
  unfold columnsOf at run
  cases value with
  | text words => cases run
  | list items =>
    obtain ⟨nameValidator, chosen, run⟩ := Stateful.lift_bind_eq_ok.1 run
    exact ⟨items, nameValidator, rfl, chosen, Stateful.forall₂_of_mapM_eq_ok
      (fun _ before _ after defined => ⟨before, after, defined⟩) run⟩

theorem isClassName_of_columnsOf {value : AttributeValue} {columns : List ColumnDefinition}
    (run : family.columnsOf value supply = (.ok columns, left)) :
    ∀ column ∈ columns, Validator.IsClassName column.validationClass := by
  obtain ⟨items, nameValidator, -, -, defined⟩ := columnsOf_ok run
  intro column mem
  obtain ⟨i, bound, rfl⟩ := List.mem_iff_getElem.1 mem
  obtain ⟨supply, left, made⟩ := (List.forall₂_iff_get.1 defined).2 i (defined.length_eq ▸ bound) bound
  exact isClassName_of_columnOf made

/-- Column definitions are made when all other attributes were applied and fit each other. -/
theorem withAttributes_eq_ok :
    family.withAttributes attributes supply = (.ok updated, left) ↔
      ∃ plain, family.withPlainAttributes attributes = .ok plain ∧
        (plain.subcomparatorType.isSome → plain.isSuper = true) ∧
        match attributes.get? "column_metadata" with
        | none => updated = plain ∧ left = supply
        | some value => ∃ columns, plain.columnsOf value supply = (.ok columns, left) ∧
            updated = { plain with columnMetadata := columns } := by
  refine Stateful.lift_bind_eq_ok.trans (exists_congr fun plain => and_congr_right fun _ => ?_)
  dsimp only
  by_cases layered : plain.subcomparatorType.isSome → plain.isSuper = true
  · rw [if_neg (by simpa using layered)]
    refine Iff.trans ?_ (and_iff_right layered).symm
    cases attributes.get? "column_metadata" with
    | none =>
      constructor
      · intro run
        cases run
        exact ⟨rfl, rfl⟩
      · rintro ⟨rfl, rfl⟩
        rfl
    | some value =>
      refine Stateful.bind_eq_ok.trans ⟨?_, ?_⟩
      · rintro ⟨columns, between, read, run⟩
        cases run
        exact ⟨columns, read, rfl⟩
      · rintro ⟨columns, read, rfl⟩
        exact ⟨columns, left, read, rfl⟩
  · rw [if_pos (by simpa using layered)]
    exact ⟨nofun, fun made => absurd made.1 layered⟩

/-- Attributes leave a definition in its place with known validators, and a subcomparator is
accepted for super columns only. -/
theorem comesFrom_of_withAttributes
    (run : family.withAttributes attributes supply = (.ok updated, left)) :
    ComesFrom family updated ∧ (updated.subcomparatorType.isSome → updated.isSuper = true) := by
  obtain ⟨plain, applied, layered, run⟩ := withAttributes_eq_ok.1 run
  have comes := comesFrom_of_withPlainAttributes applied
  cases given : attributes.get? "column_metadata" with
  | none =>
    rw [given] at run
    obtain ⟨rfl, -⟩ := run
    exact ⟨comes, layered⟩
  | some metadata =>
    rw [given] at run
    obtain ⟨columns, read, rfl⟩ := run
    refine ⟨⟨comes.keyspace, comes.name, fun name mem => ?_⟩, layered⟩
    -- The column definitions are all new, and all other validators are those of before.
    rcases List.mem_append.1 mem with declared | stored
    · exact comes.validators name (List.mem_append_left _ declared)
    · obtain ⟨column, present, rfl⟩ := List.mem_map.1 stored
      exact .inr (isClassName_of_columnsOf read column present)

/-! ### What attributes leave -/

/-- Whether a definition differs from another one at most in what is named. -/
structure ChangesOnly (named : List String) (family updated : ColumnFamily) : Prop where
  keyspace : updated.keyspace = family.keyspace
  name : updated.name = family.name
  columnType : "column_type" ∉ named → updated.columnType = family.columnType
  comparator : "comparator" ∉ named → updated.comparatorType = family.comparatorType
  subcomparator : "subcomparator" ∉ named → updated.subcomparatorType = family.subcomparatorType
  keyValidator : "key_validation_class" ∉ named →
    updated.keyValidationClass = family.keyValidationClass
  validator : "default_validation_class" ∉ named →
    updated.defaultValidationClass = family.defaultValidationClass
  comment : "comment" ∉ named → updated.comment = family.comment
  columns : "column_metadata" ∉ named → updated.columnMetadata = family.columnMetadata
  options : updated.options.filter (fun option => option.1 ∉ named) =
    family.options.filter fun option => option.1 ∉ named

variable {named : List String}

theorem ChangesOnly.refl (named : List String) (family : ColumnFamily) :
    ChangesOnly named family family :=
  ⟨rfl, rfl, fun _ => rfl, fun _ => rfl, fun _ => rfl, fun _ => rfl, fun _ => rfl, fun _ => rfl,
    fun _ => rfl, rfl⟩

theorem ChangesOnly.trans (first : ChangesOnly named family between)
    (second : ChangesOnly named between updated) : ChangesOnly named family updated where
  keyspace := second.keyspace.trans first.keyspace
  name := second.name.trans first.name
  columnType silent := (second.columnType silent).trans (first.columnType silent)
  comparator silent := (second.comparator silent).trans (first.comparator silent)
  subcomparator silent := (second.subcomparator silent).trans (first.subcomparator silent)
  keyValidator silent := (second.keyValidator silent).trans (first.keyValidator silent)
  validator silent := (second.validator silent).trans (first.validator silent)
  comment silent := (second.comment silent).trans (first.comment silent)
  columns silent := (second.columns silent).trans (first.columns silent)
  options := second.options.trans first.options

/-- An option that is not named has the value that it had. -/
theorem ChangesOnly.get?_options (only : ChangesOnly named family updated) {option : String}
    (silent : option ∉ named) : updated.options.get? option = family.options.get? option := by
  have kept := congrArg (Table.get? · option) only.options
  rw [Table.get?_filter_key (· ∉ named), Table.get?_filter_key (· ∉ named)] at kept
  simpa [silent] using kept

/-- An attribute changes only what it names. -/
theorem changesOnly_of_withAttribute {name : String} {value : AttributeValue} (mem : name ∈ named)
    (run : family.withAttribute name value = .ok updated) : ChangesOnly named family updated := by
  unfold withAttribute at run
  dsimp only at run
  split at run
  case h_6 | h_7 =>
    cases run
    constructor <;> first | rfl | exact fun _ => rfl | exact fun silent => absurd mem silent
  case h_8 =>
    split at run
    · cases run
      constructor <;> first | rfl | exact fun _ => rfl | skip
      exact Table.filter_put (· ∉ named) (by simpa using mem) _ _
    · cases run
  -- What is left reads a name that the attribute gives.
  all_goals
    obtain ⟨_, -, same⟩ := bind_eq_ok.1 run
    cases same
    constructor <;> first | rfl | exact fun _ => rfl | exact fun silent => absurd mem silent

theorem changesOnly_of_withPlainAttributes
    (run : family.withPlainAttributes attributes = .ok updated) :
    ChangesOnly attributes.keys family updated :=
  foldlM_relates (ChangesOnly attributes.keys) (.refl _) .trans
    (fun _ _ mem _ => changesOnly_of_withAttribute (List.mem_map_of_mem mem)) run

/-- Attributes change only what they name. -/
theorem changesOnly_of_withAttributes
    (run : family.withAttributes attributes supply = (.ok updated, left)) :
    ChangesOnly attributes.keys family updated := by
  obtain ⟨plain, applied, -, run⟩ := withAttributes_eq_ok.1 run
  have only := changesOnly_of_withPlainAttributes applied
  cases given : attributes.get? "column_metadata" with
  | none =>
    rw [given] at run
    obtain ⟨rfl, -⟩ := run
    exact only
  | some value =>
    rw [given] at run
    obtain ⟨columns, -, rfl⟩ := run
    have named : "column_metadata" ∈ attributes.keys :=
      List.mem_map.2 ⟨_, Table.get?_eq_some.1 given, rfl⟩
    exact { only with columns := fun silent => absurd named silent }

/-- Attributes that say nothing about the validation of values leave it as it was. -/
theorem validation_of_withAttributes (silent : "default_validation_class" ∉ attributes.keys)
    (undefined : "column_metadata" ∉ attributes.keys)
    (run : family.withAttributes attributes supply = (.ok updated, left)) :
    updated.defaultValidationClass = family.defaultValidationClass ∧
      updated.columnMetadata = family.columnMetadata := by
  have only := changesOnly_of_withAttributes run
  exact ⟨only.validator silent, only.columns undefined⟩

/-- Attributes make a well-defined column family of one with known validators. -/
theorem wellDefined_of_withAttributes
    (known : ∀ name ∈ family.validatorNames, Validator.IsClassName name)
    (run : family.withAttributes attributes supply = (.ok updated, left)) : updated.WellDefined := by
  obtain ⟨comes, layered⟩ := comesFrom_of_withAttributes run
  refine ⟨fun name mem => ?_, layered⟩
  rcases comes.validators name mem with old | new
  · exact known name old
  · exact new

end ColumnFamily

/-! ### Keyspaces -/

namespace Keyspace

variable {keyspace between updated : Keyspace} {named : List String} {attributes : Attributes}

/-- An attribute that is accepted sets one part of a definition. -/
theorem withAttribute_ok {name : String} {value : AttributeValue}
    (run : keyspace.withAttribute name value = .ok updated) :
    name = "placement_strategy" ∧ updated = { keyspace with strategyClass := value.shown } ∨
      (name = "strategy_options" ∧ ∃ options, value.table name = .ok options ∧
        updated = { keyspace with strategyOptions := options }) ∨
      (name = "replication_factor" ∧ ∃ factor, value.integer name = .ok factor ∧
        updated = { keyspace with
          strategyOptions :=
            keyspace.strategyOptions.put "replication_factor" (Numeral.write factor) }) ∨
      name = "durable_writes" ∧ ∃ durable, value.truth name = .ok durable ∧
        updated = { keyspace with durableWrites := durable } := by
  unfold withAttribute at run
  split at run
  case h_1 =>
    cases run
    exact .inl ⟨rfl, rfl⟩
  case h_2 =>
    obtain ⟨options, read, same⟩ := bind_eq_ok.1 run
    cases same
    exact .inr (.inl ⟨rfl, options, read, rfl⟩)
  case h_3 =>
    obtain ⟨factor, read, same⟩ := bind_eq_ok.1 run
    cases same
    exact .inr (.inr (.inl ⟨rfl, factor, read, rfl⟩))
  case h_4 =>
    obtain ⟨durable, read, same⟩ := bind_eq_ok.1 run
    cases same
    exact .inr (.inr (.inr ⟨rfl, durable, read, rfl⟩))
  case h_5 => cases run

/-- Whether a definition differs from another one at most in what is named. The replication factor is
one of the options, and these can be named as a whole. -/
structure ChangesOnly (named : List String) (keyspace updated : Keyspace) : Prop where
  name : updated.name = keyspace.name
  families : updated.families = keyspace.families
  strategy : "placement_strategy" ∉ named → updated.strategyClass = keyspace.strategyClass
  durable : "durable_writes" ∉ named → updated.durableWrites = keyspace.durableWrites
  otherOptions : "strategy_options" ∉ named →
    updated.strategyOptions.erase "replication_factor" =
      keyspace.strategyOptions.erase "replication_factor"
  options : "strategy_options" ∉ named → "replication_factor" ∉ named →
    updated.strategyOptions = keyspace.strategyOptions

theorem ChangesOnly.refl (named : List String) (keyspace : Keyspace) :
    ChangesOnly named keyspace keyspace :=
  ⟨rfl, rfl, fun _ => rfl, fun _ => rfl, fun _ => rfl, fun _ _ => rfl⟩

theorem ChangesOnly.trans (first : ChangesOnly named keyspace between)
    (second : ChangesOnly named between updated) : ChangesOnly named keyspace updated where
  name := second.name.trans first.name
  families := second.families.trans first.families
  strategy silent := (second.strategy silent).trans (first.strategy silent)
  durable silent := (second.durable silent).trans (first.durable silent)
  otherOptions silent := (second.otherOptions silent).trans (first.otherOptions silent)
  options whole factor := (second.options whole factor).trans (first.options whole factor)

/-- An attribute changes only what it names. -/
theorem changesOnly_of_withAttribute {name : String} {value : AttributeValue} (mem : name ∈ named)
    (run : keyspace.withAttribute name value = .ok updated) :
    ChangesOnly named keyspace updated := by
  rcases withAttribute_ok run with ⟨rfl, rfl⟩ | ⟨rfl, options, -, rfl⟩ | ⟨rfl, factor, -, rfl⟩ |
    ⟨rfl, durable, -, rfl⟩
  · exact { ChangesOnly.refl named keyspace with strategy := fun silent => absurd mem silent }
  · exact { ChangesOnly.refl named keyspace with
      otherOptions := fun silent => absurd mem silent
      options := fun silent => absurd mem silent }
  · exact { ChangesOnly.refl named keyspace with
      otherOptions := fun _ => Table.erase_put _ _ _
      options := fun _ silent => absurd mem silent }
  · exact { ChangesOnly.refl named keyspace with durable := fun silent => absurd mem silent }

/-- Attributes change only what they name. -/
theorem changesOnly_of_withAttributes (run : keyspace.withAttributes attributes = .ok updated) :
    ChangesOnly attributes.keys keyspace updated :=
  foldlM_relates (ChangesOnly attributes.keys) (.refl _) .trans
    (fun _ _ mem _ => changesOnly_of_withAttribute (List.mem_map_of_mem mem)) run

/-- Attributes do not change which column families a keyspace has. -/
theorem families_of_withAttributes (run : keyspace.withAttributes attributes = .ok updated) :
    updated.families = keyspace.families :=
  (changesOnly_of_withAttributes run).families

/-- Attributes do not change what a keyspace is called. -/
theorem name_of_withAttributes (run : keyspace.withAttributes attributes = .ok updated) :
    updated.name = keyspace.name :=
  (changesOnly_of_withAttributes run).name

end Keyspace

end WideColumn
