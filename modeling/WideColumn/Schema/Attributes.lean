import WideColumn.Command
import WideColumn.Order
import WideColumn.Resolver
import WideColumn.Text.Quoted

/-!
# Definitions from attributes

The attributes of a statement are applied to a definition one after the other, in the order in which
they were given; the first that does not fit is what fails. Column definitions are made at the end,
because their names are read by the comparator that the other attributes may declare.
-/

namespace WideColumn

/-! ### Values of attributes -/

/-- An item of a list as text. -/
def AttributeItem.shown : AttributeItem → String
  | .text words => Text.quoted words
  | .hash entries => Text.quotedEntries entries.entries

/-- The value of an attribute as text. -/
def AttributeValue.shown : AttributeValue → String
  | .text words => words
  | .list items => Text.enclosed "[" "]" (items.map AttributeItem.shown)

/-- The value of an attribute as yes or no. -/
def AttributeValue.truth (name : String) (value : AttributeValue) : Except Failure Bool :=
  let small := Text.lowered value.shown
  if small = "true" ∨ small = "1" then .ok true
  else if small = "false" ∨ small = "0" then .ok false
  else .error (.schema (.notABoolean name value.shown))

/-- The value of an attribute as a whole number. -/
def AttributeValue.integer (name : String) (value : AttributeValue) : Except Failure Int :=
  match Numeral.decimal? value.shown.toList with
  | some number => .ok number
  | none => .error (.schema (.notAnInteger name value.shown))

/-- The entries of an item that is a hash. -/
def AttributeItem.entriesFor (name : String) :
    AttributeItem → Except Failure (List (String × String))
  | .hash entries => .ok entries.entries
  | .text _ => .error (.schema (.notHashes name))

/-- The items of an attribute; a value that is no list counts as an item. -/
def AttributeValue.items : AttributeValue → List AttributeItem
  | .text words => [.text words]
  | .list items => items

/-- The value of an attribute as one table, made of all the hashes in its list. -/
def AttributeValue.table (name : String) (value : AttributeValue) :
    Except Failure (Table String String) := do
  let hashes ← value.items.mapM (AttributeItem.entriesFor name)
  return .ofList hashes.flatten

/-! ### Keyspaces -/

namespace Keyspace

/-- The keyspace with one more attribute applied. -/
def withAttribute (keyspace : Keyspace) (name : String) (value : AttributeValue) :
    Except Failure Keyspace :=
  match name with
  | "placement_strategy" => return { keyspace with strategyClass := value.shown }
  | "strategy_options" => return { keyspace with strategyOptions := ← value.table name }
  | "replication_factor" => do
    let factor ← value.integer name
    return { keyspace with
      strategyOptions := keyspace.strategyOptions.put "replication_factor" (Numeral.write factor) }
  | "durable_writes" => return { keyspace with durableWrites := ← value.truth name }
  | _ => throw (.schema (.unknownKeyspaceAttribute name))

/-- The keyspace with all attributes applied. -/
def withAttributes (keyspace : Keyspace) (attributes : Attributes) : Except Failure Keyspace :=
  attributes.entries.foldlM (fun changed (name, value) => changed.withAttribute name value) keyspace

end Keyspace

/-! ### Column families -/

namespace ColumnFamily

/-- The attributes that are kept as they are given. -/
def optionNames : List String :=
  ["rows_cached", "keys_cached", "read_repair_chance", "gc_grace", "min_compaction_threshold",
    "max_compaction_threshold", "replicate_on_write", "memtable_throughput",
    "memtable_operations", "memtable_flush_after"]

/-- The type of column family that a text names in any letter case. -/
def columnTypeOf (text : String) : Except Failure String :=
  let capitalized := (Text.capitalized? text.toList).map String.ofList
  match ["Standard", "Super"].find? fun name => capitalized == some name with
  | some name => .ok name
  | none => .error (.schema (.badColumnType text))

/-- The column family with one more attribute applied, of any but the column definitions. -/
def withAttribute (family : ColumnFamily) (name : String) (value : AttributeValue) :
    Except Failure ColumnFamily := do
  let className : Except Failure String := Validator.className <$> Validator.named value.shown
  match name with
  | "column_type" => return { family with columnType := ← columnTypeOf value.shown }
  | "comparator" => return { family with comparatorType := some (← className) }
  | "subcomparator" => return { family with subcomparatorType := some (← className) }
  | "default_validation_class" =>
    return { family with defaultValidationClass := some (← className) }
  | "key_validation_class" => return { family with keyValidationClass := some (← className) }
  | "comment" => return { family with comment := some value.shown }
  -- Column definitions wait until the comparator is known; see `withAttributes`.
  | "column_metadata" => return family
  | _ =>
    if name ∈ optionNames then return { family with options := family.options.put name value.shown }
    else throw (.schema (.unknownFamilyAttribute name))

/-- The type of index that a text asks for, if any: there is one type, with a name and a number. -/
def indexTypeOf : Option String → Except Failure (Option String)
  | none => .ok none
  | some text =>
    let capitals := Text.upperAscii? text.toList
    if capitals = some ['0'] ∨ capitals = some keysIndex.toList then .ok (some keysIndex)
    else .error (.schema (.unsupportedIndexType text))

/-- What a column definition is made of, with the names of its parts in small letters. -/
def columnPartNames : List String :=
  ["column_name", "validation_class", "index_type", "index_name"]

/-- The definition of a column, whose name is read by a validator. -/
def columnOf (nameValidator : Validator) (item : AttributeItem) : Draw ColumnDefinition := do
  let .hash entries := item | throw (.schema .metadataNotAHash)
  let parts := Table.ofList (entries.entries.map fun (key, value) => (Text.lowered key, value))
  let unknown := parts.keys.filter fun key => key ∉ columnPartNames
  if let first :: _ := Order.sortStrings unknown then
    throw (.schema (.unknownMetadataAttribute first))
  let some name := parts.get? "column_name" | throw (.schema .metadataIncomplete)
  let some validation := parts.get? "validation_class" | throw (.schema .metadataIncomplete)
  let indexType ← indexTypeOf (parts.get? "index_type")
  let stored ← nameValidator.encode name
  let validator ← Validator.named validation
  return {
    name := stored
    validationClass := validator.className
    indexType := indexType
    indexName := parts.get? "index_name" }

/-- The column definitions that an attribute gives. -/
def columnsOf (family : ColumnFamily) (value : AttributeValue) : Draw (List ColumnDefinition) := do
  let .list items := value | throw (.schema .metadataNotAList)
  let nameValidator ← Resolver.columnNameValidator { family }
  items.mapM (columnOf nameValidator)

/-- The column family with all attributes but the column definitions applied. -/
def withPlainAttributes (family : ColumnFamily) (attributes : Attributes) :
    Except Failure ColumnFamily :=
  attributes.entries.foldlM (fun changed (name, value) => changed.withAttribute name value) family

/-- The column family with all attributes applied. -/
def withAttributes (family : ColumnFamily) (attributes : Attributes) : Draw ColumnFamily := do
  let family ← family.withPlainAttributes attributes
  if family.subcomparatorType.isSome && !family.isSuper then
    throw (.schema .subcomparatorInStandard)
  match attributes.get? "column_metadata" with
  | none => return family
  | some value => return { family with columnMetadata := ← family.columnsOf value }

end ColumnFamily

end WideColumn
