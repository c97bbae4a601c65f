import WideColumn.Proofs.Codec.Refusals
import WideColumn.Session.Reply

/-!
# What commands rule out

Some causes for which the store rejects a call are ruled out by the commands before they make it
(`StoreFailure.IsGuarded`). Names, literals, attributes and outcomes are read and written without
the store, so whatever goes wrong there is no such cause.
-/

namespace WideColumn

/-- The causes that commands rule out before they call the store: nothing to call or to look in,
names that are not defined or taken, places that do not fit a column family, an index that is not
there, and a counter to be set. -/
def StoreFailure.IsGuarded : StoreFailure → Prop
  | notConnected => True
  | noKeyspaceSet => True
  | keyspaceMissing _ => True
  | keyspaceTaken _ => True
  | familyUnconfigured _ => True
  | familyUndefined _ => True
  | familyTaken _ _ => True
  | superColumnRequired _ => True
  | superColumnInvalid _ => True
  | columnMissing => True
  | counterFamily _ => True
  | noIndexOnColumn _ _ => True
  | _ => False

/-- Whether a failure is anything but the store's for a guarded cause. -/
def Failure.Unguarded : Failure → Prop
  | store cause => ¬ cause.IsGuarded
  | _ => True

theorem Failure.unguarded_of_isLiteral {failure : Failure} (literal : failure.IsLiteral) :
    failure.Unguarded := by
  cases failure with
  | literal cause => trivial
  | _ => exact literal.elim

open Failure (Unguarded)

/-! ### Numbers, and what was read -/

section Numbers

variable {allowed : Failure → Prop} (digits : allowed (.digits .tooManyDigits))

include digits

theorem failsOnly_shownNumber (value : Int) : FailsOnly allowed (shownNumber value) := by
  unfold shownNumber
  split
  · exact failsOnly_ok _
  · exact failsOnly_error.2 digits

theorem Report.failsOnly_cellText (cell : ShownCell) : FailsOnly allowed (cellText cell) := by
  cases cell with
  | counter name value => exact failsOnly_ok _
  | column name value timestamp ttl =>
    have time : FailsOnly allowed (numberText timestamp) := by
      cases timestamp with
      | some value => exact failsOnly_shownNumber digits value
      | none => exact failsOnly_ok _
    refine time.bind fun _ _ => ?_
    dsimp only
    split
    · exact failsOnly_pure _
    · exact failsOnly_pure _
    · exact (failsOnly_shownNumber digits _).bind fun _ _ => failsOnly_pure _

theorem Report.failsOnly_entryText (newline : String) (entry : ShownEntry) :
    FailsOnly allowed (entryText newline entry) := by
  cases entry with
  | cell cell => exact (failsOnly_cellText digits cell).bind fun _ _ => failsOnly_pure _
  | superColumn name cells =>
    refine (failsOnly_mapM fun cell _ => ?_).bind fun _ _ => failsOnly_pure _
    exact (failsOnly_cellText digits cell).bind fun _ _ => failsOnly_pure _

/-- What was read is written unless a number has too many digits. -/
theorem Report.failsOnly_lines_of_read (newline : String) {outcome : Outcome}
    (definitions : ∀ keyspaces, outcome ≠ .keyspaces keyspaces) :
    FailsOnly allowed (lines newline outcome) := by
  cases outcome with
  | column cell => exact (failsOnly_cellText digits cell).bind fun _ _ => failsOnly_pure _
  | entries entries =>
    exact (failsOnly_mapM fun entry _ => failsOnly_entryText digits newline entry).bind
      fun _ _ => failsOnly_pure _
  | rows rows =>
    refine (failsOnly_mapM fun row _ => ?_).bind fun _ _ => failsOnly_pure _
    exact (failsOnly_mapM fun entry _ => failsOnly_entryText digits newline entry).bind
      fun _ _ => failsOnly_pure _
  | keyspaces keyspaces => exact absurd rfl (definitions keyspaces)
  | _ => exact failsOnly_ok _

end Numbers

/-! ### Codecs -/

namespace Validator

theorem failsOnly_named (name : String) : FailsOnly Unguarded (named name) := by
  unfold named
  split
  · exact failsOnly_ok _
  · exact failsOnly_error.2 trivial

theorem failsOnly_encodeHexadecimal (text : String) :
    FailsOnly Unguarded (encodeHexadecimal text) := by
  unfold encodeHexadecimal
  dsimp only
  split
  · exact failsOnly_error.2 trivial
  · split
    · exact failsOnly_error.2 trivial
    · exact failsOnly_ok _

theorem failsOnly_encodeFixed (validator : Validator) (text : String) :
    FailsOnly Unguarded (validator.encodeFixed text) := by
  by_cases hexadecimal : validator = bytes
  · rw [hexadecimal]
    exact failsOnly_encodeHexadecimal text
  · have literal := (encodeFixed_isLiteral_iff validator text).2 fun both => hexadecimal both.1
    exact literal.mono fun _ => Failure.unguarded_of_isLiteral

theorem failsOnly_timeId : Draw.timeId.FailsOnly Unguarded :=
  fun _ => failsOnly_ok _

theorem failsOnly_randomId : Draw.randomId.FailsOnly Unguarded :=
  fun _ => failsOnly_ok _

theorem failsOnly_encode (validator : Validator) (text : String) :
    (validator.encode text).FailsOnly Unguarded := by
  unfold encode
  split
  · exact failsOnly_timeId.map _
  · exact fun _ => failsOnly_encodeFixed validator text

theorem failsOnly_generate (validator : Validator) : validator.generate.FailsOnly Unguarded := by
  cases validator with
  | timeUuid => exact failsOnly_timeId.map _
  | lexicalUuid => exact failsOnly_randomId.map _
  | _ => exact Draw.failsOnly_throw trivial

theorem failsOnly_decode (validator : Validator) (data : Bytes) :
    FailsOnly Unguarded (validator.decode data) :=
  (validator.decode_isLiteral data).mono fun _ => Failure.unguarded_of_isLiteral

end Validator

/-! ### Choices -/

theorem failsOnly_declaredValidator (declared : Option String) :
    FailsOnly Unguarded (declaredValidator declared) := by
  cases declared with
  | none => exact failsOnly_ok _
  | some name => exact (Validator.failsOnly_named name).map _

theorem failsOnly_choose (declared : Option String) (assumed : Option Validator)
    (default : Validator) : FailsOnly Unguarded (choose declared assumed default) := by
  refine (failsOnly_declaredValidator declared).bind fun found _ => ?_
  split <;> exact failsOnly_pure _

theorem Choice.failsOnly_show (choice : Choice) (data : Bytes) :
    FailsOnly Unguarded (choice.show data) := by
  unfold Choice.show
  split
  · split
    · exact failsOnly_ok _
    · exact failsOnly_error.2 trivial
  · exact choice.validator.failsOnly_decode data

theorem Literal.failsOnly_encode (literal : Literal) (validator : Validator) :
    (literal.encode validator).FailsOnly Unguarded := by
  cases literal with
  | plain text => exact validator.failsOnly_encode text
  | cast function argument =>
    refine (Draw.failsOnly_lift (Validator.failsOnly_named function)).bind fun cast => ?_
    cases argument with
    | some text => exact cast.failsOnly_encode text
    | none => exact cast.failsOnly_generate

/-! ### Resolvers -/

namespace Resolver

variable (resolver : Resolver)

theorem failsOnly_keyChoice : FailsOnly Unguarded resolver.keyChoice :=
  failsOnly_choose _ _ _

theorem failsOnly_comparator : FailsOnly Unguarded resolver.comparator :=
  (failsOnly_choose _ _ _).map _

theorem failsOnly_subcomparator : FailsOnly Unguarded resolver.subcomparator :=
  (failsOnly_choose _ _ _).map _

theorem failsOnly_columnNameValidator : FailsOnly Unguarded resolver.columnNameValidator := by
  unfold columnNameValidator
  split
  · exact resolver.failsOnly_subcomparator
  · exact resolver.failsOnly_comparator

theorem failsOnly_valueChoice (column : Option Bytes) :
    FailsOnly Unguarded (resolver.valueChoice column) := by
  unfold valueChoice
  split
  · exact (Validator.failsOnly_named _).bind fun _ _ => failsOnly_pure _
  · exact failsOnly_choose _ _ _

theorem failsOnly_valueValidator (column : Option Bytes) :
    FailsOnly Unguarded (resolver.valueValidator column) :=
  (resolver.failsOnly_valueChoice column).map _

theorem failsOnly_encodeWith {validator : Except Failure Validator}
    (chosen : FailsOnly Unguarded validator) (literal : Literal) :
    (encodeWith validator literal).FailsOnly Unguarded :=
  (Draw.failsOnly_lift chosen).bind fun validator => literal.failsOnly_encode validator

theorem failsOnly_encodeKey (literal : Literal) :
    (resolver.encodeKey literal).FailsOnly Unguarded :=
  failsOnly_encodeWith (resolver.failsOnly_keyChoice.map _) literal

theorem failsOnly_encodeSuperColumn (literal : Literal) :
    (resolver.encodeSuperColumn literal).FailsOnly Unguarded :=
  failsOnly_encodeWith resolver.failsOnly_comparator literal

theorem failsOnly_encodeColumn (literal : Literal) :
    (resolver.encodeColumn literal).FailsOnly Unguarded :=
  failsOnly_encodeWith resolver.failsOnly_columnNameValidator literal

theorem failsOnly_encodeValue (literal : Literal) (column : Bytes) :
    (resolver.encodeValue literal column).FailsOnly Unguarded := by
  refine (Draw.failsOnly_lift (resolver.failsOnly_valueValidator _)).bind fun validator => ?_
  dsimp only
  split
  · exact Draw.failsOnly_throw_bind trivial _
  · exact literal.failsOnly_encode validator

theorem failsOnly_showKey (data : Bytes) : FailsOnly Unguarded (resolver.showKey data) :=
  resolver.failsOnly_keyChoice.bind fun choice _ => choice.failsOnly_show data

theorem failsOnly_showSuperColumn (data : Bytes) :
    FailsOnly Unguarded (resolver.showSuperColumn data) :=
  resolver.failsOnly_comparator.bind fun validator _ => validator.failsOnly_decode data

theorem failsOnly_showColumn (data : Bytes) : FailsOnly Unguarded (resolver.showColumn data) :=
  resolver.failsOnly_columnNameValidator.bind fun validator _ => validator.failsOnly_decode data

theorem failsOnly_showValue (data column : Bytes) (asked : Option Validator) :
    FailsOnly Unguarded (resolver.showValue data column asked) := by
  cases asked with
  | some validator => exact validator.failsOnly_decode data
  | none =>
    exact (resolver.failsOnly_valueChoice _).bind fun choice _ => choice.failsOnly_show data

end Resolver

/-! ### Steps of commands -/

section Steps

open WideColumn.Action (showCell showEntries showRows locate requireColumn encodeCondition)

variable (resolver : Resolver)

/-- A column is shown unless its name or its value is not, or a number has too many digits. -/
theorem failsOnly_showCell_of {allowed : Failure → Prop} {asked : Option Validator} {cell : Cell}
    (digits : allowed (.digits .tooManyDigits))
    (name : FailsOnly allowed (resolver.showColumn cell.name))
    (value : ∀ data timestamp ttl, cell.record = .value data timestamp ttl →
      FailsOnly allowed (resolver.showValue data cell.name asked)) :
    FailsOnly allowed (showCell resolver asked cell) := by
  refine name.bind fun shown _ => ?_
  split
  · exact (failsOnly_shownNumber digits _).bind fun _ _ => failsOnly_pure _
  · rename_i data timestamp ttl held
    exact (value data timestamp ttl held).bind fun _ _ => failsOnly_pure _

theorem failsOnly_showCell (asked : Option Validator) (cell : Cell) :
    FailsOnly Unguarded (showCell resolver asked cell) :=
  failsOnly_showCell_of resolver trivial (resolver.failsOnly_showColumn _) fun _ _ _ _ =>
    resolver.failsOnly_showValue _ _ _

theorem failsOnly_showEntries (asked : Option Validator) (entries : List Entry) :
    FailsOnly Unguarded (showEntries resolver asked entries) := by
  refine failsOnly_mapM fun entry _ => ?_
  cases entry with
  | cell cell => exact (failsOnly_showCell resolver asked cell).map _
  | superColumn name cells =>
    refine (resolver.failsOnly_showSuperColumn name).bind fun name _ => ?_
    exact (failsOnly_mapM fun cell _ => failsOnly_showCell resolver asked cell).bind fun _ _ =>
      failsOnly_pure _
  | misplaced => exact failsOnly_throw.2 trivial

theorem failsOnly_showRows (rows : List RowSlice) :
    FailsOnly Unguarded (showRows resolver rows) := by
  refine (failsOnly_mapM fun row _ => ?_).map _
  refine (resolver.failsOnly_showKey _).bind fun key _ => ?_
  exact (failsOnly_showEntries resolver none _).bind fun _ _ => failsOnly_pure _

theorem failsOnly_locate (address : Address) :
    (locate resolver address).FailsOnly Unguarded := by
  refine (resolver.failsOnly_encodeKey _).bind fun key => ?_
  split
  · exact Draw.failsOnly_pure _
  · exact (resolver.failsOnly_encodeSuperColumn _).bind fun _ => Draw.failsOnly_pure _
  · refine (resolver.failsOnly_encodeSuperColumn _).bind fun _ => ?_
    exact (resolver.failsOnly_encodeColumn _).bind fun _ => Draw.failsOnly_pure _
  · exact (resolver.failsOnly_encodeColumn _).bind fun _ => Draw.failsOnly_pure _
  · exact Draw.failsOnly_throw trivial

theorem failsOnly_requireColumn (family : ColumnFamily) (location : Location) :
    FailsOnly Unguarded (requireColumn family location) := by
  unfold requireColumn
  split
  · exact failsOnly_ok _
  · split <;> exact failsOnly_error.2 trivial

theorem failsOnly_encodeCondition (condition : Condition) :
    (encodeCondition resolver condition).FailsOnly Unguarded := by
  refine (resolver.failsOnly_encodeColumn _).bind fun column => ?_
  refine (Resolver.failsOnly_encodeWith (resolver.failsOnly_valueValidator _) _).bind fun _ => ?_
  exact Draw.failsOnly_pure _

end Steps

/-! ### Attributes -/

theorem AttributeValue.failsOnly_table (name : String) (value : AttributeValue) :
    FailsOnly Unguarded (value.table name) := by
  refine (failsOnly_mapM fun item _ => ?_).bind fun _ _ => failsOnly_pure _
  cases item with
  | hash entries => exact failsOnly_ok _
  | text words => exact failsOnly_error.2 trivial

theorem AttributeValue.failsOnly_integer (name : String) (value : AttributeValue) :
    FailsOnly Unguarded (value.integer name) := by
  unfold AttributeValue.integer
  split
  · exact failsOnly_ok _
  · exact failsOnly_error.2 trivial

theorem AttributeValue.failsOnly_truth (name : String) (value : AttributeValue) :
    FailsOnly Unguarded (value.truth name) := by
  unfold AttributeValue.truth
  dsimp only
  split
  · exact failsOnly_ok _
  · split
    · exact failsOnly_ok _
    · exact failsOnly_error.2 trivial

theorem Keyspace.failsOnly_withAttributes (keyspace : Keyspace) (attributes : Attributes) :
    FailsOnly Unguarded (keyspace.withAttributes attributes) := by
  refine failsOnly_foldlM (fun changed ⟨name, value⟩ => ?_) _ _
  show FailsOnly Unguarded (changed.withAttribute name value)
  unfold Keyspace.withAttribute
  split
  · exact failsOnly_pure _
  · exact (value.failsOnly_table _).bind fun _ _ => failsOnly_pure _
  · exact (value.failsOnly_integer _).bind fun _ _ => failsOnly_pure _
  · exact (value.failsOnly_truth _).bind fun _ _ => failsOnly_pure _
  · exact failsOnly_throw.2 trivial

namespace ColumnFamily

theorem failsOnly_columnTypeOf (text : String) : FailsOnly Unguarded (columnTypeOf text) := by
  unfold columnTypeOf
  dsimp only
  split
  · exact failsOnly_ok _
  · exact failsOnly_error.2 trivial

theorem failsOnly_withAttribute (family : ColumnFamily) (name : String) (value : AttributeValue) :
    FailsOnly Unguarded (family.withAttribute name value) := by
  have className : FailsOnly Unguarded (Validator.className <$> Validator.named value.shown) :=
    (Validator.failsOnly_named _).map _
  unfold withAttribute
  dsimp only
  split
  · exact (failsOnly_columnTypeOf _).bind fun _ _ => failsOnly_pure _
  · exact className.bind fun _ _ => failsOnly_pure _
  · exact className.bind fun _ _ => failsOnly_pure _
  · exact className.bind fun _ _ => failsOnly_pure _
  · exact className.bind fun _ _ => failsOnly_pure _
  · exact failsOnly_pure _
  · exact failsOnly_pure _
  · split
    · exact failsOnly_pure _
    · exact failsOnly_throw.2 trivial

theorem failsOnly_indexTypeOf (text : Option String) :
    FailsOnly Unguarded (indexTypeOf text) := by
  cases text with
  | none => exact failsOnly_ok _
  | some text =>
    unfold indexTypeOf
    dsimp only
    split
    · exact failsOnly_ok _
    · exact failsOnly_error.2 trivial

theorem failsOnly_columnOf (nameValidator : Validator) (item : AttributeItem) :
    (columnOf nameValidator item).FailsOnly Unguarded := by
  cases item with
  | text words => exact Draw.failsOnly_throw trivial
  | hash entries =>
    unfold columnOf
    dsimp only
    split
    · exact Draw.failsOnly_throw_bind trivial _
    split
    · split
      · refine (Draw.failsOnly_lift (failsOnly_indexTypeOf _)).bind fun indexType => ?_
        refine (nameValidator.failsOnly_encode _).bind fun stored => ?_
        refine (Draw.failsOnly_lift (Validator.failsOnly_named _)).bind fun validator => ?_
        exact Draw.failsOnly_pure _
      · exact Draw.failsOnly_throw trivial
    · exact Draw.failsOnly_throw trivial

theorem failsOnly_columnsOf (family : ColumnFamily) (value : AttributeValue) :
    (family.columnsOf value).FailsOnly Unguarded := by
  cases value with
  | text words => exact Draw.failsOnly_throw trivial
  | list items =>
    refine (Draw.failsOnly_lift (Resolver.failsOnly_columnNameValidator _)).bind fun names => ?_
    exact Draw.failsOnly_mapM (failsOnly_columnOf names) items

theorem failsOnly_withAttributes (family : ColumnFamily) (attributes : Attributes) :
    (family.withAttributes attributes).FailsOnly Unguarded := by
  have plain : FailsOnly Unguarded (family.withPlainAttributes attributes) :=
    failsOnly_foldlM (fun changed entry => changed.failsOnly_withAttribute entry.1 entry.2) _ _
  refine (Draw.failsOnly_lift plain).bind fun changed => ?_
  dsimp only
  split
  · exact Draw.failsOnly_throw_bind trivial _
  · split
    · exact Draw.failsOnly_pure _
    · exact (failsOnly_columnsOf _ _).bind fun _ => Draw.failsOnly_pure _

end ColumnFamily

/-! ### Reports -/

namespace Report

theorem failsOnly_columnLines (resolver : Resolver) (column : ColumnDefinition) :
    FailsOnly Unguarded (columnLines resolver column) := by
  unfold columnLines
  dsimp only
  split
  · exact failsOnly_pure _
  · exact (resolver.failsOnly_showColumn _).bind fun _ _ => failsOnly_pure _

theorem failsOnly_familyLines (family : ColumnFamily) :
    FailsOnly Unguarded (familyLines family) := by
  refine (Resolver.failsOnly_comparator _).bind fun comparator _ => ?_
  dsimp only
  split
  case' isTrue => refine (Resolver.failsOnly_subcomparator _).bind fun subcomparator _ => ?_
  -- Both layouts go on in the same way.
  all_goals
    refine (failsOnly_pure _).bind fun sortedBy _ => ?_
    refine ((Resolver.failsOnly_keyChoice _).map _).bind fun keys _ => ?_
    refine (Resolver.failsOnly_valueValidator _ _).bind fun values _ => ?_
    exact (failsOnly_mapM fun column _ => failsOnly_columnLines _ column).bind fun _ _ =>
      failsOnly_pure _

theorem failsOnly_lines (newline : String) (outcome : Outcome) :
    FailsOnly Unguarded (lines newline outcome) := by
  by_cases defines : ∃ keyspaces, outcome = .keyspaces keyspaces
  · obtain ⟨keyspaces, rfl⟩ := defines
    refine (failsOnly_mapM fun keyspace _ => ?_).bind fun _ _ => failsOnly_pure _
    exact (failsOnly_mapM fun family _ => failsOnly_familyLines family).bind fun _ _ =>
      failsOnly_pure _
  · exact failsOnly_lines_of_read trivial newline fun keyspaces same => defines ⟨keyspaces, same⟩

/-- A reply with a failure gives the one that the command ended in, or none that is guarded. -/
theorem failsOnly_outcome (newline : String) (outcome : Outcome) :
    FailsOnly Unguarded (Report.outcome newline outcome) :=
  (failsOnly_lines newline outcome).bind fun _ _ => failsOnly_pure _

end Report

end WideColumn
