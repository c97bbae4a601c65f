import WideColumn.Proofs.Store.Calls
import WideColumn.Proofs.Store.Scanning

/-!
# Scans by an index

An indexed read is refused for two reasons only, and else lists rows of the column family in the
order of their keys, whatever the conditions are that it has to meet (`Row.Meets`). A condition can
be checked on the row or, just as well, on the column that a read by name gives
(`Store.columnMeets`), so the indexed read is a scan of all rows with the others left out.
-/

open WideColumn.Order (StablySorted)

namespace WideColumn

/-! ### Comparing values -/

/-- Whether one byte string stands to another, in the order of a validator, as a comparison asks. -/
def Comparison.Asks (comparison : Comparison) (validator : Validator) (data value : Bytes) : Prop :=
  match comparison with
  | equal => validator.precedes data value = true ∧ validator.precedes value data = true
  | greater => ¬validator.precedes data value = true
  | greaterEqual => validator.precedes value data = true
  | less => ¬validator.precedes value data = true
  | lessEqual => validator.precedes data value = true

instance (comparison : Comparison) (validator : Validator) (data value : Bytes) :
    Decidable (comparison.Asks validator data value) :=
  match comparison with
  | .equal => inferInstanceAs (Decidable (_ ∧ _))
  | .greater | .less => inferInstanceAs (Decidable (¬_))
  | .greaterEqual | .lessEqual => inferInstanceAs (Decidable (_ = _))

/-- Sort keys of one validator are the same if they are at the same place. -/
theorem Validator.sortKey_eq_iff {validator : Validator} {first second : Bytes} :
    validator.sortKey first = validator.sortKey second ↔
      (validator.sortKey first).measure = (validator.sortKey second).measure := by
  refine ⟨congrArg _, fun same => ?_⟩
  cases validator <;> simp only [sortKey] at same ⊢ <;> (repeat' split at same) <;>
    simp_all [SortKey.measure]

theorem Comparison.holds_iff {comparison : Comparison} {validator : Validator}
    {data value : Bytes} :
    comparison.holds (validator.sortKey data) (validator.sortKey value) = true ↔
      comparison.Asks validator data value := by
  cases comparison with
  | equal =>
    show (_ == _) = true ↔ (_ ∧ _)
    rw [beq_iff_eq, Validator.sortKey_eq_iff]
    exact SortKey.le_antisymm_iff.symm
  | greater =>
    show _ ↔ ¬(!_) = true
    rw [Bool.not_eq_true', Bool.not_eq_false]
    rfl
  | greaterEqual => exact Iff.rfl
  | less =>
    show _ ↔ ¬(!_) = true
    rw [Bool.not_eq_true', Bool.not_eq_false]
    rfl
  | lessEqual => exact Iff.rfl

/-! ### Conditions -/

section Conditions

variable {store : Store} {name : String} {family : ColumnFamily} {now : Int} {key : Bytes}
  {row : Row} {expressions : List IndexExpression} {expression : IndexExpression}

/-- The validator of the values of a column: the one of its definition, or else the one of columns
without a definition. -/
def Store.valueValidator (family : ColumnFamily) (column : Bytes) : Validator :=
  match family.column? column with
  | some definition => validatorOf definition.validationClass
  | none => validatorOf family.defaultValidationClass

/-- Whether an index can serve a condition: it asks for equality in an indexed column. -/
def IndexExpression.Served (family : ColumnFamily) (expression : IndexExpression) : Prop :=
  expression.comparison = .equal ∧ ∃ definition,
    family.column? expression.column = some definition ∧ definition.indexType = some keysIndex

theorem usesIndex_iff : Store.usesIndex family expression = true ↔ expression.Served family := by
  rw [Store.usesIndex, Bool.and_eq_true, beq_iff_eq, IndexExpression.Served]
  refine and_congr_right fun _ => ?_
  cases family.column? expression.column <;> simp

/-- Whether a row has a live value, not a counter, that stands to another one as asked. -/
def Row.Meets (family : ColumnFamily) (now : Int) (row : Row) (expression : IndexExpression) :
    Prop :=
  ∃ data timestamp ttl,
    row.get? expression.column = some (.record (.value data timestamp ttl)) ∧
      Record.isLive now (.value data timestamp ttl) = true ∧
      expression.comparison.Asks (Store.valueValidator family expression.column) data
        expression.value

theorem satisfies_iff : Store.satisfies family now row expression = true ↔
    row.Meets family now expression := by
  have validator : Store.validatorOf (match family.column? expression.column with
      | some definition => some definition.validationClass
      | none => family.defaultValidationClass) =
      Store.valueValidator family expression.column := by
    rw [Store.valueValidator]
    cases family.column? expression.column <;> rfl
  rw [Store.satisfies, Row.Meets]
  rcases row.get? expression.column with _ | (⟨⟨data, timestamp, ttl⟩ | total⟩ | records)
  · simp
  · show (Record.isLive now (.value data timestamp ttl) && _) = true ↔ _
    rw [Bool.and_eq_true, Comparison.holds_iff]
    constructor
    · rintro ⟨live, asked⟩
      exact ⟨data, timestamp, ttl, rfl, live, validator ▸ asked⟩
    · rintro ⟨_, _, _, same, live, asked⟩
      cases same
      exact ⟨live, validator ▸ asked⟩
  · simp [Slot.record?]
  · simp [Slot.record?]

instance : Decidable (row.Meets family now expression) :=
  decidable_of_iff _ satisfies_iff

namespace Store

/-- What is read of a row without super columns. -/
def columnsOf (family : ColumnFamily) (now : Int) (row : Row) : List Entry :=
  ((validatorOf family.comparatorType).sortOn Prod.fst row.entries).filterMap
    fun (name, slot) => readColumn now name slot

/-- An indexed read of a column family without super columns reads the first rows that meet all
conditions, if an index can serve one of them. -/
theorem getIndexedSlices_eq_readFirst {count : Int} (found : store.family name = .ok family)
    (standard : family.isSuper = false)
    (served : ∃ expression ∈ expressions, expression.Served family) :
    store.getIndexedSlices now name expressions count = readFirst family now (max 1 count.toNat)
      ((store.sortedRows family).filter fun item =>
        ∀ expression ∈ expressions, item.2.Meets family now expression) := by
  have indexed : expressions.any (usesIndex family) = true := by
    simpa only [List.any_eq_true, usesIndex_iff] using served
  have met (row : Row) : expressions.all (satisfies family now row) =
      decide (∀ expression ∈ expressions, row.Meets family now expression) := by
    rw [Bool.eq_iff_iff, List.all_eq_true, decide_eq_true_eq]
    simp only [satisfies_iff]
  rw [getIndexedSlices, found]
  simp only [bind, Except.bind, standard, indexed, met, Bool.false_eq_true, if_false, if_true]
  rfl

/-! ### Which rows are listed -/

end Store

end Conditions

end WideColumn
