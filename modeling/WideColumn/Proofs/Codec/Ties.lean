import WideColumn.Proofs.Codec.Numbers
import WideColumn.Proofs.Sorting
import WideColumn.Validator.SortKey

/-!
# Bytes at the same place

A validator compares bytes by their sort keys, and these rank all byte strings
(`Validator.ranks_precedes`). Different bytes are at the same place only for integers of any width:
these are compared by number alone, and a number has a byte string of every width that can hold it
(`Validator.Ties`).
-/

namespace WideColumn

namespace SortKey

/-- Keys compare from left to right. -/
theorem le_iff (first second : SortKey) : first.le second = true ↔
    first.measure.1 < second.measure.1 ∨ first.measure.1 = second.measure.1 ∧
      (first.measure.2.1 < second.measure.2.1 ∨ first.measure.2.1 = second.measure.2.1 ∧
        first.measure.2.2 ≤ second.measure.2.2) := by
  unfold SortKey.le SortKey.lt
  generalize first.measure = one
  generalize second.measure = two
  obtain ⟨rank, value, data⟩ := one
  obtain ⟨rank', value', data'⟩ := two
  rw [← List.not_lt]
  simp only [Bool.not_eq_true', Bool.or_eq_false_iff, Bool.and_eq_false_iff, decide_eq_false_iff_not,
    beq_eq_false_iff_ne]
  grind

theorem le_total (first second : SortKey) : first.le second = true ∨ second.le first = true := by
  rw [le_iff, le_iff]
  have bytes := List.le_total first.measure.2.2 second.measure.2.2
  grind

theorem le_trans {first second third : SortKey} (up : first.le second = true)
    (further : second.le third = true) : first.le third = true := by
  rw [le_iff] at up further ⊢
  have bytes (one : first.measure.2.2 ≤ second.measure.2.2)
      (two : second.measure.2.2 ≤ third.measure.2.2) :
      first.measure.2.2 ≤ third.measure.2.2 := List.le_trans one two
  rcases up with up | ⟨ranks, up | ⟨values, up⟩⟩ <;>
    rcases further with further | ⟨ranks', further | ⟨values', further⟩⟩
  all_goals first | (left; omega) | (right; refine ⟨by omega, ?_⟩)
  all_goals first | (left; omega) | exact .inr ⟨by omega, bytes up further⟩

theorem le_antisymm_iff {first second : SortKey} :
    first.le second = true ∧ second.le first = true ↔ first.measure = second.measure := by
  rw [le_iff, le_iff]
  constructor
  · rintro ⟨up, down⟩
    have ranks : first.measure.1 = second.measure.1 := by omega
    have values : first.measure.2.1 = second.measure.2.1 := by omega
    have upward : first.measure.2.2 ≤ second.measure.2.2 := by
      rcases up with less | ⟨-, less | ⟨-, bytes⟩⟩
      · omega
      · omega
      · exact bytes
    have downward : second.measure.2.2 ≤ first.measure.2.2 := by
      rcases down with less | ⟨-, less | ⟨-, bytes⟩⟩
      · omega
      · omega
      · exact bytes
    exact Prod.ext ranks (Prod.ext values (List.le_antisymm upward downward))
  · intro same
    rw [same]
    exact ⟨.inr ⟨rfl, .inr ⟨rfl, List.le_refl _⟩⟩, .inr ⟨rfl, .inr ⟨rfl, List.le_refl _⟩⟩⟩

end SortKey

namespace Validator

/-- Whether different bytes are at the same place for a validator: integers of any width that are
the same number. -/
def Ties (validator : Validator) (first second : Bytes) : Prop :=
  validator = integer ∧ first ≠ second ∧ first ≠ [] ∧ second ≠ [] ∧ first.toInt = second.toInt

instance (validator : Validator) (first second : Bytes) : Decidable (validator.Ties first second) :=
  inferInstanceAs (Decidable (_ ∧ _))

variable {validator : Validator} {first second : Bytes}

/-- A validator ranks all byte strings. -/
theorem ranks_precedes (validator : Validator) : Order.Ranks validator.precedes where
  total _ _ := SortKey.le_total _ _
  trans _ _ _ up further := SortKey.le_trans up further

/-- Bytes of one width that are the same number are the same. -/
theorem eq_of_toInt (width : first.length = second.length) (number : first.toInt = second.toInt) :
    first = second := by
  rw [← Bytes.ofInt_toInt first, ← Bytes.ofInt_toInt second, width, number]

/-- Numbers of one fixed width are told apart. -/
theorem eq_of_measure_fixed {width : Nat}
    (same : (if first.length = width then SortKey.number first.toInt else .plain first).measure =
      (if second.length = width then SortKey.number second.toInt else .plain second).measure) :
    first = second := by
  split at same <;> split at same
  · rename_i length length'
    exact eq_of_toInt (length.trans length'.symm) (congrArg (·.2.1) same)
  · exact absurd (congrArg (·.1) same) nofun
  · exact absurd (congrArg (·.1) same) nofun
  · exact congrArg (·.2.2) same

/-- The sort keys of different bytes agree only for integers of any width. -/
theorem eq_or_ties_of_measure
    (same : (validator.sortKey first).measure = (validator.sortKey second).measure) :
    first = second ∨ validator.Ties first second := by
  cases validator with
  | long => exact .inl (eq_of_measure_fixed same)
  | counter => exact .inl (eq_of_measure_fixed same)
  | integer =>
    refine or_iff_not_imp_left.2 fun differ => ?_
    simp only [sortKey] at same
    split at same <;> split at same
    · exact absurd (congrArg (·.2.2) same) differ
    · exact absurd (congrArg (·.1) same) nofun
    · exact absurd (congrArg (·.1) same) nofun
    · rename_i nonempty otherNonempty
      exact ⟨rfl, differ, by simpa using nonempty, by simpa using otherNonempty,
        congrArg (·.2.1) same⟩
  | timeUuid =>
    -- An identifier is compared by its bytes too, after its time.
    simp only [sortKey] at same
    split at same <;> split at same
    · exact .inl (congrArg (·.2.2) same)
    · exact absurd (congrArg (·.1) same) nofun
    · exact absurd (congrArg (·.1) same) nofun
    · exact .inl (congrArg (·.2.2) same)
  | utf8 => exact .inl (congrArg (·.2.2) same)
  | lexicalUuid => exact .inl (congrArg (·.2.2) same)
  | bytes => exact .inl (congrArg (·.2.2) same)

theorem tied_precedes_iff :
    Order.tied validator.precedes first second = true ↔
      first = second ∨ validator.Ties first second := by
  rw [Order.tied_iff]
  refine SortKey.le_antisymm_iff.trans ⟨eq_or_ties_of_measure, ?_⟩
  rintro (rfl | ⟨rfl, -, nonempty, otherNonempty, number⟩)
  · rfl
  · rw [sortKey, sortKey, if_neg (by simpa using nonempty), if_neg (by simpa using otherNonempty),
      number]

/-- Bytes that are neither the same nor tie have an order. -/
theorem tied_precedes_eq_false (differ : first ≠ second) (untied : ¬validator.Ties first second) :
    Order.tied validator.precedes first second = false :=
  Bool.eq_false_iff.2 fun tied => (tied_precedes_iff.1 tied).elim differ untied

end Validator

end WideColumn
