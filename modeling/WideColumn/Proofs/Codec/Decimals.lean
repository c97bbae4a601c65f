import Mathlib.Data.Nat.Digits.Defs
import WideColumn.Proofs.Codec.Ordering

/-!
# Decimal numerals of integers

A decimal numeral is one or more digits, perhaps behind a minus sign, and its digits count by their
places (`Numeral.positional`). Every integer has one numeral without needless zeros or a needless sign.
Whatever the number of digits, the numerals are just what is read as an integer, and every integer is
shown as the one plain numeral that it has (`Validator.integerText_exact`). Reading works from the left
and showing from the right, and both in chunks; that no chunk is seen from outside is in
`Numeral.ofChunks?_eq` and `shownInteger_eq`.
-/

namespace WideColumn

namespace Numeral

/-! ### Places -/

/-- The number that decimal digits denote, of which each counts ten times what the next one does. -/
def positional (digits : List Char) : Nat :=
  Nat.ofDigits 10 (digits.reverse.map digitValue)

theorem numberOf_eq_positional (digits : List Char) : numberOf digits = positional digits := by
  induction digits using List.reverseRecOn with
  | nil => rfl
  | append_singleton digits c ih =>
    rw [numberOf_concat, ih, positional, positional, List.reverse_append, List.reverse_singleton,
      List.singleton_append, List.map_cons, Nat.ofDigits_cons]
    simp [Nat.add_comm]

/-! ### Numerals -/

/-- One or more decimal digits, perhaps behind a minus sign. -/
@[ext] structure Decimal where
  isNegated : Bool
  digits : List Char
  nonempty : digits ≠ []
  allDigits : AllDigits digits

namespace Decimal

variable (numeral : Decimal)

/-- The numeral as it is written. -/
def text : List Char :=
  if numeral.isNegated then '-' :: numeral.digits else numeral.digits

/-- The integer that the numeral denotes. -/
def value : Int :=
  if numeral.isNegated then -(positional numeral.digits : Int) else positional numeral.digits

/-- No zero stands in front of other digits, and a minus sign just where the integer is negative. -/
def IsPlain : Prop :=
  (numeral.digits.head? = some '0' → numeral.digits = ['0']) ∧
    (numeral.isNegated = true ↔ numeral.value < 0)

theorem denotes : Denotes numeral.text numeral.value := by
  rw [text, value, ← numberOf_eq_positional]
  split
  · exact .negative numeral.nonempty numeral.allDigits
  · exact .natural numeral.nonempty numeral.allDigits

theorem digits_ne_minus (rest : List Char) : numeral.digits ≠ '-' :: rest := fun same =>
  absurd (numeral.allDigits '-' (same ▸ List.mem_cons_self)) (by decide)

theorem text_inj {numeral other : Decimal} : numeral.text = other.text ↔ numeral = other := by
  refine ⟨fun same => ?_, fun same => same ▸ rfl⟩
  -- A minus sign is no digit, so it tells the two kinds of numeral apart.
  rw [text, text] at same
  cases signed : numeral.isNegated <;> cases signed' : other.isNegated <;>
    simp only [signed, signed', Bool.false_eq_true, if_true, if_false] at same
  · exact Decimal.ext (signed.trans signed'.symm) same
  · exact absurd same (numeral.digits_ne_minus _)
  · exact absurd same.symm (other.digits_ne_minus _)
  · exact Decimal.ext (signed.trans signed'.symm) (List.cons.inj same).2

end Decimal

/-- What is read as an integer are the numerals that denote it. -/
theorem strict?_eq_some {text : List Char} {value : Int} :
    strict? text = some value ↔ ∃ numeral : Decimal, text = numeral.text ∧ numeral.value = value := by
  rw [← denotes_iff]
  constructor
  · intro denotes
    cases denotes with
    | natural nonempty all =>
      exact ⟨⟨false, text, nonempty, all⟩, rfl, by
        rw [Decimal.value, if_neg (by simp), numberOf_eq_positional]⟩
    | @negative digits nonempty all =>
      exact ⟨⟨true, digits, nonempty, all⟩, rfl, by
        rw [Decimal.value, if_pos rfl, numberOf_eq_positional]⟩
  · rintro ⟨numeral, rfl, rfl⟩
    exact numeral.denotes

/-! ### Plain numerals -/

/-- Digits stay as they are just when no zero stands in front of others. -/
theorem plainDigits_eq_self_iff {digits : List Char} (nonempty : digits ≠ []) :
    plainDigits digits = digits ↔ (digits.head? = some '0' → digits = ['0']) := by
  cases digits with
  | nil => exact absurd rfl nonempty
  | cons c rest =>
    by_cases zero : c = '0'
    · subst zero
      constructor
      · intro kept _
        rw [plainDigits, List.dropWhile_cons_of_pos (by simp)] at kept
        split at kept
        · exact kept.symm
        · -- Fewer digits are left than there were.
          have fewer := (List.dropWhile_sublist (l := rest) (· == '0')).length_le
          rw [kept, List.length_cons] at fewer
          omega
      · intro lone
        rw [lone rfl]
        rfl
    · refine iff_of_true ?_ fun first => absurd (Option.some.inj first) zero
      rw [plainDigits, List.dropWhile_cons_of_neg (by simpa using zero)]

theorem Decimal.plain_text {numeral : Decimal} (isPlain : numeral.IsPlain) :
    plain numeral.text = numeral.text := by
  obtain ⟨noZero, sign⟩ := isPlain
  have kept := (plainDigits_eq_self_iff numeral.nonempty).2 noZero
  rw [text]
  split
  · rename_i negated
    have nonzero : plainDigits numeral.digits ≠ ['0'] := fun lone => by
      have none := (plainDigits_of_eq_zero numeral.allDigits).1 lone
      have negative := sign.1 negated
      rw [value, if_pos negated, ← numberOf_eq_positional, none] at negative
      exact absurd negative (by decide)
    rw [plain, if_neg nonzero, kept]
  · rw [plain, kept]
    exact numeral.digits_ne_minus

/-- The plain numeral of an integer. -/
def plainNumeral (value : Int) : Decimal where
  isNegated := value < 0
  digits := Nat.toDigits 10 value.natAbs
  nonempty := Nat.toDigits_ne_nil
  allDigits := allDigits_toDigits value.natAbs

theorem text_plainNumeral (value : Int) : (plainNumeral value).text = (write value).toList := by
  rw [Decimal.text, write_toList]
  by_cases negative : value < 0 <;> simp [plainNumeral, negative]

theorem value_plainNumeral (value : Int) : (plainNumeral value).value = value := by
  rw [Decimal.value, ← numberOf_eq_positional]
  simp only [plainNumeral, numberOf_toDigits, decide_eq_true_eq]
  split <;> omega

theorem isPlain_plainNumeral (value : Int) : (plainNumeral value).IsPlain := by
  refine ⟨(plainDigits_eq_self_iff Nat.toDigits_ne_nil).1 ?_, ?_⟩
  · rw [← toDigits_numberOf (allDigits_toDigits value.natAbs), numberOf_toDigits]
  · rw [value_plainNumeral]
    exact decide_eq_true_iff

/-- An integer has no plain numeral but its own. -/
theorem plain_iff_eq {numeral : Decimal} {value : Int} :
    numeral.IsPlain ∧ numeral.value = value ↔ numeral = plainNumeral value := by
  constructor
  · rintro ⟨isPlain, rfl⟩
    have shown := write_of_strict? (strict?_eq_some.2 ⟨numeral, rfl, rfl⟩)
    rw [Decimal.plain_text isPlain, ← text_plainNumeral] at shown
    exact (Decimal.text_inj.1 shown).symm
  · rintro rfl
    exact ⟨isPlain_plainNumeral value, value_plainNumeral value⟩

end Numeral

/-! ### The theorem -/

open Numeral (Decimal)

/-- The texts that are read as integers are the numerals, of any number of digits, that blanks may
surround, and each is read as the integer that it denotes. Every integer is shown as the only plain
numeral that it has, which is read as the same integer; and a numeral that was read is shown without its
leading zeros, and without a minus sign if it is zero. -/
theorem Validator.integerText_exact (validator : Validator) :
    (∀ text value, validator.numberOf text = .ok value ↔
      ∃ numeral : Decimal, Text.trim text.toList = numeral.text ∧ numeral.value = value) ∧
    (∀ value, ∃ numeral : Decimal,
      (∀ other : Decimal, other.IsPlain ∧ other.value = value ↔ other = numeral) ∧
      shownInteger value = .ok (String.ofList numeral.text) ∧
      validator.numberOf (String.ofList numeral.text) = .ok value) ∧
    ∀ numeral : Decimal,
      shownInteger numeral.value = .ok (String.ofList (Numeral.plain numeral.text)) := by
  refine ⟨fun text value => numberOf_eq_ok.trans Numeral.strict?_eq_some, fun value => ?_,
    fun numeral => ?_⟩
  · refine ⟨Numeral.plainNumeral value, fun other => Numeral.plain_iff_eq, ?_, ?_⟩
    · rw [shownInteger_eq, Numeral.text_plainNumeral, String.ofList_toList]
    · rw [numberOf_eq_ok, String.toList_ofList, Numeral.text_plainNumeral, Numeral.trim_write,
        Numeral.strict?_write]
  · have shown := Numeral.write_of_strict? (Numeral.strict?_eq_some.2 ⟨numeral, rfl, rfl⟩)
    rw [shownInteger_eq, ← shown, String.ofList_toList]

end WideColumn
