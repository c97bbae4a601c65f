import WideColumn.Proofs.Codec.Numbers

/-!
# Integers of any size

An integer is shown in chunks of its digits, the lowest first. A chunk is never too long to be written,
and the zeros that it is filled up with are digits of the integer (`toDigits_chunk`). So nothing fails,
and what is shown are the plain digits (`shownInteger_eq`). Nor does anything fail where an integer is
stored: the width that is worked out for it holds it (`encodeInteger_eq`).
-/

namespace WideColumn

namespace Numeral

/-! ### Digits in two parts -/

theorem numberOf_replicate_zero (count : Nat) : numberOf (List.replicate count '0') = 0 := by
  have zeros : AllDigits (List.replicate count '0') := fun c mem => by
    rw [List.eq_of_mem_replicate mem]
    decide
  rw [numberOf_eq_zero zeros]
  simp

/-- Zeros in front of digits do not change their number. -/
theorem numberOf_leftpad (width : Nat) (digits : List Char) :
    numberOf (digits.leftpad width '0') = numberOf digits := by
  rw [List.leftpad, numberOf_append, numberOf_replicate_zero, Nat.zero_mul, Nat.zero_add]

theorem allDigits_leftpad {digits : List Char} (all : AllDigits digits) (width : Nat) :
    AllDigits (digits.leftpad width '0') := by
  refine allDigits_append.2 ⟨fun c mem => ?_, all⟩
  rw [List.eq_of_mem_replicate mem]
  decide

/-- The digits of a number begin with no zero, so none is lost in front of further digits. -/
theorem plainDigits_toDigits_append {number : Nat} (positive : 0 < number) (after : List Char) :
    plainDigits (Nat.toDigits 10 number ++ after) = Nat.toDigits 10 number ++ after := by
  have all := allDigits_toDigits number
  have some : (Nat.toDigits 10 number).dropWhile (· == '0') ≠ [] := by
    rw [ne_eq, ← numberOf_eq_zero all, numberOf_toDigits]
    exact positive.ne'
  have kept : (Nat.toDigits 10 number).dropWhile (· == '0') = Nat.toDigits 10 number := by
    have plain := toDigits_numberOf all
    rw [numberOf_toDigits, plainDigits] at plain
    split at plain
    · contradiction
    · exact plain.symm
  rw [plainDigits, List.dropWhile_append, if_neg (by simpa using some), kept]
  split
  · rename_i none
    exact absurd (List.append_eq_nil_iff.1 none).1 Nat.toDigits_ne_nil
  · rfl

/-- A long number is written as what is above its lowest chunk, with this chunk filled up behind. -/
theorem toDigits_chunk (number : Nat) {width : Nat} (positive : 0 < width)
    (long : 10 ^ width ≤ number) :
    Nat.toDigits 10 (number / 10 ^ width) ++
        (Nat.toDigits 10 (number % 10 ^ width)).leftpad width '0' =
      Nat.toDigits 10 number := by
  have base : 0 < 10 ^ width := Nat.pow_pos (by decide)
  have short : (Nat.toDigits 10 (number % 10 ^ width)).length ≤ width :=
    (Nat.length_toDigits_le_iff (by decide) positive).2 (Nat.mod_lt number base)
  have length : ((Nat.toDigits 10 (number % 10 ^ width)).leftpad width '0').length = width := by
    rw [List.leftpad, List.length_append, List.length_replicate]
    omega
  have spelled : numberOf (Nat.toDigits 10 (number / 10 ^ width) ++
      (Nat.toDigits 10 (number % 10 ^ width)).leftpad width '0') = number := by
    rw [numberOf_append, length, numberOf_leftpad, numberOf_toDigits, numberOf_toDigits]
    exact Nat.div_add_mod' number (10 ^ width)
  rw [← plainDigits_toDigits_append (Nat.div_pos long base), ← toDigits_numberOf, spelled]
  exact allDigits_append.2
    ⟨allDigits_toDigits _, allDigits_leftpad (allDigits_toDigits _) width⟩

end Numeral

/-! ### What is shown -/

open Numeral (chunkBase chunkDigits)

theorem chunkBase_eq_pow : chunkBase = 10 ^ chunkDigits := by
  rw [Numeral.chunkBase_eq, Nat.pow_eq]

/-- A number of one chunk is not too long to be written. -/
theorem shownNumber_chunk {number : Nat} (short : number < chunkBase) :
    shownNumber number = .ok (String.ofList (Nat.toDigits 10 number)) := by
  have few : chunkBase ≤ 10 ^ Numeral.maxDigits := by
    rw [chunkBase_eq_pow]
    exact Nat.pow_le_pow_right (by decide) (by decide)
  rw [shownNumber, Numeral.write?_of_lt (by rw [Int.natAbs_natCast]; omega)]
  refine congrArg Except.ok (String.toList_inj.1 ?_)
  rw [Numeral.write_toList, if_neg (by omega), Int.natAbs_natCast, String.toList_ofList]
  rfl

/-- A chunk is written in front of those below it, and filled up if there are more above it. -/
theorem shownChunks_eq (number : Nat) (lower : String) :
    shownChunks number lower = .ok (String.ofList (Nat.toDigits 10 number) ++ lower) := by
  induction number using Nat.strong_induction_on generalizing lower with
  | _ number ih =>
    have base := Numeral.one_lt_chunkBase
    rw [shownChunks]
    by_cases short : number < chunkBase
    · rw [if_pos short, shownNumber_chunk short]
      rfl
    · have less : number / chunkBase < number := Nat.div_lt_self (by omega) base
      have long : 10 ^ chunkDigits ≤ number := by
        rw [← chunkBase_eq_pow]
        omega
      rw [if_neg short, shownNumber_chunk (Nat.mod_lt number (by omega))]
      show shownChunks (number / chunkBase) _ = _
      rw [ih _ less, String.toList_ofList, ← String.append_assoc, ← String.ofList_append,
        chunkBase_eq_pow, Numeral.toDigits_chunk number (by decide) long]

/-- Every number is shown, in plain decimal digits. -/
theorem shownInteger_eq (value : Int) : shownInteger value = .ok (Numeral.write value) := by
  rw [shownInteger, shownChunks_eq, String.append_empty]
  refine congrArg Except.ok (String.toList_inj.1 ?_)
  rw [Numeral.write_toList, String.toList_append, String.toList_ofList]
  split <;> rfl

/-! ### What is stored -/

/-- A number in two's complement of the least width that holds it. -/
def Bytes.shortest (value : Int) : Bytes :=
  ofInt (signedWidth value) value

/-- Every integer is stored, since the width that is worked out for it holds it. -/
theorem Validator.encodeInteger_eq (value : Int) :
    encodeInteger value = .ok (Bytes.shortest value) := by
  rw [encodeInteger,
    Bytes.ofInt?_of_holds (Bytes.signedWidth_pos value) (Bytes.holds_signedWidth value),
    Bytes.shortest]

end WideColumn
