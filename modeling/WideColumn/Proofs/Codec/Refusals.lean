import WideColumn.Proofs.Codec.Hexadecimal
import WideColumn.Proofs.Codec.Integers
import WideColumn.Proofs.Failing

/-!
# What codecs fail with

A validator refuses what it does not take as a literal: a text that spells no value of its own, and
bytes that are none. The one text that fails otherwise is a line of hexadecimal digits together with
its line break. The break passes where the digits are looked over and is met again where they are
turned into bytes, and that failure is none of a literal (`Validator.failsOnly_isLiteral_iff`).
-/

namespace WideColumn

/-- Whether a failure is that of a literal or of a stored value. -/
def Failure.IsLiteral : Failure → Prop
  | literal _ => True
  | _ => False

open Failure (IsLiteral)

/-! ### Hexadecimal digits -/

namespace Bytes

/-- Whether a character is a hexadecimal digit in either letter case. -/
def IsHexDigit (c : Char) : Prop :=
  c ∈ digitChars ∨ c ∈ ['A', 'B', 'C', 'D', 'E', 'F']

theorem isSome_hexDigit?_iff {c : Char} : (hexDigit? c).isSome = true ↔ IsHexDigit c := by
  -- Beyond ASCII there are neither digits nor values.
  by_cases ascii : c.toNat < 0x80
  · exact forall_of_ascii (motive := fun c => (hexDigit? c).isSome = true ↔
      c ∈ digitChars ∨ c ∈ ['A', 'B', 'C', 'D', 'E', 'F']) (by decide) ascii
  · have all : (digitChars ++ ['A', 'B', 'C', 'D', 'E', 'F']).all (·.toNat < 0x80) = true := by
      decide
    have small := List.all_eq_true.1 all c
    refine iff_of_false (fun some => ?_) fun digit =>
      ascii (of_decide_eq_true (small (List.mem_append.2 digit)))
    obtain ⟨value, read⟩ := Option.isSome_iff_exists.1 some
    exact ascii (ascii_of_hexDigit? read)

/-- Digits have values, and nothing else has. -/
theorem isSome_mapM_hexDigit?_iff {digits : List Char} :
    (digits.mapM hexDigit?).isSome = true ↔ ∀ c ∈ digits, IsHexDigit c := by
  induction digits with
  | nil => simp
  | cons c rest ih =>
    rw [List.forall_mem_cons, ← isSome_hexDigit?_iff, ← ih, List.mapM_cons]
    cases hexDigit? c <;> cases rest.mapM hexDigit? <;> simp

end Bytes

namespace Validator

/-- Whether a text is a line of hexadecimal digits, or of none, with the line break at its end. -/
def IsHexLine (text : String) : Prop :=
  ∃ digits, text.toList = digits ++ ['\n'] ∧ ∀ c ∈ digits, Bytes.IsHexDigit c

/-! ### From text to bytes -/

/-- How the text of bytes fails: as a literal, but for the line break behind digits. -/
theorem encodeHexadecimal_isLiteral_iff (text : String) :
    FailsOnly IsLiteral (encodeHexadecimal text) ↔ ¬IsHexLine text := by
  by_cases broken : text.toList.getLast? = some '\n'
  · obtain ⟨digits, split⟩ := List.getLast?_eq_some_iff.1 broken
    have line : IsHexLine text ↔ (digits.mapM Bytes.hexDigit?).isSome = true := by
      rw [Bytes.isSome_mapM_hexDigit?_iff]
      constructor
      · rintro ⟨others, same, all⟩
        rwa [← List.append_cancel_right (same.symm.trans split)]
      · exact fun all => ⟨digits, split, all⟩
    rw [line, encodeHexadecimal, if_pos broken, split, List.dropLast_concat]
    cases digits.mapM Bytes.hexDigit? with
    | none => simp [IsLiteral]
    | some values => simp [IsLiteral]
  · have noLine : ¬IsHexLine text := by
      rintro ⟨digits, split, -⟩
      exact broken (split ▸ List.getLast?_concat)
    refine iff_of_true ?_ noLine
    rw [encodeHexadecimal, if_neg broken]
    cases text.toList.mapM Bytes.hexDigit? with
    | none => simp [IsLiteral]
    | some values => simp [broken]

theorem numberOf_isLiteral (validator : Validator) (text : String) :
    FailsOnly IsLiteral (validator.numberOf text) := by
  rw [numberOf]
  split
  · exact failsOnly_ok _
  · exact failsOnly_error.2 trivial

theorem uuidOf_isLiteral (validator : Validator) (text : String) :
    FailsOnly IsLiteral (validator.uuidOf text) := by
  rw [uuidOf]
  split
  · exact failsOnly_ok _
  · exact failsOnly_error.2 trivial

theorem encodeLong_isLiteral (value : Int) : FailsOnly IsLiteral (encodeLong value) := by
  rw [encodeLong, shownInteger_eq]
  split
  · exact failsOnly_ok _
  · exact failsOnly_error.2 trivial

theorem encodeInteger_isLiteral (value : Int) : FailsOnly IsLiteral (encodeInteger value) := by
  rw [encodeInteger_eq]
  exact failsOnly_ok _

theorem encodeTimeUuid_isLiteral (text : String) : FailsOnly IsLiteral (encodeTimeUuid text) := by
  refine (uuidOf_isLiteral timeUuid text).bind fun value _ => ?_
  split
  · exact failsOnly_pure _
  · exact failsOnly_throw.2 trivial

/-- A literal that stands for itself fails as a literal, but for the line break behind the digits of
bytes. -/
theorem encodeFixed_isLiteral_iff (validator : Validator) (text : String) :
    FailsOnly IsLiteral (validator.encodeFixed text) ↔ ¬(validator = bytes ∧ IsHexLine text) := by
  have refused {other : Validator} (differs : other ≠ bytes)
      (only : FailsOnly IsLiteral (other.encodeFixed text)) :
      FailsOnly IsLiteral (other.encodeFixed text) ↔ ¬(other = bytes ∧ IsHexLine text) :=
    iff_of_true only fun both => differs both.1
  cases validator with
  | utf8 => exact refused nofun (failsOnly_ok _)
  | bytes => simpa [encodeFixed] using encodeHexadecimal_isLiteral_iff text
  | long =>
    exact refused nofun ((numberOf_isLiteral long text).bind fun value _ =>
      encodeLong_isLiteral value)
  | integer =>
    exact refused nofun ((numberOf_isLiteral integer text).bind fun value _ =>
      encodeInteger_isLiteral value)
  | lexicalUuid =>
    exact refused nofun ((uuidOf_isLiteral lexicalUuid text).bind fun _ _ => failsOnly_pure _)
  | timeUuid => exact refused nofun (encodeTimeUuid_isLiteral text)
  | counter => exact refused nofun (failsOnly_error.2 trivial)

/-- A fresh identifier does not fail. -/
theorem encode_isLiteral_iff (validator : Validator) (text : String) (supply : Supply) :
    FailsOnly IsLiteral (validator.encode text supply).1 ↔
      ¬(validator = bytes ∧ IsHexLine text) := by
  rw [encode]
  split
  · rename_i now
    have timed : validator = timeUuid := by
      rw [isNow, Bool.and_eq_true] at now
      exact eq_of_beq now.1
    subst timed
    exact iff_of_true (failsOnly_ok _) (by simp)
  · exact encodeFixed_isLiteral_iff validator text

/-! ### From bytes to text -/

theorem decodeLong_isLiteral (data : Bytes) : FailsOnly IsLiteral (decodeLong data) := by
  unfold decodeLong
  split_ifs
  · exact failsOnly_ok _
  · exact failsOnly_ok _
  · exact failsOnly_error.2 trivial

theorem decodeUuid_isLiteral (data : Bytes) : FailsOnly IsLiteral (decodeUuid data) := by
  unfold decodeUuid
  split_ifs
  · exact failsOnly_ok _
  · exact failsOnly_ok _
  · exact failsOnly_error.2 trivial

theorem decode_isLiteral (validator : Validator) (data : Bytes) :
    FailsOnly IsLiteral (validator.decode data) := by
  cases validator with
  | utf8 =>
    rw [decode]
    split
    · exact failsOnly_ok _
    · exact failsOnly_error.2 trivial
  | bytes => exact failsOnly_ok _
  | long => exact decodeLong_isLiteral data
  | integer =>
    rw [decode, shownInteger_eq]
    split
    · exact failsOnly_ok _
    · exact failsOnly_ok _
  | lexicalUuid => exact decodeUuid_isLiteral data
  | timeUuid => exact decodeUuid_isLiteral data
  | counter => exact decodeLong_isLiteral data

/-! ### The theorem -/

/-- Every text is turned into bytes or refused as a literal, unless it is a line of hexadecimal digits
with its line break that is read as bytes; and every byte string is shown or refused as a literal. -/
theorem failsOnly_isLiteral_iff (validator : Validator) :
    (∀ text supply, FailsOnly IsLiteral (validator.encode text supply).1 ↔
      ¬(validator = bytes ∧ IsHexLine text)) ∧
    ∀ data, FailsOnly IsLiteral (validator.decode data) :=
  ⟨encode_isLiteral_iff validator, decode_isLiteral validator⟩

/-- The line break behind the digits `ab` is refused as no hexadecimal digit. -/
theorem encode_hexLine_not_isLiteral :
    ¬∀ (validator : Validator) (text : String) (supply : Supply),
      FailsOnly IsLiteral (validator.encode text supply).1 := by
  intro only
  exact only bytes "ab\n" { timeId := id, randomId := id } (.digits (.notAHexDigit 3)) (by decide)

end Validator

end WideColumn
