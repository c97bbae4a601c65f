import WideColumn.Proofs.Codec.Ordering

/-!
# The shortest bytes of an integer

In two's complement the first bit of a byte string counts against all others (`Bits.signed`), which is
how bytes are read as an integer (`Bytes.toInt_eq_signed`). A byte can be left out in front just when it
and the next bit are nine equal bits (`Bytes.holds_pred_iff`). So an integer is stored in the shortest
bytes that denote it, and they are the only ones of their length and the only ones that do not begin
with nine equal bits (`Validator.encodeInteger_shortest`).
-/

namespace WideColumn

/-! ### Bits -/

namespace Bits

/-- The number without a sign of bits, the highest first. -/
def natural : List Bool → Nat
  | [] => 0
  | bit :: rest => bit.toNat * 2 ^ rest.length + natural rest

/-- The number of bits in two's complement, the highest first and counted as negative. -/
def signed : List Bool → Int
  | [] => 0
  | sign :: rest => natural rest - (sign.toNat * 2 ^ rest.length : Nat)

theorem natural_append (first second : List Bool) :
    natural (first ++ second) = natural first * 2 ^ second.length + natural second := by
  induction first with
  | nil => simp [natural]
  | cons bit first ih =>
    rw [List.cons_append, natural, natural, ih, List.length_append, Nat.pow_add, Nat.add_mul,
      Nat.mul_assoc, Nat.add_assoc]

theorem natural_lt (bits : List Bool) : natural bits < 2 ^ bits.length := by
  induction bits with
  | nil => exact Nat.one_pos
  | cons bit rest ih =>
    rw [natural, List.length_cons, Nat.pow_succ]
    cases bit <;> simp only [Bool.toNat_false, Bool.toNat_true] <;> omega

/-- The number with a sign, worked out from the one without. -/
theorem signed_eq {bits : List Bool} (nonempty : bits ≠ []) :
    signed bits = if 2 * natural bits < 2 ^ bits.length then (natural bits : Int)
      else (natural bits : Int) - (2 ^ bits.length : Nat) := by
  cases bits with
  | nil => exact absurd rfl nonempty
  | cons sign rest =>
    have small := natural_lt rest
    rw [signed, natural, List.length_cons, Nat.pow_succ]
    cases sign
    · simp only [Bool.toNat_false]
      rw [if_pos (by omega)]
      omega
    · simp only [Bool.toNat_true]
      rw [if_neg (by omega)]
      omega

/-- The least number of bits has only zeros, the greatest only ones. -/
theorem eq_replicate_iff (bits : List Bool) :
    (bits = List.replicate bits.length false ↔ natural bits = 0) ∧
      (bits = List.replicate bits.length true ↔ natural bits + 1 = 2 ^ bits.length) := by
  induction bits with
  | nil => exact ⟨iff_of_true rfl rfl, iff_of_true rfl rfl⟩
  | cons bit rest ih =>
    have small := natural_lt rest
    rw [List.length_cons, List.replicate_succ, List.replicate_succ, List.cons.injEq,
      List.cons.injEq, ih.1, ih.2, natural, Nat.pow_succ]
    cases bit <;> simp only [Bool.toNat_false, Bool.toNat_true, Bool.false_eq_true, reduceCtorEq,
      true_and, false_and, false_iff] <;> omega

end Bits

namespace Bytes

/-- The bits of a byte, the highest first. -/
def bitsOf (byte : UInt8) : List Bool :=
  (List.range 8).map fun place => byte.toNat.testBit (7 - place)

/-- The bits of a byte string, the highest first. -/
def bits (data : Bytes) : List Bool :=
  data.flatMap bitsOf

/-- Whether a byte string is one or more bytes that are an integer in two's complement. -/
def Denotes (data : Bytes) (value : Int) : Prop :=
  data ≠ [] ∧ Bits.signed data.bits = value

/-- Whether a byte string of more than one byte does not begin with nine equal bits. -/
def IsCompact (data : Bytes) : Prop :=
  1 < data.length → ¬∃ bit, data.bits.take 9 = List.replicate 9 bit

instance (data : Bytes) : Decidable data.IsCompact :=
  inferInstanceAs (Decidable (1 < data.length → ¬∃ bit, data.bits.take 9 = List.replicate 9 bit))

theorem length_bitsOf (byte : UInt8) : (bitsOf byte).length = 8 := rfl

theorem length_bits (data : Bytes) : data.bits.length = 8 * data.length := by
  induction data with
  | nil => rfl
  | cons byte rest ih =>
    rw [bits, List.flatMap_cons, ← bits, List.length_append, length_bitsOf, ih, List.length_cons]
    omega

theorem natural_bitsOf (byte : UInt8) : Bits.natural (bitsOf byte) = byte.toNat := by
  have all : ∀ value < 256, Bits.natural ((List.range 8).map fun place =>
      value.testBit (7 - place)) = value := by
    decide +kernel
  exact all byte.toNat byte.toNat_lt

/-- Bytes are the number that their bits are. -/
theorem toNat_eq_natural (data : Bytes) : data.toNat = Bits.natural data.bits := by
  induction data with
  | nil => rfl
  | cons byte rest ih =>
    rw [bits, List.flatMap_cons, ← bits, Bits.natural_append, natural_bitsOf, ← ih, toNat_cons,
      length_bits, Nat.pow_mul]

/-- Bytes are read in two's complement. -/
theorem toInt_eq_signed {data : Bytes} (nonempty : data ≠ []) :
    data.toInt = Bits.signed data.bits := by
  have some : data.bits ≠ [] := by
    have positive := List.length_pos_iff.2 nonempty
    rw [← List.length_pos_iff, length_bits]
    omega
  rw [toInt_eq, Bits.signed_eq some, toNat_eq_natural, length_bits, Nat.pow_mul]

/-- A number of nine bits and what is below them is, read in two's complement, within the range below
them just when the nine bits are equal. -/
theorem within_iff {first low width : Nat} {value : Int} (high : first < 512) (below : low < width)
    (read : value = if 2 * (first * width + low) < 512 * width then
        ((first * width + low : Nat) : Int)
      else ((first * width + low : Nat) : Int) - (512 * width : Nat)) :
    (-(width : Int) ≤ value ∧ value < width) ↔ first = 0 ∨ first + 1 = 512 := by
  rcases Nat.lt_or_ge first 256 with natural | negative
  · have most := Nat.mul_le_mul_right width (Nat.succ_le_of_lt natural)
    rw [Nat.succ_mul] at most
    rw [if_pos (by omega)] at read
    rcases Nat.eq_zero_or_pos first with rfl | positive
    · omega
    · have least := Nat.mul_le_mul_right width positive
      omega
  · have least := Nat.mul_le_mul_right width negative
    rw [if_neg (by omega)] at read
    rcases Nat.lt_or_ge first 511 with less | last
    · have most := Nat.mul_le_mul_right width (Nat.succ_le_of_lt less)
      rw [Nat.succ_mul] at most
      omega
    · obtain rfl : first = 511 := by omega
      omega

/-- One byte fewer holds the integer of a byte string just when this begins with nine equal bits. -/
theorem holds_pred_iff {data : Bytes} (several : 1 < data.length) :
    Holds (data.length - 1) data.toInt ↔ ∃ bit, data.bits.take 9 = List.replicate 9 bit := by
  have length := length_bits data
  have nine : (data.bits.take 9).length = 9 := by
    rw [List.length_take]
    omega
  have below : 2 ^ (data.bits.drop 9).length = half (data.length - 1) := by
    rw [List.length_drop, half]
    congr 1
    omega
  have range : 256 ^ data.length = 512 * half (data.length - 1) := by
    have places : 8 * data.length - 1 = 8 * (data.length - 1) - 1 + 8 := by omega
    rw [range_eq (by omega), half, half, places, Nat.pow_add]
    omega
  -- The number is made of the first nine bits and of what the others hold.
  have split := Bits.natural_append (data.bits.take 9) (data.bits.drop 9)
  have low := Bits.natural_lt (data.bits.drop 9)
  have high := Bits.natural_lt (data.bits.take 9)
  obtain ⟨zeros, ones⟩ := Bits.eq_replicate_iff (data.bits.take 9)
  rw [nine] at zeros ones high
  rw [below] at low
  rw [List.take_append_drop, ← toNat_eq_natural, below] at split
  rw [Bool.exists_bool, zeros, ones]
  exact within_iff high low (by rw [toInt_eq, range, split])

/-! ### The least width -/

theorem signedWidth_eq_iff {data : Bytes} (nonempty : data ≠ []) :
    signedWidth data.toInt = data.length ↔ data.IsCompact := by
  have positive := List.length_pos_iff.2 nonempty
  have least := signedWidth_pos data.toInt
  have enough := (signedWidth_le_iff positive).2 (holds_toInt nonempty)
  unfold IsCompact
  rcases Nat.lt_or_ge 1 data.length with several | one
  · -- The width is the least one just if one byte fewer does not do.
    rw [← holds_pred_iff several, ← signedWidth_le_iff (by omega)]
    omega
  · exact iff_of_true (by omega) fun several => absurd several (by omega)

/-- Compact bytes are the shortest ones of the integer that they denote. -/
theorem shortest_toInt_iff {data : Bytes} (nonempty : data ≠ []) :
    shortest data.toInt = data ↔ data.IsCompact := by
  rw [← signedWidth_eq_iff nonempty, shortest]
  constructor
  · intro same
    rw [← congrArg List.length same, length_ofInt]
  · intro width
    rw [width, ofInt_toInt]

theorem Denotes.toInt_eq {data : Bytes} {value : Int} (denotes : data.Denotes value) :
    data.toInt = value :=
  (toInt_eq_signed denotes.1).trans denotes.2

end Bytes

/-! ### The theorem -/

/-- Every integer is stored, in compact bytes that denote it and are read as it. Other bytes that denote
it are longer and not compact, and no other integer is stored in the same bytes. -/
theorem Validator.encodeInteger_shortest (value : Int) :
    ∃ data, encodeInteger value = .ok data ∧ data.Denotes value ∧ data.toInt = value ∧
      data.IsCompact ∧
      (∀ other : Bytes, other.Denotes value → other = data ∨
        data.length < other.length ∧ ¬other.IsCompact) ∧
      ∀ other, encodeInteger other = .ok data → other = value := by
  obtain ⟨nonempty, least⟩ := stores_shortest value
  have read := toInt_shortest value
  refine ⟨Bytes.shortest value, encodeInteger_eq value, ⟨nonempty, ?_⟩, read, ?_,
    fun other denotes => ?_, fun other stored => ?_⟩
  · rw [← Bytes.toInt_eq_signed nonempty, read]
  · rw [← Bytes.shortest_toInt_iff nonempty, read]
  · have same := denotes.toInt_eq
    by_cases compact : other.IsCompact
    · left
      rw [← same]
      exact ((Bytes.shortest_toInt_iff denotes.1).2 compact).symm
    · refine .inr ⟨lt_of_le_of_ne (least other denotes.1 (same.trans read.symm)) fun width => ?_,
        compact⟩
      -- Bytes of the least width are compact.
      rw [Bytes.shortest, Bytes.length_ofInt, ← same] at width
      exact compact ((Bytes.signedWidth_eq_iff denotes.1).1 width)
  · rw [encodeInteger_eq] at stored
    rw [← toInt_shortest other, Except.ok.inj stored, read]

-- A zero byte in front is needed where the next bit would be taken for the sign.
example : Validator.encodeInteger 127 = .ok [0x7f] ∧
    Validator.encodeInteger 128 = .ok [0x00, 0x80] ∧
    Bytes.IsCompact [0x00, 0x80] ∧ ¬Bytes.IsCompact [0x00, 0x7f] := by
  decide

end WideColumn
