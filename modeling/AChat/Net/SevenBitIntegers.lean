import AChat.Net.StreamReading

/-!
Contract: the seven-bit integers of the stream, for both widths.

What is written is read back from in front of any bytes, the reader of a length counts exactly the
bytes that were written, and no encoding starts another one.
-/

namespace AChat.Net

open Lib

/-! ### Integers of 4 bytes -/

section Width32

variable (value : BitVec 32) (rest : Bytes)

theorem fits_write7BitEncoded32 : value.toNat < 128 ^ 5 :=
  Nat.lt_trans value.isLt (by decide)

theorem length_write7BitEncoded32 :
    1 ≤ (write7BitEncoded32 value.toNat).length ∧ (write7BitEncoded32 value.toNat).length ≤ 5 :=
  ⟨length_write7Bit_pos (by decide) _,
    length_write7Bit_le (fits_write7BitEncoded32 value) (by decide)⟩

theorem read7BitEncoded_write7BitEncoded32 :
    read7BitEncoded (write7BitEncoded32 value.toNat ++ rest) = .ok value.toNat := by
  have decoded := read7Bit_write7Bit_of_lt value.isLt (fits_write7BitEncoded32 value) (by decide)
    rest
  rw [read7BitEncoded, write7BitEncoded32, decoded]

/-- The header is as long as what was written, and the length is the integer. -/
theorem readLengthWithoutOffset_write7BitEncoded32 {reader : BinaryStreamReader}
    (unread : reader.At (write7BitEncoded32 value.toNat ++ rest)) :
    reader.readLengthWithoutOffset =
      .ok (some ((write7BitEncoded32 value.toNat).length, value.toNat)) := by
  have decoded := read7BitEncoded_write7BitEncoded32 value []
  rw [List.append_nil] at decoded
  exact unread.readLengthWithoutOffset
    (ended_write7Bit 5 value.toNat (fits_write7BitEncoded32 value) (by decide))
    (length_write7BitEncoded32 value).2 decoded

theorem eq_of_write7BitEncoded32_prefix {other : BitVec 32}
    (starts : write7BitEncoded32 value.toNat <+: write7BitEncoded32 other.toNat) :
    value = other :=
  BitVec.eq_of_toNat_eq (eq_of_prefix_write7Bit (fits_write7BitEncoded32 value)
    (fits_write7BitEncoded32 other) (by decide) starts)

end Width32

/-! ### Integers of 8 bytes -/

section Width64

variable (value : BitVec 64) (rest : Bytes)

theorem fits_write7BitEncoded : value.toNat < 128 ^ 10 :=
  Nat.lt_trans value.isLt (by decide)

theorem length_write7BitEncoded :
    1 ≤ (write7BitEncoded value.toNat).length ∧ (write7BitEncoded value.toNat).length ≤ 10 :=
  ⟨length_write7Bit_pos (by decide) _,
    length_write7Bit_le (fits_write7BitEncoded value) (by decide)⟩

theorem read7BitEncoded64_write7BitEncoded :
    read7BitEncoded64 (write7BitEncoded value.toNat ++ rest) = .ok value.toNat := by
  have decoded := read7Bit_write7Bit_of_lt value.isLt (fits_write7BitEncoded value) (by decide)
    rest
  rw [read7BitEncoded64, write7BitEncoded, decoded]

theorem eq_of_write7BitEncoded_prefix {other : BitVec 64}
    (starts : write7BitEncoded value.toNat <+: write7BitEncoded other.toNat) :
    value = other :=
  BitVec.eq_of_toNat_eq (eq_of_prefix_write7Bit (fits_write7BitEncoded value)
    (fits_write7BitEncoded other) (by decide) starts)

end Width64

/-! ### Both widths -/

/-- The encodings of both widths: their lengths, the round trip in front of any bytes, the header
that the reader of a length finds, and that no encoding starts another one. -/
theorem sevenBit_selfDelimiting :
    (∀ (value : BitVec 32) (rest : Bytes),
      (1 ≤ (write7BitEncoded32 value.toNat).length ∧
        (write7BitEncoded32 value.toNat).length ≤ 5) ∧
      read7BitEncoded (write7BitEncoded32 value.toNat ++ rest) = .ok value.toNat ∧
      ∀ before : Bytes,
        (BinaryStreamReader.mk (before ++ (write7BitEncoded32 value.toNat ++ rest))
          before.length).readLengthWithoutOffset =
            .ok (some ((write7BitEncoded32 value.toNat).length, value.toNat))) ∧
      (∀ value other : BitVec 32,
        write7BitEncoded32 value.toNat <+: write7BitEncoded32 other.toNat → value = other) ∧
      (∀ (value : BitVec 64) (rest : Bytes),
        (1 ≤ (write7BitEncoded value.toNat).length ∧
          (write7BitEncoded value.toNat).length ≤ 10) ∧
        read7BitEncoded64 (write7BitEncoded value.toNat ++ rest) = .ok value.toNat) ∧
      ∀ value other : BitVec 64,
        write7BitEncoded value.toNat <+: write7BitEncoded other.toNat → value = other := by
  refine ⟨fun value rest => ⟨length_write7BitEncoded32 value,
    read7BitEncoded_write7BitEncoded32 value rest, fun before => ?_⟩,
    fun value _ => eq_of_write7BitEncoded32_prefix value,
    fun value rest => ⟨length_write7BitEncoded value,
      read7BitEncoded64_write7BitEncoded value rest⟩,
    fun value _ => eq_of_write7BitEncoded_prefix value⟩
  refine readLengthWithoutOffset_write7BitEncoded32 value rest ⟨?_, List.drop_left⟩
  simp [BinaryStreamReader.len]

end AChat.Net
