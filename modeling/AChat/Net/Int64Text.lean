import AChat.Lib.Decimal
import AChat.Net.StreamRoundTrip

/-!
Contract: when an integer of 8 bytes comes back from its text.

The writer writes the decimal text of the integer. The reader copies it to the start of an
array and reads from there until a byte is no digit, so that digits that the array held
behind the text belong to the number.
-/

namespace AChat.Net

open Lib

/-- `WriteInt64`, with whether it is to write that there is no value. -/
def BinaryStreamWriter.writeInt64 (writer : BinaryStreamWriter) (value : BitVec 64)
    (isNULL : Bool := false) : BinaryStreamWriter :=
  if isNULL = false then writer.writeCString (decimalInt value.toInt) else writer.writeCString []

namespace BinaryStreamReader

/-- The digits that a text goes on with. -/
def digitsOf (text : Bytes) : Bytes :=
  text.takeWhile isDigit

/-- What stands behind the text of an integer does not change it: some byte is no digit,
and either no digit comes first, or only zeros behind a zero, or any digits behind the
largest or the smallest integer, which no further digit takes out of its bounds. -/
def LeavesValue (value : Int) (behind : Bytes) : Prop :=
  (∃ byte ∈ behind, isDigit byte = false) ∧
    (digitsOf behind = [] ∨ (value = 0 ∧ ∀ byte ∈ digitsOf behind, byte.toNat ≤ 48) ∨
      value = 2 ^ 63 - 1 ∨ value = -2 ^ 63)

instance (value : Int) (behind : Bytes) : Decidable (LeavesValue value behind) :=
  inferInstanceAs (Decidable (_ ∧ _))

/-! ### The text -/

theorem isDigit_digitByte {digit : Nat} (small : digit < 10) :
    isDigit (digitByte digit) = true := by
  have all : ∀ digit < 10, isDigit (digitByte digit) = true := by decide
  exact all digit small

theorem isDigit_of_mem_decimal {number : Nat} {byte : UInt8} (member : byte ∈ decimal number) :
    isDigit byte = true := by
  obtain ⟨digit, small, rfl⟩ := digit_of_mem_decimal member
  exact isDigit_digitByte small

/-- A digit is neither space nor a sign. -/
theorem atollDigits_of_digit {byte : UInt8} (digit : isDigit byte = true) (rest : Bytes) :
    atollDigits (byte :: rest) = (false, byte :: rest) := by
  have all : ∀ bits : BitVec 8, isDigit ⟨bits⟩ = true →
      isSpace ⟨bits⟩ = false ∧ (⟨bits⟩ : UInt8) ≠ 45 ∧ (⟨bits⟩ : UInt8) ≠ 43 := by
    decide +kernel
  obtain ⟨noSpace, noMinus, noPlus⟩ := all byte.toBitVec digit
  unfold atollDigits
  rw [List.dropWhile_cons_of_neg (by simpa using noSpace)]
  split
  · rename_i same
    exact absurd (List.cons.inj same).1 noMinus
  · rename_i same
    exact absurd (List.cons.inj same).1 noPlus
  · rfl

/-- `atoll` finds the sign and the digits that were written, and what stands behind them. -/
theorem atollDigits_decimalInt (value : Int) (behind : Bytes) :
    atollDigits (decimalInt value ++ behind) =
      (decide (value < 0), decimal value.natAbs ++ behind) := by
  unfold decimalInt
  split
  · rename_i negative
    rw [decide_eq_true negative]
    rfl
  · rename_i positive
    rw [decide_eq_false positive]
    obtain ⟨byte, rest, text⟩ := List.exists_cons_of_ne_nil (decimal_ne_nil value.natAbs)
    have first : byte ∈ decimal value.natAbs := text ▸ List.mem_cons_self
    have digit := isDigit_of_mem_decimal first
    rw [text, List.cons_append]
    exact atollDigits_of_digit digit _

/-- The number that is read: the digits that were written and those behind them. -/
theorem atoll_decimalInt (value : Int) (behind : Bytes) :
    atoll (decimalInt value ++ behind) =
      if ∃ byte ∈ behind, isDigit byte = false then
        let magnitude := readDigits value.natAbs (digitsOf behind)
        .ok (clampInt64 (if value < 0 then -magnitude else magnitude))
      else .error .localArray := by
  have digits : ∀ byte ∈ decimal value.natAbs, isDigit byte = true :=
    fun byte member => isDigit_of_mem_decimal member
  have stops : AtollStops (decimalInt value ++ behind) ↔
      ∃ byte ∈ behind, isDigit byte = false := by
    unfold AtollStops
    rw [atollDigits_decimalInt]
    constructor
    · intro found
      obtain ⟨byte, member, noDigit⟩ := found
      rcases List.mem_append.mp member with inText | later
      · exact absurd ((digits byte inText).symm.trans noDigit) (by decide)
      · exact ⟨byte, later, noDigit⟩
    · intro found
      obtain ⟨byte, member, noDigit⟩ := found
      exact ⟨byte, List.mem_append_right _ member, noDigit⟩
  have read : ((atollDigits (decimalInt value ++ behind)).2.takeWhile isDigit).foldl
      (fun (value : Nat) byte => value * 10 + (byte.toNat - 48)) 0 =
        readDigits value.natAbs (digitsOf behind) := by
    rw [atollDigits_decimalInt]
    show readDigits 0 ((decimal value.natAbs ++ behind).takeWhile isDigit) = _
    rw [List.takeWhile_append_of_pos digits, readDigits_append, readDigits_decimal]
    rfl
  unfold atoll
  simp only [stops, read]
  rw [atollDigits_decimalInt]
  simp only [decide_eq_true_eq]

/-- Digits behind a number leave it as it is, or take it over the bounds it is at. -/
theorem clampInt64_readDigits_iff {value : Int} (low : -2 ^ 63 ≤ value) (high : value < 2 ^ 63)
    (more : Bytes) :
    clampInt64 (if value < 0 then -(readDigits value.natAbs more : Int)
        else (readDigits value.natAbs more : Int)) = value ↔
      more = [] ∨ (value = 0 ∧ ∀ byte ∈ more, byte.toNat ≤ 48) ∨ value = 2 ^ 63 - 1 ∨
        value = -2 ^ 63 := by
  unfold clampInt64
  by_cases empty : more = []
  · subst empty
    have same : readDigits value.natAbs [] = value.natAbs := rfl
    rw [same]
    simp only [true_or, iff_true]
    split
    · omega
    · omega
  · by_cases zero : value = 0
    · subst zero
      have all := readDigits_eq_zero_iff 0 more
      simp only [lt_irrefl, if_false, Int.natAbs_zero, empty, false_or, true_and] at all ⊢
      rw [← all]
      omega
    · have larger : value.natAbs < readDigits value.natAbs more :=
        lt_readDigits (Int.natAbs_pos.mpr zero) empty
      simp only [empty, zero, false_or, false_and]
      split
      · omega
      · omega

/-! ### The round trip -/

theorem toInt_bounds (value : BitVec 64) : -2 ^ 63 ≤ value.toInt ∧ value.toInt < 2 ^ 63 :=
  ⟨value.le_toInt, value.toInt_lt⟩

theorem length_decimalInt (value : BitVec 64) : (decimalInt value.toInt).length ≤ 20 := by
  have bounds := toInt_bounds value
  have digits : (decimal value.toInt.natAbs).length ≤ 19 := by
    by_cases zero : value.toInt.natAbs = 0
    · rw [zero]
      decide
    · refine (length_decimal_le_iff (Nat.pos_of_ne_zero zero) 19).mpr ?_
      omega
  unfold decimalInt
  split
  · rw [List.length_cons]
    omega
  · omega

/-- What `ReadInt64` gives for what `WriteInt64` wrote, whatever follows it. -/
theorem At.readInt64 {reader : BinaryStreamReader} {value : BitVec 64} {rest : Bytes}
    (unread : reader.At (write7BitEncoded (decimalInt value.toInt).length ++
      decimalInt value.toInt ++ rest)) (int64str : Vector UInt8 128) :
    reader.readInt64 int64str =
      (atoll (decimalInt value.toInt ++
        int64str.toList.drop (decimalInt value.toInt).length)).map fun read =>
          (some read, reader.skip (write7BitEncoded (decimalInt value.toInt).length ++
            decimalInt value.toInt).length) := by
  have short := length_decimalInt value
  have fits : (decimalInt value.toInt).length < 2 ^ 32 := by omega
  have copied : reader.readCString 128 = _ :=
    unread.readCopied (ended_write7BitEncoded fits) (length_write7BitEncoded_le fits)
      (read7BitEncoded_write7BitEncoded fits) (decide_eq_true (by omega))
  unfold BinaryStreamReader.readInt64
  rw [copied]
  rfl

end BinaryStreamReader

open BinaryStreamReader in
/-- Behind any data, `ReadInt64` gives the integer that `WriteInt64` wrote, whatever follows,
exactly when what its array holds behind the text leaves the value. -/
theorem readInt64_writeInt64_iff (writer : BinaryStreamWriter) (value : BitVec 64)
    (rest : Bytes) (int64str : Vector UInt8 128) :
    (BinaryStreamReader.mk ((writer.writeInt64 value).data ++ rest) writer.data.length).readInt64
        int64str =
      .ok (some value.toInt,
        ⟨(writer.writeInt64 value).data ++ rest, (writer.writeInt64 value).data.length⟩) ↔
      LeavesValue value.toInt (int64str.toList.drop (decimalInt value.toInt).length) := by
  have written : (writer.writeInt64 value).data = writer.data ++
      (write7BitEncoded (decimalInt value.toInt).length ++ decimalInt value.toInt) :=
    List.append_assoc _ _ _
  have unread : (BinaryStreamReader.mk ((writer.writeInt64 value).data ++ rest)
      writer.data.length).At (write7BitEncoded (decimalInt value.toInt).length ++
        decimalInt value.toInt ++ rest) := by
    rw [written, List.append_assoc]
    refine ⟨?_, List.drop_left⟩
    show writer.data.length ≤ (writer.data ++ _).length
    rw [List.length_append]
    exact Nat.le_add_right _ _
  have bounds := toInt_bounds value
  have behind : writer.data.length + (write7BitEncoded (decimalInt value.toInt).length ++
      decimalInt value.toInt).length = (writer.writeInt64 value).data.length := by
    rw [written]
    exact List.length_append.symm
  rw [unread.readInt64, atoll_decimalInt]
  unfold LeavesValue BinaryStreamReader.skip
  rw [behind]
  split
  · rename_i stops
    rw [← clampInt64_readDigits_iff bounds.1 bounds.2]
    constructor
    · intro same
      have parts := Prod.mk.inj (Except.ok.inj same)
      exact ⟨stops, Option.some.inj parts.1⟩
    · intro leaves
      show Except.ok (some (clampInt64 _), _) = _
      rw [leaves.2]
  · rename_i endless
    exact iff_of_false nofun fun leaves => endless leaves.1

/-- The array holds a `7` behind the place of one digit: 1 comes back as 17. -/
theorem readInt64_one_reads_seventeen :
    (BinaryStreamReader.mk ((BinaryStreamWriter.mk []).writeInt64 1).data 0).readInt64
        ((Vector.replicate 128 0).set 1 55) =
      .ok (some 17, ⟨((BinaryStreamWriter.mk []).writeInt64 1).data, 2⟩) ∧
    (BinaryStreamReader.mk ((BinaryStreamWriter.mk []).writeInt64 1).data 0).readInt64
        ((Vector.replicate 128 0).set 1 55) ≠
      .ok (some 1, ⟨((BinaryStreamWriter.mk []).writeInt64 1).data, 2⟩) := by
  have read : (BinaryStreamReader.mk ((BinaryStreamWriter.mk []).writeInt64 1).data 0).readInt64
      ((Vector.replicate 128 0).set 1 55) =
        .ok (some 17, ⟨((BinaryStreamWriter.mk []).writeInt64 1).data, 2⟩) := by
    decide +kernel
  refine ⟨read, ?_⟩
  rw [read]
  nofun

end AChat.Net
