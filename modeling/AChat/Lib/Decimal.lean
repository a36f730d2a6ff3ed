import Mathlib.Data.Nat.Digits.Lemmas
import AChat.Lib.Stdio

/-!
Owns the decimal text of a natural number, as `printf` writes it: different numbers have
different texts, the length of a text bounds the number, and a power of ten is the text
of the power before it with one more zero. Reading digits gives the number back, and
digits behind it make it larger.
-/

namespace AChat.Lib

/-- The text of a decimal digit. -/
def digitByte (digit : Nat) : UInt8 :=
  UInt8.ofNat (48 + digit)

/-- The decimal text of a number. -/
def decimal (number : Nat) : Bytes :=
  if number = 0 then [digitByte 0] else ((Nat.digits 10 number).map digitByte).reverse

theorem digitByte_injOn {left right : Nat} (leftDigit : left < 10) (rightDigit : right < 10)
    (same : digitByte left = digitByte right) : left = right := by
  have values := congrArg UInt8.toNat same
  unfold digitByte at values
  rw [UInt8.toNat_ofNat', UInt8.toNat_ofNat'] at values
  omega

theorem decimal_pos {number : Nat} (positive : 0 < number) :
    decimal number = ((Nat.digits 10 number).map digitByte).reverse :=
  if_neg (Nat.ne_of_gt positive)

/-- Different numbers have different texts. -/
theorem decimal_injective_of_pos {left right : Nat} (leftPositive : 0 < left)
    (rightPositive : 0 < right) (same : decimal left = decimal right) : left = right := by
  rw [decimal_pos leftPositive, decimal_pos rightPositive] at same
  have digits := List.reverse_injective same
  have base : (1 : Nat) < 10 := by decide
  have bounded : ∀ number : Nat, ∀ digit ∈ Nat.digits 10 number, digit < 10 :=
    fun number digit member => Nat.digits_lt_base base member
  have equal : Nat.digits 10 left = Nat.digits 10 right := by
    refine List.ext_getElem ?_ ?_
    · have lengths := congrArg List.length digits
      rwa [List.length_map, List.length_map] at lengths
    · intro index inLeft inRight
      have entries := List.getElem_of_eq digits (by rwa [List.length_map])
      rw [List.getElem_map, List.getElem_map] at entries
      exact digitByte_injOn (bounded left _ (List.getElem_mem inLeft))
        (bounded right _ (List.getElem_mem inRight)) entries
  exact Nat.digits_inj_iff.mp equal

/-- The texts of length `width` at most are those of the numbers below `10 ^ width`. -/
theorem length_decimal_le_iff {number : Nat} (positive : 0 < number) (width : Nat) :
    (decimal number).length ≤ width ↔ number < 10 ^ width := by
  rw [decimal_pos positive, List.length_reverse, List.length_map]
  exact Nat.digits_length_le_iff (by decide) number

/-- A power of ten is a one and zeros. -/
theorem decimal_ten_pow (width : Nat) :
    decimal (10 ^ width) = digitByte 1 :: List.replicate width (digitByte 0) := by
  have digits : Nat.digits 10 (10 ^ width) = List.replicate width 0 ++ [1] := by
    have shifted := Nat.digits_base_pow_mul (b := 10) (k := width) (m := 1) (by decide)
      (by decide)
    rwa [Nat.mul_one] at shifted
  rw [decimal_pos (Nat.pow_pos (by decide)), digits, List.map_append, List.reverse_append,
    List.map_replicate, List.reverse_replicate]
  rfl

/-- A power of ten, cut by one digit, is the power before it. -/
theorem take_decimal_ten_pow (width : Nat) :
    (decimal (10 ^ (width + 1))).take (width + 1) = decimal (10 ^ width) := by
  rw [decimal_ten_pow, decimal_ten_pow, List.take_succ_cons, List.take_replicate,
    Nat.min_eq_left (Nat.le_succ width)]

/-- The decimal text of an integer. -/
def decimalInt (value : Int) : Bytes :=
  if value < 0 then 45 :: decimal value.natAbs else decimal value.natAbs

/-! ### Reading -/

/-- The number that digits continue. -/
def readDigits (before : Nat) (text : Bytes) : Nat :=
  text.foldl (fun value byte => value * 10 + (byte.toNat - 48)) before

theorem readDigits_append (before : Nat) (text more : Bytes) :
    readDigits before (text ++ more) = readDigits (readDigits before text) more :=
  List.foldl_append

theorem toNat_digitByte {digit : Nat} (small : digit < 10) :
    (digitByte digit).toNat = 48 + digit := by
  unfold digitByte
  rw [UInt8.toNat_ofNat']
  omega

/-- Every byte of a text is a digit. -/
theorem digit_of_mem_decimal {number : Nat} {byte : UInt8} (member : byte ∈ decimal number) :
    ∃ digit < 10, byte = digitByte digit := by
  unfold decimal at member
  split at member
  · exact ⟨0, by decide, List.mem_singleton.mp member⟩
  · obtain ⟨digit, isDigit, equal⟩ := List.mem_map.mp (List.mem_reverse.mp member)
    exact ⟨digit, Nat.digits_lt_base (by decide) isDigit, equal.symm⟩

theorem decimal_ne_nil (number : Nat) : decimal number ≠ [] := by
  unfold decimal
  split
  · exact nofun
  · rename_i positive
    intro empty
    have none := List.map_eq_nil_iff.mp (List.reverse_eq_nil_iff.mp empty)
    exact positive (Nat.digits_eq_nil_iff_eq_zero.mp none)

/-- The digits of a number give the number. -/
theorem readDigits_reverse_digits {digits : List Nat} (small : ∀ digit ∈ digits, digit < 10) :
    readDigits 0 (digits.map digitByte).reverse = Nat.ofDigits 10 digits := by
  induction digits with
  | nil => rfl
  | cons digit rest inductionHypothesis =>
      have value := toNat_digitByte (small digit List.mem_cons_self)
      have later := inductionHypothesis fun other member =>
        small other (List.mem_cons_of_mem _ member)
      rw [List.map_cons, List.reverse_cons, readDigits_append, later, Nat.ofDigits_cons]
      show Nat.ofDigits 10 rest * 10 + ((digitByte digit).toNat - 48) = _
      rw [value]
      omega

theorem readDigits_decimal (number : Nat) : readDigits 0 (decimal number) = number := by
  unfold decimal
  split
  · rename_i zero
    rw [zero]
    rfl
  · rw [readDigits_reverse_digits fun digit member => Nat.digits_lt_base (by decide) member,
      Nat.ofDigits_digits]

/-- Each further digit is one more decimal place. -/
theorem mul_pow_le_readDigits (before : Nat) (text : Bytes) :
    before * 10 ^ text.length ≤ readDigits before text := by
  induction text generalizing before with
  | nil => simp [readDigits]
  | cons byte rest inductionHypothesis =>
      have later := inductionHypothesis (before * 10 + (byte.toNat - 48))
      have place : before * 10 ^ (rest.length + 1) ≤
          (before * 10 + (byte.toNat - 48)) * 10 ^ rest.length := by
        rw [Nat.pow_succ, Nat.mul_comm (10 ^ rest.length) 10, ← Nat.mul_assoc]
        exact Nat.mul_le_mul_right _ (Nat.le_add_right _ _)
      exact Nat.le_trans place later

/-- A positive number with digits behind it is another number. -/
theorem lt_readDigits {before : Nat} (positive : 0 < before) {text : Bytes}
    (some : text ≠ []) : before < readDigits before text := by
  have more : 1 < 10 ^ text.length :=
    Nat.one_lt_pow (Nat.ne_of_gt (List.length_pos_iff.mpr some)) (by decide)
  exact Nat.lt_of_lt_of_le ((Nat.lt_mul_iff_one_lt_right positive).mpr more)
    (mul_pow_le_readDigits before text)

/-- Digits are zero exactly when each of them is. -/
theorem readDigits_eq_zero_iff (before : Nat) (text : Bytes) :
    readDigits before text = 0 ↔ before = 0 ∧ ∀ byte ∈ text, byte.toNat ≤ 48 := by
  induction text generalizing before with
  | nil => simp [readDigits]
  | cons byte rest inductionHypothesis =>
      have later := inductionHypothesis (before * 10 + (byte.toNat - 48))
      show readDigits (before * 10 + (byte.toNat - 48)) rest = 0 ↔ _
      rw [later, List.forall_mem_cons]
      constructor
      · intro zero
        exact ⟨by omega, by omega, zero.2⟩
      · intro zero
        exact ⟨by omega, zero.2.2⟩

example : decimal 1200 = [49, 50, 48, 48] := by decide

end AChat.Lib
