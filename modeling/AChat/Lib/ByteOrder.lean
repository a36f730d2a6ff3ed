import Mathlib.Data.List.Induction
import AChat.Lib.Stdio

/-!
Owns the numbers that bytes stand for, with the most significant byte first or last, for
any width, and the round trips between the two.
-/

namespace AChat.Lib

/-- The bytes of a number, most significant first, in this many bytes. -/
def bigEndian : Nat → Nat → Bytes
  | 0, _ => []
  | width + 1, value => bigEndian width (value / 256) ++ [UInt8.ofNat value]

/-- The number that bytes stand for, most significant first. -/
def ofBigEndian (bytes : Bytes) : Nat :=
  bytes.foldl (fun value byte => value * 256 + byte.toNat) 0

@[simp]
theorem length_bigEndian (width value : Nat) : (bigEndian width value).length = width := by
  induction width generalizing value with
  | zero => rfl
  | succ width inductionHypothesis =>
      rw [bigEndian, List.length_append, inductionHypothesis, List.length_singleton]

@[simp]
theorem ofBigEndian_concat (bytes : Bytes) (last : UInt8) :
    ofBigEndian (bytes ++ [last]) = ofBigEndian bytes * 256 + last.toNat := by
  unfold ofBigEndian
  rw [List.foldl_append]
  rfl

/-- What is read back is the number, as far as it fits. -/
theorem ofBigEndian_bigEndian (width value : Nat) :
    ofBigEndian (bigEndian width value) = value % 256 ^ width := by
  induction width generalizing value with
  | zero => simp [bigEndian, ofBigEndian, Nat.mod_one]
  | succ width inductionHypothesis =>
      have last : (UInt8.ofNat value).toNat = value % 256 := UInt8.toNat_ofNat'
      rw [bigEndian, ofBigEndian_concat, inductionHypothesis, last, Nat.pow_succ,
        Nat.mul_comm (256 ^ width), Nat.mod_mul]
      omega

theorem ofBigEndian_lt (bytes : Bytes) : ofBigEndian bytes < 256 ^ bytes.length := by
  induction bytes using List.reverseRecOn with
  | nil => decide
  | append_singleton bytes last inductionHypothesis =>
      have small : last.toNat < 256 := last.toNat_lt
      rw [ofBigEndian_concat, List.length_append, List.length_singleton, Nat.pow_succ]
      omega

/-- The bytes of the number that bytes stand for are these bytes. -/
theorem bigEndian_ofBigEndian (bytes : Bytes) :
    bigEndian bytes.length (ofBigEndian bytes) = bytes := by
  induction bytes using List.reverseRecOn with
  | nil => rfl
  | append_singleton bytes last inductionHypothesis =>
      have small : last.toNat < 256 := last.toNat_lt
      have high : (ofBigEndian bytes * 256 + last.toNat) / 256 = ofBigEndian bytes := by omega
      have low : UInt8.ofNat (ofBigEndian bytes * 256 + last.toNat) = last := by
        apply UInt8.toNat_inj.mp
        rw [UInt8.toNat_ofNat']
        omega
      rw [ofBigEndian_concat, List.length_append, List.length_singleton, bigEndian, high, low,
        inductionHypothesis]

/-- A word is read back from its bytes. -/
theorem ofBigEndian_bigEndian_toNat {width : Nat} (value : BitVec (8 * width)) :
    BitVec.ofNat (8 * width) (ofBigEndian (bigEndian width value.toNat)) = value := by
  have range : 256 ^ width = 2 ^ (8 * width) := (Nat.pow_mul 2 8 width).symm
  apply BitVec.eq_of_toNat_eq
  rw [BitVec.toNat_ofNat, ofBigEndian_bigEndian, range, Nat.mod_mod,
    Nat.mod_eq_of_lt value.isLt]

/-- The bytes of a number, least significant first, in this many bytes. -/
def littleEndian (width value : Nat) : Bytes :=
  (bigEndian width value).reverse

/-- The number that bytes stand for, least significant first. -/
def ofLittleEndian (bytes : Bytes) : Nat :=
  ofBigEndian bytes.reverse

@[simp]
theorem length_littleEndian (width value : Nat) : (littleEndian width value).length = width := by
  rw [littleEndian, List.length_reverse, length_bigEndian]

theorem ofLittleEndian_littleEndian (width value : Nat) :
    ofLittleEndian (littleEndian width value) = value % 256 ^ width := by
  rw [ofLittleEndian, littleEndian, List.reverse_reverse, ofBigEndian_bigEndian]

/-- The bytes of the number that bytes stand for are these bytes. -/
theorem littleEndian_ofLittleEndian (bytes : Bytes) :
    littleEndian bytes.length (ofLittleEndian bytes) = bytes := by
  have reversed := bigEndian_ofBigEndian bytes.reverse
  rw [List.length_reverse] at reversed
  rw [littleEndian, ofLittleEndian, reversed, List.reverse_reverse]

example : bigEndian 4 258 = [0, 0, 1, 2] := by decide

end AChat.Lib
