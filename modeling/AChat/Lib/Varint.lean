import Mathlib.Data.Nat.Bitwise
import AChat.Lib.Stdio

/-!
Owns the encoding of a number in groups of seven bits, least significant first, where
every byte but the last has its top bit set: writing in a bounded number of rounds,
reading modulo a word size, the round trip, with any bytes after the encoding, and that no
encoding starts another one.
-/

namespace AChat.Lib

/-- The seven bits that a byte carries. -/
def group (byte : UInt8) : Nat :=
  (byte &&& 0x7F).toNat

/-- More bytes follow. -/
def continues (byte : UInt8) : Bool :=
  (byte &&& 0x80) != 0

/-- Write a number in at most this many bytes. -/
def write7Bit : Nat → Nat → Bytes
  | 0, _ => []
  | rounds + 1, value =>
      if value >>> 7 ≠ 0 then
        (UInt8.ofNat (value &&& 0x7F) ||| 0x80) :: write7Bit rounds (value >>> 7)
      else [UInt8.ofNat (value &&& 0x7F)]

/-- Read a number below `modulus`, with what was read before and the place of the next
group. Bytes that all continue give nothing. -/
def read7Bit (modulus : Nat) : Nat → Nat → Bytes → Option Nat
  | _, _, [] => none
  | bitCount, value, byte :: rest =>
      let sum := (value + (group byte <<< bitCount) % modulus) % modulus
      if continues byte then read7Bit modulus (bitCount + 7) sum rest else some sum

/-! ### Bytes -/

theorem group_ofNat (value : Nat) : group (UInt8.ofNat (value &&& 0x7F)) = value % 128 := by
  have masked : value &&& 0x7F = value % 128 := Nat.and_two_pow_sub_one_eq_mod value 7
  have again : ∀ seven : Nat, seven &&& 0x7F = seven % 128 := fun seven =>
    Nat.and_two_pow_sub_one_eq_mod seven 7
  unfold group
  rw [masked, UInt8.toNat_and, UInt8.toNat_ofNat']
  change (value % 128 % 2 ^ 8) &&& 0x7F = value % 128
  rw [again]
  omega

/-- The top bit is not part of the group. -/
theorem group_or_top (byte : UInt8) : group (byte ||| 0x80) = group byte := by
  have all : ∀ bits : BitVec 8, (bits ||| 0x80) &&& 0x7F = bits &&& 0x7F := by decide +kernel
  exact congrArg UInt8.toNat (UInt8.toBitVec_inj.mp (all byte.toBitVec))

theorem continues_or_top (byte : UInt8) : continues (byte ||| 0x80) = true := by
  unfold continues
  rw [bne_iff_ne]
  intro none
  have all : ∀ bits : BitVec 8, (bits ||| 0x80) &&& 0x80 ≠ 0 := by decide +kernel
  exact all byte.toBitVec (congrArg UInt8.toBitVec none)

theorem continues_ofNat (value : Nat) : continues (UInt8.ofNat (value &&& 0x7F)) = false := by
  have masked : value &&& 0x7F = value % 128 := Nat.and_two_pow_sub_one_eq_mod value 7
  have all : ∀ seven : Fin 128, continues (UInt8.ofNat seven.val) = false := by decide +kernel
  rw [masked]
  exact all ⟨value % 128, Nat.mod_lt _ (by decide)⟩

theorem shiftRight_seven (value : Nat) : value >>> 7 = value / 128 :=
  Nat.shiftRight_eq_div_pow value 7

/-! ### The encoding -/

/-- The rest of a number that fits takes one group less. -/
theorem rest_fits {value width : Nat} (fits : value < 128 ^ (width + 1)) :
    value / 128 < 128 ^ width := by
  rw [Nat.pow_succ] at fits
  exact (Nat.div_lt_iff_lt_mul (by decide)).mpr fits

theorem width_pos_of_rest {value width : Nat} (fits : value < 128 ^ (width + 1))
    (more : value / 128 ≠ 0) : 0 < width := by
  rw [Nat.pos_iff_ne_zero]
  rintro rfl
  rw [Nat.zero_add, Nat.pow_one] at fits
  omega

/-- The writer ends every encoding, given rounds enough. -/
theorem read7Bit_write7Bit {modulus : Nat} (rounds value bitCount before : Nat)
    (enough : value < 128 ^ rounds) (positive : 0 < rounds) (after : Bytes) :
    read7Bit modulus bitCount before (write7Bit rounds value ++ after) =
      some ((before + value * 2 ^ bitCount) % modulus) := by
  induction rounds generalizing value bitCount before with
  | zero => exact absurd positive (Nat.lt_irrefl 0)
  | succ rounds inductionHypothesis =>
      rw [write7Bit, shiftRight_seven]
      by_cases more : value / 128 ≠ 0
      · have roundsPositive := width_pos_of_rest enough more
        have rest := rest_fits enough
        have places : 2 ^ (bitCount + 7) = 2 ^ bitCount * 128 := Nat.pow_add 2 bitCount 7
        have parts : value % 128 * 2 ^ bitCount + value / 128 * 2 ^ (bitCount + 7) =
            value * 2 ^ bitCount := by
          rw [places, Nat.mul_comm (2 ^ bitCount) 128, ← Nat.mul_assoc, ← Nat.add_mul]
          congr 1
          omega
        rw [if_pos more, List.cons_append, read7Bit, continues_or_top, group_or_top, group_ofNat]
        simp only [if_true]
        rw [inductionHypothesis _ _ _ rest roundsPositive, Nat.shiftLeft_eq, Nat.add_mod_mod,
          Nat.mod_add_mod, Nat.add_assoc, parts]
      · have whole : value % 128 = value := by omega
        rw [if_neg more, List.singleton_append, read7Bit, continues_ofNat, group_ofNat, whole]
        simp only [Bool.false_eq_true, if_false]
        rw [Nat.shiftLeft_eq, Nat.add_mod_mod]

/-- A number below the modulus is read back. -/
theorem read7Bit_write7Bit_of_lt {modulus rounds value : Nat} (fits : value < modulus)
    (enough : value < 128 ^ rounds) (positive : 0 < rounds) (after : Bytes) :
    read7Bit modulus 0 0 (write7Bit rounds value ++ after) = some value := by
  rw [read7Bit_write7Bit rounds value 0 0 enough positive after, Nat.zero_add, Nat.pow_zero,
    Nat.mul_one, Nat.mod_eq_of_lt fits]

/-- No encoding starts another one: what is read of both is the first number. -/
theorem eq_of_prefix_write7Bit {rounds left right : Nat} (leftEnough : left < 128 ^ rounds)
    (rightEnough : right < 128 ^ rounds) (positive : 0 < rounds)
    (starts : write7Bit rounds left <+: write7Bit rounds right) : left = right := by
  obtain ⟨after, whole⟩ := starts
  have leftRead := read7Bit_write7Bit_of_lt leftEnough leftEnough positive after
  have rightRead := read7Bit_write7Bit_of_lt rightEnough rightEnough positive []
  rw [whole] at leftRead
  rw [List.append_nil] at rightRead
  exact Option.some.inj (leftRead.symm.trans rightRead)

/-- Every byte but the last continues. -/
def Ended (bytes : Bytes) : Prop :=
  ∃ front last, bytes = front ++ [last] ∧
    (∀ byte ∈ front, continues byte = true) ∧ continues last = false

theorem ended_write7Bit (rounds value : Nat) (enough : value < 128 ^ rounds)
    (positive : 0 < rounds) : Ended (write7Bit rounds value) := by
  induction rounds generalizing value with
  | zero => exact absurd positive (Nat.lt_irrefl 0)
  | succ rounds inductionHypothesis =>
      rw [write7Bit, shiftRight_seven]
      by_cases more : value / 128 ≠ 0
      · obtain ⟨front, last, whole, before, ends⟩ :=
          inductionHypothesis _ (rest_fits enough) (width_pos_of_rest enough more)
        rw [if_pos more, whole]
        refine ⟨_ :: front, last, rfl, ?_, ends⟩
        intro byte member
        rcases List.mem_cons.mp member with rfl | inFront
        · exact continues_or_top _
        · exact before byte inFront
      · rw [if_neg more]
        exact ⟨[], _, rfl, nofun, continues_ofNat value⟩

/-- Bytes that have an end have a value. -/
theorem Ended.read7Bit {bytes : Bytes} (ended : Ended bytes) (modulus bitCount before : Nat) :
    ∃ value, read7Bit modulus bitCount before bytes = some value := by
  obtain ⟨front, last, rfl, continued, ends⟩ := ended
  induction front generalizing bitCount before with
  | nil => exact ⟨_, if_neg (by rw [ends]; decide)⟩
  | cons byte front inductionHypothesis =>
      obtain ⟨value, rest⟩ := inductionHypothesis (bitCount + 7)
        ((before + (group byte <<< bitCount) % modulus) % modulus)
        (fun other member => continued other (List.mem_cons_of_mem _ member))
      exact ⟨value, (if_pos (continued byte List.mem_cons_self)).trans rest⟩

/-- Bytes that all continue have no value. -/
theorem read7Bit_of_continues (modulus bitCount before : Nat) {bytes : Bytes}
    (continued : ∀ byte ∈ bytes, continues byte = true) :
    read7Bit modulus bitCount before bytes = none := by
  induction bytes generalizing bitCount before with
  | nil => rfl
  | cons byte rest inductionHypothesis =>
      rw [read7Bit, continued byte List.mem_cons_self]
      exact inductionHypothesis _ _ fun other member =>
        continued other (List.mem_cons_of_mem _ member)

/-- Bytes of which one does not continue start with bytes that have an end. -/
theorem exists_ended_prefix {bytes : Bytes} (count : Nat)
    (ends : ∃ byte ∈ bytes.take count, continues byte = false) :
    ∃ head rest, bytes = head ++ rest ∧ Ended head ∧ head.length ≤ count := by
  induction bytes generalizing count with
  | nil =>
      obtain ⟨byte, member, _⟩ := ends
      rw [List.take_nil] at member
      cases member
  | cons first rest inductionHypothesis =>
      obtain ⟨byte, member, stops⟩ := ends
      obtain ⟨less, rfl⟩ : ∃ less, count = less + 1 := by
        cases count with
        | zero => cases member
        | succ less => exact ⟨less, rfl⟩
      cases more : continues first with
      | false => exact ⟨[first], rest, rfl, ⟨[], first, rfl, nofun, more⟩, Nat.le_add_left 1 less⟩
      | true =>
          rw [List.take_succ_cons] at member
          have later : byte ∈ rest.take less := by
            rcases List.mem_cons.mp member with rfl | inRest
            · exact absurd (more.symm.trans stops) (by decide)
            · exact inRest
          obtain ⟨head, behind, rfl, ⟨front, last, rfl, continued, lastStops⟩, short⟩ :=
            inductionHypothesis less ⟨byte, later, stops⟩
          refine ⟨first :: (front ++ [last]), behind, rfl, ⟨first :: front, last, rfl, ?_,
            lastStops⟩, Nat.succ_le_succ short⟩
          intro other inFront
          rcases List.mem_cons.mp inFront with rfl | inRest
          · exact more
          · exact continued other inRest

theorem length_write7Bit_pos {rounds : Nat} (positive : 0 < rounds) (value : Nat) :
    0 < (write7Bit rounds value).length := by
  cases rounds with
  | zero => exact absurd positive (Nat.lt_irrefl 0)
  | succ rounds =>
      rw [write7Bit]
      split <;> simp

/-- A number with room to spare takes fewer bytes. -/
theorem length_write7Bit_le {rounds value : Nat} {width : Nat} (fits : value < 128 ^ width)
    (positive : 0 < width) : (write7Bit rounds value).length ≤ width := by
  induction rounds generalizing value width with
  | zero => exact Nat.zero_le _
  | succ rounds inductionHypothesis =>
      rw [write7Bit, shiftRight_seven]
      split
      · rename_i more
        obtain ⟨below, rfl⟩ : ∃ below, width = below + 1 := ⟨width - 1, by omega⟩
        rw [List.length_cons]
        exact Nat.succ_le_succ
          (inductionHypothesis (rest_fits fits) (width_pos_of_rest fits more))
      · exact positive

example : write7Bit 10 300 = [172, 2] := by decide

end AChat.Lib
