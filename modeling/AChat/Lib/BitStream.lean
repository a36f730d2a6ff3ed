import Mathlib.Data.Nat.Bitwise
import Mathlib.Algebra.Ring.Nat

/-!
Owns: numbers as rows of bits, most significant first, and the regrouping of a row from
groups of one width into groups of another through an accumulator of bounded width.

Does not own: the alphabet in which groups are written, or any padding of the text.
-/

namespace AChat.Lib

/-- The lowest bits of a number, this many, most significant first. -/
def bitsOf : Nat → Nat → List Bool
  | 0, _ => []
  | width + 1, value => value.testBit width :: bitsOf width value

/-- The bits of groups of one width, in the order of the groups. -/
def bitRow (width : Nat) (groups : List Nat) : List Bool :=
  groups.flatMap (bitsOf width)

/-! ### Bits of one number -/

@[simp]
theorem length_bitsOf (width value : Nat) : (bitsOf width value).length = width := by
  induction width with
  | zero => rfl
  | succ width inductionHypothesis =>
      rw [bitsOf, List.length_cons, inductionHypothesis]

theorem bitsOf_congr {width left right : Nat}
    (same : ∀ place < width, left.testBit place = right.testBit place) :
    bitsOf width left = bitsOf width right := by
  induction width with
  | zero => rfl
  | succ width inductionHypothesis =>
      have top := same width (Nat.lt_succ_self width)
      have rest := inductionHypothesis fun place below =>
        same place (Nat.lt_succ_of_lt below)
      rw [bitsOf, bitsOf, top, rest]

/-- Bits above the width do not matter. -/
theorem bitsOf_mod {width capacity : Nat} (fits : width ≤ capacity) (value : Nat) :
    bitsOf width (value % 2 ^ capacity) = bitsOf width value := by
  apply bitsOf_congr
  intro place below
  simp [Nat.testBit_mod_two_pow, Nat.lt_of_lt_of_le below fits]

/-- The bits of a number are its high bits and then its low bits. -/
theorem bitsOf_add (high low value : Nat) :
    bitsOf (high + low) value = bitsOf high (value >>> low) ++ bitsOf low value := by
  induction high with
  | zero => simp [bitsOf]
  | succ high inductionHypothesis =>
      have top : (value >>> low).testBit high = value.testBit (high + low) := by
        rw [Nat.testBit_shiftRight, Nat.add_comm]
      rw [Nat.succ_add, bitsOf, bitsOf, inductionHypothesis, top, List.cons_append]

/-- Numbers that fit into their bits are known from them. -/
theorem eq_of_bitsOf_eq {width left right : Nat} (leftFits : left < 2 ^ width)
    (rightFits : right < 2 ^ width) (same : bitsOf width left = bitsOf width right) :
    left = right := by
  have places : ∀ count, bitsOf count left = bitsOf count right →
      ∀ place < count, left.testBit place = right.testBit place := by
    intro count
    induction count with
    | zero =>
        intro _ place below
        exact absurd below (Nat.not_lt_zero place)
    | succ count inductionHypothesis =>
        intro equal place below
        obtain ⟨top, rest⟩ := List.cons.inj equal
        rcases Nat.lt_succ_iff_lt_or_eq.mp below with lower | rfl
        · exact inductionHypothesis rest place lower
        · exact top
  apply Nat.eq_of_testBit_eq
  intro place
  by_cases below : place < width
  · exact places width same place below
  · have above : 2 ^ width ≤ 2 ^ place := Nat.pow_le_pow_right (by decide) (by omega)
    rw [Nat.testBit_lt_two_pow (by omega), Nat.testBit_lt_two_pow (by omega)]

@[simp]
theorem bitsOf_zero (width : Nat) : bitsOf width 0 = List.replicate width false := by
  induction width with
  | zero => rfl
  | succ width inductionHypothesis =>
      rw [bitsOf, inductionHypothesis, Nat.zero_testBit, List.replicate_succ]

/-- A value shifted in from the right stands behind the bits that were there, when the
accumulator has room for both. -/
theorem bitsOf_shift_in {held width capacity value : Nat} (accumulator : Nat)
    (fits : held + width ≤ capacity) (small : value < 2 ^ width) :
    bitsOf (held + width) ((accumulator <<< width ||| value) % 2 ^ capacity)
      = bitsOf held accumulator ++ bitsOf width value := by
  have high : (accumulator <<< width ||| value) >>> width = accumulator := by
    rw [Nat.shiftRight_or_distrib, Nat.shiftLeft_shiftRight, Nat.shiftRight_eq_div_pow,
      Nat.div_eq_of_lt small, Nat.or_zero]
  have low : bitsOf width (accumulator <<< width ||| value) = bitsOf width value := by
    apply bitsOf_congr
    intro place below
    simp [Nat.testBit_or, Nat.testBit_shiftLeft, Nat.not_le.mpr below]
  rw [bitsOf_mod fits, bitsOf_add, high, low]

/-! ### Rows -/

@[simp]
theorem bitRow_nil (width : Nat) : bitRow width [] = [] :=
  rfl

@[simp]
theorem bitRow_concat (width : Nat) (groups : List Nat) (last : Nat) :
    bitRow width (groups ++ [last]) = bitRow width groups ++ bitsOf width last := by
  simp [bitRow]

@[simp]
theorem length_bitRow (width : Nat) (groups : List Nat) :
    (bitRow width groups).length = width * groups.length := by
  induction groups with
  | nil => simp
  | cons group groups inductionHypothesis =>
      have split : bitRow width (group :: groups) = bitsOf width group ++ bitRow width groups :=
        rfl
      rw [split, List.length_append, length_bitsOf, inductionHypothesis, List.length_cons,
        Nat.mul_succ, Nat.add_comm]

/-- Groups of one width are known from their row, with less than a group behind it. -/
theorem groups_of_bitRow {width : Nat} {left right : List Nat} {leftRest rightRest : List Bool}
    (leftFits : ∀ group ∈ left, group < 2 ^ width)
    (rightFits : ∀ group ∈ right, group < 2 ^ width)
    (leftShort : leftRest.length < width) (rightShort : rightRest.length < width)
    (same : bitRow width left ++ leftRest = bitRow width right ++ rightRest) :
    left = right := by
  induction left generalizing right with
  | nil =>
      cases right with
      | nil => rfl
      | cons group right =>
          have lengths := congrArg List.length same
          simp only [List.length_append, length_bitRow, List.length_nil, List.length_cons] at lengths
          have grows : width * (right.length + 1) = width * right.length + width :=
            Nat.mul_succ _ _
          omega
  | cons group left inductionHypothesis =>
      cases right with
      | nil =>
          have lengths := congrArg List.length same
          simp only [List.length_append, length_bitRow, List.length_nil, List.length_cons] at lengths
          have grows : width * (left.length + 1) = width * left.length + width :=
            Nat.mul_succ _ _
          omega
      | cons other right =>
          have split : bitsOf width group ++ (bitRow width left ++ leftRest)
              = bitsOf width other ++ (bitRow width right ++ rightRest) := by
            simpa [bitRow] using same
          obtain ⟨head, tail⟩ := List.append_inj split (by simp)
          have first : group = other :=
            eq_of_bitsOf_eq (leftFits group List.mem_cons_self)
              (rightFits other List.mem_cons_self) head
          have rest : left = right :=
            inductionHypothesis (fun value among => leftFits value (List.mem_cons_of_mem _ among))
              (fun value among => rightFits value (List.mem_cons_of_mem _ among)) tail
          rw [first, rest]

/-! ### Regrouping through an accumulator -/

/-- What was read in groups of `inWidth` bits was written in groups of `outWidth` bits, up to
the `held` lowest bits of the accumulator. -/
structure Regrouped (inWidth outWidth : Nat) (taken written : List Nat)
    (held accumulator : Nat) : Prop where
  row : bitRow outWidth written ++ bitsOf held accumulator = bitRow inWidth taken

namespace Regrouped

variable {inWidth outWidth held accumulator : Nat} {taken written : List Nat}

theorem start (inWidth outWidth accumulator : Nat) :
    Regrouped inWidth outWidth [] [] 0 accumulator :=
  ⟨rfl⟩

/-- A group is shifted into the accumulator. -/
theorem take {capacity value : Nat}
    (regrouped : Regrouped inWidth outWidth taken written held accumulator)
    (fits : held + inWidth ≤ capacity) (small : value < 2 ^ inWidth) :
    Regrouped inWidth outWidth (taken ++ [value]) written (held + inWidth)
      ((accumulator <<< inWidth ||| value) % 2 ^ capacity) := by
  constructor
  rw [bitsOf_shift_in accumulator fits small, ← List.append_assoc, regrouped.row, bitRow_concat]

/-- The highest bits that are held are written as a group. -/
theorem write (regrouped : Regrouped inWidth outWidth taken written (held + outWidth) accumulator) :
    Regrouped inWidth outWidth taken (written ++ [(accumulator >>> held) % 2 ^ outWidth]) held
      accumulator := by
  constructor
  have split := bitsOf_add outWidth held accumulator
  rw [Nat.add_comm] at split
  rw [bitRow_concat, bitsOf_mod (Nat.le_refl _), List.append_assoc, ← split, regrouped.row]

/-- The bits that are left, filled with zeros, are the last group. -/
theorem fill (regrouped : Regrouped inWidth outWidth taken written held accumulator)
    (part : held ≤ outWidth) :
    bitRow outWidth (written ++ [(accumulator <<< (outWidth - held)) % 2 ^ outWidth])
      = bitRow inWidth taken ++ List.replicate (outWidth - held) false := by
  have whole : held + (outWidth - held) = outWidth := by omega
  have shifted := bitsOf_shift_in accumulator (Nat.le_of_eq whole)
    (Nat.two_pow_pos (outWidth - held))
  rw [whole, Nat.or_zero, bitsOf_zero] at shifted
  rw [bitRow_concat, shifted, ← List.append_assoc, regrouped.row]

theorem length (regrouped : Regrouped inWidth outWidth taken written held accumulator) :
    outWidth * written.length + held = inWidth * taken.length := by
  have lengths := congrArg List.length regrouped.row
  simpa using lengths

/-- Regrouping back what was regrouped and filled gives what was there first. -/
theorem inverse {original : List Nat} {filling : Nat}
    (regrouped : Regrouped inWidth outWidth taken written held accumulator)
    (filled : bitRow inWidth taken
      = bitRow outWidth original ++ List.replicate filling false)
    (originalFits : ∀ group ∈ original, group < 2 ^ outWidth)
    (writtenFits : ∀ group ∈ written, group < 2 ^ outWidth)
    (shortHeld : held < outWidth) (shortFilling : filling < outWidth) :
    written = original := by
  have same : bitRow outWidth written ++ bitsOf held accumulator
      = bitRow outWidth original ++ List.replicate filling false := by
    rw [regrouped.row, filled]
  exact groups_of_bitRow writtenFits originalFits (by simpa using shortHeld)
    (by simpa using shortFilling) same

end Regrouped

end AChat.Lib
