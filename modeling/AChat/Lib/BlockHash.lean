import Mathlib.Data.List.Basic

/-!
Contract: hashing by blocks of a fixed size, the whole input at once.

Owns:
- `absorb`: the state after all complete blocks of an input;
- `leftover`: the elements behind them;
- that an input may be given in two parts, the leftover of the first in front of the second.

Does not own: padding, or what a step does with a block.
-/

namespace AChat.Lib

variable {α State : Type} {size : Nat}

/-- The state after the complete blocks of an input, one step for each. -/
def absorb (size : Nat) (step : State → List α → State) (state : State) (input : List α) :
    State :=
  if 0 < size ∧ size ≤ input.length then
    absorb size step (step state (input.take size)) (input.drop size)
  else state
termination_by input.length
decreasing_by
  rw [List.length_drop]
  omega

/-- What stands behind the complete blocks. -/
def leftover (size : Nat) (input : List α) : List α :=
  input.drop (input.length / size * size)

theorem absorb_short {step : State → List α → State} (state : State) {input : List α}
    (short : input.length < size) : absorb size step state input = state := by
  rw [absorb, if_neg (by omega)]

theorem absorb_block {step : State → List α → State} (state : State) {input : List α}
    (occupied : 0 < size) (long : size ≤ input.length) :
    absorb size step state input
      = absorb size step (step state (input.take size)) (input.drop size) := by
  rw [absorb, if_pos ⟨occupied, long⟩]

theorem leftover_short {input : List α} (short : input.length < size) :
    leftover size input = input := by
  rw [leftover, Nat.div_eq_of_lt short, Nat.zero_mul, List.drop_zero]

theorem leftover_block {input : List α} (occupied : 0 < size) (long : size ≤ input.length) :
    leftover size input = leftover size (input.drop size) := by
  have blocks : input.length / size = (input.length - size) / size + 1 :=
    Nat.div_eq_sub_div occupied long
  unfold leftover
  rw [List.drop_drop, List.length_drop, blocks, Nat.succ_mul, Nat.add_comm]

@[simp]
theorem length_leftover (input : List α) :
    (leftover size input).length = input.length % size := by
  have split := Nat.div_add_mod' input.length size
  rw [leftover, List.length_drop]
  omega

/-- Input in two parts. -/
theorem absorb_append (step : State → List α → State) (state : State) (first second : List α)
    (occupied : 0 < size) :
    absorb size step state (first ++ second)
      = absorb size step (absorb size step state first) (leftover size first ++ second) := by
  by_cases long : size ≤ first.length
  · have whole : size ≤ (first ++ second).length := by
      rw [List.length_append]
      omega
    have shorter : (first.drop size).length < first.length := by
      rw [List.length_drop]
      omega
    rw [absorb_block state occupied whole, List.take_append_of_le_length long,
      List.drop_append_of_le_length long, absorb_append step _ (first.drop size) second occupied,
      ← absorb_block state occupied long, ← leftover_block occupied long]
  · have none : absorb size step state first = state := absorb_short state (by omega)
    rw [none, leftover_short (by omega)]
termination_by first.length

theorem leftover_append (first second : List α) (occupied : 0 < size) :
    leftover size (first ++ second) = leftover size (leftover size first ++ second) := by
  by_cases long : size ≤ first.length
  · have whole : size ≤ (first ++ second).length := by
      rw [List.length_append]
      omega
    have shorter : (first.drop size).length < first.length := by
      rw [List.length_drop]
      omega
    rw [leftover_block occupied whole, List.drop_append_of_le_length long,
      leftover_append (first.drop size) second occupied, ← leftover_block occupied long]
  · rw [@leftover_short _ _ first (by omega)]
termination_by first.length

end AChat.Lib
