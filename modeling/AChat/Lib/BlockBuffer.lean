import Mathlib.Data.List.Induction
import Mathlib.Algebra.Ring.Nat

/-!
Owns: reads and writes of a buffer that fail outside its bounds, and the loop that turns
one buffer into another block by block.

Does not own: what is done to a block, or where the buffers come from.
-/

namespace AChat.Lib

variable {α ε : Type}

/-- Read this many elements from an offset. -/
def readWithin (fault : ε) (buffer : List α) (offset count : Nat) : Except ε (List α) :=
  if offset + count ≤ buffer.length then .ok ((buffer.drop offset).take count)
  else .error fault

/-- Write elements at an offset. -/
def writeWithin (fault : ε) (buffer : List α) (offset : Nat) (values : List α) :
    Except ε (List α) :=
  if offset + values.length ≤ buffer.length then
    .ok (buffer.take offset ++ values ++ buffer.drop (offset + values.length))
  else .error fault

/-- The block of this number. -/
def blockAt (size : Nat) (source : List α) (number : Nat) : List α :=
  (source.drop (number * size)).take size

/-- The first blocks of a source, each changed. -/
def blockwise (size : Nat) (change : List α → List α) (count : Nat) (source : List α) : List α :=
  (List.range count).flatMap fun number => change (blockAt size source number)

/-- One turn of the loop over the blocks: read from the source, write to the target. -/
def changeBlock (fault : ε) (size : Nat) (change : List α → List α) (source target : List α)
    (number : Nat) : Except ε (List α) := do
  let block ← readWithin fault source (number * size) size
  writeWithin fault target (number * size) (change block)

/-- The loop over the blocks. -/
def changeBlocks (fault : ε) (size : Nat) (change : List α → List α) (source target : List α)
    (count : Nat) : Except ε (List α) :=
  (List.range count).foldlM (changeBlock fault size change source) target

/-! ### Reads and writes -/

theorem readWithin_of_le {fault : ε} {buffer : List α} {offset count : Nat}
    (inside : offset + count ≤ buffer.length) :
    readWithin fault buffer offset count = .ok ((buffer.drop offset).take count) :=
  if_pos inside

theorem writeWithin_of_le {fault : ε} {buffer : List α} {offset : Nat} {values : List α}
    (inside : offset + values.length ≤ buffer.length) :
    writeWithin fault buffer offset values
      = .ok (buffer.take offset ++ values ++ buffer.drop (offset + values.length)) :=
  if_pos inside

/-- A write behind a front leaves the front. -/
theorem writeWithin_append {fault : ε} {front behind values : List α}
    (inside : values.length ≤ behind.length) :
    writeWithin fault (front ++ behind) front.length values
      = .ok (front ++ (values ++ behind.drop values.length)) := by
  have whole : front.length + values.length ≤ (front ++ behind).length := by
    rw [List.length_append]
    omega
  rw [writeWithin_of_le whole, List.take_left, List.drop_append, List.append_assoc]
  simp

/-! ### Blocks -/

theorem length_blockAt {size number : Nat} {source : List α}
    (inside : (number + 1) * size ≤ source.length) : (blockAt size source number).length = size := by
  rw [Nat.succ_mul] at inside
  rw [blockAt, List.length_take, List.length_drop]
  omega

theorem blockwise_succ (size : Nat) (change : List α → List α) (count : Nat) (source : List α) :
    blockwise size change (count + 1) source
      = blockwise size change count source ++ change (blockAt size source count) := by
  simp [blockwise, List.range_succ]

/-- Blocks that keep their size leave the size of the whole. -/
theorem length_blockwise {size count : Nat} {change : List α → List α} {source : List α}
    (keeps : ∀ block, block.length = size → (change block).length = size)
    (inside : count * size ≤ source.length) :
    (blockwise size change count source).length = count * size := by
  induction count with
  | zero => simp [blockwise]
  | succ count inductionHypothesis =>
      have block := keeps _ (length_blockAt inside)
      rw [Nat.succ_mul] at inside
      rw [blockwise_succ, List.length_append, inductionHypothesis (by omega), block, Nat.succ_mul]

/-- Every block of the result is the change of a block of the source. -/
theorem blockAt_blockwise {size count number : Nat} {change : List α → List α} {source : List α}
    (keeps : ∀ block, block.length = size → (change block).length = size)
    (inside : count * size ≤ source.length) (below : number < count) :
    blockAt size (blockwise size change count source) number
      = change (blockAt size source number) := by
  induction count with
  | zero => exact absurd below (Nat.not_lt_zero number)
  | succ count inductionHypothesis =>
      have last := keeps _ (length_blockAt inside)
      rw [Nat.succ_mul] at inside
      have front := length_blockwise keeps (Nat.le_trans (Nat.le_add_right _ _) inside)
      rw [blockwise_succ, blockAt]
      rcases Nat.lt_succ_iff_lt_or_eq.mp below with earlier | rfl
      · have room : (number + 1) * size ≤ count * size := Nat.mul_le_mul_right size earlier
        rw [Nat.succ_mul] at room
        rw [List.drop_append_of_le_length (by omega), List.take_append_of_le_length
          (by rw [List.length_drop]; omega)]
        exact inductionHypothesis (by omega) earlier
      · rw [← front, List.drop_left, List.take_of_length_le (by omega)]

/-- The blocks as they are make up the source. -/
theorem blockwise_id {size count : Nat} {source : List α} (inside : count * size ≤ source.length) :
    blockwise size id count source = source.take (count * size) := by
  induction count with
  | zero => simp [blockwise]
  | succ count inductionHypothesis =>
      rw [Nat.succ_mul] at inside ⊢
      rw [blockwise_succ, inductionHypothesis (by omega), List.take_add]
      rfl

/-- What stands behind the blocks does not matter. -/
theorem blockwise_append {size count : Nat} {change : List α → List α} {source rest : List α}
    (inside : count * size ≤ source.length) :
    blockwise size change count (source ++ rest) = blockwise size change count source := by
  induction count with
  | zero => simp [blockwise]
  | succ count inductionHypothesis =>
      rw [Nat.succ_mul] at inside
      have last : blockAt size (source ++ rest) count = blockAt size source count := by
        rw [blockAt, List.drop_append_of_le_length (by omega), List.take_append_of_le_length
          (by rw [List.length_drop]; omega)]
        rfl
      rw [blockwise_succ, blockwise_succ, inductionHypothesis (by omega), last]

/-- Changing every block back gives the source. -/
theorem blockwise_inverse {size count : Nat} {change back : List α → List α} {source : List α}
    (keeps : ∀ block, block.length = size → (change block).length = size)
    (inverse : ∀ block, block.length = size → back (change block) = block)
    (inside : count * size ≤ source.length) :
    blockwise size back count (blockwise size change count source)
      = source.take (count * size) := by
  have same : ∀ number ∈ List.range count,
      back (blockAt size (blockwise size change count source) number)
        = id (blockAt size source number) := by
    intro number among
    have below := List.mem_range.mp among
    have room : (number + 1) * size ≤ source.length :=
      Nat.le_trans (Nat.mul_le_mul_right size below) inside
    rw [blockAt_blockwise keeps inside below, inverse _ (length_blockAt room)]
    rfl
  rw [← blockwise_id inside, blockwise, List.flatMap_def, List.map_congr_left same,
    ← List.flatMap_def]
  rfl

/-! ### The loop -/

/-- A turn writes the changed block behind the blocks that are there. -/
theorem changeBlock_append {fault : ε} {size number : Nat} {change : List α → List α}
    {source front rest : List α}
    (keeps : ∀ block, block.length = size → (change block).length = size)
    (sourceRoom : (number + 1) * size ≤ source.length) (filled : front.length = number * size)
    (targetRoom : size ≤ rest.length) :
    changeBlock fault size change source (front ++ rest) number
      = .ok (front ++ change (blockAt size source number) ++ rest.drop size) := by
  have width := keeps _ (length_blockAt sourceRoom)
  have room : (change (blockAt size source number)).length ≤ rest.length := by omega
  have written : writeWithin fault (front ++ rest) front.length (change (blockAt size source number))
      = _ := writeWithin_append room
  rw [Nat.succ_mul] at sourceRoom
  rw [filled, width] at written
  unfold changeBlock
  rw [readWithin_of_le sourceRoom, List.append_assoc]
  exact written

/-- The loop stays inside both buffers when they have room for the blocks, and then the
target holds the changed blocks. -/
theorem changeBlocks_eq {fault : ε} {size count : Nat} {change : List α → List α}
    {source target : List α}
    (keeps : ∀ block, block.length = size → (change block).length = size)
    (sourceRoom : count * size ≤ source.length) (targetRoom : count * size ≤ target.length) :
    changeBlocks fault size change source target count
      = .ok (blockwise size change count source ++ target.drop (count * size)) := by
  induction count with
  | zero => simp [changeBlocks, blockwise, pure, Except.pure]
  | succ count inductionHypothesis =>
      have lower : count * size ≤ (count + 1) * size := Nat.mul_le_mul_right size (by omega)
      have earlier := inductionHypothesis (by omega) (by omega)
      have filled := length_blockwise keeps (Nat.le_trans lower sourceRoom)
      have room : size ≤ (target.drop (count * size)).length := by
        rw [Nat.succ_mul] at targetRoom
        rw [List.length_drop]
        omega
      have turn : changeBlock fault size change source _ count = _ :=
        changeBlock_append keeps sourceRoom filled room
      unfold changeBlocks at earlier ⊢
      rw [List.range_succ, List.foldlM_append, earlier]
      simp only [List.foldlM_cons, List.foldlM_nil, bind, Except.bind, turn]
      rw [blockwise_succ, List.drop_drop, Nat.succ_mul]
      rfl

end AChat.Lib
