import Mathlib.Data.List.Basic
import AChat.Lib.BlockBuffer

/-!
Contract: changes of a buffer in place, element by element, with an access outside the
buffer as a failure.

Owns:
- `Reindexed`: every element is one of the old ones, found by its place;
- the swap of two elements, and the reversal of groups of four by swaps from both ends;
- the change of a run of elements by one function.
-/

namespace AChat.Lib

variable {α ε : Type}

/-- The element at a place now is the one that was where `source` says. -/
structure Reindexed (source : Nat → Nat) (before after : List α) : Prop where
  length_eq : after.length = before.length
  getElem?_eq : ∀ place, after[place]? = before[source place]?

theorem Reindexed.refl (before : List α) : Reindexed id before before :=
  ⟨rfl, fun _ => rfl⟩

theorem Reindexed.trans {first second : Nat → Nat} {before between after : List α}
    (one : Reindexed first before between) (two : Reindexed second between after) :
    Reindexed (first ∘ second) before after where
  length_eq := two.length_eq.trans one.length_eq
  getElem?_eq place := (two.getElem?_eq place).trans (one.getElem?_eq (second place))

theorem Reindexed.congr {first second : Nat → Nat} {before after : List α}
    (one : Reindexed first before after) (same : ∀ place, first place = second place) :
    Reindexed second before after where
  length_eq := one.length_eq
  getElem?_eq place := by rw [one.getElem?_eq, same]

/-! ### Swaps -/

/-- `temp = rk[i]; rk[i] = rk[j]; rk[j] = temp;` -/
def swapAt (fault : ε) (buffer : List α) (i j : Nat) : Except ε (List α) :=
  match buffer[i]?, buffer[j]? with
  | some left, some right => .ok ((buffer.set i right).set j left)
  | _, _ => .error fault

/-- Where the element at a place was before the swap. -/
def swapped (i j place : Nat) : Nat :=
  if place = i then j else if place = j then i else place

theorem swapAt_reindexed {fault : ε} {buffer : List α} {i j : Nat} (iInside : i < buffer.length)
    (jInside : j < buffer.length) :
    ∃ after, swapAt fault buffer i j = .ok after ∧ Reindexed (swapped i j) buffer after := by
  have left : buffer[i]? = some buffer[i] := List.getElem?_eq_getElem iInside
  have right : buffer[j]? = some buffer[j] := List.getElem?_eq_getElem jInside
  refine ⟨(buffer.set i buffer[j]).set j buffer[i], ?_, ?_, ?_⟩
  · simp only [swapAt, left, right]
  · simp
  · intro place
    unfold swapped
    grind

/-- So many neighbours at one place with as many at another. -/
def swapRun (fault : ε) (buffer : List α) (i j : Nat) : Nat → Except ε (List α)
  | 0 => .ok buffer
  | count + 1 => do
      let buffer ← swapRun fault buffer i j count
      swapAt fault buffer (i + count) (j + count)

/-- Where the elements were before the runs changed places. -/
def runSwapped (i j count place : Nat) : Nat :=
  if i ≤ place ∧ place < i + count then place - i + j
  else if j ≤ place ∧ place < j + count then place - j + i
  else place

theorem swapRun_reindexed {fault : ε} {buffer : List α} {i j count : Nat}
    (apart : i + count ≤ j) (inside : j + count ≤ buffer.length) :
    ∃ after, swapRun fault buffer i j count = .ok after ∧
      Reindexed (runSwapped i j count) buffer after := by
  induction count with
  | zero =>
      refine ⟨buffer, rfl, (Reindexed.refl buffer).congr ?_⟩
      intro place
      simp only [id_eq, runSwapped]
      split_ifs <;> omega
  | succ count inductionHypothesis =>
      obtain ⟨between, earlier, first⟩ := inductionHypothesis (by omega) (by omega)
      have long := first.length_eq
      obtain ⟨after, last, second⟩ :=
        @swapAt_reindexed _ _ fault between (i + count) (j + count) (by omega) (by omega)
      refine ⟨after, ?_, (first.trans second).congr ?_⟩
      · rw [swapRun, earlier]
        exact last
      · intro place
        simp only [Function.comp_apply, swapped, runSwapped]
        split_ifs <;> omega

/-- Groups of four, swapped from both ends towards the middle. -/
def reverseFours (fault : ε) (buffer : List α) (i j : Nat) : Except ε (List α) :=
  if i < j then do
    let buffer ← swapRun fault buffer i j 4
    reverseFours fault buffer (i + 4) (j - 4)
  else .ok buffer
termination_by j - i

/-- Where the elements were before the groups between two places were reversed. -/
def mirrored (i j place : Nat) : Nat :=
  if i ≤ place ∧ place < j + 4 then i + j + 2 * (place % 4) - place else place

theorem reverseFours_reindexed {fault : ε} (buffer : List α) (i j : Nat) (iGroup : i % 4 = 0)
    (jGroup : j % 4 = 0) (inside : j + 4 ≤ buffer.length) :
    ∃ after, reverseFours fault buffer i j = .ok after ∧ Reindexed (mirrored i j) buffer after := by
  fun_induction reverseFours fault buffer i j with
  | case1 buffer i j before inductionHypothesis =>
      obtain ⟨between, four, first⟩ :=
        @swapRun_reindexed _ _ fault buffer i j 4 (by omega) inside
      have long := first.length_eq
      obtain ⟨after, reversed, second⟩ :=
        inductionHypothesis between (by omega) (by omega) (by omega)
      refine ⟨after, ?_, (first.trans second).congr ?_⟩
      · rw [four]
        exact reversed
      · intro place
        simp only [Function.comp_apply, runSwapped, mirrored]
        split_ifs <;> omega
  | case2 buffer i j reached =>
      refine ⟨buffer, rfl, (Reindexed.refl buffer).congr ?_⟩
      intro place
      simp only [id_eq, mirrored]
      split_ifs <;> omega

/-! ### Runs of changes -/

/-- `rk[k] = change(rk[k]);` -/
def changeAt (fault : ε) (change : α → α) (buffer : List α) (place : Nat) :
    Except ε (List α) :=
  match buffer[place]? with
  | some value => .ok (buffer.set place (change value))
  | none => .error fault

/-- One after the other from a place on. -/
def changeRun (fault : ε) (change : α → α) (buffer : List α) (start : Nat) :
    Nat → Except ε (List α)
  | 0 => .ok buffer
  | count + 1 => do
      let buffer ← changeRun fault change buffer start count
      changeAt fault change buffer (start + count)

theorem changeRun_eq {fault : ε} {change : α → α} {buffer : List α} {start count : Nat}
    (inside : start + count ≤ buffer.length) :
    ∃ after, changeRun fault change buffer start count = .ok after ∧
      after.length = buffer.length ∧
      ∀ place, after[place]?
        = if start ≤ place ∧ place < start + count then buffer[place]?.map change
          else buffer[place]? := by
  induction count with
  | zero =>
      refine ⟨buffer, rfl, rfl, ?_⟩
      intro place
      rw [if_neg (by omega)]
  | succ count inductionHypothesis =>
      obtain ⟨between, changed, long, elements⟩ := inductionHypothesis (by omega)
      have old : between[start + count]? = buffer[start + count]? := by
        rw [elements, if_neg (by omega)]
      have present : between[start + count]? = some buffer[start + count] := by
        rw [old]
        exact List.getElem?_eq_getElem (by omega)
      refine ⟨between.set (start + count) (change buffer[start + count]), ?_, ?_, ?_⟩
      · rw [changeRun, changed]
        change changeAt fault change between (start + count) = _
        unfold changeAt
        rw [present]
      · rw [List.length_set, long]
      · intro place
        by_cases last : place = start + count
        · subst last
          rw [if_pos (by omega), List.getElem?_set_self (by omega)]
          rw [List.getElem?_eq_getElem (by omega)]
          rfl
        · rw [List.getElem?_set_ne (by omega), elements]
          by_cases earlier : start ≤ place ∧ place < start + count
          · rw [if_pos earlier, if_pos (by omega)]
          · rw [if_neg earlier, if_neg (by omega)]

theorem changeRun_add (fault : ε) (change : α → α) (buffer : List α) (start first second : Nat) :
    changeRun fault change buffer start (first + second)
      = changeRun fault change buffer start first >>= fun between =>
          changeRun fault change between (start + first) second := by
  induction second with
  | zero =>
      cases changeRun fault change buffer start first with
      | error fault => rfl
      | ok between => rfl
  | succ second inductionHypothesis =>
      rw [← Nat.add_assoc, changeRun, inductionHypothesis]
      cases changeRun fault change buffer start first with
      | error fault => rfl
      | ok between =>
          simp only [bind, Except.bind, changeRun, Nat.add_assoc]

end AChat.Lib
