import Mathlib.Algebra.Order.Ring.Int
import Mathlib.Data.List.Basic
import Mathlib.Logic.Function.Basic

/-!
Owns a model of C streams over the files of a disk: `fopen`, `fseek`, `ftell`,
`fread`, `fwrite`, `fflush` and `fclose`, each of which may fail, and the log of
what was done with which `FILE` pointer.

Files are told apart by an identity, so that two paths may name one file. A write
reaches the file at once; how much of it does is an input.
-/

namespace AChat.Lib

universe u

/-! ### Contents -/

/-- The bytes of a file. -/
abbrev Bytes := List UInt8

/-- The bytes from `offset` on, at most `size` of them. -/
def slice (content : Bytes) (offset size : Nat) : Bytes :=
  (content.drop offset).take size

/-- The content after a write at `offset`. A hole before it reads as zeros. -/
def writeAt (content : Bytes) (offset : Nat) (data : Bytes) : Bytes :=
  if data = [] then content
  else
    content.take offset ++ List.replicate (offset - content.length) 0 ++ data ++
      content.drop (offset + data.length)

theorem length_before (content : Bytes) (offset : Nat) :
    (content.take offset ++ List.replicate (offset - content.length) (0 : UInt8)).length =
      offset := by
  simp only [List.length_append, List.length_take, List.length_replicate]
  omega

/-- What was written is there. -/
theorem slice_writeAt (content : Bytes) (offset : Nat) (data : Bytes) :
    slice (writeAt content offset data) offset data.length = data := by
  unfold slice writeAt
  split
  · rename_i empty
    rw [empty]
    exact List.take_zero
  · rw [List.append_assoc, List.drop_append, length_before, Nat.sub_self]
    have before := length_before content offset
    rw [List.drop_eq_nil_of_le (Nat.le_of_eq before), List.nil_append, List.drop_zero,
      List.take_left]

/-- A write changes nothing exactly when the file holds the data already. -/
theorem writeAt_eq_self_iff (content : Bytes) (offset : Nat) (data : Bytes) :
    writeAt content offset data = content ↔ slice content offset data.length = data := by
  constructor
  · intro same
    have written := slice_writeAt content offset data
    rw [same] at written
    exact written
  · intro held
    unfold writeAt
    split
    · rfl
    · rename_i nonempty
      have size := congrArg List.length held
      unfold slice at size held
      rw [List.length_take, List.length_drop] at size
      have positive : 0 < data.length := List.length_pos_iff.mpr nonempty
      have inside : offset - content.length = 0 := by omega
      rw [inside, List.replicate_zero, List.append_nil, List.append_assoc]
      conv_rhs => rw [← List.take_append_drop offset content]
      congr 1
      conv_rhs => rw [← List.take_append_drop data.length (content.drop offset)]
      rw [held, List.drop_drop]

/-! ### Streams -/

/-- What `FILE` refers to. A stream opened with "wb" cannot be read. -/
structure Stream (File : Type u) where
  file : File
  pos : Nat
  readable : Bool
deriving DecidableEq, Repr

/-- What was done with a `FILE` pointer. -/
inductive FileOp where
  | opened (fp : Nat)
  | used (fp : Nat)
  | closed (fp : Nat)
deriving DecidableEq, Repr

structure Stdio (File : Type u) where
  disk : File → Option Bytes
  streams : Nat → Option (Stream File)
  nextFp : Nat
  log : List FileOp

namespace Stdio

variable {File : Type u}

def opens (stdio : Stdio File) (stream : Stream File) : Stdio File where
  disk := stdio.disk
  streams := Function.update stdio.streams stdio.nextFp (some stream)
  nextFp := stdio.nextFp + 1
  log := stdio.log ++ [.opened stdio.nextFp]

def uses (stdio : Stdio File) (fp : Nat) : Stdio File :=
  { stdio with log := stdio.log ++ [.used fp] }

def moves (stdio : Stdio File) (fp pos : Nat) : Stdio File :=
  { stdio with
    streams := Function.update stdio.streams fp
      ((stdio.streams fp).map fun stream => { stream with pos := pos }) }

/-- `fopen(path, "rb+")`. -/
def openUpdate (stdio : Stdio File) (file : File) (succeeds : Bool) :
    Option Nat × Stdio File :=
  if succeeds ∧ (stdio.disk file).isSome then
    (some stdio.nextFp, stdio.opens ⟨file, 0, true⟩)
  else (none, stdio)

/-- `fseek(fp, offset, SEEK_SET)`: whether it succeeds. -/
def seekSet (stdio : Stdio File) (fp : Nat) (offset : Int) (succeeds : Bool) :
    Bool × Stdio File :=
  if succeeds ∧ 0 ≤ offset then (true, (stdio.uses fp).moves fp offset.toNat)
  else (false, stdio.uses fp)

/-- `fflush(fp)`: whether it succeeds. -/
def flush (stdio : Stdio File) (fp : Nat) (succeeds : Bool) : Bool × Stdio File :=
  (succeeds, stdio.uses fp)

/-- `fclose(fp)`. -/
def close (stdio : Stdio File) (fp : Nat) : Stdio File where
  disk := stdio.disk
  streams := Function.update stdio.streams fp none
  nextFp := stdio.nextFp
  log := stdio.log ++ [.closed fp]

/-- The size of the file that a stream is on. -/
def sizeOf (stdio : Stdio File) (fp : Nat) : Nat :=
  ((stdio.streams fp).bind fun stream => stdio.disk stream.file).elim 0 List.length

/-- `fseek(fp, 0, SEEK_END)`: whether it succeeds. -/
def seekEnd (stdio : Stdio File) (fp : Nat) (succeeds : Bool) : Bool × Stdio File :=
  if succeeds then (true, (stdio.uses fp).moves fp (stdio.sizeOf fp)) else (false, stdio.uses fp)

/-- `ftell(fp)`: -1 when it fails. -/
def tell (stdio : Stdio File) (fp : Nat) (succeeds : Bool) : Int × Stdio File :=
  (if succeeds then ((stdio.streams fp).elim 0 fun stream => stream.pos : Nat) else -1,
    stdio.uses fp)

/-- `fread` of `size` bytes: what was read. `limit` says after how many bytes a
failing read stops. -/
def read (stdio : Stdio File) (fp size : Nat) (limit : Option Nat) : Bytes × Stdio File :=
  match stdio.streams fp with
  | some ⟨file, pos, true⟩ =>
      let available := slice ((stdio.disk file).getD []) pos size
      let data := available.take (limit.getD size)
      (data, (stdio.uses fp).moves fp (pos + data.length))
  | _ => ([], stdio.uses fp)

section Write

variable [DecidableEq File]

/-- `fopen(path, "wb")`: the file is empty now. -/
def openWrite (stdio : Stdio File) (file : File) (succeeds : Bool) : Option Nat × Stdio File :=
  if succeeds then
    (some stdio.nextFp,
      { stdio with disk := Function.update stdio.disk file (some []) }.opens ⟨file, 0, false⟩)
  else (none, stdio)

/-- `fwrite` of `data`: how many bytes were written. `limit` says after how many
bytes a failing write stops. -/
def write (stdio : Stdio File) (fp : Nat) (data : Bytes) (limit : Option Nat) :
    Nat × Stdio File :=
  match stdio.streams fp with
  | some stream =>
      let written := data.take (limit.getD data.length)
      let content := (stdio.disk stream.file).getD []
      (written.length,
        { (stdio.uses fp).moves fp (stream.pos + written.length) with
          disk := Function.update stdio.disk stream.file
            (some (writeAt content stream.pos written)) })
  | none => (0, stdio.uses fp)

end Write

/-! ### What an operation leaves -/

/-- Only this stream was used. All streams are on the files that they were on, and
no file is gone. -/
structure UsesOnly (fp : Nat) (before after : Stdio File) : Prop where
  files : ∀ other, (after.streams other).map Stream.file =
    (before.streams other).map Stream.file
  disk : ∀ file, before.disk file ≠ none → after.disk file ≠ none
  nextFp : after.nextFp = before.nextFp
  log : ∃ uses, after.log = before.log ++ List.replicate uses (.used fp)

namespace UsesOnly

variable {fp : Nat} {before middle after stdio : Stdio File}

theorem trans (first : UsesOnly fp before middle) (second : UsesOnly fp middle after) :
    UsesOnly fp before after := by
  obtain ⟨firstUses, firstLog⟩ := first.log
  obtain ⟨secondUses, secondLog⟩ := second.log
  refine ⟨fun other => (second.files other).trans (first.files other),
    fun file there => second.disk file (first.disk file there),
    second.nextFp.trans first.nextFp, firstUses + secondUses, ?_⟩
  rw [secondLog, firstLog, List.append_assoc, List.replicate_append_replicate]

theorem isOpen (uses : UsesOnly fp before after) (other : Nat) :
    after.streams other = none ↔ before.streams other = none := by
  have same := uses.files other
  constructor
  · intro closed
    rw [closed] at same
    exact Option.map_eq_none_iff.mp same.symm
  · intro closed
    rw [closed] at same
    exact Option.map_eq_none_iff.mp same

theorem uses (fp : Nat) (stdio : Stdio File) : UsesOnly fp stdio (stdio.uses fp) :=
  ⟨fun _ => rfl, fun _ there => there, rfl, 1, rfl⟩

theorem moves (fp pos : Nat) (stdio : Stdio File) : UsesOnly fp stdio (stdio.moves fp pos) := by
  refine ⟨fun other => ?_, fun _ there => there, rfl, 0, by simp [Stdio.moves]⟩
  unfold Stdio.moves
  by_cases same : other = fp
  · rw [same]
    simp [Function.comp_def]
  · simp only [Function.update_of_ne same]

theorem setContent [DecidableEq File] (fp : Nat) (stdio : Stdio File) (file : File)
    (content : Bytes) :
    UsesOnly fp stdio
      { stdio with disk := Function.update stdio.disk file (some content) } := by
  refine ⟨fun _ => rfl, fun other there => ?_, rfl, 0, by simp⟩
  by_cases same : other = file
  · simp [same]
  · simpa [same] using there

theorem seekSet (fp : Nat) (stdio : Stdio File) (offset : Int) (succeeds : Bool) :
    UsesOnly fp stdio (stdio.seekSet fp offset succeeds).2 := by
  unfold Stdio.seekSet
  split
  · exact (uses fp stdio).trans (moves fp _ _)
  · exact uses fp stdio

theorem read (fp : Nat) (stdio : Stdio File) (size : Nat) (limit : Option Nat) :
    UsesOnly fp stdio (stdio.read fp size limit).2 := by
  unfold Stdio.read
  split
  · exact (uses fp stdio).trans (moves fp _ _)
  · exact uses fp stdio

theorem write [DecidableEq File] (fp : Nat) (stdio : Stdio File) (data : Bytes)
    (limit : Option Nat) : UsesOnly fp stdio (stdio.write fp data limit).2 := by
  unfold Stdio.write
  split
  · exact ((uses fp stdio).trans (moves fp _ _)).trans (setContent fp _ _ _)
  · exact uses fp stdio

end UsesOnly

end Stdio

end AChat.Lib
