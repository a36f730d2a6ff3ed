import AChat.FileServer.OpenStream

/-!
Contract: which file the bytes of an accepted upload chunk go to.

A later chunk is written to the stream that the session has open, whatever file
it names. So it goes to its own file exactly when that stream is on this file, or
when there is nothing to change.
-/

namespace AChat.FileServer

open Lib

namespace FileState

variable {File : Type}

variable (fileOf : Name → File)

section Run

variable [DecidableEq File]

/-- The upload request is accepted for writing: it gets past the check for a file
that is there, and is answered. -/
def Accepts (state : FileState File) (req : UploadReq) (calls : Calls) : Prop :=
  req.filemd5 ≠ [] ∧ ¬state.AnsweredPresent fileOf req.filemd5 calls ∧
    (state.process fileOf (.upload req) calls).1.returns = true

/-- The file has the chunk at its offset, and no other file changed. -/
def GoesToOwnFile (state : FileState File) (req : UploadReq) (calls : Calls) : Prop :=
  let after := (state.step fileOf (.upload req, calls)).stdio.disk
  slice ((after (state.fileNamed fileOf req.filemd5)).getD []) req.offset.toNat
      req.filedata.length = req.filedata ∧
    ∀ other, other ≠ state.fileNamed fileOf req.filemd5 → after other = state.stdio.disk other

end Run

/-- The file has the chunk at its offset already. -/
def Holds (state : FileState File) (file : File) (req : UploadReq) : Prop :=
  slice ((state.stdio.disk file).getD []) req.offset.toNat req.filedata.length = req.filedata

/-- The chunk is the first one or empty, or the session has its file open, or
both files have it at its offset already. -/
def OwnTarget (state : FileState File) (req : UploadReq) : Prop :=
  req.offset = 0 ∨ req.filedata = [] ∨
    state.openFile = some (state.fileNamed fileOf req.filemd5) ∨
    state.Holds (state.fileNamed fileOf req.filemd5) req ∧
      ∀ file, state.openFile = some file → state.Holds file req

/-! ### What an accepted chunk writes -/

section Writes

variable [DecidableEq File] {fileOf} {state : FileState File}

/-- A chunk that is answered is in the file of its stream. -/
theorem writeChunk_disk {fp : Nat} {stream : Stream File}
    (found : state.stdio.streams fp = some stream) (req : UploadReq) (calls : Calls)
    (answered : (state.writeChunk fp req calls).1.returns = true) :
    (state.writeChunk fp req calls).2.stdio.disk =
      Function.update state.stdio.disk stream.file
        (some (writeAt ((state.stdio.disk stream.file).getD []) req.offset.toNat
          req.filedata)) := by
  have cases := state.writeChunk_cases found req calls
  generalize state.writeChunk fp req calls = result at cases answered ⊢
  cases cases with
  | aborted => cases answered
  | unflushed => cases answered
  | written _ _ _ disk =>
      rw [uploadResp_disk]
      exact disk

/-- The first chunk is all that its file has. -/
theorem firstChunk_disk (req : UploadReq) (calls : Calls)
    (answered : (state.firstChunk fileOf req calls).1.returns = true) :
    (state.firstChunk fileOf req calls).2.stdio.disk =
      Function.update state.stdio.disk (state.fileNamed fileOf req.filemd5)
        (some (writeAt [] req.offset.toNat req.filedata)) := by
  rw [firstChunk_eq] at answered ⊢
  split at answered
  · rename_i opens
    rw [if_pos opens, writeChunk_disk (openedForWrite_stream fileOf state req.filemd5) req calls
      answered]
    simp [openedForWrite, Stdio.opens]
  · cases answered

/-- A later chunk is in the file that is open. -/
theorem laterChunk_disk (openStream : OpenStream state) (req : UploadReq) (calls : Calls)
    (answered : (state.laterChunk req calls).1.returns = true) :
    ∃ file content, state.openFile = some file ∧ state.stdio.disk file = some content ∧
      (state.laterChunk req calls).2.stdio.disk =
        Function.update state.stdio.disk file
          (some (writeAt content req.offset.toNat req.filedata)) := by
  unfold laterChunk at answered ⊢
  cases opened : state.session.fp with
  | none =>
      rw [opened] at answered
      cases answered
  | some fp =>
      obtain ⟨stream, found⟩ := openStream.there fp opened
      obtain ⟨content, there⟩ := Option.ne_none_iff_exists'.mp (openStream.onDisk fp stream found)
      simp only [opened] at answered
      refine ⟨stream.file, content, by simp [openFile, opened, found], there, ?_⟩
      show (state.writeChunk fp req calls).2.stdio.disk = _
      rw [writeChunk_disk found req calls answered, there]
      rfl

/-- One write is what file `own` asked for exactly when it went there, or when
there was nothing to change. -/
theorem write_is_own_iff {disk : File → Option Bytes} {file own : File} {content data : Bytes}
    (there : disk file = some content) (offset : Nat) :
    (slice (((Function.update disk file (some (writeAt content offset data))) own).getD [])
        offset data.length = data ∧
      ∀ other, other ≠ own →
        Function.update disk file (some (writeAt content offset data)) other = disk other) ↔
      file = own ∨
        slice ((disk own).getD []) offset data.length = data ∧
          slice ((disk file).getD []) offset data.length = data := by
  by_cases same : file = own
  · constructor
    · exact fun _ => Or.inl same
    · intro _
      refine ⟨?_, ?_⟩
      · rw [same, Function.update_self]
        exact slice_writeAt content offset data
      · intro other different
        exact Function.update_of_ne (fun equal => different (equal.trans same)) _ _
  · rw [Function.update_of_ne (Ne.symm same)]
    constructor
    · intro own
      have unchanged := own.2 file same
      rw [Function.update_self, there, Option.some.injEq] at unchanged
      refine Or.inr ⟨own.1, ?_⟩
      rw [there]
      exact (writeAt_eq_self_iff content offset data).mp unchanged
    · intro held
      have both := held.resolve_left same
      refine ⟨both.1, ?_⟩
      intro other _
      rw [there] at both
      by_cases written : other = file
      · rw [written, Function.update_self, there]
        exact congrArg some ((writeAt_eq_self_iff content offset data).mpr both.2)
      · exact Function.update_of_ne written _ _

end Writes

/-! ### The result -/

section Result

variable [DecidableEq File] {fileOf} {state : FileState File}

theorem goesToOwnFile_iff_ownTarget {manager : FileManager} {fileBaseDir : Name}
    {disk : File → Option Bytes} (reached : Reached fileOf manager fileBaseDir disk state)
    (req : UploadReq) (calls : Calls) (accepts : state.Accepts fileOf req calls) :
    state.GoesToOwnFile fileOf req calls ↔ state.OwnTarget fileOf req := by
  have kind := process_upload fileOf state accepts.1 calls
  rw [if_neg accepts.2.1] at kind
  have own : (state.located fileOf req.seq req.filemd5 calls).fileNamed fileOf req.filemd5 =
      state.fileNamed fileOf req.filemd5 := rfl
  have opened : (state.located fileOf req.seq req.filemd5 calls).openFile = state.openFile := rfl
  have stdio : (state.located fileOf req.seq req.filemd5 calls).stdio = state.stdio := rfl
  have answered := accepts.2.2
  unfold GoesToOwnFile step
  simp only
  rw [kind] at answered ⊢
  by_cases first : req.offset = 0
  · rw [if_pos first] at answered ⊢
    rw [firstChunk_disk req calls answered, own, stdio, Function.update_self]
    constructor
    · exact fun _ => Or.inl first
    · intro _
      refine ⟨slice_writeAt [] _ _, ?_⟩
      intro other different
      exact Function.update_of_ne different _ _
  · rw [if_neg first] at answered ⊢
    have openStream := (OpenStream.of_reached reached).congr stdio rfl
    obtain ⟨file, content, target, there, disk⟩ :=
      laterChunk_disk openStream req calls answered
    rw [disk, stdio]
    rw [opened] at target
    rw [stdio] at there
    rw [write_is_own_iff there]
    unfold OwnTarget Holds
    constructor
    · intro goes
      cases goes with
      | inl same => exact Or.inr (Or.inr (Or.inl (target.trans (congrArg some same))))
      | inr held =>
          refine Or.inr (Or.inr (Or.inr ⟨held.1, ?_⟩))
          intro other isOpen
          cases target.symm.trans isOpen
          exact held.2
    · intro target'
      cases target' with
      | inl zero => exact absurd zero first
      | inr rest =>
          cases rest with
          | inl empty =>
              rw [empty]
              exact Or.inr ⟨List.take_zero, List.take_zero⟩
          | inr rest =>
              cases rest with
              | inl same => exact Or.inl (Option.some.inj (target.symm.trans same))
              | inr held => exact Or.inr ⟨held.1, held.2 file target⟩

end Result

/-! ### Two files in turns -/

/-- A session on an empty directory, where every path is a file of its own. -/
def emptyStart : FileState Name :=
  start (FileManager.init [] []) [] fun _ => none

/-- File 1 has had its first byte of ten. -/
def oneChunk : FileState Name :=
  emptyStart.step id (.upload ⟨1, [1], 0, 10, [7]⟩, Calls.succeed)

theorem oneChunk_reached : Reached id (FileManager.init [] []) [] (fun _ => none) oneChunk :=
  .step .start trivial

/-- The second chunk of file 1 goes to file 1. -/
theorem second_chunk_goes_to_own_file :
    oneChunk.GoesToOwnFile id ⟨2, [1], 1, 10, [8]⟩ Calls.succeed :=
  (goesToOwnFile_iff_ownTarget oneChunk_reached ⟨2, [1], 1, 10, [8]⟩ Calls.succeed
    (by unfold Accepts; decide)).mpr (Or.inr (Or.inr (Or.inl (by decide))))

/-- A chunk of file 2 is accepted, and goes to file 1. -/
theorem chunk_goes_to_other_file :
    Reached id (FileManager.init [] []) [] (fun _ => none) oneChunk ∧
      oneChunk.Accepts id ⟨2, [2], 1, 10, [8]⟩ Calls.succeed ∧
      ¬oneChunk.GoesToOwnFile id ⟨2, [2], 1, 10, [8]⟩ Calls.succeed ∧
      (oneChunk.step id (.upload ⟨2, [2], 1, 10, [8]⟩, Calls.succeed)).stdio.disk [1] =
        some [7, 8] := by
  refine ⟨oneChunk_reached, by unfold Accepts; decide, ?_, by decide⟩
  intro goes
  exact absurd goes.1 (by decide)

end FileState

end AChat.FileServer
