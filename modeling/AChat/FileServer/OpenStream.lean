import AChat.Lib.Reach
import AChat.FileServer.SessionCases

/-!
Owns the runs of one file session and the invariant of its open stream: what the
session's `FILE` pointer refers to is there, whatever fails.
-/

namespace AChat.FileServer

open Lib

namespace FileState

variable {File : Type}

/-- A session that was just created. -/
def start (manager : FileManager) (fileBaseDir : Name) (disk : File → Option Bytes) :
    FileState File where
  session := FileSession.new fileBaseDir
  manager := manager
  stdio := ⟨disk, fun _ => none, 0, []⟩

/-- The file that the session has open. -/
def openFile (state : FileState File) : Option File :=
  (state.session.fp.bind state.stdio.streams).map Stream.file

variable (fileOf : Name → File)

section Run

variable [DecidableEq File]

/-- One request of a session. -/
def step (state : FileState File) (event : Request × Calls) : FileState File :=
  (state.process fileOf event.1 event.2).2

/-- The states of all runs of one session. -/
abbrev Reached (manager : FileManager) (fileBaseDir : Name) (disk : File → Option Bytes)
    (state : FileState File) : Prop :=
  Reach (step fileOf) (fun _ _ => True) (start manager fileBaseDir disk) state

end Run

/-! ### The open stream -/

/-- The open stream of a session is there, and its file is on the disk. -/
structure OpenStream (state : FileState File) : Prop where
  there : ∀ fp, state.session.fp = some fp → ∃ stream, state.stdio.streams fp = some stream
  onDisk : ∀ fp stream, state.stdio.streams fp = some stream →
    state.stdio.disk stream.file ≠ none

namespace OpenStream

variable {state : FileState File} {fileOf}

theorem start (manager : FileManager) (fileBaseDir : Name) (disk : File → Option Bytes) :
    OpenStream (FileState.start manager fileBaseDir disk) :=
  ⟨nofun, nofun⟩

/-- Nothing but the stream and the `FILE` pointer matters. -/
theorem congr {before after : FileState File} (openStream : OpenStream before)
    (stdio : after.stdio = before.stdio) (fp : after.session.fp = before.session.fp) :
    OpenStream after := by
  refine ⟨?_, ?_⟩
  · rw [stdio, fp]
    exact openStream.there
  · rw [stdio]
    exact openStream.onDisk

theorem uses (openStream : OpenStream state) {fp : Nat} {stdio : Stdio File}
    (uses : Stdio.UsesOnly fp state.stdio stdio) : OpenStream { state with stdio := stdio } := by
  refine ⟨?_, ?_⟩
  · intro other opened
    obtain ⟨stream, found⟩ := openStream.there other opened
    apply Option.ne_none_iff_exists'.mp
    intro absent
    rw [(uses.isOpen other).mp absent] at found
    cases found
  · intro other stream found
    have file := uses.files other
    rw [found] at file
    obtain ⟨earlier, entry, same⟩ := Option.map_eq_some_iff.mp file.symm
    rw [← same]
    exact uses.disk _ (openStream.onDisk other earlier entry)

theorem resetFile (openStream : OpenStream state) : OpenStream state.resetFile := by
  unfold FileState.resetFile
  split
  · exact openStream
  · rename_i fp opened
    refine ⟨nofun, ?_⟩
    intro other stream found
    by_cases same : other = fp
    · simp [Stdio.close, same] at found
    · simp only [Stdio.close, Function.update_of_ne same] at found
      exact openStream.onDisk other stream found

/-- A stream is opened on a file of the disk. -/
theorem opens (openStream : OpenStream state) (stream : Stream File)
    (disk : File → Option Bytes)
    (keeps : ∀ file, state.stdio.disk file ≠ none → disk file ≠ none)
    (there : disk stream.file ≠ none) (session : FileSession)
    (opened : session.fp = some state.stdio.nextFp) :
    OpenStream
      { state with
        stdio := { state.stdio with disk := disk }.opens stream
        session := session } := by
  refine ⟨?_, ?_⟩
  · intro fp holds
    cases opened.symm.trans holds
    exact ⟨stream, by simp [Stdio.opens]⟩
  · intro fp other found
    by_cases same : fp = state.stdio.nextFp
    · simp only [Stdio.opens, same, Function.update_self, Option.some.injEq] at found
      rw [← found]
      exact there
    · simp only [Stdio.opens, Function.update_of_ne same] at found
      exact keeps _ (openStream.onDisk fp other found)

theorem uploadResp (openStream : OpenStream state) (req : UploadReq) :
    OpenStream (state.uploadResp req).2 := by
  unfold FileState.uploadResp
  simp only
  split
  · have added : OpenStream { state with manager := state.manager.addFile req.filemd5 } :=
      openStream.congr rfl rfl
    exact added.resetFile
  · exact openStream

section Uploads

variable [DecidableEq File]

theorem writeChunk (openStream : OpenStream state) {fp : Nat} (opened : state.session.fp = some fp)
    (req : UploadReq) (calls : Calls) : OpenStream (state.writeChunk fp req calls).2 := by
  obtain ⟨stream, found⟩ := openStream.there fp opened
  have cases := state.writeChunk_cases found req calls
  generalize state.writeChunk fp req calls = result at cases ⊢
  cases cases with
  | aborted _ uses => exact (openStream.uses uses).resetFile
  | unflushed _ _ uses => exact openStream.uses uses
  | written _ _ uses _ => exact (openStream.uses uses).uploadResp req

theorem openedForWrite (openStream : OpenStream state) (filemd5 : Name) :
    OpenStream (state.openedForWrite fileOf filemd5) := by
  apply openStream.opens
  · intro file there
    by_cases same : file = state.fileNamed fileOf filemd5
    · simp [same]
    · simpa [same] using there
  · simp
  · rfl

theorem firstChunk (openStream : OpenStream state) (req : UploadReq) (calls : Calls) :
    OpenStream (state.firstChunk fileOf req calls).2 := by
  rw [firstChunk_eq]
  split
  · exact (openStream.openedForWrite req.filemd5).writeChunk rfl req calls
  · exact ⟨nofun, openStream.onDisk⟩

theorem upload (openStream : OpenStream state) (req : UploadReq) (calls : Calls) :
    OpenStream (state.onUploadFileResponse fileOf req calls).2 := by
  unfold FileState.onUploadFileResponse
  split
  · exact openStream
  · have found : OpenStream (state.isFileExsit fileOf req.filemd5 calls).2 :=
      openStream.congr rfl rfl
    simp only
    split
    · exact found
    · split
      · exact found.firstChunk req calls
      · unfold FileState.laterChunk
        split
        · exact found
        · rename_i fp opened
          exact found.writeChunk opened req calls

end Uploads

theorem readBuffer (openStream : OpenStream state) (fp : Nat) (size : Int) (limit : Option Nat) :
    OpenStream { state with stdio := (FileState.readBuffer state.stdio fp size limit).2 } := by
  unfold FileState.readBuffer
  split
  · exact openStream
  · exact openStream.uses (Stdio.UsesOnly.read fp _ _ _)

theorem sendChunk (openStream : OpenStream state) {fp : Nat} (req : DownloadReq) (calls : Calls) :
    OpenStream (state.sendChunk fp req calls).2 := by
  unfold FileState.sendChunk
  simp only
  split
  · exact openStream
  · have read := openStream.readBuffer fp
      (FileState.currentSendSize state.session req.clientNetType) calls.fread
    split
    · apply resetFile
      exact read.congr rfl rfl
    · exact read.congr rfl rfl

theorem openDownload (openStream : OpenStream state) (filemd5 : Name) (calls : Calls) :
    OpenStream (state.openDownload fileOf filemd5 calls).2 := by
  have opens : ∀ content, state.stdio.disk (state.fileNamed fileOf filemd5) = some content →
      OpenStream
        { state with
          stdio := state.stdio.opens ⟨state.fileNamed fileOf filemd5, 0, true⟩
          session := { state.session with fp := some state.stdio.nextFp } } :=
    fun content there => openStream.opens ⟨state.fileNamed fileOf filemd5, 0, true⟩
      state.stdio.disk (fun _ known => known) (fun absent => nomatch there.symm.trans absent) _ rfl
  have cases := openDownload_cases fileOf state filemd5 calls
  generalize state.openDownload fileOf filemd5 calls = result at cases ⊢
  cases cases with
  | unopened _ => exact openStream
  | failed _ there _ uses => exact ((opens _ there).uses uses).congr rfl rfl
  | opened _ there _ uses _ _ => exact ((opens _ there).uses uses).congr rfl rfl

theorem download (openStream : OpenStream state) (req : DownloadReq) (calls : Calls) :
    OpenStream (state.onDownloadFileResponse fileOf req calls).2 := by
  unfold FileState.onDownloadFileResponse
  split
  · exact openStream
  · have found : OpenStream (state.isFileExsit fileOf req.filemd5 calls).2 :=
      openStream.congr rfl rfl
    simp only
    split
    · exact found
    · split
      · exact found.sendChunk req calls
      · have opened : OpenStream
            ((state.isFileExsit fileOf req.filemd5 calls).2.openDownload fileOf req.filemd5
              calls).2 :=
          found.openDownload req.filemd5 calls
        split
        · exact opened.sendChunk req calls
        · exact opened

theorem step [DecidableEq File] (openStream : OpenStream state) (event : Request × Calls) :
    OpenStream (state.step fileOf event) := by
  have named : ∀ seq, OpenStream { state with session := { state.session with seq := seq } } :=
    fun _ => openStream.congr rfl rfl
  unfold FileState.step FileState.process
  cases event.1 with
  | upload req =>
      simp only
      split
      · exact named req.seq
      · exact (named req.seq).upload req event.2
  | download req =>
      simp only
      split
      · exact named req.seq
      · exact (named req.seq).download req event.2

theorem of_reached [DecidableEq File] {manager : FileManager} {fileBaseDir : Name}
    {disk : File → Option Bytes} (reached : Reached fileOf manager fileBaseDir disk state) :
    OpenStream state :=
  Reach.invariant OpenStream (start manager fileBaseDir disk)
    (fun _ event openStream _ => openStream.step event) reached

end OpenStream

end FileState

end AChat.FileServer
