import AChat.FileServer.FileSession

/-!
Owns what the handlers can do to the streams and to the disk: the cases of writing
a chunk, and those of opening a file for a download. The results about sessions
are proved from these cases.
-/

namespace AChat.FileServer

open Lib

/-- The chunk is found a place and written in full. -/
def Calls.Writes (calls : Calls) (req : UploadReq) : Prop :=
  (calls.fseek = true ∧ 0 ≤ req.offset) ∧
    req.filedata.length ≤ calls.fwrite.getD req.filedata.length

/-- A file that was opened for a download is measured. -/
def Calls.Measures (calls : Calls) (content : Bytes) : Prop :=
  calls.fseek = true ∧ calls.ftell = true ∧ content ≠ [] ∧ calls.fseekSet = true

instance Calls.instDecidableWrites (calls : Calls) (req : UploadReq) :
    Decidable (calls.Writes req) := by
  unfold Calls.Writes
  infer_instance

namespace FileState

variable {File : Type}

theorem resetFile_disk (state : FileState File) :
    state.resetFile.stdio.disk = state.stdio.disk := by
  unfold resetFile
  split <;> rfl

theorem resetFile_manager (state : FileState File) : state.resetFile.manager = state.manager := by
  unfold resetFile
  split <;> rfl

theorem resetFile_baseDir (state : FileState File) :
    state.resetFile.session.strFileBaseDir = state.session.strFileBaseDir := by
  unfold resetFile
  split <;> rfl

theorem uploadResp_disk (state : FileState File) (req : UploadReq) :
    (state.uploadResp req).2.stdio.disk = state.stdio.disk := by
  unfold uploadResp
  simp only
  split
  · exact resetFile_disk _
  · rfl

theorem uploadResp_returns (state : FileState File) (req : UploadReq) :
    (state.uploadResp req).1.returns = true := by
  unfold uploadResp
  simp only
  split <;> rfl

/-! ### Downloads -/

variable (fileOf : Name → File)

/-- How opening a file for a download ends. -/
inductive OpenCase (state : FileState File) (filemd5 : Name) (calls : Calls) :
    Bool × FileState File → Prop where
  | unopened :
      ¬(calls.fopen = true ∧ (state.stdio.disk (state.fileNamed fileOf filemd5)).isSome) →
        OpenCase state filemd5 calls (false, state)
  | failed {content : Bytes} {stdio : Stdio File} {size : Int} :
      calls.fopen = true → state.stdio.disk (state.fileNamed fileOf filemd5) = some content →
      ¬calls.Measures content →
      Stdio.UsesOnly state.stdio.nextFp
        (state.stdio.opens ⟨state.fileNamed fileOf filemd5, 0, true⟩) stdio →
        OpenCase state filemd5 calls
          (false,
            { state with
              stdio := stdio
              session :=
                { state.session with
                  fp := some state.stdio.nextFp
                  currentDownloadFileSize := size } })
  | opened {content : Bytes} {stdio : Stdio File} :
      calls.fopen = true → state.stdio.disk (state.fileNamed fileOf filemd5) = some content →
      calls.Measures content →
      Stdio.UsesOnly state.stdio.nextFp
        (state.stdio.opens ⟨state.fileNamed fileOf filemd5, 0, true⟩) stdio →
      stdio.disk = state.stdio.disk →
      stdio.streams state.stdio.nextFp = some ⟨state.fileNamed fileOf filemd5, 0, true⟩ →
        OpenCase state filemd5 calls
          (true,
            { state with
              stdio := stdio
              session :=
                { state.session with
                  fp := some state.stdio.nextFp
                  currentDownloadFileSize := content.length } })

theorem openDownload_cases (state : FileState File) (filemd5 : Name) (calls : Calls) :
    OpenCase fileOf state filemd5 calls (state.openDownload fileOf filemd5 calls) := by
  unfold openDownload Stdio.openUpdate
  by_cases present : calls.fopen = true ∧
      (state.stdio.disk (state.fileNamed fileOf filemd5)).isSome = true
  · obtain ⟨content, there⟩ := Option.isSome_iff_exists.mp present.2
    rw [if_pos present]
    generalize opened : state.stdio.opens ⟨state.fileNamed fileOf filemd5, 0, true⟩ = stdio
    have disk : stdio.disk = state.stdio.disk := by rw [← opened]; rfl
    have stream : stdio.streams state.stdio.nextFp =
        some ⟨state.fileNamed fileOf filemd5, 0, true⟩ := by
      rw [← opened]
      exact Function.update_self ..
    have size : stdio.sizeOf state.stdio.nextFp = content.length := by
      simp [Stdio.sizeOf, stream, disk, there]
    have failed : ∀ {after : Stdio File} (size : Int), ¬calls.Measures content →
        Stdio.UsesOnly state.stdio.nextFp stdio after →
          OpenCase fileOf state filemd5 calls
            (false,
              { state with
                stdio := after
                session :=
                  { state.session with
                    fp := some state.stdio.nextFp
                    currentDownloadFileSize := size } }) :=
      fun _ unmeasured uses => OpenCase.failed present.1 there unmeasured (opened ▸ uses)
    simp only
    cases seeks : calls.fseek with
    | false =>
        exact failed state.session.currentDownloadFileSize
          (fun measures => Bool.noConfusion (seeks.symm.trans measures.1))
          (Stdio.UsesOnly.uses _ stdio)
    | true =>
        have atEnd : stdio.seekEnd state.stdio.nextFp true =
            (true, (stdio.uses state.stdio.nextFp).moves state.stdio.nextFp content.length) := by
          rw [← size]
          rfl
        have moved := (Stdio.UsesOnly.uses state.stdio.nextFp stdio).trans
          (Stdio.UsesOnly.moves state.stdio.nextFp content.length _)
        have told := moved.trans (Stdio.UsesOnly.uses state.stdio.nextFp _)
        rw [atEnd]
        simp only [Bool.true_eq_false, if_false, Stdio.tell]
        cases tells : calls.ftell with
        | false =>
            exact failed _ (fun measures => Bool.noConfusion (tells.symm.trans measures.2.1)) told
        | true =>
            have measured : ((((stdio.uses state.stdio.nextFp).moves state.stdio.nextFp
                content.length).streams state.stdio.nextFp).elim 0 fun stream => stream.pos) =
                content.length := by
              simp [Stdio.moves, Stdio.uses, stream]
            simp only [if_true, measured]
            by_cases empty : content = []
            · rw [if_pos (by simp [empty])]
              exact failed _ (fun measures => measures.2.2.1 empty) told
            · have positive : 0 < content.length := List.length_pos_iff.mpr empty
              rw [if_neg (by omega)]
              have rewound := told.trans
                (Stdio.UsesOnly.seekSet state.stdio.nextFp _ 0 calls.fseekSet)
              cases rewinds : calls.fseekSet with
              | false =>
                  rw [rewinds] at rewound
                  exact failed _
                    (fun measures => Bool.noConfusion (rewinds.symm.trans measures.2.2.2)) rewound
              | true =>
                  rw [rewinds] at rewound
                  refine OpenCase.opened present.1 there ⟨seeks, tells, empty, rewinds⟩
                    (opened ▸ rewound) disk ?_
                  simp [Stdio.seekSet, Stdio.moves, Stdio.uses, stream]
  · rw [if_neg present]
    exact OpenCase.unopened present

/-! ### Chunks of an upload -/

/-- The upload is answered at once, since the file is there. -/
def AnsweredPresent (state : FileState File) (filemd5 : Name) (calls : Calls) : Prop :=
  (state.isFileExsit fileOf filemd5 calls).1 = true ∧ state.session.bFileUploading = false

instance instDecidableAnsweredPresent (state : FileState File) (filemd5 : Name) (calls : Calls) :
    Decidable (state.AnsweredPresent fileOf filemd5 calls) :=
  inferInstanceAs (Decidable (_ ∧ _))

/-- What the check for a file that is there leaves. -/
def located (state : FileState File) (seq : Int) (filemd5 : Name) (calls : Calls) :
    FileState File :=
  (({ state with session := { state.session with seq := seq } } :
    FileState File).isFileExsit fileOf filemd5 calls).2

theorem located_fp (state : FileState File) (seq : Int) (filemd5 : Name) (calls : Calls) :
    (state.located fileOf seq filemd5 calls).session.fp = state.session.fp :=
  rfl

theorem located_stdio (state : FileState File) (seq : Int) (filemd5 : Name) (calls : Calls) :
    (state.located fileOf seq filemd5 calls).stdio = state.stdio :=
  rfl

variable [DecidableEq File]

/-- The session after its file was opened for the first chunk. -/
def openedForWrite (state : FileState File) (filemd5 : Name) : FileState File where
  session :=
    { state.session with
      fp := some state.stdio.nextFp
      bFileUploading := true }
  manager := state.manager
  stdio :=
    { state.stdio with
      disk := Function.update state.stdio.disk (state.fileNamed fileOf filemd5) (some []) }.opens
        ⟨state.fileNamed fileOf filemd5, 0, false⟩

theorem openedForWrite_stream (state : FileState File) (filemd5 : Name) :
    (state.openedForWrite fileOf filemd5).stdio.streams state.stdio.nextFp =
      some ⟨state.fileNamed fileOf filemd5, 0, false⟩ :=
  Function.update_self ..

theorem firstChunk_eq (state : FileState File) (req : UploadReq) (calls : Calls) :
    state.firstChunk fileOf req calls =
      if calls.fopen = true then
        (state.openedForWrite fileOf req.filemd5).writeChunk state.stdio.nextFp req calls
      else (.refused, { state with session := { state.session with fp := none } }) := by
  unfold firstChunk Stdio.openWrite
  cases calls.fopen <;> rfl

/-- A download is answered at once, or sends from the stream that is open or is opened now. -/
theorem process_download (state : FileState File) {req : DownloadReq} (named : req.filemd5 ≠ [])
    (calls : Calls) :
    state.process fileOf (.download req) calls =
      let located := state.located fileOf req.seq req.filemd5 calls
      if (state.isFileExsit fileOf req.filemd5 calls).1 = false then
        (⟨true, [⟨msgTypeDownloadResp, req.seq, fileMsgErrorNotExist, req.filemd5, 0, 0, []⟩],
          false⟩, located)
      else
        match state.session.fp with
        | some fp => located.sendChunk fp req calls
        | none =>
            let opened := located.openDownload fileOf req.filemd5 calls
            match opened.1, opened.2.session.fp with
            | true, some fp => opened.2.sendChunk fp req calls
            | _, _ => (.refused, opened.2) := by
  unfold process onDownloadFileResponse
  simp only [named, if_false]
  rfl

/-- An upload is answered at once, or a chunk of one of the two kinds. -/
theorem process_upload (state : FileState File) {req : UploadReq} (named : req.filemd5 ≠ [])
    (calls : Calls) :
    state.process fileOf (.upload req) calls =
      if state.AnsweredPresent fileOf req.filemd5 calls then
        (⟨true, [⟨msgTypeUploadResp, req.seq, fileMsgErrorComplete, req.filemd5, req.filesize,
          req.filesize, []⟩], false⟩, state.located fileOf req.seq req.filemd5 calls)
      else if req.offset = 0 then
        (state.located fileOf req.seq req.filemd5 calls).firstChunk fileOf req calls
      else (state.located fileOf req.seq req.filemd5 calls).laterChunk req calls := by
  unfold process onUploadFileResponse
  simp only [named, if_false]
  rfl

/-- How writing a chunk ends. -/
inductive ChunkCase (state : FileState File) (fp : Nat) (stream : Stream File) (req : UploadReq)
    (calls : Calls) : Reply × FileState File → Prop where
  | aborted {stdio : Stdio File} :
      ¬calls.Writes req → Stdio.UsesOnly fp state.stdio stdio →
        ChunkCase state fp stream req calls
          (.refused, { state with stdio := stdio }.resetFile)
  | unflushed {stdio : Stdio File} :
      calls.Writes req → calls.fflush = false → Stdio.UsesOnly fp state.stdio stdio →
        ChunkCase state fp stream req calls (.refused, { state with stdio := stdio })
  | written {stdio : Stdio File} :
      calls.Writes req → calls.fflush = true → Stdio.UsesOnly fp state.stdio stdio →
      stdio.disk = Function.update state.stdio.disk stream.file
        (some (writeAt ((state.stdio.disk stream.file).getD []) req.offset.toNat
          req.filedata)) →
        ChunkCase state fp stream req calls ({ state with stdio := stdio }.uploadResp req)

theorem writeChunk_cases {state : FileState File} {fp : Nat} {stream : Stream File}
    (found : state.stdio.streams fp = some stream) (req : UploadReq) (calls : Calls) :
    ChunkCase state fp stream req calls (state.writeChunk fp req calls) := by
  unfold writeChunk
  by_cases seeks : calls.fseek = true ∧ 0 ≤ req.offset
  · have sought : state.stdio.seekSet fp req.offset calls.fseek =
        (true, (state.stdio.uses fp).moves fp req.offset.toNat) := if_pos seeks
    have there : ((state.stdio.uses fp).moves fp req.offset.toNat).streams fp =
        some { stream with pos := req.offset.toNat } := by
      simp [Stdio.moves, Stdio.uses, found]
    have used : Stdio.UsesOnly fp state.stdio
        ((state.stdio.uses fp).moves fp req.offset.toNat) :=
      (Stdio.UsesOnly.uses fp _).trans (Stdio.UsesOnly.moves fp _ _)
    have usedWrite := used.trans (Stdio.UsesOnly.write fp _ req.filedata calls.fwrite)
    simp only [sought, Bool.true_eq_false, if_false]
    have count : (((state.stdio.uses fp).moves fp req.offset.toNat).write fp req.filedata
        calls.fwrite).1 = min (calls.fwrite.getD req.filedata.length) req.filedata.length := by
      unfold Stdio.write
      rw [there]
      exact List.length_take
    by_cases full : req.filedata.length ≤ calls.fwrite.getD req.filedata.length
    · rw [if_neg (by omega)]
      have usedFlush := usedWrite.trans (Stdio.UsesOnly.uses fp _)
      cases flushed : calls.fflush with
      | false =>
          have unflushed : ChunkCase state fp stream req calls _ :=
            ChunkCase.unflushed ⟨seeks, full⟩ flushed usedFlush
          exact unflushed
      | true =>
          refine ChunkCase.written ⟨seeks, full⟩ flushed usedFlush ?_
          show (((state.stdio.uses fp).moves fp req.offset.toNat).write fp req.filedata
            calls.fwrite).2.disk = _
          unfold Stdio.write
          rw [there, List.take_of_length_le full]
          rfl
    · rw [if_pos (by omega)]
      exact ChunkCase.aborted (fun writes => full writes.2) usedWrite
  · have sought : state.stdio.seekSet fp req.offset calls.fseek = (false, state.stdio.uses fp) :=
      if_neg seeks
    simp only [sought, if_true]
    exact ChunkCase.aborted (fun writes => seeks writes.1) (Stdio.UsesOnly.uses fp _)

end FileState

end AChat.FileServer
