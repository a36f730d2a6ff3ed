import Mathlib.Data.List.TakeDrop
import Mathlib.Data.List.TakeWhile
import AChat.FileServer.OpenStream

/-!
Contract: what the responses to the download requests of one file carry.

A session keeps one position for all files. While nothing else touches its stream,
the responses for a stored file are its chunks in order. The response that ends at
the size of the file closes the stream, and the next request starts again at 0.

Owns: the order of responses, and the invariant of a download that is under way.
-/

namespace AChat.FileServer

open Lib

/-! ### Responses in order -/

/-- The bytes that came since the last complete response. -/
def received (responses : List FileMsg) : Bytes :=
  responses.foldl
    (fun got resp =>
      if resp.errorcode = fileMsgErrorComplete then [] else got ++ resp.filedata) []

/-- The response is the next chunk of the file after these bytes. -/
structure NextChunk (content before : Bytes) (resp : FileMsg) : Prop where
  offset : resp.offset = before.length
  filesize : resp.filesize = content.length
  nonempty : resp.filedata ≠ []
  isPrefix : before ++ resp.filedata <+: content
  errorcode : resp.errorcode =
    if before ++ resp.filedata = content then fileMsgErrorComplete else fileMsgErrorProgress

/-- Every response is the next chunk of the file after what came before it. -/
def InOrder (content : Bytes) (responses : List FileMsg) : Prop :=
  ∀ before resp, before ++ [resp] <+: responses → NextChunk content (received before) resp

theorem received_concat (responses : List FileMsg) (resp : FileMsg) :
    received (responses ++ [resp]) =
      if resp.errorcode = fileMsgErrorComplete then []
      else received responses ++ resp.filedata := by
  unfold received
  rw [List.foldl_append]
  rfl

theorem InOrder.concat {content : Bytes} {responses : List FileMsg}
    (inOrder : InOrder content responses) {resp : FileMsg}
    (next : NextChunk content (received responses) resp) :
    InOrder content (responses ++ [resp]) := by
  intro before other isPrefix
  cases List.prefix_concat_iff.mp isPrefix with
  | inl whole =>
      obtain ⟨same, last⟩ := List.append_inj' whole rfl
      rw [same, (List.cons.inj last).1]
      exact next
  | inr part => exact inOrder before other part

/-- What came since the last complete response is a part of the file from its start. -/
theorem InOrder.received_prefix {content : Bytes} {responses : List FileMsg}
    (inOrder : InOrder content responses) : received responses <+: content := by
  cases List.eq_nil_or_concat responses with
  | inl empty =>
      rw [empty]
      exact List.nil_prefix
  | inr last =>
      obtain ⟨before, resp, whole⟩ := last
      rw [List.concat_eq_append] at whole
      have next := inOrder before resp (whole ▸ List.prefix_refl _)
      rw [whole, received_concat]
      split
      · exact List.nil_prefix
      · exact next.isPrefix

/-! ### Runs -/

/-- A session and the responses to its download requests of one file. -/
structure DownloadRun (File : Type) where
  state : FileState File
  responses : List FileMsg

/-- The calls of a download all succeed. -/
def Calls.Delivers (calls : Calls) : Prop :=
  calls.probe = true ∧ calls.fopen = true ∧ calls.fseek = true ∧ calls.ftell = true ∧
    calls.fseekSet = true ∧ calls.fread = none

/-- The request does not come to the stream of the session. -/
def FileState.LeavesStream {File : Type} (fileOf : Name → File) (state : FileState File)
    (calls : Calls) : Request → Prop
  | .upload req => req.filemd5 = [] ∨ state.AnsweredPresent fileOf req.filemd5 calls
  | .download req =>
      req.filemd5 = [] ∨ (state.isFileExsit fileOf req.filemd5 calls).1 = false

namespace DownloadRun

variable {File : Type}

def start (manager : FileManager) (disk : File → Option Bytes) : DownloadRun File :=
  ⟨.start manager manager.basepath disk, []⟩

variable [DecidableEq File] (fileOf : Name → File) (name : Name)

def step (current : DownloadRun File) (event : Request × Calls) : DownloadRun File :=
  let processed := current.state.process fileOf event.1 event.2
  { state := processed.2
    responses :=
      match event.1 with
      | .download req =>
          if req.filemd5 = name then current.responses ++ processed.1.sent else current.responses
      | .upload _ => current.responses }

/-- A request that is not a download of the file leaves the stream alone while a download
of the file is under way, and else leaves the file as it is. -/
def OtherLeaves (current : DownloadRun File) (event : Request × Calls) : Prop :=
  if received current.responses = [] then
    (current.state.step fileOf event).stdio.disk (current.state.fileNamed fileOf name) =
      current.state.stdio.disk (current.state.fileNamed fileOf name)
  else current.state.LeavesStream fileOf event.2 event.1

/-- The calls of a download of the file succeed, and it starts with no stream open and at
position 0. -/
def Undisturbed (current : DownloadRun File) (event : Request × Calls) : Prop :=
  match event.1 with
  | .download req =>
      if req.filemd5 = name then
        event.2.Delivers ∧
          (received current.responses = [] → current.state.session.fp = none ∧
            current.state.session.currentDownloadFileOffset = 0)
      else current.OtherLeaves fileOf name event
  | .upload _ => current.OtherLeaves fileOf name event

end DownloadRun

namespace FileState

variable {File : Type}

/-! ### The chunk that is sent -/

/-- The stream is on the file at this position, and the session knows it. -/
structure Streaming (state : FileState File) (file : File) (content : Bytes) (position : Nat)
    (fp : Nat) : Prop where
  opened : state.session.fp = some fp
  stream : state.stdio.streams fp = some ⟨file, position, true⟩
  onDisk : state.stdio.disk file = some content
  offset : state.session.currentDownloadFileOffset = position
  size : state.session.currentDownloadFileSize = content.length

/-- How many bytes the next response carries. -/
def nextLength (content : Bytes) (position : Nat) (clientNetType : Int) : Nat :=
  min (chunkSize clientNetType).toNat (content.length - position)

variable {state : FileState File} {file : File} {content : Bytes} {position fp : Nat}

theorem Streaming.currentSendSize (streaming : state.Streaming file content position fp)
    (inside : position < content.length) (clientNetType : Int) :
    FileState.currentSendSize state.session clientNetType =
      nextLength content position clientNetType := by
  have positive : 0 < chunkSize clientNetType := by
    unfold chunkSize
    split <;> omega
  unfold FileState.currentSendSize nextLength
  rw [streaming.size, streaming.offset]
  split <;> omega

/-- The buffer holds the next bytes of the file. -/
theorem Streaming.readBuffer (streaming : state.Streaming file content position fp) {length : Nat}
    (positive : 0 < length) (inside : position + length ≤ content.length) :
    FileState.readBuffer state.stdio fp length none =
      (slice content position length,
        (state.stdio.uses fp).moves fp (position + length)) := by
  have size : (slice content position length).length = length := by
    simp only [slice, List.length_take, List.length_drop]
    omega
  have whole : (slice content position length).take length = slice content position length :=
    List.take_of_length_le (Nat.le_of_eq size)
  unfold FileState.readBuffer Stdio.read
  rw [if_neg (by omega)]
  simp only [streaming.stream, streaming.onDisk, Int.toNat_natCast, Option.getD_some,
    Option.getD_none, whole, size, Nat.sub_self, List.replicate_zero, List.append_nil]

theorem nextLength_pos (inside : position < content.length) (clientNetType : Int) :
    0 < nextLength content position clientNetType := by
  unfold nextLength chunkSize
  split <;> omega

theorem nextLength_le (inside : position < content.length) (clientNetType : Int) :
    position + nextLength content position clientNetType ≤ content.length := by
  unfold nextLength
  omega

/-- The response that carries the next chunk. -/
def nextResponse (state : FileState File) (content : Bytes) (position : Nat) (req : DownloadReq) :
    FileMsg :=
  let length := nextLength content position req.clientNetType
  ⟨msgTypeDownloadResp, state.session.seq,
    if position + length = content.length then fileMsgErrorComplete else fileMsgErrorProgress,
    req.filemd5, position, content.length, slice content position length⟩

/-- The session after the next chunk. -/
def afterChunk (state : FileState File) (content : Bytes) (position fp : Nat)
    (req : DownloadReq) : FileState File :=
  let next := position + nextLength content position req.clientNetType
  { state with
    stdio := (state.stdio.uses fp).moves fp next
    session := { state.session with currentDownloadFileOffset := next } }

theorem Streaming.sendChunk (streaming : state.Streaming file content position fp)
    (inside : position < content.length) (small : content.length ≤ 2 ^ 31) (req : DownloadReq)
    {calls : Calls} (reads : calls.fread = none) :
    state.sendChunk fp req calls =
      (⟨true, [state.nextResponse content position req], false⟩,
        if position + nextLength content position req.clientNetType = content.length then
          (state.afterChunk content position fp req).resetFile
        else state.afterChunk content position fp req) := by
  have size := streaming.currentSendSize inside req.clientNetType
  have buffer := streaming.readBuffer (nextLength_pos inside req.clientNetType)
    (nextLength_le inside req.clientNetType)
  have sendoffset : ((position : Nat) : Int).bmod (2 ^ 32) = position := by
    unfold Int.bmod
    simp only
    split <;> omega
  have notEmpty : (((content.length : Nat) : Int) == 0) = false := by
    simp only [beq_eq_false_iff_ne, ne_eq]
    omega
  have ends : (((position : Nat) : Int) + (nextLength content position req.clientNetType : Nat) =
      (content.length : Nat)) ↔
      position + nextLength content position req.clientNetType = content.length := by omega
  unfold FileState.sendChunk
  simp only [size, reads, buffer, streaming.offset, streaming.size, sendoffset, notEmpty, ends]
  rw [if_neg (by omega)]
  unfold nextResponse FileState.afterChunk
  simp only [streaming.size, Int.natCast_add]

theorem Streaming.afterChunk (streaming : state.Streaming file content position fp)
    (req : DownloadReq) :
    (state.afterChunk content position fp req).Streaming file content
      (position + nextLength content position req.clientNetType) fp := by
  refine ⟨streaming.opened, ?_, streaming.onDisk, rfl, streaming.size⟩
  simp [FileState.afterChunk, Stdio.moves, Stdio.uses, streaming.stream]

/-- The response is the next chunk after what came before it. -/
theorem nextResponse_nextChunk (state : FileState File) (inside : position < content.length)
    (req : DownloadReq) :
    NextChunk content (content.take position) (state.nextResponse content position req) := by
  have positive := nextLength_pos inside req.clientNetType
  have least := nextLength_le inside req.clientNetType
  have whole : content.take position ++
      slice content position (nextLength content position req.clientNetType) =
        content.take (position + nextLength content position req.clientNetType) :=
    List.take_add.symm
  refine ⟨?_, rfl, ?_, ?_, ?_⟩
  · show ((position : Nat) : Int) = _
    rw [List.length_take]
    omega
  · intro empty
    have size := congrArg List.length empty
    simp only [nextResponse, slice, List.length_take, List.length_drop, List.length_nil] at size
    omega
  · show content.take position ++
      slice content position (nextLength content position req.clientNetType) <+: content
    rw [whole]
    exact List.take_prefix _ _
  · show (if _ then _ else _) = if content.take position ++
      slice content position (nextLength content position req.clientNetType) = content then _
      else _
    rw [whole]
    congr 1
    rw [List.take_eq_self_iff]
    apply propext
    omega

/-- What was received after the response. -/
theorem received_nextResponse (state : FileState File) (responses : List FileMsg)
    (before : received responses = content.take position) (req : DownloadReq) :
    received (responses ++ [state.nextResponse content position req]) =
      if position + nextLength content position req.clientNetType = content.length then []
      else content.take (position + nextLength content position req.clientNetType) := by
  rw [received_concat, before]
  unfold nextResponse
  simp only
  by_cases ends : position + nextLength content position req.clientNetType = content.length
  · rw [if_pos ends, if_pos ends, if_pos rfl]
  · rw [if_neg ends, if_neg ends, if_neg (by decide)]
    exact List.take_add.symm

/-! ### The directory -/

/-- The directory of the session and of the manager stay what they are. -/
structure SameBase (before after : FileState File) : Prop where
  session : after.session.strFileBaseDir = before.session.strFileBaseDir
  manager : after.manager.basepath = before.manager.basepath

namespace SameBase

theorem trans {before middle after : FileState File} (first : SameBase before middle)
    (second : SameBase middle after) : SameBase before after :=
  ⟨second.session.trans first.session, second.manager.trans first.manager⟩

theorem resetFile (state : FileState File) : SameBase state state.resetFile :=
  ⟨resetFile_baseDir state, congrArg FileManager.basepath (resetFile_manager state)⟩

theorem isFileExsit (fileOf : Name → File) (state : FileState File) (filemd5 : Name)
    (calls : Calls) : SameBase state (state.isFileExsit fileOf filemd5 calls).2 := by
  refine ⟨rfl, ?_⟩
  show (state.manager.isFileExsit fileOf _ _ _).2.basepath = _
  unfold FileManager.isFileExsit
  split
  · rfl
  · split <;> rfl

theorem uploadResp (state : FileState File) (req : UploadReq) :
    SameBase state (state.uploadResp req).2 := by
  unfold FileState.uploadResp
  simp only
  split
  · have added : SameBase state { state with manager := state.manager.addFile req.filemd5 } :=
      ⟨rfl, rfl⟩
    exact added.trans (resetFile _)
  · exact ⟨rfl, rfl⟩

theorem sendChunk (state : FileState File) (fp : Nat) (req : DownloadReq) (calls : Calls) :
    SameBase state (state.sendChunk fp req calls).2 := by
  unfold FileState.sendChunk
  simp only
  split
  · exact ⟨rfl, rfl⟩
  · split
    · show SameBase state (FileState.resetFile _)
      refine SameBase.trans ?_ (resetFile _)
      exact ⟨rfl, rfl⟩
    · exact ⟨rfl, rfl⟩

theorem openDownload (fileOf : Name → File) (state : FileState File) (filemd5 : Name)
    (calls : Calls) : SameBase state (state.openDownload fileOf filemd5 calls).2 := by
  have cases := openDownload_cases fileOf state filemd5 calls
  generalize state.openDownload fileOf filemd5 calls = result at cases ⊢
  cases cases <;> exact ⟨rfl, rfl⟩

theorem download (fileOf : Name → File) (state : FileState File) (req : DownloadReq)
    (calls : Calls) : SameBase state (state.onDownloadFileResponse fileOf req calls).2 := by
  have found := isFileExsit fileOf state req.filemd5 calls
  unfold FileState.onDownloadFileResponse
  split
  · exact ⟨rfl, rfl⟩
  · simp only
    split
    · exact found
    · split
      · exact found.trans (sendChunk _ _ req calls)
      · have opened := found.trans (openDownload fileOf _ req.filemd5 calls)
        split
        · exact opened.trans (sendChunk _ _ req calls)
        · exact opened

variable [DecidableEq File]

theorem writeChunk (state : FileState File) (fp : Nat) (req : UploadReq) (calls : Calls) :
    SameBase state (state.writeChunk fp req calls).2 := by
  have stdio : ∀ stdio, SameBase state { state with stdio := stdio } := fun _ => ⟨rfl, rfl⟩
  unfold FileState.writeChunk
  simp only
  split
  · exact (stdio _).trans (resetFile _)
  · split
    · exact (stdio _).trans (resetFile _)
    · split
      · exact stdio _
      · exact (stdio _).trans (uploadResp _ req)

theorem upload (fileOf : Name → File) (state : FileState File) (req : UploadReq)
    (calls : Calls) : SameBase state (state.onUploadFileResponse fileOf req calls).2 := by
  have found := isFileExsit fileOf state req.filemd5 calls
  unfold FileState.onUploadFileResponse
  split
  · exact ⟨rfl, rfl⟩
  · simp only
    split
    · exact found
    · split
      · rw [firstChunk_eq]
        split
        · refine SameBase.trans ?_ (writeChunk _ _ req calls)
          exact found.trans ⟨rfl, rfl⟩
        · exact found.trans ⟨rfl, rfl⟩
      · unfold laterChunk
        split
        · exact found
        · exact found.trans (writeChunk _ _ req calls)

theorem step (fileOf : Name → File) (state : FileState File) (event : Request × Calls) :
    SameBase state (state.step fileOf event) := by
  have named : ∀ seq, SameBase state { state with session := { state.session with seq := seq } } :=
    fun _ => ⟨rfl, rfl⟩
  unfold FileState.step FileState.process
  cases event.1 with
  | upload req =>
      simp only
      split
      · exact named req.seq
      · exact (named req.seq).trans (upload fileOf _ req event.2)
  | download req =>
      simp only
      split
      · exact named req.seq
      · exact (named req.seq).trans (download fileOf _ req event.2)

end SameBase

/-! ### A stored file -/

theorem pathOf_cStr (baseDir filename : Name) :
    pathOf baseDir (cStr filename) = pathOf baseDir filename := by
  unfold pathOf
  unfold cStr
  rw [List.takeWhile_append, List.takeWhile_append]
  split
  · rw [List.takeWhile_idem]
  · rfl

/-- A file that can be opened is found. -/
theorem isFileExsit_of_onDisk {fileOf : Name → File}
    (base : state.manager.basepath = state.session.strFileBaseDir) {filemd5 : Name}
    (onDisk : state.stdio.disk (state.fileNamed fileOf filemd5) = some content) {calls : Calls}
    (probe : calls.probe = true) : (state.isFileExsit fileOf filemd5 calls).1 = true := by
  show (state.manager.isFileExsit fileOf state.stdio.disk filemd5 calls.probe).1 = true
  unfold FileManager.isFileExsit
  split
  · rfl
  · rw [base, pathOf_cStr]
    unfold fileNamed at onDisk
    rw [onDisk, probe]
    rfl

/-- A request that leaves the stream changes neither it nor what the session knows of it. -/
theorem Streaming.step_leaves [DecidableEq File] {fileOf : Name → File}
    (streaming : state.Streaming file content position fp) {event : Request × Calls}
    (leaves : state.LeavesStream fileOf event.2 event.1) :
    (state.step fileOf event).Streaming file content position fp := by
  have named : ∀ seq manager, FileState.Streaming
      { state with session := { state.session with seq := seq }, manager := manager }
      file content position fp :=
    fun _ _ => ⟨streaming.opened, streaming.stream, streaming.onDisk, streaming.offset,
      streaming.size⟩
  obtain ⟨request, calls⟩ := event
  unfold FileState.step
  cases request with
  | upload req =>
      by_cases empty : req.filemd5 = []
      · unfold process
        simp only [empty, if_true]
        exact named req.seq state.manager
      · rw [process_upload fileOf state empty calls, if_pos (leaves.resolve_left empty)]
        exact named req.seq _
  | download req =>
      unfold process
      by_cases empty : req.filemd5 = []
      · simp only [empty, if_true]
        exact named req.seq state.manager
      · have absent : (({ state with session := { state.session with seq := req.seq } } :
            FileState File).isFileExsit fileOf req.filemd5 calls).1 = false :=
          leaves.resolve_left empty
        unfold onDownloadFileResponse
        simp only [empty, if_false, absent, if_true]
        exact named req.seq _

end FileState

/-! ### The result -/

namespace DownloadRun

open FileState

variable {File : Type} [DecidableEq File] {fileOf : Name → File} {name : Name}
  {content : Bytes} {current : DownloadRun File}

/-- The file is there, its responses are in order, and while a download of it is under way
the stream is where the responses ended. -/
structure Serving (fileOf : Name → File) (name : Name) (content : Bytes)
    (current : DownloadRun File) : Prop where
  base : current.state.manager.basepath = current.state.session.strFileBaseDir
  onDisk : current.state.stdio.disk (current.state.fileNamed fileOf name) = some content
  inOrder : InOrder content current.responses
  underWay : received current.responses ≠ [] →
    (received current.responses).length < content.length ∧
    ∃ fp, current.state.Streaming (current.state.fileNamed fileOf name) content
      (received current.responses).length fp

omit [DecidableEq File] in
theorem Serving.start {manager : FileManager} {disk : File → Option Bytes}
    (stored : disk (fileOf (pathOf manager.basepath name)) = some content) :
    Serving fileOf name content (DownloadRun.start manager disk) := by
  refine ⟨rfl, stored, ?_, fun started => absurd rfl started⟩
  intro before resp isPrefix
  simp [DownloadRun.start] at isPrefix

omit [DecidableEq File] in
/-- A stream on the file at the place where its responses ended. -/
theorem Serving.respond (serving : Serving fileOf name content current)
    (small : content.length ≤ 2 ^ 31) {state : FileState File}
    (same : SameBase current.state state) {fp : Nat}
    (streaming : state.Streaming (current.state.fileNamed fileOf name) content
      (received current.responses).length fp)
    (inside : (received current.responses).length < content.length) {req : DownloadReq}
    {calls : Calls} (reads : calls.fread = none) :
    Serving fileOf name content
      ⟨(state.sendChunk fp req calls).2,
        current.responses ++ (state.sendChunk fp req calls).1.sent⟩ := by
  have before := List.prefix_iff_eq_take.mp serving.inOrder.received_prefix
  have after := same.trans (SameBase.sendChunk state fp req calls)
  have own : (state.sendChunk fp req calls).2.fileNamed fileOf name =
      current.state.fileNamed fileOf name := by
    unfold fileNamed
    rw [after.session]
  have base := serving.base
  rw [← after.session, ← after.manager] at base
  rw [streaming.sendChunk inside small req reads] at own base ⊢
  have next := state.nextResponse_nextChunk inside req
  rw [← before] at next
  have progress := state.received_nextResponse current.responses before req
  have least := nextLength_le inside req.clientNetType
  refine ⟨base, ?_, serving.inOrder.concat next, ?_⟩
  · refine (congrArg _ own).trans ?_
    simp only
    split
    · rw [resetFile_disk]
      exact streaming.onDisk
    · exact streaming.onDisk
  · intro started
    simp only at started own ⊢
    rw [progress] at started ⊢
    rw [own]
    by_cases ends : (received current.responses).length +
        nextLength content (received current.responses).length req.clientNetType = content.length
    · rw [if_pos ends] at started
      exact absurd rfl started
    · rw [if_neg ends, if_neg ends, List.length_take, Nat.min_eq_left least]
      exact ⟨by omega, fp, streaming.afterChunk req⟩

/-- A download that sends the next chunk of a stream is served. -/
theorem Serving.step_of_sendChunk (serving : Serving fileOf name content current)
    (small : content.length ≤ 2 ^ 31) {req : DownloadReq} (own : req.filemd5 = name)
    {calls : Calls} (reads : calls.fread = none) {after : FileState File} {fp : Nat}
    (same : SameBase current.state after)
    (streaming : after.Streaming (current.state.fileNamed fileOf name) content
      (received current.responses).length fp)
    (inside : (received current.responses).length < content.length)
    (result : current.state.process fileOf (.download req) calls = after.sendChunk fp req calls) :
    Serving fileOf name content (current.step fileOf name (.download req, calls)) := by
  unfold DownloadRun.step
  simp only [own, if_true, result]
  exact serving.respond small same streaming inside reads

/-- A download of the file sends from the place where its responses ended. -/
theorem Serving.sends (serving : Serving fileOf name content current) (named : name ≠ [])
    (nonempty : content ≠ []) {req : DownloadReq} (own : req.filemd5 = name) {calls : Calls}
    (delivers : calls.Delivers)
    (rests : received current.responses = [] → current.state.session.fp = none ∧
      current.state.session.currentDownloadFileOffset = 0) :
    ∃ after fp, SameBase current.state after ∧
      after.Streaming (current.state.fileNamed fileOf name) content
        (received current.responses).length fp ∧
      (received current.responses).length < content.length ∧
      current.state.process fileOf (.download req) calls = after.sendChunk fp req calls := by
  obtain ⟨probe, opens, seeks, tells, rewinds, _⟩ := delivers
  have requested : req.filemd5 ≠ [] := own ▸ named
  have found : (current.state.isFileExsit fileOf req.filemd5 calls).1 = true := by
    rw [own]
    exact isFileExsit_of_onDisk serving.base serving.onDisk probe
  have kind := process_download fileOf current.state requested calls
  simp only [found, Bool.true_eq_false, if_false] at kind
  generalize located : current.state.located fileOf req.seq req.filemd5 calls = state at kind
  have same : SameBase current.state state := by
    rw [← located]
    refine SameBase.trans ?_ (SameBase.isFileExsit fileOf _ req.filemd5 calls)
    exact ⟨rfl, rfl⟩
  have stdio : state.stdio = current.state.stdio := by
    rw [← located]
    rfl
  have session : state.session = { current.state.session with seq := req.seq } := by
    rw [← located]
    rfl
  by_cases started : received current.responses = []
  · obtain ⟨closed, atStart⟩ := rests started
    rw [closed] at kind
    have cases := openDownload_cases fileOf state req.filemd5 calls
    have fileNamed : state.fileNamed fileOf req.filemd5 = current.state.fileNamed fileOf name := by
      unfold FileState.fileNamed
      rw [same.session, own]
    generalize state.openDownload fileOf req.filemd5 calls = result at cases kind
    cases cases with
    | unopened stays =>
        rw [stdio, fileNamed, serving.onDisk] at stays
        exact absurd ⟨opens, rfl⟩ stays
    | failed _ there unmeasured _ =>
        rw [stdio, fileNamed, serving.onDisk] at there
        cases there
        exact absurd ⟨seeks, tells, nonempty, rewinds⟩ unmeasured
    | @opened _ after _ there _ _ disk stream =>
        rw [stdio, fileNamed, serving.onDisk] at there
        cases there
        simp only at kind
        refine ⟨_, _, same.trans ?_, ⟨rfl, ?_, ?_, ?_, rfl⟩, ?_, kind⟩
        · exact ⟨rfl, rfl⟩
        · rw [started, ← fileNamed]
          exact stream
        · show after.disk _ = _
          rw [disk, stdio]
          exact serving.onDisk
        · show state.session.currentDownloadFileOffset = _
          rw [session, started]
          exact atStart
        · rw [started]
          exact List.length_pos_iff.mpr nonempty
  · obtain ⟨inside, fp, streaming⟩ := serving.underWay started
    rw [streaming.opened] at kind
    refine ⟨_, _, same, ⟨?_, ?_, ?_, ?_, ?_⟩, inside, kind⟩
    · rw [session]
      exact streaming.opened
    · rw [stdio]
      exact streaming.stream
    · rw [stdio]
      exact streaming.onDisk
    · rw [session]
      exact streaming.offset
    · rw [session]
      exact streaming.size

/-- A download of the file is served. -/
theorem Serving.download (serving : Serving fileOf name content current) (named : name ≠ [])
    (nonempty : content ≠ []) (small : content.length ≤ 2 ^ 31) {req : DownloadReq}
    (own : req.filemd5 = name) {calls : Calls} (delivers : calls.Delivers)
    (rests : received current.responses = [] → current.state.session.fp = none ∧
      current.state.session.currentDownloadFileOffset = 0) :
    Serving fileOf name content (current.step fileOf name (.download req, calls)) := by
  obtain ⟨after, fp, same, streaming, inside, result⟩ :=
    serving.sends named nonempty own delivers rests
  exact serving.step_of_sendChunk small own delivers.2.2.2.2.2 same streaming inside result

/-- Another request leaves what is served. -/
theorem Serving.other (serving : Serving fileOf name content current) {event : Request × Calls}
    (leaves : current.OtherLeaves fileOf name event) :
    Serving fileOf name content ⟨current.state.step fileOf event, current.responses⟩ := by
  have same := SameBase.step fileOf current.state event
  have own : (current.state.step fileOf event).fileNamed fileOf name =
      current.state.fileNamed fileOf name := by
    unfold fileNamed
    rw [same.session]
  have base := serving.base
  rw [← same.session, ← same.manager] at base
  unfold OtherLeaves at leaves
  by_cases started : received current.responses = []
  · rw [if_pos started] at leaves
    refine ⟨base, ?_, serving.inOrder, fun under => absurd started under⟩
    simp only
    rw [own, leaves]
    exact serving.onDisk
  · rw [if_neg started] at leaves
    obtain ⟨inside, fp, streaming⟩ := serving.underWay started
    have after := streaming.step_leaves leaves
    refine ⟨base, ?_, serving.inOrder, fun _ => ⟨inside, fp, ?_⟩⟩
    · simp only
      rw [own]
      exact after.onDisk
    · simp only
      rw [own]
      exact after

theorem Serving.step (serving : Serving fileOf name content current) (named : name ≠ [])
    (nonempty : content ≠ []) (small : content.length ≤ 2 ^ 31) {event : Request × Calls}
    (undisturbed : current.Undisturbed fileOf name event) :
    Serving fileOf name content (current.step fileOf name event) := by
  obtain ⟨request, calls⟩ := event
  unfold Undisturbed at undisturbed
  cases request with
  | upload req => exact serving.other undisturbed
  | download req =>
      by_cases own : req.filemd5 = name
      · simp only [own, if_true] at undisturbed
        exact serving.download named nonempty small own undisturbed.1 undisturbed.2
      · simp only [own, if_false] at undisturbed
        have after := serving.other undisturbed
        unfold DownloadRun.step
        simp only [own, if_false]
        exact after

theorem downloads_in_order {manager : FileManager} {disk : File → Option Bytes}
    (named : name ≠ []) (stored : disk (fileOf (pathOf manager.basepath name)) = some content)
    (nonempty : content ≠ []) (small : content.length ≤ 2 ^ 31)
    (reached : Reach (step fileOf name) (Undisturbed fileOf name) (start manager disk) current) :
    InOrder content current.responses ∧ received current.responses <+: content := by
  have serving : Serving fileOf name content current :=
    Reach.invariant (Serving fileOf name content) (Serving.start stored)
      (fun _ _ serving undisturbed => serving.step named nonempty small undisturbed) reached
  exact ⟨serving.inOrder, serving.inOrder.received_prefix⟩

/-! ### A file of two chunks -/

/-- A download changes the manager by looking for the file only. -/
theorem process_download_manager (state : FileState File) {req : DownloadReq}
    (requested : req.filemd5 ≠ []) (calls : Calls) :
    (state.process fileOf (.download req) calls).2.manager =
      (state.located fileOf req.seq req.filemd5 calls).manager := by
  have sent (state : FileState File) (fp : Nat) :
      (state.sendChunk fp req calls).2.manager = state.manager := by
    unfold FileState.sendChunk
    simp only
    split
    · rfl
    · split
      · exact resetFile_manager _
      · rfl
  have opens (state : FileState File) :
      (state.openDownload fileOf req.filemd5 calls).2.manager = state.manager := by
    have cases := openDownload_cases fileOf state req.filemd5 calls
    generalize state.openDownload fileOf req.filemd5 calls = result at cases ⊢
    cases cases <;> rfl
  rw [process_download fileOf state requested calls]
  simp only
  split
  · rfl
  · split
    · exact sent _ _
    · split
      · exact (sent _ _).trans (opens _)
      · exact opens _

/-- The first chunk of a file that has more. -/
theorem received_first {manager : FileManager} {disk : File → Option Bytes} (named : name ≠ [])
    (stored : disk (fileOf (pathOf manager.basepath name)) = some content)
    (small : content.length ≤ 2 ^ 31) {req : DownloadReq} (own : req.filemd5 = name)
    {calls : Calls} (delivers : calls.Delivers)
    (more : (chunkSize req.clientNetType).toNat < content.length) :
    received (step fileOf name (start manager disk) (.download req, calls)).responses =
      content.take (chunkSize req.clientNetType).toNat := by
  have nonempty : content ≠ [] := List.ne_nil_of_length_pos (by omega)
  obtain ⟨after, fp, _, streaming, inside, result⟩ :=
    (Serving.start stored).sends named nonempty own delivers fun _ => ⟨rfl, rfl⟩
  have size : nextLength content 0 req.clientNetType = (chunkSize req.clientNetType).toNat := by
    unfold nextLength
    omega
  have progress := @received_nextResponse _ content 0 after (start manager disk).responses rfl req
  unfold DownloadRun.step
  simp only [own, if_true, result, streaming.sendChunk inside small req delivers.2.2.2.2.2]
  refine progress.trans ?_
  rw [size, Nat.zero_add, if_neg (by omega)]

/-- The file is asked for twice, and another file between. -/
def twoChunks : List (Request × Calls) :=
  [(.download ⟨1, [1], clientNetTypeCellular⟩, .succeed),
    (.download ⟨2, [9], clientNetTypeCellular⟩, { Calls.succeed with probe := false }),
    (.download ⟨3, [1], clientNetTypeCellular⟩, .succeed)]

/-- The file is the only one. -/
def oneFile (content : Bytes) : DownloadRun Name :=
  start (.init [] [[1]]) fun file => if file = [1] then some content else none

theorem undisturbed_twoChunks {content : Bytes} (more : 64 * 1024 < content.length)
    (small : content.length ≤ 2 ^ 31) :
    Meets (step id [1]) (Undisturbed id [1]) (oneFile content) twoChunks := by
  have delivers : Calls.succeed.Delivers := ⟨rfl, rfl, rfl, rfl, rfl, rfl⟩
  have first := @received_first Name _ id [1] content (.init [] [[1]])
    (fun file => if file = [1] then some content else none) (by decide) rfl small
    ⟨1, [1], clientNetTypeCellular⟩ rfl .succeed delivers more
  have started : received (step id [1] (oneFile content)
      (.download ⟨1, [1], clientNetTypeCellular⟩, .succeed)).responses ≠ [] := by
    unfold oneFile
    rw [first]
    intro empty
    have size := congrArg List.length empty
    rw [List.length_take] at size
    change min 65536 content.length = 0 at size
    omega
  have manager := @process_download_manager Name _ id (oneFile content).state
    ⟨1, [1], clientNetTypeCellular⟩ (by decide) .succeed
  refine ⟨⟨delivers, fun _ => ⟨rfl, rfl⟩⟩, ?_, ⟨delivers, fun rests => absurd rests started⟩,
    trivial⟩
  show OtherLeaves id [1] _ _
  unfold OtherLeaves
  rw [if_neg started]
  refine .inr ?_
  show (FileManager.isFileExsit id ((oneFile content).state.process id _ _).2.manager _ _ _).1 = _
  rw [manager]
  rfl

/-- A file of 100000 bytes over a cellular network, in two chunks. -/
theorem two_chunks_in_order :
    let content : Bytes := List.replicate 100000 7
    InOrder content (run (step id [1]) (oneFile content) twoChunks).responses ∧
      received (run (step id [1]) (oneFile content) twoChunks).responses <+: content := by
  intro content
  have size : content.length = 100000 := List.length_replicate
  have undisturbed : Meets (step id [1]) (Undisturbed id [1]) (oneFile content) twoChunks :=
    undisturbed_twoChunks (by omega) (by omega)
  exact downloads_in_order (by decide) rfl (List.ne_nil_of_length_pos (by omega)) (by omega)
    (reach_run twoChunks undisturbed)

/-! ### A file of one byte -/

/-- The file is asked for twice. -/
def twoDownloads : List (Request × Calls) :=
  [(.download ⟨1, [1], 0⟩, Calls.succeed), (.download ⟨2, [1], 1⟩, Calls.succeed)]

/-- The second request starts the file again. -/
theorem two_downloads_repeat :
    Reach (step id [1]) (fun _ _ => True) (oneFile [7])
        (run (step id [1]) (oneFile [7]) twoDownloads) ∧
      ¬((run (step id [1]) (oneFile [7]) twoDownloads).responses.flatMap FileMsg.filedata <+:
        [7]) :=
  ⟨reach_run _ ⟨trivial, trivial, trivial⟩, by decide⟩

end DownloadRun

end AChat.FileServer
