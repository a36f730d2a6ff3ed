import AChat.FileServer.SessionIsolation

/-!
Contract: a file that one session uploads is the file that a session downloads.

The file goes up in consecutive parts and comes down in chunks, and between any two of these
requests the other connections of the server may do anything that leaves the file on the disk as
it is and does not erase the session.

Owns:
- the upload of a file by one session of the server, part after part;
- the download of it by a session that asks until it is told that the file is complete, and how
  often it has to ask.

Does not own: calls of the C library that fail in the requests of these two sessions.
-/

namespace AChat.FileServer

open Lib

/-- Data that is written at the end of a file. -/
theorem writeAt_end {content data : Bytes} (occupied : data ≠ []) :
    writeAt content content.length data = content ++ data := by
  unfold writeAt
  rw [if_neg occupied, Nat.sub_self, List.replicate_zero, List.append_nil, List.take_length,
    List.drop_eq_nil_of_le (Nat.le_add_right ..), List.append_nil]

/-- The calls of an upload all succeed. -/
def Calls.Stores (calls : Calls) : Prop :=
  calls.fopen = true ∧ calls.fseek = true ∧ calls.fwrite = none ∧ calls.fflush = true

/-- The request carries the part of the file after these bytes. -/
structure NextPart (name : Name) (content before : Bytes) (req : UploadReq) : Prop where
  filemd5 : req.filemd5 = name
  offset : req.offset = before.length
  filesize : req.filesize = content.length
  occupied : req.filedata ≠ []
  isPrefix : before ++ req.filedata <+: content

theorem NextPart.writes {name : Name} {content before : Bytes} {req : UploadReq}
    (next : NextPart name content before req) {calls : Calls} (stores : calls.Stores) :
    calls.Writes req := by
  obtain ⟨_, seeks, writes, _⟩ := stores
  refine ⟨⟨seeks, ?_⟩, ?_⟩
  · rw [next.offset]
    exact Int.natCast_nonneg _
  · rw [writes]
    exact Nat.le_refl _

/-- The part ends at the size of the file exactly when it is the last one. -/
theorem NextPart.ends_iff {name : Name} {content before : Bytes} {req : UploadReq}
    (next : NextPart name content before req) (small : content.length < 2 ^ 63) :
    FileState.addInt64 req.offset req.filedata.length = req.filesize ↔
      before ++ req.filedata = content := by
  have least := next.isPrefix.length_le
  rw [List.length_append] at least
  have sum : FileState.addInt64 req.offset req.filedata.length =
      (before.length + req.filedata.length : Nat) := by
    rw [next.offset]
    unfold FileState.addInt64 Int.bmod
    simp only
    split <;> omega
  rw [sum, next.filesize, Int.natCast_inj, ← List.length_append]
  exact ⟨fun size => next.isPrefix.eq_of_length size, fun whole => congrArg List.length whole⟩

namespace FileState

variable {File : Type}

/-! ### One session -/

/-- The session has the file open for writing, and this much of it is there. -/
structure Writing (state : FileState File) (file : File) (uploaded : Bytes) : Prop where
  uploading : state.session.bFileUploading = true
  opened : ∃ fp stream, state.session.fp = some fp ∧ state.stdio.streams fp = some stream ∧
    stream.file = file
  onDisk : state.stdio.disk file = some uploaded

/-- The session is done with the file, which is there. -/
structure Uploaded (state : FileState File) (file : File) (content : Bytes) : Prop where
  uploading : state.session.bFileUploading = false
  closed : state.session.fp = none
  offset : state.session.currentDownloadFileOffset = 0
  onDisk : state.stdio.disk file = some content

/-- What an upload has come to after these bytes. -/
def Stored (state : FileState File) (file : File) (content uploaded : Bytes) : Prop :=
  if uploaded = content then state.Uploaded file content else state.Writing file uploaded

variable [DecidableEq File] {fileOf : Name → File} {state : FileState File} {name : Name}
  {content before : Bytes} {req : UploadReq} {calls : Calls}

theorem stored_writeChunk {fp : Nat} {stream : Stream File} (own : state.session.fp = some fp)
    (found : state.stdio.streams fp = some stream)
    (onDisk : state.stdio.disk stream.file = some before)
    (uploading : state.session.bFileUploading = true) (next : NextPart name content before req)
    (stores : calls.Stores) (small : content.length < 2 ^ 63) :
    (state.writeChunk fp req calls).2.Stored stream.file content (before ++ req.filedata) := by
  have cases := state.writeChunk_cases found req calls
  generalize state.writeChunk fp req calls = result at cases ⊢
  cases cases with
  | aborted fails _ => exact absurd (next.writes stores) fails
  | unflushed _ fails _ => exact absurd (fails.symm.trans stores.2.2.2) (by decide)
  | @written stdio _ _ uses disk =>
      have there : stdio.disk stream.file = some (before ++ req.filedata) := by
        rw [disk, Function.update_self, onDisk, next.offset, Int.toNat_natCast, Option.getD_some,
          writeAt_end next.occupied]
      unfold Stored uploadResp
      simp only [next.ends_iff small]
      by_cases whole : before ++ req.filedata = content
      · rw [if_pos whole, if_pos whole]
        refine ⟨?_, ?_, ?_, ?_⟩
        · simp [resetFile, own]
        · simp [resetFile, own]
        · simp [resetFile, own]
        · rw [resetFile_disk]
          exact whole ▸ there
      · rw [if_neg whole, if_neg whole]
        have files := uses.files fp
        rw [found] at files
        obtain ⟨after, entry, same⟩ := Option.map_eq_some_iff.mp files
        exact ⟨uploading, ⟨fp, after, own, entry, same⟩, there⟩

/-- The first part, of a file that is not known yet. -/
theorem stored_first (named : name ≠ []) (next : NextPart name content [] req)
    (stores : calls.Stores) (small : content.length < 2 ^ 63)
    (unknown : ¬state.AnsweredPresent fileOf name calls) :
    (state.process fileOf (.upload req) calls).2.Stored (state.fileNamed fileOf name) content
      req.filedata := by
  have requested : req.filemd5 ≠ [] := next.filemd5 ▸ named
  have atStart : req.offset = 0 := next.offset
  rw [process_upload fileOf state requested calls, next.filemd5, if_neg unknown,
    if_pos atStart, firstChunk_eq, if_pos stores.1, next.filemd5]
  generalize located : state.located fileOf req.seq name calls = after
  have file : after.fileNamed fileOf name = state.fileNamed fileOf name := by
    rw [← located]
    rfl
  rw [← file]
  have opened : (after.openedForWrite fileOf name).stdio.disk (after.fileNamed fileOf name) =
      some [] := by
    simp [openedForWrite, Stdio.opens]
  exact stored_writeChunk rfl (openedForWrite_stream fileOf after name) opened rfl next stores
    small

/-- A later part, of the file that the session has open. -/
theorem stored_later (named : name ≠ []) (occupied : before ≠ [])
    (next : NextPart name content before req) (stores : calls.Stores)
    (small : content.length < 2 ^ 63)
    (writing : state.Writing (state.fileNamed fileOf name) before) :
    (state.process fileOf (.upload req) calls).2.Stored (state.fileNamed fileOf name) content
      (before ++ req.filedata) := by
  have requested : req.filemd5 ≠ [] := next.filemd5 ▸ named
  have busy : ¬state.AnsweredPresent fileOf name calls := by
    intro answered
    exact absurd (writing.uploading.symm.trans answered.2) (by decide)
  have inside : req.offset ≠ 0 := by
    rw [next.offset]
    have positive := List.length_pos_iff.mpr occupied
    omega
  obtain ⟨fp, stream, own, found, file⟩ := writing.opened
  rw [process_upload fileOf state requested calls, next.filemd5, if_neg busy, if_neg inside]
  unfold laterChunk
  simp only [located_fp, own]
  have onDisk := writing.onDisk
  rw [← file] at onDisk ⊢
  exact stored_writeChunk own found onDisk writing.uploading next stores small

omit [DecidableEq File] in
/-- Nothing but the session, its stream and the file matters. -/
theorem Stored.congr {after : FileState File} {file : File} {uploaded : Bytes}
    (stored : state.Stored file content uploaded) (session : after.session = state.session)
    (streams : ∀ fp, state.session.fp = some fp →
      after.stdio.streams fp = state.stdio.streams fp)
    (disk : after.stdio.disk file = state.stdio.disk file) :
    after.Stored file content uploaded := by
  unfold Stored at stored ⊢
  split at stored
  · rename_i whole
    rw [if_pos whole]
    exact ⟨session ▸ stored.uploading, session ▸ stored.closed, session ▸ stored.offset,
      disk.trans stored.onDisk⟩
  · rename_i part
    rw [if_neg part]
    obtain ⟨fp, stream, own, found, same⟩ := stored.opened
    exact ⟨session ▸ stored.uploading,
      ⟨fp, stream, session ▸ own, (streams fp own).trans found, same⟩,
      disk.trans stored.onDisk⟩

end FileState

/-- The file that a name stands for in the sessions of the server. -/
def ServerState.fileNamed {File : Type} (fileOf : Name → File) (server : ServerState File)
    (name : Name) : File :=
  fileOf (pathOf server.fileBaseDir name)

theorem ServerState.Isolation.fileNamed {File : Type} {fileOf : Name → File}
    {server : ServerState File} (isolation : server.Isolation) {id : Nat} {session : FileSession}
    (found : server.sessions id = some session) (name : Name) :
    (server.stateOf session).fileNamed fileOf name = server.fileNamed fileOf name :=
  congrArg (fun directory => fileOf (pathOf directory name)) (isolation.baseDir id session found)

/-! ### The upload -/

/-- A server, and how much of the file its uploading session has sent. -/
structure UploadRun (File : Type) where
  server : ServerState File
  uploaded : Bytes

namespace UploadRun

variable {File : Type} [DecidableEq File] (fileOf : Name → File) (uploader : Nat) (name : Name)
  (content : Bytes)

def step (current : UploadRun File) (event : ServerEvent) : UploadRun File where
  server := current.server.step fileOf event
  uploaded :=
    match event with
    | .request id (.upload req) _ =>
        if id = uploader then current.uploaded ++ req.filedata else current.uploaded
    | _ => current.uploaded

/-- The session sends the next part, the first one when the file is not known yet. -/
def SendsPart (current : UploadRun File) (event : ServerEvent) : Prop :=
  ∃ req calls, event = .request uploader (.upload req) calls ∧
    NextPart name content current.uploaded req ∧ calls.Stores ∧
    (current.uploaded = [] → ∀ session, current.server.sessions uploader = some session →
      ¬(current.server.stateOf session).AnsweredPresent fileOf name calls)

/-- Something that is not done by the session leaves the file, once its upload has begun. -/
def LeavesFile (current : UploadRun File) (event : ServerEvent) : Prop :=
  current.server.Spares uploader event ∧
    (current.uploaded ≠ [] →
      (current.server.step fileOf event).stdio.disk (current.server.fileNamed fileOf name) =
        current.server.stdio.disk (current.server.fileNamed fileOf name))

def Regular (current : UploadRun File) (event : ServerEvent) : Prop :=
  current.SendsPart fileOf uploader name content event ∨
    current.LeavesFile fileOf uploader name event

variable {fileOf uploader name content} {current : UploadRun File} {event : ServerEvent}

/-- The session is there, and has what was sent so far on the disk. -/
structure Sending (fileOf : Name → File) (uploader : Nat) (name : Name) (content : Bytes)
    (current : UploadRun File) : Prop where
  isolation : current.server.Isolation
  session : ∃ session, current.server.sessions uploader = some session ∧
    (current.uploaded ≠ [] →
      (current.server.stateOf session).Stored (current.server.fileNamed fileOf name) content
        current.uploaded)

theorem Sending.part (sending : Sending fileOf uploader name content current) (named : name ≠ [])
    (small : content.length < 2 ^ 63)
    (sends : current.SendsPart fileOf uploader name content event) :
    Sending fileOf uploader name content (current.step fileOf uploader event) := by
  obtain ⟨req, calls, rfl, next, stores, first⟩ := sends
  obtain ⟨session, found, stored⟩ := sending.session
  have file := @ServerState.Isolation.fileNamed _ fileOf _ sending.isolation _ _ found name
  refine ⟨@ServerState.Isolation.step _ _ fileOf _ sending.isolation
    (.request uploader (.upload req) calls), ?_⟩
  have entry : (current.step fileOf uploader (.request uploader (.upload req) calls)).server =
      current.server.handle fileOf uploader session (.upload req) calls :=
    ServerState.step_request found _ _
  have grown : (current.step fileOf uploader (.request uploader (.upload req) calls)).uploaded =
      current.uploaded ++ req.filedata := if_pos rfl
  rw [entry, grown]
  refine ⟨_, Function.update_self .., fun _ => ?_⟩
  show ((current.server.stateOf session).process fileOf (.upload req) calls).2.Stored
    (current.server.fileNamed fileOf name) content _
  rw [← file]
  by_cases begun : current.uploaded = []
  · rw [begun] at next ⊢
    exact FileState.stored_first named next stores small (first begun session found)
  · have unfinished : current.uploaded ≠ content := by
      intro whole
      have least := next.isPrefix.length_le
      have positive := List.length_pos_iff.mpr next.occupied
      rw [List.length_append, whole] at least
      omega
    have writing := stored begun
    unfold FileState.Stored at writing
    rw [if_neg unfinished, ← file] at writing
    exact FileState.stored_later named begun next stores small writing

theorem Sending.other (sending : Sending fileOf uploader name content current)
    (leaves : current.LeavesFile fileOf uploader name event) :
    Sending fileOf uploader name content (current.step fileOf uploader event) := by
  obtain ⟨spared, kept⟩ := leaves
  obtain ⟨session, found, stored⟩ := sending.session
  have stays : (current.server.step fileOf event).sessions uploader = some session :=
    (ServerState.sessions_step found spared.1).2 spared.2
  obtain ⟨directory, streams⟩ :=
    @ServerState.Isolation.byAnother _ _ fileOf _ _ _ sending.isolation found _ spared.1
  have unsent : (current.step fileOf uploader event).uploaded = current.uploaded := by
    cases event with
    | request id request calls =>
        cases request with
        | upload req => exact if_neg spared.1.2
        | download req => rfl
    | connect id => rfl
    | disconnect id firstGone => rfl
    | restart entries => rfl
  refine ⟨@ServerState.Isolation.step _ _ fileOf _ sending.isolation _, session, stays, ?_⟩
  rw [unsent]
  intro begun
  have file : (current.step fileOf uploader event).server.fileNamed fileOf name =
      current.server.fileNamed fileOf name :=
    congrArg (fun directory => fileOf (pathOf directory name)) directory
  rw [file]
  exact (stored begun).congr rfl streams (kept begun)

theorem Sending.step (sending : Sending fileOf uploader name content current) (named : name ≠ [])
    (small : content.length < 2 ^ 63)
    (regular : current.Regular fileOf uploader name content event) :
    Sending fileOf uploader name content (current.step fileOf uploader event) := by
  cases regular with
  | inl sends => exact sending.part named small sends
  | inr leaves => exact sending.other leaves

theorem Sending.run (named : name ≠ []) (small : content.length < 2 ^ 63)
    (sending : Sending fileOf uploader name content current) {events : List ServerEvent}
    (regular : Meets (UploadRun.step fileOf uploader) (Regular fileOf uploader name content)
      current events) :
    Sending fileOf uploader name content (Lib.run (UploadRun.step fileOf uploader) current events) :=
  Reach.invariant (Sending fileOf uploader name content) sending
    (fun _ _ sending regular => sending.step named small regular) (reach_run events regular)

end UploadRun

/-! ### The download -/

/-- A server, and how often its downloading session has asked and what it was told. -/
structure AskRun (File : Type) where
  server : ServerState File
  asked : Nat
  responses : List FileMsg

namespace AskRun

variable {File : Type} [DecidableEq File] (fileOf : Name → File) (downloader : Nat) (name : Name)

def step (current : AskRun File) (event : ServerEvent) : AskRun File :=
  let server := current.server.step fileOf event
  match event with
  | .request id request calls =>
      match current.server.sessions id with
      | some session =>
          if id = downloader then
            { server := server
              asked := current.asked + 1
              responses := current.responses ++
                ((current.server.stateOf session).process fileOf request calls).1.sent }
          else { current with server := server }
      | none => { current with server := server }
  | _ => { current with server := server }

/-- The session asks for the file, and was not told yet that it is complete. -/
def Asks (current : AskRun File) (event : ServerEvent) : Prop :=
  ∃ req calls, event = .request downloader (.download req) calls ∧ req.filemd5 = name ∧
    calls.Delivers ∧ ∀ resp ∈ current.responses, resp.errorcode ≠ fileMsgErrorComplete

/-- Something that is not done by the session leaves the file. -/
def LeavesFile (current : AskRun File) (event : ServerEvent) : Prop :=
  current.server.Spares downloader event ∧
    (current.server.step fileOf event).stdio.disk (current.server.fileNamed fileOf name) =
      current.server.stdio.disk (current.server.fileNamed fileOf name)

def Regular (current : AskRun File) (event : ServerEvent) : Prop :=
  current.Asks downloader name event ∨ current.LeavesFile fileOf downloader name event

/-- The session was told that the file is complete and has all of it, or every time it asked it
got at least 64 KiB and has the beginning of it. -/
def Served (content : Bytes) (current : AskRun File) : Prop :=
  if ∃ resp ∈ current.responses, resp.errorcode = fileMsgErrorComplete then
    current.responses.flatMap FileMsg.filedata = content
  else
    current.responses.flatMap FileMsg.filedata <+: content ∧
      64 * 1024 * current.asked < content.length

variable {fileOf downloader name} {content : Bytes} {current : AskRun File} {event : ServerEvent}

/-- What was received is what the responses carry, and the stream is where they ended. -/
structure Asking (fileOf : Name → File) (downloader : Nat) (name : Name) (content : Bytes)
    (current : AskRun File) : Prop where
  isolation : current.server.Isolation
  session : ∃ session, current.server.sessions downloader = some session ∧
    DownloadRun.Serving fileOf name content
      ⟨current.server.stateOf session, current.responses⟩ ∧
    (current.responses = [] →
      session.fp = none ∧ session.currentDownloadFileOffset = 0)
  gathered : (∀ resp ∈ current.responses, resp.errorcode ≠ fileMsgErrorComplete) →
    received current.responses = current.responses.flatMap FileMsg.filedata ∧
      (received current.responses = [] → current.responses = []) ∧
      64 * 1024 * current.asked ≤ (received current.responses).length
  complete : (∃ resp ∈ current.responses, resp.errorcode = fileMsgErrorComplete) →
    current.responses.flatMap FileMsg.filedata = content

omit [DecidableEq File] in
theorem Asking.served (asking : Asking fileOf downloader name content current)
    (nonempty : content ≠ []) : Served content current := by
  unfold Served
  split
  · rename_i told
    exact asking.complete told
  · rename_i untold
    obtain ⟨all, _, atLeast⟩ := asking.gathered fun resp known told => untold ⟨resp, known, told⟩
    obtain ⟨session, _, serving, _⟩ := asking.session
    refine ⟨all ▸ serving.inOrder.received_prefix, ?_⟩
    by_cases started : received current.responses = []
    · rw [started] at atLeast
      have positive := List.length_pos_iff.mpr nonempty
      exact lt_of_le_of_lt atLeast positive
    · exact lt_of_le_of_lt atLeast (serving.underWay started).1

/-- A response that does not end the file carries at least 64 KiB. -/
theorem chunk_le_nextLength {position : Nat} {clientNetType : Int}
    (more : position + FileState.nextLength content position clientNetType ≠ content.length)
    (inside : position < content.length) :
    64 * 1024 ≤ FileState.nextLength content position clientNetType := by
  have chunk : (64 * 1024 : Nat) ≤ (FileState.chunkSize clientNetType).toNat := by
    unfold FileState.chunkSize
    split <;> omega
  unfold FileState.nextLength at more ⊢
  omega

omit [DecidableEq File] in
/-- The next response is on top of what was received. -/
theorem received_next {responses : List FileMsg} (inOrder : InOrder content responses)
    (state : FileState File) (req : DownloadReq)
    (inside : (received responses).length < content.length) :
    let resp := state.nextResponse content (received responses).length req
    if resp.errorcode = fileMsgErrorComplete then received responses ++ resp.filedata = content
    else received (responses ++ [resp]) = received responses ++ resp.filedata ∧
      64 * 1024 ≤ resp.filedata.length := by
  intro resp
  have next := state.nextResponse_nextChunk inside req
  rw [← List.prefix_iff_eq_take.mp inOrder.received_prefix] at next
  have kind := next.errorcode
  split
  · rename_i told
    rw [told] at kind
    by_contra more
    rw [if_neg more] at kind
    exact absurd kind (by decide)
  · rename_i untold
    rw [received_concat, if_neg untold]
    refine ⟨rfl, ?_⟩
    have more : (received responses).length + FileState.nextLength content
        (received responses).length req.clientNetType ≠ content.length :=
      fun ends => untold (if_pos ends)
    have size : resp.filedata.length =
        FileState.nextLength content (received responses).length req.clientNetType := by
      have least := FileState.nextLength_le inside req.clientNetType
      simp only [resp, FileState.nextResponse, slice, List.length_take, List.length_drop]
      omega
    rw [size]
    exact chunk_le_nextLength more inside

theorem Asking.ask (asking : Asking fileOf downloader name content current) (named : name ≠ [])
    (nonempty : content ≠ []) (small : content.length ≤ 2 ^ 31)
    (asks : current.Asks downloader name event) :
    Asking fileOf downloader name content (current.step fileOf downloader event) := by
  obtain ⟨req, calls, rfl, own, delivers, untold⟩ := asks
  obtain ⟨session, found, serving, rests⟩ := asking.session
  obtain ⟨all, begun, atLeast⟩ := asking.gathered untold
  have ready : received current.responses = [] → session.fp = none ∧
      session.currentDownloadFileOffset = 0 := fun started => rests (begun started)
  obtain ⟨after, fp, _, streaming, inside, result⟩ :=
    serving.sends named nonempty own delivers ready
  rw [streaming.sendChunk inside small req delivers.2.2.2.2.2] at result
  have served := serving.download named nonempty small own delivers ready
  unfold DownloadRun.step at served
  have step : current.step fileOf downloader (.request downloader (.download req) calls) =
      { server := current.server.handle fileOf downloader session (.download req) calls
        asked := current.asked + 1
        responses := current.responses ++
          [after.nextResponse content (received current.responses).length req] } := by
    simp only [AskRun.step, found, if_true, result, ServerState.step_request found]
  have next := received_next serving.inOrder after req inside
  simp only [own, if_true, result] at served
  generalize after.nextResponse content (received current.responses).length req = resp
    at step next served
  rw [step]
  refine ⟨asking.isolation.handle found _ _, ⟨_, Function.update_self .., ?_, ?_⟩, ?_, ?_⟩
  · show DownloadRun.Serving fileOf name content
      ⟨((current.server.stateOf session).process fileOf (.download req) calls).2, _⟩
    rw [result]
    exact served
  · intro empty
    exact absurd empty (List.append_ne_nil_of_right_ne_nil _ (List.cons_ne_nil _ _))
  · intro more
    have untoldNow : resp.errorcode ≠ fileMsgErrorComplete :=
      more resp (List.mem_append_right _ List.mem_cons_self)
    rw [if_neg untoldNow] at next
    obtain ⟨grown, chunk⟩ := next
    simp only [grown, List.flatMap_append, List.flatMap_singleton, all, List.append_eq_nil_iff,
      List.length_append, true_and]
    rw [← all]
    refine ⟨fun started => ?_, by omega⟩
    rw [started.2] at chunk
    exact absurd chunk (by decide)
  · intro told
    obtain ⟨last, known, complete⟩ := told
    cases List.mem_append.mp known with
    | inl earlier => exact absurd complete (untold last earlier)
    | inr now =>
        rw [List.mem_singleton.mp now] at complete
        rw [if_pos complete, all] at next
        simpa only [List.flatMap_append, List.flatMap_singleton] using next

theorem Asking.other (asking : Asking fileOf downloader name content current)
    (leaves : current.LeavesFile fileOf downloader name event) :
    Asking fileOf downloader name content (current.step fileOf downloader event) := by
  obtain ⟨spared, kept⟩ := leaves
  obtain ⟨session, found, serving, rests⟩ := asking.session
  have stays : (current.server.step fileOf event).sessions downloader = some session :=
    (ServerState.sessions_step found spared.1).2 spared.2
  obtain ⟨_, streams⟩ :=
    @ServerState.Isolation.byAnother _ _ fileOf _ _ _ asking.isolation found _ spared.1
  have isolation := @ServerState.Isolation.step _ _ fileOf _ asking.isolation event
  rw [← @ServerState.Isolation.fileNamed _ fileOf _ asking.isolation _ _ found name] at kept
  have quiet : current.step fileOf downloader event =
      { current with server := current.server.step fileOf event } := by
    cases event with
    | request id request calls =>
        have other : id ≠ downloader := spared.1.2
        unfold AskRun.step
        cases acting : current.server.sessions id with
        | none => simp only [acting]
        | some second => simp only [acting, other, if_false]
    | connect id => rfl
    | disconnect id firstGone => rfl
    | restart entries => rfl
  rw [quiet]
  refine ⟨isolation, ⟨session, stays, ⟨?_, ?_, serving.inOrder, ?_⟩, rests⟩, asking.gathered,
    asking.complete⟩
  · show (current.server.step fileOf event).manager.basepath = session.strFileBaseDir
    rw [isolation.basepath, isolation.baseDir downloader session stays]
  · exact kept.trans serving.onDisk
  · intro started
    obtain ⟨inside, fp, streaming⟩ := serving.underWay started
    exact ⟨inside, fp, streaming.opened, (streams fp streaming.opened).trans streaming.stream,
      kept.trans streaming.onDisk, streaming.offset, streaming.size⟩

theorem Asking.step (asking : Asking fileOf downloader name content current) (named : name ≠ [])
    (nonempty : content ≠ []) (small : content.length ≤ 2 ^ 31)
    (regular : current.Regular fileOf downloader name event) :
    Asking fileOf downloader name content (current.step fileOf downloader event) := by
  cases regular with
  | inl asks => exact asking.ask named nonempty small asks
  | inr leaves => exact asking.other leaves

end AskRun

/-! ### Up and down -/

section Transfer

variable {File : Type} [DecidableEq File] {fileOf : Name → File}

theorem upload_then_download {fileBaseDir name : Name} {content : Bytes}
    {server : ServerState File} {uploader downloader : Nat} {up down : List ServerEvent}
    (reached : ServerState.Reached fileOf fileBaseDir server)
    (connected : server.sessions uploader ≠ none) (named : name ≠ [])
    (nonempty : content ≠ []) (small : content.length ≤ 2 ^ 31)
    (uploads : Meets (UploadRun.step fileOf uploader)
      (UploadRun.Regular fileOf uploader name content) ⟨server, []⟩ up)
    (whole : (run (UploadRun.step fileOf uploader) ⟨server, []⟩ up).uploaded = content)
    {session : FileSession}
    (found : (run (UploadRun.step fileOf uploader) ⟨server, []⟩ up).server.sessions downloader =
      some session)
    (rests : session.fp = none ∧ session.currentDownloadFileOffset = 0)
    (downloads : Meets (AskRun.step fileOf downloader) (AskRun.Regular fileOf downloader name)
      ⟨(run (UploadRun.step fileOf uploader) ⟨server, []⟩ up).server, 0, []⟩ down) :
    (run (UploadRun.step fileOf uploader) ⟨server, []⟩ up).server.stdio.disk
        ((run (UploadRun.step fileOf uploader) ⟨server, []⟩ up).server.fileNamed fileOf name) =
          some content ∧
      (run (AskRun.step fileOf downloader)
        ⟨(run (UploadRun.step fileOf uploader) ⟨server, []⟩ up).server, 0, []⟩ down).Served
          content := by
  obtain ⟨uploading, present⟩ := Option.ne_none_iff_exists'.mp connected
  have start : UploadRun.Sending fileOf uploader name content ⟨server, []⟩ :=
    ⟨.of_reached reached, uploading, present, fun begun => absurd rfl begun⟩
  have sent := start.run named (lt_of_le_of_lt small (by decide)) uploads
  generalize run (UploadRun.step fileOf uploader) ⟨server, []⟩ up = uploaded
    at whole found downloads sent ⊢
  obtain ⟨isolation, _, _, stored⟩ := sent
  have onDisk : uploaded.server.stdio.disk (uploaded.server.fileNamed fileOf name) =
      some content := by
    have done := stored (whole ▸ nonempty)
    rw [whole, FileState.Stored, if_pos rfl] at done
    exact done.onDisk
  refine ⟨onDisk, ?_⟩
  have file := @ServerState.Isolation.fileNamed _ fileOf _ isolation _ _ found name
  have serving : DownloadRun.Serving fileOf name content
      ⟨uploaded.server.stateOf session, []⟩ := by
    refine ⟨?_, ?_, ?_, fun started => absurd rfl started⟩
    · exact isolation.basepath.trans (isolation.baseDir downloader session found).symm
    · show uploaded.server.stdio.disk ((uploaded.server.stateOf session).fileNamed fileOf name) = _
      rw [file]
      exact onDisk
    · intro before resp isPrefix
      simp at isPrefix
  have asking : AskRun.Asking fileOf downloader name content ⟨uploaded.server, 0, []⟩ :=
    ⟨isolation, ⟨session, found, serving, fun _ => rests⟩,
      fun _ => ⟨rfl, fun _ => rfl, Nat.zero_le _⟩, nofun⟩
  have asked := Reach.invariant (AskRun.Asking fileOf downloader name content) asking
    (fun _ _ asking regular => asking.step named nonempty small regular)
    (reach_run down downloads)
  exact asked.served nonempty

/-- Two sessions are connected. -/
def twoSessions : ServerState Name :=
  run (ServerState.step id) (ServerState.start []) [.connect 1, .connect 2]

/-- A file of two bytes in two parts, and a third session between them. -/
def twoParts : List ServerEvent :=
  [.request 1 (.upload ⟨1, [1], 0, 2, [7]⟩) Calls.succeed, .connect 3,
    .request 1 (.upload ⟨2, [1], 1, 2, [8]⟩) Calls.succeed]

def oneAsk : List ServerEvent :=
  [.disconnect 1 false, .request 2 (.download ⟨1, [1], 0⟩) Calls.succeed]

theorem upload_then_download_twoParts :
    (run (UploadRun.step id 1) ⟨twoSessions, []⟩ twoParts).server.stdio.disk
        ((run (UploadRun.step id 1) ⟨twoSessions, []⟩ twoParts).server.fileNamed id [1]) =
          some [7, 8] ∧
      (run (AskRun.step id 2)
        ⟨(run (UploadRun.step id 1) ⟨twoSessions, []⟩ twoParts).server, 0, []⟩ oneAsk).Served
          [7, 8] := by
  have reached : ServerState.Reached id [] twoSessions := reach_run _ ⟨rfl, rfl, trivial⟩
  refine @upload_then_download Name _ id [] [1] [7, 8] twoSessions 1 2 twoParts oneAsk reached
    (by decide) (by decide) (by decide) (by decide) ?_ (by decide) _ rfl ⟨rfl, rfl⟩ ?_
  · refine ⟨.inl ⟨_, _, rfl, ⟨rfl, rfl, rfl, by decide, by decide⟩, ⟨rfl, rfl, rfl, rfl⟩, ?_⟩,
      .inr ⟨⟨⟨rfl, by decide⟩, nofun⟩, fun _ => rfl⟩,
      .inl ⟨_, _, rfl, ⟨rfl, rfl, rfl, by decide, by decide⟩, ⟨rfl, rfl, rfl, rfl⟩, ?_⟩, trivial⟩
    · intro _ session found
      cases found
      decide
    · intro begun
      cases begun
  · have another : (run (UploadRun.step id 1) ⟨twoSessions, []⟩ twoParts).server.erased false ≠
        some 2 := by
      decide
    exact ⟨.inr ⟨⟨⟨trivial, by decide⟩, another⟩, rfl⟩,
      .inl ⟨_, _, rfl, rfl, ⟨rfl, rfl, rfl, rfl, rfl, rfl⟩, nofun⟩, trivial⟩

end Transfer

end AChat.FileServer
