import AChat.Lib.CString
import AChat.Lib.FileScope
import AChat.FileServer.DownloadStream
import AChat.FileServer.UploadCompletion

/-!
Contract: the paths that the file server opens.

The name of a request is put behind the text of the base directory as the client sent it, and
`fopen` reads the text up to its first zero. No handler looks at the name but for its length.

Owns: the paths that a request opens, which of them are in the base directory, and the files that
a run of the server changes and that its answers depend on.

Does not own: links on the disk. `fileOf` says which file is at a path.
-/

namespace AChat.FileServer

open Lib

/-! ### Directories -/

/-- `/`. -/
def slash : UInt8 := 47

/-- One component of a path, other than `.` and `..`. -/
structure IsComponent (name : Name) : Prop where
  occupied : name ≠ []
  single : slash ∉ name
  notSelf : name ≠ [46]
  notParent : name ≠ [46, 46]

/-- A directory joined with a name. -/
def joinPath (directory name : Name) : Name :=
  if directory.getLast? = some slash then directory ++ name else directory ++ slash :: name

/-- The path is the directory joined with one component. -/
def InDirectory (directory path : Name) : Prop :=
  ∃ component, IsComponent component ∧ path = joinPath directory component

/-- Behind the text of the directory, the name leads to an entry of it. -/
def StaysIn (directory name : Name) : Prop :=
  if directory.getLast? = some slash then IsComponent name
  else ∃ component, IsComponent component ∧ name = slash :: component

theorem inDirectory_append_iff (directory name : Name) :
    InDirectory directory (directory ++ name) ↔ StaysIn directory name := by
  unfold InDirectory StaysIn joinPath
  split
  · constructor
    · rintro ⟨component, is, same⟩
      exact List.append_cancel_left same ▸ is
    · exact fun is => ⟨name, is, rfl⟩
  · constructor
    · rintro ⟨component, is, same⟩
      exact ⟨component, is, List.append_cancel_left same⟩
    · rintro ⟨component, is, rfl⟩
      exact ⟨component, is, rfl⟩

theorem pathOf_eq {baseDir : Name} (text : 0 ∉ baseDir) (filename : Name) :
    pathOf baseDir filename = baseDir ++ cStr filename := by
  unfold pathOf cStr
  exact List.takeWhile_append_of_pos (bne_of_not_mem text)

def Request.filemd5 : Request → Name
  | .upload req => req.filemd5
  | .download req => req.filemd5

/-! ### The paths of a request -/

namespace FileState

variable {File : Type} (fileOf : Name → File)

/-- What `isFileExsit` opens. -/
def probed (state : FileState File) (filemd5 : Name) : List Name :=
  if state.manager.listFiles.contains (cStr filemd5) then []
  else [pathOf state.manager.basepath (cStr filemd5)]

/-- The request gets to the `fopen` of its own file. -/
def OpensOwn (state : FileState File) (calls : Calls) : Request → Prop
  | .upload req => ¬state.AnsweredPresent fileOf req.filemd5 calls ∧ req.offset = 0
  | .download req =>
      (state.isFileExsit fileOf req.filemd5 calls).1 = true ∧ state.session.fp.isNone = true

instance instDecidableOpensOwn (state : FileState File) (calls : Calls) :
    (request : Request) → Decidable (state.OpensOwn fileOf calls request)
  | .upload _ => inferInstanceAs (Decidable (_ ∧ _))
  | .download _ => inferInstanceAs (Decidable (_ ∧ _))

/-- The paths that are handed to `fopen`. -/
def opened (state : FileState File) (calls : Calls) (request : Request) : List Name :=
  if request.filemd5 = [] then []
  else
    state.probed request.filemd5 ++
      if state.OpensOwn fileOf calls request then
        [pathOf state.session.strFileBaseDir request.filemd5]
      else []

variable {fileOf} {state : FileState File} {calls : Calls} {request : Request}

theorem mem_opened_of_probed {path : Name} (named : request.filemd5 ≠ [])
    (member : path ∈ state.probed request.filemd5) : path ∈ state.opened fileOf calls request := by
  rw [opened, if_neg named]
  exact List.mem_append_left _ member

theorem mem_opened_own (named : request.filemd5 ≠ [])
    (opens : state.OpensOwn fileOf calls request) :
    pathOf state.session.strFileBaseDir request.filemd5 ∈ state.opened fileOf calls request := by
  rw [opened, if_neg named, if_pos opens]
  exact List.mem_append_right _ (List.mem_singleton_self _)

/-- Every path is the text of the directory with the name behind it. -/
theorem opened_eq {baseDir : Name} (text : 0 ∉ baseDir) (manager : state.manager.basepath = baseDir)
    (session : state.session.strFileBaseDir = baseDir) {path : Name}
    (member : path ∈ state.opened fileOf calls request) :
    path = baseDir ++ cStr request.filemd5 := by
  unfold opened at member
  split at member
  · cases member
  · rcases List.mem_append.mp member with probe | own
    · unfold probed at probe
      split at probe
      · cases probe
      · rw [List.mem_singleton.mp probe, pathOf_cStr, manager, pathOf_eq text]
    · split at own
      · rw [List.mem_singleton.mp own, session, pathOf_eq text]
      · cases own

/-! ### Nothing else is opened -/

theorem isFileExsit_congr {other : Name → File} {filemd5 : Name}
    (same : ∀ path ∈ state.probed filemd5, fileOf path = other path) (calls : Calls) :
    state.isFileExsit fileOf filemd5 calls = state.isFileExsit other filemd5 calls := by
  unfold isFileExsit FileManager.isFileExsit
  by_cases listed : cStr filemd5 ∈ state.manager.listFiles
  · simp only [if_pos listed]
  · have path := same (pathOf state.manager.basepath (cStr filemd5)) (by simp [probed, listed])
    simp only [if_neg listed, path]

theorem located_congr {other : Name → File} {filemd5 : Name}
    (same : ∀ path ∈ state.probed filemd5, fileOf path = other path) (seq : Int) (calls : Calls) :
    state.located fileOf seq filemd5 calls = state.located other seq filemd5 calls := by
  have found := isFileExsit_congr same calls
  have located : ∀ named : Name → File, state.located named seq filemd5 calls =
      { (state.isFileExsit named filemd5 calls).2 with
        session := { state.session with seq := seq } } :=
    fun _ => rfl
  rw [located, located, found]

section Congr

variable [DecidableEq File] {other : Name → File}

theorem upload_congr {req : UploadReq} (named : req.filemd5 ≠ [])
    (probes : ∀ path ∈ state.probed req.filemd5, fileOf path = other path)
    (own : state.OpensOwn fileOf calls (.upload req) →
      state.fileNamed fileOf req.filemd5 = state.fileNamed other req.filemd5) :
    state.process fileOf (.upload req) calls = state.process other (.upload req) calls := by
  have answered : state.AnsweredPresent other req.filemd5 calls ↔
      state.AnsweredPresent fileOf req.filemd5 calls := by
    unfold AnsweredPresent
    rw [isFileExsit_congr probes calls]
  rw [process_upload fileOf state named, process_upload other state named,
    located_congr probes req.seq calls]
  by_cases present : state.AnsweredPresent fileOf req.filemd5 calls
  · rw [if_pos present, if_pos (answered.mpr present)]
  · rw [if_neg present, if_neg fun also => present (answered.mp also)]
    by_cases first : req.offset = 0
    · have file : (state.located other req.seq req.filemd5 calls).fileNamed fileOf req.filemd5 =
          (state.located other req.seq req.filemd5 calls).fileNamed other req.filemd5 :=
        own ⟨present, first⟩
      simp only [if_pos first, firstChunk, file]
    · rw [if_neg first, if_neg first]

theorem download_congr {req : DownloadReq} (named : req.filemd5 ≠ [])
    (probes : ∀ path ∈ state.probed req.filemd5, fileOf path = other path)
    (own : state.OpensOwn fileOf calls (.download req) →
      state.fileNamed fileOf req.filemd5 = state.fileNamed other req.filemd5) :
    state.process fileOf (.download req) calls = state.process other (.download req) calls := by
  have found := isFileExsit_congr probes calls
  rw [process_download fileOf state named, process_download other state named,
    located_congr probes req.seq calls, found]
  by_cases absent : (state.isFileExsit other req.filemd5 calls).1 = false
  · simp only [if_pos absent]
  · cases held : state.session.fp with
    | some fp => rfl
    | none =>
        have opens : state.OpensOwn fileOf calls (.download req) :=
          ⟨by simpa [found] using absent, by simp [held]⟩
        have file : (state.located other req.seq req.filemd5 calls).fileNamed fileOf req.filemd5 =
            (state.located other req.seq req.filemd5 calls).fileNamed other req.filemd5 :=
          own opens
        simp only [openDownload, file]

/-- What a request does depends on the files at the paths that it opens, and on no other path. -/
theorem process_congr
    (same : ∀ path ∈ state.opened fileOf calls request, fileOf path = other path) :
    state.process fileOf request calls = state.process other request calls := by
  by_cases named : request.filemd5 = []
  · cases request <;> simp only [Request.filemd5] at named <;> simp [process, named]
  · have probes : ∀ path ∈ state.probed request.filemd5, fileOf path = other path :=
      fun path among => same path (mem_opened_of_probed named among)
    have own : state.OpensOwn fileOf calls request →
        state.fileNamed fileOf request.filemd5 = state.fileNamed other request.filemd5 :=
      fun opens => same _ (mem_opened_own named opens)
    cases request with
    | upload req => exact upload_congr named probes own
    | download req => exact download_congr named probes own

end Congr

/-! ### The files of a request -/

section Files

variable {files : File → Prop} {disk : File → Option Bytes}

theorem resetFile_within (within : state.stdio.Within files disk) :
    state.resetFile.stdio.Within files disk := by
  unfold resetFile
  split
  · exact within
  · exact within.close _

theorem sendChunk_within (within : state.stdio.Within files disk) (fp : Nat) (req : DownloadReq)
    (calls : Calls) : (state.sendChunk fp req calls).2.stdio.Within files disk := by
  have read : ∀ size, (readBuffer state.stdio fp size calls.fread).2.Within files disk := by
    intro size
    unfold readBuffer
    split
    · exact within
    · exact within.read fp _ _
  unfold sendChunk
  simp only
  split
  · exact within
  · split
    · exact resetFile_within (read _)
    · exact read _

theorem openDownload_within (within : state.stdio.Within files disk) {filemd5 : Name}
    (inSet : files (state.fileNamed fileOf filemd5)) (calls : Calls) :
    (state.openDownload fileOf filemd5 calls).2.stdio.Within files disk := by
  have opens := within.openUpdate inSet calls.fopen
  unfold openDownload
  generalize state.stdio.openUpdate (state.fileNamed fileOf filemd5) calls.fopen = result at opens ⊢
  obtain ⟨fp, stdio⟩ := result
  cases fp with
  | none => exact opens
  | some fp =>
      have sought := opens.seekEnd fp calls.fseek
      simp only
      split
      · exact sought
      · have told := sought.tell fp calls.ftell
        split
        · exact told
        · exact told.seekSet fp 0 calls.fseekSet

variable [DecidableEq File]

theorem writeChunk_within (within : state.stdio.Within files disk) (fp : Nat) (req : UploadReq)
    (calls : Calls) : (state.writeChunk fp req calls).2.stdio.Within files disk := by
  have sought := within.seekSet fp req.offset calls.fseek
  have wrote := sought.write fp req.filedata calls.fwrite
  have flushed := wrote.flush fp calls.fflush
  unfold writeChunk uploadResp
  simp only
  split
  · exact resetFile_within sought
  · split
    · exact resetFile_within wrote
    · split
      · exact flushed
      · split
        · exact resetFile_within flushed
        · exact flushed

theorem firstChunk_within (within : state.stdio.Within files disk) {req : UploadReq}
    (inSet : files (state.fileNamed fileOf req.filemd5)) (calls : Calls) :
    (state.firstChunk fileOf req calls).2.stdio.Within files disk := by
  have opens := within.openWrite inSet calls.fopen
  unfold firstChunk
  generalize state.stdio.openWrite (state.fileNamed fileOf req.filemd5) calls.fopen = result
    at opens ⊢
  obtain ⟨fp, stdio⟩ := result
  cases fp with
  | none => exact opens
  | some fp => exact writeChunk_within opens fp req calls

/-- A request touches only the files at the paths that it opens, and those of open streams. -/
theorem process_within (within : state.stdio.Within files disk)
    (inSet : ∀ path ∈ state.opened fileOf calls request, files (fileOf path)) :
    (state.process fileOf request calls).2.stdio.Within files disk := by
  by_cases named : request.filemd5 = []
  · cases request <;> simp only [Request.filemd5] at named <;> simpa [process, named] using within
  · have own : state.OpensOwn fileOf calls request →
        files (state.fileNamed fileOf request.filemd5) :=
      fun opens => inSet _ (mem_opened_own named opens)
    cases request with
    | upload req =>
        rw [← located_stdio fileOf state req.seq req.filemd5 calls] at within
        rw [process_upload fileOf state named]
        by_cases present : state.AnsweredPresent fileOf req.filemd5 calls
        · rw [if_pos present]
          exact within
        · rw [if_neg present]
          by_cases first : req.offset = 0
          · rw [if_pos first]
            exact firstChunk_within within (own ⟨present, first⟩) calls
          · rw [if_neg first]
            unfold laterChunk
            split
            · exact within
            · exact writeChunk_within within _ req calls
    | download req =>
        rw [← located_stdio fileOf state req.seq req.filemd5 calls] at within
        rw [process_download fileOf state named]
        by_cases absent : (state.isFileExsit fileOf req.filemd5 calls).1 = false
        · simp only [if_pos absent]
          exact within
        · simp only [if_neg absent]
          cases held : state.session.fp with
          | some fp => exact sendChunk_within within fp req calls
          | none =>
              have found : (state.isFileExsit fileOf req.filemd5 calls).1 = true := by
                simpa using absent
              have opens := openDownload_within within (own ⟨found, by simp [held]⟩) calls
              simp only
              split
              · exact sendChunk_within opens _ req calls
              · exact opens

end Files

end FileState

/-! ### The paths of a run -/

namespace ServerState

variable {File : Type} [DecidableEq File] (fileOf : Name → File)

/-- The paths that an event opens. -/
def opened (server : ServerState File) : ServerEvent → List Name
  | .request id request calls =>
      match server.sessions id with
      | some session => (server.stateOf session).opened fileOf calls request
      | none => []
  | _ => []

/-- The paths that a run opens. -/
def paths (server : ServerState File) : List ServerEvent → List Name
  | [] => []
  | event :: rest => server.opened fileOf event ++ paths (server.step fileOf event) rest

/-- The manager and the sessions have the directory of the server. -/
structure Based (server : ServerState File) : Prop where
  manager : server.manager.basepath = server.fileBaseDir
  sessions : ∀ id session, server.sessions id = some session →
    session.strFileBaseDir = server.fileBaseDir

theorem step_fileBaseDir (server : ServerState File) (event : ServerEvent) :
    (server.step fileOf event).fileBaseDir = server.fileBaseDir := by
  cases event with
  | request id request calls =>
      simp only [step]
      split <;> rfl
  | _ => rfl

theorem Based.step {server : ServerState File} (based : Based server) (event : ServerEvent) :
    Based (server.step fileOf event) := by
  cases event with
  | connect id =>
      refine ⟨based.manager, fun other session held => ?_⟩
      by_cases same : other = id
      · simp only [ServerState.step, onConnected, same, Function.update_self,
          Option.some.injEq] at held
        exact held ▸ rfl
      · simp only [ServerState.step, onConnected, Function.update_of_ne same] at held
        exact based.sessions other session held
  | request id request calls =>
      simp only [ServerState.step]
      split
      · rename_i session there
        have bases := FileState.SameBase.step fileOf (server.stateOf session) (request, calls)
        refine ⟨bases.manager.trans based.manager, fun other changed held => ?_⟩
        by_cases same : other = id
        · simp only [handle, same, Function.update_self, Option.some.injEq] at held
          exact held ▸ bases.session.trans (based.sessions id session there)
        · simp only [handle, Function.update_of_ne same] at held
          exact based.sessions other changed held
      · exact based
  | disconnect id firstGone =>
      refine ⟨based.manager, fun other session held => ?_⟩
      exact based.sessions other session (sessions_of_onDisconnected held)
  | restart entries => exact ⟨rfl, fun _ _ held => by cases held⟩

/-- Every path of a run is the text of the directory with the name of a request behind it. -/
theorem paths_eq {server : ServerState File} (based : Based server)
    (text : 0 ∉ server.fileBaseDir) (events : List ServerEvent) :
    ∀ path ∈ server.paths fileOf events, ∃ id request calls,
      ServerEvent.request id request calls ∈ events ∧
        path = server.fileBaseDir ++ cStr request.filemd5 := by
  induction events generalizing server with
  | nil => exact nofun
  | cons event rest inductionHypothesis =>
      intro path member
      rcases List.mem_append.mp member with now | later
      · cases event with
        | request id request calls =>
            simp only [opened] at now
            split at now
            · rename_i session there
              exact ⟨id, request, calls, List.mem_cons_self, FileState.opened_eq text based.manager
                (based.sessions id session there) now⟩
            · cases now
        | _ => cases now
      · have base := step_fileBaseDir fileOf server event
        obtain ⟨id, request, calls, among, same⟩ :=
          inductionHypothesis (based.step fileOf event) (base ▸ text) path later
        exact ⟨id, request, calls, List.mem_cons_of_mem _ among, base ▸ same⟩

variable {files : File → Prop} {disk : File → Option Bytes}

theorem step_within {server : ServerState File} (within : server.stdio.Within files disk)
    {event : ServerEvent} (inSet : ∀ path ∈ server.opened fileOf event, files (fileOf path)) :
    (server.step fileOf event).stdio.Within files disk := by
  cases event with
  | request id request calls =>
      simp only [opened] at inSet
      simp only [step]
      split
      · rename_i session there
        simp only [there] at inSet
        exact FileState.process_within within inSet
      · exact within
  | restart entries => exact ⟨within.outside, fun _ _ found => by cases found⟩
  | connect id => exact within
  | disconnect id firstGone => exact within

/-- A run touches only the files at the paths that it opens. -/
theorem run_within (events : List ServerEvent) {server : ServerState File}
    (within : server.stdio.Within files disk)
    (inSet : ∀ path ∈ server.paths fileOf events, files (fileOf path)) :
    (run (step fileOf) server events).stdio.Within files disk := by
  induction events generalizing server with
  | nil => exact within
  | cons event rest inductionHypothesis =>
      have now := step_within fileOf within
        fun path among => inSet path (List.mem_append_left _ among)
      exact inductionHypothesis now fun path among => inSet path (List.mem_append_right _ among)

/-! ### What a run sends -/

/-- What an event sends. -/
def answers (server : ServerState File) : ServerEvent → List Reply
  | .request id request calls =>
      match server.sessions id with
      | some session => [((server.stateOf session).process fileOf request calls).1]
      | none => []
  | _ => []

/-- What a run sends. -/
def replies (server : ServerState File) : List ServerEvent → List Reply
  | [] => []
  | event :: rest => server.answers fileOf event ++ replies (server.step fileOf event) rest

/-- The servers differ at most in what is recorded of their files. -/
structure RunsAs (server twin : ServerState File) : Prop where
  fileBaseDir : server.fileBaseDir = twin.fileBaseDir
  sessions : server.sessions = twin.sessions
  order : server.order = twin.order
  manager : server.manager = twin.manager
  stdio : server.stdio = twin.stdio

namespace RunsAs

variable {fileOf} {other : Name → File} {server twin : ServerState File}

omit [DecidableEq File] in
theorem stateOf (alike : server.RunsAs twin) (session : FileSession) :
    server.stateOf session = twin.stateOf session := by
  unfold ServerState.stateOf
  rw [alike.manager, alike.stdio]

theorem answers (alike : server.RunsAs twin) {event : ServerEvent}
    (same : ∀ path ∈ server.opened fileOf event, fileOf path = other path) :
    server.answers fileOf event = twin.answers other event := by
  cases event with
  | request id request calls =>
      cases there : server.sessions id with
      | none => simp [ServerState.answers, ← alike.sessions, there]
      | some session =>
          simp only [opened, there] at same
          have processed := FileState.process_congr same
          rw [alike.stateOf] at processed
          simp [ServerState.answers, ← alike.sessions, there, alike.stateOf, processed]
  | _ => rfl

theorem step (alike : server.RunsAs twin) {event : ServerEvent}
    (same : ∀ path ∈ server.opened fileOf event, fileOf path = other path) :
    (server.step fileOf event).RunsAs (twin.step other event) := by
  obtain ⟨directory, sessions, order, manager, stdio⟩ := alike
  cases event with
  | connect id =>
      exact ⟨directory, by simp only [ServerState.step, onConnected, sessions, directory],
        by simp only [ServerState.step, onConnected, order], manager, stdio⟩
  | disconnect id firstGone =>
      refine ⟨directory, ?_, ?_, manager, stdio⟩
      · unfold ServerState.step onDisconnected erased
        rw [sessions, order]
      · unfold ServerState.step onDisconnected
        rw [order]
  | restart entries =>
      exact ⟨directory, rfl, rfl, by simp only [ServerState.step, directory],
        by simp only [ServerState.step, stdio]⟩
  | request id request calls =>
      have alike : server.RunsAs twin := ⟨directory, sessions, order, manager, stdio⟩
      cases there : server.sessions id with
      | none =>
          have twinThere : twin.sessions id = _ := sessions ▸ there
          simpa only [ServerState.step, there, twinThere] using alike
      | some session =>
          have twinThere : twin.sessions id = _ := sessions ▸ there
          simp only [opened, there] at same
          have processed := FileState.process_congr same
          rw [alike.stateOf] at processed
          simp only [ServerState.step, there, twinThere, handle, alike.stateOf, processed, sessions]
          exact ⟨directory, rfl, order, rfl, rfl⟩

/-- The files at other paths make no difference to what a run sends. -/
theorem replies (events : List ServerEvent) (alike : server.RunsAs twin)
    (same : ∀ path ∈ server.paths fileOf events, fileOf path = other path) :
    server.replies fileOf events = twin.replies other events := by
  induction events generalizing server twin with
  | nil => rfl
  | cons event rest inductionHypothesis =>
      have now : ∀ path ∈ server.opened fileOf event, fileOf path = other path :=
        fun path among => same path (List.mem_append_left _ among)
      have later := inductionHypothesis (alike.step now)
        fun path among => same path (List.mem_append_right _ among)
      rw [ServerState.replies, ServerState.replies, alike.answers now, later]

end RunsAs

/-- The only files that differ from before and the only ones with a stream are at paths that meet
the condition, and what is sent depends on these paths alone. -/
structure TouchesOnly (server : ServerState File) (events : List ServerEvent)
    (allowed : Name → Prop) : Prop where
  changed : ∀ file, (run (step fileOf) server events).stdio.disk file ≠ server.stdio.disk file →
    ∃ path, allowed path ∧ fileOf path = file
  streams : ∀ fp stream, (run (step fileOf) server events).stdio.streams fp = some stream →
    ∃ path, allowed path ∧ fileOf path = stream.file
  replies : ∀ other : Name → File, (∀ path, allowed path → fileOf path = other path) →
    server.replies fileOf events = server.replies other events

theorem TouchesOnly.mono {fileOf : Name → File} {server : ServerState File}
    {events : List ServerEvent} {allowed wider : Name → Prop}
    (touches : server.TouchesOnly fileOf events allowed)
    (within : ∀ path, allowed path → wider path) : server.TouchesOnly fileOf events wider := by
  refine ⟨fun file changed => ?_, fun fp stream found => ?_, fun other same => ?_⟩
  · obtain ⟨path, among, located⟩ := touches.changed file changed
    exact ⟨path, within path among, located⟩
  · obtain ⟨path, among, located⟩ := touches.streams fp stream found
    exact ⟨path, within path among, located⟩
  · exact touches.replies other fun path among => same path (within path among)

theorem touchesOnly_paths {server : ServerState File}
    (quiet : ∀ fp, server.stdio.streams fp = none) (events : List ServerEvent) :
    server.TouchesOnly fileOf events (· ∈ server.paths fileOf events) := by
  have start : server.stdio.Within
      (fun file => ∃ path, path ∈ server.paths fileOf events ∧ fileOf path = file)
      server.stdio.disk :=
    ⟨fun _ _ => rfl, fun fp stream found => by rw [quiet fp] at found; cases found⟩
  have within := run_within fileOf events start fun path among => ⟨path, among, rfl⟩
  refine ⟨fun file changed => ?_, within.streams, fun other same => ?_⟩
  · by_contra outside
    exact changed (within.outside file outside)
  · exact RunsAs.replies events ⟨rfl, rfl, rfl, rfl, rfl⟩ same

/-- Every path that is opened is the text of the base directory with the name of a request behind
it, and it is one of the directory exactly when the name leads to an entry of it. When the names of
all requests do, no other file is created, changed or read. -/
theorem paths_confined (server : ServerState File) (events : List ServerEvent)
    (based : Based server) (text : 0 ∉ server.fileBaseDir)
    (quiet : ∀ fp, server.stdio.streams fp = none) :
    (∀ path ∈ server.paths fileOf events, ∃ id request calls,
      ServerEvent.request id request calls ∈ events ∧
        path = server.fileBaseDir ++ cStr request.filemd5 ∧
        (InDirectory server.fileBaseDir path ↔
          StaysIn server.fileBaseDir (cStr request.filemd5))) ∧
      server.TouchesOnly fileOf events (· ∈ server.paths fileOf events) ∧
      ((∀ id request calls, ServerEvent.request id request calls ∈ events →
          StaysIn server.fileBaseDir (cStr request.filemd5)) →
        (∀ path ∈ server.paths fileOf events, InDirectory server.fileBaseDir path) ∧
          server.TouchesOnly fileOf events (InDirectory server.fileBaseDir)) := by
  have named := paths_eq fileOf based text events
  have touches := touchesOnly_paths fileOf quiet events
  refine ⟨fun path member => ?_, touches, fun stay => ?_⟩
  · obtain ⟨id, request, calls, among, rfl⟩ := named path member
    exact ⟨id, request, calls, among, rfl, inDirectory_append_iff _ _⟩
  · have inside : ∀ path ∈ server.paths fileOf events, InDirectory server.fileBaseDir path := by
      intro path member
      obtain ⟨id, request, calls, among, rfl⟩ := named path member
      exact (inDirectory_append_iff _ _).mpr (stay id request calls among)
    exact ⟨inside, touches.mono inside⟩

/-- A server on the empty directory `d/`, and one session that uploads a byte under a name. -/
def uploading (name : Name) : List ServerEvent :=
  [.connect 0, .request 0 (.upload ⟨1, name, 0, 1, [7]⟩) .succeed]

theorem paths_confined_oneUpload :
    (start [100, 47] : ServerState Name).TouchesOnly id (uploading [97])
      (InDirectory [100, 47]) := by
  have based : Based (start [100, 47] : ServerState Name) := ⟨rfl, nofun⟩
  refine ((paths_confined id (start [100, 47]) (uploading [97]) based (by decide)
    fun _ => rfl).2.2 ?_).2
  intro id request calls member
  rcases List.mem_cons.mp member with connect | rest
  · cases connect
  · rw [List.mem_singleton, ServerEvent.request.injEq] at rest
    obtain ⟨_, rfl, _⟩ := rest
    exact ⟨by decide, by decide, by decide, by decide⟩

/-- The name `../x`: a file is created beside the directory. -/
theorem upload_outside :
    [100, 47, 46, 46, 47, 120] ∈
        (start [100, 47] : ServerState Name).paths id (uploading [46, 46, 47, 120]) ∧
      ¬InDirectory [100, 47] [100, 47, 46, 46, 47, 120] ∧
      (run (step id) (start [100, 47] : ServerState Name)
        (uploading [46, 46, 47, 120])).stdio.disk [100, 47, 46, 46, 47, 120] = some [7] := by
  refine ⟨by decide, ?_, by decide⟩
  intro inside
  have stays : IsComponent [46, 46, 47, 120] :=
    (inDirectory_append_iff [100, 47] [46, 46, 47, 120]).mp inside
  exact absurd stays.single (by decide)

end ServerState

end AChat.FileServer
