import AChat.Lib.StreamFrame
import AChat.FileServer.DownloadStream
import AChat.FileServer.UploadCompletion

/-!
Contract: what the sessions of one server can do to each other.

They share the file manager and the C library, and nothing keeps their `FILE` pointers apart but
that each pointer is given out once. A request uses the pointer of its own session only. A
connection that goes down erases the first session of the list, which may be that of another
one.

Owns: what one request leaves of the other streams, and the invariant of all sessions.
-/

namespace AChat.FileServer

open Lib

namespace FileState

variable {File : Type} {fileOf : Name → File} {before middle after state : FileState File}

/-- Every stream but the one of the session stays as it is, and the session takes over none. -/
structure Isolated (before after : FileState File) : Prop where
  nextFp : before.stdio.nextFp ≤ after.stdio.nextFp
  others : ∀ fp, before.session.fp ≠ some fp → fp < before.stdio.nextFp →
    after.stdio.streams fp = before.stdio.streams fp ∧ after.session.fp ≠ some fp
  fresh : before.stdio.Fresh → after.stdio.Fresh

namespace Isolated

theorem trans (first : Isolated before middle) (second : Isolated middle after) :
    Isolated before after where
  nextFp := first.nextFp.trans second.nextFp
  others fp apart given := by
    obtain ⟨stays, still⟩ := first.others fp apart given
    obtain ⟨staysAfter, stillAfter⟩ := second.others fp still (given.trans_le first.nextFp)
    exact ⟨staysAfter.trans stays, stillAfter⟩
  fresh holds := second.fresh (first.fresh holds)

/-- Nothing but the streams and the `FILE` pointer matters. -/
theorem congr (stdio : after.stdio = before.stdio) (fp : after.session.fp = before.session.fp) :
    Isolated before after where
  nextFp := by rw [stdio]
  others other apart _ := by
    rw [stdio, fp]
    exact ⟨rfl, apart⟩
  fresh holds := by rwa [stdio]

/-- The stream of the session is worked on. -/
theorem touches {fp : Nat} (own : state.session.fp = some fp) {stdio : Stdio File}
    (touched : Stdio.Touches fp state.stdio stdio) {session : FileSession}
    (keeps : session.fp = state.session.fp ∨ session.fp = none) (manager : FileManager) :
    Isolated state ⟨session, manager, stdio⟩ where
  nextFp := touched.nextFp.ge
  others other apart _ := by
    have different : other ≠ fp := fun same => apart (same ▸ own)
    refine ⟨touched.others other different, ?_⟩
    cases keeps with
    | inl same => exact same ▸ apart
    | inr closed =>
        rw [closed]
        exact (Option.some_ne_none other).symm
  fresh := touched.fresh

/-- A stream is opened, whatever becomes of the disk. -/
theorem opens (state : FileState File) (disk : File → Option Bytes) (stream : Stream File)
    {session : FileSession} (own : session.fp = some state.stdio.nextFp) :
    Isolated state
      ⟨session, state.manager, { state.stdio with disk := disk }.opens stream⟩ where
  nextFp := Nat.le_succ _
  others fp _ given := by
    refine ⟨Stdio.opens_streams _ stream given, ?_⟩
    rw [own]
    intro same
    exact absurd given (by simp [Option.some.inj same])
  fresh holds := Stdio.Fresh.opens holds stream

theorem resetFile (state : FileState File) : Isolated state state.resetFile := by
  unfold FileState.resetFile
  split
  · exact congr rfl rfl
  · rename_i fp own
    exact touches own (Stdio.Touches.close fp state.stdio) (.inr rfl) state.manager

theorem uploadResp (state : FileState File) (req : UploadReq) :
    Isolated state (state.uploadResp req).2 := by
  unfold FileState.uploadResp
  simp only
  split
  · have added : Isolated state { state with manager := state.manager.addFile req.filemd5 } :=
      congr rfl rfl
    exact added.trans (resetFile _)
  · exact congr rfl rfl

section Uploads

variable [DecidableEq File]

theorem writeChunk {fp : Nat} (own : state.session.fp = some fp) (req : UploadReq)
    (calls : Calls) : Isolated state (state.writeChunk fp req calls).2 := by
  have sought := Stdio.Touches.seekSet fp state.stdio req.offset calls.fseek
  have wrote := sought.trans (Stdio.Touches.write fp _ req.filedata calls.fwrite)
  have flushed := wrote.trans (Stdio.Touches.uses fp _)
  unfold FileState.writeChunk
  simp only
  split
  · exact (touches own sought (.inl rfl) state.manager).trans (resetFile _)
  · split
    · exact (touches own wrote (.inl rfl) state.manager).trans (resetFile _)
    · split
      · exact touches own flushed (.inl rfl) state.manager
      · exact (touches own flushed (.inl rfl) state.manager).trans (uploadResp _ req)

theorem firstChunk (state : FileState File) (req : UploadReq) (calls : Calls) :
    Isolated state (state.firstChunk fileOf req calls).2 := by
  rw [firstChunk_eq]
  split
  · have opened : Isolated state (state.openedForWrite fileOf req.filemd5) := opens state _ _ rfl
    exact opened.trans (writeChunk rfl req calls)
  · refine ⟨Nat.le_refl _, fun fp _ _ => ⟨rfl, ?_⟩, fun holds => holds⟩
    exact (Option.some_ne_none fp).symm

theorem upload (state : FileState File) (req : UploadReq) (calls : Calls) :
    Isolated state (state.onUploadFileResponse fileOf req calls).2 := by
  unfold FileState.onUploadFileResponse
  split
  · exact congr rfl rfl
  · have found : Isolated state (state.isFileExsit fileOf req.filemd5 calls).2 := congr rfl rfl
    simp only
    split
    · exact found
    · split
      · exact found.trans (firstChunk _ req calls)
      · unfold FileState.laterChunk
        split
        · exact found
        · rename_i fp own
          exact found.trans (writeChunk own req calls)

end Uploads

theorem readBuffer {fp : Nat} (own : state.session.fp = some fp) (size : Int)
    (limit : Option Nat) {session : FileSession} (keeps : session.fp = state.session.fp) :
    Isolated state
      { state with
        stdio := (FileState.readBuffer state.stdio fp size limit).2
        session := session } := by
  unfold FileState.readBuffer
  split
  · exact congr rfl keeps
  · exact touches own (Stdio.Touches.read fp _ _ _) (.inl keeps) state.manager

theorem sendChunk {fp : Nat} (own : state.session.fp = some fp) (req : DownloadReq)
    (calls : Calls) : Isolated state (state.sendChunk fp req calls).2 := by
  unfold FileState.sendChunk
  simp only
  split
  · exact congr rfl rfl
  · have read := @readBuffer _ state fp own
      (FileState.currentSendSize state.session req.clientNetType) calls.fread
      { state.session with
        currentDownloadFileOffset := state.session.currentDownloadFileOffset +
          FileState.currentSendSize state.session req.clientNetType } rfl
    split
    · exact read.trans (resetFile _)
    · exact read

theorem openDownload (state : FileState File) (filemd5 : Name) (calls : Calls) :
    Isolated state (state.openDownload fileOf filemd5 calls).2 := by
  unfold FileState.openDownload Stdio.openUpdate
  by_cases present : calls.fopen = true ∧
      (state.stdio.disk (state.fileNamed fileOf filemd5)).isSome = true
  · rw [if_pos present]
    have opened : Isolated state
        { state with
          stdio := state.stdio.opens ⟨state.fileNamed fileOf filemd5, 0, true⟩
          session := { state.session with fp := some state.stdio.nextFp } } :=
      opens state state.stdio.disk _ rfl
    have sought := Stdio.Touches.seekEnd state.stdio.nextFp
      (state.stdio.opens ⟨state.fileNamed fileOf filemd5, 0, true⟩) calls.fseek
    have told := sought.trans (Stdio.Touches.uses state.stdio.nextFp _)
    have rewound := told.trans
      (Stdio.Touches.seekSet state.stdio.nextFp _ 0 calls.fseekSet)
    simp only
    split
    · exact opened.trans (touches rfl sought (.inl rfl) state.manager)
    · split
      · exact opened.trans (touches rfl told (.inl (by rfl)) state.manager)
      · exact opened.trans (touches rfl rewound (.inl (by rfl)) state.manager)
  · rw [if_neg present]
    exact congr rfl rfl

theorem download (state : FileState File) (req : DownloadReq) (calls : Calls) :
    Isolated state (state.onDownloadFileResponse fileOf req calls).2 := by
  unfold FileState.onDownloadFileResponse
  split
  · exact congr rfl rfl
  · have found : Isolated state (state.isFileExsit fileOf req.filemd5 calls).2 := congr rfl rfl
    simp only
    split
    · exact found
    · split
      · rename_i fp own
        exact found.trans (sendChunk own req calls)
      · have opened := found.trans (@openDownload _ fileOf _ req.filemd5 calls)
        split
        · rename_i fp _ own
          exact opened.trans (sendChunk own req calls)
        · exact opened

theorem step [DecidableEq File] (state : FileState File) (event : Request × Calls) :
    Isolated state (state.step fileOf event) := by
  have named : ∀ seq, Isolated state { state with session := { state.session with seq := seq } } :=
    fun _ => congr rfl rfl
  unfold FileState.step FileState.process
  cases event.1 with
  | upload req =>
      simp only
      split
      · exact named req.seq
      · exact (named req.seq).trans (upload _ req event.2)
  | download req =>
      simp only
      split
      · exact named req.seq
      · exact (named req.seq).trans (download _ req event.2)

end Isolated

end FileState

/-! ### All sessions of a server -/

namespace ServerState

variable {File : Type}

/-- A connection is served as long as its session is there: the message callback of a session
that was erased would run on freed memory. -/
def Attends (server : ServerState File) : ServerEvent → Prop
  | .connect id => server.sessions id = none
  | .request id _ _ => server.sessions id ≠ none
  | .disconnect _ _ | .restart _ => True

/-- Done by another connection. -/
def ByAnother (id : Nat) (server : ServerState File) (event : ServerEvent) : Prop :=
  server.Attends event ∧
    match event with
    | .connect other | .request other _ _ | .disconnect other _ => other ≠ id
    | .restart _ => False

/-- The session goes, because a connection does. -/
def Erases (id : Nat) (server : ServerState File) : ServerEvent → Prop
  | .disconnect _ firstGone => server.erased firstGone = some id
  | .connect _ | .request _ _ _ | .restart _ => False

/-- Done by another connection, and not to the session. -/
def Spares (id : Nat) (server : ServerState File) (event : ServerEvent) : Prop :=
  server.ByAnother id event ∧ ¬server.Erases id event

/-- Every session has its stream open and shares it with no other one. -/
structure Isolation (server : ServerState File) : Prop where
  fresh : server.stdio.Fresh
  opened : ∀ id session fp, server.sessions id = some session → session.fp = some fp →
    ∃ stream, server.stdio.streams fp = some stream
  apart : ∀ id other session second fp, other ≠ id → server.sessions id = some session →
    server.sessions other = some second → session.fp = some fp → second.fp ≠ some fp
  onDisk : ∀ fp stream, server.stdio.streams fp = some stream →
    server.stdio.disk stream.file ≠ none
  baseDir : ∀ id session, server.sessions id = some session →
    session.strFileBaseDir = server.fileBaseDir
  basepath : server.manager.basepath = server.fileBaseDir

variable [DecidableEq File]

/-- The states of all runs of the server. -/
abbrev Reached (fileOf : Name → File) (fileBaseDir : Name) (server : ServerState File) : Prop :=
  Reach (step fileOf) Attends (start fileBaseDir) server

variable {fileOf : Name → File} {server : ServerState File} {id : Nat} {session : FileSession}

theorem step_request (found : server.sessions id = some session) (request : Request)
    (calls : Calls) :
    server.step fileOf (.request id request calls) =
      server.handle fileOf id session request calls := by
  simp only [step, found]

theorem step_absent (absent : server.sessions id = none) (request : Request) (calls : Calls) :
    server.step fileOf (.request id request calls) = server := by
  simp only [step, absent]

namespace Isolation

omit [DecidableEq File] in
theorem start (fileBaseDir : Name) :
    Isolation (ServerState.start fileBaseDir : ServerState File) where
  fresh _ _ := rfl
  opened := nofun
  apart := nofun
  onDisk := nofun
  baseDir := nofun
  basepath := rfl

omit [DecidableEq File] in
theorem openStream (isolation : Isolation server) (found : server.sessions id = some session) :
    FileState.OpenStream (server.stateOf session) :=
  ⟨fun fp own => isolation.opened id session fp found own, isolation.onDisk⟩

omit [DecidableEq File] in
/-- The `FILE` pointer of a session was given out. -/
theorem given (isolation : Isolation server) (found : server.sessions id = some session)
    {fp : Nat} (own : session.fp = some fp) : fp < server.stdio.nextFp := by
  obtain ⟨stream, there⟩ := isolation.opened id session fp found own
  by_contra later
  rw [isolation.fresh fp (Nat.le_of_not_lt later)] at there
  cases there

/-- A request of another session leaves the stream alone and takes it over by no means. -/
theorem handle_spares (isolation : Isolation server) {other : Nat} {second : FileSession}
    (different : other ≠ id) (found : server.sessions id = some session)
    (acting : server.sessions other = some second) {fp : Nat} (own : session.fp = some fp)
    (request : Request) (calls : Calls) :
    ((server.stateOf second).step fileOf (request, calls)).stdio.streams fp =
        server.stdio.streams fp ∧
      ((server.stateOf second).step fileOf (request, calls)).session.fp ≠ some fp := by
  have isolated := @FileState.Isolated.step _ fileOf _ (server.stateOf second) (request, calls)
  exact isolated.others fp (isolation.apart id other session second fp different found acting own)
    (isolation.given found own)

theorem handle (isolation : Isolation server) (found : server.sessions id = some session)
    (request : Request) (calls : Calls) :
    Isolation (server.handle fileOf id session request calls) := by
  have isolated := @FileState.Isolated.step _ fileOf _ (server.stateOf session) (request, calls)
  have openStream := @FileState.OpenStream.step _ fileOf (server.stateOf session) _
    (isolation.openStream found) (request, calls)
  have same := FileState.SameBase.step fileOf (server.stateOf session) (request, calls)
  refine ⟨isolated.fresh isolation.fresh, ?_, ?_, openStream.onDisk, ?_, ?_⟩
  · intro other second fp entry own
    by_cases acting : other = id
    · subst acting
      cases (Function.update_self ..).symm.trans entry
      exact openStream.there fp own
    · have earlier := (Function.update_of_ne acting ..).symm.trans entry
      obtain ⟨stream, there⟩ := isolation.opened other second fp earlier own
      obtain ⟨stays, _⟩ := isolation.handle_spares (Ne.symm acting) earlier found own request calls
      exact ⟨stream, stays.trans there⟩
  · intro left right first second fp different entry other own
    by_cases acting : left = id
    · subst acting
      cases (Function.update_self ..).symm.trans entry
      have earlier := (Function.update_of_ne different ..).symm.trans other
      intro shared
      exact (isolation.handle_spares (Ne.symm different) earlier found shared request calls).2 own
    · have earlier := (Function.update_of_ne acting ..).symm.trans entry
      by_cases acts : right = id
      · subst acts
        cases (Function.update_self ..).symm.trans other
        exact (isolation.handle_spares different earlier found own request calls).2
      · have later := (Function.update_of_ne acts ..).symm.trans other
        exact isolation.apart left right first second fp different earlier later own
  · intro other second entry
    by_cases acting : other = id
    · subst acting
      cases (Function.update_self ..).symm.trans entry
      exact same.session.trans (isolation.baseDir other session found)
    · exact isolation.baseDir other second ((Function.update_of_ne acting ..).symm.trans entry)
  · exact same.manager.trans isolation.basepath

omit [DecidableEq File] in
/-- Sessions that have nothing open come, and others go. -/
theorem replaced (isolation : Isolation server) {sessions : Nat → Option FileSession}
    (order : List Nat)
    (kept : ∀ id session, sessions id = some session → server.sessions id = some session ∨
      session.fp = none ∧ session.strFileBaseDir = server.fileBaseDir) :
    Isolation { server with sessions := sessions, order := order } := by
  have earlier : ∀ id session fp, sessions id = some session → session.fp = some fp →
      server.sessions id = some session := by
    intro id session fp found own
    obtain there | ⟨closed, _⟩ := kept id session found
    · exact there
    · rw [closed] at own
      cases own
  refine ⟨isolation.fresh, ?_, ?_, isolation.onDisk, ?_, isolation.basepath⟩
  · intro id session fp found own
    exact isolation.opened id session fp (earlier id session fp found own) own
  · intro left right first second fp different found other own shared
    exact isolation.apart left right first second fp different (earlier left first fp found own)
      (earlier right second fp other shared) own shared
  · intro id session found
    obtain there | ⟨_, directory⟩ := kept id session found
    · exact isolation.baseDir id session there
    · exact directory

theorem step (isolation : Isolation server) (event : ServerEvent) :
    Isolation (server.step fileOf event) := by
  cases event with
  | connect id =>
      refine isolation.replaced _ fun other session found => ?_
      by_cases same : other = id
      · rw [same, Function.update_self] at found
        cases found
        exact .inr ⟨rfl, rfl⟩
      · rw [Function.update_of_ne same] at found
        exact .inl found
  | request id request calls =>
      cases found : server.sessions id with
      | none =>
          rw [step_absent found]
          exact isolation
      | some session =>
          rw [step_request found]
          exact isolation.handle found request calls
  | disconnect id firstGone =>
      exact isolation.replaced _ fun _ _ found => .inl (sessions_of_onDisconnected found)
  | restart entries => exact ⟨fun _ _ => rfl, nofun, nofun, nofun, nofun, rfl⟩

theorem of_reached {fileBaseDir : Name} (reached : Reached fileOf fileBaseDir server) :
    Isolation server :=
  Reach.invariant Isolation (start fileBaseDir) (fun _ event isolation _ => isolation.step event)
    reached

/-- What is done by another connection leaves the stream of a session and the directory. -/
theorem byAnother (isolation : Isolation server) (found : server.sessions id = some session)
    {event : ServerEvent} (another : server.ByAnother id event) :
    (server.step fileOf event).fileBaseDir = server.fileBaseDir ∧
      ∀ fp, session.fp = some fp →
        (server.step fileOf event).stdio.streams fp = server.stdio.streams fp := by
  cases event with
  | connect other => exact ⟨rfl, fun _ _ => rfl⟩
  | request other request calls =>
      obtain ⟨second, acting⟩ := Option.ne_none_iff_exists'.mp another.1
      rw [step_request acting]
      refine ⟨rfl, ?_⟩
      intro fp own
      exact (isolation.handle_spares another.2 found acting own request calls).1
  | disconnect other firstGone => exact ⟨rfl, fun _ _ => rfl⟩
  | restart entries => exact another.2.elim

end Isolation

/-- A session stays as it is until it is erased. -/
theorem sessions_step (found : server.sessions id = some session) {event : ServerEvent}
    (another : server.ByAnother id event) :
    (server.Erases id event → (server.step fileOf event).sessions id = none) ∧
      (¬server.Erases id event → (server.step fileOf event).sessions id = some session) := by
  cases event with
  | connect other =>
      exact ⟨False.elim, fun _ => (Function.update_of_ne (Ne.symm another.2) ..).trans found⟩
  | request other request calls =>
      obtain ⟨second, acting⟩ := Option.ne_none_iff_exists'.mp another.1
      rw [step_request acting]
      exact ⟨False.elim, fun _ => (Function.update_of_ne (Ne.symm another.2) ..).trans found⟩
  | disconnect other firstGone =>
      exact ⟨fun erased => if_pos erased, fun spared => (if_neg spared).trans found⟩
  | restart entries => exact another.2.elim

/-- The stream of a session is its own, and what another connection does leaves the stream as it
is, and the session as well unless it is erased. -/
theorem sessions_isolated {fileBaseDir : Name} (reached : Reached fileOf fileBaseDir server)
    (found : server.sessions id = some session) :
    (∀ fp, session.fp = some fp →
      (∃ stream, server.stdio.streams fp = some stream) ∧
        ∀ other second, other ≠ id → server.sessions other = some second →
          second.fp ≠ some fp) ∧
      ∀ event : ServerEvent, server.ByAnother id event →
        (∀ fp, session.fp = some fp →
          (server.step fileOf event).stdio.streams fp = server.stdio.streams fp) ∧
          (server.Erases id event → (server.step fileOf event).sessions id = none) ∧
          (¬server.Erases id event →
            (server.step fileOf event).sessions id = some session) := by
  have isolation := Isolation.of_reached reached
  constructor
  · intro fp own
    refine ⟨isolation.opened id session fp found own, ?_⟩
    intro other second different entry
    exact isolation.apart id other session second fp different found entry own
  · intro event another
    obtain ⟨_, streams⟩ := @Isolation.byAnother _ _ fileOf _ _ _ isolation found _ another
    exact ⟨streams, sessions_step found another⟩

end ServerState

theorem reached_uploading :
    ServerState.Reached id [] (run (ServerState.step id) ServerState.emptyServer
      ServerState.uploadingEvents) :=
  reach_run _ ⟨rfl, nofun, rfl, trivial⟩

/-- While one session uploads, another one connects. When the other connection goes down, the
uploading session is erased and its stream stays open. -/
theorem ServerState.sessions_isolated_uploading :
    let server := run (step id) emptyServer uploadingEvents
    (∀ other second, other ≠ 1 → server.sessions other = some second → second.fp ≠ some 0) ∧
      (server.step id (.request 2 (.download ⟨1, [2], 0⟩) Calls.succeed)).sessions 1 =
        server.sessions 1 ∧
      (server.step id (.disconnect 2 false)).sessions 1 = none ∧
      (server.step id (.disconnect 2 false)).stdio.streams 0 = server.stdio.streams 0 := by
  intro server
  have found : server.sessions 1 = some _ := rfl
  obtain ⟨streams, others⟩ := sessions_isolated reached_uploading found
  obtain ⟨_, apart⟩ := streams 0 rfl
  have asked := others (.request 2 (.download ⟨1, [2], 0⟩) Calls.succeed)
    ⟨nofun, by decide⟩
  have down := others (.disconnect 2 false) ⟨trivial, by decide⟩
  exact ⟨apart, asked.2.2 id, down.2.1 rfl, down.1 0 rfl⟩

end AChat.FileServer
