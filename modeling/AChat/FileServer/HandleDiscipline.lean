import AChat.Lib.HandleLog
import AChat.FileServer.OpenStream

/-!
Contract: how a session treats its `FILE` pointers, from its creation to its
destruction.

The destructor closes nothing, a first chunk forgets the stream that is open, and
some failures return while a stream is open. `KeepsDiscipline` says which steps do
none of this, and a run keeps the discipline exactly when all its steps do.

Owns: the invariant of the open stream and the log.
-/

namespace AChat.FileServer

open Lib

namespace FileState

variable {File : Type} (fileOf : Name → File)

/-! ### Steps that keep the discipline -/

/-- A chunk that is written is flushed. -/
def FlushesChunk (state : FileState File) (req : UploadReq) (calls : Calls) : Prop :=
  (if req.offset = 0 then calls.fopen = true else state.session.fp ≠ none) →
    calls.Writes req → calls.fflush = true

def UploadKeeps (state : FileState File) (req : UploadReq) (calls : Calls) : Prop :=
  if req.filemd5 = [] then state.session.fp = none
  else state.AnsweredPresent fileOf req.filemd5 calls ∨
    (req.offset = 0 → state.session.fp = none) ∧ state.FlushesChunk req calls

def DownloadKeeps (state : FileState File) (req : DownloadReq) (calls : Calls) : Prop :=
  if req.filemd5 = [] then state.session.fp = none
  else (state.isFileExsit fileOf req.filemd5 calls).1 = true → state.session.fp = none →
    calls.fopen = true → ∀ content,
      state.stdio.disk (state.fileNamed fileOf req.filemd5) = some content → calls.Measures content

def Keeps (state : FileState File) (calls : Calls) : Request → Prop
  | .upload req => state.UploadKeeps fileOf req calls
  | .download req => state.DownloadKeeps fileOf req calls

end FileState

/-! ### The life of a session -/

/-- A session, how its last request ended, and whether it is still there. -/
structure SessionLife (File : Type) where
  state : FileState File
  lastReturned : Bool
  destroyed : Bool
  crashed : Bool

inductive LifeEvent where
  | request (request : Request) (calls : Calls)
  | destroy
deriving DecidableEq, Repr

namespace SessionLife

variable {File : Type}

def start (manager : FileManager) (fileBaseDir : Name) (disk : File → Option Bytes) :
    SessionLife File :=
  ⟨.start manager fileBaseDir disk, true, false, false⟩

/-- The destructor does nothing. -/
def step [DecidableEq File] (fileOf : Name → File) (life : SessionLife File) :
    LifeEvent → SessionLife File
  | .request request calls =>
      let processed := life.state.process fileOf request calls
      { life with
        state := processed.2
        lastReturned := processed.1.returns
        crashed := processed.1.crashed }
  | .destroy => { life with destroyed := true }

/-- Nothing happens to a session that was destroyed, or after the server ended. -/
def Alive (life : SessionLife File) (_ : LifeEvent) : Prop :=
  life.destroyed = false ∧ life.crashed = false

/-- At most one handle is open at a time, only open handles are used and closed, all
are closed once the session is destroyed, and a request that returns false leaves
none open and the position and the size zero. -/
structure Disciplined (life : SessionLife File) : Prop where
  oneAtATime : OneAtATime life.state.stdio.log
  usesOpen : UsesOpen life.state.stdio.log
  closedOnce : life.destroyed = true → ClosedOnce life.state.stdio.log
  refused : life.lastReturned = false →
    (∀ fp, ¬IsOpen life.state.stdio.log fp) ∧
      life.state.session.currentDownloadFileOffset = 0 ∧
      life.state.session.currentDownloadFileSize = 0

def KeepsDiscipline (fileOf : Name → File) (life : SessionLife File) : LifeEvent → Prop
  | .request request calls => life.state.Keeps fileOf calls request
  | .destroy => life.state.session.fp = none

end SessionLife

namespace FileState

/-! ### The stream that is held -/

section Held

variable {File : Type}

/-- The log keeps the discipline, the open handle is the one of the session, and a
session without one is at rest. -/
structure Held (state : FileState File) : Prop where
  openStream : OpenStream state
  tracks : Tracks state.stdio.log state.session.fp state.stdio.nextFp
  atRest : state.session.fp = none →
    state.session.currentDownloadFileOffset = 0 ∧ state.session.currentDownloadFileSize = 0

/-- What a handler leaves when it keeps the discipline. -/
structure Fine (result : Reply × FileState File) : Prop where
  held : Held result.2
  closed : result.1.returns = false → result.2.session.fp = none

/-- How a handler breaks the discipline. -/
inductive Breaks (result : Reply × FileState File) : Prop where
  | twoOpen : ¬OneAtATime result.2.stdio.log → Breaks result
  | leaves (fp : Nat) : result.1.returns = false → IsOpen result.2.stdio.log fp → Breaks result

variable {state : FileState File} {fileOf : Name → File}

namespace Held

theorem start (manager : FileManager) (fileBaseDir : Name) (disk : File → Option Bytes) :
    Held (FileState.start manager fileBaseDir disk) :=
  ⟨.start manager fileBaseDir disk, .nil, fun _ => ⟨rfl, rfl⟩⟩

/-- Nothing but the streams matters while one is open. -/
theorem congr {before after : FileState File} (held : Held before)
    (stdio : after.stdio = before.stdio) (fp : after.session.fp = before.session.fp)
    (rest : after.session.fp = none →
      after.session.currentDownloadFileOffset = before.session.currentDownloadFileOffset ∧
        after.session.currentDownloadFileSize = before.session.currentDownloadFileSize) :
    Held after := by
  refine ⟨held.openStream.congr stdio fp, ?_, ?_⟩
  · rw [stdio, fp]
    exact held.tracks
  · intro closed
    rw [(rest closed).1, (rest closed).2]
    exact held.atRest (fp.symm.trans closed)

theorem uses (held : Held state) {fp : Nat} (opened : state.session.fp = some fp)
    {stdio : Stdio File} (uses : Stdio.UsesOnly fp state.stdio stdio) :
    Held { state with stdio := stdio } := by
  refine ⟨held.openStream.uses uses, ?_, held.atRest⟩
  obtain ⟨count, log⟩ := uses.log
  have tracks := held.tracks
  show Tracks stdio.log state.session.fp stdio.nextFp
  rw [opened] at tracks ⊢
  rw [log, uses.nextFp]
  exact tracks.uses count

theorem resetFile (held : Held state) :
    Held state.resetFile ∧ state.resetFile.session.fp = none := by
  have openStream := held.openStream.resetFile
  unfold FileState.resetFile at openStream ⊢
  cases opened : state.session.fp with
  | none => exact ⟨held, opened⟩
  | some fp =>
      simp only [opened] at openStream
      have tracks := held.tracks
      rw [opened] at tracks
      exact ⟨⟨openStream, tracks.closed, fun _ => ⟨rfl, rfl⟩⟩, rfl⟩

/-- A stream is opened where none is open. -/
theorem opens (held : Held state) (closed : state.session.fp = none) (stream : Stream File)
    (disk : File → Option Bytes)
    (keeps : ∀ file, state.stdio.disk file ≠ none → disk file ≠ none)
    (there : disk stream.file ≠ none) (session : FileSession)
    (opened : session.fp = some state.stdio.nextFp) :
    Held
      { state with
        stdio := { state.stdio with disk := disk }.opens stream
        session := session } := by
  have tracks := held.tracks
  rw [closed] at tracks
  refine ⟨held.openStream.opens stream disk keeps there session opened, ?_, ?_⟩
  · show Tracks (state.stdio.log ++ [.opened state.stdio.nextFp]) session.fp
      (state.stdio.nextFp + 1)
    rw [opened]
    exact tracks.opened
  · intro none
    cases opened.symm.trans none

theorem isOpen (held : Held state) {fp : Nat} (opened : state.session.fp = some fp) :
    IsOpen state.stdio.log fp :=
  (held.tracks.isOpen fp).mpr opened

end Held

/-- A request that returns false with a stream open breaks the discipline. -/
theorem Breaks.of_held {result : Reply × FileState File} (held : Held result.2)
    (refused : result.1.returns = false) (opened : result.2.session.fp ≠ none) :
    Breaks result := by
  obtain ⟨fp, current⟩ := Option.ne_none_iff_exists'.mp opened
  exact .leaves fp refused (held.isOpen current)

end Held

/-! ### Uploads -/

section Uploads

variable {File : Type} {state : FileState File} {fileOf : Name → File}

theorem uploadResp_fine (held : Held state) (req : UploadReq) : Fine (state.uploadResp req) := by
  refine ⟨?_, ?_⟩
  · unfold uploadResp
    simp only
    split
    · have added : Held { state with manager := state.manager.addFile req.filemd5 } :=
        held.congr rfl rfl fun _ => ⟨rfl, rfl⟩
      exact added.resetFile.1
    · exact held
  · rw [uploadResp_returns]
    exact nofun

/-- What was logged stays logged. -/
theorem resetFile_log (state : FileState File) :
    state.stdio.log <+: state.resetFile.stdio.log := by
  unfold resetFile
  split
  · exact List.prefix_refl _
  · exact List.prefix_append _ _

variable [DecidableEq File]

theorem writeChunk_fine (held : Held state) {fp : Nat} (opened : state.session.fp = some fp)
    {req : UploadReq} {calls : Calls} (flushes : calls.Writes req → calls.fflush = true) :
    Fine (state.writeChunk fp req calls) := by
  obtain ⟨stream, found⟩ := held.openStream.there fp opened
  have cases := state.writeChunk_cases found req calls
  generalize state.writeChunk fp req calls = result at cases ⊢
  cases cases with
  | aborted _ uses =>
      have reset := (held.uses opened uses).resetFile
      exact ⟨reset.1, fun _ => reset.2⟩
  | unflushed writes fails _ => exact Bool.noConfusion (fails.symm.trans (flushes writes))
  | written _ _ uses _ => exact uploadResp_fine (held.uses opened uses) req

theorem writeChunk_breaks (held : Held state) {fp : Nat} (opened : state.session.fp = some fp)
    {req : UploadReq} {calls : Calls} (writes : calls.Writes req) (fails : calls.fflush = false) :
    Breaks (state.writeChunk fp req calls) := by
  obtain ⟨stream, found⟩ := held.openStream.there fp opened
  have cases := state.writeChunk_cases found req calls
  generalize state.writeChunk fp req calls = result at cases ⊢
  cases cases with
  | aborted unwritten _ => exact absurd writes unwritten
  | unflushed _ _ uses =>
      exact Breaks.of_held (held.uses opened uses) rfl (fun none => nomatch opened.symm.trans none)
  | written _ flushes _ _ => exact Bool.noConfusion (fails.symm.trans flushes)

theorem writeChunk_log {fp : Nat} {stream : Stream File}
    (found : state.stdio.streams fp = some stream) (req : UploadReq) (calls : Calls) :
    state.stdio.log <+: (state.writeChunk fp req calls).2.stdio.log := by
  have logged : ∀ {stdio : Stdio File}, Stdio.UsesOnly fp state.stdio stdio →
      state.stdio.log <+: stdio.log := by
    intro stdio uses
    obtain ⟨count, log⟩ := uses.log
    rw [log]
    exact List.prefix_append _ _
  have cases := state.writeChunk_cases found req calls
  generalize state.writeChunk fp req calls = result at cases ⊢
  cases cases with
  | @aborted stdio _ uses => exact (logged uses).trans (resetFile_log { state with stdio := stdio })
  | unflushed _ _ uses => exact logged uses
  | @written stdio _ _ uses _ =>
      unfold uploadResp
      simp only
      split
      · exact (logged uses).trans
          (resetFile_log
            { state with stdio := stdio, manager := state.manager.addFile req.filemd5 })
      · exact logged uses

theorem Held.openedForWrite (held : Held state) (closed : state.session.fp = none)
    (filemd5 : Name) : Held (state.openedForWrite fileOf filemd5) := by
  apply held.opens closed
  · intro file there
    by_cases same : file = state.fileNamed fileOf filemd5
    · simp [same]
    · simpa [same] using there
  · simp
  · rfl

theorem firstChunk_fine (held : Held state) (closed : state.session.fp = none)
    {req : UploadReq} {calls : Calls}
    (flushes : calls.fopen = true → calls.Writes req → calls.fflush = true) :
    Fine (state.firstChunk fileOf req calls) := by
  rw [firstChunk_eq]
  split
  · rename_i opens
    exact writeChunk_fine (held.openedForWrite closed req.filemd5) rfl (flushes opens)
  · exact ⟨held.congr rfl closed.symm fun _ => ⟨rfl, rfl⟩, fun _ => rfl⟩

theorem firstChunk_breaks_unflushed (held : Held state) (closed : state.session.fp = none)
    {req : UploadReq} {calls : Calls} (opens : calls.fopen = true) (writes : calls.Writes req)
    (fails : calls.fflush = false) : Breaks (state.firstChunk fileOf req calls) := by
  rw [firstChunk_eq, if_pos opens]
  exact writeChunk_breaks (held.openedForWrite closed req.filemd5) rfl writes fails

/-- A first chunk forgets the stream that is open. -/
theorem firstChunk_breaks_open (held : Held state) {fp : Nat}
    (opened : state.session.fp = some fp) (req : UploadReq) (calls : Calls) :
    Breaks (state.firstChunk fileOf req calls) := by
  have tracks := held.tracks
  rw [opened] at tracks
  rw [firstChunk_eq]
  split
  · obtain ⟨rest, log⟩ :=
      writeChunk_log (openedForWrite_stream fileOf state req.filemd5) req calls
    apply Breaks.twoOpen
    rw [← log]
    exact tracks.not_oneAtATime rest
  · exact .leaves fp rfl (held.isOpen opened)

theorem onUpload_fine (held : Held state) {req : UploadReq} {calls : Calls}
    (named : req.filemd5 ≠ []) (keeps : state.UploadKeeps fileOf req calls) :
    Fine (state.onUploadFileResponse fileOf req calls) := by
  have found : Held (state.isFileExsit fileOf req.filemd5 calls).2 :=
    held.congr rfl rfl fun _ => ⟨rfl, rfl⟩
  unfold UploadKeeps at keeps
  rw [if_neg named] at keeps
  unfold onUploadFileResponse
  rw [if_neg named]
  simp only
  split
  · exact ⟨found, nofun⟩
  · rename_i absent
    have written := keeps.resolve_left absent
    have flushes := written.2
    unfold FlushesChunk at flushes
    split
    · rename_i first
      rw [if_pos first] at flushes
      exact firstChunk_fine found (written.1 first) flushes
    · rename_i later
      rw [if_neg later] at flushes
      unfold laterChunk
      split
      · rename_i closed
        exact ⟨found, fun _ => closed⟩
      · rename_i fp opened
        exact writeChunk_fine found opened
          (flushes fun closed => nomatch opened.symm.trans closed)

theorem onUpload_breaks (held : Held state) {req : UploadReq} {calls : Calls}
    (named : req.filemd5 ≠ []) (loses : ¬state.UploadKeeps fileOf req calls) :
    Breaks (state.onUploadFileResponse fileOf req calls) := by
  have found : Held (state.isFileExsit fileOf req.filemd5 calls).2 :=
    held.congr rfl rfl fun _ => ⟨rfl, rfl⟩
  unfold UploadKeeps AnsweredPresent FlushesChunk at loses
  rw [if_neg named, not_or] at loses
  unfold onUploadFileResponse
  rw [if_neg named]
  simp only
  rw [if_neg loses.1]
  by_cases first : req.offset = 0
  · rw [if_pos first]
    cases opened : state.session.fp with
    | some fp => exact firstChunk_breaks_open found opened req calls
    | none =>
        simp only [first, opened, forall_const, true_and, if_true, Classical.not_imp,
          Bool.not_eq_true] at loses
        exact firstChunk_breaks_unflushed found opened loses.2.1 loses.2.2.1 loses.2.2.2
  · rw [if_neg first]
    simp only [first, false_implies, true_and, if_false, Classical.not_imp,
      Bool.not_eq_true] at loses
    obtain ⟨fp, opened⟩ := Option.ne_none_iff_exists'.mp loses.2.1
    have there : (state.isFileExsit fileOf req.filemd5 calls).2.session.fp = some fp := opened
    unfold laterChunk
    rw [there]
    exact writeChunk_breaks found there loses.2.2.1 loses.2.2.2

end Uploads

/-! ### Downloads -/

section Downloads

variable {File : Type} {state : FileState File} {fileOf : Name → File}

theorem sendChunk_fine (held : Held state) {fp : Nat} (opened : state.session.fp = some fp)
    (req : DownloadReq) (calls : Calls) : Fine (state.sendChunk fp req calls) := by
  unfold sendChunk
  simp only
  split
  · exact ⟨held, nofun⟩
  · have read : Held
        { state with
          stdio := (readBuffer state.stdio fp (currentSendSize state.session req.clientNetType)
            calls.fread).2 } := by
      unfold readBuffer
      split
      · exact held
      · exact held.uses opened (Stdio.UsesOnly.read fp _ _ _)
    have advanced : ∀ offset : Int, Held
        { state with
          stdio := (readBuffer state.stdio fp (currentSendSize state.session req.clientNetType)
            calls.fread).2
          session := { state.session with currentDownloadFileOffset := offset } } :=
      fun _ => read.congr rfl rfl fun closed => nomatch opened.symm.trans closed
    split
    · exact ⟨(advanced _).resetFile.1, nofun⟩
    · exact ⟨advanced _, nofun⟩

/-- A file that was opened for a download is held, whether it was measured or not. -/
theorem Held.opensDownload (held : Held state) (closed : state.session.fp = none)
    {filemd5 : Name} {content : Bytes}
    (there : state.stdio.disk (state.fileNamed fileOf filemd5) = some content)
    {stdio : Stdio File}
    (uses : Stdio.UsesOnly state.stdio.nextFp
      (state.stdio.opens ⟨state.fileNamed fileOf filemd5, 0, true⟩) stdio) (size : Int) :
    Held
      { state with
        stdio := stdio
        session :=
          { state.session with
            fp := some state.stdio.nextFp
            currentDownloadFileSize := size } } :=
  (held.opens closed ⟨state.fileNamed fileOf filemd5, 0, true⟩ state.stdio.disk
    (fun _ known => known) (fun absent => nomatch there.symm.trans absent)
    { state.session with fp := some state.stdio.nextFp, currentDownloadFileSize := size }
    rfl).uses rfl uses

theorem onDownload_fine (held : Held state) {req : DownloadReq} {calls : Calls}
    (named : req.filemd5 ≠ []) (keeps : state.DownloadKeeps fileOf req calls) :
    Fine (state.onDownloadFileResponse fileOf req calls) := by
  have found : Held (state.isFileExsit fileOf req.filemd5 calls).2 :=
    held.congr rfl rfl fun _ => ⟨rfl, rfl⟩
  unfold DownloadKeeps at keeps
  rw [if_neg named] at keeps
  unfold onDownloadFileResponse
  rw [if_neg named]
  simp only
  split
  · exact ⟨found, nofun⟩
  · rename_i present
    rw [Bool.not_eq_false] at present
    split
    · rename_i fp opened
      exact sendChunk_fine found opened req calls
    · rename_i closed
      have cases := openDownload_cases fileOf (state.isFileExsit fileOf req.filemd5 calls).2
        req.filemd5 calls
      generalize (state.isFileExsit fileOf req.filemd5 calls).2.openDownload fileOf req.filemd5
        calls = result at cases ⊢
      cases cases with
      | unopened _ => exact ⟨found, fun _ => closed⟩
      | failed opens there unmeasured _ =>
          exact absurd (keeps present closed opens _ there) unmeasured
      | opened _ there _ uses _ _ =>
          exact sendChunk_fine (found.opensDownload closed there uses _) rfl req calls

theorem onDownload_breaks (held : Held state) {req : DownloadReq} {calls : Calls}
    (named : req.filemd5 ≠ []) (loses : ¬state.DownloadKeeps fileOf req calls) :
    Breaks (state.onDownloadFileResponse fileOf req calls) := by
  have found : Held (state.isFileExsit fileOf req.filemd5 calls).2 :=
    held.congr rfl rfl fun _ => ⟨rfl, rfl⟩
  unfold DownloadKeeps at loses
  rw [if_neg named] at loses
  simp only [Classical.not_imp, not_forall] at loses
  obtain ⟨present, closed, opens, content, there, unmeasured⟩ := loses
  have none : (state.isFileExsit fileOf req.filemd5 calls).2.session.fp = none := closed
  unfold onDownloadFileResponse
  rw [if_neg named]
  simp only [present, Bool.true_eq_false, if_false, none]
  have cases := openDownload_cases fileOf (state.isFileExsit fileOf req.filemd5 calls).2
    req.filemd5 calls
  generalize (state.isFileExsit fileOf req.filemd5 calls).2.openDownload fileOf req.filemd5
    calls = result at cases ⊢
  cases cases with
  | unopened stays =>
      refine absurd ⟨opens, ?_⟩ stays
      exact Option.isSome_iff_exists.mpr ⟨content, there⟩
  | failed _ there' _ uses =>
      exact Breaks.of_held (found.opensDownload none there' uses _) rfl nofun
  | opened _ there' measured _ _ _ =>
      cases there.symm.trans there'
      exact absurd measured unmeasured

end Downloads

/-! ### Requests -/

section Requests

variable {File : Type} {state : FileState File} {fileOf : Name → File}

theorem Held.named (held : Held state) (seq : Int) :
    Held { state with session := { state.session with seq := seq } } :=
  held.congr rfl rfl fun _ => ⟨rfl, rfl⟩

variable [DecidableEq File]

theorem process_fine (held : Held state) (request : Request) (calls : Calls)
    (keeps : state.Keeps fileOf calls request) : Fine (state.process fileOf request calls) := by
  unfold process
  cases request with
  | upload req =>
      by_cases named : req.filemd5 = []
      · unfold Keeps UploadKeeps at keeps
        simp only [named, if_true] at keeps ⊢
        exact ⟨held.named req.seq, fun _ => keeps⟩
      · simp only [named, if_false]
        exact onUpload_fine (held.named req.seq) named keeps
  | download req =>
      by_cases named : req.filemd5 = []
      · unfold Keeps DownloadKeeps at keeps
        simp only [named, if_true] at keeps ⊢
        exact ⟨held.named req.seq, fun _ => keeps⟩
      · simp only [named, if_false]
        exact onDownload_fine (held.named req.seq) named keeps

theorem process_breaks (held : Held state) (request : Request) (calls : Calls)
    (loses : ¬state.Keeps fileOf calls request) : Breaks (state.process fileOf request calls) := by
  unfold process
  cases request with
  | upload req =>
      by_cases named : req.filemd5 = []
      · unfold Keeps UploadKeeps at loses
        simp only [named, if_true] at loses ⊢
        exact Breaks.of_held (held.named req.seq) rfl loses
      · simp only [named, if_false]
        exact onUpload_breaks (held.named req.seq) named loses
  | download req =>
      by_cases named : req.filemd5 = []
      · unfold Keeps DownloadKeeps at loses
        simp only [named, if_true] at loses ⊢
        exact Breaks.of_held (held.named req.seq) rfl loses
      · simp only [named, if_false]
        exact onDownload_breaks (held.named req.seq) named loses

end Requests

end FileState

/-! ### The result -/

namespace SessionLife

open FileState

variable {File : Type}

structure Sound (life : SessionLife File) : Prop where
  held : Held life.state
  refused : life.lastReturned = false → life.state.session.fp = none
  destroyed : life.destroyed = true → life.state.session.fp = none

theorem Sound.disciplined {life : SessionLife File} (sound : Sound life) : Disciplined life := by
  have tracks := sound.held.tracks
  refine ⟨tracks.oneAtATime, tracks.usesOpen, ?_, ?_⟩
  · intro destroyed fp opened
    apply tracks.closedOnce fp opened
    rw [sound.destroyed destroyed]
    exact nofun
  · intro refused
    have closed := sound.refused refused
    refine ⟨?_, sound.held.atRest closed⟩
    intro fp current
    exact nomatch closed.symm.trans ((tracks.isOpen fp).mp current)

variable [DecidableEq File] {fileOf : Name → File} {life : SessionLife File}

theorem Sound.step (sound : Sound life) {event : LifeEvent} (alive : Alive life event)
    (keeps : KeepsDiscipline fileOf life event) : Sound (life.step fileOf event) := by
  cases event with
  | request request calls =>
      have fine := process_fine sound.held request calls keeps
      refine ⟨fine.held, fine.closed, ?_⟩
      intro destroyed
      exact Bool.noConfusion (alive.1.symm.trans destroyed)
  | destroy => exact ⟨sound.held, sound.refused, fun _ => keeps⟩

/-- One step keeps the discipline exactly when it is one of those that do. -/
theorem step_disciplined_iff (sound : Sound life) {event : LifeEvent} (alive : Alive life event) :
    Disciplined (life.step fileOf event) ↔ KeepsDiscipline fileOf life event := by
  constructor
  · intro disciplined
    by_contra loses
    cases event with
    | request request calls =>
        cases process_breaks sound.held request calls loses with
        | twoOpen two => exact two disciplined.oneAtATime
        | leaves fp refused current => exact (disciplined.refused refused).1 fp current
    | destroy =>
        obtain ⟨fp, opened⟩ := Option.ne_none_iff_exists'.mp loses
        have current := sound.held.isOpen opened
        have once : life.state.stdio.log.count (.closed fp) = 1 :=
          disciplined.closedOnce rfl fp current.1
        rw [List.count_eq_zero.mpr current.2] at once
        cases once
  · intro keeps
    exact (sound.step alive keeps).disciplined

theorem disciplined_iff_keepsDiscipline (manager : FileManager) (fileBaseDir : Name)
    (disk : File → Option Bytes) (events : List LifeEvent)
    (alive : Meets (step fileOf) Alive (start manager fileBaseDir disk) events) :
    Always (step fileOf) Disciplined (start manager fileBaseDir disk) events ↔
      Meets (step fileOf) (KeepsDiscipline fileOf) (start manager fileBaseDir disk) events :=
  always_iff_meets (fun _ _ sound alive => step_disciplined_iff sound alive)
    (fun _ _ sound alive keeps => sound.step alive keeps) (fun _ sound => sound.disciplined) events
    ⟨.start manager fileBaseDir disk, nofun, nofun⟩ alive

/-! ### Two uploads -/

/-- A file of one byte is uploaded, and the session ends. -/
def wholeUpload : List LifeEvent :=
  [.request (.upload ⟨1, [1], 0, 1, [7]⟩) Calls.succeed, .destroy]

/-- A file of ten bytes has its first byte when the session ends. -/
def brokenUpload : List LifeEvent :=
  [.request (.upload ⟨1, [1], 0, 10, [7]⟩) Calls.succeed, .destroy]

def emptyLife : SessionLife Name :=
  start (FileManager.init [] []) [] fun _ => none

theorem whole_upload_disciplined : Always (step id) Disciplined emptyLife wholeUpload := by
  apply (disciplined_iff_keepsDiscipline (FileManager.init [] []) [] (fun _ => none) wholeUpload
    ⟨⟨rfl, rfl⟩, ⟨rfl, by decide⟩, trivial⟩).mpr
  refine ⟨?_, ?_, trivial⟩
  · show (FileState.start (FileManager.init [] []) [] fun _ => none).UploadKeeps id
      ⟨1, [1], 0, 1, [7]⟩ Calls.succeed
    unfold UploadKeeps
    rw [if_neg (by decide)]
    exact Or.inr ⟨fun _ => rfl, fun _ _ => rfl⟩
  · show (step id emptyLife (.request (.upload ⟨1, [1], 0, 1, [7]⟩)
      Calls.succeed)).state.session.fp = none
    decide

/-- The handle of the unfinished upload is never closed. -/
theorem broken_upload_leaks :
    Meets (step id) Alive emptyLife brokenUpload ∧
      ¬Always (step id) Disciplined emptyLife brokenUpload := by
  refine ⟨⟨⟨rfl, rfl⟩, ⟨rfl, by decide⟩, trivial⟩, ?_⟩
  intro always
  have once := always.2.2.closedOnce rfl 0 (by decide)
  exact absurd once (by decide)

end SessionLife

end AChat.FileServer
