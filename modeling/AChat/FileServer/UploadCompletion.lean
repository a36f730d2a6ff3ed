import AChat.FileServer.UploadTarget

/-!
Contract: a file that a session calls complete is there.

The answer is given for a file that is found, and for a chunk that ends at the
size of its file. Neither asks whether the bytes before were written: the file of
an upload that is still going on is found as well, and chunks may be left out.

Owns: the file server with any number of sessions, and the record of the ranges
that accepted chunks have written to each file since it was last emptied.
-/

namespace AChat.FileServer

open Lib

/-! ### Ranges -/

/-- The ranges, as offset and length, have all bytes below `size`. -/
def Covered (ranges : List (Nat × Nat)) (size : Nat) : Prop :=
  ∀ byte < size, ∃ range ∈ ranges, range.1 ≤ byte ∧ byte < range.1 + range.2

instance Covered.instDecidable (ranges : List (Nat × Nat)) (size : Nat) :
    Decidable (Covered ranges size) :=
  inferInstanceAs (Decidable (∀ byte < size, _))

theorem Covered.mono {ranges : List (Nat × Nat)} {size smaller : Nat}
    (covered : Covered ranges size) (less : smaller ≤ size) : Covered ranges smaller :=
  fun byte below => covered byte (Nat.lt_of_lt_of_le below less)

theorem Covered.cons {ranges : List (Nat × Nat)} {size : Nat} (covered : Covered ranges size)
    (range : Nat × Nat) : Covered (range :: ranges) size := by
  intro byte below
  obtain ⟨earlier, known, inside⟩ := covered byte below
  exact ⟨earlier, List.mem_cons_of_mem _ known, inside⟩

/-- The next range covers the bytes up to its end. -/
theorem Covered.extend {ranges : List (Nat × Nat)} {offset : Nat}
    (covered : Covered ranges offset) (length : Nat) :
    Covered ((offset, length) :: ranges) (offset + length) := by
  intro byte below
  by_cases before : byte < offset
  · exact covered.cons _ byte before
  · exact ⟨(offset, length), List.mem_cons_self, by omega, below⟩

/-! ### The server -/

structure ServerState (File : Type) where
  fileBaseDir : Name
  sessions : Nat → Option FileSession
  /-- The sessions in the order of `m_sessions`. -/
  order : List Nat
  manager : FileManager
  stdio : Stdio File
  crashed : Bool
  /-- The ranges that accepted chunks of a file have written to it since it was last
  emptied. -/
  written : File → List (Nat × Nat)
  /-- The sizes at which a chunk of a file has completed it since it was last emptied. -/
  completed : File → List Int

inductive ServerEvent where
  | connect (id : Nat)
  | request (id : Nat) (request : Request) (calls : Calls)
  /-- A connection goes down. The connection of the first session of the list may be gone by
  then. -/
  | disconnect (id : Nat) (firstGone : Bool)
  | restart (entries : List Name)
deriving DecidableEq, Repr

namespace FileState

variable {File : Type} [DecidableEq File] (fileOf : Name → File)

instance instDecidableAccepts (state : FileState File) (req : UploadReq) (calls : Calls) :
    Decidable (state.Accepts fileOf req calls) := by
  unfold Accepts
  infer_instance

/-- The upload gets past the check for a file that is there. -/
def IsWrite (state : FileState File) (req : UploadReq) (calls : Calls) : Prop :=
  req.filemd5 ≠ [] ∧ ¬state.AnsweredPresent fileOf req.filemd5 calls

instance instDecidableIsWrite (state : FileState File) (req : UploadReq) (calls : Calls) :
    Decidable (state.IsWrite fileOf req calls) := by
  unfold IsWrite
  infer_instance

/-- The upload empties its file. -/
def Empties (state : FileState File) (req : UploadReq) (calls : Calls) : Prop :=
  state.IsWrite fileOf req calls ∧ req.offset = 0 ∧ calls.fopen = true

instance instDecidableEmpties (state : FileState File) (req : UploadReq) (calls : Calls) :
    Decidable (state.Empties fileOf req calls) := by
  unfold Empties
  infer_instance

/-- What is still recorded of the files before the chunk is written. -/
def kept {Entry : Type} (state : FileState File) (req : UploadReq) (calls : Calls)
    (record : File → List Entry) : File → List Entry :=
  if state.Empties fileOf req calls then
    Function.update record (state.fileNamed fileOf req.filemd5) []
  else record

/-- An accepted chunk of a file whose stream is on this file is a range of it. -/
def recordWritten (state : FileState File) (req : UploadReq) (calls : Calls)
    (written : File → List (Nat × Nat)) : File → List (Nat × Nat) :=
  let own := state.fileNamed fileOf req.filemd5
  let kept := state.kept fileOf req calls written
  if state.Accepts fileOf req calls ∧ (req.offset = 0 ∨ state.openFile = some own) then
    Function.update kept own ((req.offset.toNat, req.filedata.length) :: kept own)
  else kept

/-- An accepted chunk that ends at the declared size completes its file. -/
def recordCompleted (state : FileState File) (req : UploadReq) (calls : Calls)
    (completed : File → List Int) : File → List Int :=
  let own := state.fileNamed fileOf req.filemd5
  let kept := state.kept fileOf req calls completed
  if state.Accepts fileOf req calls ∧
      addInt64 req.offset req.filedata.length = req.filesize then
    Function.update kept own (req.filesize :: kept own)
  else kept

end FileState

namespace ServerState

variable {File : Type} [DecidableEq File]

/-- The first run of the server, on an empty directory. -/
def start (fileBaseDir : Name) : ServerState File where
  fileBaseDir := fileBaseDir
  sessions := fun _ => none
  order := []
  manager := .init fileBaseDir []
  stdio := ⟨fun _ => none, fun _ => none, 0, []⟩
  crashed := false
  written := fun _ => []
  completed := fun _ => []

/-- What a handler of one session works on. -/
def stateOf (server : ServerState File) (session : FileSession) : FileState File :=
  ⟨session, server.manager, server.stdio⟩

variable (fileOf : Name → File)

def handle (server : ServerState File) (id : Nat) (session : FileSession) (request : Request)
    (calls : Calls) : ServerState File :=
  let state := server.stateOf session
  let processed := state.process fileOf request calls
  { server with
    sessions := Function.update server.sessions id (some processed.2.session)
    manager := processed.2.manager
    stdio := processed.2.stdio
    crashed := processed.1.crashed
    written :=
      match request with
      | .upload req => state.recordWritten fileOf req calls server.written
      | .download _ => server.written
    completed :=
      match request with
      | .upload req => state.recordCompleted fileOf req calls server.completed
      | .download _ => server.completed }

def onConnected (server : ServerState File) (id : Nat) : ServerState File :=
  { server with
    sessions := Function.update server.sessions id (some (.new server.fileBaseDir))
    order := server.order ++ [id] }

/-- The session that is erased, whichever connection went down: the first of the list, if its
own connection is not gone. -/
def erased (server : ServerState File) (firstGone : Bool) : Option Nat :=
  if firstGone then none else server.order.head?

def onDisconnected (server : ServerState File) (firstGone : Bool) : ServerState File :=
  { server with
    sessions := fun id => if server.erased firstGone = some id then none else server.sessions id
    order := if firstGone then server.order else server.order.tail }

def step (server : ServerState File) : ServerEvent → ServerState File
  | .connect id => server.onConnected id
  | .request id request calls =>
      match server.sessions id with
      | some session => server.handle fileOf id session request calls
      | none => server
  | .disconnect _ firstGone => server.onDisconnected firstGone
  -- The system closes the streams of a server that ended. The files stay.
  | .restart entries =>
      { server with
        sessions := fun _ => none
        order := []
        manager := .init server.fileBaseDir entries
        stdio := { server.stdio with streams := fun _ => none }
        crashed := false }

/-- The fields of an upload are 64 bits wide. -/
def InRange (req : UploadReq) : Prop :=
  (-2 ^ 63 ≤ req.offset ∧ req.offset < 2 ^ 63) ∧
    (-2 ^ 63 ≤ req.filesize ∧ req.filesize < 2 ^ 63)

/-- A session is created once, only a restart follows the end of the server, and the
directory lists files that are there. -/
def Admissible (server : ServerState File) : ServerEvent → Prop
  | .connect id => server.crashed = false ∧ server.sessions id = none
  | .request id (.upload req) _ =>
      server.crashed = false ∧ server.sessions id ≠ none ∧ InRange req
  | .request id (.download _) _ => server.crashed = false ∧ server.sessions id ≠ none
  | .disconnect _ _ => server.crashed = false
  | .restart entries =>
      ∀ entry ∈ entries, server.stdio.disk (fileOf (pathOf server.fileBaseDir entry)) ≠ none

/-- Every answer of a request that calls its file complete at a size is right. -/
def CompletesWhole (server : ServerState File) : ServerEvent → Prop
  | .request id (.upload req) calls =>
      ∀ session, server.sessions id = some session →
        let state := server.stateOf session
        ∀ msg ∈ (state.process fileOf (.upload req) calls).1.sent,
          msg.cmd = msgTypeUploadResp → msg.errorcode = fileMsgErrorComplete →
            Covered
              ((server.step fileOf (.request id (.upload req) calls)).written
                (state.fileNamed fileOf msg.filemd5)) msg.filesize.toNat
  | _ => True

/-- A file that is found was completed by a chunk at this size or a larger one since it
was last emptied, and a chunk that ends at the size of its file is its first one, or is
written to its file after all bytes before it. -/
def KeepsWhole (server : ServerState File) : ServerEvent → Prop
  | .request id (.upload req) calls =>
      ∀ session, server.sessions id = some session →
        let state := server.stateOf session
        let own := state.fileNamed fileOf req.filemd5
        (state.AnsweredPresent fileOf req.filemd5 calls →
          req.filesize ≤ 0 ∨ ∃ size ∈ server.completed own, req.filesize ≤ size) ∧
        (state.IsWrite fileOf req calls →
          FileState.addInt64 req.offset req.filedata.length = req.filesize →
            req.offset = 0 ∨
              state.openFile = some own ∧ Covered (server.written own) req.offset.toNat)
  | _ => True

omit [DecidableEq File] in
/-- A session that is there after a connection went down was there before. -/
theorem sessions_of_onDisconnected {server : ServerState File} {firstGone : Bool} {id : Nat}
    {session : FileSession}
    (found : (server.onDisconnected firstGone).sessions id = some session) :
    server.sessions id = some session := by
  unfold onDisconnected at found
  simp only at found
  split at found
  · cases found
  · exact found

end ServerState

/-! ### Answers -/

namespace FileState

section Answers

variable {File : Type} {state : FileState File} {fileOf : Name → File}

theorem uploadResp_complete {req : UploadReq} {msg : FileMsg}
    (sent : msg ∈ (state.uploadResp req).1.sent)
    (complete : msg.errorcode = fileMsgErrorComplete) :
    (msg.filemd5 = req.filemd5 ∧ msg.filesize = req.filesize) ∧
      addInt64 req.offset req.filedata.length = req.filesize := by
  unfold uploadResp at sent
  simp only at sent
  split at sent
  · rename_i ends
    rw [List.mem_singleton.mp sent]
    exact ⟨⟨rfl, rfl⟩, ends⟩
  · rw [List.mem_singleton.mp sent] at complete
    cases complete

variable [DecidableEq File]

/-- A chunk is refused, or answered by `uploadResp`. -/
theorem writeChunk_reply (state : FileState File) (fp : Nat) (req : UploadReq) (calls : Calls) :
    (state.writeChunk fp req calls).1 = .refused ∨
      ∃ written : FileState File,
        (state.writeChunk fp req calls).1 = (written.uploadResp req).1 := by
  unfold writeChunk
  simp only
  split
  · exact Or.inl rfl
  · split
    · exact Or.inl rfl
    · split
      · exact Or.inl rfl
      · exact Or.inr ⟨_, rfl⟩

theorem chunk_reply (fileOf : Name → File) (state : FileState File) (req : UploadReq)
    (calls : Calls) :
    let reply := (if req.offset = 0 then state.firstChunk fileOf req calls
      else state.laterChunk req calls).1
    reply = .refused ∨ ∃ written : FileState File, reply = (written.uploadResp req).1 := by
  simp only
  split
  · rw [firstChunk_eq]
    split
    · exact writeChunk_reply _ _ req calls
    · exact Or.inl rfl
  · unfold laterChunk
    split
    · exact Or.inl rfl
    · exact writeChunk_reply _ _ req calls

/-- A complete answer is given for a file that is found, or for an accepted chunk that
ends at the declared size. -/
theorem upload_complete {req : UploadReq} {calls : Calls} {msg : FileMsg}
    (sent : msg ∈ (state.process fileOf (.upload req) calls).1.sent)
    (complete : msg.errorcode = fileMsgErrorComplete) :
    (msg.filemd5 = req.filemd5 ∧ msg.filesize = req.filesize) ∧
      (state.AnsweredPresent fileOf req.filemd5 calls ∧ ¬state.IsWrite fileOf req calls ∨
        state.Accepts fileOf req calls ∧
          addInt64 req.offset req.filedata.length = req.filesize) := by
  by_cases named : req.filemd5 = []
  · unfold process at sent
    simp only [named, if_true] at sent
    exact absurd sent List.not_mem_nil
  · have kind := process_upload fileOf state named calls
    by_cases present : state.AnsweredPresent fileOf req.filemd5 calls
    · rw [kind, if_pos present] at sent
      rw [List.mem_singleton.mp sent]
      exact ⟨⟨rfl, rfl⟩, Or.inl ⟨present, fun write => write.2 present⟩⟩
    · rw [if_neg present] at kind
      rw [kind] at sent
      have reply := chunk_reply fileOf (state.located fileOf req.seq req.filemd5 calls) req calls
      cases reply with
      | inl refused =>
          rw [refused] at sent
          exact absurd sent List.not_mem_nil
      | inr answered =>
          obtain ⟨written, answer⟩ := answered
          rw [answer] at sent
          have ends := uploadResp_complete sent complete
          refine ⟨ends.1, Or.inr ⟨⟨named, present, ?_⟩, ends.2⟩⟩
          rw [kind, answer]
          exact uploadResp_returns written req

end Answers

/-! ### The record -/

section Record

variable {File : Type} [DecidableEq File] {state : FileState File} {fileOf : Name → File}
  {req : UploadReq} {calls : Calls}

/-- Every size at which a file was completed is covered by what was written to it. -/
def Whole (written : File → List (Nat × Nat)) (completed : File → List Int) : Prop :=
  ∀ file, ∀ size ∈ completed file, Covered (written file) size.toNat

/-- A sum of a 64-bit offset and a length is at most what it is without overflow. -/
theorem addInt64_le {offset : Int} (atLeast : -2 ^ 63 ≤ offset) (length : Nat) :
    addInt64 offset length ≤ offset + length := by
  unfold addInt64 Int.bmod
  simp only
  split <;> omega

theorem whole_kept {written : File → List (Nat × Nat)} {completed : File → List Int}
    (whole : Whole written completed) (req : UploadReq) (calls : Calls) :
    Whole (state.kept fileOf req calls written) (state.kept fileOf req calls completed) := by
  intro file size known
  unfold kept at known ⊢
  split at known
  · rename_i empties
    rw [if_pos empties]
    by_cases own : file = state.fileNamed fileOf req.filemd5
    · rw [own, Function.update_self] at known
      exact absurd known List.not_mem_nil
    · rw [Function.update_of_ne own] at known ⊢
      exact whole file size known
  · rename_i fills
    rw [if_neg fills]
    exact whole file size known

/-- A range that is recorded takes nothing away. -/
theorem covered_recordWritten {written : File → List (Nat × Nat)} {file : File} {size : Nat}
    (covered : Covered (state.kept fileOf req calls written file) size) :
    Covered (state.recordWritten fileOf req calls written file) size := by
  unfold recordWritten
  split
  · by_cases own : file = state.fileNamed fileOf req.filemd5
    · rw [own] at covered ⊢
      rw [Function.update_self]
      exact covered.cons _
    · rw [Function.update_of_ne own]
      exact covered
  · exact covered

/-- The chunk that completes a file covers it together with what was there before. -/
theorem covered_of_completes {written : File → List (Nat × Nat)}
    (inRange : ServerState.InRange req) (accepts : state.Accepts fileOf req calls)
    (ends : addInt64 req.offset req.filedata.length = req.filesize)
    (reaches : req.offset = 0 ∨
      state.openFile = some (state.fileNamed fileOf req.filemd5) ∧
        Covered (written (state.fileNamed fileOf req.filemd5)) req.offset.toNat) :
    Covered (state.recordWritten fileOf req calls written (state.fileNamed fileOf req.filemd5))
      req.filesize.toNat := by
  have small := addInt64_le inRange.1.1 req.filedata.length
  rw [ends] at small
  have size : req.filesize.toNat ≤ req.offset.toNat + req.filedata.length := by omega
  have before : Covered
      (state.kept fileOf req calls written (state.fileNamed fileOf req.filemd5))
      req.offset.toNat := by
    by_cases first : req.offset = 0
    · rw [first]
      exact nofun
    · have fills : ¬state.Empties fileOf req calls := fun empties => first empties.2.1
      unfold kept
      rw [if_neg fills]
      exact (reaches.resolve_left first).2
  have records : state.Accepts fileOf req calls ∧
      (req.offset = 0 ∨ state.openFile = some (state.fileNamed fileOf req.filemd5)) :=
    ⟨accepts, reaches.imp_right And.left⟩
  unfold recordWritten
  rw [if_pos records, Function.update_self]
  exact (before.extend req.filedata.length).mono size

theorem whole_record {written : File → List (Nat × Nat)} {completed : File → List Int}
    (whole : Whole written completed) (inRange : ServerState.InRange req)
    (reaches : state.IsWrite fileOf req calls →
      addInt64 req.offset req.filedata.length = req.filesize → req.offset = 0 ∨
        state.openFile = some (state.fileNamed fileOf req.filemd5) ∧
          Covered (written (state.fileNamed fileOf req.filemd5)) req.offset.toNat) :
    Whole (state.recordWritten fileOf req calls written)
      (state.recordCompleted fileOf req calls completed) := by
  intro file size known
  have earlier : size ∈ state.kept fileOf req calls completed file →
      Covered (state.recordWritten fileOf req calls written file) size.toNat :=
    fun known => covered_recordWritten (whole_kept whole req calls file size known)
  unfold recordCompleted at known
  split at known
  · rename_i completes
    by_cases own : file = state.fileNamed fileOf req.filemd5
    · rw [own, Function.update_self] at known
      cases List.mem_cons.mp known with
      | inl last =>
          rw [own, last]
          exact covered_of_completes inRange completes.1 completes.2
            (reaches ⟨completes.1.1, completes.1.2.1⟩ completes.2)
      | inr known =>
          rw [← own] at known
          exact earlier known
    · rw [Function.update_of_ne own] at known
      exact earlier known
  · exact earlier known

end Record

end FileState

/-! ### The result -/

namespace ServerState

open FileState

variable {File : Type} [DecidableEq File] {fileOf : Name → File} {server : ServerState File}

theorem whole_step {event : ServerEvent} (whole : Whole server.written server.completed)
    (admissible : Admissible fileOf server event) (keeps : KeepsWhole fileOf server event) :
    Whole (server.step fileOf event).written (server.step fileOf event).completed := by
  cases event with
  | connect id => exact whole
  | disconnect id firstGone => exact whole
  | restart entries => exact whole
  | request id request calls =>
      unfold step
      simp only
      cases present : server.sessions id with
      | none => exact whole
      | some session =>
          cases request with
          | download req => exact whole
          | upload req => exact whole_record whole admissible.2.2 (keeps session present).2

theorem whole_of_reached {fileBaseDir : Name}
    (reached : Reach (step fileOf)
      (fun server event => Admissible fileOf server event ∧ KeepsWhole fileOf server event)
      (start fileBaseDir) server) : Whole server.written server.completed :=
  Reach.invariant (fun server => Whole server.written server.completed)
    (fun _ _ known => absurd known List.not_mem_nil)
    (fun _ _ whole met => whole_step whole met.1 met.2) reached

theorem completes_whole {fileBaseDir : Name}
    (reached : Reach (step fileOf)
      (fun server event => Admissible fileOf server event ∧ KeepsWhole fileOf server event)
      (start fileBaseDir) server)
    (event : ServerEvent) (admissible : Admissible fileOf server event)
    (keeps : KeepsWhole fileOf server event) : CompletesWhole fileOf server event := by
  have whole := whole_of_reached reached
  cases event with
  | connect id => trivial
  | disconnect id firstGone => trivial
  | restart entries => trivial
  | request id request calls =>
      cases request with
      | download req => trivial
      | upload req =>
          intro session present state msg sent _ complete
          have writes := (keeps session present).2
          obtain ⟨same, answered⟩ := upload_complete sent complete
          have after : (server.step fileOf (.request id (.upload req) calls)).written =
              (server.stateOf session).recordWritten fileOf req calls server.written := by
            unfold step
            simp only [present]
            rfl
          rw [after, same.1, same.2]
          cases answered with
          | inl found =>
              have held := (keeps session present).1 found.1
              apply covered_recordWritten
              unfold kept
              rw [if_neg (fun empties => found.2 empties.1)]
              cases held with
              | inl none =>
                  rw [Int.toNat_of_nonpos none]
                  exact nofun
              | inr completed =>
                  obtain ⟨size, known, atLeast⟩ := completed
                  exact (whole _ size known).mono (Int.toNat_le_toNat atLeast)
          | inr accepted =>
              exact covered_of_completes admissible.2.2 accepted.1 accepted.2
                (writes ⟨accepted.1.1, accepted.1.2.1⟩ accepted.2)

/-! ### Two sessions, one file -/

/-- One session uploads a file of one byte, and another one connects. -/
def uploadedEvents : List ServerEvent :=
  [.connect 1, .request 1 (.upload ⟨1, [1], 0, 1, [7]⟩) Calls.succeed, .connect 2]

/-- One session uploads the first byte of ten, and another one connects. -/
def uploadingEvents : List ServerEvent :=
  [.connect 1, .request 1 (.upload ⟨1, [1], 0, 10, [7]⟩) Calls.succeed, .connect 2]

def emptyServer : ServerState Name :=
  start []

omit [DecidableEq File] in
theorem keepsWhole_of_session {id : Nat} {session : FileSession} {req : UploadReq} {calls : Calls}
    (present : server.sessions id = some session)
    (found : (server.stateOf session).AnsweredPresent fileOf req.filemd5 calls →
      ∃ size ∈ server.completed ((server.stateOf session).fileNamed fileOf req.filemd5),
        req.filesize ≤ size)
    (first : (server.stateOf session).IsWrite fileOf req calls → req.offset = 0) :
    KeepsWhole fileOf server (.request id (.upload req) calls) := by
  intro other other_present
  cases present.symm.trans other_present
  exact ⟨fun answered => Or.inr (found answered), fun write _ => Or.inl (first write)⟩

theorem uploaded_reached :
    Reach (step id)
      (fun server event => Admissible id server event ∧ KeepsWhole id server event)
      emptyServer (run (step id) emptyServer uploadedEvents) := by
  apply reach_run
  refine ⟨⟨⟨rfl, rfl⟩, trivial⟩, ⟨⟨rfl, nofun, by unfold InRange; decide⟩, ?_⟩,
    ⟨⟨by decide, rfl⟩, trivial⟩, trivial⟩
  apply keepsWhole_of_session rfl
  · intro answered
    exact absurd answered (by decide)
  · exact fun _ => rfl

/-- The second session is told rightly that the file is complete. -/
theorem uploaded_completes_whole :
    CompletesWhole id (run (step id) emptyServer uploadedEvents)
      (.request 2 (.upload ⟨1, [1], 0, 1, [7]⟩) Calls.succeed) := by
  apply completes_whole uploaded_reached
  · exact ⟨by decide, nofun, by unfold InRange; decide⟩
  · apply keepsWhole_of_session rfl
    · exact fun _ => ⟨1, by decide, by decide⟩
    · exact fun _ => rfl

/-- The second session is told that the file is complete after its first byte. -/
theorem uploading_completes_part :
    Reach (step id) (Admissible id) emptyServer (run (step id) emptyServer uploadingEvents) ∧
      ¬CompletesWhole id (run (step id) emptyServer uploadingEvents)
        (.request 2 (.upload ⟨1, [1], 0, 10, [7]⟩) Calls.succeed) := by
  refine ⟨reach_run _ ⟨⟨rfl, rfl⟩, ⟨rfl, nofun, by unfold InRange; decide⟩,
    ⟨by decide, rfl⟩, trivial⟩, ?_⟩
  intro whole
  have covered := whole _ rfl
    ⟨msgTypeUploadResp, 1, fileMsgErrorComplete, [1], 10, 10, []⟩ (by decide) rfl rfl
  exact absurd covered (by decide)

end ServerState

end AChat.FileServer
