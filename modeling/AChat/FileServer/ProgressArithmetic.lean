import AChat.FileServer.OpenStream

/-!
Contract: the arithmetic of positions, sizes and percentages in a file session.

The numbers come from the fields of the request, from the measured file and from what earlier
requests left in the session. The percentage is an argument of a log line, so it is computed
whatever is logged. Other sessions may write files and change the list of known ones between two
requests.

Owns: what each request computes, and the runs in which all of it stays in range.
-/

namespace AChat.FileServer

open Lib

/-! ### Computations -/

/-- A computation on `int64_t`; `chunk` is a size that is handed to `fread` or to `append`. -/
inductive Computation where
  | sum (left right : Int)
  | product (left right : Int)
  | percent (hundredfold whole : Int)
  | chunk (size : Int)
deriving DecidableEq, Repr

def FitsInt64 (value : Int) : Prop :=
  -9223372036854775808 ≤ value ∧ value ≤ 9223372036854775807

/-- `char buffer[512 * 1024]`. -/
def bufferSize : Int := 512 * 1024

namespace Computation

/-- The result is in range; a division is not by zero. -/
def Safe : Computation → Prop
  | sum left right => FitsInt64 (left + right)
  | product left right => FitsInt64 (left * right)
  | percent hundredfold whole =>
      whole ≠ 0 ∧ 0 ≤ hundredfold.tdiv whole ∧ hundredfold.tdiv whole ≤ 100
  | chunk size => 0 ≤ size ∧ size ≤ bufferSize

/-- The computation ends the server. -/
def Faults : Computation → Prop
  | percent _ whole => whole = 0
  | chunk size => size < 0
  | _ => False

end Computation

/-- The position that the response to a written chunk reports. -/
def UploadReq.reported (req : UploadReq) : Int :=
  if FileState.addInt64 req.offset req.filedata.length = req.filesize then req.filesize
  else req.offset

/-- What is computed for a chunk that was written. -/
def UploadReq.computations (req : UploadReq) : List Computation :=
  [.sum req.offset req.filedata.length, .product req.reported 100,
    .percent (req.reported * 100) req.filesize]

namespace FileState

variable {File : Type}

/-- What `sendChunk` computes. A negative size ends it in `append`. -/
def sendComputations (session : FileSession) (clientNetType : Int) : List Computation :=
  let size := currentSendSize session clientNetType
  let offset := session.currentDownloadFileOffset + size
  [.sum session.currentDownloadFileOffset (chunkSize clientNetType)] ++
    (if 0 < size then [.chunk size] else []) ++ [.chunk size] ++
    if size < 0 then []
    else
      [.sum session.currentDownloadFileOffset size, .product offset 100,
        .percent (offset * 100) session.currentDownloadFileSize]

section Process

variable [DecidableEq File] (fileOf : Name → File)

/-- What `writeChunk` computes. -/
def chunkComputations (state : FileState File) (fp : Nat) (req : UploadReq) (calls : Calls) :
    List Computation :=
  let sought := state.stdio.seekSet fp req.offset calls.fseek
  if sought.1 = false then []
  else
    let wrote := sought.2.write fp req.filedata calls.fwrite
    if wrote.1 ≠ req.filedata.length then []
    else if (wrote.2.flush fp calls.fflush).1 = false then []
    else req.computations

/-- What a request computes. -/
def computations (state : FileState File) (calls : Calls) : Request → List Computation
  | .upload req =>
      let located := state.located fileOf req.seq req.filemd5 calls
      if req.filemd5 = [] ∨ state.AnsweredPresent fileOf req.filemd5 calls then []
      else if req.offset = 0 then
        if calls.fopen = true then
          (located.openedForWrite fileOf req.filemd5).chunkComputations located.stdio.nextFp req
            calls
        else []
      else
        match located.session.fp with
        | none => []
        | some fp => located.chunkComputations fp req calls
  | .download req =>
      let located := state.located fileOf req.seq req.filemd5 calls
      if req.filemd5 = [] ∨ (state.isFileExsit fileOf req.filemd5 calls).1 = false then []
      else
        match located.session.fp with
        | some _ => sendComputations located.session req.clientNetType
        | none =>
            let opened := located.openDownload fileOf req.filemd5 calls
            match opened.1, opened.2.session.fp with
            | true, some _ => sendComputations opened.2.session req.clientNetType
            | _, _ => []

end Process

end FileState

/-! ### The condition on a request -/

/-- The greatest number whose hundredfold is an `int64_t`. -/
def maxReported : Int := 92233720368547758

/-- The declared size is not zero, the chunk ends at a number that an `int64_t` holds, and the
reported position is at most the declared size, up to what the integral division leaves out. -/
def UploadReq.InRange (req : UploadReq) : Prop :=
  req.filesize ≠ 0 ∧ req.offset + req.filedata.length ≤ 9223372036854775807 ∧
    if req.offset + req.filedata.length = req.filesize then req.filesize ≤ maxReported
    else
      req.offset ≤ maxReported ∧ (0 < req.filesize → req.offset * 100 < 101 * req.filesize) ∧
        (req.filesize < 0 → req.offset * 100 < -req.filesize)

/-- The position is inside a file that is not empty, and the position behind the next chunk is not
too large. -/
def PositionFits (offset size clientNetType : Int) : Prop :=
  0 < size ∧ offset ≤ size ∧ min size (offset + FileState.chunkSize clientNetType) ≤ maxReported

namespace FileState

variable {File : Type} (fileOf : Name → File)

/-- A chunk that is written is in range; a download is from a position that fits. -/
def KeepsRange (state : FileState File) (calls : Calls) : Request → Prop
  | .upload req =>
      req.filemd5 ≠ [] → ¬state.AnsweredPresent fileOf req.filemd5 calls →
        (if req.offset = 0 then calls.fopen = true else state.session.fp ≠ none) →
        calls.Writes req → calls.fflush = true → req.InRange
  | .download req =>
      req.filemd5 ≠ [] → (state.isFileExsit fileOf req.filemd5 calls).1 = true →
        match state.session.fp with
        | some _ =>
            PositionFits state.session.currentDownloadFileOffset
              state.session.currentDownloadFileSize req.clientNetType
        | none =>
            calls.fopen = true → ∀ content,
              state.stdio.disk (state.fileNamed fileOf req.filemd5) = some content →
                calls.Measures content →
                PositionFits state.session.currentDownloadFileOffset content.length
                  req.clientNetType

end FileState

/-! ### Runs -/

/-- A session and what it computed so far. -/
structure Progress (File : Type) where
  state : FileState File
  computed : List Computation

/-- A request of the session, or what other sessions do between two of them: they change the list
of known files and what is in the files, and remove none. -/
inductive ProgressEvent (File : Type) where
  | request (request : Request) (calls : Calls)
  | others (listFiles : List Name) (contents : File → Option Bytes)

namespace Progress

variable {File : Type}

def start (manager : FileManager) (fileBaseDir : Name) (disk : File → Option Bytes) :
    Progress File :=
  ⟨.start manager fileBaseDir disk, []⟩

variable [DecidableEq File] (fileOf : Name → File)

def step (progress : Progress File) : ProgressEvent File → Progress File
  | .request request calls =>
      { state := progress.state.step fileOf (request, calls)
        computed := progress.computed ++ progress.state.computations fileOf calls request }
  | .others listFiles contents =>
      { progress with
        state :=
          { progress.state with
            manager := { progress.state.manager with listFiles := listFiles }
            stdio :=
              { progress.state.stdio with
                disk := fun file => (contents file).orElse fun _ =>
                  progress.state.stdio.disk file } } }

/-- Everything that was computed is in range. -/
def InRange (progress : Progress File) : Prop :=
  ∀ computation ∈ progress.computed, computation.Safe

def Keeps (progress : Progress File) : ProgressEvent File → Prop
  | .request request calls => progress.state.KeepsRange fileOf calls request
  | .others _ _ => True

end Progress

/-! ### Ranges -/

/-- A percentage is in range when the part is, up to what the division leaves out, at most the
whole. -/
theorem percent_safe_iff {hundredfold : Int} (nonneg : 0 ≤ hundredfold) (whole : Int) :
    (Computation.percent hundredfold whole).Safe ↔
      whole ≠ 0 ∧ (0 < whole → hundredfold < 101 * whole) ∧
        (whole < 0 → hundredfold < -whole) := by
  change whole ≠ 0 ∧ 0 ≤ hundredfold.tdiv whole ∧ hundredfold.tdiv whole ≤ 100 ↔ _
  refine and_congr_right fun divides => ?_
  rcases Int.lt_or_gt_of_ne divides with negative | positive
  · have quotient : hundredfold.tdiv whole = -(hundredfold / -whole) := by
      rw [← Int.tdiv_eq_ediv_of_nonneg nonneg, Int.tdiv_neg, Int.neg_neg]
    have atLeast : 0 ≤ hundredfold / -whole := Int.ediv_nonneg nonneg (by omega)
    have below : hundredfold / -whole < 1 ↔ hundredfold < 1 * -whole :=
      Int.ediv_lt_iff_lt_mul (by omega)
    rw [quotient]
    omega
  · have quotient : hundredfold.tdiv whole = hundredfold / whole :=
      Int.tdiv_eq_ediv_of_nonneg nonneg
    have atLeast : 0 ≤ hundredfold / whole := Int.ediv_nonneg nonneg (by omega)
    have below : hundredfold / whole < 101 ↔ hundredfold < 101 * whole :=
      Int.ediv_lt_iff_lt_mul positive
    rw [quotient]
    omega

theorem addInt64_eq {left right : Int} (nonneg : 0 ≤ left + right)
    (fits : left + right ≤ 9223372036854775807) :
    FileState.addInt64 left right = left + right := by
  unfold FileState.addInt64
  rw [Int.bmod_def]
  omega

theorem forall_mem_three {first second third : Computation} :
    (∀ computation ∈ [first, second, third], computation.Safe) ↔
      first.Safe ∧ second.Safe ∧ third.Safe := by
  simp

/-- What is computed for a chunk at a position is in range exactly when the chunk is. -/
theorem UploadReq.computations_safe_iff {req : UploadReq} (nonneg : 0 ≤ req.offset) :
    (∀ computation ∈ req.computations, computation.Safe) ↔ req.InRange := by
  have length : (0 : Int) ≤ req.filedata.length := Int.natCast_nonneg _
  rw [UploadReq.computations, forall_mem_three]
  by_cases fits : req.offset + req.filedata.length ≤ 9223372036854775807
  · have sum : (Computation.sum req.offset req.filedata.length).Safe :=
      ⟨by omega, fits⟩
    have reported : req.reported =
        if req.offset + req.filedata.length = req.filesize then req.filesize else req.offset := by
      rw [UploadReq.reported, addInt64_eq (by omega) fits]
    have product : (Computation.product req.reported 100).Safe ↔
        -9223372036854775808 ≤ req.reported * 100 ∧ req.reported * 100 ≤ 9223372036854775807 :=
      Iff.rfl
    have reportedNonneg : 0 ≤ req.reported * 100 := by
      rw [reported]
      split <;> omega
    rw [and_iff_right sum, product, percent_safe_iff reportedNonneg, reported]
    unfold UploadReq.InRange maxReported
    split <;> omega
  · refine ⟨fun safe => absurd safe.1.2 fits, fun inRange => absurd inRange.2.1 fits⟩

namespace FileState

variable {File : Type}

theorem chunkSize_bounds (clientNetType : Int) :
    0 < chunkSize clientNetType ∧ chunkSize clientNetType ≤ bufferSize := by
  unfold chunkSize bufferSize
  split <;> omega

/-- What is computed for a chunk of a download is in range exactly when the position is. -/
theorem sendComputations_safe_iff {session : FileSession}
    (nonneg : 0 ≤ session.currentDownloadFileOffset) (clientNetType : Int) :
    (∀ computation ∈ sendComputations session clientNetType, computation.Safe) ↔
      PositionFits session.currentDownloadFileOffset session.currentDownloadFileSize
        clientNetType := by
  obtain ⟨positive, inBuffer⟩ := chunkSize_bounds clientNetType
  unfold bufferSize at inBuffer
  have chunk : currentSendSize session clientNetType =
      if session.currentDownloadFileSize ≤
          session.currentDownloadFileOffset + chunkSize clientNetType then
        session.currentDownloadFileSize - session.currentDownloadFileOffset
      else chunkSize clientNetType := rfl
  generalize size : currentSendSize session clientNetType = sent at chunk
  by_cases backward : sent < 0
  · -- The position is behind the file.
    have unsafe' : ¬∀ computation ∈ sendComputations session clientNetType, computation.Safe := by
      intro safe
      have copied : (Computation.chunk sent).Safe :=
        safe _ (by simp [sendComputations, size])
      exact absurd copied.1 (by omega)
    refine ⟨fun safe => absurd safe unsafe', fun fits => ?_⟩
    have inside := fits.2.1
    split at chunk <;> omega
  · have listed : (∀ computation ∈ sendComputations session clientNetType, computation.Safe) ↔
        (Computation.sum session.currentDownloadFileOffset (chunkSize clientNetType)).Safe ∧
          (Computation.chunk sent).Safe ∧
          (Computation.sum session.currentDownloadFileOffset sent).Safe ∧
          (Computation.product (session.currentDownloadFileOffset + sent) 100).Safe ∧
          (Computation.percent ((session.currentDownloadFileOffset + sent) * 100)
            session.currentDownloadFileSize).Safe := by
      simp only [sendComputations, size, if_neg backward]
      by_cases sends : 0 < sent <;> simp [sends]
    have sums : ∀ left right : Int, (Computation.sum left right).Safe ↔
        -9223372036854775808 ≤ left + right ∧ left + right ≤ 9223372036854775807 :=
      fun _ _ => Iff.rfl
    have product : (Computation.product (session.currentDownloadFileOffset + sent) 100).Safe ↔
        -9223372036854775808 ≤ (session.currentDownloadFileOffset + sent) * 100 ∧
          (session.currentDownloadFileOffset + sent) * 100 ≤ 9223372036854775807 := Iff.rfl
    have copied : (Computation.chunk sent).Safe ↔ 0 ≤ sent ∧ sent ≤ 512 * 1024 := Iff.rfl
    rw [listed, sums, copied, sums, product, percent_safe_iff (by omega)]
    unfold PositionFits maxReported
    split at chunk <;> omega

/-! ### One request -/

section Request

variable [DecidableEq File] {fileOf : Name → File} {state : FileState File}

/-- On an open stream, a chunk that is written and flushed is computed with. -/
theorem chunkComputations_eq {fp : Nat} {stream : Stream File}
    (found : state.stdio.streams fp = some stream) (req : UploadReq) (calls : Calls) :
    state.chunkComputations fp req calls =
      if calls.Writes req ∧ calls.fflush = true then req.computations else [] := by
  unfold chunkComputations
  by_cases seeks : calls.fseek = true ∧ 0 ≤ req.offset
  · have sought : state.stdio.seekSet fp req.offset calls.fseek =
        (true, (state.stdio.uses fp).moves fp req.offset.toNat) := if_pos seeks
    have there : ((state.stdio.uses fp).moves fp req.offset.toNat).streams fp =
        some { stream with pos := req.offset.toNat } := by
      simp [Stdio.moves, Stdio.uses, found]
    have count : (((state.stdio.uses fp).moves fp req.offset.toNat).write fp req.filedata
        calls.fwrite).1 = min (calls.fwrite.getD req.filedata.length) req.filedata.length := by
      unfold Stdio.write
      rw [there]
      exact List.length_take
    simp only [sought, Bool.true_eq_false, if_false, count, Stdio.flush]
    by_cases full : req.filedata.length ≤ calls.fwrite.getD req.filedata.length
    · rw [if_neg (by omega)]
      have writes : calls.Writes req := ⟨seeks, full⟩
      cases flushed : calls.fflush <;> simp [writes]
    · rw [if_pos (by omega), if_neg fun all => full all.1.2]
  · have sought : state.stdio.seekSet fp req.offset calls.fseek = (false, state.stdio.uses fp) :=
      if_neg seeks
    simp only [sought, if_true]
    rw [if_neg fun all => seeks all.1.1]

theorem chunkComputations_safe_iff {fp : Nat} {stream : Stream File}
    (found : state.stdio.streams fp = some stream) (req : UploadReq) (calls : Calls) :
    (∀ computation ∈ state.chunkComputations fp req calls, computation.Safe) ↔
      (calls.Writes req → calls.fflush = true → req.InRange) := by
  rw [chunkComputations_eq found]
  by_cases written : calls.Writes req ∧ calls.fflush = true
  · rw [if_pos written, UploadReq.computations_safe_iff written.1.1.2]
    exact ⟨fun inRange _ _ => inRange, fun inRange => inRange written.1 written.2⟩
  · rw [if_neg written]
    exact ⟨fun _ writes flushed => absurd ⟨writes, flushed⟩ written, fun _ => nofun⟩

theorem upload_safe_iff (openStream : OpenStream state) (calls : Calls) (req : UploadReq) :
    (∀ computation ∈ state.computations fileOf calls (.upload req), computation.Safe) ↔
      state.KeepsRange fileOf calls (.upload req) := by
  unfold computations KeepsRange
  simp only
  by_cases silent : req.filemd5 = [] ∨ state.AnsweredPresent fileOf req.filemd5 calls
  · rw [if_pos silent]
    refine ⟨fun _ named unanswered => ?_, fun _ => nofun⟩
    exact absurd silent (not_or.mpr ⟨named, unanswered⟩)
  · obtain ⟨named, unanswered⟩ := not_or.mp silent
    rw [if_neg silent, imp_iff_right named, imp_iff_right unanswered]
    by_cases first : req.offset = 0
    · rw [if_pos first, if_pos first]
      by_cases opens : calls.fopen = true
      · rw [if_pos opens, imp_iff_right opens]
        exact chunkComputations_safe_iff (openedForWrite_stream fileOf _ _) req calls
      · rw [if_neg opens]
        exact ⟨fun _ opened => absurd opened opens, fun _ => nofun⟩
    · rw [if_neg first, if_neg first, located_fp]
      cases held : state.session.fp with
      | none => exact ⟨fun _ occupied => absurd rfl occupied, fun _ => nofun⟩
      | some fp =>
          obtain ⟨stream, found⟩ := openStream.there fp held
          rw [← located_stdio fileOf state req.seq req.filemd5 calls] at found
          rw [imp_iff_right (by simp)]
          exact chunkComputations_safe_iff found req calls

theorem download_safe_iff (nonneg : 0 ≤ state.session.currentDownloadFileOffset) (calls : Calls)
    (req : DownloadReq) :
    (∀ computation ∈ state.computations fileOf calls (.download req), computation.Safe) ↔
      state.KeepsRange fileOf calls (.download req) := by
  unfold computations KeepsRange
  simp only
  by_cases silent : req.filemd5 = [] ∨ (state.isFileExsit fileOf req.filemd5 calls).1 = false
  · rw [if_pos silent]
    refine ⟨fun _ named present => ?_, fun _ => nofun⟩
    rcases silent with unnamed | absent
    · exact absurd unnamed named
    · exact absurd (present.symm.trans absent) (by simp)
  · obtain ⟨named, present⟩ := not_or.mp silent
    rw [Bool.not_eq_false] at present
    rw [if_neg silent, imp_iff_right named, imp_iff_right present]
    rw [located_fp]
    cases held : state.session.fp with
    | some fp => exact sendComputations_safe_iff nonneg req.clientNetType
    | none =>
        have cases := openDownload_cases fileOf (state.located fileOf req.seq req.filemd5 calls)
          req.filemd5 calls
        simp only
        generalize (state.located fileOf req.seq req.filemd5 calls).openDownload fileOf
          req.filemd5 calls = opened at cases ⊢
        cases cases with
        | unopened missing =>
            refine ⟨fun _ opens content there => ?_, fun _ => nofun⟩
            exact absurd ⟨opens, Option.isSome_iff_exists.mpr ⟨content, there⟩⟩ missing
        | failed opens there unmeasured =>
            refine ⟨fun _ _ content also measures => ?_, fun _ => nofun⟩
            have same := Option.some.inj (also.symm.trans there)
            exact absurd (same ▸ measures) unmeasured
        | @opened measured stdio opens there measures =>
            have position := @sendComputations_safe_iff
              { state.session with
                seq := req.seq
                fp := some state.stdio.nextFp
                currentDownloadFileSize := measured.length } nonneg req.clientNetType
            refine position.trans ⟨fun fits _ content also _ => ?_, fun fits => ?_⟩
            · have same := Option.some.inj (also.symm.trans there)
              exact same ▸ fits
            · exact fits opens measured there measures

/-- What a request computes is in range exactly when the request meets the condition. -/
theorem computations_safe_iff (openStream : OpenStream state)
    (nonneg : 0 ≤ state.session.currentDownloadFileOffset) (calls : Calls) (request : Request) :
    (∀ computation ∈ state.computations fileOf calls request, computation.Safe) ↔
      state.KeepsRange fileOf calls request := by
  cases request with
  | upload req => exact upload_safe_iff openStream calls req
  | download req => exact download_safe_iff nonneg calls req

end Request

/-! ### The end of the server -/

section Crash

variable [DecidableEq File] {fileOf : Name → File} {state : FileState File}

omit [DecidableEq File] in
theorem uploadResp_crashed_iff (req : UploadReq) :
    (state.uploadResp req).1.crashed = true ↔
      ∃ computation ∈ req.computations, computation.Faults := by
  unfold uploadResp
  simp only
  split <;> simp [UploadReq.computations, Computation.Faults]

theorem writeChunk_crashed_iff (fp : Nat) (req : UploadReq) (calls : Calls) :
    (state.writeChunk fp req calls).1.crashed = true ↔
      ∃ computation ∈ state.chunkComputations fp req calls, computation.Faults := by
  unfold writeChunk chunkComputations
  simp only
  split
  · simp [Reply.refused]
  · split
    · simp [Reply.refused]
    · split
      · simp [Reply.refused]
      · exact uploadResp_crashed_iff req

omit [DecidableEq File] in
theorem sendChunk_crashed_iff (fp : Nat) (req : DownloadReq) (calls : Calls) :
    (state.sendChunk fp req calls).1.crashed = true ↔
      ∃ computation ∈ sendComputations state.session req.clientNetType, computation.Faults := by
  unfold sendChunk sendComputations
  simp only
  by_cases backward : currentSendSize state.session req.clientNetType < 0
  · simp [backward, Computation.Faults]
  · simp only [if_neg backward]
    by_cases sends : 0 < currentSendSize state.session req.clientNetType <;>
      simp [sends, backward, Computation.Faults]

/-- A request ends the server exactly when one of its computations does. -/
theorem crashed_iff (request : Request) (calls : Calls) :
    (state.process fileOf request calls).1.crashed = true ↔
      ∃ computation ∈ state.computations fileOf calls request, computation.Faults := by
  cases request with
  | upload req =>
      by_cases named : req.filemd5 = []
      · simp [process, computations, named, Reply.refused]
      · rw [process_upload fileOf state named calls, computations]
        simp only [named, false_or]
        split
        · simp
        · split
          · rw [firstChunk_eq]
            split
            · exact writeChunk_crashed_iff _ req calls
            · simp [Reply.refused]
          · rw [laterChunk, located_fp]
            cases state.session.fp with
            | none => simp [Reply.refused]
            | some fp => exact writeChunk_crashed_iff fp req calls
  | download req =>
      by_cases named : req.filemd5 = []
      · simp [process, computations, named, Reply.refused]
      · rw [process_download fileOf state named calls, computations]
        simp only [named, false_or]
        split
        · simp
        · rw [located_fp]
          cases state.session.fp with
          | some fp => exact sendChunk_crashed_iff fp req calls
          | none =>
              simp only
              generalize (state.located fileOf req.seq req.filemd5 calls).openDownload fileOf
                req.filemd5 calls = opened
              obtain ⟨measured, after⟩ := opened
              cases measured with
              | false => simp [Reply.refused]
              | true =>
                  cases after.session.fp with
                  | none => simp [Reply.refused]
                  | some fp => exact sendChunk_crashed_iff fp req calls

end Crash

/-! ### The position over a run -/

/-- The position of a download is not negative. -/
def Forward (state : FileState File) : Prop :=
  0 ≤ state.session.currentDownloadFileOffset

namespace Forward

variable {state : FileState File}

theorem resetFile (forward : Forward state) : Forward state.resetFile := by
  unfold FileState.resetFile
  split
  · exact forward
  · exact Int.le_refl 0

theorem sendChunk (forward : Forward state) (fp : Nat) (req : DownloadReq) (calls : Calls) :
    Forward (state.sendChunk fp req calls).2 := by
  unfold FileState.sendChunk
  simp only
  split
  · exact forward
  · have ahead : 0 ≤ state.session.currentDownloadFileOffset +
        currentSendSize state.session req.clientNetType := by
      unfold Forward at forward
      omega
    split
    · exact resetFile ahead
    · exact ahead

theorem openDownload (fileOf : Name → File) (forward : Forward state) (filemd5 : Name)
    (calls : Calls) : Forward (state.openDownload fileOf filemd5 calls).2 := by
  have cases := openDownload_cases fileOf state filemd5 calls
  generalize state.openDownload fileOf filemd5 calls = result at cases ⊢
  cases cases <;> exact forward

theorem download (fileOf : Name → File) (forward : Forward state) (req : DownloadReq)
    (calls : Calls) : Forward (state.onDownloadFileResponse fileOf req calls).2 := by
  have found : Forward (state.isFileExsit fileOf req.filemd5 calls).2 := forward
  unfold FileState.onDownloadFileResponse
  split
  · exact forward
  · simp only
    split
    · exact found
    · split
      · exact found.sendChunk _ req calls
      · have opened := found.openDownload fileOf req.filemd5 calls
        split
        · exact opened.sendChunk _ req calls
        · exact opened

variable [DecidableEq File]

theorem writeChunk (forward : Forward state) (fp : Nat) (req : UploadReq) (calls : Calls) :
    Forward (state.writeChunk fp req calls).2 := by
  unfold FileState.writeChunk FileState.uploadResp
  simp only
  split
  · exact resetFile forward
  · split
    · exact resetFile forward
    · split
      · exact forward
      · split
        · exact resetFile forward
        · exact forward

theorem upload (fileOf : Name → File) (forward : Forward state) (req : UploadReq)
    (calls : Calls) : Forward (state.onUploadFileResponse fileOf req calls).2 := by
  have found : Forward (state.isFileExsit fileOf req.filemd5 calls).2 := forward
  unfold FileState.onUploadFileResponse
  split
  · exact forward
  · simp only
    split
    · exact found
    · split
      · rw [firstChunk_eq]
        split
        · have opened : Forward ((state.isFileExsit fileOf req.filemd5 calls).2.openedForWrite
              fileOf req.filemd5) := forward
          exact opened.writeChunk _ req calls
        · exact found
      · unfold laterChunk
        split
        · exact found
        · exact found.writeChunk _ req calls

theorem step (fileOf : Name → File) (forward : Forward state) (event : Request × Calls) :
    Forward (state.step fileOf event) := by
  have named : ∀ seq, Forward { state with session := { state.session with seq := seq } } :=
    fun _ => forward
  unfold FileState.step FileState.process
  cases event.1 with
  | upload req =>
      simp only
      split
      · exact named req.seq
      · exact (named req.seq).upload fileOf req event.2
  | download req =>
      simp only
      split
      · exact named req.seq
      · exact (named req.seq).download fileOf req event.2

end Forward

end FileState

namespace Progress

variable {File : Type} [DecidableEq File] (fileOf : Name → File)

/-- What holds of a session as long as what it computes is in range. -/
structure Sound (progress : Progress File) : Prop where
  openStream : progress.state.OpenStream
  forward : progress.state.Forward
  inRange : progress.InRange

omit [DecidableEq File] in
theorem Sound.start (manager : FileManager) (fileBaseDir : Name) (disk : File → Option Bytes) :
    Sound (Progress.start manager fileBaseDir disk) :=
  ⟨.start manager fileBaseDir disk, Int.le_refl 0, nofun⟩

/-- A step keeps everything in range exactly when it meets the condition. -/
theorem Sound.step_iff {progress : Progress File} (sound : Sound progress)
    (event : ProgressEvent File) :
    (progress.step fileOf event).InRange ↔ progress.Keeps fileOf event := by
  cases event with
  | request request calls =>
      have here : (∀ computation ∈ progress.state.computations fileOf calls request,
          computation.Safe) ↔ progress.state.KeepsRange fileOf calls request :=
        FileState.computations_safe_iff sound.openStream sound.forward calls request
      rw [show progress.Keeps fileOf (.request request calls) =
        progress.state.KeepsRange fileOf calls request from rfl, ← here]
      constructor
      · intro inRange computation member
        exact inRange computation (List.mem_append_right _ member)
      · intro safe computation member
        rcases List.mem_append.mp member with earlier | now
        · exact sound.inRange computation earlier
        · exact safe computation now
  | others listFiles contents => exact ⟨fun _ => trivial, fun _ => sound.inRange⟩

theorem Sound.step {progress : Progress File} (sound : Sound progress) (event : ProgressEvent File)
    (keeps : progress.Keeps fileOf event) : Sound (progress.step fileOf event) := by
  have inRange := (sound.step_iff fileOf event).mpr keeps
  cases event with
  | request request calls =>
      exact ⟨sound.openStream.step (request, calls), sound.forward.step fileOf (request, calls),
        inRange⟩
  | others listFiles contents =>
      refine ⟨⟨sound.openStream.there, fun fp stream opened gone => ?_⟩, sound.forward, inRange⟩
      refine sound.openStream.onDisk fp stream opened ?_
      cases given : contents stream.file with
      | none => simpa [Progress.step, given] using gone
      | some content => simp [Progress.step, given] at gone

/-- Everything that a session computes is in range, all along a run, exactly when each of its
requests meets the condition. -/
theorem progress_inRange_iff (manager : FileManager) (fileBaseDir : Name)
    (disk : File → Option Bytes) (events : List (ProgressEvent File)) :
    Always (Progress.step fileOf) InRange (Progress.start manager fileBaseDir disk) events ↔
      Meets (Progress.step fileOf) (Keeps fileOf) (Progress.start manager fileBaseDir disk)
        events := by
  have exactStep : ∀ (progress : Progress File) event, Sound progress → True →
      ((progress.step fileOf event).InRange ↔ progress.Keeps fileOf event) :=
    fun _ event sound _ => sound.step_iff fileOf event
  have kept : ∀ (progress : Progress File) event, Sound progress → True →
      progress.Keeps fileOf event → Sound (progress.step fileOf event) :=
    fun _ event sound _ keeps => sound.step fileOf event keeps
  exact always_iff_meets exactStep kept (fun _ sound => sound.inRange) events
    (Sound.start manager fileBaseDir disk) (meets_true _ events _)

/-- An empty file that is uploaded: its size is divided by. -/
def emptyUpload : ProgressEvent Name :=
  .request (.upload ⟨1, [97], 0, 0, []⟩) .succeed

theorem progress_emptyUpload :
    ¬Always (Progress.step id) InRange
      (Progress.start (FileManager.init [] []) [] fun _ => none) [emptyUpload] := by
  intro always
  have sound : Sound (Progress.start (FileManager.init [] []) [] fun _ : Name => none) :=
    Sound.start _ _ _
  have keeps := (sound.step_iff id emptyUpload).mp always.2.head
  have inRange := keeps (by decide) (by decide) rfl (by decide) rfl
  exact inRange.1 rfl

end Progress

end AChat.FileServer
