import AChat.Lib.Reach
import AChat.Lib.Stdio

/-!
Contract: what becomes of the lines of the asynchronous log.

Any number of threads call `output`, one thread writes, and one calls `uninit`. What a thread does
under the mutex is one step for `output`, and for the writer a step for each thing that another
thread can see. `uninit` does not take the mutex. The texts of a time are the system's, and so are
the moments at which the writer is woken for no reason. Every file operation succeeds.

Owns: the log with its threads and files, and what is kept of the lines.
-/

namespace AChat.Base

open Lib

inductive LogLevel where
  | trace
  | debug
  | info
  | warning
  | error
  | syserror
  | fatal
  | critical
deriving DecidableEq, Repr

namespace LogLevel

def number : LogLevel → Nat
  | trace => 0
  | debug => 1
  | info => 2
  | warning => 3
  | error => 4
  | syserror => 5
  | fatal => 6
  | critical => 7

def linePrefix : LogLevel → String
  | trace => "[TRACE]"
  | debug => "[DEBUG]"
  | info => "[INFO]"
  | warning => "[WARN]"
  | error => "[ERROR]"
  | syserror => "[SYSE]"
  | fatal => "[FATAL]"
  | critical => "[CRITICAL]"

end LogLevel

/-- What `init` and `setLevel` set, and the text of a second of the clock, by `localtime_r` and
`strftime`. -/
structure LogSettings where
  strFileName : String
  strFileNamePID : String
  bTruncateLongLog : Bool
  nFileRollSize : Int
  nCurrentLevel : LogLevel
  timeText : Nat → String

/-- Where the write thread is. It holds the mutex in `inLock` and `beforeWait`. -/
inductive WriteThread where
  | top
  | atLock
  | inLock
  | beforeWait
  | waiting
  | woken
  | writes (line : Bytes)
  | ended
deriving DecidableEq, Repr

/-- Where the thread is that calls `uninit`. -/
inductive UninitThread where
  | notCalled
  | exitSet
  | joining
  | returned
deriving DecidableEq, Repr

/-- `files` are in the order of their creation. `accepted` are the lines that were put into the
queue, in order. -/
structure AsyncLog where
  listLinesToWrite : List Bytes
  hLogFile : Option String
  nCurrentWrittenSize : Int
  bExit : Bool
  writeThread : WriteThread
  uninitThread : UninitThread
  files : List (String × Bytes)
  accepted : List Bytes
deriving DecidableEq, Repr

/-- A step of a thread. The writer reads the clock. -/
inductive LogEvent where
  | output (level : LogLevel) (time thread place message : Bytes)
  | uninit
  | writeThread (now : Nat)
  | wakeUp
deriving DecidableEq, Repr

namespace AsyncLog

def maxLineLength : Nat := 256

/-! ### `AsyncLog.cpp` -/

/-- After `init`. -/
def init : AsyncLog where
  listLinesToWrite := []
  hLogFile := none
  nCurrentWrittenSize := 0
  bExit := false
  writeThread := .top
  uninitThread := .notCalled
  files := []
  accepted := []

/-- The line of `output`. The texts of the time, the thread and the place are cut to their
buffers. -/
def makeLine (settings : LogSettings) (level : LogLevel) (time thread place message : Bytes) :
    Bytes :=
  level.linePrefix.toUTF8.toList ++ [91] ++ time.take 63 ++ [93] ++ thread.take 31 ++
    place.take 511 ++
    (if settings.bTruncateLongLog then message.take maxLineLength else message) ++
    if settings.strFileName.isEmpty then [] else [10]

/-- `notify_one`: only the writer waits. -/
def notifyOne (log : AsyncLog) : AsyncLog :=
  if log.writeThread = .waiting then { log with writeThread := .woken } else log

/-- A line of the level gets into the queue. -/
def accepts (settings : LogSettings) (level : LogLevel) : Bool :=
  decide (level = .critical ∨ settings.nCurrentLevel.number ≤ level.number)

/-- `output` of a level other than FATAL. It waits while the writer holds the mutex. -/
def output (settings : LogSettings) (log : AsyncLog) (level : LogLevel)
    (time thread place message : Bytes) : AsyncLog :=
  if accepts settings level = false then log
  else if log.writeThread = .inLock ∨ log.writeThread = .beforeWait then log
  else
    let strLine := makeLine settings level time thread place message
    { log with
      listLinesToWrite := log.listLinesToWrite ++ [strLine]
      accepted := log.accepted ++ [strLine] }.notifyOne

def uninit (log : AsyncLog) : AsyncLog :=
  match log.uninitThread with
  | .notCalled => { log with bExit := true, uninitThread := .exitSet }
  | .exitSet => { log with uninitThread := .joining }.notifyOne
  | .joining =>
      if log.writeThread = .ended then { log with hLogFile := none, uninitThread := .returned }
      else log
  | .returned => log

def newFileName (settings : LogSettings) (now : Nat) : String :=
  settings.strFileName ++ "." ++ settings.timeText now ++ "." ++ settings.strFileNamePID ++ ".log"

/-- `fopen` with the mode `w+`. -/
def createNewFile (log : AsyncLog) (name : String) : AsyncLog :=
  { log with
    hLogFile := some name
    files :=
      if name ∈ log.files.map Prod.fst then
        log.files.map fun file => if file.1 = name then (name, []) else file
      else log.files ++ [(name, [])] }

/-- The loop of `writeToFile`: what is written, and the result. `fwrite` takes everything, and
what it returns is kept in an `int`. Every turn but the last takes a byte at least. -/
def writeLoop : Nat → Bytes → Bytes × Bool
  | 0, strLocal => (strLocal, false)
  | turns + 1, strLocal =>
      let ret := Int.bmod strLocal.length (2 ^ 32)
      if ret ≤ 0 then (strLocal, false)
      else
        let left := strLocal.drop ret.toNat
        if left = [] then (strLocal, true)
        else
          let rest := writeLoop turns left
          (strLocal ++ rest.1, rest.2)

def writeToFile (data : Bytes) : Bytes × Bool :=
  writeLoop (data.length + 1) data

/-- The condition for a new file. -/
def Rolls (settings : LogSettings) (log : AsyncLog) : Prop :=
  settings.strFileName.isEmpty = false ∧
    (log.hLogFile = none ∨ log.nCurrentWrittenSize ≥ settings.nFileRollSize)

instance (settings : LogSettings) (log : AsyncLog) : Decidable (log.Rolls settings) :=
  inferInstanceAs (Decidable (_ ∧ _))

/-- One step of `writeThreadProc`. -/
def writeThreadProc (settings : LogSettings) (log : AsyncLog) (now : Nat) : AsyncLog :=
  match log.writeThread with
  | .top =>
      if log.Rolls settings then
        { ({ log with nCurrentWrittenSize := 0 }.createNewFile (newFileName settings now)) with
          writeThread := .atLock }
      else { log with writeThread := .atLock }
  | .atLock => { log with writeThread := .inLock }
  | .woken => { log with writeThread := .inLock }
  | .inLock =>
      match log.listLinesToWrite with
      | [] => { log with writeThread := if log.bExit then .ended else .beforeWait }
      | line :: later => { log with listLinesToWrite := later, writeThread := .writes line }
  | .beforeWait => { log with writeThread := .waiting }
  | .waiting => log
  | .writes line =>
      if settings.strFileName.isEmpty then { log with writeThread := .top }
      else
        let wrote := writeToFile line
        { log with
          files := log.files.map fun file =>
            if some file.1 = log.hLogFile then (file.1, file.2 ++ wrote.1) else file
          nCurrentWrittenSize :=
            if wrote.2 then log.nCurrentWrittenSize + line.length else log.nCurrentWrittenSize
          writeThread := if wrote.2 then .top else .ended }
  | .ended => log

def step (settings : LogSettings) (log : AsyncLog) : LogEvent → AsyncLog
  | .output level time thread place message =>
      log.output settings level time thread place message
  | .uninit => log.uninit
  | .writeThread now => log.writeThreadProc settings now
  | .wakeUp => log.notifyOne

/-! ### What is kept -/

/-- `uninit` is called when every `output` has returned. The level is below FATAL, and the length
of the message is an `int`, with room for the end. -/
def Promised (log : AsyncLog) : LogEvent → Prop
  | .output level _ _ _ message =>
      level.number < LogLevel.fatal.number ∧ log.uninitThread = .notCalled ∧
        message.length + 1 < 2 ^ 31
  | _ => True

instance (log : AsyncLog) (event : LogEvent) : Decidable (log.Promised event) := by
  cases event <;> unfold Promised <;> infer_instance

/-- The concatenation of the files. -/
def written (log : AsyncLog) : Bytes :=
  (log.files.map Prod.snd).flatten

/-- The line that was taken out of the queue and not yet written. -/
def inHand (log : AsyncLog) : List Bytes :=
  match log.writeThread with
  | .writes line => [line]
  | _ => []

/-- The accepted lines are in the files, in hand or in the queue, each once and in order, no line
is left to a writer that has ended, and when `uninit` has returned all are in the files. The
writer does not wait when the exit flag is set and its notification was made. -/
structure LosesNothing (log : AsyncLog) : Prop where
  kept : log.written ++ (log.inHand ++ log.listLinesToWrite).flatten = log.accepted.flatten
  read : log.writeThread = .ended → log.listLinesToWrite = []
  complete : log.uninitThread = .returned → log.written = log.accepted.flatten
  awake : ¬ (log.writeThread = .waiting ∧ log.bExit = true ∧ log.uninitThread ≠ .exitSet)

/-- A new file has a new name. The writer does not go to sleep on a notification. It returns
early for a line too long only when that was the last one. -/
structure Undisturbed (settings : LogSettings) (log : AsyncLog) (event : LogEvent) : Prop where
  fresh : ∀ now, event = .writeThread now → log.writeThread = .top → log.Rolls settings →
    newFileName settings now ∉ log.files.map Prod.fst
  heard : ∀ now, event = .writeThread now → log.writeThread = .beforeWait →
    log.uninitThread ≠ .joining
  short : ∀ now line, event = .writeThread now → log.writeThread = .writes line →
    2 ^ 31 ≤ line.length → log.listLinesToWrite = []
  served : ∀ level time thread place message,
    event = .output level time thread place message → accepts settings level = true →
    log.writeThread ≠ .ended

/-! ### The files -/

section Files

theorem bmod_of_short {size : Nat} (short : size < 2 ^ 31) :
    Int.bmod size (2 ^ 32) = size := by
  simp only [Int.bmod]
  omega

theorem bmod_of_long {size : Nat} (long : 2 ^ 31 ≤ size) (bound : size < 2 ^ 32) :
    Int.bmod size (2 ^ 32) ≤ 0 := by
  simp only [Int.bmod]
  omega

theorem writeToFile_of_short {data : Bytes} (some_ : data ≠ []) (short : data.length < 2 ^ 31) :
    writeToFile data = (data, true) := by
  have positive := List.length_pos_iff.mpr some_
  have ret := bmod_of_short short
  have whole : ¬ ((data.length : Int) ≤ 0) := by omega
  unfold writeToFile writeLoop
  simp only [ret, if_neg whole, Int.toNat_natCast, List.drop_length, if_true]

theorem writeToFile_of_long {data : Bytes} (long : 2 ^ 31 ≤ data.length)
    (bound : data.length < 2 ^ 32) : writeToFile data = (data, false) := by
  unfold writeToFile writeLoop
  simp only [if_pos (bmod_of_long long bound)]

/-- Whatever the result, the line is in the file once. -/
theorem writeToFile_fst {data : Bytes} (some_ : data ≠ []) (bound : data.length < 2 ^ 32) :
    (writeToFile data).1 = data := by
  by_cases short : data.length < 2 ^ 31
  · rw [writeToFile_of_short some_ short]
  · rw [writeToFile_of_long (Nat.le_of_not_lt short) bound]

/-- A file that is created again loses its content. -/
theorem length_truncated_lt {files : List (String × Bytes)} {name : String}
    (again : name ∈ files.map Prod.fst) (full : ∀ file ∈ files, file.2 ≠ []) :
    ((files.map fun file => if file.1 = name then (name, []) else file).map
      Prod.snd).flatten.length < (files.map Prod.snd).flatten.length := by
  have least (rest : List (String × Bytes)) :
      ((rest.map fun file => if file.1 = name then (name, []) else file).map
        Prod.snd).flatten.length ≤ (rest.map Prod.snd).flatten.length := by
    induction rest with
    | nil => exact Nat.le_refl _
    | cons file rest inductionHypothesis =>
        simp only [List.map_cons, List.flatten_cons, List.length_append]
        split
        · simp only [List.length_nil]
          omega
        · omega
  induction files with
  | nil => cases again
  | cons file rest inductionHypothesis =>
      have content := List.length_pos_iff.mpr (full file List.mem_cons_self)
      have others := least rest
      simp only [List.map_cons, List.flatten_cons, List.length_append]
      split
      · simp only [List.length_nil]
        omega
      · rename_i other
        have later : name ∈ rest.map Prod.fst := by
          rcases List.mem_cons.mp again with first | later
          · exact absurd first.symm other
          · exact later
        have less := inductionHypothesis later fun file mem => full file (List.mem_cons_of_mem _ mem)
        omega

/-- What is written goes to the end of the last file. -/
theorem map_append_last {before : List (String × Bytes)} {name : String} {content data : Bytes}
    (distinct : ((before ++ [(name, content)]).map Prod.fst).Nodup) :
    ((before ++ [(name, content)]).map fun file =>
      if some file.1 = some name then (file.1, file.2 ++ data) else file) =
      before ++ [(name, content ++ data)] := by
  have others : ∀ file ∈ before, file.1 ≠ name := by
    intro file mem is
    rw [List.map_append, List.nodup_append] at distinct
    exact distinct.2.2 file.1 (List.mem_map_of_mem mem) name (by simp) is
  rw [List.map_append]
  congr 1
  · refine (List.map_congr_left fun file mem => ?_).trans (List.map_id before)
    simp [others file mem]
  · simp

end Files

/-! ### The invariant -/

/-- What `output` makes of a message whose length is an `int`. -/
def IsLine (line : Bytes) : Prop :=
  line ≠ [] ∧ line.length < 2 ^ 32

/-- The last file is the open one, only it may be empty, and it is not when the writer comes to
the top of its loop. -/
structure Sound (log : AsyncLog) : Prop where
  lines : ∀ line ∈ log.inHand ++ log.listLinesToWrite, IsLine line
  kept : log.written ++ (log.inHand ++ log.listLinesToWrite).flatten = log.accepted.flatten
  read : log.writeThread = .ended → log.listLinesToWrite = []
  joined : log.uninitThread = .returned → log.writeThread = .ended
  exit : log.bExit = true ↔ log.uninitThread ≠ .notCalled
  awake : log.writeThread = .waiting →
    log.uninitThread = .notCalled ∨ log.uninitThread = .exitSet
  names : (log.files.map Prod.fst).Nodup
  last : ∀ name, log.hLogFile = some name →
    ∃ before content, log.files = before ++ [(name, content)]
  opened : log.writeThread ≠ .top → log.writeThread ≠ .ended → log.hLogFile.isSome
  full : log.writeThread ≠ .ended → ∀ file ∈ log.files, file.2 = [] →
    log.writeThread ≠ .top ∧ log.hLogFile = some file.1

section Invariant

variable {settings : LogSettings} {log : AsyncLog}

theorem sound_init : Sound init := by
  constructor <;> simp [init, inHand, written]

theorem Sound.losesNothing (sound : Sound log) : LosesNothing log where
  kept := sound.kept
  read := sound.read
  complete returned := by
    have ended := sound.joined returned
    have kept := sound.kept
    have nothing : log.inHand = [] := by
      rw [inHand, ended]
    rwa [nothing, sound.read ended, List.append_nil, List.flatten_nil, List.append_nil] at kept
  awake := by
    rintro ⟨waits, exit, notified⟩
    rcases sound.awake waits with notCalled | exitSet
    · exact sound.exit.mp exit notCalled
    · exact notified exitSet

/-- The writer goes on, with nothing in hand before and after. -/
theorem Sound.goesOn (sound : Sound log) {next : WriteThread} (running : log.writeThread ≠ .ended)
    (notTop : log.writeThread ≠ .top) (hand : ({ log with writeThread := next }).inHand = log.inHand)
    (read : next = .ended → log.listLinesToWrite = [])
    (joined : log.uninitThread ≠ .returned)
    (awake : next = .waiting → log.uninitThread = .notCalled ∨ log.uninitThread = .exitSet)
    (top : next ≠ .top) : Sound { log with writeThread := next } where
  lines := hand ▸ sound.lines
  kept := by
    rw [hand]
    exact sound.kept
  read := read
  joined returned := absurd returned joined
  exit := sound.exit
  awake := awake
  names := sound.names
  last := sound.last
  opened _ _ := sound.opened notTop running
  full _ file mem empty := ⟨top, (sound.full running file mem empty).2⟩

theorem Sound.notReturned (sound : Sound log) (running : log.writeThread ≠ .ended) :
    log.uninitThread ≠ .returned :=
  fun returned => running (sound.joined returned)

theorem Sound.notifyOne (sound : Sound log) : Sound log.notifyOne := by
  unfold AsyncLog.notifyOne
  split
  · rename_i waits
    have running : log.writeThread ≠ .ended := by
      rw [waits]
      decide
    refine sound.goesOn running (by rw [waits]; decide) ?_ (by simp) (sound.notReturned running)
      (by simp) (by simp)
    simp [inHand, waits]
  · exact sound

/-- The writer comes to the mutex with a file that is open. -/
theorem Sound.top (sound : Sound log) (named : settings.strFileName.isEmpty = false)
    (top : log.writeThread = .top) (now : Nat)
    (fresh : log.Rolls settings → newFileName settings now ∉ log.files.map Prod.fst) :
    Sound (log.writeThreadProc settings now) := by
  have running : log.writeThread ≠ .ended := by simp [top]
  have notReturned := sound.notReturned running
  have full : ∀ file ∈ log.files, file.2 ≠ [] :=
    fun file mem empty => (sound.full running file mem empty).1 top
  have nothing : log.inHand = [] := by simp [inHand, top]
  have lines := sound.lines
  have kept := sound.kept
  rw [nothing] at lines kept
  by_cases rolls : log.Rolls settings
  · have result : log.writeThreadProc settings now =
        { log with
          hLogFile := some (newFileName settings now)
          nCurrentWrittenSize := 0
          files := log.files ++ [(newFileName settings now, [])]
          writeThread := .atLock } := by
      simp only [writeThreadProc, top, if_pos rolls, createNewFile, if_neg (fresh rolls)]
    rw [result]
    exact
      { lines := lines
        kept := by simpa [written, inHand] using kept
        read := by simp
        joined := fun returned => absurd returned notReturned
        exit := sound.exit
        awake := by simp
        names := by
          rw [List.map_append]
          refine List.nodup_append.mpr ⟨sound.names, by simp, ?_⟩
          intro name mem other new is
          rw [is, List.mem_singleton.mp new] at mem
          exact fresh rolls mem
        last := fun name is => ⟨log.files, [], by rw [← Option.some.inj is]⟩
        opened := fun _ _ => rfl
        full := by
          intro _ file mem empty
          rcases List.mem_append.mp mem with old | new
          · exact absurd empty (full file old)
          · rw [List.mem_singleton.mp new]
            exact ⟨by simp, rfl⟩ }
  · have result : log.writeThreadProc settings now = { log with writeThread := .atLock } := by
      simp only [writeThreadProc, top, if_neg rolls]
    have isOpen : log.hLogFile.isSome := by
      rw [Option.isSome_iff_ne_none]
      exact fun closed => rolls ⟨named, .inl closed⟩
    rw [result]
    exact
      { lines := lines
        kept := kept
        read := by simp
        joined := fun returned => absurd returned notReturned
        exit := sound.exit
        awake := by simp
        names := sound.names
        last := sound.last
        opened := fun _ _ => isOpen
        full := fun _ file mem empty => absurd empty (full file mem) }

/-- The queue is looked at under the mutex. -/
theorem Sound.inLock (sound : Sound log) (inLock : log.writeThread = .inLock) (now : Nat) :
    Sound (log.writeThreadProc settings now) := by
  have running : log.writeThread ≠ .ended := by simp [inLock]
  have notTop : log.writeThread ≠ .top := by simp [inLock]
  have notReturned := sound.notReturned running
  have nothing : log.inHand = [] := by simp [inHand, inLock]
  simp only [writeThreadProc, inLock]
  split
  · rename_i empty
    split
    · exact sound.goesOn running notTop (by simp [inHand, inLock]) (fun _ => empty) notReturned
        (by simp) (by simp)
    · exact sound.goesOn running notTop (by simp [inHand, inLock]) (by simp) notReturned
        (by simp) (by simp)
  · rename_i line later queue
    have lines := sound.lines
    have kept := sound.kept
    rw [nothing, queue] at lines kept
    exact
      { lines := lines
        kept := kept
        read := by simp
        joined := fun returned => absurd returned notReturned
        exit := sound.exit
        awake := by simp
        names := sound.names
        last := sound.last
        opened := fun _ _ => sound.opened notTop running
        full := fun _ file mem empty => ⟨by simp, (sound.full running file mem empty).2⟩ }

/-- A line goes to the end of the open file, and then no file is empty. -/
theorem Sound.append_line (sound : Sound log) (running : log.writeThread ≠ .ended)
    (notTop : log.writeThread ≠ .top) {line : Bytes} (isLine : IsLine line) :
    ∃ before name content, log.hLogFile = some name ∧ log.files = before ++ [(name, content)] ∧
      (log.files.map fun file =>
        if some file.1 = log.hLogFile then (file.1, file.2 ++ (writeToFile line).1) else file) =
        before ++ [(name, content ++ line)] ∧
      ∀ file ∈ before ++ [(name, content ++ line)], file.2 ≠ [] := by
  obtain ⟨name, isOpen⟩ := Option.isSome_iff_exists.mp (sound.opened notTop running)
  obtain ⟨before, content, files⟩ := sound.last name isOpen
  have names := sound.names
  rw [files] at names
  refine ⟨before, name, content, isOpen, files, ?_, ?_⟩
  · rw [isOpen, files, writeToFile_fst isLine.1 isLine.2]
    exact map_append_last names
  · intro file mem empty
    rcases List.mem_append.mp mem with old | new
    · have there : file ∈ log.files := by
        rw [files]
        exact List.mem_append_left _ old
      have current := (sound.full running file there empty).2
      rw [List.map_append, List.nodup_append] at names
      exact names.2.2 file.1 (List.mem_map_of_mem old) name (by simp)
        (Option.some.inj (current.symm.trans isOpen))
    · rw [List.mem_singleton.mp new] at empty
      exact isLine.1 (List.append_eq_nil_iff.mp empty).2

/-- The line in hand gets into the file, and the writer goes on unless the line was too long. -/
theorem Sound.writes (sound : Sound log) (named : settings.strFileName.isEmpty = false)
    {line : Bytes} (writes : log.writeThread = .writes line) (now : Nat)
    (short : 2 ^ 31 ≤ line.length → log.listLinesToWrite = []) :
    Sound (log.writeThreadProc settings now) := by
  have running : log.writeThread ≠ .ended := by simp [writes]
  have notTop : log.writeThread ≠ .top := by simp [writes]
  have notReturned := sound.notReturned running
  have hand : log.inHand = [line] := by simp [inHand, writes]
  have lines := sound.lines
  have kept := sound.kept
  have names := sound.names
  rw [hand] at lines kept
  have isLine := lines line (by simp)
  obtain ⟨before, name, content, isOpen, files, appended, filled⟩ :=
    sound.append_line running notTop isLine
  have result : log.writeThreadProc settings now =
      { log with
        files := before ++ [(name, content ++ line)]
        nCurrentWrittenSize :=
          if (writeToFile line).2 then log.nCurrentWrittenSize + line.length
          else log.nCurrentWrittenSize
        writeThread := if (writeToFile line).2 then .top else .ended } := by
    simp only [writeThreadProc, writes, named, Bool.false_eq_true, if_false, appended]
  have emptyHand : (log.writeThreadProc settings now).inHand = [] := by
    rw [result, inHand]
    cases (writeToFile line).2 <;> rfl
  have endsLong : (log.writeThreadProc settings now).writeThread = .ended →
      2 ^ 31 ≤ line.length := by
    intro ended
    by_contra notLong
    rw [result, writeToFile_of_short isLine.1 (Nat.lt_of_not_le notLong)] at ended
    cases ended
  constructor
  · rw [emptyHand, result]
    intro other mem
    exact lines other (List.mem_append_right _ mem)
  · rw [emptyHand, result]
    simpa [written, files] using kept
  · intro ended
    rw [result]
    exact short (endsLong ended)
  · rw [result]
    exact fun returned => absurd returned notReturned
  · rw [result]
    exact sound.exit
  · rw [result]
    cases (writeToFile line).2 <;> simp
  · rw [result]
    simpa [files] using names
  · rw [result]
    intro other is
    have same : name = other := Option.some.inj (isOpen.symm.trans is)
    exact ⟨before, content ++ line, same ▸ rfl⟩
  · rw [result]
    cases (writeToFile line).2 <;> simp
  · rw [result]
    intro _ file mem empty
    exact absurd empty (filled file mem)

/-- The lengths are those of the buffers of `output`, and of a message whose length is an
`int`. -/
theorem isLine_makeLine {level : LogLevel} {time thread place message : Bytes}
    (bound : message.length + 1 < 2 ^ 31) :
    IsLine (makeLine settings level time thread place message) := by
  have levelText : 0 < level.linePrefix.toUTF8.toList.length ∧
      level.linePrefix.toUTF8.toList.length ≤ 10 := by
    cases level <;> decide +kernel
  constructor
  · intro empty
    have size := congrArg List.length empty
    simp only [makeLine, List.length_append, List.length_nil] at size
    omega
  · have cut : (if settings.bTruncateLongLog then message.take maxLineLength
        else message).length ≤ message.length := by
      split
      · rw [List.length_take]
        exact Nat.min_le_right _ _
      · exact Nat.le_refl _
    have ending : (if settings.strFileName.isEmpty then ([] : Bytes) else [10]).length ≤ 1 := by
      split
      · exact Nat.zero_le 1
      · exact Nat.le_refl 1
    simp only [makeLine, List.length_append, List.length_take, List.length_singleton]
    omega

theorem Sound.output (sound : Sound log) {level : LogLevel} {time thread place message : Bytes}
    (bound : message.length + 1 < 2 ^ 31)
    (served : accepts settings level = true → log.writeThread ≠ .ended) :
    Sound (log.output settings level time thread place message) := by
  unfold AsyncLog.output
  split
  · exact sound
  · rename_i accepted
    split
    · exact sound
    · refine Sound.notifyOne ?_
      have running := served (by simpa using accepted)
      exact
        { lines := by
            intro line mem
            rcases List.mem_append.mp mem with hand | queue
            · exact sound.lines line (List.mem_append_left _ hand)
            · rcases List.mem_append.mp queue with old | new
              · exact sound.lines line (List.mem_append_right _ old)
              · rw [List.mem_singleton.mp new]
                exact isLine_makeLine bound
          kept := by
            have kept := sound.kept
            simp only [written, inHand, List.flatten_append, ← List.append_assoc] at kept ⊢
            rw [kept]
          read := fun ended => absurd ended running
          joined := sound.joined
          exit := sound.exit
          awake := sound.awake
          names := sound.names
          last := sound.last
          opened := sound.opened
          full := sound.full }

theorem Sound.uninit (sound : Sound log) : Sound log.uninit := by
  unfold AsyncLog.uninit
  split
  · rename_i notCalled
    exact
      { sound with
        exit := by simp
        joined := by simp
        awake := fun _ => .inr rfl }
  · rename_i exitSet
    have notified := sound.notifyOne
    have notWaiting : log.notifyOne.writeThread ≠ .waiting := by
      unfold AsyncLog.notifyOne
      split
      · simp
      · assumption
    have same : { log with uninitThread := .joining }.notifyOne =
        { log.notifyOne with uninitThread := .joining } := by
      unfold AsyncLog.notifyOne
      split
      · rfl
      · rfl
    have exit : log.notifyOne.bExit = true := by
      have set := sound.exit.mpr (by simp [exitSet])
      unfold AsyncLog.notifyOne
      split
      · exact set
      · exact set
    rw [same]
    exact
      { notified with
        exit := by simp [exit]
        joined := by simp
        awake := fun waits => absurd waits notWaiting }
  · rename_i joining
    split
    · rename_i ended
      exact
        { sound with
          exit := by
            have set := sound.exit.mpr (by simp [joining])
            simp [set]
          joined := fun _ => ended
          awake := fun waits => absurd (waits.symm.trans ended) (by simp)
          last := by simp
          opened := fun _ running => absurd ended running
          full := fun running => absurd ended running }
    · exact sound
  · exact sound

/-- One step of the writer. -/
theorem Sound.writeThreadProc (sound : Sound log) (named : settings.strFileName.isEmpty = false)
    {now : Nat} (undisturbed : log.Undisturbed settings (.writeThread now)) :
    Sound (log.writeThreadProc settings now) := by
  cases at_ : log.writeThread with
  | top => exact sound.top named at_ now (undisturbed.fresh now rfl at_)
  | inLock => exact sound.inLock at_ now
  | writes line => exact sound.writes named at_ now (undisturbed.short now line rfl at_)
  | waiting =>
      simp only [AsyncLog.writeThreadProc, at_]
      exact sound
  | ended =>
      simp only [AsyncLog.writeThreadProc, at_]
      exact sound
  | atLock =>
      have running : log.writeThread ≠ .ended := by simp [at_]
      simp only [AsyncLog.writeThreadProc, at_]
      exact sound.goesOn running (by simp [at_]) (by simp [inHand, at_]) (by simp)
        (sound.notReturned running) (by simp) (by simp)
  | woken =>
      have running : log.writeThread ≠ .ended := by simp [at_]
      simp only [AsyncLog.writeThreadProc, at_]
      exact sound.goesOn running (by simp [at_]) (by simp [inHand, at_]) (by simp)
        (sound.notReturned running) (by simp) (by simp)
  | beforeWait =>
      have running : log.writeThread ≠ .ended := by simp [at_]
      have notReturned := sound.notReturned running
      have notJoining := undisturbed.heard now rfl at_
      simp only [AsyncLog.writeThreadProc, at_]
      refine sound.goesOn running (by simp [at_]) (by simp [inHand, at_]) (by simp) notReturned
        (fun _ => ?_) (by simp)
      cases called : log.uninitThread with
      | notCalled => exact .inl rfl
      | exitSet => exact .inr rfl
      | joining => exact absurd called notJoining
      | returned => exact absurd called notReturned

theorem Sound.step (sound : Sound log) (named : settings.strFileName.isEmpty = false)
    {event : LogEvent} (promised : log.Promised event)
    (undisturbed : log.Undisturbed settings event) : Sound (log.step settings event) := by
  cases event with
  | output level time thread place message =>
      exact sound.output promised.2.2 (undisturbed.served level time thread place message rfl)
  | uninit => exact sound.uninit
  | writeThread now => exact sound.writeThreadProc named undisturbed
  | wakeUp => exact sound.notifyOne

/-! ### What a disturbed step loses -/

/-- A file that is created again is cut to nothing. -/
theorem Sound.fresh (sound : Sound log) {now : Nat} (top : log.writeThread = .top)
    (rolls : log.Rolls settings) (after : LosesNothing (log.writeThreadProc settings now)) :
    newFileName settings now ∉ log.files.map Prod.fst := by
  intro again
  have full : ∀ file ∈ log.files, file.2 ≠ [] :=
    fun file mem empty => (sound.full (by simp [top]) file mem empty).1 top
  have result : log.writeThreadProc settings now =
      { log with
        hLogFile := some (newFileName settings now)
        nCurrentWrittenSize := 0
        files := log.files.map fun file =>
          if file.1 = newFileName settings now then (newFileName settings now, []) else file
        writeThread := .atLock } := by
    simp only [AsyncLog.writeThreadProc, top, if_pos rolls, createNewFile, if_pos again]
  rw [result] at after
  have before := congrArg List.length sound.kept
  have later := congrArg List.length after.kept
  have lost := length_truncated_lt again full
  simp only [written, inHand, top, List.length_append, List.nil_append] at before later
  exact absurd (Nat.add_right_cancel (later.trans before.symm)) (Nat.ne_of_lt lost)

/-- A writer that goes to sleep after the notification of `uninit` is not woken by it. -/
theorem Sound.heard (sound : Sound log) {now : Nat} (beforeWait : log.writeThread = .beforeWait)
    (after : LosesNothing (log.writeThreadProc settings now)) : log.uninitThread ≠ .joining := by
  intro joining
  have exit := sound.exit.mpr (by simp [joining])
  refine after.awake ?_
  have result : log.writeThreadProc settings now = { log with writeThread := .waiting } := by
    simp only [AsyncLog.writeThreadProc, beforeWait]
  rw [result]
  exact ⟨rfl, exit, by simp [joining]⟩

/-- A line too long ends the writer. -/
theorem Sound.short (sound : Sound log) (named : settings.strFileName.isEmpty = false) {now : Nat}
    {line : Bytes} (writes : log.writeThread = .writes line) (long : 2 ^ 31 ≤ line.length)
    (after : LosesNothing (log.writeThreadProc settings now)) : log.listLinesToWrite = [] := by
  have isLine := sound.lines line (by simp [inHand, writes])
  have read := after.read
  simp only [AsyncLog.writeThreadProc, writes, named, writeToFile_of_long long isLine.2] at read
  exact read rfl

/-- A line that is accepted after the end of the writer stays in the queue. -/
theorem served {level : LogLevel} {time thread place message : Bytes}
    (accepted : accepts settings level = true)
    (after : LosesNothing (log.output settings level time thread place message)) :
    log.writeThread ≠ .ended := by
  intro ended
  have read := after.read
  simp [AsyncLog.output, accepted, ended, AsyncLog.notifyOne] at read

theorem Sound.undisturbed (sound : Sound log) (named : settings.strFileName.isEmpty = false)
    {event : LogEvent} (after : LosesNothing (log.step settings event)) :
    log.Undisturbed settings event where
  fresh now is top rolls := by
    subst is
    exact sound.fresh top rolls after
  heard now is beforeWait := by
    subst is
    exact sound.heard beforeWait after
  short now line is writes long := by
    subst is
    exact sound.short named writes long after
  served level time thread place message is accepted := by
    subst is
    exact AsyncLog.served accepted after

/-- In every run of the threads, nothing is lost and the writer does not sleep for ever exactly
when no step disturbs the log. -/
theorem losesNothing_iff (settings : LogSettings) (named : settings.strFileName.isEmpty = false)
    (events : List LogEvent) (promised : Meets (step settings) Promised init events) :
    Always (step settings) LosesNothing init events ↔
      Meets (step settings) (Undisturbed settings) init events :=
  always_iff_meets
    (fun _ _ (sound : Sound _) kept =>
      ⟨sound.undisturbed named, fun calm => (sound.step named kept calm).losesNothing⟩)
    (fun _ _ sound kept calm => sound.step named kept calm)
    (fun _ sound => sound.losesNothing)
    events sound_init promised

end Invariant

/-- Files of one byte, within one second. -/
def rollingSettings : LogSettings where
  strFileName := "msg_server"
  strFileNamePID := "00042"
  bTruncateLongLog := false
  nFileRollSize := 1
  nCurrentLevel := .info
  timeText _ := "20240101000000"

/-- A line, the rolling after it, and an `uninit` that the writer hears. -/
theorem losesNothing_iff_rolling :
    Always (step rollingSettings) LosesNothing init
        [.output .info [] [] [] [65], .writeThread 0, .writeThread 0, .writeThread 0,
          .writeThread 0, .uninit, .uninit] ↔
      Meets (step rollingSettings) (Undisturbed rollingSettings) init
        [.output .info [] [] [] [65], .writeThread 0, .writeThread 0, .writeThread 0,
          .writeThread 0, .uninit, .uninit] :=
  losesNothing_iff rollingSettings (by decide +kernel) _ (by decide +kernel)

/-- The second file of a second is the first one, cut to nothing. -/
theorem rolled_within_a_second :
    ¬ Always (step rollingSettings) LosesNothing init
      [.output .info [] [] [] [65], .writeThread 0, .writeThread 0, .writeThread 0,
        .writeThread 0, .writeThread 0] := by
  intro always
  exact absurd always.last.kept (by decide +kernel)

/-- An `uninit` between the writer's look at the flag and its wait. -/
example :
    let log := run (step rollingSettings) init [.writeThread 0, .writeThread 0, .writeThread 0,
      .uninit, .uninit, .writeThread 0]
    log.writeThread = .waiting ∧ log.bExit = true ∧ log.uninitThread = .joining := by
  decide +kernel

end AsyncLog

end AChat.Base
