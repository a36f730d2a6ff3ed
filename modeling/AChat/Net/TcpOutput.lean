import AChat.Lib.Reach
import AChat.Net.TcpConnection

/-!
Contract: what becomes of the data passed to `send`, and of a `shutdown`.

Since the masks are empty, a channel always counts as writing: data goes to the
buffer and nobody waits for the socket, and `shutdownInLoop` never shuts down.
`shutdown` does not call it either.

Owns: the runs of sends and write events, and of a shutdown among them.
-/

namespace AChat.Net

open Lib

namespace TcpConnection

/-- The channel is registered for write events. -/
def WaitsForWrite (conn : TcpConnection) : Prop :=
  ∃ events, conn.poller.kernel conn.channel.fd = some events ∧ events &&& EPOLLOUT ≠ 0

theorem Silent.not_waitsForWrite {conn : TcpConnection} (silent : Silent conn) :
    ¬conn.WaitsForWrite := by
  intro waits
  obtain ⟨events, registered, writes⟩ := waits
  apply writes
  rw [silent.kernel events registered]
  rfl

/-- A connection that was just established. -/
def established (fd : Int) : TcpConnection :=
  (new fd).connectEstablished true true

theorem silent_established (fd : Int) : Silent (established fd) :=
  (((silent_new fd).congr rfl rfl : Silent { new fd with state := .kConnected }).enableReading
    true).congr rfl rfl

end TcpConnection

open TcpConnection

/-! ### Sends and write events -/

inductive OutputEvent where
  | send (message : Bytes) (result : WriteResult) (registers : Bool)
  | writable (result : WriteResult) (registers : Bool)
deriving DecidableEq, Repr

/-- A connection, and the data passed to `send`. -/
structure OutputRun where
  conn : TcpConnection
  sent : Bytes

namespace OutputRun

def start (fd : Int) : OutputRun :=
  ⟨established fd, []⟩

def step (current : OutputRun) : OutputEvent → OutputRun
  | .send message result registers =>
      ⟨current.conn.send message result registers, current.sent ++ message⟩
  | .writable result registers => { current with conn := current.conn.handleWrite result registers }

def Up (current : OutputRun) (_ : OutputEvent) : Prop :=
  current.conn.state = .kConnected

/-- What the socket accepted and what is kept is what was sent, in order. -/
def Lossless (current : OutputRun) : Prop :=
  current.conn.written ++ current.conn.outputBuffer = current.sent

/-- Nothing is lost, and the channel waits for the socket exactly while there is something to
write. -/
structure Flushes (current : OutputRun) : Prop where
  lossless : Lossless current
  waits : current.conn.WaitsForWrite ↔ current.conn.outputBuffer ≠ []

/-- Nothing is passed to `send`. -/
def SendsNothing (_ : OutputRun) : OutputEvent → Prop
  | .send message _ _ => message = []
  | .writable _ _ => True

structure Kept (current : OutputRun) : Prop where
  silent : Silent current.conn
  lossless : Lossless current

variable {current : OutputRun}

theorem Kept.start (fd : Int) : Kept (start fd) :=
  ⟨silent_established fd, rfl⟩

theorem Kept.step (kept : Kept current) {event : OutputEvent} (up : Up current event) :
    Kept (current.step event) := by
  cases event with
  | send message result registers =>
      have sent := kept.silent.send up message result registers
      refine ⟨?_, ?_⟩
      · show Silent (current.conn.send message result registers)
        rw [sent]
        exact kept.silent.congr rfl rfl
      · show (current.conn.send message result registers).written ++
          (current.conn.send message result registers).outputBuffer = current.sent ++ message
        rw [sent, ← kept.lossless, List.append_assoc]
  | writable result registers =>
      refine ⟨kept.silent.handleWrite result registers, ?_⟩
      have cases := handleWrite_cases kept.silent result registers
      show (current.conn.handleWrite result registers).written ++
        (current.conn.handleWrite result registers).outputBuffer = current.sent
      rw [← kept.lossless]
      generalize current.conn.handleWrite result registers = after at cases ⊢
      cases cases with
      | @retrieved count _ _ =>
          have retrieved := kept.silent.retrieved count registers
          rw [retrieved.written, retrieved.outputBuffer, List.append_assoc, List.take_append_drop]
      | closed _ =>
          have closed := handleClose_closed (by rw [up]; decide) registers
          rw [closed.written, closed.outputBuffer]

/-- The order of the data is kept in every run. -/
theorem lossless_of_reach {fd : Int} (reach : Reach step Up (start fd) current) :
    Lossless current :=
  (reach.invariant Kept (Kept.start fd) fun _ _ kept up => kept.step up).lossless

/-- Nothing was sent so far. -/
structure Idle (current : OutputRun) : Prop where
  kept : Kept current
  empty : current.conn.outputBuffer = []

theorem Idle.flushes (idle : Idle current) : Flushes current :=
  ⟨idle.kept.lossless, fun waits => absurd waits idle.kept.silent.not_waitsForWrite,
    fun some => absurd idle.empty some⟩

theorem Idle.step (idle : Idle current) {event : OutputEvent} (up : Up current event)
    (nothing : SendsNothing current event) : Idle (current.step event) := by
  refine ⟨idle.kept.step up, ?_⟩
  cases event with
  | send message result registers =>
      show (current.conn.send message result registers).outputBuffer = []
      rw [idle.kept.silent.send up message result registers]
      simp only
      rw [idle.empty, nothing]
      rfl
  | writable result registers =>
      have cases := handleWrite_cases idle.kept.silent result registers
      show (current.conn.handleWrite result registers).outputBuffer = []
      generalize current.conn.handleWrite result registers = after at cases ⊢
      cases cases with
      | retrieved _ some =>
          rw [idle.empty] at some
          exact absurd some (by simp)
      | closed _ =>
          rw [(handleClose_closed (by rw [up]; decide) registers).outputBuffer]
          exact idle.empty

theorem step_flushes_iff (idle : Idle current) {event : OutputEvent} (up : Up current event) :
    Flushes (current.step event) ↔ SendsNothing current event := by
  constructor
  · intro flushes
    cases event with
    | writable result registers => trivial
    | send message result registers =>
        have kept := idle.kept.step up
        have sent := idle.kept.silent.send up message result registers
        have empty : (current.conn.send message result registers).outputBuffer = [] :=
          not_not.mp fun some => kept.silent.not_waitsForWrite (flushes.waits.mpr some)
        rw [sent] at empty
        simp only [List.append_eq_nil_iff] at empty
        exact empty.2
  · exact fun nothing => (idle.step up nothing).flushes

theorem flushes_iff_sendsNothing (fd : Int) (events : List OutputEvent)
    (up : Meets step Up (start fd) events) :
    Always step Flushes (start fd) events ↔ Meets step SendsNothing (start fd) events :=
  always_iff_meets (fun _ _ idle up => step_flushes_iff idle up)
    (fun _ _ idle up nothing => idle.step up nothing) (fun _ idle => idle.flushes) events
    ⟨Kept.start fd, rfl⟩ up

/-- An empty message. -/
theorem flushes_empty_send :
    Always step Flushes (start 3) [.send [] (.accepted 0) true] := by
  apply (flushes_iff_sendsNothing 3 [.send [] (.accepted 0) true] ⟨rfl, trivial⟩).mpr
  exact ⟨rfl, trivial⟩

/-- One byte is kept, and nobody waits for the socket. -/
theorem not_flushes_send :
    Meets step Up (start 3) [.send [7] (.accepted 1) true] ∧
      ¬Always step Flushes (start 3) [.send [7] (.accepted 1) true] := by
  refine ⟨⟨rfl, trivial⟩, ?_⟩
  intro always
  obtain ⟨events, registered, writes⟩ := always.2.waits.mpr (by decide)
  have none : events = 0 := (Option.some.inj registered).symm
  exact writes (by rw [none]; rfl)

end OutputRun

/-! ### Shutdown -/

inductive ShutdownEvent where
  | send (message : Bytes) (result : WriteResult) (registers : Bool)
  | shutdown
  | writable (result : WriteResult) (registers : Bool)
deriving DecidableEq, Repr

/-- A connection, the data passed to `send` while it was connected, whether it was asked to
shut down, and whether this has run the close callback. -/
structure ShutdownRun where
  conn : TcpConnection
  sent : Bytes
  asked : Bool
  closedByShutdown : Bool

namespace ShutdownRun

def start (fd : Int) : ShutdownRun :=
  ⟨established fd, [], false, false⟩

def step (current : ShutdownRun) : ShutdownEvent → ShutdownRun
  | .send message result registers =>
      { current with
        conn := current.conn.send message result registers
        sent := if current.conn.state = .kConnected then current.sent ++ message
          else current.sent }
  | .shutdown =>
      { current with
        conn := current.conn.shutdown
        asked := current.asked || current.conn.state = .kConnected
        closedByShutdown := current.closedByShutdown ||
          current.conn.shutdown.closeCallbacks != current.conn.closeCallbacks }
  | .writable result registers => { current with conn := current.conn.handleWrite result registers }

/-- The write side is shut down once, when all data was handed to the socket, and `shutdown`
does not run the close callback. -/
structure Graceful (current : ShutdownRun) : Prop where
  shutdownWrites : current.conn.shutdownWrites =
    if current.asked = true ∧ current.conn.outputBuffer = [] then [current.sent.length] else []
  closeCallback : current.closedByShutdown = false

/-- Something stays in the buffer after the connection was asked to shut down. -/
def LeavesRest (current : ShutdownRun) : ShutdownEvent → Prop
  | .send _ _ _ => True
  | .shutdown => current.conn.state = .kConnected → current.conn.outputBuffer ≠ []
  | .writable result _ =>
      current.asked = true → ∀ count, result = .accepted count →
        count < current.conn.outputBuffer.length

structure Pending (current : ShutdownRun) : Prop where
  silent : Silent current.conn
  shutdownWrites : current.conn.shutdownWrites = []
  closeCallback : current.closedByShutdown = false
  rest : current.asked = true → current.conn.outputBuffer ≠ []

variable {current : ShutdownRun}

theorem Pending.graceful (pending : Pending current) : Graceful current := by
  refine ⟨?_, pending.closeCallback⟩
  rw [if_neg fun both => pending.rest both.1 both.2]
  exact pending.shutdownWrites

/-- A shutdown changes the state of the connection and nothing else. -/
theorem shutdown_keeps (conn : TcpConnection) :
    conn.shutdown.channel = conn.channel ∧ conn.shutdown.poller = conn.poller ∧
      conn.shutdown.outputBuffer = conn.outputBuffer ∧
      conn.shutdown.shutdownWrites = conn.shutdownWrites ∧
      conn.shutdown.closeCallbacks = conn.closeCallbacks := by
  unfold TcpConnection.shutdown
  split <;> exact ⟨rfl, rfl, rfl, rfl, rfl⟩

theorem handleWrite_shutdownWrites {conn : TcpConnection} (silent : Silent conn)
    (result : WriteResult) (registers : Bool) :
    (conn.handleWrite result registers).shutdownWrites = conn.shutdownWrites := by
  have cases := handleWrite_cases silent result registers
  generalize conn.handleWrite result registers = after at cases ⊢
  cases cases with
  | @retrieved count _ _ => exact (silent.retrieved count registers).shutdownWrites
  | closed _ =>
      by_cases gone : conn.state = .kDisconnected
      · rw [handleClose_disconnected gone]
      · exact (handleClose_closed gone registers).shutdownWrites

theorem send_keeps (silent : Silent current.conn) (message : Bytes) (result : WriteResult)
    (registers : Bool) :
    ∃ rest, current.conn.send message result registers =
      { current.conn with outputBuffer := current.conn.outputBuffer ++ rest } := by
  by_cases connected : current.conn.state = .kConnected
  · exact ⟨message, silent.send connected message result registers⟩
  · refine ⟨[], ?_⟩
    rw [List.append_nil]
    exact if_neg connected

theorem step_pending (pending : Pending current) (event : ShutdownEvent) :
    Silent (current.step event).conn ∧ (current.step event).conn.shutdownWrites = [] ∧
      (current.step event).closedByShutdown = false := by
  cases event with
  | send message result registers =>
      obtain ⟨rest, sent⟩ := send_keeps pending.silent message result registers
      simp only [step, sent]
      exact ⟨pending.silent.congr rfl rfl, pending.shutdownWrites, pending.closeCallback⟩
  | shutdown =>
      obtain ⟨channel, poller, _, writes, closes⟩ := shutdown_keeps current.conn
      refine ⟨pending.silent.congr channel poller, writes.trans pending.shutdownWrites, ?_⟩
      simp only [step, pending.closeCallback, Bool.false_or, bne_eq_false_iff_eq]
      exact closes
  | writable result registers =>
      exact ⟨pending.silent.handleWrite result registers,
        (handleWrite_shutdownWrites pending.silent result registers).trans
          pending.shutdownWrites, pending.closeCallback⟩

/-- Something is left after a step exactly when the step leaves it. -/
theorem rest_iff (pending : Pending current) (event : ShutdownEvent) :
    ((current.step event).asked = true → (current.step event).conn.outputBuffer ≠ []) ↔
      current.LeavesRest event := by
  cases event with
  | send message result registers =>
      obtain ⟨rest, sent⟩ := send_keeps pending.silent message result registers
      simp only [step, sent, LeavesRest, iff_true]
      intro asked empty
      exact pending.rest asked (List.append_eq_nil_iff.mp empty).1
  | shutdown =>
      have buffer : current.conn.shutdown.outputBuffer = current.conn.outputBuffer :=
        (shutdown_keeps current.conn).2.2.1
      simp only [step, buffer, LeavesRest, Bool.or_eq_true, decide_eq_true_eq]
      constructor
      · exact fun left connected => left (Or.inr connected)
      · intro left asked
        cases asked with
        | inl earlier => exact pending.rest earlier
        | inr connected => exact left connected
  | writable result registers =>
      have cases := handleWrite_cases pending.silent result registers
      simp only [step, LeavesRest]
      generalize current.conn.handleWrite result registers = after at cases ⊢
      cases cases with
      | @retrieved count accepted some =>
          rw [(pending.silent.retrieved count registers).outputBuffer, Ne, List.drop_eq_nil_iff]
          constructor
          · intro left asked other same
            cases accepted.symm.trans same
            have more := left asked
            omega
          · intro left asked
            have more := left asked count accepted
            omega
      | closed none =>
          have buffer : (current.conn.handleClose registers).outputBuffer =
              current.conn.outputBuffer := by
            by_cases gone : current.conn.state = .kDisconnected
            · rw [handleClose_disconnected gone]
            · exact (handleClose_closed gone registers).outputBuffer
          rw [buffer]
          constructor
          · intro left asked count accepted
            have empty := none count accepted
            have some := List.length_pos_iff.mpr (left asked)
            omega
          · exact fun _ => pending.rest

theorem Pending.step (pending : Pending current) {event : ShutdownEvent}
    (leaves : current.LeavesRest event) : Pending (current.step event) := by
  obtain ⟨silent, shutdownWrites, closeCallback⟩ := step_pending pending event
  exact ⟨silent, shutdownWrites, closeCallback, (rest_iff pending event).mpr leaves⟩

theorem step_graceful_iff (pending : Pending current) (event : ShutdownEvent) :
    Graceful (current.step event) ↔ current.LeavesRest event := by
  obtain ⟨_, shutdownWrites, _⟩ := step_pending pending event
  constructor
  · intro graceful
    apply (rest_iff pending event).mp
    intro asked empty
    have once := graceful.shutdownWrites
    rw [shutdownWrites, if_pos ⟨asked, empty⟩] at once
    cases once
  · exact fun leaves => (pending.step leaves).graceful

theorem graceful_iff_leavesRest (fd : Int) (events : List ShutdownEvent) :
    Always step Graceful (start fd) events ↔ Meets step LeavesRest (start fd) events :=
  always_iff_meets (fun _ event pending _ => step_graceful_iff pending event)
    (fun _ _ pending _ leaves => pending.step leaves) (fun _ pending => pending.graceful) events
    ⟨silent_established fd, rfl, rfl, nofun⟩ (meets_true step events (start fd))

/-- Nothing is to be written, and the write side is never shut down. -/
theorem not_graceful_shutdown : ¬Always step Graceful (start 3) [.shutdown] := by
  intro always
  exact absurd always.2.shutdownWrites (by decide)

end ShutdownRun

end AChat.Net
