import AChat.Lib.Stdio
import AChat.Net.Channel

/-!
Owns a TCP connection: its states, its output buffer, its channel in the poller, and
what it did to the socket and told the user and the server.

All calls are in the loop thread. What a callback of the user does with the
connection is a further step.
-/

namespace AChat.Net

open Lib

inductive StateE where
  | kDisconnected
  | kConnecting
  | kConnected
  | kDisconnecting
deriving DecidableEq, Repr

/-- How a write to the socket ends. `broken` is `EPIPE` or `ECONNRESET`. -/
inductive WriteResult where
  | accepted (count : Nat)
  | wouldBlock
  | broken
  | failed
deriving DecidableEq, Repr

inductive ReadResult where
  | data
  | endOfStream
  | error
deriving DecidableEq, Repr

/-- What the connection callback tells the user. -/
inductive Report where
  | up
  | down
deriving DecidableEq, Repr

structure TcpConnection where
  state : StateE
  channel : Channel
  poller : EpollPoller
  outputBuffer : Bytes
  /-- How many calls of `forceCloseInLoop` are queued. -/
  forceCloses : Nat
  /-- What the socket has accepted. -/
  written : Bytes
  /-- How much the socket had accepted when its write side was shut down, each time. -/
  shutdownWrites : List Nat
  reports : List Report
  closeCallbacks : Nat

namespace TcpConnection

/-- The constructor. -/
def new (fd : Int) : TcpConnection where
  state := .kConnecting
  channel := .new fd
  poller := .empty
  outputBuffer := []
  forceCloses := 0
  written := []
  shutdownWrites := []
  reports := []
  closeCallbacks := 0

/-! ### The channel -/

/-- `Channel::update`, after the events were set. -/
def update (conn : TcpConnection) (events : Events) (registers : Bool) : Bool × TcpConnection :=
  let updated := conn.poller.updateChannel 0 { conn.channel with events := events } registers
  (updated.1, { conn with poller := updated.2.1, channel := updated.2.2 })

def enableReading (conn : TcpConnection) (registers : Bool) : Bool × TcpConnection :=
  conn.update (conn.channel.events ||| kReadEvent) registers

def enableWriting (conn : TcpConnection) (registers : Bool) : TcpConnection :=
  (conn.update (conn.channel.events ||| kWriteEvent) registers).2

def disableWriting (conn : TcpConnection) (registers : Bool) : TcpConnection :=
  (conn.update (conn.channel.events &&& ~~~kWriteEvent) registers).2

def disableAll (conn : TcpConnection) (registers : Bool) : TcpConnection :=
  (conn.update kNoneEvent registers).2

/-! ### Callbacks and closing -/

def connectionCallback (conn : TcpConnection) : TcpConnection :=
  { conn with
    reports := conn.reports ++ [if conn.state = .kConnected then .up else .down] }

def handleClose (conn : TcpConnection) (registers : Bool) : TcpConnection :=
  if conn.state = .kDisconnected then conn
  else
    let told := (({ conn with state := .kDisconnected } : TcpConnection).disableAll
      registers).connectionCallback
    { told with closeCallbacks := told.closeCallbacks + 1 }

def forceClose (conn : TcpConnection) : TcpConnection :=
  if conn.state = .kConnected ∨ conn.state = .kDisconnecting then
    { conn with state := .kDisconnecting, forceCloses := conn.forceCloses + 1 }
  else conn

def forceCloseInLoop (conn : TcpConnection) (registers : Bool) : TcpConnection :=
  if conn.state = .kConnected ∨ conn.state = .kDisconnecting then conn.handleClose registers
  else conn

def connectEstablished (conn : TcpConnection) (registers closes : Bool) : TcpConnection :=
  if conn.state ≠ .kConnecting then conn
  else
    let enabled := ({ conn with state := .kConnected } : TcpConnection).enableReading registers
    if enabled.1 = false then enabled.2.handleClose closes else enabled.2.connectionCallback

def connectDestroyed (conn : TcpConnection) (registers removes : Bool) : TcpConnection :=
  let told :=
    if conn.state = .kConnected then
      (({ conn with state := .kDisconnected } : TcpConnection).disableAll
        registers).connectionCallback
    else conn
  let removed := told.channel.remove told.poller 0 removes
  { told with poller := removed.1, channel := removed.2 }

/-! ### Sending -/

/-- What a send keeps for later. -/
def bufferRest (conn : TcpConnection) (rest : Bytes) (registers : Bool) : TcpConnection :=
  if rest = [] then conn
  else
    let buffered := { conn with outputBuffer := conn.outputBuffer ++ rest }
    if buffered.channel.isWriting then buffered else buffered.enableWriting registers

def sendInLoop (conn : TcpConnection) (message : Bytes) (result : WriteResult)
    (registers : Bool) : TcpConnection :=
  if conn.channel.isWriting = false ∧ conn.outputBuffer = [] then
    match result with
    | .accepted count =>
        { conn with written := conn.written ++ message.take count }.bufferRest
          (message.drop count) registers
    | .broken => conn
    | .wouldBlock | .failed => conn.bufferRest message registers
  else conn.bufferRest message registers

def send (conn : TcpConnection) (message : Bytes) (result : WriteResult) (registers : Bool) :
    TcpConnection :=
  if conn.state = .kConnected then conn.sendInLoop message result registers else conn

def shutdownInLoop (conn : TcpConnection) : TcpConnection :=
  if conn.channel.isWriting then conn
  else { conn with shutdownWrites := conn.shutdownWrites ++ [conn.written.length] }

/-- `std::bind(&TcpConnection::closeCallback, this)` names a data member: calling it gives
this member, and runs nothing. -/
def boundCloseCallback (conn : TcpConnection) : TcpConnection :=
  conn

def shutdown (conn : TcpConnection) : TcpConnection :=
  if conn.state = .kConnected then
    ({ conn with state := .kDisconnecting } : TcpConnection).boundCloseCallback
  else conn

/-! ### Events -/

def handleRead (conn : TcpConnection) (result : ReadResult) (registers : Bool) : TcpConnection :=
  match result with
  | .data => conn
  | .endOfStream | .error => conn.handleClose registers

/-- The rest of the buffer is kept. With nothing left the channel stops writing. -/
def retrieve (conn : TcpConnection) (count : Nat) (registers : Bool) : TcpConnection :=
  let taken :=
    { conn with
      written := conn.written ++ conn.outputBuffer.take count
      outputBuffer := conn.outputBuffer.drop count }
  if taken.outputBuffer = [] then
    let disabled := taken.disableWriting registers
    if disabled.state = .kDisconnecting then disabled.shutdownInLoop else disabled
  else taken

def handleWrite (conn : TcpConnection) (result : WriteResult) (registers : Bool) :
    TcpConnection :=
  if conn.channel.isWriting then
    match result with
    | .accepted count =>
        if 0 < min count conn.outputBuffer.length then conn.retrieve count registers
        else conn.handleClose registers
    | .wouldBlock | .broken | .failed => conn.handleClose registers
  else conn

/-! ### The masks -/

/-- The channel waits for nothing, and the kernel reports nothing. -/
structure Silent (conn : TcpConnection) : Prop where
  events : conn.channel.events = 0
  kernel : ∀ events, conn.poller.kernel conn.channel.fd = some events → events = 0

theorem Silent.isWriting {conn : TcpConnection} (silent : Silent conn) :
    conn.channel.isWriting = true := by
  unfold Channel.isWriting
  rw [silent.events]
  rfl

/-- Only the channel and the poller matter. -/
theorem Silent.congr {before after : TcpConnection} (silent : Silent before)
    (channel : after.channel = before.channel) (poller : after.poller = before.poller) :
    Silent after := by
  refine ⟨?_, ?_⟩
  · rw [channel]
    exact silent.events
  · rw [channel, poller]
    exact silent.kernel

theorem silent_new (fd : Int) : Silent (new fd) :=
  ⟨rfl, nofun⟩

/-- All masks are empty, so that an update leaves the channel silent. -/
theorem Silent.update {conn : TcpConnection} (silent : Silent conn) {events : Events}
    (none : events = 0) (registers : Bool) : Silent (conn.update events registers).2 := by
  have channel := EpollPoller.updateChannel_channel conn.poller 0
    { conn.channel with events := events } registers
  refine ⟨channel.2.trans none, ?_⟩
  intro registered known
  simp only [TcpConnection.update, channel.1] at known
  cases EpollPoller.updateChannel_kernel conn.poller 0
    { conn.channel with events := events } registers known with
  | inl same => exact same.trans none
  | inr before => exact silent.kernel registered before

theorem Silent.disableAll {conn : TcpConnection} (silent : Silent conn) (registers : Bool) :
    Silent (conn.disableAll registers) :=
  silent.update rfl registers

theorem Silent.enableReading {conn : TcpConnection} (silent : Silent conn) (registers : Bool) :
    Silent (conn.enableReading registers).2 :=
  silent.update (by rw [silent.events]; rfl) registers

theorem Silent.disableWriting {conn : TcpConnection} (silent : Silent conn) (registers : Bool) :
    Silent (conn.disableWriting registers) :=
  silent.update (by rw [silent.events]; rfl) registers

theorem Silent.handleClose {conn : TcpConnection} (silent : Silent conn) (registers : Bool) :
    Silent (conn.handleClose registers) := by
  unfold TcpConnection.handleClose
  split
  · exact silent
  · have closed : Silent { conn with state := .kDisconnected } := silent.congr rfl rfl
    exact (closed.disableAll registers).congr rfl rfl

theorem Silent.connectEstablished {conn : TcpConnection} (silent : Silent conn)
    (registers closes : Bool) :
    Silent (conn.connectEstablished registers closes) := by
  have connected : Silent { conn with state := .kConnected } := silent.congr rfl rfl
  have enabled := connected.enableReading registers
  unfold TcpConnection.connectEstablished
  simp only
  split
  · exact silent
  · split
    · exact enabled.handleClose closes
    · exact enabled.congr rfl rfl

theorem Silent.bufferRest {conn : TcpConnection} (silent : Silent conn) (rest : Bytes)
    (registers : Bool) :
    conn.bufferRest rest registers = { conn with outputBuffer := conn.outputBuffer ++ rest } := by
  unfold TcpConnection.bufferRest
  split
  · rename_i empty
    rw [empty, List.append_nil]
  · exact if_pos silent.isWriting

/-- A send goes to the buffer, since the channel counts as writing. -/
theorem Silent.send {conn : TcpConnection} (silent : Silent conn)
    (connected : conn.state = .kConnected) (message : Bytes) (result : WriteResult)
    (registers : Bool) :
    conn.send message result registers =
      { conn with outputBuffer := conn.outputBuffer ++ message } := by
  unfold TcpConnection.send sendInLoop
  rw [if_pos connected, if_neg (by simp [silent.isWriting])]
  exact silent.bufferRest message registers

/-- The write side is never shut down, since the channel counts as writing. -/
theorem Silent.shutdownInLoop {conn : TcpConnection} (silent : Silent conn) :
    conn.shutdownInLoop = conn :=
  if_pos silent.isWriting

theorem Silent.retrieve {conn : TcpConnection} (silent : Silent conn) (count : Nat)
    (registers : Bool) : Silent (conn.retrieve count registers) := by
  have taken : Silent
      { conn with
        written := conn.written ++ conn.outputBuffer.take count
        outputBuffer := conn.outputBuffer.drop count } := silent.congr rfl rfl
  have disabled := taken.disableWriting registers
  unfold TcpConnection.retrieve
  simp only
  split
  · split
    · rw [disabled.shutdownInLoop]
      exact disabled
    · exact disabled
  · exact taken

theorem Silent.handleWrite {conn : TcpConnection} (silent : Silent conn) (result : WriteResult)
    (registers : Bool) : Silent (conn.handleWrite result registers) := by
  unfold TcpConnection.handleWrite
  split
  · split
    · split
      · exact silent.retrieve _ registers
      · exact silent.handleClose registers
    · exact silent.handleClose registers
    · exact silent.handleClose registers
    · exact silent.handleClose registers
  · exact silent

theorem Silent.handleRead {conn : TcpConnection} (silent : Silent conn) (result : ReadResult)
    (registers : Bool) : Silent (conn.handleRead result registers) := by
  cases result with
  | data => exact silent
  | endOfStream => exact silent.handleClose registers
  | error => exact silent.handleClose registers

theorem Silent.forceClose {conn : TcpConnection} (silent : Silent conn) :
    Silent conn.forceClose := by
  unfold TcpConnection.forceClose
  split
  · exact silent.congr rfl rfl
  · exact silent

theorem Silent.forceCloseInLoop {conn : TcpConnection} (silent : Silent conn)
    (registers : Bool) : Silent (conn.forceCloseInLoop registers) := by
  unfold TcpConnection.forceCloseInLoop
  split
  · exact silent.handleClose registers
  · exact silent

theorem Silent.shutdown {conn : TcpConnection} (silent : Silent conn) : Silent conn.shutdown := by
  unfold TcpConnection.shutdown
  split
  · exact silent.congr rfl rfl
  · exact silent

/-! ### What a write event does -/

/-- How a write event ends, when the channel counts as writing. -/
inductive WriteCase (conn : TcpConnection) (result : WriteResult) (registers : Bool) :
    TcpConnection → Prop where
  | retrieved {count : Nat} : result = .accepted count → 0 < min count conn.outputBuffer.length →
      WriteCase conn result registers (conn.retrieve count registers)
  | closed : (∀ count, result = .accepted count → min count conn.outputBuffer.length = 0) →
      WriteCase conn result registers (conn.handleClose registers)

theorem handleWrite_cases {conn : TcpConnection} (silent : Silent conn) (result : WriteResult)
    (registers : Bool) : WriteCase conn result registers (conn.handleWrite result registers) := by
  unfold TcpConnection.handleWrite
  rw [if_pos silent.isWriting]
  cases result with
  | accepted count =>
      simp only
      split
      · rename_i some
        exact .retrieved rfl some
      · rename_i none
        apply WriteCase.closed
        intro other same
        cases same
        omega
  | wouldBlock => exact .closed nofun
  | broken => exact .closed nofun
  | failed => exact .closed nofun

/-- What the socket accepts comes from the front of the buffer. -/
structure Retrieved (before after : TcpConnection) (count : Nat) : Prop where
  written : after.written = before.written ++ before.outputBuffer.take count
  outputBuffer : after.outputBuffer = before.outputBuffer.drop count
  state : after.state = before.state
  shutdownWrites : after.shutdownWrites = before.shutdownWrites
  reports : after.reports = before.reports
  closeCallbacks : after.closeCallbacks = before.closeCallbacks

theorem Silent.retrieved {conn : TcpConnection} (silent : Silent conn) (count : Nat)
    (registers : Bool) : Retrieved conn (conn.retrieve count registers) count := by
  have taken : Silent
      { conn with
        written := conn.written ++ conn.outputBuffer.take count
        outputBuffer := conn.outputBuffer.drop count } := silent.congr rfl rfl
  unfold TcpConnection.retrieve
  simp only
  split
  · split
    · rw [(taken.disableWriting registers).shutdownInLoop]
      exact ⟨rfl, rfl, rfl, rfl, rfl, rfl⟩
    · exact ⟨rfl, rfl, rfl, rfl, rfl, rfl⟩
  · exact ⟨rfl, rfl, rfl, rfl, rfl, rfl⟩

/-- Closing leaves the data and tells the user and the server. -/
structure Closed (before after : TcpConnection) : Prop where
  written : after.written = before.written
  outputBuffer : after.outputBuffer = before.outputBuffer
  state : after.state = .kDisconnected
  shutdownWrites : after.shutdownWrites = before.shutdownWrites
  reports : after.reports = before.reports ++ [.down]
  closeCallbacks : after.closeCallbacks = before.closeCallbacks + 1

theorem handleClose_closed {conn : TcpConnection} (live : conn.state ≠ .kDisconnected)
    (registers : Bool) : Closed conn (conn.handleClose registers) := by
  unfold TcpConnection.handleClose
  rw [if_neg live]
  exact ⟨rfl, rfl, rfl, rfl, rfl, rfl⟩

theorem handleClose_disconnected {conn : TcpConnection} (gone : conn.state = .kDisconnected)
    (registers : Bool) : conn.handleClose registers = conn :=
  if_pos gone

end TcpConnection

end AChat.Net
