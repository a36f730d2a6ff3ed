import AChat.Lib.Reach
import AChat.Net.TcpConnection

/-!
Contract: what the user and the server are told in the life of a connection.

`handleClose` tells that a connection is down whether or not it was told to be up,
and `connectDestroyed` passes over a connection that is being closed.

Owns: the life of a connection, from its constructor to its teardown.
-/

namespace AChat.Net

open Lib

/-- A connection, whether it could not be established, and whether it was torn down. -/
structure ConnectionLife where
  conn : TcpConnection
  refused : Bool
  destroyed : Bool

inductive LifeStep where
  | connectEstablished (registers closes : Bool)
  | read (result : ReadResult) (registers : Bool)
  | write (result : WriteResult) (registers : Bool)
  | send (message : Bytes) (result : WriteResult) (registers : Bool)
  | forceClose
  | forceCloseInLoop (registers : Bool)
  | shutdown
  | connectDestroyed (registers removes : Bool)
deriving DecidableEq, Repr

namespace ConnectionLife

open TcpConnection

def start (fd : Int) : ConnectionLife :=
  ⟨.new fd, false, false⟩

def step (life : ConnectionLife) : LifeStep → ConnectionLife
  | .connectEstablished registers closes =>
      let enabled := ({ life.conn with state := .kConnected } : TcpConnection).enableReading
        registers
      { life with
        conn := life.conn.connectEstablished registers closes
        refused := life.refused || (life.conn.state = .kConnecting && !enabled.1) }
  | .read result registers => { life with conn := life.conn.handleRead result registers }
  | .write result registers => { life with conn := life.conn.handleWrite result registers }
  | .send message result registers =>
      { life with conn := life.conn.send message result registers }
  | .forceClose => { life with conn := life.conn.forceClose }
  | .forceCloseInLoop registers =>
      let called := { life.conn with forceCloses := life.conn.forceCloses - 1 }
      { life with conn := called.forceCloseInLoop registers }
  | .shutdown => { life with conn := life.conn.shutdown }
  | .connectDestroyed registers removes =>
      { life with conn := life.conn.connectDestroyed registers removes, destroyed := true }

/-- The teardown comes last, and a queued call was queued. -/
def Admissible (life : ConnectionLife) : LifeStep → Prop
  | .forceCloseInLoop _ => life.destroyed = false ∧ 0 < life.conn.forceCloses
  | _ => life.destroyed = false

/-- Up is reported before down, both at most once, and nothing of a connection that could not
be established. The server is told of the end at most once. After the teardown the connection
is disconnected, and its end was reported if its start was. -/
structure Orderly (life : ConnectionLife) : Prop where
  reports : life.conn.reports <+: [.up, .down]
  refused : life.refused = true → life.conn.reports = []
  closeCallbacks : life.conn.closeCallbacks ≤ 1
  destroyed : life.destroyed = true →
    life.conn.state = .kDisconnected ∧ life.conn.reports ≠ [.up]

/-- The connection is registered when it is established, nothing closes it before that, and it
is torn down only while it is connected or disconnected. -/
def Regular (life : ConnectionLife) : LifeStep → Prop
  | .connectEstablished registers _ => life.conn.state = .kConnecting → registers = true
  | .read result _ => result = .data ∨ life.conn.state ≠ .kConnecting
  | .write _ _ => life.conn.state ≠ .kConnecting
  | .connectDestroyed _ _ =>
      life.conn.state = .kConnected ∨ life.conn.state = .kDisconnected
  | _ => True

/-! ### The invariant -/

/-- What was told, by the state of the connection. Nothing has happened to one that is still
connecting. -/
inductive Told (conn : TcpConnection) : Prop where
  | connecting (fd : Int) : conn = .new fd → Told conn
  | live : conn.state = .kConnected ∨ conn.state = .kDisconnecting → conn.reports = [.up] →
      conn.closeCallbacks = 0 → Told conn
  | closed : conn.state = .kDisconnected → conn.reports = [.up, .down] →
      conn.closeCallbacks ≤ 1 → Told conn

structure Sound (life : ConnectionLife) : Prop where
  silent : life.destroyed = false → Silent life.conn
  told : Told life.conn
  refused : life.refused = false
  destroyed : life.destroyed = true → life.conn.state = .kDisconnected

variable {life : ConnectionLife} {conn : TcpConnection}

theorem Sound.start (fd : Int) : Sound (start fd) :=
  ⟨fun _ => silent_new fd, .connecting fd rfl, rfl, nofun⟩

theorem Sound.orderly (sound : Sound life) : Orderly life := by
  have refused : ¬life.refused = true := by simp [sound.refused]
  cases sound.told with
  | connecting fd same =>
      have reports : life.conn.reports = [] := by rw [same]; rfl
      refine ⟨reports ▸ List.nil_prefix, fun was => absurd was refused, ?_, ?_⟩
      · rw [same]
        exact Nat.zero_le 1
      · intro destroyed
        have gone := sound.destroyed destroyed
        rw [same] at gone
        cases gone
  | live state reports closes =>
      refine ⟨reports ▸ List.prefix_append [Report.up] [Report.down],
        fun was => absurd was refused, by omega, ?_⟩
      intro destroyed
      rw [sound.destroyed destroyed] at state
      cases state with
      | inl connected => cases connected
      | inr closing => cases closing
  | closed state reports closes =>
      refine ⟨reports ▸ List.prefix_refl _, fun was => absurd was refused, closes, ?_⟩
      intro _
      exact ⟨state, by rw [reports]; decide⟩

/-- A connection that is connected or being closed. -/
theorem Told.of_live (told : Told conn)
    (state : conn.state = .kConnected ∨ conn.state = .kDisconnecting) :
    conn.reports = [.up] ∧ conn.closeCallbacks = 0 := by
  cases told with
  | connecting fd same =>
      rw [same] at state
      cases state with
      | inl connected => cases connected
      | inr closing => cases closing
  | live _ reports closes => exact ⟨reports, closes⟩
  | closed gone _ _ =>
      rw [gone] at state
      cases state with
      | inl connected => cases connected
      | inr closing => cases closing

/-- A connection that is still connecting is new. -/
theorem Told.of_connecting (told : Told conn) (connecting : conn.state = .kConnecting) :
    ∃ fd, conn = .new fd := by
  cases told with
  | connecting fd same => exact ⟨fd, same⟩
  | live state _ _ =>
      rw [connecting] at state
      cases state with
      | inl connected => cases connected
      | inr closing => cases closing
  | closed gone _ _ => cases connecting.symm.trans gone

/-- The start and the end of a closed connection were told. -/
theorem Told.of_gone (told : Told conn) (gone : conn.state = .kDisconnected) :
    conn.reports = [.up, .down] := by
  cases told with
  | connecting fd same =>
      rw [same] at gone
      cases gone
  | live state _ _ =>
      rw [gone] at state
      cases state with
      | inl connected => cases connected
      | inr closing => cases closing
  | closed _ reports _ => exact reports

/-- What was told stays as it is. -/
theorem Told.keeps {after : TcpConnection} (told : Told conn) (started : conn.state ≠ .kConnecting)
    (state : after.state = conn.state) (reports : after.reports = conn.reports)
    (closes : after.closeCallbacks = conn.closeCallbacks) : Told after := by
  cases told with
  | connecting fd same => exact absurd (by rw [same]; rfl) started
  | live live earlier none =>
      exact .live (state ▸ live) (reports.trans earlier) (closes.trans none)
  | closed gone earlier once =>
      exact .closed (state.trans gone) (reports.trans earlier) (closes ▸ once)

/-- A connection that was told to be up is told to be down. -/
theorem Told.handleClose (told : Told conn) (started : conn.state ≠ .kConnecting)
    (registers : Bool) : Told (conn.handleClose registers) := by
  cases told with
  | connecting fd same => exact absurd (by rw [same]; rfl) started
  | live state reports closes =>
      have live : conn.state ≠ .kDisconnected := by
        cases state with
        | inl connected => rw [connected]; decide
        | inr closing => rw [closing]; decide
      have closed := handleClose_closed live registers
      apply Told.closed closed.state
      · rw [closed.reports, reports]
        rfl
      · have counted := closed.closeCallbacks
        omega
  | closed state reports closes =>
      rw [handleClose_disconnected state]
      exact .closed state reports closes

theorem Told.handleRead (told : Told conn) {result : ReadResult}
    (regular : result = .data ∨ conn.state ≠ .kConnecting) (registers : Bool) :
    Told (conn.handleRead result registers) := by
  cases result with
  | data => exact told
  | endOfStream => exact told.handleClose (regular.resolve_left nofun) registers
  | error => exact told.handleClose (regular.resolve_left nofun) registers

theorem Told.handleWrite (told : Told conn) (silent : Silent conn)
    (started : conn.state ≠ .kConnecting) (result : WriteResult) (registers : Bool) :
    Told (conn.handleWrite result registers) := by
  have cases := handleWrite_cases silent result registers
  generalize conn.handleWrite result registers = after at cases ⊢
  cases cases with
  | @retrieved count _ _ =>
      have retrieved := silent.retrieved count registers
      exact told.keeps started retrieved.state retrieved.reports retrieved.closeCallbacks
  | closed _ => exact told.handleClose started registers

theorem Told.send (told : Told conn) (silent : Silent conn) (message : Bytes)
    (result : WriteResult) (registers : Bool) :
    Told (conn.send message result registers) ∧
      Silent (conn.send message result registers) := by
  by_cases connected : conn.state = .kConnected
  · rw [silent.send connected message result registers]
    refine ⟨?_, silent.congr rfl rfl⟩
    have earlier := told.of_live (Or.inl connected)
    exact .live (Or.inl connected) earlier.1 earlier.2
  · have same : conn.send message result registers = conn := if_neg connected
    rw [same]
    exact ⟨told, silent⟩

/-- Closing begins, with the state of the connection set. -/
theorem Told.forceClose (told : Told conn) : Told conn.forceClose := by
  unfold TcpConnection.forceClose
  split
  · rename_i state
    have earlier := told.of_live state
    exact .live (Or.inr rfl) earlier.1 earlier.2
  · exact told

theorem Told.forceCloseInLoop (told : Told conn) (queued : 0 < conn.forceCloses)
    (registers : Bool) :
    Told (({ conn with forceCloses := conn.forceCloses - 1 } : TcpConnection).forceCloseInLoop
      registers) := by
  have started : conn.state ≠ .kConnecting := by
    intro connecting
    obtain ⟨fd, same⟩ := told.of_connecting connecting
    rw [same] at queued
    exact absurd queued (Nat.lt_irrefl 0)
  have called : Told { conn with forceCloses := conn.forceCloses - 1 } :=
    told.keeps started rfl rfl rfl
  unfold TcpConnection.forceCloseInLoop
  split
  · exact called.handleClose started registers
  · exact called

theorem Told.shutdown (told : Told conn) : Told conn.shutdown := by
  unfold TcpConnection.shutdown
  split
  · rename_i connected
    have earlier := told.of_live (Or.inl connected)
    exact .live (Or.inr rfl) earlier.1 earlier.2
  · exact told

theorem Told.connectEstablished (told : Told conn) {registers : Bool}
    (registered : conn.state = .kConnecting → registers = true) (closes : Bool) :
    Told (conn.connectEstablished registers closes) := by
  by_cases connecting : conn.state = .kConnecting
  · obtain ⟨fd, same⟩ := told.of_connecting connecting
    rw [registered connecting, same]
    exact .live (Or.inl rfl) rfl rfl
  · have same : conn.connectEstablished registers closes = conn := if_pos connecting
    rw [same]
    exact told

theorem Told.connectDestroyed (told : Told conn)
    (state : conn.state = .kConnected ∨ conn.state = .kDisconnected) (registers removes : Bool) :
    Told (conn.connectDestroyed registers removes) ∧
      (conn.connectDestroyed registers removes).state = .kDisconnected := by
  unfold TcpConnection.connectDestroyed
  by_cases connected : conn.state = .kConnected
  · have earlier := told.of_live (Or.inl connected)
    simp only [connected, if_true]
    refine ⟨.closed rfl ?_ ?_, rfl⟩
    · show conn.reports ++ [Report.down] = _
      rw [earlier.1]
      rfl
    · show conn.closeCallbacks ≤ 1
      omega
  · have gone := state.resolve_left connected
    simp only [connected, if_false]
    refine ⟨?_, gone⟩
    exact told.keeps (by rw [gone]; decide) rfl rfl rfl

/-- Registering a new connection succeeds if the poller says so. -/
theorem enableReading_new (fd : Int) (registers : Bool) :
    (({ TcpConnection.new fd with state := .kConnected } : TcpConnection).enableReading
      registers).1 = registers := by
  cases registers with
  | true => rfl
  | false => rfl

/-- The connection is refused when its registration fails. -/
theorem Sound.refused_iff (sound : Sound life) (registers closes : Bool) :
    (life.step (.connectEstablished registers closes)).refused = true ↔
      life.conn.state = .kConnecting ∧ registers = false := by
  simp only [ConnectionLife.step, sound.refused, Bool.false_or, Bool.and_eq_true,
    decide_eq_true_eq, Bool.not_eq_true']
  apply and_congr_right
  intro connecting
  obtain ⟨fd, same⟩ := sound.told.of_connecting connecting
  rw [same, enableReading_new]

/-! ### What one step keeps -/

/-- A step before the teardown that sets only the connection. -/
theorem Sound.set (sound : Sound life) (alive : life.destroyed = false) {after : TcpConnection}
    (silent : Silent after) (told : Told after) : Sound { life with conn := after } := by
  refine ⟨fun _ => silent, told, sound.refused, ?_⟩
  intro destroyed
  cases alive.symm.trans destroyed

theorem Sound.step (sound : Sound life) {event : LifeStep} (admissible : life.Admissible event)
    (regular : life.Regular event) : Sound (life.step event) := by
  cases event with
  | connectEstablished registers closes =>
      have silent := sound.silent admissible
      have after := sound.set admissible (silent.connectEstablished registers closes)
        (sound.told.connectEstablished regular closes)
      refine ⟨after.silent, after.told, ?_, after.destroyed⟩
      apply Bool.eq_false_iff.mpr
      intro refused
      obtain ⟨connecting, fails⟩ := (sound.refused_iff registers closes).mp refused
      cases fails.symm.trans (regular connecting)
  | read result registers =>
      have silent := sound.silent admissible
      apply sound.set admissible (silent.handleRead result registers)
      exact sound.told.handleRead regular registers
  | write result registers =>
      have silent := sound.silent admissible
      apply sound.set admissible (silent.handleWrite result registers)
      exact sound.told.handleWrite silent regular result registers
  | send message result registers =>
      have sent := sound.told.send (sound.silent admissible) message result registers
      exact sound.set admissible sent.2 sent.1
  | forceClose =>
      have silent := sound.silent admissible
      exact sound.set admissible silent.forceClose sound.told.forceClose
  | forceCloseInLoop registers =>
      have silent := sound.silent admissible.1
      have called : Silent { life.conn with forceCloses := life.conn.forceCloses - 1 } :=
        silent.congr rfl rfl
      apply sound.set admissible.1 (called.forceCloseInLoop registers)
      exact sound.told.forceCloseInLoop admissible.2 registers
  | shutdown =>
      have silent := sound.silent admissible
      exact sound.set admissible silent.shutdown sound.told.shutdown
  | connectDestroyed registers removes =>
      have destroyed := sound.told.connectDestroyed regular registers removes
      exact ⟨nofun, destroyed.1, sound.refused, fun _ => destroyed.2⟩

/-- A connection that is closed before it was established is told to be down first. -/
theorem handleClose_early {conn : TcpConnection} (told : Told conn)
    (connecting : conn.state = .kConnecting) (registers : Bool) :
    ¬(conn.handleClose registers).reports <+: [.up, .down] := by
  obtain ⟨fd, same⟩ := told.of_connecting connecting
  have live : conn.state ≠ .kDisconnected := by rw [connecting]; decide
  rw [(handleClose_closed live registers).reports, same]
  show ¬[Report.down] <+: [.up, .down]
  decide

/-- A write event closes a connection that has nothing to write. -/
theorem handleWrite_early {conn : TcpConnection} (told : Told conn)
    (connecting : conn.state = .kConnecting) (result : WriteResult) (registers : Bool) :
    conn.handleWrite result registers = conn.handleClose registers := by
  obtain ⟨fd, same⟩ := told.of_connecting connecting
  have silent : Silent conn := same ▸ silent_new fd
  have cases := handleWrite_cases silent result registers
  generalize conn.handleWrite result registers = after at cases ⊢
  cases cases with
  | retrieved _ some =>
      rw [same] at some
      exact absurd some (Nat.not_lt.mpr (Nat.min_le_right _ _))
  | closed _ => rfl

/-- Every step that is not regular breaks the order at once. -/
theorem step_orderly_iff (sound : Sound life) (event : LifeStep)
    (admissible : life.Admissible event) : Orderly (life.step event) ↔ life.Regular event := by
  constructor
  · intro orderly
    cases event with
    | connectEstablished registers closes =>
        intro connecting
        apply Bool.of_not_eq_false
        intro fails
        have refused := (sound.refused_iff registers closes).mpr ⟨connecting, fails⟩
        have nothing := orderly.refused refused
        obtain ⟨fd, same⟩ := sound.told.of_connecting connecting
        simp only [ConnectionLife.step, same, fails] at nothing
        cases nothing
    | read result registers =>
        cases result with
        | data => exact Or.inl rfl
        | endOfStream =>
            exact Or.inr fun connecting =>
              handleClose_early sound.told connecting registers orderly.reports
        | error =>
            exact Or.inr fun connecting =>
              handleClose_early sound.told connecting registers orderly.reports
    | write result registers =>
        intro connecting
        apply handleClose_early sound.told connecting registers
        rw [← handleWrite_early sound.told connecting result registers]
        exact orderly.reports
    | send message result registers => trivial
    | forceClose => trivial
    | forceCloseInLoop registers => trivial
    | shutdown => trivial
    | connectDestroyed registers removes =>
        -- the teardown leaves every other state as it is
        have gone := (orderly.destroyed rfl).1
        by_cases connected : life.conn.state = .kConnected
        · exact Or.inl connected
        · simp only [ConnectionLife.step, TcpConnection.connectDestroyed, connected,
            if_false] at gone
          exact Or.inr gone
  · exact fun regular => (sound.step admissible regular).orderly

theorem orderly_iff_regular (fd : Int) (events : List LifeStep)
    (admissible : Meets step Admissible (start fd) events) :
    Always step Orderly (start fd) events ↔ Meets step Regular (start fd) events :=
  always_iff_meets (fun _ event sound => step_orderly_iff sound event)
    (fun _ _ sound admissible regular => sound.step admissible regular)
    (fun _ sound => sound.orderly) events (Sound.start fd) admissible

theorem orderly_read_and_destroy :
    Always step Orderly (start 3)
      [.connectEstablished true true, .read .endOfStream true, .connectDestroyed true true] :=
  (orderly_iff_regular 3
    [.connectEstablished true true, .read .endOfStream true, .connectDestroyed true true]
    ⟨rfl, rfl, rfl, trivial⟩).mpr
    ⟨fun _ => rfl, Or.inr (by decide), Or.inr (by decide), trivial⟩

/-- After the shutdown the teardown leaves the connection as it is, and its end is not told. -/
theorem not_orderly_shutdown_and_destroy :
    ¬(Meets step Admissible (start 3)
        [.connectEstablished true true, .shutdown, .connectDestroyed true true] →
      Always step Orderly (start 3)
        [.connectEstablished true true, .shutdown, .connectDestroyed true true]) := by
  intro always
  have orderly := (always ⟨rfl, rfl, rfl, trivial⟩).2.2.2
  exact absurd (orderly.destroyed rfl).1 (by decide)

end ConnectionLife

end AChat.Net
