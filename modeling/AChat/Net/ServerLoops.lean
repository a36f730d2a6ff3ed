import AChat.Lib.Mailboxes
import AChat.Net.ConnectionNames
import AChat.Net.TcpLifeCycle

/-!
Contract: what the loops of a server do to one connection, in any order of their turns.

The server accepts a connection and takes it off its map in a loop of its own, and the connection
lives in a loop of a worker. They hand it to each other through their pending functors, and each
side relies on the other one for the order: a connection is established before anything else, and
torn down only after it was closed and removed.

Owns:
- the choice of a loop, the functors that are queued for a connection, and when they run;
- the stages of a connection, told by what is queued for it;
- that every connection takes its steps in turn, and that none is left over.

Does not own: how the workers start (`startLoop` waits for a loop that `threadFunc` never sets),
`stop`, calls from threads other than the loop of the connection, and descriptors.
-/

namespace AChat.Net

open Lib

/-! ### Loops -/

/-- The loop of the server is number 0, and those of the workers are numbered from 1 on. -/
abbrev LoopId := Nat

def baseLoop : LoopId := 0

/-- `EventLoopThreadPool`, once its loops run. -/
structure EventLoopThreadPool where
  numThreads : Nat
  next : Nat

/-- `getNextLoop`: the workers in turn, or the loop of the server without workers. -/
def EventLoopThreadPool.getNextLoop (pool : EventLoopThreadPool) : LoopId × EventLoopThreadPool :=
  if pool.numThreads = 0 then (baseLoop, pool)
  else
    (pool.next + 1,
      { pool with next := if pool.next + 1 ≥ pool.numThreads then 0 else pool.next + 1 })

/-- What is queued to a loop. -/
inductive ServerFunctor where
  | connectEstablished (conn : ServerConnPtr)
  | forceCloseInLoop (conn : ServerConnPtr)
  | removeConnectionInLoop (conn : ServerConnPtr)
  | connectDestroyed (conn : ServerConnPtr)
deriving DecidableEq, Repr

namespace ServerFunctor

def conn : ServerFunctor → ServerConnPtr
  | connectEstablished conn => conn
  | forceCloseInLoop conn => conn
  | removeConnectionInLoop conn => conn
  | connectDestroyed conn => conn

def establishes : ServerFunctor → Bool
  | connectEstablished _ => true
  | _ => false

end ServerFunctor

/-! ### The server -/

/-- A connection and its loop. -/
structure ServedConn where
  life : ConnectionLife
  loop : LoopId

structure ServerLoops where
  accepted : ServerRun
  pool : EventLoopThreadPool
  conns : List ServedConn
  pending : Mailboxes LoopId ServerFunctor

inductive LoopsEvent where
  | newConnection (fd : Int) (registers closes : Bool)
  | next (loop : LoopId) (registers removes : Bool)
  | handle (conn : ServerConnPtr) (event : LifeStep)
deriving DecidableEq, Repr

namespace ServerLoops

def start (numThreads : Nat) (hostport name : Bytes) : ServerLoops where
  accepted := .start hostport name
  pool := ⟨numThreads, 0⟩
  conns := []
  pending := .empty

def queueInLoop (loops : ServerLoops) (loop : LoopId) (functor : ServerFunctor) : ServerLoops :=
  { loops with pending := loops.pending.post loop functor }

/-- A connection that was on the map is torn down in its own loop. -/
def removeConnectionInLoop (loops : ServerLoops) (conn : ServerConnPtr) (loop : LoopId) :
    ServerLoops :=
  match loops.accepted.names[conn]? with
  | none => loops
  | some connName =>
      let removed := { loops with accepted := loops.accepted.step (.removeConnection conn) }
      if (loops.accepted.server.removeConnectionInLoop connName).1 then
        removed.queueInLoop loop (.connectDestroyed conn)
      else removed

/-- `removeConnection`, called in the loop of the connection: a `runInLoop`. -/
def removeConnection (loops : ServerLoops) (conn : ServerConnPtr) (loop : LoopId) : ServerLoops :=
  if loop = baseLoop then loops.removeConnectionInLoop conn loop
  else loops.queueInLoop baseLoop (.removeConnectionInLoop conn)

/-- One step of a connection, with the functors that it queues and the callback of the server. -/
def act (loops : ServerLoops) (conn : ServerConnPtr) (served : ServedConn) (event : LifeStep) :
    ServerLoops :=
  let after := served.life.step event
  let told := { loops with conns := loops.conns.set conn { served with life := after } }
  let forced :=
    if served.life.conn.forceCloses < after.conn.forceCloses then
      told.queueInLoop served.loop (.forceCloseInLoop conn)
    else told
  if served.life.conn.closeCallbacks < after.conn.closeCallbacks then
    forced.removeConnection conn served.loop
  else forced

/-- `newConnection`, with `runInLoop` of `connectEstablished`. -/
def newConnection (loops : ServerLoops) (fd : Int) (registers closes : Bool) : ServerLoops :=
  let conn := loops.conns.length
  let next := loops.pool.getNextLoop
  let served : ServedConn := ⟨.start fd, next.1⟩
  let named :=
    { loops with
      accepted := loops.accepted.step .newConnection
      pool := next.2
      conns := loops.conns ++ [served] }
  if next.1 = baseLoop then named.act conn served (.connectEstablished registers closes)
  else named.queueInLoop next.1 (.connectEstablished conn)

/-- A functor of a connection is called. -/
def call (loops : ServerLoops) (served : ServedConn) (functor : ServerFunctor)
    (registers removes : Bool) : ServerLoops :=
  match functor with
  | .connectEstablished conn => loops.act conn served (.connectEstablished registers removes)
  | .forceCloseInLoop conn => loops.act conn served (.forceCloseInLoop registers)
  | .connectDestroyed conn => loops.act conn served (.connectDestroyed registers removes)
  | .removeConnectionInLoop conn => loops.removeConnectionInLoop conn served.loop

/-- A loop calls its next functor. -/
def next (loops : ServerLoops) (loop : LoopId) (registers removes : Bool) : ServerLoops :=
  match loops.pending loop with
  | [] => loops
  | functor :: _ =>
      match loops.conns[functor.conn]? with
      | none => { loops with pending := loops.pending.take loop }
      | some served =>
          { loops with pending := loops.pending.take loop }.call served functor registers removes

def step (loops : ServerLoops) : LoopsEvent → ServerLoops
  | .newConnection fd registers closes => loops.newConnection fd registers closes
  | .next loop registers removes => loops.next loop registers removes
  | .handle conn event =>
      match loops.conns[conn]? with
      | none => loops
      | some served => loops.act conn served event

/-! ### What the environment promises -/

/-- The poller reports a channel between its registration and its removal, and the user calls only
until then. -/
def Handles (life : ConnectionLife) : LifeStep → Prop
  | .read _ _ | .write _ _ => life.destroyed = false ∧ life.conn.state ≠ .kConnecting
  | .send _ _ _ | .forceClose | .shutdown => life.destroyed = false
  | .connectEstablished _ _ | .forceCloseInLoop _ | .connectDestroyed _ _ => False

instance Handles.instDecidable (life : ConnectionLife) : DecidablePred (Handles life)
  | .read _ _ => inferInstanceAs (Decidable (_ ∧ _))
  | .write _ _ => inferInstanceAs (Decidable (_ ∧ _))
  | .send _ _ _ => inferInstanceAs (Decidable (_ = _))
  | .forceClose => inferInstanceAs (Decidable (_ = _))
  | .shutdown => inferInstanceAs (Decidable (_ = _))
  | .connectEstablished _ _ => inferInstanceAs (Decidable False)
  | .forceCloseInLoop _ => inferInstanceAs (Decidable False)
  | .connectDestroyed _ _ => inferInstanceAs (Decidable False)

/-- Registering a new connection does not fail. -/
def Allowed (loops : ServerLoops) : LoopsEvent → Prop
  | .newConnection _ registers _ => registers = true
  | .next loop registers _ =>
      ∀ functor ∈ (loops.pending loop).head?, functor.establishes = true → registers = true
  | .handle conn event => ∀ served ∈ loops.conns[conn]?, Handles served.life event

instance Allowed.instDecidable (loops : ServerLoops) : DecidablePred loops.Allowed
  | .newConnection _ registers _ => inferInstanceAs (Decidable (registers = true))
  | .next loop registers _ => inferInstanceAs (Decidable
      (∀ functor ∈ (loops.pending loop).head?, functor.establishes = true → registers = true))
  | .handle conn event =>
      inferInstanceAs (Decidable (∀ served ∈ loops.conns[conn]?, Handles served.life event))

/-! ### Steps of one connection -/

/-- A connection is registered when it is established, once, and the poller reports nothing before
that. It is torn down after it was closed and the server was told so. -/
def InTurn (life : ConnectionLife) : LifeStep → Prop
  | .connectEstablished registers _ => life.conn.state = .kConnecting ∧ registers = true
  | .read _ _ | .write _ _ => life.conn.state ≠ .kConnecting
  | .connectDestroyed _ _ => life.conn.state = .kDisconnected ∧ life.conn.closeCallbacks = 1
  | .send _ _ _ | .forceClose | .forceCloseInLoop _ | .shutdown => True

theorem InTurn.regular {life : ConnectionLife} {event : LifeStep} (inTurn : InTurn life event) :
    life.Regular event := by
  cases event with
  | connectEstablished _ _ => exact fun _ => inTurn.2
  | read _ _ => exact .inr inTurn
  | write _ _ => exact inTurn
  | connectDestroyed _ _ => exact .inr inTurn.1
  | _ => trivial

/-- Every step of a connection came in its turn, and none after its teardown. -/
def LivesInTurn (life : ConnectionLife) : Prop :=
  ∃ fd, Reach ConnectionLife.step (fun life event => life.Admissible event ∧ InTurn life event)
    (.start fd) life

theorem LivesInTurn.sound {life : ConnectionLife} (lives : LivesInTurn life) : life.Sound := by
  obtain ⟨fd, reach⟩ := lives
  exact reach.invariant ConnectionLife.Sound (.start fd)
    fun _ _ sound met => sound.step met.1 met.2.regular

theorem LivesInTurn.step {life : ConnectionLife} {event : LifeStep} (lives : LivesInTurn life)
    (admissible : life.Admissible event) (inTurn : InTurn life event) :
    LivesInTurn (life.step event) := by
  obtain ⟨fd, reach⟩ := lives
  exact ⟨fd, reach.step ⟨admissible, inTurn⟩⟩

/-- The connection is established and not closed. -/
def Up (conn : TcpConnection) : Prop :=
  conn.state = .kConnected ∨ conn.state = .kDisconnecting

theorem up_or_gone {conn : TcpConnection} (started : conn.state ≠ .kConnecting) :
    Up conn ∨ conn.state = .kDisconnected := by
  unfold Up
  cases state : conn.state with
  | kDisconnected => exact .inr rfl
  | kConnecting => exact absurd state started
  | kConnected => exact .inl (.inl rfl)
  | kDisconnecting => exact .inl (.inr rfl)

theorem Up.not_gone {conn : TcpConnection} (up : Up conn) : conn.state ≠ .kDisconnected := by
  cases up with
  | inl connected => rw [connected]; decide
  | inr closing => rw [closing]; decide

/-- What a step of an established connection does: it stays as it is, asks for a forced close, or
is closed. -/
inductive Moves (before after : TcpConnection) : Prop where
  | stays : Up before ∧ Up after ∨ before.state = .kDisconnected ∧ after.state = .kDisconnected →
      after.closeCallbacks = before.closeCallbacks → after.forceCloses = before.forceCloses →
      Moves before after
  | forces : Up before → Up after → after.closeCallbacks = before.closeCallbacks →
      after.forceCloses = before.forceCloses + 1 → Moves before after
  | closes : Up before → after.state = .kDisconnected →
      after.closeCallbacks = before.closeCallbacks + 1 →
      after.forceCloses = before.forceCloses → Moves before after

section Moves

variable {conn : TcpConnection}

theorem Moves.refl (started : conn.state ≠ .kConnecting) : Moves conn conn := by
  cases up_or_gone started with
  | inl up => exact .stays (.inl ⟨up, up⟩) rfl rfl
  | inr gone => exact .stays (.inr ⟨gone, gone⟩) rfl rfl

theorem handleClose_forceCloses (conn : TcpConnection) (registers : Bool) :
    (conn.handleClose registers).forceCloses = conn.forceCloses := by
  unfold TcpConnection.handleClose
  split <;> rfl

theorem handleClose_moves (started : conn.state ≠ .kConnecting) (registers : Bool) :
    Moves conn (conn.handleClose registers) := by
  cases up_or_gone started with
  | inl up =>
      have closed := TcpConnection.handleClose_closed up.not_gone registers
      exact .closes up closed.state closed.closeCallbacks (handleClose_forceCloses conn registers)
  | inr gone =>
      rw [TcpConnection.handleClose_disconnected gone]
      exact .refl started

theorem retrieve_forceCloses (conn : TcpConnection) (count : Nat) (registers : Bool) :
    (conn.retrieve count registers).forceCloses = conn.forceCloses := by
  unfold TcpConnection.retrieve TcpConnection.shutdownInLoop
  simp only
  split
  · split
    · split <;> rfl
    · rfl
  · rfl

theorem handleWrite_moves (silent : conn.Silent) (started : conn.state ≠ .kConnecting)
    (result : WriteResult) (registers : Bool) : Moves conn (conn.handleWrite result registers) := by
  have cases := TcpConnection.handleWrite_cases silent result registers
  generalize conn.handleWrite result registers = after at cases ⊢
  cases cases with
  | @retrieved count _ _ =>
      have retrieved := silent.retrieved count registers
      have forced := retrieve_forceCloses conn count registers
      cases up_or_gone started with
      | inl up =>
          have still : Up (conn.retrieve count registers) := by
            rw [Up, retrieved.state]
            exact up
          exact .stays (.inl ⟨up, still⟩) retrieved.closeCallbacks forced
      | inr gone =>
          exact .stays (.inr ⟨gone, retrieved.state.trans gone⟩) retrieved.closeCallbacks forced
  | closed _ => exact handleClose_moves started registers

theorem send_moves (silent : conn.Silent) (started : conn.state ≠ .kConnecting) (message : Bytes)
    (result : WriteResult) (registers : Bool) :
    Moves conn (conn.send message result registers) := by
  by_cases connected : conn.state = .kConnected
  · rw [silent.send connected message result registers]
    exact .stays (.inl ⟨.inl connected, .inl connected⟩) rfl rfl
  · have same : conn.send message result registers = conn := if_neg connected
    rw [same]
    exact .refl started

theorem forceClose_moves (started : conn.state ≠ .kConnecting) : Moves conn conn.forceClose := by
  unfold TcpConnection.forceClose
  split
  · rename_i up
    exact .forces up (.inr rfl) rfl rfl
  · exact .refl started

theorem shutdown_moves (started : conn.state ≠ .kConnecting) : Moves conn conn.shutdown := by
  unfold TcpConnection.shutdown
  split
  · rename_i connected
    exact .stays (.inl ⟨.inl connected, .inr rfl⟩) rfl rfl
  · exact .refl started

end Moves

section Handles

variable {life : ConnectionLife} {event : LifeStep}

theorem Handles.alive (handles : Handles life event) : life.destroyed = false := by
  cases event with
  | read _ _ => exact handles.1
  | write _ _ => exact handles.1
  | send _ _ _ => exact handles
  | forceClose => exact handles
  | shutdown => exact handles
  | connectEstablished _ _ => exact handles.elim
  | forceCloseInLoop _ => exact handles.elim
  | connectDestroyed _ _ => exact handles.elim

theorem Handles.admissible (handles : Handles life event) : life.Admissible event := by
  have alive := handles.alive
  cases event with
  | forceCloseInLoop _ => exact handles.elim
  | _ => exact alive

theorem Handles.inTurn (handles : Handles life event) : InTurn life event := by
  cases event with
  | read _ _ => exact handles.2
  | write _ _ => exact handles.2
  | send _ _ _ => trivial
  | forceClose => trivial
  | shutdown => trivial
  | connectEstablished _ _ => exact handles.elim
  | forceCloseInLoop _ => trivial
  | connectDestroyed _ _ => exact handles.elim

theorem Handles.moves (handles : Handles life event) (silent : life.conn.Silent)
    (started : life.conn.state ≠ .kConnecting) : Moves life.conn (life.step event).conn := by
  cases event with
  | read result registers =>
      cases result with
      | data => exact .refl started
      | endOfStream => exact handleClose_moves started registers
      | error => exact handleClose_moves started registers
  | write result registers => exact handleWrite_moves silent started result registers
  | send message result registers => exact send_moves silent started message result registers
  | forceClose => exact forceClose_moves started
  | shutdown => exact shutdown_moves started
  | connectEstablished _ _ => exact handles.elim
  | forceCloseInLoop _ => exact handles.elim
  | connectDestroyed _ _ => exact handles.elim

theorem Handles.destroyed (handles : Handles life event) :
    (life.step event).destroyed = life.destroyed := by
  cases event with
  | connectDestroyed _ _ => exact handles.elim
  | _ => rfl

/-- Before it is established, a connection takes no call. -/
theorem Handles.connecting (handles : Handles life event)
    (connecting : life.conn.state = .kConnecting) : life.step event = life := by
  have notUp : ¬(life.conn.state = .kConnected ∨ life.conn.state = .kDisconnecting) := by
    rw [connecting]
    decide
  have notConnected : life.conn.state ≠ .kConnected := fun connected => notUp (.inl connected)
  cases event with
  | read _ _ => exact absurd connecting handles.2
  | write _ _ => exact absurd connecting handles.2
  | send message result registers =>
      have same : life.conn.send message result registers = life.conn := if_neg notConnected
      rw [ConnectionLife.step, same]
  | forceClose =>
      have same : life.conn.forceClose = life.conn := if_neg notUp
      rw [ConnectionLife.step, same]
  | shutdown =>
      have same : life.conn.shutdown = life.conn := if_neg notConnected
      rw [ConnectionLife.step, same]
  | connectEstablished _ _ => exact handles.elim
  | forceCloseInLoop _ => exact handles.elim
  | connectDestroyed _ _ => exact handles.elim

end Handles

/-! ### Closing -/

/-- When a connection is closed, its server was told so, once. -/
def ServerKnows (conn : TcpConnection) : Prop :=
  conn.state = .kDisconnected → conn.closeCallbacks = 1

section ServerKnows

open ConnectionLife (Told)

variable {life : ConnectionLife} {event : LifeStep}

/-- A forced close of an established connection closes it. -/
theorem forceCloseInLoop_up (isUp : Up life.conn) (registers : Bool) :
    (life.step (.forceCloseInLoop registers)).conn =
      ({ life.conn with forceCloses := life.conn.forceCloses - 1 } : TcpConnection).handleClose
        registers :=
  if_pos isUp

/-- Any other connection only loses the queued call. -/
theorem forceCloseInLoop_idle (notUp : ¬Up life.conn) (registers : Bool) :
    life.step (.forceCloseInLoop registers) =
      { life with conn := { life.conn with forceCloses := life.conn.forceCloses - 1 } } := by
  unfold Up at notUp
  simp only [ConnectionLife.step, TcpConnection.forceCloseInLoop, if_neg notUp]

/-- The teardown of a closed connection only takes its channel from the poller. -/
theorem connectDestroyed_gone (gone : life.conn.state = .kDisconnected)
    (registers removes : Bool) :
    (life.step (.connectDestroyed registers removes)).conn =
      { life.conn with
        poller := (life.conn.channel.remove life.conn.poller 0 removes).1
        channel := (life.conn.channel.remove life.conn.poller 0 removes).2 } := by
  have notConnected : life.conn.state ≠ .kConnected := by
    rw [gone]
    decide
  simp only [ConnectionLife.step, TcpConnection.connectDestroyed, if_neg notConnected]

theorem Moves.serverKnows {before after : TcpConnection} (moves : Moves before after)
    (told : Told before) (knows : ServerKnows before) : ServerKnows after := by
  intro gone
  cases moves with
  | stays same closes _ =>
      obtain ⟨_, isUp⟩ | ⟨earlier, _⟩ := same
      · exact absurd gone isUp.not_gone
      · rw [closes]
        exact knows earlier
  | forces _ isUp _ _ => exact absurd gone isUp.not_gone
  | closes isUp _ closes _ => rw [closes, (told.of_live isUp).2]

theorem Handles.serverKnows (handles : Handles life event) (sound : life.Sound)
    (knows : ServerKnows life.conn) : ServerKnows (life.step event).conn := by
  by_cases connecting : life.conn.state = .kConnecting
  · rw [handles.connecting connecting]
    exact knows
  · exact (handles.moves (sound.silent handles.alive) connecting).serverKnows sound.told knows

theorem InTurn.serverKnows (inTurn : InTurn life event) (admissible : life.Admissible event)
    (sound : life.Sound) (knows : ServerKnows life.conn) :
    ServerKnows (life.step event).conn := by
  have handled : Handles life event → ServerKnows (life.step event).conn :=
    fun handles => handles.serverKnows sound knows
  cases event with
  | connectEstablished registers closes =>
      obtain ⟨connecting, registered⟩ := inTurn
      obtain ⟨fd, new⟩ := sound.told.of_connecting connecting
      intro gone
      rw [ConnectionLife.step, new, registered] at gone
      cases gone
  | read _ _ => exact handled ⟨admissible, inTurn⟩
  | write _ _ => exact handled ⟨admissible, inTurn⟩
  | send _ _ _ => exact handled admissible
  | forceClose => exact handled admissible
  | forceCloseInLoop registers =>
      by_cases isUp : Up life.conn
      · let called := { life.conn with forceCloses := life.conn.forceCloses - 1 }
        have closed := @TcpConnection.handleClose_closed called isUp.not_gone registers
        intro _
        rw [forceCloseInLoop_up isUp, closed.closeCallbacks]
        exact congrArg (· + 1) (sound.told.of_live isUp).2
      · rw [forceCloseInLoop_idle isUp]
        exact knows
  | shutdown => exact handled admissible
  | connectDestroyed registers removes =>
      intro _
      rw [connectDestroyed_gone inTurn.1]
      exact inTurn.2

theorem LivesInTurn.serverKnows (lives : LivesInTurn life) : ServerKnows life.conn := by
  obtain ⟨fd, reach⟩ := lives
  have new : ServerKnows (ConnectionLife.start fd).conn := by
    intro gone
    cases gone
  have kept := reach.invariant (fun life => life.Sound ∧ ServerKnows life.conn)
    ⟨.start fd, new⟩ fun _ _ earlier met =>
      ⟨earlier.1.step met.1 met.2.regular, met.2.serverKnows met.1 earlier.1 earlier.2⟩
  exact kept.2

end ServerKnows

/-! ### Stages -/

/-- What is queued for a connection. -/
def tasks (loops : ServerLoops) (conn : ServerConnPtr) : Mailboxes LoopId ServerFunctor :=
  loops.pending.about ServerFunctor.conn conn

/-- The forced closes that are queued for a connection. -/
def forced (conn : ServerConnPtr) (served : ServedConn) : List ServerFunctor :=
  .replicate served.life.conn.forceCloses (.forceCloseInLoop conn)

/-- How far a connection is, told by what is queued for it. -/
inductive Stage (loops : ServerLoops) (conn : ServerConnPtr) (served : ServedConn) : Prop where
  | accepted (fd : Int) : served.life = .start fd →
      loops.tasks conn = .only served.loop [.connectEstablished conn] →
      conn ∈ loops.accepted.live → Stage loops conn served
  | up : Up served.life.conn → served.life.destroyed = false →
      loops.tasks conn = .only served.loop (forced conn served) →
      conn ∈ loops.accepted.live → Stage loops conn served
  | closed : served.life.conn.state = .kDisconnected → served.life.destroyed = false →
      served.loop ≠ baseLoop →
      loops.tasks conn =
        (Mailboxes.only served.loop (forced conn served)).post baseLoop
          (.removeConnectionInLoop conn) →
      conn ∈ loops.accepted.live → Stage loops conn served
  | removed : served.life.conn.state = .kDisconnected → served.life.destroyed = false →
      loops.tasks conn = .only served.loop (forced conn served ++ [.connectDestroyed conn]) →
      conn ∉ loops.accepted.live → Stage loops conn served
  | destroyed : served.life.conn.state = .kDisconnected → served.life.destroyed = true →
      loops.tasks conn = .empty → conn ∉ loops.accepted.live → Stage loops conn served
  -- another connection of the same name was removed before it
  | lost : served.life.conn.state = .kDisconnected → served.life.destroyed = false →
      loops.tasks conn = .only served.loop (forced conn served) →
      conn ∉ loops.accepted.live → ¬loops.accepted.names.Nodup → Stage loops conn served

/-- A stage depends on what belongs to the connection only. -/
theorem Stage.congr {conn : ServerConnPtr} {before after : ServerLoops} {served : ServedConn}
    (stage : Stage before conn served) (tasks : after.tasks conn = before.tasks conn)
    (live : conn ∈ after.accepted.live ↔ conn ∈ before.accepted.live)
    (names : before.accepted.names <+: after.accepted.names) : Stage after conn served := by
  cases stage with
  | accepted fd life queued member =>
      exact .accepted fd life (tasks.trans queued) (live.mpr member)
  | up isUp alive queued member => exact .up isUp alive (tasks.trans queued) (live.mpr member)
  | closed gone alive worker queued member =>
      exact .closed gone alive worker (tasks.trans queued) (live.mpr member)
  | removed gone alive queued absent =>
      exact .removed gone alive (tasks.trans queued) fun member => absent (live.mp member)
  | destroyed gone torn queued absent =>
      exact .destroyed gone torn (tasks.trans queued) fun member => absent (live.mp member)
  | lost gone alive queued absent repeated =>
      exact .lost gone alive (tasks.trans queued) (fun member => absent (live.mp member))
        fun distinct => repeated (distinct.sublist names.sublist)

/-- Nothing but what belongs to one connection has changed. -/
structure Frame (who : ServerConnPtr) (before after : ServerLoops) : Prop where
  size : after.conns.length = before.conns.length
  conns : ∀ other, other ≠ who → after.conns[other]? = before.conns[other]?
  tasks : ∀ other, other ≠ who → after.tasks other = before.tasks other
  live : ∀ other, other ≠ who → (other ∈ after.accepted.live ↔ other ∈ before.accepted.live)
  names : after.accepted.names = before.accepted.names
  consistent : ∀ {hostport name}, ServerRun.Consistent hostport name before.accepted →
    ServerRun.Consistent hostport name after.accepted

theorem Frame.refl (who : ServerConnPtr) (loops : ServerLoops) : Frame who loops loops :=
  ⟨rfl, fun _ _ => rfl, fun _ _ => rfl, fun _ _ => .rfl, rfl, id⟩

theorem Frame.trans {who : ServerConnPtr} {first second third : ServerLoops}
    (before : Frame who first second) (after : Frame who second third) : Frame who first third :=
  ⟨after.size.trans before.size,
    fun other different => (after.conns other different).trans (before.conns other different),
    fun other different => (after.tasks other different).trans (before.tasks other different),
    fun other different => (after.live other different).trans (before.live other different),
    after.names.trans before.names,
    fun consistent => after.consistent (before.consistent consistent)⟩

/-! ### What the operations change -/

section Operations

variable {loops : ServerLoops} {conn : ServerConnPtr} {served : ServedConn}

theorem queueInLoop_frame (loops : ServerLoops) (loop : LoopId) (functor : ServerFunctor) :
    Frame functor.conn loops (loops.queueInLoop loop functor) :=
  ⟨rfl, fun _ _ => rfl, fun _ different => Mailboxes.about_post_other different.symm,
    fun _ _ => .rfl, rfl, id⟩

theorem queueInLoop_tasks {functor : ServerFunctor} (own : functor.conn = conn) (loop : LoopId) :
    (loops.queueInLoop loop functor).tasks conn = (loops.tasks conn).post loop functor :=
  Mailboxes.about_post_own own

theorem take_frame {loop : LoopId} {functor : ServerFunctor} {rest : List ServerFunctor}
    (next : loops.pending loop = functor :: rest) :
    Frame functor.conn loops { loops with pending := loops.pending.take loop } :=
  ⟨rfl, fun _ _ => rfl, fun _ different => Mailboxes.about_take_other next different.symm,
    fun _ _ => .rfl, rfl, id⟩

theorem set_frame (loops : ServerLoops) (conn : ServerConnPtr) (served : ServedConn) :
    Frame conn loops { loops with conns := loops.conns.set conn served } :=
  ⟨List.length_set, fun _ different => List.getElem?_set_ne different.symm, fun _ _ => rfl,
    fun _ _ => .rfl, rfl, id⟩

theorem removal_live (accepted : ServerRun) (conn : ServerConnPtr) {other : ServerConnPtr}
    (different : other ≠ conn) :
    other ∈ (accepted.step (.removeConnection conn)).live ↔ other ∈ accepted.live := by
  unfold ServerRun.step
  simp only
  split
  · exact List.mem_erase_of_ne different
  · exact .rfl

theorem removal_names (accepted : ServerRun) (conn : ServerConnPtr) :
    (accepted.step (.removeConnection conn)).names = accepted.names := by
  unfold ServerRun.step
  simp only
  split <;> rfl

theorem removeConnectionInLoop_frame (loops : ServerLoops) (conn : ServerConnPtr)
    (loop : LoopId) : Frame conn loops (loops.removeConnectionInLoop conn loop) := by
  unfold removeConnectionInLoop
  split
  · exact .refl conn loops
  · have removed : Frame conn loops
        { loops with accepted := loops.accepted.step (.removeConnection conn) } :=
      ⟨rfl, fun _ _ => rfl, fun _ _ => rfl, fun _ different => removal_live _ _ different,
        removal_names _ _, fun consistent => consistent.step (.removeConnection conn)⟩
    simp only
    split
    · exact removed.trans (queueInLoop_frame _ loop (.connectDestroyed conn))
    · exact removed

theorem removeConnection_frame (loops : ServerLoops) (conn : ServerConnPtr) (loop : LoopId) :
    Frame conn loops (loops.removeConnection conn loop) := by
  unfold removeConnection
  split
  · exact removeConnectionInLoop_frame loops conn loop
  · exact queueInLoop_frame loops baseLoop (.removeConnectionInLoop conn)

theorem act_frame (loops : ServerLoops) (conn : ServerConnPtr) (served : ServedConn)
    (event : LifeStep) : Frame conn loops (loops.act conn served event) := by
  have told := set_frame loops conn { served with life := served.life.step event }
  unfold act
  simp only
  split
  · split
    · exact (told.trans (queueInLoop_frame _ served.loop (.forceCloseInLoop conn))).trans
        (removeConnection_frame _ conn served.loop)
    · exact told.trans (removeConnection_frame _ conn served.loop)
  · split
    · exact told.trans (queueInLoop_frame _ served.loop (.forceCloseInLoop conn))
    · exact told

end Operations

/-! ### What a step does to the stage -/

section Stages

variable {hostport name : Bytes} {loops : ServerLoops} {conn : ServerConnPtr}
  {served : ServedConn} {event : LifeStep}

/-- The connection after a step, where it stands. -/
def told (loops : ServerLoops) (conn : ServerConnPtr) (served : ServedConn) (event : LifeStep) :
    ServerLoops :=
  { loops with conns := loops.conns.set conn { served with life := served.life.step event } }

theorem act_stays
    (closes : (served.life.step event).conn.closeCallbacks = served.life.conn.closeCallbacks)
    (forces : (served.life.step event).conn.forceCloses ≤ served.life.conn.forceCloses) :
    loops.act conn served event = told loops conn served event := by
  unfold act
  simp only
  rw [if_neg (Nat.not_lt.mpr forces), if_neg (Nat.not_lt.mpr closes.le), told]

theorem act_forces
    (closes : (served.life.step event).conn.closeCallbacks = served.life.conn.closeCallbacks)
    (forces : (served.life.step event).conn.forceCloses = served.life.conn.forceCloses + 1) :
    loops.act conn served event =
      (told loops conn served event).queueInLoop served.loop (.forceCloseInLoop conn) := by
  have asks : served.life.conn.forceCloses < (served.life.step event).conn.forceCloses := by omega
  unfold act
  simp only
  rw [if_pos asks, if_neg (Nat.not_lt.mpr closes.le), told]

theorem act_closes
    (closes : (served.life.step event).conn.closeCallbacks = served.life.conn.closeCallbacks + 1)
    (forces : (served.life.step event).conn.forceCloses ≤ served.life.conn.forceCloses) :
    loops.act conn served event =
      (told loops conn served event).removeConnection conn served.loop := by
  unfold act
  simp only
  rw [if_neg (Nat.not_lt.mpr forces), if_pos (by omega), told]

/-- Once it was removed, a connection is not among those that wait for it. -/
theorem not_mem_removal {accepted : ServerRun}
    (consistent : ServerRun.Consistent hostport name accepted) (member : conn ∈ accepted.live) :
    conn ∉ (accepted.step (.removeConnection conn)).live := by
  have inside := consistent.numbered.accepted conn member
  unfold ServerRun.step
  simp only [List.getElem?_eq_getElem inside]
  exact consistent.numbered.live.not_mem_erase

/-- The map has a connection that was not removed, unless names were given twice. -/
theorem contains_name {accepted : ServerRun}
    (consistent : ServerRun.Consistent hostport name accepted) (distinct : accepted.names.Nodup)
    (member : conn ∈ accepted.live) {connName : Bytes}
    (named : accepted.names[conn]? = some connName) :
    (accepted.server.removeConnectionInLoop connName).1 = true := by
  have entry := ((consistent.mapped distinct).entries connName conn).mpr ⟨member, named⟩
  rw [TcpServer.removeConnectionInLoop, ← Std.TreeMap.mem_iff_contains,
    Std.TreeMap.mem_iff_isSome_getElem?, entry]
  rfl

/-- A closed connection is removed, and its teardown is queued behind the forced closes. -/
theorem removeConnectionInLoop_stage
    (consistent : ServerRun.Consistent hostport name loops.accepted)
    (gone : served.life.conn.state = .kDisconnected) (alive : served.life.destroyed = false)
    (queued : loops.tasks conn = .only served.loop (forced conn served))
    (member : conn ∈ loops.accepted.live) :
    Stage (loops.removeConnectionInLoop conn served.loop) conn served := by
  have absent := not_mem_removal consistent member
  have inside := consistent.numbered.accepted conn member
  have named := List.getElem?_eq_getElem inside
  unfold removeConnectionInLoop
  rw [named]
  simp only
  split
  · refine .removed gone alive ?_ absent
    refine (queueInLoop_tasks rfl _).trans ?_
    change (loops.tasks conn).post _ _ = _
    rw [queued, Mailboxes.post_only]
  · rename_i missing
    refine .lost gone alive queued absent fun distinct => missing ?_
    exact contains_name consistent
      (distinct.sublist (ServerRun.names_grow _ _).sublist) member named

theorem removeConnection_stage
    (consistent : ServerRun.Consistent hostport name loops.accepted)
    (gone : served.life.conn.state = .kDisconnected) (alive : served.life.destroyed = false)
    (queued : loops.tasks conn = .only served.loop (forced conn served))
    (member : conn ∈ loops.accepted.live) :
    Stage (loops.removeConnection conn served.loop) conn served := by
  unfold removeConnection
  split
  · exact removeConnectionInLoop_stage consistent gone alive queued member
  · rename_i worker
    refine .closed gone alive worker ?_ member
    rw [← queued]
    exact queueInLoop_tasks rfl _

/-- A step that the poller or the user causes. -/
theorem moves_stage (consistent : ServerRun.Consistent hostport name loops.accepted)
    (stage : Stage loops conn served) (started : served.life.conn.state ≠ .kConnecting)
    (alive : served.life.destroyed = false) (still : (served.life.step event).destroyed = false)
    (moves : Moves served.life.conn (served.life.step event).conn) :
    Stage (loops.act conn served event) conn
      { served with life := served.life.step event } := by
  cases moves with
  | stays same closes forces =>
      rw [act_stays closes forces.le]
      have kept : forced conn { served with life := served.life.step event } =
          forced conn served := by
        rw [forced, forced, forces]
      cases stage with
      | accepted fd life _ _ => exact absurd (by rw [life]; rfl) started
      | up isUp _ queued member =>
          have after := same.resolve_right fun gone => isUp.not_gone gone.1
          exact .up after.2 still (by rw [kept]; exact queued) member
      | closed gone _ worker queued member =>
          have after := same.resolve_left fun isUp => isUp.1.not_gone gone
          exact .closed after.2 still worker (by rw [kept]; exact queued) member
      | removed gone _ queued absent =>
          have after := same.resolve_left fun isUp => isUp.1.not_gone gone
          exact .removed after.2 still (by rw [kept]; exact queued) absent
      | destroyed _ torn _ _ => cases alive.symm.trans torn
      | lost gone _ queued absent repeated =>
          have after := same.resolve_left fun isUp => isUp.1.not_gone gone
          exact .lost after.2 still (by rw [kept]; exact queued) absent repeated
  | forces before after closes forces =>
      rw [act_forces closes forces]
      have longer : forced conn { served with life := served.life.step event } =
          forced conn served ++ [.forceCloseInLoop conn] := by
        rw [forced, forced, forces, List.replicate_succ']
      cases stage with
      | accepted fd life _ _ => exact absurd (by rw [life]; rfl) started
      | up _ _ queued member =>
          refine .up after still ?_ member
          rw [longer, ← Mailboxes.post_only, ← queued]
          exact queueInLoop_tasks rfl _
      | closed gone _ _ _ _ => exact absurd gone before.not_gone
      | removed gone _ _ _ => exact absurd gone before.not_gone
      | destroyed gone _ _ _ => exact absurd gone before.not_gone
      | lost gone _ _ _ _ => exact absurd gone before.not_gone
  | closes before after closes forces =>
      rw [act_closes closes forces.le]
      have kept : forced conn { served with life := served.life.step event } =
          forced conn served := by
        rw [forced, forced, forces]
      cases stage with
      | accepted fd life _ _ => exact absurd (by rw [life]; rfl) started
      | up _ _ queued member =>
          exact @removeConnection_stage _ _ _ _ { served with life := served.life.step event }
            consistent after still (by rw [kept]; exact queued) member
      | closed gone _ _ _ _ => exact absurd gone before.not_gone
      | removed gone _ _ _ => exact absurd gone before.not_gone
      | destroyed gone _ _ _ => exact absurd gone before.not_gone
      | lost gone _ _ _ _ => exact absurd gone before.not_gone

/-- A new connection is established. -/
theorem established_stage (fd : Int) (new : served.life = .start fd)
    (queued : loops.tasks conn = .empty) (member : conn ∈ loops.accepted.live) (closes : Bool) :
    Stage (loops.act conn served (.connectEstablished true closes)) conn
      { served with life := served.life.step (.connectEstablished true closes) } := by
  have closeCallbacks :
      (served.life.step (.connectEstablished true closes)).conn.closeCallbacks =
        served.life.conn.closeCallbacks := by
    rw [new]
    rfl
  have forceCloses : (served.life.step (.connectEstablished true closes)).conn.forceCloses =
      served.life.conn.forceCloses := by
    rw [new]
    rfl
  rw [act_stays closeCallbacks forceCloses.le]
  refine .up ?_ ?_ ?_ member
  · rw [new]
    exact .inl rfl
  · rw [new]
    rfl
  · rw [forced, forceCloses, new]
    exact queued.trans (Mailboxes.only_nil _).symm

/-- A forced close of an established connection closes it. -/
theorem forceClose_up_stage (consistent : ServerRun.Consistent hostport name loops.accepted)
    (isUp : Up served.life.conn) (alive : served.life.destroyed = false)
    (queued : loops.tasks conn = .only served.loop
      (.replicate (served.life.conn.forceCloses - 1) (.forceCloseInLoop conn)))
    (member : conn ∈ loops.accepted.live) (registers : Bool) :
    Stage (loops.act conn served (.forceCloseInLoop registers)) conn
      { served with life := served.life.step (.forceCloseInLoop registers) } := by
  let called := { served.life.conn with forceCloses := served.life.conn.forceCloses - 1 }
  have same : (served.life.step (.forceCloseInLoop registers)).conn =
      called.handleClose registers := forceCloseInLoop_up isUp registers
  have closed := @TcpConnection.handleClose_closed called isUp.not_gone registers
  have forces : (served.life.step (.forceCloseInLoop registers)).conn.forceCloses =
      served.life.conn.forceCloses - 1 := by
    rw [same]
    exact handleClose_forceCloses called registers
  have closes : (served.life.step (.forceCloseInLoop registers)).conn.closeCallbacks =
      served.life.conn.closeCallbacks + 1 := by
    rw [same]
    exact closed.closeCallbacks
  rw [act_closes closes (forces.le.trans (Nat.sub_le _ _))]
  refine @removeConnection_stage _ _ _ _
    { served with life := served.life.step (.forceCloseInLoop registers) } consistent ?_ alive ?_
    member
  · rw [same]
    exact closed.state
  · rw [forced, forces]
    exact queued

/-- A forced close of a closed connection does nothing. -/
theorem forceClose_gone (gone : served.life.conn.state = .kDisconnected) (registers : Bool) :
    served.life.step (.forceCloseInLoop registers) =
      { served.life with conn :=
        { served.life.conn with forceCloses := served.life.conn.forceCloses - 1 } } :=
  forceCloseInLoop_idle (fun isUp => isUp.not_gone gone) registers

theorem act_forceClose_gone (gone : served.life.conn.state = .kDisconnected) (registers : Bool) :
    loops.act conn served (.forceCloseInLoop registers) =
      told loops conn served (.forceCloseInLoop registers) := by
  have same := forceClose_gone gone registers
  apply act_stays
  · rw [same]
  · rw [same]
    exact Nat.sub_le _ _

/-- The teardown of a closed connection. -/
theorem destroyed_stage (gone : served.life.conn.state = .kDisconnected)
    (queued : loops.tasks conn = .empty) (absent : conn ∉ loops.accepted.live)
    (registers removes : Bool) :
    Stage (loops.act conn served (.connectDestroyed registers removes)) conn
      { served with life := served.life.step (.connectDestroyed registers removes) } := by
  have same := connectDestroyed_gone gone registers removes
  rw [act_stays (by rw [same]) (by rw [same])]
  refine .destroyed ?_ rfl queued absent
  rw [same]
  exact gone

end Stages

/-! ### The invariant -/

/-- All connections but one have lived in turn, and are in a stage. -/
structure KeptBut (hostport name : Bytes) (who : ServerConnPtr) (loops : ServerLoops) : Prop where
  consistent : ServerRun.Consistent hostport name loops.accepted
  size : loops.accepted.names.length = loops.conns.length
  inside : who < loops.conns.length
  unknown : ∀ conn, loops.conns.length ≤ conn → loops.tasks conn = .empty
  others : ∀ conn, conn ≠ who → ∀ served, loops.conns[conn]? = some served →
    LivesInTurn served.life ∧ Stage loops conn served

structure Kept (hostport name : Bytes) (loops : ServerLoops) : Prop where
  consistent : ServerRun.Consistent hostport name loops.accepted
  size : loops.accepted.names.length = loops.conns.length
  unknown : ∀ conn, loops.conns.length ≤ conn → loops.tasks conn = .empty
  lives : ∀ conn served, loops.conns[conn]? = some served →
    LivesInTurn served.life ∧ Stage loops conn served

section Invariant

variable {hostport name : Bytes} {loops later : ServerLoops} {who : ServerConnPtr}

theorem Kept.but (kept : Kept hostport name loops) (inside : who < loops.conns.length) :
    KeptBut hostport name who loops :=
  ⟨kept.consistent, kept.size, inside, kept.unknown, fun conn _ => kept.lives conn⟩

theorem KeptBut.frame (kept : KeptBut hostport name who loops) (frame : Frame who loops later) :
    KeptBut hostport name who later where
  consistent := frame.consistent kept.consistent
  size := by rw [frame.names, frame.size, kept.size]
  inside := frame.size ▸ kept.inside
  unknown conn beyond := by
    rw [frame.size] at beyond
    have different : conn ≠ who := Nat.ne_of_gt (Nat.lt_of_lt_of_le kept.inside beyond)
    exact (frame.tasks conn different).trans (kept.unknown conn beyond)
  others conn different served found := by
    obtain ⟨lives, stage⟩ := kept.others conn different served
      ((frame.conns conn different).symm.trans found)
    exact ⟨lives, stage.congr (frame.tasks conn different) (frame.live conn different)
      (frame.names ▸ List.prefix_rfl)⟩

theorem KeptBut.close (kept : KeptBut hostport name who loops) {served : ServedConn}
    (found : loops.conns[who]? = some served) (lives : LivesInTurn served.life)
    (stage : Stage loops who served) : Kept hostport name loops where
  consistent := kept.consistent
  size := kept.size
  unknown := kept.unknown
  lives conn other there := by
    by_cases same : conn = who
    · subst same
      cases found.symm.trans there
      exact ⟨lives, stage⟩
    · exact kept.others conn same other there

theorem removeConnectionInLoop_conns (loops : ServerLoops) (conn : ServerConnPtr)
    (loop : LoopId) : (loops.removeConnectionInLoop conn loop).conns = loops.conns := by
  unfold removeConnectionInLoop
  split
  · rfl
  · simp only
    split <;> rfl

theorem removeConnection_conns (loops : ServerLoops) (conn : ServerConnPtr) (loop : LoopId) :
    (loops.removeConnection conn loop).conns = loops.conns := by
  unfold removeConnection
  split
  · exact removeConnectionInLoop_conns loops conn loop
  · rfl

theorem act_conns (loops : ServerLoops) (conn : ServerConnPtr) (served : ServedConn)
    (event : LifeStep) :
    (loops.act conn served event).conns =
      loops.conns.set conn { served with life := served.life.step event } := by
  unfold act
  simp only
  split
  · rw [removeConnection_conns]
    split <;> rfl
  · split <;> rfl

/-- A step of one connection leaves all of them in order. -/
theorem KeptBut.act {served : ServedConn} {event : LifeStep}
    (kept : KeptBut hostport name who loops) (lives : LivesInTurn served.life)
    (admissible : served.life.Admissible event) (inTurn : InTurn served.life event)
    (stage : Stage (loops.act who served event) who
      { served with life := served.life.step event }) :
    Kept hostport name (loops.act who served event) := by
  apply (kept.frame (act_frame loops who served event)).close _ (lives.step admissible inTurn)
    stage
  rw [act_conns, List.getElem?_set_self kept.inside]

theorem Kept.handle (kept : Kept hostport name loops) {served : ServedConn} {event : LifeStep}
    (found : loops.conns[who]? = some served) (handles : Handles served.life event) :
    Kept hostport name (loops.act who served event) := by
  obtain ⟨lives, stage⟩ := kept.lives who served found
  have inside := (List.getElem?_eq_some_iff.mp found).1
  apply (kept.but inside).act lives handles.admissible handles.inTurn
  by_cases connecting : served.life.conn.state = .kConnecting
  · have same := handles.connecting connecting
    rw [act_stays (by rw [same]) (by rw [same]), same]
    exact stage.congr rfl .rfl List.prefix_rfl
  · have silent := lives.sound.silent handles.alive
    exact moves_stage kept.consistent stage connecting handles.alive
      (handles.destroyed.trans handles.alive) (handles.moves silent connecting)

/-- The next functor of a loop, when it is taken. -/
structure Taken (hostport name : Bytes) (before loops : ServerLoops) (conn : ServerConnPtr)
    (served : ServedConn) (loop : LoopId) (functor : ServerFunctor) : Prop where
  kept : KeptBut hostport name conn loops
  lives : LivesInTurn served.life
  stage : Stage before conn served
  found : loops.conns[conn]? = some served
  accepted : loops.accepted = before.accepted
  queued : ∃ others, before.tasks conn loop = functor :: others
  tasks : loops.tasks conn = (before.tasks conn).take loop

section Taken

variable {before : ServerLoops} {conn : ServerConnPtr} {served : ServedConn} {loop : LoopId}
  {functor : ServerFunctor} {registers removes : Bool}

/-- What is queued in one place is taken from there. -/
theorem Taken.of_only (taken : Taken hostport name before loops conn served loop functor)
    {place : LoopId} {waiting : List ServerFunctor}
    (only : before.tasks conn = .only place waiting) :
    ∃ rest, waiting = functor :: rest ∧ loops.tasks conn = .only place rest := by
  obtain ⟨others, queued⟩ := taken.queued
  have tasks := taken.tasks
  rw [only] at queued tasks
  have here : loop = place := by
    by_contra elsewhere
    rw [Mailboxes.only_other elsewhere] at queued
    cases queued
  subst here
  rw [Mailboxes.only_self] at queued
  refine ⟨others, queued, ?_⟩
  rw [tasks, queued, Mailboxes.take_only]

/-- The forced closes come first. -/
theorem forced_cons {last rest : List ServerFunctor}
    (waiting : forced conn served ++ last = functor :: rest) :
    served.life.conn.forceCloses = 0 ∧ last = functor :: rest ∨
      0 < served.life.conn.forceCloses ∧ functor = .forceCloseInLoop conn ∧
        rest = .replicate (served.life.conn.forceCloses - 1) (.forceCloseInLoop conn) ++ last := by
  unfold forced at waiting
  cases count : served.life.conn.forceCloses with
  | zero =>
      rw [count] at waiting
      exact .inl ⟨rfl, waiting⟩
  | succ more =>
      rw [count, List.replicate_succ, List.cons_append] at waiting
      obtain ⟨first, others⟩ := List.cons.inj waiting
      exact .inr ⟨Nat.succ_pos more, first.symm, others.symm⟩

theorem forced_gone (gone : served.life.conn.state = .kDisconnected) (registers : Bool) :
    forced conn { served with life := served.life.step (.forceCloseInLoop registers) } =
      .replicate (served.life.conn.forceCloses - 1) (.forceCloseInLoop conn) := by
  rw [forced, forceClose_gone gone]

/-- A forced close that comes after the connection was closed. -/
theorem Taken.forceClose (taken : Taken hostport name before loops conn served loop functor)
    (gone : served.life.conn.state = .kDisconnected) (alive : served.life.destroyed = false)
    (same : functor = .forceCloseInLoop conn) (waits : 0 < served.life.conn.forceCloses)
    (stage : Stage (told loops conn served (.forceCloseInLoop registers)) conn
      { served with life := served.life.step (.forceCloseInLoop registers) }) :
    Kept hostport name (loops.call served functor registers removes) := by
  subst same
  have admissible : served.life.Admissible (.forceCloseInLoop registers) := ⟨alive, waits⟩
  apply taken.kept.act taken.lives admissible trivial
  rw [act_forceClose_gone gone]
  exact stage

theorem gone_after (gone : served.life.conn.state = .kDisconnected) (registers : Bool) :
    (served.life.step (.forceCloseInLoop registers)).conn.state = .kDisconnected := by
  rw [forceClose_gone gone]
  exact gone

theorem Taken.accepted_call (taken : Taken hostport name before loops conn served loop functor)
    (allowed : functor.establishes = true → registers = true) {fd : Int}
    (new : served.life = .start fd)
    (only : before.tasks conn = .only served.loop [.connectEstablished conn])
    (member : conn ∈ before.accepted.live) :
    Kept hostport name (loops.call served functor registers removes) := by
  obtain ⟨rest, waiting, tasks⟩ := taken.of_only only
  cases waiting
  have registered : registers = true := allowed rfl
  subst registered
  have admissible : served.life.Admissible (.connectEstablished true removes) := by
    rw [new]
    rfl
  have inTurn : InTurn served.life (.connectEstablished true removes) := by
    rw [new]
    exact ⟨rfl, rfl⟩
  apply taken.kept.act taken.lives admissible inTurn
  exact established_stage fd new (tasks.trans (Mailboxes.only_nil _)) (taken.accepted ▸ member)
    removes

theorem Taken.up_call (taken : Taken hostport name before loops conn served loop functor)
    (isUp : Up served.life.conn) (alive : served.life.destroyed = false)
    (only : before.tasks conn = .only served.loop (forced conn served))
    (member : conn ∈ before.accepted.live) :
    Kept hostport name (loops.call served functor registers removes) := by
  obtain ⟨rest, waiting, tasks⟩ := taken.of_only only
  rw [← List.append_nil (forced conn served)] at waiting
  obtain ⟨_, none⟩ | ⟨waits, rfl, rfl⟩ := forced_cons waiting
  · cases none
  · have admissible : served.life.Admissible (.forceCloseInLoop registers) := ⟨alive, waits⟩
    apply taken.kept.act taken.lives admissible trivial
    rw [List.append_nil] at tasks
    exact forceClose_up_stage taken.kept.consistent isUp alive tasks (taken.accepted ▸ member)
      registers

theorem Taken.closed_call (taken : Taken hostport name before loops conn served loop functor)
    (gone : served.life.conn.state = .kDisconnected) (alive : served.life.destroyed = false)
    (worker : served.loop ≠ baseLoop)
    (waits : before.tasks conn =
      (Mailboxes.only served.loop (forced conn served)).post baseLoop
        (.removeConnectionInLoop conn))
    (member : conn ∈ before.accepted.live) :
    Kept hostport name (loops.call served functor registers removes) := by
  obtain ⟨others, queued⟩ := taken.queued
  have tasks := taken.tasks
  rw [waits] at queued tasks
  have none : Mailboxes.only served.loop (forced conn served) baseLoop = [] :=
    Mailboxes.only_other worker.symm _
  by_cases base : loop = baseLoop
  · subst base
    rw [Mailboxes.take_post_self _ none] at tasks
    rw [Mailboxes.post, Function.update_self, none] at queued
    cases queued
    have stage := removeConnectionInLoop_stage taken.kept.consistent gone alive tasks
      (taken.accepted ▸ member)
    have found := taken.found
    rw [← removeConnectionInLoop_conns loops conn served.loop] at found
    exact (taken.kept.frame (removeConnectionInLoop_frame loops conn served.loop)).close found
      taken.lives stage
  · rw [Mailboxes.take_post _ (Ne.symm base)] at tasks
    rw [Mailboxes.post, Function.update_of_ne base] at queued
    have here : loop = served.loop := by
      by_contra elsewhere
      rw [Mailboxes.only_other elsewhere] at queued
      cases queued
    subst here
    rw [Mailboxes.only_self] at queued
    have waiting := (List.append_nil (forced conn served)).trans queued
    obtain ⟨_, nothing⟩ | ⟨some, rfl, rfl⟩ := forced_cons waiting
    · cases nothing
    · apply taken.forceClose gone alive rfl some
      refine .closed (gone_after gone registers) alive worker ?_ (taken.accepted ▸ member)
      rw [queued, Mailboxes.take_only, List.append_nil] at tasks
      rw [forced_gone gone]
      exact tasks

theorem Taken.removed_call (taken : Taken hostport name before loops conn served loop functor)
    (gone : served.life.conn.state = .kDisconnected) (alive : served.life.destroyed = false)
    (only : before.tasks conn =
      .only served.loop (forced conn served ++ [.connectDestroyed conn]))
    (absent : conn ∉ before.accepted.live) :
    Kept hostport name (loops.call served functor registers removes) := by
  obtain ⟨rest, waiting, tasks⟩ := taken.of_only only
  rw [← taken.accepted] at absent
  obtain ⟨_, last⟩ | ⟨some, rfl, rfl⟩ := forced_cons waiting
  · cases last
    have admissible : served.life.Admissible (.connectDestroyed registers removes) := alive
    have inTurn : InTurn served.life (.connectDestroyed registers removes) :=
      ⟨gone, taken.lives.serverKnows gone⟩
    apply taken.kept.act taken.lives admissible inTurn
    exact destroyed_stage gone (tasks.trans (Mailboxes.only_nil _)) absent registers removes
  · apply taken.forceClose gone alive rfl some
    refine .removed (gone_after gone registers) alive ?_ absent
    rw [forced_gone gone]
    exact tasks

theorem Taken.lost_call (taken : Taken hostport name before loops conn served loop functor)
    (gone : served.life.conn.state = .kDisconnected) (alive : served.life.destroyed = false)
    (only : before.tasks conn = .only served.loop (forced conn served))
    (absent : conn ∉ before.accepted.live) (repeated : ¬before.accepted.names.Nodup) :
    Kept hostport name (loops.call served functor registers removes) := by
  obtain ⟨rest, waiting, tasks⟩ := taken.of_only only
  rw [← taken.accepted] at absent repeated
  obtain ⟨_, nothing⟩ | ⟨some, rfl, rfl⟩ :=
    forced_cons ((List.append_nil (forced conn served)).trans waiting)
  · cases nothing
  · apply taken.forceClose gone alive rfl some
    refine .lost (gone_after gone registers) alive ?_ absent repeated
    rw [forced_gone gone]
    rw [List.append_nil] at tasks
    exact tasks

/-- The functor that a loop calls belongs to the stage of its connection. -/
theorem Taken.call (taken : Taken hostport name before loops conn served loop functor)
    (allowed : functor.establishes = true → registers = true) :
    Kept hostport name (loops.call served functor registers removes) := by
  cases taken.stage with
  | accepted fd new only member => exact taken.accepted_call allowed new only member
  | up isUp alive only member => exact taken.up_call isUp alive only member
  | closed gone alive worker waits member => exact taken.closed_call gone alive worker waits member
  | removed gone alive only absent => exact taken.removed_call gone alive only absent
  | destroyed _ _ none _ =>
      obtain ⟨others, queued⟩ := taken.queued
      rw [none] at queued
      cases queued
  | lost gone alive only absent repeated =>
      exact taken.lost_call gone alive only absent repeated

end Taken

theorem Kept.next (kept : Kept hostport name loops) {loop : LoopId} {registers : Bool}
    (allowed : ∀ functor ∈ (loops.pending loop).head?, functor.establishes = true →
      registers = true) (removes : Bool) :
    Kept hostport name (loops.next loop registers removes) := by
  cases waiting : loops.pending loop with
  | nil =>
      rw [ServerLoops.next, waiting]
      exact kept
  | cons functor rest =>
      obtain ⟨others, queued⟩ : ∃ others, loops.tasks functor.conn loop = functor :: others :=
        Mailboxes.about_of_next waiting rfl
      have known : functor.conn < loops.conns.length := by
        by_contra beyond
        rw [kept.unknown _ (Nat.le_of_not_lt beyond)] at queued
        cases queued
      have found := List.getElem?_eq_getElem known
      obtain ⟨lives, stage⟩ := kept.lives _ _ found
      have taken : Taken hostport name loops { loops with pending := loops.pending.take loop }
          functor.conn loops.conns[functor.conn] loop functor :=
        { kept := (kept.but known).frame (take_frame waiting)
          lives := lives
          stage := stage
          found := found
          accepted := rfl
          queued := ⟨others, queued⟩
          tasks := Mailboxes.about_take_own waiting rfl }
      rw [waiting] at allowed
      simp only [ServerLoops.next, waiting, found]
      exact taken.call (allowed functor rfl)

/-- A connection that was just named. -/
theorem Kept.named (kept : Kept hostport name loops) (pool : EventLoopThreadPool)
    (served : ServedConn) :
    KeptBut hostport name loops.conns.length
      { loops with
        accepted := loops.accepted.step .newConnection
        pool := pool
        conns := loops.conns ++ [served] } where
  consistent := kept.consistent.step .newConnection
  size := by
    have longer : (loops.accepted.step .newConnection).names.length =
        loops.accepted.names.length + 1 := List.length_append
    rw [longer, kept.size, List.length_append, List.length_singleton]
  inside := by
    rw [List.length_append, List.length_singleton]
    exact Nat.lt_succ_self _
  unknown conn beyond := by
    rw [List.length_append, List.length_singleton] at beyond
    exact kept.unknown conn (Nat.le_of_succ_le beyond)
  others conn different other found := by
    have inside : conn < loops.conns.length := by
      have bound := (List.getElem?_eq_some_iff.mp found).1
      rw [List.length_append, List.length_singleton] at bound
      exact Nat.lt_of_le_of_ne (Nat.le_of_lt_succ bound) different
    rw [List.getElem?_append_left inside] at found
    obtain ⟨lives, stage⟩ := kept.lives conn other found
    refine ⟨lives, stage.congr rfl ?_ (ServerRun.names_grow _ _)⟩
    change conn ∈ loops.accepted.live ++ [loops.accepted.names.length] ↔ _
    rw [List.mem_append, List.mem_singleton, kept.size]
    exact or_iff_left different

theorem Kept.newConnection (kept : Kept hostport name loops) (fd : Int) (closes : Bool) :
    Kept hostport name (loops.newConnection fd true closes) := by
  have named := kept.named loops.pool.getNextLoop.2 ⟨.start fd, loops.pool.getNextLoop.1⟩
  have none : loops.tasks loops.conns.length = .empty := kept.unknown _ (Nat.le_refl _)
  have member : loops.conns.length ∈ (loops.accepted.step .newConnection).live := by
    rw [← kept.size]
    exact List.mem_append_right _ (List.mem_singleton.mpr rfl)
  have lives : LivesInTurn (.start fd) := ⟨fd, .start⟩
  unfold ServerLoops.newConnection
  simp only
  split
  · have admissible : (ConnectionLife.start fd).Admissible (.connectEstablished true closes) := rfl
    have inTurn : InTurn (.start fd) (.connectEstablished true closes) := ⟨rfl, rfl⟩
    have stage := @established_stage
      { loops with
        accepted := loops.accepted.step .newConnection
        pool := loops.pool.getNextLoop.2
        conns := loops.conns ++ [⟨.start fd, loops.pool.getNextLoop.1⟩] }
      loops.conns.length ⟨.start fd, loops.pool.getNextLoop.1⟩ fd rfl none member closes
    exact named.act lives admissible inTurn stage
  · apply (named.frame (queueInLoop_frame _ loops.pool.getNextLoop.1
      (.connectEstablished loops.conns.length))).close List.getElem?_concat_length lives
    refine .accepted fd rfl ?_ member
    refine (queueInLoop_tasks rfl _).trans ?_
    change (loops.tasks loops.conns.length).post _ _ = _
    rw [none, Mailboxes.post_empty]

theorem Kept.start (numThreads : Nat) (hostport name : Bytes) :
    Kept hostport name (start numThreads hostport name) :=
  ⟨.start hostport name, rfl, fun _ _ => rfl, fun _ _ found => by cases found⟩

theorem Kept.step (kept : Kept hostport name loops) {event : LoopsEvent}
    (allowed : loops.Allowed event) : Kept hostport name (loops.step event) := by
  cases event with
  | newConnection fd registers closes =>
      cases allowed
      exact kept.newConnection fd closes
  | next loop registers removes => exact kept.next allowed removes
  | handle conn event =>
      simp only [ServerLoops.step]
      split
      · exact kept
      · rename_i served found
        exact kept.handle found (allowed served found)

end Invariant

/-! ### Whole runs -/

/-- No functor is left. -/
def Idle (loops : ServerLoops) : Prop :=
  ∀ loop, loops.pending loop = []

/-- A connection lived in turn: it was established first, and torn down at most once and last. Its
start and its end are reported in order and at most once. One that was torn down was closed before,
its user was told of both, and its server of the end, once. -/
structure LivedThrough (life : ConnectionLife) : Prop where
  lives : LivesInTurn life
  orderly : life.Orderly
  tornDown : life.destroyed = true → life.conn.state = .kDisconnected ∧
    life.conn.reports = [.up, .down] ∧ life.conn.closeCallbacks = 1

def Served (loops : ServerLoops) : Prop :=
  ∀ (conn : ServerConnPtr) (served : ServedConn), loops.conns[conn]? = some served →
    LivedThrough served.life

/-- The closed connections are torn down, and the map has the others, which are established. -/
structure Settled (loops : ServerLoops) (conn : ServerConnPtr) (served : ServedConn) : Prop where
  established : served.life.conn.state ≠ .kConnecting
  destroyed : served.life.destroyed = true ↔ served.life.conn.state = .kDisconnected
  mapped : ∀ connName, loops.accepted.server.connections[connName]? = some conn ↔
    loops.accepted.names[conn]? = some connName ∧ served.life.conn.state ≠ .kDisconnected

/-- Nothing is queued for a connection when nothing is queued at all. -/
theorem Idle.tasks {loops : ServerLoops} (idle : loops.Idle) (conn : ServerConnPtr)
    (loop : LoopId) : loops.tasks conn loop = [] := by
  rw [ServerLoops.tasks, Mailboxes.about, idle]
  rfl

/-- When the loops are idle, a connection is up, or closed and torn down. -/
theorem Stage.idle {loops : ServerLoops} {conn : ServerConnPtr} {served : ServedConn}
    (stage : Stage loops conn served) (idle : loops.Idle)
    (distinct : loops.accepted.names.Nodup) :
    Up served.life.conn ∧ served.life.destroyed = false ∧ conn ∈ loops.accepted.live ∨
      served.life.conn.state = .kDisconnected ∧ served.life.destroyed = true ∧
        conn ∉ loops.accepted.live := by
  have none := idle.tasks conn
  cases stage with
  | accepted _ _ only _ =>
      have here := none served.loop
      rw [only, Mailboxes.only_self] at here
      cases here
  | up isUp alive _ member => exact .inl ⟨isUp, alive, member⟩
  | closed _ _ worker waits _ =>
      have here := none baseLoop
      rw [waits, Mailboxes.post, Function.update_self] at here
      exact absurd here (List.append_ne_nil_of_right_ne_nil _ (List.cons_ne_nil _ _))
  | removed _ _ only _ =>
      have here := none served.loop
      rw [only, Mailboxes.only_self] at here
      exact absurd here (List.append_ne_nil_of_right_ne_nil _ (List.cons_ne_nil _ _))
  | destroyed gone torn _ absent => exact .inr ⟨gone, torn, absent⟩
  | lost _ _ _ _ repeated => exact absurd distinct repeated

section Runs

variable {hostport name : Bytes} {loops : ServerLoops}

theorem Kept.run (kept : Kept hostport name loops) {events : List LoopsEvent}
    (allowed : Meets ServerLoops.step Allowed loops events) :
    Kept hostport name (Lib.run ServerLoops.step loops events) := by
  induction events generalizing loops with
  | nil => exact kept
  | cons event rest inductionHypothesis =>
      exact inductionHypothesis (kept.step allowed.1) allowed.2

theorem LivesInTurn.through {life : ConnectionLife} (lives : LivesInTurn life) :
    LivedThrough life := by
  refine ⟨lives, lives.sound.orderly, ?_⟩
  intro destroyed
  have gone := lives.sound.destroyed destroyed
  exact ⟨gone, lives.sound.told.of_gone gone, lives.serverKnows gone⟩

theorem Kept.served (kept : Kept hostport name loops) : loops.Served :=
  fun conn served found => (kept.lives conn served found).1.through

theorem Kept.settled (kept : Kept hostport name loops) (idle : loops.Idle)
    (distinct : loops.accepted.names.Nodup) {conn : ServerConnPtr} {served : ServedConn}
    (found : loops.conns[conn]? = some served) : Settled loops conn served := by
  have entries := (kept.consistent.mapped distinct).entries
  obtain ⟨isUp, alive, member⟩ | ⟨gone, torn, absent⟩ :=
    (kept.lives conn served found).2.idle idle distinct
  · refine ⟨?_, ?_, ?_⟩
    · intro connecting
      cases isUp with
      | inl connected => cases connected.symm.trans connecting
      | inr closing => cases closing.symm.trans connecting
    · rw [alive]
      exact iff_of_false nofun isUp.not_gone
    · intro connName
      rw [entries]
      exact ⟨fun entry => ⟨entry.2, isUp.not_gone⟩, fun entry => ⟨member, entry.1⟩⟩
  · refine ⟨?_, iff_of_true torn gone, ?_⟩
    · rw [gone]
      decide
    · intro connName
      rw [entries]
      exact iff_of_false (fun entry => absent entry.1) fun entry => entry.2 gone

end Runs

/-- However the turns of the loops fall, every connection of a server is served, and when no
functor is left, everything is settled, as long as no name was given twice. -/
theorem connections_served (numThreads : Nat) (hostport name : Bytes) {events : List LoopsEvent}
    (allowed : Meets step Allowed (start numThreads hostport name) events) :
    let last := Lib.run step (start numThreads hostport name) events
    last.Served ∧
      (last.Idle → last.accepted.names.Nodup →
        ∀ (conn : ServerConnPtr) (served : ServedConn), last.conns[conn]? = some served →
          Settled last conn served) := by
  have kept := (Kept.start numThreads hostport name).run allowed
  exact ⟨kept.served, fun idle distinct _ _ found => kept.settled idle distinct found⟩

/-- Two connections are accepted by a server with two workers, and the peer of the first one
closes it. -/
def oneLeaves : List LoopsEvent :=
  [.newConnection 5 true true, .newConnection 6 true true, .next 1 true true, .next 2 true true,
    .handle 0 (.read .endOfStream true), .next 0 true true, .next 1 true true]

theorem idle_oneLeaves : (Lib.run step (start 2 [58] []) oneLeaves).Idle := by
  intro loop
  match loop with
  | 0 | 1 | 2 => decide
  | loop + 3 => rfl

/-- Nothing is queued any more: the first connection is torn down, and the second one is up. -/
theorem connections_served_oneLeaves :
    let last := Lib.run step (start 2 [58] []) oneLeaves
    last.Served ∧
      ∀ (conn : ServerConnPtr) (served : ServedConn), last.conns[conn]? = some served →
        Settled last conn served := by
  intro last
  obtain ⟨served, settled⟩ := @connections_served 2 [58] [] oneLeaves (by decide)
  exact ⟨served, settled idle_oneLeaves (by decide)⟩

example : (Lib.run step (start 2 [58] []) oneLeaves).conns.map
    (fun served => (served.loop, served.life.destroyed)) = [(1, true), (2, false)] := by
  decide

end ServerLoops

end AChat.Net
