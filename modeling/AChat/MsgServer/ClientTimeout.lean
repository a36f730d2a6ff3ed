import AChat.MsgServer.KeptFields
import AChat.MsgServer.ReplyRouting

/-!
Contract: which connections of clients the timer closes.

The timer closes a connection that has received nothing for too long. The time at which a connection
has last received something is set by its constructor and by nothing else. So what counts is the age
of the connection, and not what its client sends.

Owns: the times of a connection in whole runs of the server, and when its timer closes it.
-/

namespace AChat.MsgServer

open Lib (Meets run)

universe u

variable {Value : Type u} {field : MsgConn → Value}

/-! ### What no event sets -/

/-- A field that the constructor sets, and nothing else. -/
structure Constant (field : MsgConn → Value) : Prop extends Lasting field where
  counted : ∀ value msgCntPerSec, field { value with msgCntPerSec := msgCntPerSec } = field value

namespace Constant

variable (constant : Constant field)
include constant

theorem handleClientMsgData (reg : Registry) (peers : Peers) (conn : ConnPtr) (pdu : Pdu) :
    SameField field reg (reg.handleClientMsgData peers conn pdu).1 := by
  unfold Registry.handleClientMsgData
  split
  · split
    · exact .refl reg
    · split
      · exact .refl reg
      · split
        · exact .refl reg
        · exact .modifyConn reg conn _ fun value => constant.counted value _
  · exact .refl reg

theorem onRead (reg : Registry) (peers : Peers) (conn : ConnPtr) (pdu : Pdu) :
    SameField field reg (reg.onRead peers conn pdu).1 := by
  unfold Registry.onRead Registry.handlePdu
  by_cases refused : reg.Unauthorized conn pdu
  · rw [if_pos refused]
    exact constant.close reg conn
  · rw [if_neg refused]
    cases dispatch pdu.commandId with
    | none => exact .refl reg
    | some handler =>
        by_cases message : handler = .clientMsgData
        · subst message
          exact constant.handleClientMsgData reg peers conn pdu
        · exact constant.runHandler reg peers conn pdu message

theorem onTimer (reg : Registry) (conn : ConnPtr) (currTick : Nat) :
    SameField field reg (reg.onTimer conn currTick).1 := by
  have reset : SameField field reg (reg.resetMsgCnt conn) :=
    .modifyConn reg conn _ fun value => constant.counted value 0
  exact reset.trans (constant.toLasting.onTimer reg conn currTick)

/-- An event keeps the field of every connection that it does not make. -/
theorem step (server : Server) {event : Event} {conn : ConnPtr}
    (old : ∀ handle clientType now, event ≠ .accept conn handle clientType now) :
    field ((server.step event).reg.conns conn) = field (server.reg.conns conn) := by
  cases event with
  | accept accepted handle clientType now =>
      have different : conn ≠ accepted := fun same => old handle clientType now (by rw [same])
      exact congrArg field (Function.update_of_ne different _ _)
  | read reader pdu given => exact constant.onRead server.reg (server.peers given) reader pdu conn
  | onTimer timed currTick => exact constant.onTimer server.reg timed currTick conn
  | onClose closed => exact constant.close server.reg closed conn
  | validateRsp req rsp routeServ now =>
      exact constant.handleValidateResponse server.reg rsp routeServ now conn
  | serverKick userId clientType reason =>
      unfold Server.step
      simp only
      split
      · rfl
      · exact constant.kickOutSameClientType server.reg _ clientType reason none conn
  | loginConnect _ | loginConfirm _ | loginClose _ => rfl

end Constant

/-! ### The times of a connection -/

namespace ClientTimeout

/-- How long the client may be silent. -/
def silence (conn : MsgConn) : Nat :=
  if checkClientTypeMobile conn.clientType then mobileClientTimeout else clientTimeout

theorem silence_le (conn : MsgConn) : silence conn ≤ mobileClientTimeout := by
  unfold silence
  split
  · exact Nat.le_refl _
  · decide

/-- The times that the timer looks at. -/
def times (conn : MsgConn) : Nat × Nat :=
  (conn.lastRecvTick, conn.loginTime)

theorem constant_times : Constant times where
  closed _ := rfl
  kicked _ := rfl
  opened _ _ := rfl
  named _ _ _ _ := rfl
  acked _ _ := rfl
  counted _ _ := rfl

/-- The connection was made at a time, and still has it. -/
structure MadeAt (now : Nat) (conn : ConnPtr) (server : Server) : Prop where
  accepted : conn ∈ server.reg.accepted
  times : times (server.reg.conns conn) = (now, now)

section Runs

variable {server : Server} {event : Event} {events : List Event} {conn : ConnPtr}
  {now currTick : Nat}

theorem MadeAt.accept (server : Server) (conn : ConnPtr) (handle : Handle)
    (clientType : BitVec 32) (now : Nat) :
    MadeAt now conn (server.step (.accept conn handle clientType now)) where
  accepted := List.mem_cons_self
  times := by
    change ClientTimeout.times (Function.update server.reg.conns conn
      (MsgConn.onConnected handle clientType now) conn) = (now, now)
    rw [Function.update_self]
    rfl

theorem MadeAt.step (made : MadeAt now conn server) (admissible : Admissible server event) :
    MadeAt now conn (server.step event) where
  accepted := (ReplyRun.step_accepted admissible made.accepted).1
  times := by
    have old : ∀ handle clientType tick, event ≠ .accept conn handle clientType tick := by
      rintro handle clientType tick rfl
      exact admissible.1 made.accepted
    exact (constant_times.step server old).trans made.times

theorem MadeAt.run (made : MadeAt now conn server)
    (met : Meets Server.step Admissible server events) :
    MadeAt now conn (run Server.step server events) := by
  induction events generalizing server with
  | nil => exact made
  | cons event rest inductionHypothesis => exact inductionHypothesis (made.step met.1) met.2

/-- The timer finds the connection silent for as long as it is old. -/
theorem MadeAt.timedOut_iff (made : MadeAt now conn server) (currTick : Nat) :
    (server.reg.resetMsgCnt conn).timedOut conn currTick ↔
      now + silence (server.reg.conns conn) < currTick ∨
        (server.reg.conns conn).isOpen = false ∧ now + timeoutWaitLoginResponse < currTick := by
  have received : (server.reg.conns conn).lastRecvTick = now := congrArg Prod.fst made.times
  have login : (server.reg.conns conn).loginTime = now := congrArg Prod.snd made.times
  unfold Registry.timedOut Registry.resetMsgCnt
  rw [Registry.modifyConn_self]
  simp only [received, login]
  rfl

theorem MadeAt.closing_iff (made : MadeAt now conn server) (currTick : Nat) :
    server.closing (.onTimer conn currTick) = some conn ↔
      now + silence (server.reg.conns conn) < currTick ∨
        (server.reg.conns conn).isOpen = false ∧ now + timeoutWaitLoginResponse < currTick := by
  rw [← made.timedOut_iff currTick]
  by_cases late : (server.reg.resetMsgCnt conn).timedOut conn currTick
  · exact iff_of_true (if_pos late) late
  · have kept : server.closing (.onTimer conn currTick) = none := if_neg late
    rw [kept]
    exact iff_of_false (Option.some_ne_none conn).symm late

/-- The timer of a connection that is too old closes it. -/
theorem MadeAt.closed_onTimer (made : MadeAt now conn server)
    (late : now + mobileClientTimeout < currTick) :
    ((server.step (.onTimer conn currTick)).reg.conns conn).closed = true := by
  have timedOut : (server.reg.resetMsgCnt conn).timedOut conn currTick :=
    (made.timedOut_iff currTick).mpr
      (.inl (Nat.lt_of_le_of_lt (Nat.add_le_add_left (silence_le _) now) late))
  change ((server.reg.onTimer conn currTick).1.conns conn).closed = true
  rw [Registry.onTimer, if_pos timedOut, (Shrinks.close _ conn).conns, Registry.markClosed,
    Registry.modifyConn_self]

/-- A closed connection stays closed. -/
theorem closed_run (accepted : conn ∈ server.reg.accepted)
    (closed : (server.reg.conns conn).closed = true)
    (met : Meets Server.step Admissible server events) :
    ((run Server.step server events).reg.conns conn).closed = true := by
  induction events generalizing server with
  | nil => exact closed
  | cons event rest inductionHypothesis =>
      have stays := ReplyRun.step_accepted met.1 accepted
      exact inductionHypothesis stays.1 (stays.2.2 closed) met.2

theorem MadeAt.closed_run (made : MadeAt now conn server)
    (met : Meets Server.step Admissible server events)
    (timed : Event.onTimer conn currTick ∈ events) (late : now + mobileClientTimeout < currTick) :
    ((Lib.run Server.step server events).reg.conns conn).closed = true := by
  induction events generalizing server with
  | nil => cases timed
  | cons event rest inductionHypothesis =>
      have later := made.step met.1
      cases timed with
      | head =>
          have stays := ClientTimeout.closed_run later.accepted (made.closed_onTimer late) met.2
          exact stays
      | tail _ timed => exact inductionHypothesis later met.2 timed

end Runs

/-- Whatever the clients and the DB servers send, heartbeats or messages, the timer closes a
connection for its age: when it is older than a client may be silent, or when it is older than a
login may take and there was none. No connection is left open by a timer that runs five minutes
after it was made. -/
theorem connections_time_out {server : Server} {conn : ConnPtr} {handle : Handle}
    {clientType : BitVec 32} {now : Nat} {events : List Event}
    (met : Meets Server.step Admissible server (.accept conn handle clientType now :: events)) :
    let after := run Server.step server (.accept conn handle clientType now :: events)
    (∀ currTick, after.closing (.onTimer conn currTick) = some conn ↔
      now + silence (after.reg.conns conn) < currTick ∨
        (after.reg.conns conn).isOpen = false ∧ now + timeoutWaitLoginResponse < currTick) ∧
      ∀ currTick, .onTimer conn currTick ∈ events → now + mobileClientTimeout < currTick →
        (after.reg.conns conn).closed = true := by
  have made := MadeAt.accept server conn handle clientType now
  exact ⟨(made.run met.2).closing_iff, fun _ timed late => made.closed_run met.2 timed late⟩

def heartBeatPdu : Pdu :=
  ⟨sidOther, cidOtherHeartbeat, 0, .heartBeat⟩

/-- A client logs in and sends a heartbeat, and then the timer runs. -/
def beating (currTick : Nat) : List Event :=
  [.read 1 (loginPdu "ann" 1) .allUp, .validateRsp ⟨1, "ann", 3⟩ (acceptedRsp "ann" 7 3) true 0,
    .read 1 heartBeatPdu .allUp, .onTimer 1 currTick]

theorem connections_time_out_beating :
    let after := run Server.step (run Server.step (Server.init sampleConfig 1) onlineEvents)
      (.accept 1 3 0 0 :: beating 300001)
    (∀ currTick, after.closing (.onTimer 1 currTick) = some 1 ↔
      0 + silence (after.reg.conns 1) < currTick ∨
        (after.reg.conns 1).isOpen = false ∧ 0 + timeoutWaitLoginResponse < currTick) ∧
      ∀ currTick, .onTimer 1 currTick ∈ beating 300001 → 0 + mobileClientTimeout < currTick →
        (after.reg.conns 1).closed = true :=
  connections_time_out ⟨⟨by decide, by decide⟩, ⟨by decide, Peers.allUp_faithful⟩, trivial,
    ⟨by decide, Peers.allUp_faithful⟩,
    by change 1 ∈ Registry.accepted _; decide, trivial⟩

example :
    let after currTick := run Server.step
      (run Server.step (Server.init sampleConfig 1) onlineEvents)
      (.accept 1 3 0 119000 :: beating currTick)
    ((after 239000).reg.conns 1).closed = false ∧ ((after 239001).reg.conns 1).closed = true := by
  decide

end ClientTimeout

end AChat.MsgServer
