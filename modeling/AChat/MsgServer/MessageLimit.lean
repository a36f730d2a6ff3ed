import AChat.Lib.Metered
import AChat.MsgServer.KeptFields

/-!
Contract: how many messages of a connection the message server passes on.

A connection counts its messages, and its timer sets the count back. Everything else that happens
on the server, to this connection and to all others, has to leave the count alone.

Owns: the count in whole runs of the server, with any clients, and the limit that follows.

Does not own the file handler, which passes no messages on.
-/

namespace AChat.MsgServer

open Lib

/-! ### Messages -/

/-- A message that a DB server is asked to store. -/
def Out.isMessage : Out → Bool
  | .db ⟨_, _, _, .msgData _ _ _ _ _ _ _⟩ => true
  | _ => false

def messages (outs : List Out) : Nat :=
  outs.countP Out.isMessage

section Outs

variable (reg : Registry) (peers : Peers) (conn : ConnPtr) (pdu : Pdu)

@[simp] theorem messages_nil : messages [] = 0 := rfl

@[simp] theorem messages_append (first second : List Out) :
    messages (first ++ second) = messages first + messages second :=
  List.countP_append

@[simp] theorem messages_client (rest : List Out) :
    messages (.client conn pdu :: rest) = messages rest :=
  List.countP_cons_of_neg (Bool.false_ne_true)

theorem messages_singleton {out : Out} (plain : out.isMessage = false) : messages [out] = 0 :=
  List.countP_cons_of_neg (ne_true_of_eq_false plain)

theorem messages_sendTo {available : Bool} {out : Out} (plain : out.isMessage = false) :
    messages (Registry.sendTo available out) = 0 := by
  unfold Registry.sendTo
  split
  · exact messages_singleton plain
  · rfl

theorem messages_sendTo_le (available : Bool) (out : Out) :
    messages (Registry.sendTo available out) ≤ 1 := by
  unfold Registry.sendTo
  split
  · exact List.countP_le_length
  · exact Nat.zero_le 1

@[simp] theorem messages_broadcastPdu (userId : UserId) (fromConn : Option ConnPtr) :
    messages (reg.broadcastPdu userId fromConn pdu) = 0 := by
  unfold Registry.broadcastPdu
  split
  · rfl
  · rw [messages, List.countP_eq_zero]
    intro out member
    obtain ⟨target, _, rfl⟩ := List.mem_map.mp member
    exact Bool.false_ne_true

@[simp] theorem messages_sendUserStatusUpdate (userStatus : Nat) :
    messages (reg.sendUserStatusUpdate conn userStatus) = 0 := by
  unfold Registry.sendUserStatusUpdate Registry.statusUpdate
  split
  · rfl
  · split
    · rfl
    · split
      · rfl
      · split <;> rfl

@[simp] theorem messages_close : messages (reg.close conn).2 = 0 := by
  unfold Registry.close Registry.closeById
  simp only
  split
  · rfl
  · exact messages_sendUserStatusUpdate _ conn _

@[simp] theorem messages_kickOutSameClientType (user : UserPtr) (clientType : BitVec 32)
    (reason : Nat) (fromConn : Option ConnPtr) :
    messages (reg.kickOutSameClientType user clientType reason fromConn).2 = 0 := by
  unfold Registry.kickOutSameClientType Registry.handleKickUser
  split
  · rfl
  · split <;> rfl

@[simp] theorem messages_forwardToDb (available setsAttach : Bool) :
    messages (reg.forwardToDb conn pdu available setsAttach) = 0 := by
  unfold Registry.forwardToDb
  split
  · exact messages_sendTo rfl
  · rfl

theorem messages_forwardOrReply {request : Body} (reply : Body) (replyCommand : Nat)
    (plain : Out.isMessage (.db { pdu with body := request }) = false) :
    messages (Registry.forwardOrReply peers conn pdu request reply replyCommand) = 0 := by
  unfold Registry.forwardOrReply
  split
  · exact messages_singleton plain
  · rfl

end Outs

/-! ### The count -/

/-- No connection's count is changed. -/
def SameCounts (before after : Registry) : Prop :=
  ∀ conn, (after.conns conn).msgCntPerSec = (before.conns conn).msgCntPerSec

theorem lasting_msgCntPerSec : Lasting MsgConn.msgCntPerSec where
  closed _ := rfl
  kicked _ := rfl
  opened _ _ := rfl
  named _ _ _ _ := rfl
  acked _ _ := rfl

/-- What a handler leaves and sends, when it passes no message on. -/
def Uncounted (reg : Registry) (result : Registry × List Out) : Prop :=
  SameCounts reg result.1 ∧ messages result.2 = 0

section Handlers

variable (reg : Registry) (peers : Peers) (conn : ConnPtr) (pdu : Pdu)

theorem Uncounted.silent {outs : List Out} (plain : messages outs = 0) :
    Uncounted reg (reg, outs) :=
  ⟨SameField.refl reg, plain⟩

theorem messages_handleLoginRequest : messages (reg.handleLoginRequest peers conn pdu).2 = 0 := by
  unfold Registry.handleLoginRequest
  split
  · rfl
  · split
    · rw [messages_client, messages_close]
    · split <;> rfl

theorem messages_handleLoginOutRequest :
    messages (reg.handleLoginOutRequest peers conn pdu).2 = 0 := by
  unfold Registry.handleLoginOutRequest
  simp only [messages_append, messages_client, messages_close]
  rw [messages_sendTo rfl]
  rfl

theorem messages_handleKickPCClient :
    messages (reg.handleKickPCClient peers conn pdu).2 = 0 := by
  unfold Registry.handleKickPCClient
  split
  · split
    · rfl
    · simp only
      split
      · simp only [messages_append, messages_client, messages_nil]
        rw [messages_sendTo rfl]
      · simp only [messages_append, messages_client, messages_nil,
          messages_kickOutSameClientType]
        rw [messages_sendTo rfl]
  · rfl

theorem messages_handleClientMsgReadAck :
    messages (reg.handleClientMsgReadAck peers conn pdu).2 = 0 := by
  unfold Registry.handleClientMsgReadAck
  split
  · simp only [messages_append, messages_broadcastPdu]
    rw [messages_sendTo rfl, messages_sendTo rfl]
  · rfl

theorem messages_handleClientDeviceToken :
    messages (reg.handleClientDeviceToken peers conn pdu) = 0 := by
  unfold Registry.handleClientDeviceToken
  split
  · rfl
  · split
    · rw [messages_client, messages_sendTo rfl]
    · rfl

theorem messages_handleClientRemoveSessionRequest :
    messages (reg.handleClientRemoveSessionRequest peers conn pdu) = 0 := by
  unfold Registry.handleClientRemoveSessionRequest
  split
  · rw [messages_append, messages_sendTo rfl]
    split
    · rw [messages_append, messages_broadcastPdu, messages_sendTo rfl]
    · rfl
  · rfl

theorem messages_handleClientP2PCmdMsg :
    messages (reg.handleClientP2PCmdMsg peers conn pdu) = 0 := by
  unfold Registry.handleClientP2PCmdMsg
  split
  · rw [messages_append, messages_append, messages_broadcastPdu, messages_broadcastPdu,
      messages_sendTo rfl]
  · rfl

theorem messages_handleClientUsersStatusRequest :
    messages (reg.handleClientUsersStatusRequest peers conn pdu) = 0 := by
  unfold Registry.handleClientUsersStatusRequest
  split
  · exact messages_sendTo rfl
  · rfl

theorem messages_groupRequest :
    messages (reg.handleClientGroupNormalRequest peers conn pdu) = 0 ∧
    messages (reg.handleClientGroupInfoRequest peers conn pdu) = 0 ∧
    messages (reg.handleClientGroupCreateRequest peers conn pdu) = 0 ∧
    messages (reg.handleClientGroupChangeMemberRequest peers conn pdu) = 0 ∧
    messages (reg.handleClientGroupShieldGroupRequest peers conn pdu) = 0 := by
  unfold Registry.handleClientGroupNormalRequest Registry.handleClientGroupInfoRequest
    Registry.handleClientGroupCreateRequest Registry.handleClientGroupChangeMemberRequest
    Registry.handleClientGroupShieldGroupRequest
  refine ⟨?_, ?_, ?_, ?_, ?_⟩
  · split
    · exact messages_forwardOrReply peers conn pdu _ _ rfl
    · rfl
  · split
    · exact messages_forwardOrReply peers conn pdu _ _ rfl
    · rfl
  · split
    · split
      · rfl
      · exact messages_forwardOrReply peers conn pdu _ _ rfl
    · rfl
  · split
    · exact messages_forwardOrReply peers conn pdu _ _ rfl
    · rfl
  · split
    · exact messages_forwardOrReply peers conn pdu _ _ rfl
    · rfl

/-- Only one handler passes messages on. -/
theorem messages_runHandler (files : messages (peers.fileHandler reg conn pdu) = 0)
    {handler : Handler} (other : handler ≠ .clientMsgData) :
    messages (reg.runHandler peers conn pdu handler).2 = 0 := by
  have group := messages_groupRequest reg peers conn pdu
  cases handler with
  | heartBeat | clientTimeRequest | clientMsgDataAck => rfl
  | loginRequest => exact messages_handleLoginRequest reg peers conn pdu
  | loginOutRequest => exact messages_handleLoginOutRequest reg peers conn pdu
  | clientDeviceToken => exact messages_handleClientDeviceToken reg peers conn pdu
  | kickPCClient => exact messages_handleKickPCClient reg peers conn pdu
  | clientMsgData => exact absurd rfl other
  | clientMsgReadAck => exact messages_handleClientMsgReadAck reg peers conn pdu
  | clientP2PCmdMsg => exact messages_handleClientP2PCmdMsg reg peers conn pdu
  | clientRemoveSessionRequest =>
      exact messages_handleClientRemoveSessionRequest reg peers conn pdu
  | clientUsersStatusRequest => exact messages_handleClientUsersStatusRequest reg peers conn pdu
  | clientGroupNormalRequest => exact group.1
  | clientGroupInfoRequest => exact group.2.1
  | clientGroupCreateRequest => exact group.2.2.1
  | clientGroupChangeMemberRequest => exact group.2.2.2.1
  | clientGroupShieldGroupRequest => exact group.2.2.2.2
  | clientFileRequest | clientFileHasOfflineReq | clientFileAddOfflineReq
  | clientFileDelOfflineReq => exact files
  | _ => exact messages_forwardToDb reg conn pdu _ _

theorem handleClientMsgData_other {other : ConnPtr} (different : other ≠ conn) :
    ((reg.handleClientMsgData peers conn pdu).1.conns other).msgCntPerSec =
      (reg.conns other).msgCntPerSec := by
  unfold Registry.handleClientMsgData
  split
  · split
    · rfl
    · split
      · rfl
      · split
        · rfl
        · rw [Registry.modifyConn_other reg conn _ different]
  · rfl

/-- A message is counted before it is passed on, and the count stays within the limit. -/
theorem handleClientMsgData_counts (within : (reg.conns conn).msgCntPerSec ≤ maxMsgCntPerSecond) :
    (reg.conns conn).msgCntPerSec + messages (reg.handleClientMsgData peers conn pdu).2 ≤
        ((reg.handleClientMsgData peers conn pdu).1.conns conn).msgCntPerSec ∧
      ((reg.handleClientMsgData peers conn pdu).1.conns conn).msgCntPerSec ≤
        maxMsgCntPerSecond := by
  have same : (reg.conns conn).msgCntPerSec + messages [] ≤ (reg.conns conn).msgCntPerSec ∧
      (reg.conns conn).msgCntPerSec ≤ maxMsgCntPerSecond := ⟨Nat.le_refl _, within⟩
  unfold Registry.handleClientMsgData
  split
  · split
    · exact same
    · split
      · exact same
      · rename_i below
        split
        · exact same
        · rw [Registry.modifyConn_self]
          exact ⟨Nat.add_le_add_left (messages_sendTo_le _ _) _, Nat.lt_of_not_le below⟩
  · exact same

end Handlers

section Reads

variable {reg : Registry} {peers : Peers} {reader : ConnPtr} {pdu : Pdu}

/-- A PDU is a message for the handler of messages, or passes no message on. -/
theorem onRead_cases (files : ∀ reg conn pdu, messages (peers.fileHandler reg conn pdu) = 0) :
    reg.onRead peers reader pdu = reg.handleClientMsgData peers reader pdu ∨
      Uncounted reg (reg.onRead peers reader pdu) := by
  unfold Registry.onRead Registry.handlePdu
  by_cases refused : reg.Unauthorized reader pdu
  · rw [if_pos refused]
    exact .inr ⟨lasting_msgCntPerSec.close reg reader, messages_close reg reader⟩
  · rw [if_neg refused]
    cases dispatch pdu.commandId with
    | none => exact .inr (.silent reg rfl)
    | some handler =>
        by_cases message : handler = .clientMsgData
        · subst message
          exact .inl rfl
        · exact .inr ⟨lasting_msgCntPerSec.runHandler reg peers reader pdu message,
            messages_runHandler reg peers reader pdu (files _ _ _) message⟩

end Reads

/-! ### Runs of the server -/

namespace MessageLimit

section Conn

variable (conn : ConnPtr)

/-- The messages of the connection that an event passes on. -/
def passed (server : Server) : Event → Nat
  | .read reader pdu given =>
      if reader = conn then messages (server.reg.onRead (server.peers given) reader pdu).2 else 0
  | _ => 0

/-- The connection is made, or its timer runs. -/
def renews : Event → Bool
  | .accept accepted _ _ _ => accepted == conn
  | .onTimer timed _ => timed == conn
  | _ => false

def count (server : Server) : Nat :=
  (server.reg.conns conn).msgCntPerSec

end Conn

/-- The file handler passes no message on. -/
def FilesOnly (_ : Server) : Event → Prop
  | .read _ _ given => ∀ reg conn pdu, messages (given.fileHandler reg conn pdu) = 0
  | _ => True

section Steps

variable {conn : ConnPtr} {server : Server} {event : Event}

/-- What an event that neither reads from the connection nor renews its count leaves. -/
theorem step_count (reads : ∀ pdu given, event ≠ .read conn pdu given)
    (keeps : renews conn event = false) (files : FilesOnly server event) :
    count conn (server.step event) = count conn server := by
  cases event with
  | accept accepted handle clientType now =>
      have different : conn ≠ accepted := fun same => by
        rw [renews, same, beq_self_eq_true] at keeps
        cases keeps
      exact congrArg MsgConn.msgCntPerSec (Function.update_of_ne different _ _)
  | read reader pdu given =>
      have different : conn ≠ reader := fun same => reads pdu given (by rw [same])
      have read : server.reg.onRead (server.peers given) reader pdu = _ ∨ _ := onRead_cases files
      cases read with
      | inl message =>
          refine Eq.trans ?_ (handleClientMsgData_other server.reg (server.peers given) reader pdu
            different)
          rw [← message]
          rfl
      | inr uncounted => exact uncounted.1 conn
  | onTimer timed currTick =>
      have different : conn ≠ timed := fun same => by
        rw [renews, same, beq_self_eq_true] at keeps
        cases keeps
      have reset : ((server.reg.resetMsgCnt timed).conns conn).msgCntPerSec =
          (server.reg.conns conn).msgCntPerSec := by
        rw [Registry.resetMsgCnt, Registry.modifyConn_other _ _ _ different]
      refine Eq.trans ?_ reset
      exact lasting_msgCntPerSec.onTimer server.reg timed currTick conn
  | onClose closed => exact lasting_msgCntPerSec.close server.reg closed conn
  | validateRsp req rsp routeServ now =>
      exact lasting_msgCntPerSec.handleValidateResponse server.reg rsp routeServ now conn
  | serverKick userId clientType reason =>
      unfold Server.step
      simp only
      split
      · rfl
      · exact lasting_msgCntPerSec.kickOutSameClientType server.reg _ clientType reason none conn
  | loginConnect index => rfl
  | loginConfirm index => rfl
  | loginClose index => rfl

/-- A new connection has sent nothing, and a timer sets the count back. -/
theorem step_renewed (renewed : renews conn event = true) : count conn (server.step event) = 0 := by
  cases event with
  | accept accepted handle clientType now =>
      have same : accepted = conn := eq_of_beq renewed
      subst same
      change (Function.update server.reg.conns accepted _ accepted).msgCntPerSec = 0
      rw [Function.update_self]
      rfl
  | onTimer timed currTick =>
      have same : timed = conn := eq_of_beq renewed
      subst same
      refine (lasting_msgCntPerSec.onTimer server.reg timed currTick timed).trans ?_
      rw [Registry.resetMsgCnt, Registry.modifyConn_self]
  | read _ _ _ | onClose _ | validateRsp _ _ _ _ | serverKick _ _ _ | loginConnect _
  | loginConfirm _ | loginClose _ => cases renewed

theorem read_count {pdu : Pdu} {given : Peers} (files : FilesOnly server (.read conn pdu given))
    (within : count conn server ≤ maxMsgCntPerSecond) :
    count conn server + passed conn server (.read conn pdu given) ≤
        count conn (server.step (.read conn pdu given)) ∧
      count conn (server.step (.read conn pdu given)) ≤ maxMsgCntPerSecond := by
  have out : passed conn server (.read conn pdu given) =
      messages (server.reg.onRead (server.peers given) conn pdu).2 := if_pos rfl
  have left : count conn (server.step (.read conn pdu given)) =
      ((server.reg.onRead (server.peers given) conn pdu).1.conns conn).msgCntPerSec := rfl
  rw [out, left]
  have read : server.reg.onRead (server.peers given) conn pdu = _ ∨ _ := onRead_cases files
  cases read with
  | inl message =>
      rw [message]
      exact handleClientMsgData_counts server.reg (server.peers given) conn pdu within
  | inr uncounted =>
      rw [uncounted.2, uncounted.1 conn]
      exact ⟨Nat.le_refl _, within⟩

theorem passed_eq_zero (reads : ∀ pdu given, event ≠ .read conn pdu given) :
    passed conn server event = 0 := by
  cases event with
  | read reader pdu given => exact if_neg fun same => reads pdu given (by rw [same])
  | _ => rfl

/-- The count is the meter of the messages that are passed on. -/
theorem metered (conn : ConnPtr) :
    Metered Server.step FilesOnly (passed conn) (renews conn) (count conn) maxMsgCntPerSecond where
  within {server event} files within := by
    by_cases reads : ∃ pdu given, event = .read conn pdu given
    · obtain ⟨pdu, given, rfl⟩ := reads
      exact (read_count files within).2
    · cases renewed : renews conn event with
      | true =>
          rw [step_renewed renewed]
          exact Nat.zero_le _
      | false =>
          rw [step_count (fun pdu given same => reads ⟨pdu, given, same⟩) renewed files]
          exact within
  counts {server event} files within keeps := by
    by_cases reads : ∃ pdu given, event = .read conn pdu given
    · obtain ⟨pdu, given, rfl⟩ := reads
      exact (read_count files within).1
    · have others : ∀ pdu given, event ≠ .read conn pdu given :=
        fun pdu given same => reads ⟨pdu, given, same⟩
      rw [passed_eq_zero others, step_count others keeps files]
      exact Nat.le_refl _
  renewed {server event} _ renewed := by
    apply passed_eq_zero
    rintro pdu given rfl
    cases renewed

end Steps

/-- Whatever the clients of a server do, it passes on at most 20 messages of a connection for each
time that the connection's timer runs, and 20 more. -/
theorem messages_limited {config : MsgServConfig} {loginServerCount : Nat} {server : Server}
    (reached : Reached FilesOnly config loginServerCount server) {events : List Event}
    (files : Meets Server.step FilesOnly server events) (conn : ConnPtr) :
    spentBy Server.step (passed conn) server events ≤
      maxMsgCntPerSecond * (events.countP (renews conn) + 1) := by
  have within : count conn server ≤ maxMsgCntPerSecond :=
    reached.invariant (fun state => count conn state ≤ maxMsgCntPerSecond) (Nat.zero_le _)
      fun _ _ before met => (metered conn).within met before
  exact Nat.le_of_add_left_le ((metered conn).spentBy_le files within)

/-- A message to another user. -/
def messagePdu (msgId : Nat) : Pdu :=
  ⟨sidMsg, cidMsgData, msgId, .msgData 1 2 msgId msgTypeSingleText [104] 0 none⟩

/-- A connection that sends messages without a pause. -/
def flood (count : Nat) : List Event :=
  .accept 7 3 0 0 :: (List.range count).map fun msgId => .read 7 (messagePdu msgId) .allUp

theorem messages_limited_flood :
    spentBy Server.step (passed 7) (Server.init sampleConfig 1) (flood 2) ≤
      maxMsgCntPerSecond * ((flood 2).countP (renews 7) + 1) := by
  have files : Meets Server.step FilesOnly (Server.init sampleConfig 1) (flood 2) :=
    ⟨trivial, fun _ _ _ => rfl, fun _ _ _ => rfl, trivial⟩
  exact messages_limited .start files 7

example : spentBy Server.step (passed 7) (Server.init sampleConfig 1) (flood 25) = 20 := by
  decide

end MessageLimit

end AChat.MsgServer
