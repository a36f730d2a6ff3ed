import Mathlib.Data.List.Nodup
import AChat.MsgServer.RegistryConsistency

/-!
Contract: what a handler sends reaches every registered connection of a user once.

A broadcast to a user goes through the connection map of the user that is registered under the
id. Each connection stands in one such map, once, so it gets one packet of one broadcast, and of
broadcasts to several users it gets one for each time that its own user is among them.

Owns: the messages that a DB server sends to be delivered, what is sent to whom, and what a
connection receives.
-/

namespace AChat.MsgServer

open Std

/-! ### Messages -/

def cidGroupChangeMemberNotify : Nat := 1035
def cidOtherGetDeviceTokenReq : Nat := 1797
def cidOtherGetShieldReq : Nat := 1809

def sessionTypeGroup : Nat := 2
def msgTypeGroupText : Nat := 17
def msgTypeGroupAudio : Nat := 18

/-- `CHECK_MSG_TYPE_GROUP`. -/
def checkMsgTypeGroup (msgType : Nat) : Bool :=
  msgType == msgTypeGroupText || msgType == msgTypeGroupAudio

/-- `IMMsgData`. -/
structure MsgData where
  fromUserId : UserId
  toSessionId : Nat
  msgId : Nat
  createTime : Nat
  msgType : Nat
  msgData : Content
  attach : Option Handle
deriving DecidableEq, Repr

/-- `CPduAttachData`, with the message whose bytes it carries, if it carries any. -/
structure PduAttachData where
  handle : Handle
  pdu : Option MsgData
deriving DecidableEq, Repr

/-- `IM.BaseDefine.GroupInfo`. -/
structure GroupInfo where
  groupId : Nat
  groupMemberList : List UserId
  content : Content
deriving DecidableEq, Repr

/-- The messages of a delivery. Attach data that were cleared are `none`. -/
inductive Message where
  | msgData (msg : MsgData)
  | msgDataAck (userId : UserId) (sessionId msgId sessionType : Nat)
  | getDeviceTokenReq (userId : List UserId) (attach : MsgData)
  | groupInfoListReq (userId : UserId) (groupId version : Nat) (attach : PduAttachData)
  | groupInfoListRsp (userId : UserId) (groupInfoList : List GroupInfo)
      (attach : Option PduAttachData)
  | groupGetShieldReq (groupId : Nat) (userId : List UserId) (attach : MsgData)
  | groupChangeMemberRsp (userId : UserId) (changeType resultCode groupId : Nat)
      (chgUserIdList curUserIdList : List UserId) (attach : Option Handle)
  | groupChangeMemberNotify (userId : UserId) (changeType groupId : Nat)
      (chgUserIdList curUserIdList : List UserId)
deriving DecidableEq, Repr

structure Packet where
  serviceId : Nat
  commandId : Nat
  seqNum : Nat
  message : Message
deriving DecidableEq, Repr

/-- A packet sent to one client connection, to the chosen route server, to the chosen DB server,
or back to the DB server that it came from. -/
inductive Sent where
  | client (conn : ConnPtr) (packet : Packet)
  | route (packet : Packet)
  | db (packet : Packet)
  | back (packet : Packet)
deriving DecidableEq, Repr

/-- Nothing is sent when no connection was found. -/
def Sent.when (available : Bool) (sent : Sent) : List Sent :=
  if available then [sent] else []

def Sent.toClient : Option ConnPtr → Packet → List Sent
  | none, _ => []
  | some conn, packet => [.client conn packet]

/-- What a client connection receives, in order. -/
def received (conn : ConnPtr) (sent : List Sent) : List Packet :=
  sent.filterMap fun
    | .client other packet => if other = conn then some packet else none
    | _ => none

/-- What is sent to the chosen DB server. -/
def asked (sent : List Sent) : List Packet :=
  sent.filterMap fun
    | .db packet => some packet
    | _ => none

namespace Registry

/-- `BroadcastPdu`, and `BroadcastData`, to the user registered under an id. -/
def broadcast (reg : Registry) (userId : UserId) (fromConn : Option ConnPtr) (packet : Packet) :
    List Sent :=
  match reg.getImUserById userId with
  | none => []
  | some user => ((reg.users user).broadcastTargets fromConn).map fun conn => .client conn packet

/-- The connection stands in the connection map of the user registered under the id. -/
def RegisteredTo (reg : Registry) (userId : UserId) (conn : ConnPtr) : Prop :=
  ∃ (user : UserPtr) (handle : Handle), reg.imUserMap[userId]? = some user ∧
    (reg.users user).connMap[handle]? = some conn

/-- No connection is registered twice: under two handles, or to two user ids. -/
structure OneEntry (reg : Registry) : Prop where
  userId : ∀ (first second : UserId) (conn : ConnPtr), reg.RegisteredTo first conn →
    reg.RegisteredTo second conn → first = second
  handle : ∀ (userId : UserId) (user : UserPtr) (first second : Handle) (conn : ConnPtr),
    reg.imUserMap[userId]? = some user → (reg.users user).connMap[first]? = some conn →
      (reg.users user).connMap[second]? = some conn → first = second

end Registry

/-! ### Registered once -/

section Entries

variable {reg : Registry}

theorem oneEntry_of_consistent (consistent : Consistent reg) : reg.OneEntry where
  userId := by
    rintro first second conn ⟨user, handle, found, listed⟩ ⟨other, otherHandle, there, among⟩
    have left := (consistent.registered first user handle conn found listed).2.2.1
    have right := (consistent.registered second other otherHandle conn there among).2.2.1
    exact left.symm.trans right
  handle := by
    intro userId user first second conn found left right
    have leftHandle := (consistent.registered userId user first conn found left).2.2.2
    have rightHandle := (consistent.registered userId user second conn found right).2.2.2
    exact leftHandle.symm.trans rightHandle

theorem oneEntry_of_shape (shape : Shape none reg) : reg.OneEntry where
  userId := by
    rintro first second conn ⟨user, handle, found, listed⟩ ⟨other, otherHandle, there, among⟩
    obtain ⟨_, leftId, _, leftNamed⟩ := shape.idEntry first user found
    obtain ⟨_, rightId, _, rightNamed⟩ := shape.idEntry second other there
    have left := (shape.registered _ user handle conn leftNamed listed).1
    have right := (shape.registered _ other otherHandle conn rightNamed among).1
    rw [← leftId, ← rightId, ← left, ← right]
  handle := by
    intro userId user first second conn found left right
    have named := shape.named_of_id found
    have leftHandle := (shape.registered _ user first conn named left).2
    have rightHandle := (shape.registered _ user second conn named right).2
    exact leftHandle.symm.trans rightHandle

/-- The registry invariants of a run whose DB servers answer as `resolve` says. -/
structure Housed (resolve : String → UserId) (reg : Registry) : Prop where
  authorized : Authorized reg
  shape : Shape none reg
  resolved : Resolved resolve reg

theorem Housed.step {resolve : String → UserId} {server : Server} {event : Event}
    (housed : Housed resolve server.reg) (answered : AnsweredBy resolve server event) :
    Housed resolve (server.step event).reg where
  authorized := authorized_step housed.authorized answered.1
  shape := shape_step housed.shape housed.authorized answered.1 answered.2.1
    (stableAnswers_of_resolved housed.shape housed.resolved answered.2.1 answered.2.2)
  resolved := housed.resolved.step housed.shape answered.1 answered.2.2

/-- In every state that the server reaches each connection is registered once. -/
theorem oneEntry_of_reach {resolve : String → UserId} {config : MsgServConfig}
    {loginServerCount : Nat} {server : Server}
    (reach : Lib.Reach Server.step (AnsweredBy resolve) (Server.init config loginServerCount)
      server) : server.reg.OneEntry := by
  have housed := reach.invariant (fun server => Housed resolve server.reg)
    ⟨authorized_empty, shape_empty, resolved_empty resolve⟩
    fun _ _ before answered => Housed.step before answered
  exact oneEntry_of_shape housed.shape

end Entries

/-! ### What a connection receives -/

section Received

variable {reg : Registry} {conn : ConnPtr} {userId : UserId} {packet : Packet}

theorem received_append (conn : ConnPtr) (first second : List Sent) :
    received conn (first ++ second) = received conn first ++ received conn second :=
  List.filterMap_append

theorem received_when_route (available : Bool) :
    received conn (Sent.when available (.route packet)) = [] := by
  cases available <;> rfl

theorem received_when_db (available : Bool) :
    received conn (Sent.when available (.db packet)) = [] := by
  cases available <;> rfl

theorem received_toClient_self : received conn (Sent.toClient (some conn) packet) = [packet] := by
  simp [received, Sent.toClient]

theorem received_toClient_other {origin : Option ConnPtr} (other : origin ≠ some conn) :
    received conn (Sent.toClient origin packet) = [] := by
  cases origin with
  | none => rfl
  | some origin =>
      have different : origin ≠ conn := fun same => other (congrArg some same)
      simp [received, Sent.toClient, different]

/-- One packet for each time that the connection is among the targets. -/
theorem received_targets (targets : List ConnPtr) :
    received conn (targets.map fun target => .client target packet) =
      List.replicate (targets.count conn) packet := by
  induction targets with
  | nil => rfl
  | cons target rest inductionHypothesis =>
      show received conn ([.client target packet] ++ _) = _
      rw [received_append, inductionHypothesis, List.count_cons]
      by_cases same : target = conn
      · subst same
        simp [received, List.replicate_succ]
      · simp [received, same]

theorem mem_broadcastTargets {user : ImUser} {fromConn : Option ConnPtr} :
    conn ∈ user.broadcastTargets fromConn ↔
      (∃ handle : Handle, user.connMap[handle]? = some conn) ∧ some conn ≠ fromConn := by
  unfold ImUser.broadcastTargets
  simp only [List.mem_filter, List.mem_map, bne_iff_ne, ne_eq]
  refine and_congr_left fun _ => ?_
  constructor
  · rintro ⟨entry, member, rfl⟩
    exact ⟨entry.1, TreeMap.mem_toList_iff_getElem?_eq_some.mp member⟩
  · rintro ⟨handle, found⟩
    exact ⟨(handle, conn), TreeMap.mem_toList_iff_getElem?_eq_some.mpr found, rfl⟩

/-- A broadcast names no connection twice. -/
theorem Registry.OneEntry.nodup_targets (oneEntry : reg.OneEntry) {user : UserPtr}
    (found : reg.imUserMap[userId]? = some user) (fromConn : Option ConnPtr) :
    ((reg.users user).broadcastTargets fromConn).Nodup := by
  refine List.Nodup.filter _ (List.Nodup.map_on ?_ (Lib.toList_nodup _))
  intro first left second right same
  have leftFound := TreeMap.mem_toList_iff_getElem?_eq_some.mp left
  have rightFound := TreeMap.mem_toList_iff_getElem?_eq_some.mp right
  rw [← same] at rightFound
  exact Prod.ext (oneEntry.handle userId user _ _ _ found leftFound rightFound) same

/-- A registered connection that is not left out receives a broadcast once. -/
theorem Registry.OneEntry.received_broadcast (oneEntry : reg.OneEntry)
    (registered : reg.RegisteredTo userId conn) {fromConn : Option ConnPtr}
    (notFrom : some conn ≠ fromConn) :
    received conn (reg.broadcast userId fromConn packet) = [packet] := by
  obtain ⟨user, handle, found, listed⟩ := registered
  have once : ((reg.users user).broadcastTargets fromConn).count conn = 1 :=
    List.count_eq_one_of_mem (oneEntry.nodup_targets found fromConn)
      (mem_broadcastTargets.mpr ⟨⟨handle, listed⟩, notFrom⟩)
  unfold Registry.broadcast Registry.getImUserById
  rw [found]
  show received conn (((reg.users user).broadcastTargets fromConn).map _) = _
  rw [received_targets, once]
  rfl

/-- The connection that is left out, and those of other users, receive nothing. -/
theorem received_broadcast_nil {fromConn : Option ConnPtr}
    (notTarget : ¬(reg.RegisteredTo userId conn ∧ some conn ≠ fromConn)) :
    received conn (reg.broadcast userId fromConn packet) = [] := by
  unfold Registry.broadcast Registry.getImUserById
  cases found : reg.imUserMap[userId]? with
  | none => rfl
  | some user =>
      show received conn (((reg.users user).broadcastTargets fromConn).map _) = _
      rw [received_targets, List.count_eq_zero.mpr]
      · rfl
      · intro member
        obtain ⟨⟨handle, listed⟩, notFrom⟩ := mem_broadcastTargets.mp member
        exact notTarget ⟨⟨user, handle, found, listed⟩, notFrom⟩

/-- Broadcasts to users. A connection of a user receives as many packets as the user is listed. -/
theorem Registry.OneEntry.received_broadcasts (oneEntry : reg.OneEntry)
    (registered : reg.RegisteredTo userId conn) (users : List UserId)
    (fromConn : UserId → Option ConnPtr) :
    received conn (users.flatMap fun member => reg.broadcast member (fromConn member) packet) =
      if some conn = fromConn userId then [] else List.replicate (users.count userId) packet := by
  induction users with
  | nil => split <;> rfl
  | cons member rest inductionHypothesis =>
      rw [List.flatMap_cons, received_append, inductionHypothesis, List.count_cons]
      by_cases same : member = userId
      · subst same
        split
        · rename_i isFrom
          rw [received_broadcast_nil fun target => target.2 isFrom]
          rfl
        · rename_i notFrom
          rw [oneEntry.received_broadcast registered notFrom, beq_self_eq_true, if_pos rfl,
            List.replicate_succ]
          rfl
      · have nothing : received conn (reg.broadcast member (fromConn member) packet) = [] :=
          received_broadcast_nil fun target =>
            same (oneEntry.userId member userId conn target.1 registered)
        rw [nothing, beq_false_of_ne same]
        rfl

/-- A connection that is registered to none of the users receives nothing. -/
theorem received_broadcasts_nil (users : List UserId) (fromConn : UserId → Option ConnPtr)
    (notMember : ∀ member ∈ users, ¬reg.RegisteredTo member conn) :
    received conn (users.flatMap fun member => reg.broadcast member (fromConn member) packet) =
      [] := by
  induction users with
  | nil => rfl
  | cons member rest inductionHypothesis =>
      rw [List.flatMap_cons, received_append,
        inductionHypothesis fun other among => notMember other (List.mem_cons_of_mem _ among),
        received_broadcast_nil fun target => notMember member List.mem_cons_self target.1]
      rfl

end Received

/-! ### Two users -/

def userIdOf (userName : String) : UserId :=
  if userName = "ann" then 7 else 8

/-- The users 7 and 8 log in, the first one on this handle, the second one on handle 4. -/
def twoLogins (handle : Handle) : List Event :=
  onlineEvents ++
    [.accept 1 handle 0 0, .read 1 (loginPdu "ann" 1) Peers.allUp,
      .validateRsp ⟨1, "ann", handle⟩ (acceptedRsp "ann" 7 handle) true 0,
      .accept 2 4 0 0, .read 2 (loginPdu "bob" 1) Peers.allUp,
      .validateRsp ⟨2, "bob", 4⟩ (acceptedRsp "bob" 8 4) true 0]

def twoUsers (handle : Handle) : Registry :=
  (Lib.run Server.step (Server.init sampleConfig 1) (twoLogins handle)).reg

theorem twoLogins_answered : Lib.Meets Server.step (AnsweredBy userIdOf)
    (Server.init sampleConfig 1) (twoLogins 3) := by
  have faithful := Peers.allUp_faithful
  exact ⟨⟨trivial, trivial, trivial⟩, ⟨trivial, trivial, trivial⟩,
    ⟨⟨by decide, by decide⟩, trivial, trivial⟩, ⟨⟨by decide, faithful⟩, trivial, trivial⟩,
    ⟨trivial, fun _ => by decide, fun _ => rfl⟩,
    ⟨⟨by decide, by decide⟩, trivial, trivial⟩, ⟨⟨by decide, faithful⟩, trivial, trivial⟩,
    ⟨trivial, fun _ => by decide, fun _ => rfl⟩, trivial⟩

theorem oneEntry_twoUsers : (twoUsers 3).OneEntry :=
  oneEntry_of_reach (Lib.reach_run (twoLogins 3) twoLogins_answered)

end AChat.MsgServer
