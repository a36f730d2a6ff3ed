import AChat.MsgServer.Delivery

/-!
Contract: who receives a group message.

A stored message is acknowledged at once, and waits in the attach data of the request for the
members of its group. The reply sends it to all of them, except to the connection that it came
from. That one is found by its handle, unless the handle is 0.

Owns: the handlers of a stored group message and of the reply with the members.
-/

namespace AChat.MsgServer

/-! ### Packets -/

/-- The acknowledgement of a stored message. -/
def msgDataAck (msg : MsgData) (sessionType seqNum : Nat) : Packet :=
  ⟨sidMsg, cidMsgDataAck, seqNum,
    .msgDataAck msg.fromUserId msg.toSessionId msg.msgId sessionType⟩

/-- The request for the members of a group, with the message in its attach data. -/
def groupInfoReq (msg : MsgData) (handle : Handle) : Packet :=
  ⟨sidGroup, cidGroupInfoRequest, 0,
    .groupInfoListReq msg.fromUserId msg.toSessionId 0 ⟨handle, some msg⟩⟩

/-- A message on its way to the members of a group. -/
def groupMsgData (msg : MsgData) : Packet :=
  ⟨sidMsg, cidMsgData, 0, .msgData msg⟩

def groupGetShieldReq (group : GroupInfo) (msg : MsgData) : Packet :=
  ⟨sidOther, cidOtherGetShieldReq, 0,
    .groupGetShieldReq group.groupId group.groupMemberList msg⟩

/-- What a DB server replies to the request: the user and the attach data come back. -/
def groupInfoRsp (seqNum : Nat) (msg : MsgData) (handle : Handle) (groups : List GroupInfo) :
    Packet :=
  ⟨sidGroup, cidGroupInfoResponse, seqNum,
    .groupInfoListRsp msg.fromUserId groups (some ⟨handle, some msg⟩)⟩

namespace Registry

variable (reg : Registry)

/-! ### Handlers -/

/-- `GroupChat::HandleGroupMessage`. `handle` is read from the attach data of the message. -/
def handleGroupMessage (routeServ dbServ : Bool) (pdu : Packet) (handle : Handle) : List Sent :=
  match pdu.message with
  | .msgData msg =>
      if msg.msgId = 0 then []
      else
        Sent.toClient (reg.getMsgConnByHandle msg.fromUserId handle)
            (msgDataAck msg sessionTypeGroup pdu.seqNum) ++
          Sent.when routeServ (.route pdu) ++ Sent.when dbServ (.db (groupInfoReq msg handle))
  | _ => []

/-- The connection that a member does not get the message on. -/
def fanOutFrom (userId : UserId) (handle : Handle) (member : UserId) : Option ConnPtr :=
  if member = userId then
    if handle ≠ 0 then reg.getMsgConnByHandle userId handle else none
  else none

/-- The message for each member, in the order of the list. -/
def fanOut (userId : UserId) (handle : Handle) (msg : MsgData) (members : List UserId) :
    List Sent :=
  members.flatMap fun member =>
    reg.broadcast member (reg.fanOutFrom userId handle member) (groupMsgData msg)

/-- `GroupChat::HandleGroupInfoResponse`. `attach` is read from the attach data of the reply. A
reply without a message in it is for a client. -/
def handleGroupInfoResponse (dbServ : Bool) (pdu : Packet) (attach : PduAttachData) : List Sent :=
  match pdu.message with
  | .groupInfoListRsp userId groups _ =>
      match attach.pdu, groups with
      | some msg, group :: _ =>
          if userId ∈ group.groupMemberList then
            reg.fanOut userId attach.handle msg group.groupMemberList ++
              Sent.when dbServ (.db (groupGetShieldReq group msg))
          else []
      | some _, [] => []
      | none, groups =>
          Sent.toClient (reg.getMsgConnByHandle userId attach.handle)
            { pdu with message := .groupInfoListRsp userId groups none }
  | _ => []

/-! ### The specification -/

/-- The connection that the message came from, unless its handle is 0. -/
def originConn (msg : MsgData) (handle : Handle) : Option ConnPtr :=
  if handle ≠ 0 then reg.getMsgConnByHandle msg.fromUserId handle else none

end Registry

/-- What the connections receive when a message is stored, in the registry `before`, and when the
reply with the members of its group comes, in the registry `later`. -/
structure FansOut (before later : Registry) (msg : MsgData) (handle : Handle) (seqNum : Nat)
    (group : GroupInfo) (dbServ : Bool) (stored replied : List Sent) : Prop where
  outsider : msg.fromUserId ∉ group.groupMemberList → replied = []
  delivered : msg.fromUserId ∈ group.groupMemberList → ∀ member ∈ group.groupMemberList,
    ∀ conn, later.RegisteredTo member conn → later.originConn msg handle ≠ some conn →
      received conn replied = [groupMsgData msg]
  origin : ∀ conn, later.originConn msg handle = some conn → received conn replied = []
  nonMember : ∀ user, user ∉ group.groupMemberList → ∀ conn, later.RegisteredTo user conn →
    received conn replied = []
  acknowledged : ∀ conn, received conn stored =
    if before.getMsgConnByHandle msg.fromUserId handle = some conn then
      [msgDataAck msg sessionTypeGroup seqNum]
    else []
  shield : msg.fromUserId ∈ group.groupMemberList →
    asked replied = if dbServ then [groupGetShieldReq group msg] else []

/-! ### The fan-out -/

section FanOut

variable {reg : Registry} {conn : ConnPtr} {msg : MsgData} {handle : Handle}

theorem registeredTo_of_handle {userId : UserId}
    (found : reg.getMsgConnByHandle userId handle = some conn) : reg.RegisteredTo userId conn := by
  unfold Registry.getMsgConnByHandle at found
  cases user : reg.getImUserById userId with
  | none =>
      rw [user] at found
      cases found
  | some user' =>
      rw [user] at found
      exact ⟨user', handle, user, found⟩

theorem registeredTo_of_origin (origin : reg.originConn msg handle = some conn) :
    reg.RegisteredTo msg.fromUserId conn := by
  unfold Registry.originConn at origin
  split at origin
  · exact registeredTo_of_handle origin
  · cases origin

/-- Only the sender is left out anywhere. -/
theorem fanOutFrom_eq (member : UserId) :
    reg.fanOutFrom msg.fromUserId handle member =
      if member = msg.fromUserId then reg.originConn msg handle else none :=
  rfl

theorem asked_append (first second : List Sent) :
    asked (first ++ second) = asked first ++ asked second :=
  List.filterMap_append

theorem asked_fanOut (members : List UserId) :
    asked (reg.fanOut msg.fromUserId handle msg members) = [] := by
  unfold Registry.fanOut
  induction members with
  | nil => rfl
  | cons member rest inductionHypothesis =>
      rw [List.flatMap_cons, asked_append, inductionHypothesis, List.append_nil]
      unfold Registry.broadcast
      split
      · rfl
      · exact List.filterMap_eq_nil_iff.mpr (List.forall_mem_map.mpr fun _ _ => rfl)

/-- A connection of a member gets the message once, unless it came from there. -/
theorem Registry.OneEntry.received_fanOut (oneEntry : reg.OneEntry) {members : List UserId}
    (distinct : members.Nodup) {member : UserId} (among : member ∈ members)
    (registered : reg.RegisteredTo member conn) :
    received conn (reg.fanOut msg.fromUserId handle msg members) =
      if reg.originConn msg handle = some conn then [] else [groupMsgData msg] := by
  unfold Registry.fanOut
  rw [oneEntry.received_broadcasts registered, List.count_eq_one_of_mem distinct among,
    fanOutFrom_eq]
  by_cases own : member = msg.fromUserId
  · rw [if_pos own]
    exact if_congr eq_comm rfl rfl
  · have notOrigin : reg.originConn msg handle ≠ some conn := fun origin =>
      own (oneEntry.userId member msg.fromUserId conn registered (registeredTo_of_origin origin))
    rw [if_neg own, if_neg (Option.some_ne_none conn), if_neg notOrigin]
    rfl

theorem received_stored {before : Registry} (routeServ dbServ : Bool) (seqNum : Nat)
    (stored : msg.msgId ≠ 0) (conn : ConnPtr) :
    received conn (before.handleGroupMessage routeServ dbServ
        ⟨sidMsg, cidMsgData, seqNum, .msgData msg⟩ handle) =
      if before.getMsgConnByHandle msg.fromUserId handle = some conn then
        [msgDataAck msg sessionTypeGroup seqNum]
      else [] := by
  unfold Registry.handleGroupMessage
  dsimp only
  rw [if_neg stored, received_append, received_append, received_when_route, received_when_db,
    List.append_nil, List.append_nil]
  split
  · rename_i found
    rw [found, received_toClient_self]
  · rename_i other
    exact received_toClient_other other

end FanOut

/-- A stored group message is acknowledged, and when the reply with the members of its group
comes, it fans out to them. -/
theorem group_message_fans_out (before : Registry) {later : Registry} (oneEntry : later.OneEntry)
    (msg : MsgData) (stored : msg.msgId ≠ 0) (handle : Handle) (seqNum replySeqNum : Nat)
    (group : GroupInfo) (distinct : group.groupMemberList.Nodup)
    (routeServ dbServ laterDbServ : Bool) :
    FansOut before later msg handle seqNum group laterDbServ
      (before.handleGroupMessage routeServ dbServ ⟨sidMsg, cidMsgData, seqNum, .msgData msg⟩ handle)
      (later.handleGroupInfoResponse laterDbServ (groupInfoRsp replySeqNum msg handle [group])
        ⟨handle, some msg⟩) := by
  have replied : later.handleGroupInfoResponse laterDbServ
      (groupInfoRsp replySeqNum msg handle [group]) ⟨handle, some msg⟩ =
      if msg.fromUserId ∈ group.groupMemberList then
        later.fanOut msg.fromUserId handle msg group.groupMemberList ++
          Sent.when laterDbServ (.db (groupGetShieldReq group msg))
      else [] := rfl
  rw [replied]
  by_cases sender : msg.fromUserId ∈ group.groupMemberList
  · rw [if_pos sender]
    refine ⟨fun outsider => absurd sender outsider, ?_, ?_, ?_,
      received_stored routeServ dbServ seqNum stored, ?_⟩
    · intro _ member among conn registered notOrigin
      rw [received_append, received_when_db, List.append_nil,
        oneEntry.received_fanOut distinct among registered, if_neg notOrigin]
    · intro conn origin
      rw [received_append, received_when_db, List.append_nil,
        oneEntry.received_fanOut distinct sender (registeredTo_of_origin origin), if_pos origin]
    · intro user notMember conn registered
      rw [received_append, received_when_db, List.append_nil]
      apply received_broadcasts_nil
      intro member among other
      exact notMember (oneEntry.userId user member conn registered other ▸ among)
    · intro _
      rw [asked_append, asked_fanOut]
      cases laterDbServ <;> rfl
  · rw [if_neg sender]
    exact ⟨fun _ => rfl, fun inside => absurd inside sender, fun _ _ => rfl, fun _ _ _ _ => rfl,
      received_stored routeServ dbServ seqNum stored, fun inside => absurd inside sender⟩

/-- A message of user 7 to a group. -/
def groupMsg : MsgData :=
  ⟨7, 5, 1, 0, msgTypeGroupText, [1], some 3⟩

theorem group_message_fans_out_two :
    received 1 ((twoUsers 3).handleGroupInfoResponse true
        (groupInfoRsp 0 groupMsg 3 [⟨5, [7, 8], []⟩]) ⟨3, some groupMsg⟩) = [] ∧
      received 2 ((twoUsers 3).handleGroupInfoResponse true
        (groupInfoRsp 0 groupMsg 3 [⟨5, [7, 8], []⟩]) ⟨3, some groupMsg⟩) =
          [groupMsgData groupMsg] := by
  have fans := group_message_fans_out (twoUsers 3) oneEntry_twoUsers groupMsg (by decide) 3 9 0
    ⟨5, [7, 8], []⟩ (by decide) true true true
  exact ⟨fans.origin 1 (by decide),
    fans.delivered (by decide) 8 (by decide) 2 ⟨1, 4, by decide, by decide⟩ (by decide)⟩

/-- A message that came on handle 0 goes back to where it came from. -/
theorem group_message_returns :
    (twoUsers 0).getMsgConnByHandle 7 0 = some 1 ∧
    received 1 ((twoUsers 0).handleGroupMessage true true
        ⟨sidMsg, cidMsgData, 9, .msgData groupMsg⟩ 0) = [msgDataAck groupMsg sessionTypeGroup 9] ∧
      received 1 ((twoUsers 0).handleGroupInfoResponse true
        (groupInfoRsp 0 groupMsg 0 [⟨5, [7, 8], []⟩]) ⟨0, some groupMsg⟩) =
          [groupMsgData groupMsg] := by
  decide

end AChat.MsgServer
