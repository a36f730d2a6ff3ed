import AChat.MsgServer.ClientClass
import AChat.MsgServer.GroupNotify
import AChat.MsgServer.SingleDelivery

/-!
Contract: which connection gets the reply of a DB server.

A reply is looked up by the user id and the handle of its request. The kernel hands
out the handle of a closed connection again, so that the reply may reach a later
connection of the same user.

Owns: the requests that carry a handle, the handlers of their responses, and the
runs of the server with its requests and replies.
-/

namespace AChat.MsgServer

/-! ### Requests -/

/-- A request of a client on its way to a DB server, with the connection that sent it. -/
structure DbRequest where
  conn : ConnPtr
  userId : UserId
  handle : Handle
deriving DecidableEq, Repr

/-- The user id and the handle that a request carries. -/
def Body.attached : Body → Option (UserId × Handle)
  | .userReq userId (some handle) _ => some (userId, handle)
  | .msgData fromUserId _ _ _ _ _ (some handle) => some (fromUserId, handle)
  | .removeSessionReq userId _ _ (some handle) => some (userId, handle)
  | .groupCreateReq userId _ _ (some handle) _ => some (userId, handle)
  | .groupChangeMemberReq userId _ _ (some handle) _ => some (userId, handle)
  | _ => none

def Out.attached : Out → Option (UserId × Handle)
  | .db pdu => pdu.body.attached
  | _ => none

/-- The handlers that set the attach data to the handle of the connection. -/
def Handler.attachesHandle : Handler → Bool
  | .pushShieldRequest | .queryPushShieldRequest | .clientMsgData | .clientGetMsgListRequest
  | .clientGetMsgByMsgIdRequest | .clientUnreadMsgCntRequest | .clientGetLatestMsgIDReq
  | .clientRecentContactSessionRequest | .clientUserInfoRequest | .clientRemoveSessionRequest
  | .clientAllUserRequest | .changeSignInfoRequest | .clientDepartmentRequest
  | .clientGroupNormalRequest | .clientGroupInfoRequest | .clientGroupCreateRequest
  | .clientGroupChangeMemberRequest | .clientGroupShieldGroupRequest => true
  | _ => false

/-- The requests among what a connection sent while a PDU was handled. -/
def dbRequests (conn : ConnPtr) (pdu : Pdu) (outs : List Out) : List DbRequest :=
  if (dispatch pdu.commandId).any Handler.attachesHandle then
    (outs.filterMap Out.attached).map fun asked => ⟨conn, asked.1, asked.2⟩
  else []

/-! ### Responses -/

def cidLoginResPushShield : Nat := 269
def cidLoginResQueryPushShield : Nat := 271
def cidBuddyListRecentContactSessionResponse : Nat := 514
def cidBuddyListUserInfoResponse : Nat := 517
def cidBuddyListRemoveSessionRes : Nat := 519
def cidBuddyListAllUserResponse : Nat := 521
def cidBuddyListDepartmentResponse : Nat := 529
def cidBuddyListChangeSignInfoResponse : Nat := 532
def cidMsgUnreadCntResponse : Nat := 776
def cidMsgListResponse : Nat := 778
def cidMsgGetLatestMsgIdRsp : Nat := 780
def cidMsgGetByMsgIdRes : Nat := 782

/-- What decides about a response, besides its command and its user. -/
inductive DbRspBody where
  | plain (content : Content)
  /-- A message that comes back with its id, which is 0 when it was not stored. -/
  | msgData (toSessionId msgId msgType : Nat)
  /-- The members of groups, with the length of the PDU in the attach data. -/
  | groupInfo (pduLength : Nat) (content : Content)
deriving DecidableEq, Repr

/-- A response of a DB server. `attach` is the handle in the attach data. -/
structure DbRsp where
  commandId : Nat
  seqNum : Nat
  userId : UserId
  attach : Handle
  body : DbRspBody
deriving DecidableEq, Repr

inductive ClientRspBody where
  /-- The response itself, without attach data. -/
  | rsp (body : DbRspBody)
  | msgDataAck (sessionId msgId sessionType : Nat)
deriving DecidableEq, Repr

/-- What the connection that is found gets. -/
structure ClientRsp where
  commandId : Nat
  seqNum : Nat
  userId : UserId
  body : ClientRspBody
deriving DecidableEq, Repr

/-- The response, with its attach data cleared. -/
def DbRsp.cleared (rsp : DbRsp) : ClientRsp :=
  ⟨rsp.commandId, rsp.seqNum, rsp.userId, .rsp rsp.body⟩

namespace Registry

/-- A handler of `DBServConn`: a response goes to the connection that is found, if it is open. -/
def forwardRsp (reg : Registry) (rsp : DbRsp) : Option (ConnPtr × ClientRsp) :=
  match reg.getMsgConnByHandle rsp.userId rsp.attach with
  | none => none
  | some conn => if (reg.conns conn).isOpen then some (conn, rsp.cleared) else none

/-- A handler of `GroupChat`, which does not ask whether the connection is open. -/
def forwardGroupRsp (reg : Registry) (rsp : DbRsp) : Option (ConnPtr × ClientRsp) :=
  (reg.getMsgConnByHandle rsp.userId rsp.attach).map fun conn => (conn, rsp.cleared)

variable (reg : Registry) (rsp : DbRsp)

def handlePushShieldResponse := reg.forwardRsp rsp
def handleQueryPushShieldResponse := reg.forwardRsp rsp
def handleUnreadMsgCountResponse := reg.forwardRsp rsp
def handleGetMsgListResponse := reg.forwardRsp rsp
def handleGetMsgByIdResponse := reg.forwardRsp rsp
def handleGetLatestMsgIDRsp := reg.forwardRsp rsp
def handleRecentSessionResponse := reg.forwardRsp rsp
def handleAllUserResponse := reg.forwardRsp rsp
def handleUsersInfoResponse := reg.forwardRsp rsp
def handleRemoveSessionResponse := reg.forwardRsp rsp
def handleDepartmentResponse := reg.forwardRsp rsp
def handleChangeSignInfoResponse := reg.forwardRsp rsp
def handleGroupNormalResponse := reg.forwardGroupRsp rsp
def handleGroupCreateResponse := reg.forwardGroupRsp rsp
def handleGroupShieldGroupResponse := reg.forwardGroupRsp rsp

/-- What `handleGroupChangeMemberResponse` sends to the connection that asked. -/
def replyGroupChangeMember := reg.forwardGroupRsp rsp

/-- What `handleGroupInfoResponse` sends to the connection that asked. With a PDU in the attach
data the server asked for itself, and nothing is sent there. -/
def replyGroupInfo : Option (ConnPtr × ClientRsp) :=
  match rsp.body with
  | .groupInfo pduLength _ => if pduLength = 0 then reg.forwardGroupRsp rsp else none
  | _ => none

/-- What `handleMsgData`, or `handleGroupMessage`, sends to the connection that the message came
from. -/
def replyMsgData : Option (ConnPtr × ClientRsp) :=
  match rsp.body with
  | .msgData toSessionId msgId msgType =>
      let sessionType := if checkMsgTypeGroup msgType then sessionTypeGroup else sessionTypeSingle
      if msgId = 0 then none
      else
        (reg.getMsgConnByHandle rsp.userId rsp.attach).map fun conn =>
          (conn, ⟨cidMsgDataAck, rsp.seqNum, rsp.userId,
            .msgDataAck toSessionId msgId sessionType⟩)
  | _ => none

/-- `DBServConn::HandlePdu`: what goes to the connection that is found by the user id and the
handle of the response. -/
def handleDbRsp : Option (ConnPtr × ClientRsp) :=
  if rsp.commandId = cidLoginResPushShield then reg.handlePushShieldResponse rsp
  else if rsp.commandId = cidLoginResQueryPushShield then reg.handleQueryPushShieldResponse rsp
  else if rsp.commandId = cidMsgUnreadCntResponse then reg.handleUnreadMsgCountResponse rsp
  else if rsp.commandId = cidMsgListResponse then reg.handleGetMsgListResponse rsp
  else if rsp.commandId = cidMsgGetByMsgIdRes then reg.handleGetMsgByIdResponse rsp
  else if rsp.commandId = cidMsgData then reg.replyMsgData rsp
  else if rsp.commandId = cidMsgGetLatestMsgIdRsp then reg.handleGetLatestMsgIDRsp rsp
  else if rsp.commandId = cidBuddyListRecentContactSessionResponse then
    reg.handleRecentSessionResponse rsp
  else if rsp.commandId = cidBuddyListAllUserResponse then reg.handleAllUserResponse rsp
  else if rsp.commandId = cidBuddyListUserInfoResponse then reg.handleUsersInfoResponse rsp
  else if rsp.commandId = cidBuddyListRemoveSessionRes then reg.handleRemoveSessionResponse rsp
  else if rsp.commandId = cidBuddyListChangeSignInfoResponse then
    reg.handleChangeSignInfoResponse rsp
  else if rsp.commandId = cidBuddyListDepartmentResponse then reg.handleDepartmentResponse rsp
  else if rsp.commandId = cidGroupNormalListResponse then reg.handleGroupNormalResponse rsp
  else if rsp.commandId = cidGroupInfoResponse then reg.replyGroupInfo rsp
  else if rsp.commandId = cidGroupCreateResponse then reg.handleGroupCreateResponse rsp
  else if rsp.commandId = cidGroupChangeMemberResponse then reg.replyGroupChangeMember rsp
  else if rsp.commandId = cidGroupShieldGroupResponse then reg.handleGroupShieldGroupResponse rsp
  else none

variable {reg} {rsp}

/-- A handler sends nothing, or sends to the connection that it found. -/
def SendsToFound (reg : Registry) (rsp : DbRsp) (result : Option (ConnPtr × ClientRsp)) : Prop :=
  ∀ receiver sent, result = some (receiver, sent) →
    reg.getMsgConnByHandle rsp.userId rsp.attach = some receiver

theorem sendsToFound_none : SendsToFound reg rsp none :=
  nofun

theorem sendsToFound_map (make : ConnPtr → ClientRsp) :
    SendsToFound reg rsp
      ((reg.getMsgConnByHandle rsp.userId rsp.attach).map fun conn => (conn, make conn)) := by
  intro receiver sent mapped
  obtain ⟨conn, found, same⟩ := Option.map_eq_some_iff.mp mapped
  cases same
  exact found

theorem forwardRsp_sendsToFound : SendsToFound reg rsp (reg.forwardRsp rsp) := by
  intro receiver sent forwarded
  unfold forwardRsp at forwarded
  split at forwarded
  · cases forwarded
  · rename_i conn found
    split at forwarded
    · cases forwarded
      exact found
    · cases forwarded

theorem replyGroupInfo_sendsToFound : SendsToFound reg rsp (reg.replyGroupInfo rsp) := by
  unfold replyGroupInfo
  split
  · split
    · exact sendsToFound_map _
    · exact sendsToFound_none
  · exact sendsToFound_none

theorem replyMsgData_sendsToFound : SendsToFound reg rsp (reg.replyMsgData rsp) := by
  unfold replyMsgData
  split
  · simp only
    split
    · exact sendsToFound_none
    · exact sendsToFound_map _
  · exact sendsToFound_none

/-- A response goes to the connection under its user id and handle, or is dropped. -/
theorem handleDbRsp_sendsToFound : SendsToFound reg rsp (reg.handleDbRsp rsp) := by
  have group : SendsToFound reg rsp (reg.forwardGroupRsp rsp) := sendsToFound_map _
  unfold handleDbRsp
  iterate 18
    refine iteInduction (motive := SendsToFound reg rsp) (fun _ => ?_) fun _ => ?_
    · first
        | exact forwardRsp_sendsToFound
        | exact group
        | exact replyGroupInfo_sendsToFound
        | exact replyMsgData_sendsToFound
  exact sendsToFound_none

/-! ### The rest of what is sent -/

/-- A reply, as the handlers that send more than the reply put it. -/
def sendReply (reply : Option (ConnPtr × ClientRsp)) (packet : Packet) : List Sent :=
  Sent.toClient (reply.map Prod.fst) packet

variable (reg)

theorem handleMsgData_replies (routeServ dbServ : Bool) (tick : ConnPtr → Nat) (pdu : Packet)
    (msg : MsgData) (carries : pdu.message = .msgData msg) (handle : Handle) :
    let reply := reg.replyMsgData ⟨cidMsgData, pdu.seqNum, msg.fromUserId, handle,
      .msgData msg.toSessionId msg.msgId msg.msgType⟩
    let sessionType :=
      if checkMsgTypeGroup msg.msgType then sessionTypeGroup else sessionTypeSingle
    ∃ rest, (reg.handleMsgData routeServ dbServ tick pdu handle).2 =
      sendReply reply (msgDataAck msg sessionType pdu.seqNum) ++ rest := by
  simp only [handleMsgData, handleGroupMessage, replyMsgData, carries, sendReply]
  by_cases notStored : msg.msgId = 0
  · simp [notStored, Sent.toClient]
  · by_cases group : checkMsgTypeGroup msg.msgType = true
    · simp [notStored, group, Function.comp_def]
    · simp [notStored, group, Function.comp_def]

theorem handleGroupChangeMemberResponse_replies (routeServ : Bool) (seqNum : Nat)
    (userId : UserId) (changeType resultCode groupId : Nat)
    (chgUserIdList curUserIdList : List UserId) (attach : Option Handle) (content : Content)
    (handle : Handle) :
    ∃ rest, reg.handleGroupChangeMemberResponse routeServ
        ⟨sidGroup, cidGroupChangeMemberResponse, seqNum,
          .groupChangeMemberRsp userId changeType resultCode groupId chgUserIdList curUserIdList
            attach⟩ handle =
      sendReply (reg.replyGroupChangeMember
          ⟨cidGroupChangeMemberResponse, seqNum, userId, handle, .plain content⟩)
        ⟨sidGroup, cidGroupChangeMemberResponse, seqNum,
          .groupChangeMemberRsp userId changeType resultCode groupId chgUserIdList curUserIdList
            none⟩ ++ rest := by
  simp [handleGroupChangeMemberResponse, replyGroupChangeMember, forwardGroupRsp, sendReply,
    Function.comp_def]

theorem handleGroupInfoResponse_replies (dbServ : Bool) (seqNum : Nat) (userId : UserId)
    (groups : List GroupInfo) (cleared : Option PduAttachData) (content : Content)
    (handle : Handle) :
    reg.handleGroupInfoResponse dbServ
        ⟨sidGroup, cidGroupInfoResponse, seqNum, .groupInfoListRsp userId groups cleared⟩
        ⟨handle, none⟩ =
      sendReply (reg.replyGroupInfo
          ⟨cidGroupInfoResponse, seqNum, userId, handle, .groupInfo 0 content⟩)
        ⟨sidGroup, cidGroupInfoResponse, seqNum, .groupInfoListRsp userId groups none⟩ := by
  simp [handleGroupInfoResponse, replyGroupInfo, forwardGroupRsp, sendReply, Function.comp_def]

end Registry

/-! ### What a request carries -/

/-- Every request carries the user id and the handle of the connection. -/
def Attaches (reg : Registry) (conn : ConnPtr) (outs : List Out) : Prop :=
  ∀ out ∈ outs, ∀ asked, out.attached = some asked →
    asked = ((reg.conns conn).userId, (reg.conns conn).handle)

section Requests

variable (reg : Registry) (peers : Peers) (conn : ConnPtr) (pdu : Pdu)

theorem attaches_nil : Attaches reg conn [] := by
  intro out member
  cases member

theorem attaches_db {request : Pdu}
    (own : request.body.attached = some ((reg.conns conn).userId, (reg.conns conn).handle)) :
    Attaches reg conn [.db request] := by
  intro out member asked carries
  rw [List.mem_singleton] at member
  subst member
  exact Option.some.inj (carries.symm.trans own)

theorem attaches_sendTo (available : Bool) {request : Pdu}
    (own : request.body.attached = some ((reg.conns conn).userId, (reg.conns conn).handle)) :
    Attaches reg conn (Registry.sendTo available (.db request)) := by
  unfold Registry.sendTo
  split
  · exact attaches_db reg conn own
  · exact attaches_nil reg conn

/-- What does not go to a DB server carries nothing. -/
theorem attaches_of_no_db {outs : List Out} (none : ∀ request, Out.db request ∉ outs) :
    Attaches reg conn outs := by
  intro out member asked carries
  cases out with
  | db request => exact absurd member (none request)
  | client | route | allRoute | allLogin => cases carries

theorem Attaches.append {left right : List Out} (first : Attaches reg conn left)
    (second : Attaches reg conn right) : Attaches reg conn (left ++ right) := by
  intro out member
  rw [List.mem_append] at member
  cases member with
  | inl inLeft => exact first out inLeft
  | inr inRight => exact second out inRight

theorem forwardToDb_attaches (available : Bool) :
    Attaches reg conn (reg.forwardToDb conn pdu available true) := by
  unfold Registry.forwardToDb
  split
  · exact attaches_sendTo reg conn available rfl
  · exact attaches_nil reg conn

theorem forwardOrReply_attaches {request : Body} (reply : Body) (replyCommand : Nat)
    (own : request.attached = some ((reg.conns conn).userId, (reg.conns conn).handle)) :
    Attaches reg conn (Registry.forwardOrReply peers conn pdu request reply replyCommand) := by
  unfold Registry.forwardOrReply
  split
  · exact attaches_db reg conn own
  · exact attaches_of_no_db reg conn (by simp)

theorem handleClientMsgData_attaches :
    Attaches reg conn (reg.handleClientMsgData peers conn pdu).2 := by
  unfold Registry.handleClientMsgData
  repeat' split
  all_goals first
    | exact attaches_nil reg conn
    | exact attaches_sendTo reg conn peers.dbServ rfl

theorem broadcastPdu_no_db (userId : UserId) (fromConn : Option ConnPtr) (out request : Pdu) :
    Out.db request ∉ reg.broadcastPdu userId fromConn out := by
  unfold Registry.broadcastPdu
  split
  · simp
  · simp

theorem handleClientRemoveSessionRequest_attaches :
    Attaches reg conn (reg.handleClientRemoveSessionRequest peers conn pdu) := by
  unfold Registry.handleClientRemoveSessionRequest
  split
  · apply Attaches.append
    · exact attaches_sendTo reg conn peers.dbServ rfl
    · split
      · apply attaches_of_no_db
        intro request member
        rw [List.mem_append] at member
        cases member with
        | inl told => exact broadcastPdu_no_db reg _ _ _ request told
        | inr routed =>
            unfold Registry.sendTo at routed
            split at routed <;> simp at routed
      · exact attaches_nil reg conn
  · exact attaches_nil reg conn

theorem groupRequest_attaches :
    Attaches reg conn (Registry.handleClientGroupNormalRequest reg peers conn pdu) ∧
      Attaches reg conn (reg.handleClientGroupInfoRequest peers conn pdu) ∧
      Attaches reg conn (reg.handleClientGroupCreateRequest peers conn pdu) ∧
      Attaches reg conn (reg.handleClientGroupChangeMemberRequest peers conn pdu) ∧
      Attaches reg conn (reg.handleClientGroupShieldGroupRequest peers conn pdu) := by
  unfold Registry.handleClientGroupNormalRequest Registry.handleClientGroupInfoRequest
    Registry.handleClientGroupCreateRequest Registry.handleClientGroupChangeMemberRequest
    Registry.handleClientGroupShieldGroupRequest
  refine ⟨?_, ?_, ?_, ?_, ?_⟩
  all_goals repeat' split
  all_goals first
    | exact attaches_nil reg conn
    | exact forwardOrReply_attaches reg peers conn pdu _ _ rfl

theorem runHandler_attaches {handler : Handler} (attaches : handler.attachesHandle = true) :
    Attaches reg conn (reg.runHandler peers conn pdu handler).2 := by
  have forwarded := forwardToDb_attaches reg conn pdu
  have group := groupRequest_attaches reg peers conn pdu
  cases handler with
  | pushShieldRequest | queryPushShieldRequest | clientGetMsgListRequest
  | clientGetMsgByMsgIdRequest | clientUnreadMsgCntRequest | clientGetLatestMsgIDReq
  | clientRecentContactSessionRequest | clientUserInfoRequest | clientAllUserRequest
  | changeSignInfoRequest | clientDepartmentRequest => exact forwarded _
  | clientMsgData => exact handleClientMsgData_attaches reg peers conn pdu
  | clientRemoveSessionRequest =>
      exact handleClientRemoveSessionRequest_attaches reg peers conn pdu
  | clientGroupNormalRequest => exact group.1
  | clientGroupInfoRequest => exact group.2.1
  | clientGroupCreateRequest => exact group.2.2.1
  | clientGroupChangeMemberRequest => exact group.2.2.2.1
  | clientGroupShieldGroupRequest => exact group.2.2.2.2
  | _ => cases attaches

theorem dbRequests_own {request : DbRequest}
    (asked : request ∈ dbRequests conn pdu (reg.onRead peers conn pdu).2) :
    request = ⟨conn, (reg.conns conn).userId, (reg.conns conn).handle⟩ := by
  unfold dbRequests at asked
  split at asked
  · rename_i known
    obtain ⟨carried, member, rfl⟩ := List.mem_map.mp asked
    obtain ⟨out, sent, carries⟩ := List.mem_filterMap.mp member
    have attaches : Attaches reg conn (reg.onRead peers conn pdu).2 := by
      unfold Registry.onRead Registry.handlePdu
      by_cases refused : reg.Unauthorized conn pdu
      · rw [if_pos refused]
        exact attaches_of_no_db reg conn (close_no_db reg conn)
      · rw [if_neg refused]
        cases dispatched : dispatch pdu.commandId with
        | none => exact attaches_nil reg conn
        | some handler =>
            rw [dispatched] at known
            exact runHandler_attaches reg peers conn pdu known
    rw [attaches out sent carried carries]
  · cases asked

end Requests

/-! ### Handles -/

/-- The connections keep their handles, and what is closed stays closed. -/
structure HandlesKept (before after : Registry) : Prop where
  accepted : after.accepted = before.accepted
  handle : ∀ conn, (after.conns conn).handle = (before.conns conn).handle
  closed : ∀ conn, (before.conns conn).closed = true → (after.conns conn).closed = true
  ownHandles : before.OwnHandles → after.OwnHandles

namespace HandlesKept

variable {before middle after reg : Registry}

theorem refl (reg : Registry) : HandlesKept reg reg :=
  ⟨rfl, fun _ => rfl, fun _ => id, id⟩

theorem trans (first : HandlesKept before middle) (second : HandlesKept middle after) :
    HandlesKept before after where
  accepted := second.accepted.trans first.accepted
  handle conn := (second.handle conn).trans (first.handle conn)
  closed conn := second.closed conn ∘ first.closed conn
  ownHandles := second.ownHandles ∘ first.ownHandles

/-- Connections leave, and the others stay listed under their handles. -/
theorem of_subset (accepted : after.accepted = before.accepted)
    (handle : ∀ conn, (after.conns conn).handle = (before.conns conn).handle)
    (closed : ∀ conn, (before.conns conn).closed = true → (after.conns conn).closed = true)
    (connMap : ∀ (user : UserPtr) (handle : Handle) (conn : ConnPtr),
      (after.users user).connMap[handle]? = some conn →
        (before.users user).connMap[handle]? = some conn) : HandlesKept before after := by
  refine ⟨accepted, handle, closed, ?_⟩
  intro ownHandles user entry conn found
  rw [handle]
  exact ownHandles user entry conn (connMap user entry conn found)

theorem of_untouched (untouched : Untouched before after) : HandlesKept before after := by
  apply of_subset untouched.accepted untouched.handle
  · intro conn closed
    rw [untouched.closed]
    exact closed
  · rw [untouched.users]
    exact fun _ _ _ => id

theorem of_shrinks (shrinks : Shrinks before after) : HandlesKept before after := by
  apply of_subset shrinks.accepted _ _ shrinks.connMap
  · rw [shrinks.conns]
    exact fun _ => rfl
  · rw [shrinks.conns]
    exact fun _ => id

/-- A change of a connection that keeps its handle, and does not open it again. -/
theorem modifyConn (reg : Registry) (conn : ConnPtr) {change : MsgConn → MsgConn}
    (handle : ∀ value, (change value).handle = value.handle)
    (closed : ∀ value, value.closed = true → (change value).closed = true) :
    HandlesKept reg (reg.modifyConn conn change) := by
  have connMap : ∀ (user : UserPtr) (entry : Handle) (target : ConnPtr),
      ((reg.modifyConn conn change).users user).connMap[entry]? = some target →
        (reg.users user).connMap[entry]? = some target := fun _ _ _ => id
  apply of_subset (Registry.modifyConn_accepted reg conn change) _ _ connMap
  · intro other
    by_cases same : other = conn
    · rw [same, Registry.modifyConn_self, handle]
    · rw [Registry.modifyConn_other _ _ _ same]
  · intro other
    by_cases same : other = conn
    · rw [same, Registry.modifyConn_self]
      exact closed _
    · rw [Registry.modifyConn_other _ _ _ same]
      exact id

theorem close (reg : Registry) (conn : ConnPtr) : HandlesKept reg (reg.close conn).1 := by
  have marked : HandlesKept reg (reg.markClosed conn) :=
    modifyConn reg conn (fun _ => rfl) fun _ _ => rfl
  exact marked.trans (of_shrinks (Shrinks.close reg conn))

theorem enqueueLogin (reg : Registry) (conn : ConnPtr) (userName : String)
    (clientType : BitVec 32) (onlineStatus : Nat) :
    HandlesKept reg
      ((reg.nameConn conn userName clientType onlineStatus).enqueueLogin conn userName) := by
  have named : HandlesKept reg (reg.nameConn conn userName clientType onlineStatus) :=
    modifyConn reg conn (fun _ => rfl) fun _ => id
  obtain ⟨conns, _, accepted⟩ := Shape.enqueueLogin_frame
    (reg.nameConn conn userName clientType onlineStatus) conn userName
  apply named.trans
  apply of_subset accepted _ _ (Registry.enqueueLogin_connMap _ conn userName)
  · rw [conns]
    exact fun _ => rfl
  · rw [conns]
    exact fun _ => id

/-- The connection of an accepted login is listed under its handle. -/
theorem acceptLogin (reg : Registry) (imUser : UserPtr) (conn : ConnPtr) (rsp : ValidateRsp)
    (routeServ : Bool) (now : Nat) :
    HandlesKept reg (reg.acceptLogin imUser conn rsp routeServ now).1 := by
  have handle := reg.acceptLogin_handle conn imUser rsp routeServ now
  have closed := reg.acceptLogin_closed conn imUser rsp routeServ now
  refine ⟨reg.acceptLogin_accepted conn imUser rsp routeServ now, handle,
    fun target => (closed target).symm ▸ id, ?_⟩
  intro ownHandles user entry target found
  rw [handle]
  rw [Registry.acceptLogin_connMap] at found
  split at found
  · rw [Lib.getElem?_insert_ite] at found
    split at found
    · rename_i own
      cases found
      exact own
    · exact ownHandles user entry target found
  · exact ownHandles user entry target found

end HandlesKept

/-- No two connections that were not closed have one handle, and connections are listed under
their handles. -/
structure HandlesApart (reg : Registry) : Prop where
  authorized : Authorized reg
  ownHandles : reg.OwnHandles
  apart : ∀ left right, left ∈ reg.accepted → right ∈ reg.accepted →
    (reg.conns left).closed = false → (reg.conns right).closed = false →
      (reg.conns left).handle = (reg.conns right).handle → left = right

namespace HandlesApart

variable {before after reg : Registry}

theorem kept (handles : HandlesApart before) (authorized : Authorized after)
    (kept : HandlesKept before after) : HandlesApart after := by
  refine ⟨authorized, kept.ownHandles handles.ownHandles, ?_⟩
  intro left right inLeft inRight leftOpen rightOpen same
  rw [kept.accepted] at inLeft inRight
  rw [kept.handle, kept.handle] at same
  have stays : ∀ conn, (after.conns conn).closed = false → (before.conns conn).closed = false := by
    intro conn notClosed
    apply Bool.eq_false_iff.mpr
    intro closed
    cases (kept.closed conn closed).symm.trans notClosed
  exact handles.apart left right inLeft inRight (stays left leftOpen) (stays right rightOpen) same

/-- The kernel gives a new connection a handle that no open one has. -/
theorem accept (handles : HandlesApart reg) {conn : ConnPtr} (fresh : conn ∉ reg.accepted)
    {handle : Handle}
    (free : ∀ other ∈ reg.accepted, (reg.conns other).closed = false →
      (reg.conns other).handle ≠ handle) (clientType : BitVec 32) (now : Nat) :
    HandlesApart (reg.accept conn handle clientType now) := by
  have others : ∀ other, other ≠ conn →
      (reg.accept conn handle clientType now).conns other = reg.conns other :=
    fun other different => Function.update_of_ne different _ _
  have self : ((reg.accept conn handle clientType now).conns conn).handle = handle := by
    simp [Registry.accept, Registry.setConn, MsgConn.onConnected]
  have known : ∀ other, other ∈ (reg.accept conn handle clientType now).accepted →
      other ≠ conn → other ∈ reg.accepted :=
    fun other member different => (List.mem_cons.mp member).resolve_left different
  have apart : ∀ other, other ∈ (reg.accept conn handle clientType now).accepted →
      other ≠ conn → ((reg.accept conn handle clientType now).conns other).closed = false →
        ((reg.accept conn handle clientType now).conns other).handle ≠ handle := by
    intro other member different notClosed
    rw [others other different] at notClosed ⊢
    exact free other (known other member different) notClosed
  refine ⟨handles.authorized.accept fresh handle clientType now, ?_, ?_⟩
  · intro user entry other found
    have accepted := (handles.authorized.listed other ⟨user, entry, found⟩).1
    rw [others other (fun same => fresh (same ▸ accepted))]
    exact handles.ownHandles user entry other found
  · intro left right inLeft inRight leftOpen rightOpen same
    by_cases leftNew : left = conn
    · by_cases rightNew : right = conn
      · rw [leftNew, rightNew]
      · rw [leftNew, self] at same
        exact absurd same.symm (apart right inRight rightNew rightOpen)
    · by_cases rightNew : right = conn
      · rw [rightNew, self] at same
        exact absurd same (apart left inLeft leftNew leftOpen)
      · rw [others left leftNew] at leftOpen same
        rw [others right rightNew] at rightOpen same
        exact handles.apart left right (known left inLeft leftNew)
          (known right inRight rightNew) leftOpen rightOpen same

end HandlesApart

/-- Every step but the arrival of a connection keeps the handles. -/
theorem step_handles {server : Server} {event : Event} (admissible : Admissible server event) :
    (∃ conn handle clientType now, event = .accept conn handle clientType now) ∨
      HandlesKept server.reg (server.step event).reg := by
  have transition := step_transition admissible
  generalize server.step event = next at transition ⊢
  cases transition with
  | accept => exact Or.inl ⟨_, _, _, _, rfl⟩
  | quiet untouched _ => exact Or.inr (.of_untouched untouched)
  | closed _ untouched _ => exact Or.inr ((HandlesKept.of_untouched untouched).trans (.close _ _))
  | login _ _ => exact Or.inr (.enqueueLogin _ _ _ _ _)
  | @acceptLogin _ _ routeServ now _ _ _ _ =>
      exact Or.inr (.acceptLogin _ _ _ _ routeServ now)
  | loginConnect | loginConfirm | loginClose => exact Or.inr (.refl _)

theorem HandlesApart.step {server : Server} {event : Event} (handles : HandlesApart server.reg)
    (admissible : Admissible server event) : HandlesApart (server.step event).reg := by
  cases step_handles admissible with
  | inl arrival =>
      obtain ⟨conn, handle, clientType, now, rfl⟩ := arrival
      exact handles.accept admissible.1 admissible.2 clientType now
  | inr kept => exact handles.kept (authorized_step handles.authorized admissible) kept

theorem handlesApart_empty : HandlesApart Registry.empty := by
  refine ⟨authorized_empty, ?_, nofun⟩
  intro user handle conn found
  simp [Registry.empty, ImUser.new] at found

/-! ### Runs with requests and replies -/

inductive ReplyEvent where
  | server (event : Event)
  /-- A DB server answers a request, after any delay. -/
  | reply (request : DbRequest) (rsp : DbRsp)

/-- The server, the requests that its clients made, and what came back for them. -/
structure ReplyRun where
  server : Server
  asked : List DbRequest
  answered : List (DbRequest × ConnPtr × ClientRsp)

namespace ReplyRun

def start (config : MsgServConfig) (loginServerCount : Nat) : ReplyRun :=
  ⟨Server.init config loginServerCount, [], []⟩

/-- The requests to DB servers that an event makes. -/
def asks (server : Server) : Event → List DbRequest
  | .read conn pdu given =>
      dbRequests conn pdu (server.reg.onRead (server.peers given) conn pdu).2
  | _ => []

def step (current : ReplyRun) : ReplyEvent → ReplyRun
  | .server event =>
      { current with
        server := current.server.step event
        asked := current.asked ++ asks current.server event }
  | .reply request rsp =>
      { current with
        answered := current.answered ++
          (current.server.reg.handleDbRsp rsp).toList.map (request, ·) }

/-- A response has the user id and the attach data of its request. -/
def Admissible (current : ReplyRun) : ReplyEvent → Prop
  | .server event => MsgServer.Admissible current.server event
  | .reply request rsp =>
      request ∈ current.asked ∧ rsp.userId = request.userId ∧ rsp.attach = request.handle

abbrev Reached (config : MsgServConfig) (loginServerCount : Nat) (current : ReplyRun) : Prop :=
  Lib.Reach step Admissible (start config loginServerCount) current

/-- A reply reaches the connection that made the request, or one that had its handle before
or after it. -/
def ReachesHandle (reg : Registry) (request : DbRequest) (receiver : ConnPtr) : Prop :=
  receiver = request.conn ∨
    (reg.conns receiver).handle = request.handle ∧
      (reg.conns request.conn).handle = request.handle ∧
      ((reg.conns receiver).closed = true ∨ (reg.conns request.conn).closed = true)

/-! ### The invariant -/

/-- What is known of a connection stays true in every step. -/
theorem step_accepted {server : Server} {event : Event}
    (admissible : MsgServer.Admissible server event) {conn : ConnPtr}
    (accepted : conn ∈ server.reg.accepted) :
    conn ∈ (server.step event).reg.accepted ∧
      ((server.step event).reg.conns conn).handle = (server.reg.conns conn).handle ∧
      ((server.reg.conns conn).closed = true →
        ((server.step event).reg.conns conn).closed = true) := by
  cases step_handles admissible with
  | inl arrival =>
      obtain ⟨new, handle, clientType, now, rfl⟩ := arrival
      have different : conn ≠ new := fun same => admissible.1 (same ▸ accepted)
      have same : ((server.step (.accept new handle clientType now)).reg.conns conn) =
          server.reg.conns conn := Function.update_of_ne different _ _
      rw [same]
      exact ⟨List.mem_cons_of_mem new accepted, rfl, id⟩
  | inr kept => exact ⟨kept.accepted ▸ accepted, kept.handle conn, kept.closed conn⟩

structure Routed (current : ReplyRun) : Prop where
  handles : HandlesApart current.server.reg
  asked : ∀ request ∈ current.asked, request.conn ∈ current.server.reg.accepted ∧
    (current.server.reg.conns request.conn).handle = request.handle
  answered : ∀ entry ∈ current.answered, entry.1 ∈ current.asked ∧
    entry.2.1 ∈ current.server.reg.accepted ∧ ReachesHandle current.server.reg entry.1 entry.2.1

variable {current : ReplyRun}

/-- The connection that is found has the handle of the request. -/
theorem Routed.reaches (routed : Routed current) {request : DbRequest}
    (asked : request ∈ current.asked) {receiver : ConnPtr}
    (found : current.server.reg.getMsgConnByHandle request.userId request.handle =
      some receiver) :
    receiver ∈ current.server.reg.accepted ∧
      ReachesHandle current.server.reg request receiver := by
  obtain ⟨accepted, requesterHandle⟩ := routed.asked request asked
  unfold Registry.getMsgConnByHandle ImUser.getMsgConn at found
  split at found
  · cases found
  · rename_i user _
    have receiverAccepted := (routed.handles.authorized.listed receiver ⟨user, _, found⟩).1
    have receiverHandle := routed.handles.ownHandles user _ receiver found
    refine ⟨receiverAccepted, ?_⟩
    by_cases receiverClosed : (current.server.reg.conns receiver).closed = true
    · exact Or.inr ⟨receiverHandle, requesterHandle, Or.inl receiverClosed⟩
    · by_cases requesterClosed : (current.server.reg.conns request.conn).closed = true
      · exact Or.inr ⟨receiverHandle, requesterHandle, Or.inr requesterClosed⟩
      · left
        rw [Bool.not_eq_true] at receiverClosed requesterClosed
        exact routed.handles.apart receiver request.conn receiverAccepted accepted
          receiverClosed requesterClosed (receiverHandle.trans requesterHandle.symm)

theorem Routed.step_server (routed : Routed current) {event : Event}
    (admissible : MsgServer.Admissible current.server event) :
    Routed (current.step (.server event)) := by
  have known := routed.asked
  refine ⟨routed.handles.step admissible, ?_, ?_⟩
  · intro request member
    rw [show (current.step (.server event)).asked =
      current.asked ++ asks current.server event from rfl, List.mem_append] at member
    cases member with
    | inl earlier =>
        obtain ⟨accepted, handle⟩ := known request earlier
        obtain ⟨stays, same, _⟩ := step_accepted admissible accepted
        exact ⟨stays, same.trans handle⟩
    | inr new =>
        cases event with
        | read conn pdu given =>
            have own := dbRequests_own current.server.reg _ conn pdu new
            obtain ⟨stays, same, _⟩ := step_accepted admissible admissible.1
            rw [own]
            exact ⟨stays, same⟩
        | _ => cases new
  · intro entry member
    obtain ⟨asked, accepted, reaches⟩ := routed.answered entry member
    obtain ⟨stays, receiverHandle, receiverClosed⟩ := step_accepted admissible accepted
    obtain ⟨_, requesterHandle, requesterClosed⟩ :=
      step_accepted admissible (known entry.1 asked).1
    refine ⟨List.mem_append_left _ asked, stays, ?_⟩
    cases reaches with
    | inl same => exact Or.inl same
    | inr reused =>
        obtain ⟨receiver, requester, closed⟩ := reused
        exact Or.inr ⟨receiverHandle.trans receiver, requesterHandle.trans requester,
          closed.imp receiverClosed requesterClosed⟩

/-- A reply is dropped, or answered on the connection that is registered and open. Where a handler
does not ask whether it is open, it is because it is registered. -/
theorem Routed.step_reply (routed : Routed current) {request : DbRequest} {rsp : DbRsp}
    (admissible : current.Admissible (.reply request rsp)) :
    (current.step (.reply request rsp)).answered = current.answered ∨
      ∃ receiver sent,
        current.server.reg.getMsgConnByHandle request.userId request.handle = some receiver ∧
        (current.server.reg.conns receiver).isOpen = true ∧
        (current.step (.reply request rsp)).answered =
          current.answered ++ [(request, receiver, sent)] := by
  obtain ⟨_, userId, attach⟩ := admissible
  simp only [ReplyRun.step]
  cases handled : current.server.reg.handleDbRsp rsp with
  | none => exact Or.inl (List.append_nil _)
  | some delivery =>
      obtain ⟨receiver, sent⟩ := delivery
      have found := Registry.handleDbRsp_sendsToFound receiver sent handled
      rw [userId, attach] at found
      obtain ⟨user, entry, _, listed⟩ := registeredTo_of_handle found
      have opened := (routed.handles.authorized.listed receiver ⟨user, entry, listed⟩).2
      exact Or.inr ⟨receiver, sent, found, opened, rfl⟩

theorem Routed.step (routed : Routed current) {event : ReplyEvent}
    (admissible : current.Admissible event) : Routed (current.step event) := by
  cases event with
  | server event => exact routed.step_server admissible
  | reply request rsp =>
      refine ⟨routed.handles, routed.asked, ?_⟩
      cases routed.step_reply admissible with
      | inl dropped =>
          rw [dropped]
          exact routed.answered
      | inr answered =>
          obtain ⟨receiver, sent, found, _, answers⟩ := answered
          rw [answers]
          intro entry member
          rw [List.mem_append, List.mem_singleton] at member
          cases member with
          | inl earlier => exact routed.answered entry earlier
          | inr last =>
              rw [last]
              exact ⟨admissible.1, routed.reaches admissible.1 found⟩

theorem routed_start (config : MsgServConfig) (loginServerCount : Nat) :
    Routed (start config loginServerCount) :=
  ⟨handlesApart_empty, nofun, nofun⟩

/-- Every reply that is not dropped goes to the open connection that is registered under the
user id and the handle of its request, and this is the connection that made the request
unless the handle was given out again. -/
theorem replies_reach_handle {config : MsgServConfig} {loginServerCount : Nat}
    (reached : Reached config loginServerCount current) :
    (∀ entry ∈ current.answered, ReachesHandle current.server.reg entry.1 entry.2.1) ∧
      ∀ request rsp, current.Admissible (.reply request rsp) →
        (current.step (.reply request rsp)).answered = current.answered ∨
          ∃ receiver sent,
            current.server.reg.getMsgConnByHandle request.userId request.handle =
              some receiver ∧
            (current.server.reg.conns receiver).isOpen = true ∧
            (current.step (.reply request rsp)).answered =
              current.answered ++ [(request, receiver, sent)] := by
  have routed := reached.invariant Routed (routed_start config loginServerCount)
    fun _ _ routed admissible => routed.step admissible
  exact ⟨fun entry member => (routed.answered entry member).2.2,
    fun _ _ admissible => routed.step_reply admissible⟩

/-! ### A handle that is used again -/

def msgListPdu : Pdu :=
  ⟨sidMsg, cidMsgListRequest, 5, .userReq 0 none []⟩

def msgListRsp (userId : UserId) (handle : Handle) : DbRsp :=
  ⟨cidMsgListResponse, 5, userId, handle, .plain []⟩

/-- A user asks for messages and closes, and its next connection gets the handle before the
reply is back. -/
def reuseEvents : List ReplyEvent :=
  [.server (.loginConnect 0), .server (.loginConfirm 0), .server (.accept 1 3 0 0),
    .server (.read 1 (loginPdu "ann" 1) Peers.allUp),
    .server (.validateRsp ⟨1, "ann", 3⟩ (acceptedRsp "ann" 7 3) true 0),
    .server (.read 1 msgListPdu Peers.allUp), .server (.onClose 1), .server (.accept 2 3 0 0),
    .server (.read 2 (loginPdu "ann" 1) Peers.allUp),
    .server (.validateRsp ⟨2, "ann", 3⟩ (acceptedRsp "ann" 7 3) true 0),
    .reply ⟨1, 7, 3⟩ (msgListRsp 7 3)]

theorem reached_reuse :
    Reached sampleConfig 1 (Lib.run step (start sampleConfig 1) reuseEvents) := by
  have faithful := Peers.allUp_faithful
  exact Lib.reach_run reuseEvents ⟨trivial, trivial, ⟨by decide, by decide⟩,
    ⟨by decide, faithful⟩, trivial, ⟨by decide, faithful⟩,
    by change 1 ∈ Registry.accepted _; decide, ⟨by decide, by decide⟩, ⟨by decide, faithful⟩,
    trivial, ⟨by decide, rfl, rfl⟩, trivial⟩

/-- The one reply of that run. -/
theorem reuse_answered :
    (⟨1, 7, 3⟩, 2, ⟨cidMsgListResponse, 5, 7, .rsp (.plain [])⟩) ∈
      (Lib.run step (start sampleConfig 1) reuseEvents).answered := by
  have answered : (Lib.run step (start sampleConfig 1) reuseEvents).answered =
      [(⟨1, 7, 3⟩, 2, ⟨cidMsgListResponse, 5, 7, .rsp (.plain [])⟩)] := by decide
  rw [answered]
  exact List.mem_singleton_self _

theorem replies_reach_handle_reuse :
    ReachesHandle (Lib.run step (start sampleConfig 1) reuseEvents).server.reg ⟨1, 7, 3⟩ 2 :=
  (replies_reach_handle reached_reuse).1 _ reuse_answered

/-- The reply reaches connection 2, which did not ask for it. -/
theorem reply_reaches_other_connection :
    ¬∀ current, Reached sampleConfig 1 current →
      ∀ entry ∈ current.answered, entry.2.1 = entry.1.conn := by
  intro reaches
  exact absurd (reaches _ reached_reuse _ reuse_answered) (by decide)

end ReplyRun

end AChat.MsgServer
