import AChat.MsgServer.Operations

/-!
Owns the handlers of client PDUs, `MsgConn::HandlePdu` that chooses between
them, and `MsgConn::OnTimer`.

What a handler asks of the rest of the server is in `Peers`: whether a DB or
route connection was found, the clock, and the file handler, whose code is not
part of the repository. A body that the handler's message type rejects ends the
handler, as `CHECK_PB_PARSE_MSG` does.
-/

namespace AChat.MsgServer

/-- What the rest of the server answers while one PDU is handled. -/
structure Peers where
  dbServ : Bool
  dbServForLogin : Bool
  loginServerAvailable : Bool
  routeServerAvailable : Bool
  routeServ : Bool
  now : Nat
  fileHandler : Registry → ConnPtr → Pdu → List Out

def maxMsgCntPerSecond : Nat := 20
def clientTimeout : Nat := 120000
def mobileClientTimeout : Nat := 60000 * 5
def timeoutWaitLoginResponse : Nat := 15000
def timeoutWaitingMsgDataAck : Nat := 15000

namespace Registry

variable (reg : Registry) (peers : Peers) (conn : ConnPtr) (pdu : Pdu)

/-- The attach data of a request: the handle of the connection. -/
def attachData : Option Handle :=
  some (reg.conns conn).handle

/-- `BroadcastPdu` to the connections of the user registered under an id. -/
def broadcastPdu (userId : UserId) (fromConn : Option ConnPtr) (out : Pdu) : List Out :=
  match reg.getImUserById userId with
  | none => []
  | some user => ((reg.users user).broadcastTargets fromConn).map fun target => .client target out

/-! ### Login and logout -/

def refuseReason : Option Nat :=
  if peers.dbServForLogin = false then some refuseReasonNoDbServer
  else if peers.loginServerAvailable = false then some refuseReasonNoLoginServer
  else if peers.routeServerAvailable = false then some refuseReasonNoRouteServer
  else none

/-- The fields that a login request sets. -/
def nameConn (userName : String) (clientType : BitVec 32) (onlineStatus : Nat) : Registry :=
  reg.modifyConn conn fun value =>
    { value with
      loginName := userName
      clientType := clientType
      onlineStatus := onlineStatus }

/-- The user under the login name, created when there is none, with the
connection among those that wait. -/
def enqueueLogin (loginName : String) : Registry :=
  match reg.getImUserByLoginName loginName with
  | some user => reg.modifyUser user fun value => value.addUnValidateMsgConn conn
  | none =>
      let created := reg.newImUser loginName
      (created.2.addImUserByLoginName loginName created.1).modifyUser created.1
        fun value => value.addUnValidateMsgConn conn

/-- The login name and the client type of a login request that is passed on to a DB server. -/
def startedLogin : Option (String × BitVec 32) :=
  if pdu.commandId = cidLoginReqUserlogin ∧ (reg.conns conn).loginName = "" ∧
      refuseReason peers = none then
    match pdu.body with
    | .loginReq userName _ _ clientType => some (userName, clientType)
    | _ => none
  else none

def handleLoginRequest : Registry × List Out :=
  if (reg.conns conn).loginName ≠ "" then (reg, [])
  else
    match refuseReason peers with
    | some result =>
        let closed := reg.close conn
        (closed.1,
          Out.client conn ⟨sidLogin, cidLoginResUserlogin, pdu.seqNum,
            .loginRes peers.now result "服务端异常" none none⟩ :: closed.2)
    | none =>
        match pdu.body with
        | .loginReq userName password onlineStatus clientType =>
            let status :=
              if onlineStatus < userStatusOnline ∨ userStatusLeave < onlineStatus then
                userStatusOnline
              else onlineStatus
            ((reg.nameConn conn userName clientType status).enqueueLogin conn userName,
              [.db ⟨sidOther, cidOtherValidateReq, pdu.seqNum,
                .validateReq userName password (reg.conns conn).handle⟩])
        | _ => (reg, [])

def handleLoginOutRequest : Registry × List Out :=
  let closed := reg.close conn
  (closed.1,
    sendTo peers.dbServ (.db ⟨sidLogin, cidLoginReqDevicetoken, pdu.seqNum,
      .deviceTokenReq (reg.conns conn).userId "" none⟩) ++
    [.client conn ⟨sidLogin, cidLoginResLoginout, pdu.seqNum, .logoutRsp 0⟩] ++ closed.2)

def handleKickPCClient : Registry × List Out :=
  match pdu.body with
  | .kickPCClientReq =>
      if checkClientTypeMobile (reg.conns conn).clientType = false then (reg, [])
      else
        let userId := (reg.conns conn).userId
        let kicked :=
          match reg.getImUserById userId with
          | none => (reg, [])
          | some user =>
              reg.kickOutSameClientType user clientTypeMac kickReasonMobileKick (some conn)
        (kicked.1,
          kicked.2 ++
          sendTo peers.routeServ (.route ⟨sidOther, cidOtherServerKickUser, 0,
            .serverKickUser userId clientTypeMac kickReasonMobileKick⟩) ++
          [.client conn ⟨sidLogin, cidLoginResKickpcclient, pdu.seqNum,
            .kickPCClientRsp userId 0⟩])
  | _ => (reg, [])

/-! ### Requests forwarded to a DB server -/

/-- A request forwarded with the user id and, where the handler sets it, the
handle of the connection. -/
def forwardToDb (available : Bool) (setsAttach : Bool) : List Out :=
  match pdu.body with
  | .userReq _ attach content =>
      sendTo available (.db { pdu with
        body := .userReq (reg.conns conn).userId
          (if setsAttach then reg.attachData conn else attach) content })
  | _ => []

def handleClientRecentContactSessionRequest : List Out :=
  reg.forwardToDb conn pdu peers.dbServForLogin true

def handleClientGetMsgListRequest : List Out :=
  reg.forwardToDb conn pdu peers.dbServForLogin true

def handleClientGetMsgByMsgIdRequest : List Out :=
  reg.forwardToDb conn pdu peers.dbServForLogin true

def handleClientUnreadMsgCntRequest : List Out :=
  reg.forwardToDb conn pdu peers.dbServForLogin true

def handleClientUserInfoRequest : List Out :=
  reg.forwardToDb conn pdu peers.dbServForLogin true

def handleClientGetLatestMsgIDReq : List Out :=
  reg.forwardToDb conn pdu peers.dbServ true

def handleClientAllUserRequest : List Out :=
  reg.forwardToDb conn pdu peers.dbServ true

def handleClientDepartmentRequest : List Out :=
  reg.forwardToDb conn pdu peers.dbServ true

def handleChangeSignInfoRequest : List Out :=
  reg.forwardToDb conn pdu peers.dbServ true

def handlePushShieldRequest : List Out :=
  reg.forwardToDb conn pdu peers.dbServ true

def handleQueryPushShieldRequest : List Out :=
  reg.forwardToDb conn pdu peers.dbServ true

/-- The only forwarded request whose attach data stay as the client sent them. -/
def handleChangeAvatarRequest : List Out :=
  reg.forwardToDb conn pdu peers.dbServ false

def handleClientDeviceToken : List Out :=
  if checkClientTypeMobile (reg.conns conn).clientType = false then []
  else
    match pdu.body with
    | .deviceTokenReq _ deviceToken _ =>
        .client conn ⟨sidLogin, cidLoginResDevicetoken, pdu.seqNum, .deviceTokenRsp⟩ ::
        sendTo peers.dbServ (.db { pdu with
          body := .deviceTokenReq (reg.conns conn).userId deviceToken
            (some (reg.conns conn).clientType) })
    | _ => []

def handleClientRemoveSessionRequest : List Out :=
  match pdu.body with
  | .removeSessionReq _ sessionId sessionType _ =>
      let userId := (reg.conns conn).userId
      let notify : Pdu := ⟨sidBuddyList, cidBuddyListRemoveSessionNotify, 0,
        .removeSessionNotify userId sessionId sessionType⟩
      sendTo peers.dbServ (.db { pdu with
        body := .removeSessionReq userId sessionId sessionType (reg.attachData conn) }) ++
      if sessionType = sessionTypeSingle then
        reg.broadcastPdu userId (some conn) notify ++ sendTo peers.routeServ (.route notify)
      else []
  | _ => []

/-! ### Messages -/

def handleClientMsgData : Registry × List Out :=
  match pdu.body with
  | .msgData fromUserId toSessionId msgId msgType msgData _ _ =>
      if msgData.length = 0 then (reg, [])
      else if (reg.conns conn).msgCntPerSec ≥ maxMsgCntPerSecond then (reg, [])
      else if fromUserId = toSessionId ∧ checkMsgTypeSingle msgType = true then (reg, [])
      else
        (reg.modifyConn conn fun value => { value with msgCntPerSec := value.msgCntPerSec + 1 },
          sendTo peers.dbServ (.db { pdu with
            body := .msgData (reg.conns conn).userId toSessionId msgId msgType msgData peers.now
              (reg.attachData conn) }))
  | _ => (reg, [])

/-- `DelFromSendList`: the first entry with this message and sender. -/
def delFromSendList (msgId fromId : Nat) : Registry :=
  reg.modifyConn conn fun value =>
    { value with
      sendMsgList := value.sendMsgList.eraseP fun ack =>
        ack.msgId == msgId && ack.fromId == fromId }

def handleClientMsgDataAck : Registry :=
  match pdu.body with
  | .msgDataAck msgId sessionId sessionType =>
      if sessionType = sessionTypeSingle then reg.delFromSendList conn msgId sessionId else reg
  | _ => reg

def handleClientTimeRequest : List Out :=
  [.client conn ⟨sidMsg, cidMsgTimeResponse, pdu.seqNum, .clientTimeRsp peers.now⟩]

def handleClientMsgReadAck : Registry × List Out :=
  match pdu.body with
  | .msgDataReadAck _ sessionId msgId sessionType =>
      let userId := (reg.conns conn).userId
      let notify : Pdu := ⟨sidMsg, cidMsgReadNotify, 0,
        .msgDataReadNotify userId sessionId msgId sessionType⟩
      (if sessionType = sessionTypeSingle then reg.delFromSendList conn msgId sessionId else reg,
        sendTo peers.dbServ (.db { pdu with
          body := .msgDataReadAck userId sessionId msgId sessionType }) ++
        reg.broadcastPdu userId (some conn) notify ++ sendTo peers.routeServ (.route notify))
  | _ => (reg, [])

def handleClientP2PCmdMsg : List Out :=
  match pdu.body with
  | .p2pCmdMsg _ toUserId _ =>
      reg.broadcastPdu (reg.conns conn).userId (some conn) pdu ++
      reg.broadcastPdu toUserId none pdu ++ sendTo peers.routeServ (.route pdu)
  | _ => []

def handleClientUsersStatusRequest : List Out :=
  match pdu.body with
  | .userReq _ _ content =>
      sendTo peers.routeServ (.route { pdu with
        body := .userReq (reg.conns conn).userId (reg.attachData conn) content })
  | _ => []

/-! ### Groups -/

/-- A group request goes to a DB server; without one the client gets a reply. -/
def forwardOrReply (request reply : Body) (replyCommand : Nat) : List Out :=
  if peers.dbServ then [.db { pdu with body := request }]
  else [.client conn ⟨sidGroup, replyCommand, pdu.seqNum, reply⟩]

def handleClientGroupNormalRequest : List Out :=
  match pdu.body with
  | .userReq _ _ content =>
      forwardOrReply peers conn pdu
        (.userReq (reg.conns conn).userId (reg.attachData conn) content)
        .normalGroupListRsp cidGroupNormalListResponse
  | _ => []

def handleClientGroupInfoRequest : List Out :=
  match pdu.body with
  | .userReq _ _ content =>
      forwardOrReply peers conn pdu
        (.userReq (reg.conns conn).userId (reg.attachData conn) content)
        (.groupInfoListRsp (reg.conns conn).userId) cidGroupInfoResponse
  | _ => []

def handleClientGroupCreateRequest : List Out :=
  match pdu.body with
  | .groupCreateReq _ groupName groupType _ content =>
      if groupType = groupTypeNormal then []
      else
        forwardOrReply peers conn pdu
          (.groupCreateReq (reg.conns conn).userId groupName groupType (reg.attachData conn)
            content)
          (.groupCreateRsp (reg.conns conn).userId 1 groupName) cidGroupCreateResponse
  | _ => []

def handleClientGroupChangeMemberRequest : List Out :=
  match pdu.body with
  | .groupChangeMemberReq _ groupId changeType _ content =>
      forwardOrReply peers conn pdu
        (.groupChangeMemberReq (reg.conns conn).userId groupId changeType (reg.attachData conn)
          content)
        (.groupChangeMemberRsp (reg.conns conn).userId changeType 1 groupId)
        cidGroupChangeMemberResponse
  | _ => []

def handleClientGroupShieldGroupRequest : List Out :=
  match pdu.body with
  | .userReq _ _ content =>
      forwardOrReply peers conn pdu
        (.userReq (reg.conns conn).userId (reg.attachData conn) content)
        (.groupShieldRsp (reg.conns conn).userId 1) cidGroupShieldGroupResponse
  | _ => []

end Registry

/-! ### Dispatch -/

/-- The handlers between which `HandlePdu` chooses. -/
inductive Handler where
  | heartBeat | loginRequest | loginOutRequest | clientDeviceToken | kickPCClient
  | pushShieldRequest | queryPushShieldRequest | clientMsgData | clientMsgDataAck
  | clientTimeRequest | clientGetMsgListRequest | clientGetMsgByMsgIdRequest
  | clientUnreadMsgCntRequest | clientMsgReadAck | clientGetLatestMsgIDReq | clientP2PCmdMsg
  | clientRecentContactSessionRequest | clientUserInfoRequest | clientRemoveSessionRequest
  | clientAllUserRequest | changeAvatarRequest | changeSignInfoRequest
  | clientUsersStatusRequest | clientDepartmentRequest | clientGroupNormalRequest
  | clientGroupInfoRequest | clientGroupCreateRequest | clientGroupChangeMemberRequest
  | clientGroupShieldGroupRequest | clientFileRequest | clientFileHasOfflineReq
  | clientFileAddOfflineReq | clientFileDelOfflineReq
deriving DecidableEq, Repr

/-- The cases of the switch on the command id. -/
def handlerTable : List (Nat × Handler) :=
  [(cidOtherHeartbeat, .heartBeat),
    (cidLoginReqUserlogin, .loginRequest),
    (cidLoginReqLoginout, .loginOutRequest),
    (cidLoginReqDevicetoken, .clientDeviceToken),
    (cidLoginReqKickpcclient, .kickPCClient),
    (cidLoginReqPushShield, .pushShieldRequest),
    (cidLoginReqQueryPushShield, .queryPushShieldRequest),
    (cidMsgData, .clientMsgData),
    (cidMsgDataAck, .clientMsgDataAck),
    (cidMsgTimeRequest, .clientTimeRequest),
    (cidMsgListRequest, .clientGetMsgListRequest),
    (cidMsgGetByMsgIdReq, .clientGetMsgByMsgIdRequest),
    (cidMsgUnreadCntRequest, .clientUnreadMsgCntRequest),
    (cidMsgReadAck, .clientMsgReadAck),
    (cidMsgGetLatestMsgIdReq, .clientGetLatestMsgIDReq),
    (cidSwitchP2pCmd, .clientP2PCmdMsg),
    (cidBuddyListRecentContactSessionRequest, .clientRecentContactSessionRequest),
    (cidBuddyListUserInfoRequest, .clientUserInfoRequest),
    (cidBuddyListRemoveSessionReq, .clientRemoveSessionRequest),
    (cidBuddyListAllUserRequest, .clientAllUserRequest),
    (cidBuddyListChangeAvatarRequest, .changeAvatarRequest),
    (cidBuddyListChangeSignInfoRequest, .changeSignInfoRequest),
    (cidBuddyListUsersStatusRequest, .clientUsersStatusRequest),
    (cidBuddyListDepartmentRequest, .clientDepartmentRequest),
    (cidGroupNormalListRequest, .clientGroupNormalRequest),
    (cidGroupInfoRequest, .clientGroupInfoRequest),
    (cidGroupCreateRequest, .clientGroupCreateRequest),
    (cidGroupChangeMemberRequest, .clientGroupChangeMemberRequest),
    (cidGroupShieldGroupRequest, .clientGroupShieldGroupRequest),
    (cidFileRequest, .clientFileRequest),
    (cidFileHasOfflineReq, .clientFileHasOfflineReq),
    (cidFileAddOfflineReq, .clientFileAddOfflineReq),
    (cidFileDelOfflineReq, .clientFileDelOfflineReq)]

def dispatch (commandId : Nat) : Option Handler :=
  handlerTable.lookup commandId

namespace Registry

variable (reg : Registry) (peers : Peers) (conn : ConnPtr) (pdu : Pdu)

def runHandler : Handler → Registry × List Out
  | .heartBeat => (reg, [.client conn pdu])
  | .loginRequest => reg.handleLoginRequest peers conn pdu
  | .loginOutRequest => reg.handleLoginOutRequest peers conn pdu
  | .clientDeviceToken => (reg, reg.handleClientDeviceToken peers conn pdu)
  | .kickPCClient => reg.handleKickPCClient peers conn pdu
  | .pushShieldRequest => (reg, reg.handlePushShieldRequest peers conn pdu)
  | .queryPushShieldRequest => (reg, reg.handleQueryPushShieldRequest peers conn pdu)
  | .clientMsgData => reg.handleClientMsgData peers conn pdu
  | .clientMsgDataAck => (reg.handleClientMsgDataAck conn pdu, [])
  | .clientTimeRequest => (reg, handleClientTimeRequest peers conn pdu)
  | .clientGetMsgListRequest => (reg, reg.handleClientGetMsgListRequest peers conn pdu)
  | .clientGetMsgByMsgIdRequest => (reg, reg.handleClientGetMsgByMsgIdRequest peers conn pdu)
  | .clientUnreadMsgCntRequest => (reg, reg.handleClientUnreadMsgCntRequest peers conn pdu)
  | .clientMsgReadAck => reg.handleClientMsgReadAck peers conn pdu
  | .clientGetLatestMsgIDReq => (reg, reg.handleClientGetLatestMsgIDReq peers conn pdu)
  | .clientP2PCmdMsg => (reg, reg.handleClientP2PCmdMsg peers conn pdu)
  | .clientRecentContactSessionRequest =>
      (reg, reg.handleClientRecentContactSessionRequest peers conn pdu)
  | .clientUserInfoRequest => (reg, reg.handleClientUserInfoRequest peers conn pdu)
  | .clientRemoveSessionRequest => (reg, reg.handleClientRemoveSessionRequest peers conn pdu)
  | .clientAllUserRequest => (reg, reg.handleClientAllUserRequest peers conn pdu)
  | .changeAvatarRequest => (reg, reg.handleChangeAvatarRequest peers conn pdu)
  | .changeSignInfoRequest => (reg, reg.handleChangeSignInfoRequest peers conn pdu)
  | .clientUsersStatusRequest => (reg, reg.handleClientUsersStatusRequest peers conn pdu)
  | .clientDepartmentRequest => (reg, reg.handleClientDepartmentRequest peers conn pdu)
  | .clientGroupNormalRequest => (reg, reg.handleClientGroupNormalRequest peers conn pdu)
  | .clientGroupInfoRequest => (reg, reg.handleClientGroupInfoRequest peers conn pdu)
  | .clientGroupCreateRequest => (reg, reg.handleClientGroupCreateRequest peers conn pdu)
  | .clientGroupChangeMemberRequest =>
      (reg, reg.handleClientGroupChangeMemberRequest peers conn pdu)
  | .clientGroupShieldGroupRequest =>
      (reg, reg.handleClientGroupShieldGroupRequest peers conn pdu)
  | .clientFileRequest => (reg, peers.fileHandler reg conn pdu)
  | .clientFileHasOfflineReq => (reg, peers.fileHandler reg conn pdu)
  | .clientFileAddOfflineReq => (reg, peers.fileHandler reg conn pdu)
  | .clientFileDelOfflineReq => (reg, peers.fileHandler reg conn pdu)

/-- The authorization check of `HandlePdu`. -/
def Unauthorized : Prop :=
  pdu.commandId ≠ cidLoginReqUserlogin ∧ (reg.conns conn).isOpen = false ∧
    (reg.conns conn).isKickOff = true

instance : Decidable (reg.Unauthorized conn pdu) := by
  unfold Unauthorized
  infer_instance

/-- `MsgConn::HandlePdu`. A command without a handler is only logged. -/
def handlePdu : Except PduException (Registry × List Out) :=
  if reg.Unauthorized conn pdu then
    .error ⟨pdu.serviceId, pdu.commandId, errorCodeWrongServiceId,
      "HandlePdu error, user not login. "⟩
  else
    match dispatch pdu.commandId with
    | none => .ok (reg, [])
    | some handler => .ok (reg.runHandler peers conn pdu handler)

/-- `ImConn::onRead` for one PDU: an exception closes the connection. -/
def onRead : Registry × List Out :=
  match reg.handlePdu peers conn pdu with
  | .error _ => reg.close conn
  | .ok result => result

/-- The user on whose behalf a PDU makes requests to the DB servers. A login
makes none but the validate request. -/
def requestSender : Option UserId :=
  if pdu.commandId = cidLoginReqUserlogin then none else some (reg.conns conn).userId

/-- `Close` is called on the connection while the PDU is handled. -/
def ClosesOnRead : Prop :=
  reg.Unauthorized conn pdu ∨ pdu.commandId = cidLoginReqLoginout ∨
    pdu.commandId = cidLoginReqUserlogin ∧ (reg.conns conn).loginName = "" ∧
      refuseReason peers ≠ none

instance : Decidable (reg.ClosesOnRead peers conn pdu) := by
  unfold ClosesOnRead
  infer_instance

/-! ### Timer -/

def resetMsgCnt : Registry :=
  reg.modifyConn conn fun value => { value with msgCntPerSec := 0 }

/-- Nothing was received for too long, or no login came through in time. -/
def timedOut (currTick : Nat) : Prop :=
  (reg.conns conn).lastRecvTick +
      (if checkClientTypeMobile (reg.conns conn).clientType then mobileClientTimeout
        else clientTimeout) < currTick ∨
    (reg.conns conn).isOpen = false ∧
      (reg.conns conn).loginTime + timeoutWaitLoginResponse < currTick

instance (currTick : Nat) : Decidable (reg.timedOut conn currTick) := by
  unfold timedOut
  infer_instance

/-- The acknowledgements that `OnTimer` gives up: the oldest ones, up to the
first that is not overdue. -/
def overdue (currTick : Nat) : List MsgAck :=
  (reg.conns conn).sendMsgList.takeWhile fun ack =>
    ack.timestamp + timeoutWaitingMsgDataAck ≤ currTick

def dropOverdue (currTick : Nat) : Registry :=
  { reg.modifyConn conn fun value =>
      { value with sendMsgList := value.sendMsgList.drop (reg.overdue conn currTick).length } with
    downMsgMissCnt := reg.downMsgMissCnt + (reg.overdue conn currTick).length }

/-- `MsgConn::OnTimer`. -/
def onTimer (currTick : Nat) : Registry × List Out :=
  if (reg.resetMsgCnt conn).timedOut conn currTick then (reg.resetMsgCnt conn).close conn
  else ((reg.resetMsgCnt conn).dropOverdue conn currTick, [])

end Registry

end AChat.MsgServer
