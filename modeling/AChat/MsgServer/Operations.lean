import AChat.MsgServer.ImUser

/-!
Owns the operations that change the registry: closing a connection, kicking the
connections of a client class, and the response of a DB server to a validate
request. Each returns the registry it leaves and what it sent, in the order of
the sends.

Does not own the handlers of client PDUs, which call these operations.
-/

namespace AChat.MsgServer

/-- A PDU sent to one client connection, to the chosen DB server, to the chosen
route server, to all route servers, or to all login servers. -/
inductive Out where
  | client (conn : ConnPtr) (pdu : Pdu)
  | db (pdu : Pdu)
  | route (pdu : Pdu)
  | allRoute (pdu : Pdu)
  | allLogin (pdu : Pdu)
deriving DecidableEq, Repr

/-- `IMValidateRsp`, with the sequence number of its PDU. -/
structure ValidateRsp where
  userName : String
  resultCode : Nat
  resultString : String
  userInfo : UserInfo
  attach : Handle
  seqNum : Nat
deriving DecidableEq, Repr

namespace Registry

/-- A send that is left out when no connection to the peer was found. -/
def sendTo (available : Bool) (out : Out) : List Out :=
  if available then [out] else []

/-! ### Status updates -/

/-- The two updates of `SendUserStatusUpdate`: a count for the login servers, a
status for the route servers. -/
def statusUpdate (userAction userStatus : Nat) (userId : UserId) (clientType : BitVec 32) :
    List Out :=
  [.allLogin ⟨sidOther, cidOtherUserCntUpdate, 0, .userCntUpdate userAction userId⟩,
    .allRoute ⟨sidOther, cidOtherUserStatusUpdate, 0,
      .userStatusUpdate userStatus userId clientType⟩]

def sendUserStatusUpdate (reg : Registry) (conn : ConnPtr) (userStatus : Nat) : List Out :=
  if (reg.conns conn).isOpen = false then []
  else
    match reg.getImUserById (reg.conns conn).userId with
    | none => []
    | some user =>
        if userStatus = userStatusOnline then
          statusUpdate userCntInc userStatusOnline (reg.users user).userId
            (reg.conns conn).clientType
        else if userStatus = userStatusOffline then
          statusUpdate userCntDec userStatusOffline (reg.users user).userId
            (reg.conns conn).clientType
        else []

/-! ### Close -/

/-- `RemoveImUser` of a user without connections. Connections that wait for
their validate response do not count. -/
def removeIfEmpty (reg : Registry) (user : UserPtr) : Registry :=
  if (reg.users user).isMsgConnEmpty then reg.removeImUser user else reg

/-- `forceClose` of the connection. -/
def markClosed (reg : Registry) (conn : ConnPtr) : Registry :=
  reg.modifyConn conn fun value => { value with closed := true }

/-- The part of `Close` on the user found under the user id of the connection. -/
def closeById (reg : Registry) (conn : ConnPtr) : Registry × List Out :=
  match reg.getImUserById (reg.conns conn).userId with
  | none => (reg, [])
  | some user =>
      let left := reg.modifyUser user fun value =>
        (value.delMsgConn (reg.conns conn).handle).delUnValidateMsgConn conn
      (left.removeIfEmpty user, left.sendUserStatusUpdate conn userStatusOffline)

/-- The part of `Close` on the user found under the login name of the connection. -/
def closeByLoginName (reg : Registry) (conn : ConnPtr) : Registry :=
  match reg.getImUserByLoginName (reg.conns conn).loginName with
  | none => reg
  | some user =>
      (reg.modifyUser user fun value => value.delUnValidateMsgConn conn).removeIfEmpty user

/-- `MsgConn::Close`. -/
def close (reg : Registry) (conn : ConnPtr) : Registry × List Out :=
  let byId := (reg.markClosed conn).closeById conn
  (byId.1.closeByLoginName conn, byId.2)

/-! ### Kick -/

/-- `ImUser::HandleKickUser`: the connection is told and flagged, and stays in the map. -/
def handleKickUser (reg : Registry) (user : UserPtr) (conn : ConnPtr) (reason : Nat) :
    Registry × List Out :=
  match (reg.users user).getMsgConn (reg.conns conn).handle with
  | none => (reg, [])
  | some kicked =>
      (reg.modifyConn kicked fun value => { value with isKickOff := true },
        [.client kicked ⟨sidLogin, cidLoginKickUser, 0,
          .kickUser (reg.users user).userId reason⟩])

/-- The connection that `KickOutSameClientType` stops at. -/
def firstOfClass (reg : Registry) (user : UserPtr) (clientType : BitVec 32)
    (fromConn : Option ConnPtr) : Option ConnPtr :=
  ((reg.users user).connMap.toList.map Prod.snd).find? fun conn =>
    sameClientClass (reg.conns conn).clientType clientType && some conn != fromConn

/-- `ImUser::KickOutSameClientType`. -/
def kickOutSameClientType (reg : Registry) (user : UserPtr) (clientType : BitVec 32)
    (reason : Nat) (fromConn : Option ConnPtr) : Registry × List Out :=
  match reg.firstOfClass user clientType fromConn with
  | none => (reg, [])
  | some conn => reg.handleKickUser user conn reason

/-! ### Validate response -/

/-- A waiting connection goes from one user to another. -/
def moveWaiting (reg : Registry) (imUser user : UserPtr) (conn : ConnPtr) : Registry :=
  (reg.modifyUser user fun value => value.addUnValidateMsgConn conn).modifyUser imUser
    fun value => value.delUnValidateMsgConn conn

/-- The user that takes the connection over: the one registered under the
answered id, else the one registered under the login name. In the first case
the latter loses the connection, and is deleted when it has no other. -/
def mergeUser (reg : Registry) (imUser : UserPtr) (conn : ConnPtr) (loginName : String)
    (userId : UserId) : UserPtr × Registry :=
  match reg.getImUserById userId with
  | none => (imUser, reg)
  | some user =>
      let moved := reg.moveWaiting imUser user conn
      (user,
        if (moved.users imUser).isMsgConnEmpty then
          (moved.removeImUserByLoginName loginName).deleteImUser imUser
        else moved)

/-- `SetUserId`, `SetNickName`, `SetValidated` and `AddImUserById`. -/
def identifyUser (reg : Registry) (user : UserPtr) (userInfo : UserInfo) : Registry :=
  (reg.modifyUser user fun value =>
    { value with
      userId := userInfo.userId
      nickName := userInfo.userNickName
      validate := true }).addImUserById userInfo.userId user

/-- `SetUserId` and `SetOpen` of the connection. -/
def openConn (reg : Registry) (conn : ConnPtr) (userId : UserId) : Registry :=
  reg.modifyConn conn fun value => { value with userId := userId, isOpen := true }

/-- The branch of `_HandleValidateResponse` for an accepted password. -/
def acceptLogin (reg : Registry) (imUser : UserPtr) (conn : ConnPtr) (rsp : ValidateRsp)
    (routeServ : Bool) (now : Nat) : Registry × List Out :=
  let merged := reg.mergeUser imUser conn rsp.userName rsp.userInfo.userId
  let user := merged.1
  let identified := merged.2.identifyUser user rsp.userInfo
  let clientType := (identified.conns conn).clientType
  let kicked := identified.kickOutSameClientType user clientType kickReasonDuplicateUser
    (some conn)
  let routed := sendTo routeServ (.route ⟨sidOther, cidOtherServerKickUser, 0,
    .serverKickUser rsp.userInfo.userId clientType 1⟩)
  let opened := kicked.1.openConn conn rsp.userInfo.userId
  let status := opened.sendUserStatusUpdate conn userStatusOnline
  let validated := opened.modifyUser user fun value =>
    value.validateMsgConn (opened.conns conn).handle conn
  let reply := Out.client conn ⟨sidLogin, cidLoginResUserlogin, rsp.seqNum,
    .loginRes now refuseReasonNone rsp.resultString (some (opened.conns conn).onlineStatus)
      (some rsp.userInfo)⟩
  (validated, kicked.2 ++ routed ++ status ++ [reply])

/-- The branch of `_HandleValidateResponse` for a refused login. -/
def refuseLogin (reg : Registry) (conn : ConnPtr) (rsp : ValidateRsp) (now : Nat) :
    Registry × List Out :=
  let closed := reg.close conn
  (closed.1,
    Out.client conn ⟨sidLogin, cidLoginResUserlogin, rsp.seqNum,
      .loginRes now refuseReasonDbValidateFailed rsp.resultString none none⟩ :: closed.2)

/-- The user and the waiting connection that a validate response is for. -/
def awaited (reg : Registry) (userName : String) (handle : Handle) :
    Option (UserPtr × ConnPtr) :=
  match reg.getImUserByLoginName userName with
  | none => none
  | some imUser =>
      match (reg.users imUser).getUnValidateMsgConn reg.conns handle with
      | none => none
      | some conn => if (reg.conns conn).isOpen then none else some (imUser, conn)

/-- `DBServConn::_HandleValidateResponse`. -/
def handleValidateResponse (reg : Registry) (rsp : ValidateRsp) (routeServ : Bool) (now : Nat) :
    Registry × List Out :=
  match reg.awaited rsp.userName rsp.attach with
  | none => (reg, [])
  | some (imUser, conn) =>
      if rsp.resultCode = 0 then reg.acceptLogin imUser conn rsp routeServ now
      else reg.refuseLogin conn rsp now

end Registry

end AChat.MsgServer
