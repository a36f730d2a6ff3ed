import Mathlib.Data.List.Basic

/-!
Owns the PDUs that the message server exchanges with its clients, the DB
servers, the route servers and the login servers, and the constants of the IM
protocol that its handlers read.

A body is a message as the handler of its command parses it. `Body.malformed`
stands for every byte string that this parser rejects. Fields that no handler
reads or writes travel together as `Content`.
-/

namespace AChat.MsgServer

abbrev UserId := Nat
abbrev Handle := Nat
abbrev Content := List UInt8

/-! ### Constants -/

def sidLogin : Nat := 1
def sidBuddyList : Nat := 2
def sidMsg : Nat := 3
def sidGroup : Nat := 4
def sidOther : Nat := 7

def cidLoginReqUserlogin : Nat := 259
def cidLoginResUserlogin : Nat := 260
def cidLoginReqLoginout : Nat := 261
def cidLoginResLoginout : Nat := 262
def cidLoginKickUser : Nat := 263
def cidLoginReqDevicetoken : Nat := 264
def cidLoginResDevicetoken : Nat := 265
def cidLoginReqKickpcclient : Nat := 266
def cidLoginResKickpcclient : Nat := 267
def cidLoginReqPushShield : Nat := 268
def cidLoginReqQueryPushShield : Nat := 270
def cidBuddyListRecentContactSessionRequest : Nat := 513
def cidBuddyListUserInfoRequest : Nat := 516
def cidBuddyListRemoveSessionReq : Nat := 518
def cidBuddyListAllUserRequest : Nat := 520
def cidBuddyListUsersStatusRequest : Nat := 522
def cidBuddyListChangeAvatarRequest : Nat := 524
def cidBuddyListRemoveSessionNotify : Nat := 527
def cidBuddyListDepartmentRequest : Nat := 528
def cidBuddyListChangeSignInfoRequest : Nat := 531
def cidMsgData : Nat := 769
def cidMsgDataAck : Nat := 770
def cidMsgReadAck : Nat := 771
def cidMsgReadNotify : Nat := 772
def cidMsgTimeRequest : Nat := 773
def cidMsgTimeResponse : Nat := 774
def cidMsgUnreadCntRequest : Nat := 775
def cidMsgListRequest : Nat := 777
def cidMsgGetLatestMsgIdReq : Nat := 779
def cidMsgGetByMsgIdReq : Nat := 781
def cidGroupNormalListRequest : Nat := 1025
def cidGroupNormalListResponse : Nat := 1026
def cidGroupInfoRequest : Nat := 1027
def cidGroupInfoResponse : Nat := 1028
def cidGroupCreateRequest : Nat := 1029
def cidGroupCreateResponse : Nat := 1030
def cidGroupChangeMemberRequest : Nat := 1031
def cidGroupChangeMemberResponse : Nat := 1032
def cidGroupShieldGroupRequest : Nat := 1033
def cidGroupShieldGroupResponse : Nat := 1034
def cidFileRequest : Nat := 1286
def cidFileHasOfflineReq : Nat := 1289
def cidFileAddOfflineReq : Nat := 1291
def cidFileDelOfflineReq : Nat := 1292
def cidSwitchP2pCmd : Nat := 1537
def cidOtherHeartbeat : Nat := 1793
def cidOtherValidateReq : Nat := 1795
def cidOtherMsgServInfo : Nat := 1801
def cidOtherUserStatusUpdate : Nat := 1802
def cidOtherUserCntUpdate : Nat := 1803
def cidOtherServerKickUser : Nat := 1805

def refuseReasonNone : Nat := 0
def refuseReasonNoDbServer : Nat := 3
def refuseReasonNoLoginServer : Nat := 4
def refuseReasonNoRouteServer : Nat := 5
def refuseReasonDbValidateFailed : Nat := 6

def kickReasonDuplicateUser : Nat := 1
def kickReasonMobileKick : Nat := 2

def userStatusOnline : Nat := 1
def userStatusOffline : Nat := 2
def userStatusLeave : Nat := 3

def userCntInc : Nat := 1
def userCntDec : Nat := 2

def sessionTypeSingle : Nat := 1
def msgTypeSingleText : Nat := 1
def msgTypeSingleAudio : Nat := 2
def groupTypeNormal : Nat := 1

def errorCodeWrongServiceId : Nat := 2

/-- `CLIENT_TYPE_MAC`. -/
def clientTypeMac : BitVec 32 := 2

/-- `CHECK_CLIENT_TYPE_MOBILE`. -/
def checkClientTypeMobile (clientType : BitVec 32) : Bool :=
  clientType &&& 0x10 == 0x10

/-- `CHECK_MSG_TYPE_SINGLE`. -/
def checkMsgTypeSingle (msgType : Nat) : Bool :=
  msgType == msgTypeSingleText || msgType == msgTypeSingleAudio

/-- Two client types of one class: `((a ^ b) >> 4) == 0`. -/
def sameClientClass (left right : BitVec 32) : Bool :=
  (left ^^^ right) >>> 4 == 0

/-! ### Messages -/

/-- `IM.BaseDefine.UserInfo`. -/
structure UserInfo where
  userId : UserId
  userNickName : String
  profile : Content
deriving DecidableEq, Repr

/-- What the message server tells a login server about itself, besides its load. -/
structure MsgServConfig where
  ip1 : String
  ip2 : String
  port : Nat
  maxConnCnt : Nat
  hostName : String
deriving DecidableEq, Repr

/-- The messages of the protocol. `attach` is the handle in the attach data. -/
inductive Body where
  | malformed
  | heartBeat
  | loginReq (userName password : String) (onlineStatus : Nat) (clientType : BitVec 32)
  | loginRes (serverTime resultCode : Nat) (resultString : String) (onlineStatus : Option Nat)
      (userInfo : Option UserInfo)
  | validateReq (userName password : String) (attach : Handle)
  | logoutReq
  | logoutRsp (resultCode : Nat)
  | deviceTokenReq (userId : UserId) (deviceToken : String) (clientType : Option (BitVec 32))
  | deviceTokenRsp
  | kickUser (userId : UserId) (kickReason : Nat)
  | kickPCClientReq
  | kickPCClientRsp (userId : UserId) (resultCode : Nat)
  | serverKickUser (userId : UserId) (clientType : BitVec 32) (reason : Nat)
  | userReq (userId : UserId) (attach : Option Handle) (content : Content)
  | msgData (fromUserId toSessionId msgId msgType : Nat) (msgData : Content)
      (createTime : Nat) (attach : Option Handle)
  | msgDataAck (msgId sessionId sessionType : Nat)
  | clientTimeReq
  | clientTimeRsp (serverTime : Nat)
  | msgDataReadAck (userId : UserId) (sessionId msgId sessionType : Nat)
  | msgDataReadNotify (userId : UserId) (sessionId msgId sessionType : Nat)
  | removeSessionReq (userId : UserId) (sessionId sessionType : Nat) (attach : Option Handle)
  | removeSessionNotify (userId : UserId) (sessionId sessionType : Nat)
  | p2pCmdMsg (fromUserId toUserId : UserId) (cmdMsgData : Content)
  | groupCreateReq (userId : UserId) (groupName : String) (groupType : Nat)
      (attach : Option Handle) (content : Content)
  | groupCreateRsp (userId : UserId) (resultCode : Nat) (groupName : String)
  | groupChangeMemberReq (userId : UserId) (groupId changeType : Nat)
      (attach : Option Handle) (content : Content)
  | groupChangeMemberRsp (userId : UserId) (changeType resultCode groupId : Nat)
  | normalGroupListRsp
  | groupInfoListRsp (userId : UserId)
  | groupShieldRsp (userId : UserId) (resultCode : Nat)
  | fileMsg (userId : UserId) (content : Content)
  | userCntUpdate (userAction : Nat) (userId : UserId)
  | userStatusUpdate (userStatus : Nat) (userId : UserId) (clientType : BitVec 32)
  | msgServInfo (config : MsgServConfig) (curConnCnt : Nat)
deriving DecidableEq, Repr

/-- `ImPdu`: the header fields the handlers use, and the body. -/
structure Pdu where
  serviceId : Nat
  commandId : Nat
  seqNum : Nat
  body : Body
deriving DecidableEq, Repr

/-- The user on whose behalf the DB server carries a request out. A validate
request is made on nobody's behalf. -/
def Body.requester : Body → Option UserId
  | .deviceTokenReq userId _ _ => some userId
  | .userReq userId _ _ => some userId
  | .msgData fromUserId _ _ _ _ _ _ => some fromUserId
  | .msgDataReadAck userId _ _ _ => some userId
  | .removeSessionReq userId _ _ _ => some userId
  | .groupCreateReq userId _ _ _ _ => some userId
  | .groupChangeMemberReq userId _ _ _ _ => some userId
  | .fileMsg userId _ => some userId
  | _ => none

/-- `PduException`. -/
structure PduException where
  serviceId : Nat
  commandId : Nat
  errorCode : Nat
  errorMsg : String
deriving DecidableEq, Repr

end AChat.MsgServer
