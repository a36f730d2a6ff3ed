import AChat.Lib.TreeMapSum
import AChat.MsgServer.Protocol

/-!
Owns the client connection `MsgConn`, the user `ImUser` with its connections,
and the registry `ImUserManager` with its two maps.

Objects live in heaps indexed by their addresses, so two maps may hold the same
user. A deleted user stays in the heap with `deleted` set. `std::map` and
`std::set` are ordered trees: a loop visits their keys in increasing order, and
a set of pointers is ordered by address.

The kernel gives every connection one handle, which the source spells `handle`,
`m_handle` and `sockfd`.
-/

namespace AChat.MsgServer

open Std

/-- Address of a `MsgConn`. -/
abbrev ConnPtr := Nat

/-- Address of an `ImUser`. -/
abbrev UserPtr := Nat

/-- `msg_ack_t`. -/
structure MsgAck where
  msgId : Nat
  fromId : Nat
  timestamp : Nat
deriving DecidableEq, Repr

/-- `MsgConn`. `closed` records that `Close` was called on the connection. -/
structure MsgConn where
  handle : Handle
  loginName : String
  userId : UserId
  isOpen : Bool
  isKickOff : Bool
  loginTime : Nat
  lastRecvTick : Nat
  sendMsgList : List MsgAck
  msgCntPerSec : Nat
  clientType : BitVec 32
  onlineStatus : Nat
  closed : Bool
deriving DecidableEq, Repr

/-- The constructor of `MsgConn` and `onConnected`. The constructor leaves the
client type unset, so its first value is arbitrary. -/
def MsgConn.onConnected (handle : Handle) (clientType : BitVec 32) (now : Nat) : MsgConn where
  handle := handle
  loginName := ""
  userId := 0
  isOpen := false
  isKickOff := false
  loginTime := now
  lastRecvTick := now
  sendMsgList := []
  msgCntPerSec := 0
  clientType := clientType
  onlineStatus := userStatusOffline
  closed := false

/-- `ImUser`. -/
structure ImUser where
  userId : UserId
  loginName : String
  nickName : String
  validate : Bool
  connMap : TreeMap Handle ConnPtr
  unvalidateConnSet : TreeSet ConnPtr
  deleted : Bool

/-- The constructor of `ImUser`. -/
def ImUser.new (userName : String) : ImUser where
  userId := 0
  loginName := userName
  nickName := ""
  validate := false
  connMap := ∅
  unvalidateConnSet := ∅
  deleted := false

/-- The heaps and the two maps of `ImUserManager`. `accepted` lists the
connections that exist, `downMsgMissCnt` counts the messages that no client
acknowledged in time. -/
structure Registry where
  conns : ConnPtr → MsgConn
  users : UserPtr → ImUser
  nextUser : UserPtr
  imUserMap : TreeMap UserId UserPtr
  imUserMapByName : TreeMap String UserPtr
  accepted : List ConnPtr
  downMsgMissCnt : Nat

namespace ImUser

def isMsgConnEmpty (user : ImUser) : Bool :=
  user.connMap.isEmpty

def addMsgConn (user : ImUser) (handle : Handle) (conn : ConnPtr) : ImUser :=
  { user with connMap := user.connMap.insert handle conn }

def delMsgConn (user : ImUser) (handle : Handle) : ImUser :=
  { user with connMap := user.connMap.erase handle }

def getMsgConn (user : ImUser) (handle : Handle) : Option ConnPtr :=
  user.connMap[handle]?

def addUnValidateMsgConn (user : ImUser) (conn : ConnPtr) : ImUser :=
  { user with unvalidateConnSet := user.unvalidateConnSet.insert conn }

def delUnValidateMsgConn (user : ImUser) (conn : ConnPtr) : ImUser :=
  { user with unvalidateConnSet := user.unvalidateConnSet.erase conn }

/-- The connection in the set whose handle is asked for, the first in the order of the set. -/
def getUnValidateMsgConn (conns : ConnPtr → MsgConn) (user : ImUser) (handle : Handle) :
    Option ConnPtr :=
  user.unvalidateConnSet.toList.find? fun conn => (conns conn).handle == handle

def validateMsgConn (user : ImUser) (handle : Handle) (conn : ConnPtr) : ImUser :=
  (user.addMsgConn handle conn).delUnValidateMsgConn conn

/-- The number of open connections in the connection map. -/
def getUserConn (conns : ConnPtr → MsgConn) (user : ImUser) : Nat :=
  Lib.mapSum (fun _ conn => if (conns conn).isOpen then 1 else 0) user.connMap

/-- The connections that `BroadcastPdu` sends to. -/
def broadcastTargets (user : ImUser) (fromConn : Option ConnPtr) : List ConnPtr :=
  user.connMap.toList.map Prod.snd |>.filter fun conn => some conn != fromConn

end ImUser

namespace Registry

def setConn (reg : Registry) (conn : ConnPtr) (value : MsgConn) : Registry :=
  { reg with conns := Function.update reg.conns conn value }

def modifyConn (reg : Registry) (conn : ConnPtr) (change : MsgConn → MsgConn) : Registry :=
  reg.setConn conn (change (reg.conns conn))

def modifyUser (reg : Registry) (user : UserPtr) (change : ImUser → ImUser) : Registry :=
  { reg with users := Function.update reg.users user (change (reg.users user)) }

def getImUserByLoginName (reg : Registry) (loginName : String) : Option UserPtr :=
  reg.imUserMapByName[loginName]?

def getImUserById (reg : Registry) (userId : UserId) : Option UserPtr :=
  reg.imUserMap[userId]?

def getMsgConnByHandle (reg : Registry) (userId : UserId) (handle : Handle) : Option ConnPtr :=
  match reg.getImUserById userId with
  | none => none
  | some user => (reg.users user).getMsgConn handle

def addImUserByLoginName (reg : Registry) (loginName : String) (user : UserPtr) : Registry :=
  match reg.getImUserByLoginName loginName with
  | none => { reg with imUserMapByName := reg.imUserMapByName.insert loginName user }
  | some _ => reg

def removeImUserByLoginName (reg : Registry) (loginName : String) : Registry :=
  { reg with imUserMapByName := reg.imUserMapByName.erase loginName }

def addImUserById (reg : Registry) (userId : UserId) (user : UserPtr) : Registry :=
  match reg.getImUserById userId with
  | none => { reg with imUserMap := reg.imUserMap.insert userId user }
  | some _ => reg

def removeImUserById (reg : Registry) (userId : UserId) : Registry :=
  { reg with imUserMap := reg.imUserMap.erase userId }

/-- `new ImUser(loginName)`: the next free address. -/
def newImUser (reg : Registry) (loginName : String) : UserPtr × Registry :=
  (reg.nextUser,
    { reg with
      users := Function.update reg.users reg.nextUser (ImUser.new loginName)
      nextUser := reg.nextUser + 1 })

/-- `delete pUser`. -/
def deleteImUser (reg : Registry) (user : UserPtr) : Registry :=
  reg.modifyUser user fun value => { value with deleted := true }

def removeImUser (reg : Registry) (user : UserPtr) : Registry :=
  ((reg.removeImUserById (reg.users user).userId).removeImUserByLoginName
    (reg.users user).loginName).deleteImUser user

/-- `GetUserConnCnt`: the number of open connections of all validated users in the id map. -/
def getUserConnCnt (reg : Registry) : Nat :=
  Lib.mapSum (fun _ user =>
    if (reg.users user).validate then (reg.users user).getUserConn reg.conns else 0) reg.imUserMap

end Registry

end AChat.MsgServer
