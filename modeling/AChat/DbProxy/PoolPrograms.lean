import AChat.DbProxy.GroupMembers
import AChat.Lib.ByteOrder
import AChat.Lib.Leases

/-!
Owns the operations on groups and group messages as programs that get pooled connections, use them
and give them back, in the order of the source. What is got, and what a statement or a command
replies, is an input.

A set of users is the list of its elements. An output list is what is added to it, except where
the code looks at what was in it before.

Does not own what the statements do to the tables.
-/

namespace AChat.DbProxy

open Lib (Prog)

namespace Pooled

/-! ### Operations -/

/-- A connection that was got from a pool. The next one that is got is another one, even if the
pool lends the same connection again. -/
abbrev Conn := Nat

/-- A row of a `ResultSet`, which holds no connection. -/
structure Row where
  getInt : String → Int
  getString : String → String

/-- What a `PrepareStatement` is executed with. -/
inductive Param where
  | number (value : Nat)
  | text (value : String)
deriving DecidableEq, Repr

/-- The branches in which a connection is given back in another place than behind its last use. -/
inductive Branch where
  /-- `removeRepeatUser` has got a connection, for so many users. -/
  | removesRepeats (count : Nat)
  /-- `clearMessageCount` has read the counts of the group. -/
  | copiesCounts
deriving DecidableEq, Repr

/-- `unset` reads a variable that has no value yet, and `takes` notes a branch. -/
inductive PoolOp where
  | getDBConn (pool : String)
  | relDBConn (conn : Conn)
  | getCacheConn (pool : String)
  | relCacheConn (conn : Conn)
  | executeQuery (conn : Conn) (sql : String)
  | executeUpdate (conn : Conn) (sql : String)
  | getInsertId (conn : Conn)
  | stmtInit (conn : Conn) (sql : String)
  | stmtExecuteUpdate (conn : Conn) (params : List Param)
  | stmtGetInsertId (conn : Conn)
  | stmtDelete (conn : Conn)
  | hget (conn : Conn) (key field : String)
  | hset (conn : Conn) (key field value : String)
  | hdel (conn : Conn) (key field : String)
  | hgetAll (conn : Conn) (key : String)
  | hmset (conn : Conn) (key : String) (hash : List (String × String))
  | hincrBy (conn : Conn) (key field : String) (value : Int)
  | incrBy (conn : Conn) (key : String) (value : Int)
  | set (conn : Conn) (key value : String)
  | isExists (conn : Conn) (key : String)
  | time
  | unset
  | uploadByteFile (data : Content)
  | downloadByteFile (path : String)
  | takes (branch : Branch)
deriving DecidableEq, Repr

/-- A pool may have no connection to give, and a query no result. -/
abbrev PoolOp.Reply : PoolOp → Type
  | .getDBConn _ | .getCacheConn _ => Option Conn
  | .relDBConn _ | .relCacheConn _ | .stmtDelete _ | .takes _ => Unit
  | .executeQuery _ _ => Option (List Row)
  | .executeUpdate _ _ | .stmtInit _ _ | .stmtExecuteUpdate _ _ | .isExists _ _ => Bool
  | .getInsertId _ | .stmtGetInsertId _ | .time | .unset => Nat
  | .hget _ _ _ | .hmset _ _ _ | .set _ _ _ | .uploadByteFile _ => String
  | .hset _ _ _ _ | .hdel _ _ _ | .hincrBy _ _ _ _ | .incrBy _ _ _ => Int
  | .hgetAll _ _ => Option (List (String × String))
  | .downloadByteFile _ => Option Content

abbrev PoolProg := Prog PoolOp PoolOp.Reply

abbrev request (op : PoolOp) : PoolProg op.Reply :=
  Prog.perform op

def query (conn : Conn) (sql : String) : PoolProg (Option (List Row)) :=
  request (.executeQuery conn sql)

def update (conn : Conn) (sql : String) : PoolProg Bool :=
  request (.executeUpdate conn sql)

def hget (conn : Conn) (key field : String) : PoolProg String :=
  request (.hget conn key field)

def hgetAll (conn : Conn) (key : String) : PoolProg (Option (List (String × String))) :=
  request (.hgetAll conn key)

/-- A connection is got, and given back when `body` is through with it. -/
def withDBConn {α : Type} (pool : String) (body : Conn → PoolProg α) : PoolProg (Option α) := do
  match ← request (.getDBConn pool) with
  | none => return none
  | some conn =>
      let value ← body conn
      request (.relDBConn conn)
      return some value

def withCacheConn {α : Type} (pool : String) (body : Conn → PoolProg α) :
    PoolProg (Option α) := do
  match ← request (.getCacheConn pool) with
  | none => return none
  | some conn =>
      let value ← body conn
      request (.relCacheConn conn)
      return some value

def forEach {α β : Type} (items : List α) (each : α → PoolProg β) : PoolProg Unit :=
  items.foldlM (fun _ item => do let _ ← each item; return ()) ()

/-! ### Texts -/

/-- A value converted to `uint32_t`. -/
def uint32 (value : Int) : Nat :=
  (value % 2 ^ 32).toNat

def leadingNumber (digits : List Char) : Nat :=
  (digits.takeWhile Char.isDigit).foldl (fun number digit => 10 * number + (digit.toNat - 48)) 0

/-- `atoi`, of a number that fits into an `int`. -/
def atoi (text : String) : Int :=
  match text.toList.dropWhile Char.isWhitespace with
  | '-' :: digits => -(leadingNumber digits : Int)
  | '+' :: digits => leadingNumber digits
  | digits => leadingNumber digits

def string2int (text : String) : Nat :=
  uint32 (atoi text)

/-- The ids of a clause. -/
def clause (ids : List Id) : String :=
  ",".intercalate (ids.map toString)

/-- A `set<uint32_t>` of these ids. -/
def toSet (ids : List Id) : List Id :=
  ids.dedup.mergeSort

/-- A `string` of these bytes. -/
def toText (data : Content) : String :=
  String.ofList (data.map fun byte => Char.ofNat byte.toNat)

/-! ### Audio -/

/-- `IM.BaseDefine.MsgInfo`. -/
structure MsgInfo where
  msgId : Id
  fromSessionId : Id
  createTime : Nat
  msgType : Nat
  msgData : String
deriving DecidableEq, Repr

namespace AudioModel

/-- The bytes of the audio stand behind its duration. -/
def readAudioContent (costTime size : Nat) (path : String) (msg : MsgInfo) :
    PoolProg MsgInfo := do
  if path = "" ∨ costTime = 0 ∨ size = 0 then return msg
  else
    let data ← request (.downloadByteFile path)
    return data.elim msg fun data =>
      { msg with msgData := toText (Lib.bigEndian 4 costTime ++ data) }

/-- A message whose query has no result is taken out. -/
def readAudio (conn : Conn) (lsMsg : List MsgInfo) (msg : MsgInfo) : PoolProg (List MsgInfo) := do
  if msg.msgType = msgTypeGroupAudio ∨ msg.msgType = msgTypeSingleAudio then
    match ← query conn ("select * from IMAudio where id=" ++ msg.msgData) with
    | none => return lsMsg
    | some rows =>
        let msg ← rows.foldlM (fun msg row =>
          readAudioContent (uint32 (row.getInt "duration")) (uint32 (row.getInt "size"))
            (row.getString "path") msg) msg
        return lsMsg ++ [msg]
  else return lsMsg ++ [msg]

def readAudios (lsMsg : List MsgInfo) : PoolProg (Bool × List MsgInfo) := do
  if lsMsg.isEmpty then return (true, lsMsg)
  else
    let read ← withDBConn "AChat_slave" fun conn => lsMsg.foldlM (readAudio conn) []
    return (read.isSome, read.getD lsMsg)

def insertAudio (conn : Conn) (fromId toId : Id) (path : String) (size duration createTime : Nat) :
    PoolProg Int := do
  if ← update conn ("insert into IMAudio(`fromId`, `toId`, `path`, `size`, `duration`, `created`) " ++
    s!"values({fromId}, {toId}, '{path}', {size}, {duration}, {createTime})") then
    let audioId ← request (.getInsertId conn)
    return (audioId : Int).bmod (2 ^ 32)
  else return -1

def saveAudioInfo (fromId toId createTime : Nat) (audioData : Content) : PoolProg Int := do
  let path ← request (.uploadByteFile (audioData.drop 4))
  if path = "" then return -1
  else
    let audioId ← withDBConn "AChat_master" fun conn =>
      insertAudio conn fromId toId path (audioData.length - 4) (readUint32 audioData) createTime
    return audioId.getD (-1)

end AudioModel

/-! ### Sessions and counters -/

namespace SessionModel

def getSessionId (userId peerId sessionType : Nat) (isAll : Bool) : PoolProg Id := do
  let rows ← withDBConn "AChat_slave" fun conn =>
    query conn (s!"select id from IMRecentSession where userId={userId} and peerId={peerId}" ++
      s!" and type={sessionType}" ++ if isAll then "" else " and status=0")
  return lastId ((rows.join.getD []).map fun row => uint32 (row.getInt "id"))

def removeSession (sessionId : Id) : PoolProg Bool := do
  let removed ← withDBConn "AChat_master" fun conn => do
    let now ← request .time
    update conn s!"update IMRecentSession set status = 1, updated={now} where id={sessionId}"
  return removed.getD false

end SessionModel

def groupKey (groupId : Id) : String :=
  s!"{groupId}_im_group_msg"

def userKey (userId groupId : Id) : String :=
  s!"{userId}_{groupId}_im_user_group"

/-- The counts of the group become those of the user. -/
def copyCounts (conn : Conn) (userId groupId : Id) : PoolProg Unit := do
  match ← hgetAll conn (groupKey groupId) with
  | none => return ()
  | some counts =>
      let _ ← request (.hmset conn (userKey userId groupId) counts)
      return ()

namespace UserModel

def clearUserCounter (userId peerId sessionType : Nat) : PoolProg Unit := do
  if sessionType = sessionTypeSingle then
    let _ ← withCacheConn "unread" fun conn =>
      request (.hdel conn s!"unread_{userId}" (toString peerId))
    return ()
  else if sessionType = sessionTypeGroup then
    let _ ← withCacheConn "unread" fun conn => copyCounts conn userId peerId
    return ()
  else return ()

end UserModel

/-! ### Groups -/

def memberKey (groupId : Id) : String :=
  s!"group_member_{groupId}"

/-- `IM.BaseDefine.GroupVersionInfo`. -/
structure GroupVersionInfo where
  groupId : Id
  version : Nat
deriving DecidableEq, Repr

/-- `IM.BaseDefine.GroupInfo`. -/
structure GroupInfo where
  groupId : Id
  version : Nat
  groupName : String
  groupAvatar : String
  groupType : Nat
  groupCreatorId : Id
  groupMemberList : List Id
deriving DecidableEq, Repr

/-- `IM.BaseDefine.ShieldStatus`. -/
structure ShieldStatus where
  groupId : Id
  userId : Id
  shieldStatus : Nat
deriving DecidableEq, Repr

def imGroupSettingPush : Nat := 1

namespace GroupModel

def getGroupUser (groupId : Id) : PoolProg (List Id) := do
  let allUser ← withCacheConn "group_member" fun conn => hgetAll conn (memberKey groupId)
  return (allUser.join.getD []).map fun entry => string2int entry.1

def isInGroup (userId groupId : Id) : PoolProg Bool := do
  let value ← withCacheConn "group_member" fun conn =>
    hget conn (memberKey groupId) (toString userId)
  return value.getD "" != ""

def getUserJoinTime (groupId userId : Id) : PoolProg Nat := do
  let value ← withCacheConn "group_member" fun conn =>
    hget conn (memberKey groupId) (toString userId)
  return if value.getD "" = "" then 0 else string2int (value.getD "")

def isValidateGroupId (groupId : Id) : PoolProg Bool := do
  let found ← withCacheConn "group_member" fun conn => request (.isExists conn (memberKey groupId))
  return found.getD false

def setPush (userId groupId type status : Nat) : PoolProg Bool := do
  if ← isInGroup userId groupId then
    let fields ← withCacheConn "group_set" fun conn =>
      request (.hset conn s!"group_set_{groupId}" s!"{userId}_{type}" (toString status))
    return fields.getD (-1) != -1
  else return false

def pushOf (groupId : Id) (fields : List (String × String)) (user : Id) : ShieldStatus :=
  ⟨groupId, user, ((fields.lookup s!"{user}_{imGroupSettingPush}").map string2int).getD 0⟩

def getPush (groupId : Id) (lsUser : List Id) : PoolProg (List ShieldStatus) := do
  if lsUser.isEmpty then return []
  else
    let fields ← withCacheConn "group_set" fun conn => hgetAll conn s!"group_set_{groupId}"
    return fields.join.elim [] fun fields => lsUser.map (pushOf groupId fields)

def updateGroupChat (groupId : Id) : PoolProg Unit := do
  let _ ← withDBConn "AChat_master" fun conn => do
    let now ← request .time
    update conn s!"update IMGroup set lastChated={now} where id={groupId}"
  return ()

def incGroupVersion (groupId : Id) : PoolProg Bool := do
  let raised ← withDBConn "AChat_master" fun conn =>
    update conn s!"update IMGroup set version=version+1 where id={groupId}"
  return raised.getD false

def hasModifyPermission (userId groupId modifyType : Id) : PoolProg Bool := do
  if userId = 0 then return true
  else
    let rows ← withDBConn "AChat_slave" fun conn =>
      query conn s!"select creator, type from IMGroup where id={groupId}"
    return DbProxy.hasModifyPermission
      (rows.join.map fun rows =>
        rows.map fun row => ⟨uint32 (row.getInt "creator"), uint32 (row.getInt "type")⟩)
      userId modifyType

def getUserGroupIds (userId limited : Nat) : PoolProg (List Id) := do
  let rows ← withDBConn "AChat_slave" fun conn =>
    query conn (s!"select groupId from IMGroupMember where userId={userId}" ++
      " and status = 0 order by updated desc, id desc" ++
      if limited ≠ 0 then s!" limit {limited}" else "")
  return (rows.join.getD []).map fun row => uint32 (row.getInt "groupId")

def getGroupVersion (lsGroupId : List Id) (groupType : Nat) :
    PoolProg (List GroupVersionInfo) := do
  if lsGroupId.isEmpty then return []
  else
    let rows ← withDBConn "AChat_slave" fun conn =>
      query conn (s!"select id,version from IMGroup where id in ({clause lsGroupId})" ++
        (if groupType ≠ 0 then s!" and type={groupType}" else "") ++ " order by updated desc")
    return (rows.join.getD []).map fun row =>
      ⟨uint32 (row.getInt "id"), uint32 (row.getInt "version")⟩

def getUserGroup (userId groupType : Nat) : PoolProg (List GroupVersionInfo) := do
  let lsGroupId ← getUserGroupIds userId 0
  if lsGroupId.isEmpty then return []
  else getGroupVersion lsGroupId groupType

def fillGroupMember (lsGroups : List GroupInfo) : PoolProg (List GroupInfo) :=
  lsGroups.foldlM (fun filled group => do
    let lsUserIds ← getGroupUser group.groupId
    return filled ++
      [{ group with groupMemberList := group.groupMemberList ++ lsUserIds }]) []

/-- A row that is newer than the version in the map, which is 0 for a group that is not there. -/
def newerGroup (versions : List (Id × Nat)) (row : Row) : Option GroupInfo :=
  let groupId := uint32 (row.getInt "id")
  let version := uint32 (row.getInt "version")
  let groupType := uint32 (row.getInt "type")
  if (versions.lookup groupId).getD 0 < version ∧ groupTypeIsValid groupType = true then
    some ⟨groupId, version, row.getString "name", row.getString "avatar", groupType,
      uint32 (row.getInt "creator"), []⟩
  else none

/-- The infos that were listed before are filled too. -/
def getGroupInfo (versions : List (Id × Nat)) (lsGroupInfo : List GroupInfo) :
    PoolProg (List GroupInfo) := do
  if versions.isEmpty then return lsGroupInfo
  else
    let rows ← withDBConn "AChat_slave" fun conn =>
      query conn (s!"select * from IMGroup where id in ({clause (versions.map Prod.fst)})" ++
        " order by updated desc")
    match rows with
    | none => return lsGroupInfo
    | some rows =>
        let infos := lsGroupInfo ++ (rows.getD []).filterMap (newerGroup versions)
        if infos.isEmpty then return infos else fillGroupMember infos

/-- The row of the new group, and its id. -/
def insertGroup (conn : Conn) (userId : Id) (groupName groupAvatar : String)
    (groupType memberCnt : Nat) : PoolProg (Option Id) := do
  if ← request (.stmtInit conn
    ("insert into IMGroup(`name`, `avatar`, `creator`, `type`,`userCnt`, `status`, `version`, " ++
      "`lastChated`, `updated`, `created`) values(?, ?, ?, ?, ?, ?, ?, ?, ?, ?)")) then
    let created ← request .time
    if ← request (.stmtExecuteUpdate conn [.text groupName, .text groupAvatar, .number userId,
      .number groupType, .number memberCnt, .number 0, .number 1, .number 0, .number created,
      .number created]) then
      let groupId ← request (.stmtGetInsertId conn)
      return some groupId
    else return none
  else return none

def insertNewGroup (userId : Id) (groupName groupAvatar : String) (groupType memberCnt : Nat) :
    PoolProg (Bool × Id) := do
  let inserted ← withDBConn "AChat_master" fun conn => do
    let groupId ← insertGroup conn userId groupName groupAvatar groupType memberCnt
    request (.stmtDelete conn)
    return groupId
  return (inserted.join.isSome, inserted.join.getD invalidValue)

/-- The time, and the users who have a row. -/
def selectHasUser (conn : Conn) (groupId : Id) (users : List Id) : PoolProg (Nat × List Id) := do
  let created ← request .time
  let rows ← query conn
    (s!"select userId from IMGroupMember where groupId={groupId} and userId in ({clause users})")
  return (created, toSet ((rows.getD []).map fun row => uint32 (row.getInt "userId")))

def reactivateUsers (conn : Conn) (groupId created : Nat) (hasUser : List Id) :
    PoolProg Bool := do
  if hasUser.isEmpty then return false
  else
    update conn (s!"update IMGroupMember set status=0, updated={created} where groupId={groupId}" ++
      s!" and userId in ({clause hasUser})")

/-- A user for whom the statement cannot be prepared is taken out. -/
def insertMember (conn : Conn) (groupId created : Nat) (hasUser : List Id)
    (state : List Id × Nat) (userId : Id) : PoolProg (List Id × Nat) := do
  if userId ∈ hasUser then return (state.1 ++ [userId], state.2)
  else if ← request (.stmtInit conn
    ("insert into IMGroupMember(`groupId`, `userId`, `status`, `created`, `updated`) " ++
      "values                    (?,?,?,?,?)")) then
    let _ ← request (.stmtExecuteUpdate conn
      [.number groupId, .number userId, .number 0, .number created, .number created])
    request (.stmtDelete conn)
    return (state.1 ++ [userId], state.2 + 1)
  else
    request (.stmtDelete conn)
    return state

def raiseUserCnt (conn : Conn) (groupId incMemberCnt : Nat) : PoolProg Bool := do
  if incMemberCnt = 0 then return false
  else update conn s!"update IMGroup set userCnt=userCnt+{incMemberCnt} where id={groupId}"

/-- The users that are left. -/
def storeMembers (conn cacheConn : Conn) (groupId created : Nat) (hasUser users : List Id) :
    PoolProg (List Id) := do
  let _ ← reactivateUsers conn groupId created hasUser
  let inserted ← users.foldlM (insertMember conn groupId created hasUser) ([], 0)
  let _ ← raiseUserCnt conn groupId inserted.2
  forEach inserted.1 fun userId =>
    request (.hset cacheConn (memberKey groupId) (toString userId) (toString created))
  return inserted.1

/-- The connection to the slave is given back before one to the master is got. -/
def insertNewMember (groupId : Id) (users : List Id) : PoolProg (Bool × List Id) := do
  if groupId = invalidValue ∨ users.length % 2 ^ 32 = 0 then return (false, users)
  else
    match ← withDBConn "AChat_slave" fun conn => selectHasUser conn groupId users with
    | none => return (false, users)
    | some present =>
        let stored ← withDBConn "AChat_master" fun conn =>
          withCacheConn "group_member" fun cacheConn =>
            storeMembers conn cacheConn groupId present.1 present.2 users
        return (stored.join.isSome, stored.join.getD users)

/-- The connection is given back in the loop. -/
def keepNewUser (conn : Conn) (groupId : Id) (users : List Id) (userId : Id) :
    PoolProg (List Id) := do
  let value ← hget conn (memberKey groupId) (toString userId)
  request (.relCacheConn conn)
  return if value = "" then users ++ [userId] else users

/-- The users who have no field in the hash. -/
def removeRepeatUser (groupId : Id) (users : List Id) : PoolProg (List Id) := do
  match ← request (.getCacheConn "group_member") with
  | none => return users
  | some conn =>
      request (.takes (.removesRepeats users.length))
      users.foldlM (keepNewUser conn groupId) []

/-- Whether it went through, the users that are left and the current users. -/
def addMember (groupId : Id) (users : List Id) : PoolProg (Bool × List Id × List Id) := do
  let users ← removeRepeatUser groupId users
  let inserted ← insertNewMember groupId users
  let lsCurUserId ← getGroupUser groupId
  return (inserted.1, inserted.2, lsCurUserId)

def deactivateMembers (conn cacheConn : Conn) (groupId : Id) (users : List Id) :
    PoolProg Unit := do
  let _ ← update conn (s!"update IMGroupMember set status=1 where  groupId ={groupId}" ++
    s!" and userId in({clause users})")
  forEach users fun userId => request (.hdel cacheConn (memberKey groupId) (toString userId))

def removeMember (groupId : Id) (users : List Id) : PoolProg (Bool × List Id) := do
  if users.isEmpty then return (true, [])
  else
    let removed ← withDBConn "AChat_master" fun conn =>
      withCacheConn "group_member" fun cacheConn =>
        deactivateMembers conn cacheConn groupId users
    if removed.join.isSome then
      let lsCurUserId ← getGroupUser groupId
      return (true, lsCurUserId)
    else return (false, [])

/-- Without a row, the creator is a variable that has no value. -/
def disableGroup (conn : Conn) (userId groupId : Id) : PoolProg Bool := do
  match ← query conn s!"select creator from IMGroup where id={groupId}" with
  | none => return false
  | some rows =>
      let unset ← request .unset
      let creator := (rows.getLast?.map fun row => uint32 (row.getInt "creator")).getD unset
      if creator = 0 ∨ creator = userId then
        update conn s!"update IMGroup set status=0 where id={groupId}"
      else return false

/-- The members of the group, if it was disabled. -/
def disableAndList (conn : Conn) (userId groupId : Id) : PoolProg (Option (List Id)) := do
  if ← disableGroup conn userId groupId then
    let rows ← query conn s!"select userId from IMGroupMember where groupId={groupId}"
    return some (toSet ((rows.getD []).map fun row => uint32 (row.getInt "userId")))
  else return none

def removeGroup (userId groupId : Id) : PoolProg (Bool × List Id) := do
  let users ← withDBConn "AChat_master" fun conn => disableAndList conn userId groupId
  match users.join with
  | none => return (false, [])
  | some users => removeMember groupId users

def removeSession (groupId : Id) (users : List Id) : PoolProg Unit :=
  forEach users fun userId => do
    let sessionId ← SessionModel.getSessionId userId groupId sessionTypeGroup false
    SessionModel.removeSession sessionId

/-- The switch over the kind of a change. -/
def changeMember (groupId modifyType : Id) (users : List Id) :
    PoolProg (Bool × List Id × List Id) := do
  if modifyType = groupModifyTypeAdd then addMember groupId users
  else if modifyType = GroupMembers.groupModifyTypeDel then
    let removed ← removeMember groupId users
    removeSession groupId users
    return (removed.1, users, removed.2)
  else return (false, users, [])

def modifyGroupMember (userId groupId modifyType : Id) (users : List Id) :
    PoolProg (Bool × List Id × List Id) := do
  if ← hasModifyPermission userId groupId modifyType then
    let changed ← changeMember groupId modifyType users
    if changed.1 then
      let _ ← incGroupVersion groupId
      forEach changed.2.1 fun userId =>
        UserModel.clearUserCounter userId groupId sessionTypeGroup
      return changed
    else return changed
  else return (false, users, [])

def clearFields (conn : Conn) (groupId : Id) : PoolProg Unit := do
  match ← hgetAll conn (memberKey groupId) with
  | none => return ()
  | some fields => forEach fields fun field => request (.hdel conn (memberKey groupId) field.1)

def clearGroupMember (groupId : Id) : PoolProg Unit := do
  let _ ← withDBConn "AChat_master" fun conn =>
    update conn s!"delete from IMGroupMember where groupId={groupId}"
  let _ ← withCacheConn "group_member" fun conn => clearFields conn groupId
  return ()

end GroupModel

/-! ### Group messages -/

/-- What `getLastMsg` sets. -/
structure LastMsg where
  msgId : Id
  msgData : String
  msgType : Nat
  fromId : Id
deriving DecidableEq, Repr

/-- `IM.BaseDefine.UnreadInfo`. -/
structure UnreadInfo where
  sessionId : Id
  sessionType : Nat
  unreadCnt : Nat
  latestMsg : LastMsg
deriving DecidableEq, Repr

/-- What goes through the loop over the groups. A count stays from one group to the next. -/
structure Unread where
  count : Nat
  totalCnt : Nat
  lsUnreadCount : List UnreadInfo
deriving DecidableEq, Repr

namespace GroupMessageModel

def tableName (groupId : Id) : String :=
  s!"IMGroupMessage_{groupId % 8}"

/-- The reply to `SET` is compared with the value. -/
def resetMsgId (groupId : Id) : PoolProg Bool := do
  let reply ← withCacheConn "unread" fun conn =>
    request (.set conn s!"group_msg_id_{groupId}" "0")
  return reply == some "0"

def getMsgId (groupId : Id) : PoolProg Id := do
  let msgId ← withCacheConn "unread" fun conn =>
    request (.incrBy conn s!"group_msg_id_{groupId}" 1)
  return (msgId.map uint32).getD 0

/-- The result of the copy is kept in a variable of its own, and the other one is returned. -/
def incMessageCount (userId groupId : Id) : PoolProg Bool := do
  let _ ← withCacheConn "unread" fun conn => do
    let _ ← request (.hincrBy conn (groupKey groupId) "count" 1)
    copyCounts conn userId groupId
  return false

/-- The connection is given back between the two commands. -/
def clearMessageCount (userId groupId : Id) : PoolProg Bool := do
  match ← request (.getCacheConn "unread") with
  | none => return false
  | some conn =>
      let counts ← hgetAll conn (groupKey groupId)
      request (.relCacheConn conn)
      match counts with
      | none => return false
      | some counts =>
          request (.takes .copiesCounts)
          let _ ← request (.hmset conn (userKey userId groupId) counts)
          return false

def insertMessage (conn : Conn) (fromId groupId msgType createTime msgId : Nat)
    (content : String) : PoolProg Unit := do
  if ← request (.stmtInit conn
    (s!"insert into {tableName groupId} (`groupId`, `userId`, `msgId`, `content`, `type`, " ++
      "`status`, `updated`, `created`) values(?, ?, ?, ?, ?, ?, ?, ?)")) then
    if ← request (.stmtExecuteUpdate conn [.number groupId, .number fromId, .number msgId,
      .text content, .number msgType, .number 0, .number createTime, .number createTime]) then
      GroupModel.updateGroupChat groupId
      let _ ← incMessageCount fromId groupId
      let _ ← clearMessageCount fromId groupId
      return ()
    else return ()
  else return ()

/-- The counts are changed before the connection of the insert is given back. -/
def sendMessage (fromId groupId msgType createTime msgId : Nat) (content : String) :
    PoolProg Bool := do
  if ← GroupModel.isInGroup fromId groupId then
    let _ ← withDBConn "AChat_master" fun conn => do
      insertMessage conn fromId groupId msgType createTime msgId content
      request (.stmtDelete conn)
    return false
  else return false

def sendAudioMessage (fromId groupId msgType createTime msgId : Nat) (content : Content) :
    PoolProg Bool := do
  if content.length ≤ 4 then return false
  else if ← GroupModel.isInGroup fromId groupId then
    let audioId ← AudioModel.saveAudioInfo fromId groupId createTime content
    if audioId ≠ -1 then
      sendMessage fromId groupId msgType createTime msgId (toString (uint32 audioId))
    else return false
  else return false

/-- A message of a known type. -/
def msgOf (row : Row) : Option MsgInfo :=
  let msgType := uint32 (row.getInt "type")
  if msgTypeIsValid msgType = true then
    some ⟨uint32 (row.getInt "msgId"), uint32 (row.getInt "userId"),
      uint32 (row.getInt "created"), msgType, row.getString "content"⟩
  else none

/-- The messages of a query, and those that were listed before, are read in full. -/
def readMsgs (lsMsg : List MsgInfo) (rows : Option (Option (List Row))) :
    PoolProg (List MsgInfo) := do
  match rows with
  | none => return lsMsg
  | some rows =>
      let msgs := lsMsg ++ (rows.getD []).filterMap msgOf
      if msgs.isEmpty then return msgs
      else
        let read ← AudioModel.readAudios msgs
        return read.2

def getMessage (userId groupId msgId msgCnt : Nat) (lsMsg : List MsgInfo) :
    PoolProg (List MsgInfo) := do
  let rows ← withDBConn "AChat_slave" fun conn => do
    let updated ← GroupModel.getUserJoinTime groupId userId
    query conn (s!"select * from {tableName groupId} where groupId = {groupId}" ++
      (if msgId = 0 then "" else s!" and msgId<={msgId}") ++
      s!" and status = 0 and created>={updated} order by created desc, id desc limit {msgCnt}")
  readMsgs lsMsg rows

def getMsgByMsgId (userId groupId : Id) (lsMsgId : List Id) (lsMsg : List MsgInfo) :
    PoolProg (List MsgInfo) := do
  if lsMsgId.isEmpty then return lsMsg
  else if ← GroupModel.isInGroup userId groupId then
    let rows ← withDBConn "AChat_slave" fun conn => do
      let updated ← GroupModel.getUserJoinTime groupId userId
      query conn (s!"select * from {tableName groupId} where groupId={groupId}" ++
        s!" and msgId in ({clause lsMsgId}) and status=0 and created >= {updated}" ++
        " order by created desc, id desc limit 100")
    readMsgs lsMsg rows
  else return lsMsg

/-- The last row. What has no row is left as it was. -/
def getLastMsg (strAudioEnc : String) (groupId : Id) (last : LastMsg) : PoolProg LastMsg := do
  let rows ← withDBConn "AChat_slave" fun conn =>
    query conn (s!"select msgId, type,userId, content from {tableName groupId}" ++
      s!" where groupId = {groupId} and status = 0 order by created desc, id desc limit 1")
  return ((rows.join.getD []).getLast?).elim last fun row =>
    let msgType := uint32 (row.getInt "type")
    ⟨uint32 (row.getInt "msgId"),
      if msgType = msgTypeGroupAudio then strAudioEnc else row.getString "content", msgType,
      uint32 (row.getInt "userId")⟩

/-- How many messages of a group a user has not read, or nothing when the group has no count. -/
def readCount (conn : Conn) (userId : Id) (count : Nat) (groupId : Id) :
    PoolProg (Option Nat) := do
  let groupCnt ← hget conn (groupKey groupId) "count"
  if groupCnt = "" then return none
  else
    let userCnt ← hget conn (userKey userId groupId) "count"
    let userCnt := if userCnt = "" then 0 else uint32 (atoi userCnt)
    return some
      (if uint32 (atoi groupCnt) ≥ userCnt then uint32 (atoi groupCnt) - userCnt else count)

def Unread.listed (unread : Unread) (groupId count : Nat) (last : LastMsg) : Unread where
  count := count
  totalCnt := (unread.totalCnt + count) % 2 ^ 32
  lsUnreadCount :=
    if msgTypeIsValid last.msgType = true then
      unread.lsUnreadCount ++ [⟨groupId, sessionTypeGroup, count, last⟩]
    else unread.lsUnreadCount

/-- The last message is looked up while the cache connection is held. -/
def listUnread (strAudioEnc : String) (conn : Conn) (userId : Id) (unread : Unread)
    (groupId : Id) : PoolProg Unread := do
  match ← readCount conn userId unread.count groupId with
  | none => return unread
  | some count =>
      if count = 0 then return { unread with count := count }
      else
        let msgId ← request .unset
        let msgType ← request .unset
        let fromId ← request .unset
        let last ← getLastMsg strAudioEnc groupId ⟨msgId, "", msgType, fromId⟩
        return Unread.listed unread groupId count last

def getUnreadMsgCount (strAudioEnc : String) (userId totalCnt : Nat) :
    PoolProg (Nat × List UnreadInfo) := do
  let lsGroupId ← GroupModel.getUserGroupIds userId 0
  let unread ← withCacheConn "unread" fun conn =>
    lsGroupId.foldlM (listUnread strAudioEnc conn userId) ⟨0, totalCnt, []⟩
  return unread.elim (totalCnt, []) fun unread => (unread.totalCnt, unread.lsUnreadCount)

/-- The count, and the sum. -/
def addUnread (conn : Conn) (userId : Id) (unread : Nat × Nat) (groupId : Id) :
    PoolProg (Nat × Nat) := do
  match ← readCount conn userId unread.1 groupId with
  | none => return unread
  | some count => return (count, (unread.2 + count) % 2 ^ 32)

def getUnReadCntAll (userId totalCnt : Nat) : PoolProg Nat := do
  let lsGroupId ← GroupModel.getUserGroupIds userId 0
  let unread ← withCacheConn "unread" fun conn =>
    lsGroupId.foldlM (addUnread conn userId) (0, totalCnt)
  return unread.elim totalCnt Prod.snd

end GroupMessageModel

/-- The id of the group, and the users that are left. -/
def GroupModel.createGroup (userId : Id) (groupName groupAvatar : String) (groupType : Nat)
    (members : List Id) : PoolProg (Id × List Id) := do
  if groupName = "" then return (invalidValue, members)
  else if members.isEmpty then return (invalidValue, members)
  else
    let inserted ← insertNewGroup userId groupName groupAvatar groupType
      (members.length % 2 ^ 32)
    if inserted.1 then
      let _ ← GroupMessageModel.resetMsgId inserted.2
      clearGroupMember inserted.2
      let stored ← insertNewMember inserted.2 members
      return (inserted.2, stored.2)
    else return (inserted.2, members)

end Pooled

end AChat.DbProxy
