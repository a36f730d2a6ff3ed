import AChat.DbProxy.PoolPrograms

/-!
Owns the unread counters of single chats, and what is listed of them, as programs that get pooled
connections, use them and give them back.

Does not own what the commands do to the counters.
-/

namespace AChat.DbProxy

namespace Pooled

def unreadKey (userId : Id) : String :=
  s!"unread_{userId}"

/-- With `bAdd` false, so that no relation is added. -/
def RelationModel.getRelationId (userAId userBId : Id) : PoolProg Id := do
  if userAId = 0 ∨ userBId = 0 then return invalidValue
  else
    let rows ← withDBConn "AChat_slave" fun conn =>
      query conn (s!"select id from IMRelationShip where smallId={min userAId userBId}" ++
        s!" and bigId={max userAId userBId} and status = 0")
    return lastId ((rows.join.getD []).map fun row => uint32 (row.getInt "id"))

namespace MessageModel

def incMsgCount (fromId toId : Id) : PoolProg Unit := do
  let _ ← withCacheConn "unread" fun conn =>
    request (.hincrBy conn (unreadKey toId) (toString fromId) 1)
  return ()

def insertMessage (conn : Conn) (relateId fromId toId msgType createTime msgId : Nat)
    (content : String) : PoolProg Bool := do
  if ← request (.stmtInit conn
    (s!"insert into IMMessage_{relateId % 8} (`relateId`, `fromId`, `toId`, `msgId`, `content`, " ++
      "`status`, `type`, `created`, `updated`) values(?, ?, ?, ?, ?, ?, ?, ?, ?)")) then
    request (.stmtExecuteUpdate conn [.number relateId, .number fromId, .number toId,
      .number msgId, .text content, .number 0, .number msgType, .number createTime,
      .number createTime])
  else return false

/-- Whether the row was stored. The statement is deleted before the connection is given back. -/
def storeMessage (relateId fromId toId msgType createTime msgId : Nat) (content : String) :
    PoolProg Bool := do
  let stored ← withDBConn "AChat_master" fun conn => do
    let stored ← insertMessage conn relateId fromId toId msgType createTime msgId content
    request (.stmtDelete conn)
    return stored
  return stored.getD false

def sendMessage (relateId fromId toId msgType createTime msgId : Nat) (content : String) :
    PoolProg Bool := do
  if fromId = 0 ∨ toId = 0 then return false
  else if ← storeMessage relateId fromId toId msgType createTime msgId content then
    let _ ← request .time
    incMsgCount fromId toId
    return true
  else return false

/-- The last row. What has no row is left as it was, and so is the sender. -/
def getLastMsg (strAudioEnc : String) (fromId toId : Id) (last : LastMsg) : PoolProg LastMsg := do
  let relateId ← RelationModel.getRelationId fromId toId
  if relateId ≠ invalidValue then
    let rows ← withDBConn "AChat_slave" fun conn =>
      query conn (s!"select msgId,type,content from IMMessage_{relateId % 8}" ++
        s!" force index (idx_relateId_status_created) where relateId= {relateId}" ++
        " and status = 0 order by created desc, id desc limit 1")
    return ((rows.join.getD []).getLast?).elim last fun row =>
      let msgType := uint32 (row.getInt "type")
      { last with
        msgId := uint32 (row.getInt "msgId")
        msgType := msgType
        msgData := if msgType = msgTypeSingleAudio then strAudioEnc else row.getString "content" }
  else return last

/-- The sum grows where a peer is listed. -/
def listUnread (strAudioEnc : String) (userId : Id) (unread : Nat × List UnreadInfo)
    (entry : String × String) : PoolProg (Nat × List UnreadInfo) := do
  let peerId := uint32 (atoi entry.1)
  let count := uint32 (atoi entry.2)
  let msgType ← request .unset
  let last ← getLastMsg strAudioEnc peerId userId ⟨0, "", msgType, peerId⟩
  return if msgTypeIsValid last.msgType = true then
      ((unread.1 + count) % 2 ^ 32, unread.2 ++ [⟨peerId, sessionTypeSingle, count, last⟩])
    else unread

/-- The counters of all peers. The connection is given back before they are looked at. -/
def readCounters (userId : Id) : PoolProg (List (String × String)) := do
  let counters ← withCacheConn "unread" fun conn => hgetAll conn (unreadKey userId)
  return counters.join.getD []

def getUnreadMsgCount (strAudioEnc : String) (userId totalCnt : Nat) :
    PoolProg (Nat × List UnreadInfo) := do
  let counters ← readCounters userId
  counters.foldlM (listUnread strAudioEnc userId) (totalCnt, [])

def getUnReadCntAll (userId totalCnt : Nat) : PoolProg Nat := do
  let counters ← readCounters userId
  return counters.foldl (fun total entry => (total + uint32 (atoi entry.2)) % 2 ^ 32) totalCnt

end MessageModel

end Pooled

end AChat.DbProxy
