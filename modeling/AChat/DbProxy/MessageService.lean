import Mathlib.Algebra.Ring.Int.Defs
import Mathlib.Algebra.Ring.Nat
import Mathlib.Tactic.Tauto
import AChat.Lib.Prog

/-!
Owns how the DB proxy stores a message: the sessions, the relation, the message id and
the row, with every MySQL statement, Redis command and upload as one operation whose
reply is an input.

A connection to MySQL or Redis is asked for right before its first statement, so the
lack of one is among the replies to this statement. Ids are `uint32_t`, and 0 is
`INVALID_VALUE`.
-/

namespace AChat.DbProxy

open Lib (Prog)

abbrev Id := Nat
abbrev Content := List UInt8

def invalidValue : Id := 0

/-! ### Operations -/

/-- The reply to a statement or a command. -/
inductive Answer (α : Type) where
  | noConnection
  | failed
  | ok (value : α)
deriving DecidableEq, Repr

/-- The calls of `isInGroup` for one message. -/
inductive MemberCheck where
  | service
  | audio
  | message
deriving DecidableEq, Repr

/-- `msg_id_` and `group_msg_id_`. -/
inductive MsgIdKey where
  | relation (relateId : Id)
  | group (groupId : Id)
deriving DecidableEq, Repr

/-- A row of `IMMessage_`. -/
structure MessageRow where
  relateId : Id
  fromId : Id
  toId : Id
  msgId : Id
  content : Content
  status : Nat
  type : Nat
  created : Nat
deriving DecidableEq, Repr

/-- A row of `IMGroupMessage_`. -/
structure GroupMessageRow where
  groupId : Id
  userId : Id
  msgId : Id
  content : Content
  type : Nat
  status : Nat
  created : Nat
deriving DecidableEq, Repr

/-- A row of `IMAudio`. -/
structure AudioRow where
  fromId : Id
  toId : Id
  path : String
  size : Nat
  duration : Nat
  created : Nat
deriving DecidableEq, Repr

inductive MessageOp where
  | existsGroup (groupId : Id)
  | hgetMember (check : MemberCheck) (userId groupId : Id)
  | selectSession (userId peerId sessionType : Nat) (isAll : Bool)
  | reopenSession (sessionId : Id)
  | insertSession (userId peerId sessionType : Nat)
  | touchSession (sessionId : Id) (updateTime : Nat)
  | selectRelation (smallId bigId : Id) (isAll : Bool)
  | activateRelation (relationId : Id)
  | insertRelation (smallId bigId : Id)
  | setMsgId (relateId : Id)
  | incrMsgId (key : MsgIdKey)
  | uploadByteFile (data : Content)
  | insertAudio (row : AudioRow)
  | insertMessage (row : MessageRow)
  | hincrUnread (toId fromId : Id)
  | insertGroupMessage (row : GroupMessageRow)
  | updateGroupChat (groupId : Id)
  | incMessageCount (userId groupId : Id)
  | clearMessageCount (userId groupId : Id)
deriving DecidableEq, Repr

/-- What comes back. A member check tells whether the field has a value, an upload the path. -/
abbrev MessageOp.Reply : MessageOp → Type
  | .existsGroup _ => Answer Bool
  | .hgetMember _ _ _ => Answer Bool
  | .selectSession _ _ _ _ => Answer (List Id)
  | .insertSession _ _ _ => Answer Id
  | .selectRelation _ _ _ => Answer (List Id)
  | .insertRelation _ _ => Answer Id
  | .setMsgId _ => Answer String
  | .incrMsgId _ => Answer Int
  | .uploadByteFile _ => String
  | .insertAudio _ => Answer Int
  | _ => Answer Unit

abbrev MessageProg := Prog MessageOp MessageOp.Reply

abbrev issue (op : MessageOp) : MessageProg op.Reply :=
  Prog.perform op

/-! ### Groups -/

namespace GroupModel

def isValidateGroupId (groupId : Id) : MessageProg Bool := do
  match ← issue (.existsGroup groupId) with
  | .ok found => return found
  | _ => return false

def isInGroup (check : MemberCheck) (userId groupId : Id) : MessageProg Bool := do
  match ← issue (.hgetMember check userId groupId) with
  | .ok found => return found
  | _ => return false

end GroupModel

/-! ### Sessions -/

def sessionTypeSingle : Nat := 1
def sessionTypeGroup : Nat := 2

/-- The id in the last row of a result set. -/
def lastId (rows : List Id) : Id :=
  rows.getLast?.getD invalidValue

namespace SessionModel

def getSessionId (userId peerId sessionType : Nat) (isAll : Bool) : MessageProg Id := do
  match ← issue (.selectSession userId peerId sessionType isAll) with
  | .ok rows => return lastId rows
  | _ => return invalidValue

/-- Without a connection to the master, an id that was found is returned. -/
def addSession (userId peerId sessionType : Nat) : MessageProg Id := do
  let sessionId ← getSessionId userId peerId sessionType true
  if sessionId ≠ invalidValue then
    match ← issue (.reopenSession sessionId) with
    | .failed => return invalidValue
    | _ => return sessionId
  else
    match ← issue (.insertSession userId peerId sessionType) with
    | .ok inserted => return inserted
    | _ => return invalidValue

def updateSession (sessionId : Id) (updateTime : Nat) : MessageProg Bool := do
  match ← issue (.touchSession sessionId updateTime) with
  | .ok _ => return true
  | _ => return false

end SessionModel

/-! ### Message ids -/

/-- What `incrBy` returns, converted to `uint32_t`. A command that fails gives -1. -/
def incrResult : Answer Int → Id
  | .noConnection => invalidValue
  | .failed => (-1 % 2 ^ 32 : Int).toNat
  | .ok count => (count % 2 ^ 32).toNat

def getMsgId (key : MsgIdKey) : MessageProg Id := do
  return incrResult (← issue (.incrMsgId key))

/-- The reply to `SET` is compared with the value. -/
def resetMsgId (relateId : Id) : MessageProg Bool := do
  match ← issue (.setMsgId relateId) with
  | .ok reply => return reply == "0"
  | _ => return false

/-! ### Relations -/

namespace RelationModel

def addRelation (smallId bigId : Id) : MessageProg Id := do
  match ← issue (.selectRelation smallId bigId true) with
  | .noConnection => return invalidValue
  | .ok (relationId :: _) =>
      match ← issue (.activateRelation relationId) with
      | .ok _ => return relationId
      | _ => return invalidValue
  | .ok [] | .failed =>
      match ← issue (.insertRelation smallId bigId) with
      | .ok relationId =>
          if relationId ≠ invalidValue then
            let _ ← resetMsgId relationId
            return relationId
          else return relationId
      | _ => return invalidValue

/-- A failed query counts as one without rows. -/
def getRelationId (userAId userBId : Id) (add : Bool) : MessageProg Id := do
  if userAId = 0 ∨ userBId = 0 then return invalidValue
  else
    let smallId := min userAId userBId
    let bigId := max userAId userBId
    match ← issue (.selectRelation smallId bigId false) with
    | .noConnection => return invalidValue
    | .failed => if add then addRelation smallId bigId else return invalidValue
    | .ok rows =>
        if lastId rows = invalidValue ∧ add = true then addRelation smallId bigId
        else return lastId rows

end RelationModel

/-! ### Audio -/

def readUint32 : Content → Nat
  | a :: b :: c :: d :: _ => a.toNat * 2 ^ 24 + b.toNat * 2 ^ 16 + c.toNat * 2 ^ 8 + d.toNat
  | _ => 0

namespace AudioModel

/-- The id of the audio row, or -1. -/
def saveAudioInfo (fromId toId createTime : Nat) (audioData : Content) : MessageProg Int := do
  let path ← issue (.uploadByteFile (audioData.drop 4))
  if path = "" then return -1
  else
    match ← issue (.insertAudio
      ⟨fromId, toId, path, audioData.length - 4, readUint32 audioData, createTime⟩) with
    | .ok audioId => return audioId
    | _ => return -1

end AudioModel

/-- `int2string`, of a value converted to `uint32_t`. -/
def int2string (value : Int) : Content :=
  (Nat.repr (value % 2 ^ 32).toNat).toList.map fun digit => UInt8.ofNat digit.toNat

/-! ### Messages -/

namespace MessageModel

def sendMessage (relateId fromId toId msgType createTime msgId : Nat) (content : Content) :
    MessageProg Bool := do
  if fromId = 0 ∨ toId = 0 then return false
  else
    match ← issue (.insertMessage
      ⟨relateId, fromId, toId, msgId, content, 0, msgType, createTime⟩) with
    | .ok _ =>
        let _ ← issue (.hincrUnread toId fromId)
        return true
    | _ => return false

def sendAudioMessage (relateId fromId toId msgType createTime msgId : Nat) (content : Content) :
    MessageProg Bool := do
  if content.length ≤ 4 then return false
  else
    let audioId ← AudioModel.saveAudioInfo fromId toId createTime content
    if audioId ≠ -1 then
      sendMessage relateId fromId toId msgType createTime msgId (int2string audioId)
    else return false

end MessageModel

namespace GroupMessageModel

/-- The result of the insert is kept in a variable of its own, and the other one is returned. -/
def sendMessage (fromId groupId msgType createTime msgId : Nat) (content : Content) :
    MessageProg Bool := do
  if ← GroupModel.isInGroup .message fromId groupId then
    match ← issue (.insertGroupMessage
      ⟨groupId, fromId, msgId, content, msgType, 0, createTime⟩) with
    | .ok _ =>
        let _ ← issue (.updateGroupChat groupId)
        let _ ← issue (.incMessageCount fromId groupId)
        let _ ← issue (.clearMessageCount fromId groupId)
        return false
    | _ => return false
  else return false

def sendAudioMessage (fromId groupId msgType createTime msgId : Nat) (content : Content) :
    MessageProg Bool := do
  if content.length ≤ 4 then return false
  else if ← GroupModel.isInGroup .audio fromId groupId then
    let audioId ← AudioModel.saveAudioInfo fromId groupId createTime content
    if audioId ≠ -1 then
      sendMessage fromId groupId msgType createTime msgId (int2string audioId)
    else return false
  else return false

end GroupMessageModel

/-! ### The service -/

def msgTypeSingleText : Nat := 1
def msgTypeSingleAudio : Nat := 2
def msgTypeGroupText : Nat := 17
def msgTypeGroupAudio : Nat := 18

/-- `MsgType_IsValid`. -/
def msgTypeIsValid (msgType : Nat) : Bool :=
  msgType == msgTypeSingleText || msgType == msgTypeSingleAudio ||
    msgType == msgTypeGroupText || msgType == msgTypeGroupAudio

/-- `IMMsgData`, and the time at which it is handled. -/
structure MsgData where
  fromUserId : Id
  toSessionId : Id
  createTime : Nat
  msgType : Nat
  msgData : Content
  now : Nat
deriving DecidableEq, Repr

/-- The session of a user with a peer, which is added when there is none. -/
def openSession (userId peerId sessionType : Nat) : MessageProg Id := do
  let sessionId ← SessionModel.getSessionId userId peerId sessionType false
  if sessionId = invalidValue then SessionModel.addSession userId peerId sessionType
  else return sessionId

/-- How a message of one kind is stored under its id. -/
abbrev StoreRow := Nat → Nat → Nat → Nat → Nat → Content → MessageProg Bool

/-- The branches for group messages. Nothing is answered for a group of which the sender is not
a member. -/
def sendToGroup (store : StoreRow) (msg : MsgData) : MessageProg (Option Id) := do
  let isGroup ← GroupModel.isValidateGroupId msg.toSessionId
  let isMember ←
    if isGroup then GroupModel.isInGroup .service msg.fromUserId msg.toSessionId
    else pure false
  if isMember then
    let sessionId ← openSession msg.fromUserId msg.toSessionId sessionTypeGroup
    if sessionId ≠ invalidValue then
      let msgId ← getMsgId (.group msg.toSessionId)
      if msgId ≠ invalidValue then
        let _ ← store msg.fromUserId msg.toSessionId msg.msgType msg.createTime msgId msg.msgData
        let _ ← SessionModel.updateSession sessionId msg.now
        return some msgId
      else return some invalidValue
    else return some invalidValue
  else return none

/-- The sessions of both users. The session id of the sender is overwritten when that of the
peer is added. -/
def openSessions (fromId toId : Id) : MessageProg (Id × Id) := do
  let sessionId ← openSession fromId toId sessionTypeSingle
  let peerSessionId ← SessionModel.getSessionId toId fromId sessionTypeSingle false
  if peerSessionId = invalidValue then
    return (← SessionModel.addSession toId fromId sessionTypeSingle, peerSessionId)
  else return (sessionId, peerSessionId)

/-- The branches for messages to one user. -/
def sendToUser (store : Id → StoreRow) (msg : MsgData) : MessageProg (Option Id) := do
  if msg.fromUserId = msg.toSessionId then return some invalidValue
  else
    let (sessionId, peerSessionId) ← openSessions msg.fromUserId msg.toSessionId
    let relateId ← RelationModel.getRelationId msg.fromUserId msg.toSessionId true
    if sessionId ≠ invalidValue ∧ relateId ≠ invalidValue then
      let msgId ← getMsgId (.relation relateId)
      if msgId ≠ invalidValue then
        let _ ← store relateId msg.fromUserId msg.toSessionId msg.msgType msg.createTime msgId
          msg.msgData
        let _ ← SessionModel.updateSession sessionId msg.now
        let _ ← SessionModel.updateSession peerSessionId msg.now
        return some msgId
      else return some invalidValue
    else return some invalidValue

/-- `DB_PROXY::sendMessage`: the message id in the response, if there is one. -/
def sendMessage (msg : MsgData) : MessageProg (Option Id) :=
  if msgTypeIsValid msg.msgType = false then return none
  else if msg.msgData.length = 0 then return none
  else if msg.msgType = msgTypeGroupText then sendToGroup GroupMessageModel.sendMessage msg
  else if msg.msgType = msgTypeGroupAudio then sendToGroup GroupMessageModel.sendAudioMessage msg
  else if msg.msgType = msgTypeSingleText then sendToUser MessageModel.sendMessage msg
  else sendToUser MessageModel.sendAudioMessage msg

/-! ### The branches -/

def isGroupType (msgType : Nat) : Bool :=
  msgType == msgTypeGroupText || msgType == msgTypeGroupAudio

def isAudioType (msgType : Nat) : Bool :=
  msgType == msgTypeSingleAudio || msgType == msgTypeGroupAudio

def userStore (msgType : Nat) : Id → StoreRow :=
  if isAudioType msgType then MessageModel.sendAudioMessage else MessageModel.sendMessage

def groupStore (msgType : Nat) : StoreRow :=
  if isAudioType msgType then GroupMessageModel.sendAudioMessage
  else GroupMessageModel.sendMessage

section Branches

variable {msg : MsgData}

theorem sendMessage_toUser (valid : msgTypeIsValid msg.msgType = true)
    (filled : msg.msgData.length ≠ 0) (single : isGroupType msg.msgType = false) :
    sendMessage msg = sendToUser (userStore msg.msgType) msg := by
  unfold sendMessage
  rw [if_neg (by simp [valid]), if_neg filled]
  simp only [isGroupType, msgTypeIsValid, Bool.or_eq_true, Bool.or_eq_false_iff, beq_iff_eq,
    beq_eq_false_iff_ne] at single valid
  rw [if_neg single.1, if_neg single.2]
  split
  · rename_i text
    simp [userStore, isAudioType, text, msgTypeSingleText, msgTypeSingleAudio, msgTypeGroupAudio]
  · rename_i audio
    have audioType : msg.msgType = msgTypeSingleAudio := by tauto
    simp [userStore, isAudioType, audioType]

theorem sendMessage_toGroup (valid : msgTypeIsValid msg.msgType = true)
    (filled : msg.msgData.length ≠ 0) (group : isGroupType msg.msgType = true) :
    sendMessage msg = sendToGroup (groupStore msg.msgType) msg := by
  unfold sendMessage
  rw [if_neg (by simp [valid]), if_neg filled]
  simp only [isGroupType, Bool.or_eq_true, beq_iff_eq] at group
  split
  · rename_i text
    simp [groupStore, isAudioType, text, msgTypeGroupText, msgTypeSingleAudio, msgTypeGroupAudio]
  · rename_i audio
    have audioType : msg.msgType = msgTypeGroupAudio := by tauto
    simp [groupStore, isAudioType, audioType]

theorem sendMessage_rejected
    (rejected : msgTypeIsValid msg.msgType = false ∨ msg.msgData.length = 0) :
    sendMessage msg = return none := by
  unfold sendMessage
  cases rejected with
  | inl invalid => rw [if_pos invalid]
  | inr empty => rw [if_pos empty, ite_self]

end Branches

/-- Everything is found and succeeds. -/
def succeeding : (op : MessageOp) → op.Reply
  | .existsGroup _ => .ok true
  | .hgetMember _ _ _ => .ok true
  | .selectSession _ _ _ _ => .ok [5]
  | .reopenSession _ => .ok ()
  | .insertSession _ _ _ => .ok 5
  | .touchSession _ _ => .ok ()
  | .selectRelation _ _ _ => .ok [9]
  | .activateRelation _ => .ok ()
  | .insertRelation _ _ => .ok 9
  | .setMsgId _ => .ok "OK"
  | .incrMsgId _ => .ok 3
  | .uploadByteFile _ => "path"
  | .insertAudio _ => .ok 7
  | .insertMessage _ => .ok ()
  | .hincrUnread _ _ => .ok ()
  | .insertGroupMessage _ => .ok ()
  | .updateGroupChat _ => .ok ()
  | .incMessageCount _ _ => .ok ()
  | .clearMessageCount _ _ => .ok ()

/-! ### Operations that are issued -/

def SessionOp : MessageOp → Prop
  | .selectSession _ _ _ _ | .reopenSession _ | .insertSession _ _ _ | .touchSession _ _ => True
  | _ => False

theorem getSessionId_sessionOp (userId peerId sessionType : Nat) (isAll : Bool) :
    (SessionModel.getSessionId userId peerId sessionType isAll).Issues SessionOp := by
  apply (Prog.Issues.perform trivial).bind
  intro answer
  cases answer <;> trivial

theorem addSession_sessionOp (userId peerId sessionType : Nat) :
    (SessionModel.addSession userId peerId sessionType).Issues SessionOp := by
  apply (getSessionId_sessionOp userId peerId sessionType true).bind
  intro sessionId
  split
  · apply (Prog.Issues.perform trivial).bind
    intro answer
    cases answer <;> trivial
  · apply (Prog.Issues.perform trivial).bind
    intro answer
    cases answer <;> trivial

theorem openSession_sessionOp (userId peerId sessionType : Nat) :
    (openSession userId peerId sessionType).Issues SessionOp := by
  apply (getSessionId_sessionOp userId peerId sessionType false).bind
  intro sessionId
  split
  · exact addSession_sessionOp userId peerId sessionType
  · trivial

theorem openSessions_sessionOp (fromId toId : Id) :
    (openSessions fromId toId).Issues SessionOp := by
  apply (openSession_sessionOp fromId toId sessionTypeSingle).bind
  intro sessionId
  apply (getSessionId_sessionOp toId fromId sessionTypeSingle false).bind
  intro peerSessionId
  split
  · apply (addSession_sessionOp toId fromId sessionTypeSingle).bind
    exact fun _ => trivial
  · trivial

theorem updateSession_sessionOp (sessionId updateTime : Nat) :
    (SessionModel.updateSession sessionId updateTime).Issues SessionOp := by
  apply (Prog.Issues.perform trivial).bind
  intro answer
  cases answer <;> trivial

def RelationOp : MessageOp → Prop
  | .selectRelation _ _ _ | .activateRelation _ | .insertRelation _ _ | .setMsgId _ => True
  | _ => False

theorem resetMsgId_relationOp (relateId : Id) : (resetMsgId relateId).Issues RelationOp := by
  apply (Prog.Issues.perform trivial).bind
  intro answer
  cases answer <;> trivial

theorem addRelation_relationOp (smallId bigId : Id) :
    (RelationModel.addRelation smallId bigId).Issues RelationOp := by
  have inserted : ∀ relationId : Id,
      (if relationId ≠ invalidValue then resetMsgId relationId >>= fun _ => pure relationId
        else pure relationId : MessageProg Id).Issues RelationOp := by
    intro relationId
    split
    · exact (resetMsgId_relationOp relationId).bind fun _ => trivial
    · trivial
  apply (Prog.Issues.perform trivial).bind
  intro answer
  cases answer with
  | noConnection => trivial
  | failed =>
      apply (Prog.Issues.perform trivial).bind
      intro answer
      cases answer with
      | noConnection => trivial
      | failed => trivial
      | ok relationId => exact inserted relationId
  | ok rows =>
      cases rows with
      | nil =>
          apply (Prog.Issues.perform trivial).bind
          intro answer
          cases answer with
          | noConnection => trivial
          | failed => trivial
          | ok relationId => exact inserted relationId
      | cons relationId rest =>
          apply (Prog.Issues.perform trivial).bind
          intro activated
          cases activated <;> trivial

theorem getRelationId_relationOp (userAId userBId : Id) (add : Bool) :
    (RelationModel.getRelationId userAId userBId add).Issues RelationOp := by
  unfold RelationModel.getRelationId
  split
  · trivial
  · apply (Prog.Issues.perform trivial).bind
    intro answer
    cases answer with
    | noConnection => trivial
    | failed =>
        simp only
        split
        · exact addRelation_relationOp _ _
        · trivial
    | ok rows =>
        simp only
        split
        · exact addRelation_relationOp _ _
        · trivial

def AudioOp : MessageOp → Prop
  | .uploadByteFile _ | .insertAudio _ => True
  | _ => False

theorem saveAudioInfo_audioOp (fromId toId createTime : Nat) (audioData : Content) :
    (AudioModel.saveAudioInfo fromId toId createTime audioData).Issues AudioOp := by
  apply (Prog.Issues.perform trivial).bind
  intro path
  split
  · trivial
  · apply (Prog.Issues.perform trivial).bind
    intro answer
    cases answer <;> trivial

end AChat.DbProxy
