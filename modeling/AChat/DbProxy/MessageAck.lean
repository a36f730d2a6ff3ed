import Mathlib.Tactic.ByContra
import AChat.DbProxy.MessageService

/-!
Contract: what a message id in a response says about the message table.

The id is allocated before the row is inserted, and the result of the insert is not
looked at.

Owns: when a request gets an id, and when its row is inserted.
-/

namespace AChat.DbProxy

open Lib (Prog)

variable (reply : (op : MessageOp) → op.Reply) (msg : MsgData)

/-! ### The specification -/

/-- The operation is issued for the request, and succeeds. -/
def Succeeds (op : MessageOp) (succeeds : op.Reply → Prop) : Prop :=
  op ∈ (sendMessage msg).issued reply ∧ succeeds (reply op)

/-- The content of the request, or the id of the audio row that was saved for it. -/
def StoredContent (content : Content) : Prop :=
  if isAudioType msg.msgType then
    ∃ row audioId, Succeeds reply msg (.insertAudio row) (· = .ok audioId) ∧
      content = int2string audioId
  else content = msg.msgData

/-- The row of the request was inserted with this id. -/
def Stored (msgId : Id) : Prop :=
  if isGroupType msg.msgType then
    ∃ row : GroupMessageRow, Succeeds reply msg (.insertGroupMessage row) (· = .ok ()) ∧
      row.groupId = msg.toSessionId ∧ row.userId = msg.fromUserId ∧ row.msgId = msgId ∧
      StoredContent reply msg row.content
  else
    ∃ row : MessageRow, Succeeds reply msg (.insertMessage row) (· = .ok ()) ∧
      row.relateId =
        (RelationModel.getRelationId msg.fromUserId msg.toSessionId true).eval reply ∧
      row.fromId = msg.fromUserId ∧ row.toId = msg.toSessionId ∧ row.msgId = msgId ∧
      StoredContent reply msg row.content

/-- A response with an id other than 0 says that the message is stored. -/
def AckMeansStored : Prop :=
  ∀ msgId, (sendMessage msg).eval reply = some msgId → msgId ≠ invalidValue →
    Stored reply msg msgId

/-! ### The condition -/

/-- A group message gets this id: the group and the membership are found, the session is there
or can be added, and the counter answers. -/
def GroupAllocates (msgId : Id) : Prop :=
  (GroupModel.isValidateGroupId msg.toSessionId).eval reply = true ∧
    (GroupModel.isInGroup .service msg.fromUserId msg.toSessionId).eval reply = true ∧
    (openSession msg.fromUserId msg.toSessionId sessionTypeGroup).eval reply ≠ invalidValue ∧
    incrResult (reply (.incrMsgId (.group msg.toSessionId))) = msgId ∧ msgId ≠ invalidValue

/-- A message to another user gets this id under this relation. -/
def UserAllocates (relateId msgId : Id) : Prop :=
  msg.fromUserId ≠ msg.toSessionId ∧
    ((openSessions msg.fromUserId msg.toSessionId).eval reply).1 ≠ invalidValue ∧
    (RelationModel.getRelationId msg.fromUserId msg.toSessionId true).eval reply = relateId ∧
    relateId ≠ invalidValue ∧
    incrResult (reply (.incrMsgId (.relation relateId))) = msgId ∧ msgId ≠ invalidValue

/-- The content that the row is to have: audio must be longer than its head, and be saved. -/
def SavesContent (content : Content) : Prop :=
  if isAudioType msg.msgType then
    4 < msg.msgData.length ∧
      ∃ audioId, (AudioModel.saveAudioInfo msg.fromUserId msg.toSessionId msg.createTime
        msg.msgData).eval reply = audioId ∧ audioId ≠ -1 ∧ content = int2string audioId
  else content = msg.msgData

/-- Once a request has an id, everything up to the insert goes well. -/
def InsertsAllocated : Prop :=
  if msgTypeIsValid msg.msgType = false ∨ msg.msgData.length = 0 then True
  else if isGroupType msg.msgType then
    ∀ msgId, GroupAllocates reply msg msgId →
      (isAudioType msg.msgType →
        (GroupModel.isInGroup .audio msg.fromUserId msg.toSessionId).eval reply = true) ∧
      (GroupModel.isInGroup .message msg.fromUserId msg.toSessionId).eval reply = true ∧
      ∃ content, SavesContent reply msg content ∧
        reply (.insertGroupMessage ⟨msg.toSessionId, msg.fromUserId, msgId, content, msg.msgType,
          0, msg.createTime⟩) = .ok ()
  else
    ∀ relateId msgId, UserAllocates reply msg relateId msgId →
      ∃ content, SavesContent reply msg content ∧
        reply (.insertMessage ⟨relateId, msg.fromUserId, msg.toSessionId, msgId, content, 0,
          msg.msgType, msg.createTime⟩) = .ok ()

/-! ### Operations that insert no row -/

def NoRow : MessageOp → Prop
  | .insertMessage _ | .insertGroupMessage _ | .insertAudio _ => False
  | _ => True

theorem SessionOp.noRow (op : MessageOp) (session : SessionOp op) : NoRow op := by
  cases op <;> trivial

theorem RelationOp.noRow (op : MessageOp) (relation : RelationOp op) : NoRow op := by
  cases op <;> trivial

theorem isInGroup_noRow (check : MemberCheck) (userId groupId : Id) :
    (GroupModel.isInGroup check userId groupId).Issues NoRow := by
  apply (Prog.Issues.perform trivial).bind
  intro answer
  cases answer <;> trivial

theorem isValidateGroupId_noRow (groupId : Id) :
    (GroupModel.isValidateGroupId groupId).Issues NoRow := by
  apply (Prog.Issues.perform trivial).bind
  intro answer
  cases answer <;> trivial

/-! ### Requests with an id -/

variable {reply msg}

theorem getMsgId_eval (key : MsgIdKey) :
    (getMsgId key).eval reply = incrResult (reply (.incrMsgId key)) :=
  rfl

theorem getMsgId_issued (key : MsgIdKey) :
    (getMsgId key).issued reply = [.incrMsgId key] :=
  rfl

theorem updateSession_issued (sessionId updateTime : Nat) :
    (SessionModel.updateSession sessionId updateTime).issued reply =
      [.touchSession sessionId updateTime] := by
  simp only [SessionModel.updateSession, Prog.perform_bind, Prog.issued_call]
  split <;> rfl

/-- What the branch for one user does once it has an id. -/
theorem sendToUser_allocated (store : Id → StoreRow) {relateId msgId : Id}
    (allocates : UserAllocates reply msg relateId msgId) :
    (sendToUser store msg).eval reply = some msgId ∧
      ∀ op, ¬NoRow op → (op ∈ (sendToUser store msg).issued reply ↔
        op ∈ (store relateId msg.fromUserId msg.toSessionId msg.msgType msg.createTime msgId
          msg.msgData).issued reply) := by
  obtain ⟨other, session, relation, related, counted, allocated⟩ := allocates
  have sessions := (openSessions_sessionOp msg.fromUserId msg.toSessionId).mono SessionOp.noRow
  have relations :=
    (getRelationId_relationOp msg.fromUserId msg.toSessionId true).mono RelationOp.noRow
  unfold sendToUser
  rw [if_neg other]
  simp only [Prog.eval_bind, Prog.issued_bind, relation, session, related, ne_eq,
    not_false_eq_true, if_true, getMsgId_eval, getMsgId_issued, updateSession_issued,
    counted, allocated, Prog.pure_eq_done, Prog.eval_done, Prog.issued_done, true_and]
  intro op row
  constructor
  · intro member
    simp only [List.mem_append, List.mem_singleton, List.not_mem_nil, or_false] at member
    rcases member with member | member | member | member | member | member
    · exact absurd (sessions.of_mem member) row
    · exact absurd (relations.of_mem member) row
    · exact absurd (member ▸ trivial) row
    · exact member
    · exact absurd (member ▸ trivial) row
    · exact absurd (member ▸ trivial) row
  · intro member
    simp only [List.mem_append, member, true_or, or_true]

theorem sendToUser_allocates (store : Id → StoreRow) {msgId : Id}
    (response : (sendToUser store msg).eval reply = some msgId) (allocated : msgId ≠ invalidValue) :
    ∃ relateId, UserAllocates reply msg relateId msgId := by
  unfold sendToUser at response
  split at response
  · exact absurd (Option.some.inj response).symm allocated
  · rename_i other
    simp only [Prog.eval_bind] at response
    split at response
    · rename_i session
      simp only [Prog.eval_bind] at response
      split at response
      · simp only [Prog.eval_bind, Prog.pure_eq_done, Prog.eval_done] at response
        exact ⟨_, other, session.1, rfl, session.2, Option.some.inj response, allocated⟩
      · exact absurd (Option.some.inj response).symm allocated
    · exact absurd (Option.some.inj response).symm allocated

theorem sendToGroup_allocated (store : StoreRow) {msgId : Id}
    (allocates : GroupAllocates reply msg msgId) :
    (sendToGroup store msg).eval reply = some msgId ∧
      ∀ op, ¬NoRow op → (op ∈ (sendToGroup store msg).issued reply ↔
        op ∈ (store msg.fromUserId msg.toSessionId msg.msgType msg.createTime msgId
          msg.msgData).issued reply) := by
  obtain ⟨group, memberOf, session, counted, allocated⟩ := allocates
  have sessions :=
    (openSession_sessionOp msg.fromUserId msg.toSessionId sessionTypeGroup).mono SessionOp.noRow
  have groups := isValidateGroupId_noRow msg.toSessionId
  have members := isInGroup_noRow .service msg.fromUserId msg.toSessionId
  unfold sendToGroup
  simp only [Prog.eval_bind, Prog.issued_bind, group, memberOf, session, ne_eq,
    not_false_eq_true, if_true, getMsgId_eval, getMsgId_issued, updateSession_issued,
    counted, allocated, Prog.pure_eq_done, Prog.eval_done, Prog.issued_done, true_and]
  intro op row
  constructor
  · intro member
    simp only [List.mem_append, List.mem_singleton, List.not_mem_nil, or_false] at member
    rcases member with member | member | member | member | member | member
    · exact absurd (groups.of_mem member) row
    · exact absurd (members.of_mem member) row
    · exact absurd (sessions.of_mem member) row
    · exact absurd (member ▸ trivial) row
    · exact member
    · exact absurd (member ▸ trivial) row
  · intro member
    simp only [List.mem_append, member, true_or, or_true]

theorem sendToGroup_allocates (store : StoreRow) {msgId : Id}
    (response : (sendToGroup store msg).eval reply = some msgId)
    (allocated : msgId ≠ invalidValue) :
    GroupAllocates reply msg msgId := by
  unfold sendToGroup at response
  simp only [Prog.eval_bind] at response
  split at response
  · rename_i group
    simp only [Prog.eval_bind] at response
    split at response
    · rename_i memberOf
      simp only [Prog.eval_bind] at response
      split at response
      · rename_i session
        simp only [Prog.eval_bind] at response
        split at response
        · simp only [Prog.eval_bind, Prog.pure_eq_done, Prog.eval_done] at response
          exact ⟨group, memberOf, session, Option.some.inj response, allocated⟩
        · exact absurd (Option.some.inj response).symm allocated
      · exact absurd (Option.some.inj response).symm allocated
    · cases response
  · cases response

/-! ### Rows -/

theorem saveAudioInfo_inserts (fromId toId createTime : Nat) (audioData : Content)
    {audioId : Int} (saved : (AudioModel.saveAudioInfo fromId toId createTime audioData).eval reply
      = audioId) (valid : audioId ≠ -1) :
    ∃ row, .insertAudio row ∈
        (AudioModel.saveAudioInfo fromId toId createTime audioData).issued reply ∧
      reply (.insertAudio row) = .ok audioId := by
  unfold AudioModel.saveAudioInfo at saved ⊢
  simp only [Prog.perform_bind, Prog.eval_call, Prog.issued_call] at saved ⊢
  split at saved
  · exact absurd saved.symm valid
  · rename_i path
    rw [if_neg path]
    simp only [Prog.eval_call, Prog.issued_call] at saved ⊢
    split at saved
    · rename_i inserted same
      refine ⟨_, List.mem_cons_of_mem _ List.mem_cons_self, ?_⟩
      exact same.trans (congrArg Answer.ok saved)
    · exact absurd saved.symm valid

theorem sendMessage_inserts {relateId fromId toId msgType createTime msgId : Nat}
    {content : Content} (sender : fromId ≠ 0) (receiver : toId ≠ 0) (row : MessageRow) :
    .insertMessage row ∈ (MessageModel.sendMessage relateId fromId toId msgType createTime msgId
        content).issued reply ↔
      row = ⟨relateId, fromId, toId, msgId, content, 0, msgType, createTime⟩ := by
  unfold MessageModel.sendMessage
  rw [if_neg (not_or.mpr ⟨sender, receiver⟩)]
  simp only [Prog.perform_bind, Prog.issued_call, List.mem_cons, MessageOp.insertMessage.injEq]
  split <;> simp

theorem sendAudioMessage_inserts {relateId fromId toId msgType createTime msgId : Nat}
    {content : Content} (sender : fromId ≠ 0) (receiver : toId ≠ 0) (row : MessageRow) :
    .insertMessage row ∈ (MessageModel.sendAudioMessage relateId fromId toId msgType createTime
        msgId content).issued reply ↔
      4 < content.length ∧
        (AudioModel.saveAudioInfo fromId toId createTime content).eval reply ≠ -1 ∧
        row = ⟨relateId, fromId, toId, msgId, int2string
          ((AudioModel.saveAudioInfo fromId toId createTime content).eval reply), 0, msgType,
          createTime⟩ := by
  have audio := saveAudioInfo_audioOp fromId toId createTime content
  unfold MessageModel.sendAudioMessage
  split
  · rename_i short
    simp [Nat.not_lt.mpr short]
  · rename_i long
    simp only [Prog.issued_bind, List.mem_append]
    constructor
    · intro member
      cases member with
      | inl saving => exact (audio.of_mem saving).elim
      | inr inserting =>
          split at inserting
          · rename_i saved
            exact ⟨by omega, saved, (sendMessage_inserts sender receiver row).mp inserting⟩
          · cases inserting
    · intro inserts
      rw [if_pos inserts.2.1]
      exact .inr ((sendMessage_inserts sender receiver row).mpr inserts.2.2)

theorem group_sendMessage_inserts {fromId groupId msgType createTime msgId : Nat}
    {content : Content} (row : GroupMessageRow) :
    .insertGroupMessage row ∈ (GroupMessageModel.sendMessage fromId groupId msgType createTime
        msgId content).issued reply ↔
      (GroupModel.isInGroup .message fromId groupId).eval reply = true ∧
        row = ⟨groupId, fromId, msgId, content, msgType, 0, createTime⟩ := by
  have members := isInGroup_noRow .message fromId groupId
  unfold GroupMessageModel.sendMessage
  simp only [Prog.issued_bind, List.mem_append]
  constructor
  · intro member
    cases member with
    | inl checking => exact (members.of_mem checking).elim
    | inr inserting =>
        split at inserting
        · rename_i memberOf
          simp only [Prog.perform_bind, Prog.issued_call, List.mem_cons,
            MessageOp.insertGroupMessage.injEq] at inserting
          cases inserting with
          | inl same => exact ⟨memberOf, same⟩
          | inr later => split at later <;> simp at later
        · cases inserting
  · intro inserts
    rw [if_pos inserts.1, inserts.2]
    exact .inr List.mem_cons_self

theorem group_sendAudioMessage_inserts {fromId groupId msgType createTime msgId : Nat}
    {content : Content} (row : GroupMessageRow) :
    .insertGroupMessage row ∈ (GroupMessageModel.sendAudioMessage fromId groupId msgType
        createTime msgId content).issued reply ↔
      4 < content.length ∧ (GroupModel.isInGroup .audio fromId groupId).eval reply = true ∧
        (AudioModel.saveAudioInfo fromId groupId createTime content).eval reply ≠ -1 ∧
        (GroupModel.isInGroup .message fromId groupId).eval reply = true ∧
        row = ⟨groupId, fromId, msgId, int2string
          ((AudioModel.saveAudioInfo fromId groupId createTime content).eval reply), msgType, 0,
          createTime⟩ := by
  have audio := saveAudioInfo_audioOp fromId groupId createTime content
  have members := isInGroup_noRow .audio fromId groupId
  unfold GroupMessageModel.sendAudioMessage
  split
  · rename_i short
    simp [Nat.not_lt.mpr short]
  · rename_i long
    simp only [Prog.issued_bind, List.mem_append]
    constructor
    · intro member
      cases member with
      | inl checking => exact (members.of_mem checking).elim
      | inr continuing =>
          split at continuing
          · rename_i memberOf
            simp only [Prog.issued_bind, List.mem_append] at continuing
            cases continuing with
            | inl saving => exact (audio.of_mem saving).elim
            | inr inserting =>
                split at inserting
                · rename_i saved
                  exact ⟨by omega, memberOf, saved, (group_sendMessage_inserts row).mp inserting⟩
                · cases inserting
          · cases continuing
    · intro inserts
      obtain ⟨_, memberOf, saved, inserted⟩ := inserts
      rw [if_pos memberOf]
      simp only [Prog.issued_bind, List.mem_append]
      rw [if_pos saved]
      exact .inr (.inr ((group_sendMessage_inserts row).mpr inserted))

theorem userStore_inserts {relateId msgId : Id} (sender : msg.fromUserId ≠ 0)
    (receiver : msg.toSessionId ≠ 0) (row : MessageRow) :
    .insertMessage row ∈ (userStore msg.msgType relateId msg.fromUserId msg.toSessionId
        msg.msgType msg.createTime msgId msg.msgData).issued reply ↔
      ∃ content, SavesContent reply msg content ∧
        row = ⟨relateId, msg.fromUserId, msg.toSessionId, msgId, content, 0, msg.msgType,
          msg.createTime⟩ := by
  unfold userStore SavesContent
  split
  · apply (sendAudioMessage_inserts sender receiver row).trans
    constructor
    · intro inserts
      exact ⟨_, ⟨inserts.1, _, rfl, inserts.2.1, rfl⟩, inserts.2.2⟩
    · intro saves
      obtain ⟨content, ⟨long, audioId, saved, valid, rfl⟩, same⟩ := saves
      exact ⟨long, saved ▸ valid, saved ▸ same⟩
  · apply (sendMessage_inserts sender receiver row).trans
    simp only [exists_eq_left]

theorem groupStore_inserts {msgId : Id} (row : GroupMessageRow) :
    .insertGroupMessage row ∈ (groupStore msg.msgType msg.fromUserId msg.toSessionId
        msg.msgType msg.createTime msgId msg.msgData).issued reply ↔
      (isAudioType msg.msgType →
        (GroupModel.isInGroup .audio msg.fromUserId msg.toSessionId).eval reply = true) ∧
      (GroupModel.isInGroup .message msg.fromUserId msg.toSessionId).eval reply = true ∧
      ∃ content, SavesContent reply msg content ∧
        row = ⟨msg.toSessionId, msg.fromUserId, msgId, content, msg.msgType, 0,
          msg.createTime⟩ := by
  unfold groupStore SavesContent
  split
  · rename_i audio
    apply (group_sendAudioMessage_inserts row).trans
    constructor
    · intro inserts
      obtain ⟨long, audioMember, saved, messageMember, same⟩ := inserts
      exact ⟨fun _ => audioMember, messageMember, _, ⟨long, _, rfl, saved, rfl⟩, same⟩
    · intro saves
      obtain ⟨audioMember, messageMember, content, ⟨long, audioId, saved, valid, rfl⟩, same⟩ :=
        saves
      exact ⟨long, audioMember audio, saved ▸ valid, messageMember, saved ▸ same⟩
  · rename_i text
    apply (group_sendMessage_inserts row).trans
    simp only [exists_eq_left, text, Bool.false_eq_true, false_implies, true_and]

/-- Audio content is saved before the row. -/
theorem userStore_audio (relateId msgId : Id) {content : Content}
    (audio : isAudioType msg.msgType = true) (saves : SavesContent reply msg content) :
    ∃ row audioId, .insertAudio row ∈ (userStore msg.msgType relateId msg.fromUserId
        msg.toSessionId msg.msgType msg.createTime msgId msg.msgData).issued reply ∧
      reply (.insertAudio row) = .ok audioId ∧ content = int2string audioId := by
  rw [SavesContent, if_pos audio] at saves
  obtain ⟨long, audioId, saved, valid, same⟩ := saves
  obtain ⟨row, inserting, inserted⟩ := saveAudioInfo_inserts _ _ _ _ saved valid
  refine ⟨row, audioId, ?_, inserted, same⟩
  rw [userStore, if_pos audio, MessageModel.sendAudioMessage, if_neg (Nat.not_le.mpr long),
    Prog.issued_bind]
  exact List.mem_append_left _ inserting

theorem groupStore_audio (msgId : Id) {content : Content}
    (audio : isAudioType msg.msgType = true) (saves : SavesContent reply msg content)
    (memberOf :
      (GroupModel.isInGroup .audio msg.fromUserId msg.toSessionId).eval reply = true) :
    ∃ row audioId, .insertAudio row ∈ (groupStore msg.msgType msg.fromUserId msg.toSessionId
        msg.msgType msg.createTime msgId msg.msgData).issued reply ∧
      reply (.insertAudio row) = .ok audioId ∧ content = int2string audioId := by
  rw [SavesContent, if_pos audio] at saves
  obtain ⟨long, audioId, saved, valid, same⟩ := saves
  obtain ⟨row, inserting, inserted⟩ := saveAudioInfo_inserts _ _ _ _ saved valid
  refine ⟨row, audioId, ?_, inserted, same⟩
  rw [groupStore, if_pos audio, GroupMessageModel.sendAudioMessage,
    if_neg (Nat.not_le.mpr long), Prog.issued_bind, if_pos memberOf, Prog.issued_bind]
  exact List.mem_append_right _ (List.mem_append_left _ inserting)

theorem getRelationId_users {userAId userBId : Id} {add : Bool}
    (related : (RelationModel.getRelationId userAId userBId add).eval reply ≠ invalidValue) :
    userAId ≠ 0 ∧ userBId ≠ 0 := by
  by_contra missing
  rw [RelationModel.getRelationId, if_pos (by tauto)] at related
  exact related rfl

/-! ### Requests -/

theorem user_stored_iff (valid : msgTypeIsValid msg.msgType = true)
    (filled : msg.msgData.length ≠ 0) (single : isGroupType msg.msgType = false)
    {relateId msgId : Id} (allocates : UserAllocates reply msg relateId msgId) :
    Stored reply msg msgId ↔
      ∃ content, SavesContent reply msg content ∧
        reply (.insertMessage ⟨relateId, msg.fromUserId, msg.toSessionId, msgId, content, 0,
          msg.msgType, msg.createTime⟩) = .ok () := by
  have issues := (sendToUser_allocated (userStore msg.msgType) allocates).2
  obtain ⟨_, _, relation, related, _, _⟩ := allocates
  have users := getRelationId_users (relation ▸ related)
  rw [Stored, if_neg (by simp [single])]
  constructor
  · intro stored
    obtain ⟨row, ⟨inserting, inserted⟩, _, _, _, _, _⟩ := stored
    rw [sendMessage_toUser valid filled single, issues _ id,
      userStore_inserts users.1 users.2] at inserting
    obtain ⟨content, saves, rfl⟩ := inserting
    exact ⟨content, saves, inserted⟩
  · intro inserts
    obtain ⟨content, saves, inserted⟩ := inserts
    refine ⟨_, ⟨?_, inserted⟩, relation.symm, rfl, rfl, rfl, ?_⟩
    · rw [sendMessage_toUser valid filled single, issues _ id,
        userStore_inserts users.1 users.2]
      exact ⟨content, saves, rfl⟩
    · unfold StoredContent
      split
      · rename_i audio
        obtain ⟨row, audioId, saving, saved, same⟩ :=
          userStore_audio relateId msgId audio saves
        refine ⟨row, audioId, ⟨?_, saved⟩, same⟩
        rw [sendMessage_toUser valid filled single, issues _ id]
        exact saving
      · rename_i text
        rwa [SavesContent, if_neg text] at saves

theorem group_stored_iff (valid : msgTypeIsValid msg.msgType = true)
    (filled : msg.msgData.length ≠ 0) (group : isGroupType msg.msgType = true) {msgId : Id}
    (allocates : GroupAllocates reply msg msgId) :
    Stored reply msg msgId ↔
      (isAudioType msg.msgType →
        (GroupModel.isInGroup .audio msg.fromUserId msg.toSessionId).eval reply = true) ∧
      (GroupModel.isInGroup .message msg.fromUserId msg.toSessionId).eval reply = true ∧
      ∃ content, SavesContent reply msg content ∧
        reply (.insertGroupMessage ⟨msg.toSessionId, msg.fromUserId, msgId, content, msg.msgType,
          0, msg.createTime⟩) = .ok () := by
  have issues := (sendToGroup_allocated (groupStore msg.msgType) allocates).2
  rw [Stored, if_pos group]
  constructor
  · intro stored
    obtain ⟨row, ⟨inserting, inserted⟩, _, _, _, _⟩ := stored
    rw [sendMessage_toGroup valid filled group, issues _ id, groupStore_inserts] at inserting
    obtain ⟨audioMember, messageMember, content, saves, rfl⟩ := inserting
    exact ⟨audioMember, messageMember, content, saves, inserted⟩
  · intro inserts
    obtain ⟨audioMember, messageMember, content, saves, inserted⟩ := inserts
    refine ⟨_, ⟨?_, inserted⟩, rfl, rfl, rfl, ?_⟩
    · rw [sendMessage_toGroup valid filled group, issues _ id, groupStore_inserts]
      exact ⟨audioMember, messageMember, content, saves, rfl⟩
    · unfold StoredContent
      split
      · rename_i audio
        obtain ⟨row, audioId, saving, saved, same⟩ :=
          groupStore_audio msgId audio saves (audioMember audio)
        refine ⟨row, audioId, ⟨?_, saved⟩, same⟩
        rw [sendMessage_toGroup valid filled group, issues _ id]
        exact saving
      · rename_i text
        rwa [SavesContent, if_neg text] at saves

/-- A response with an id says that the message is stored exactly when, for every id that the
request is given, the row is inserted. -/
theorem ackMeansStored_iff (reply : (op : MessageOp) → op.Reply) (msg : MsgData) :
    AckMeansStored reply msg ↔ InsertsAllocated reply msg := by
  unfold InsertsAllocated
  by_cases rejected : msgTypeIsValid msg.msgType = false ∨ msg.msgData.length = 0
  · rw [if_pos rejected, AckMeansStored, sendMessage_rejected rejected]
    exact iff_of_true (fun _ response => by cases response) trivial
  · have valid : msgTypeIsValid msg.msgType = true := by
      simpa using (not_or.mp rejected).1
    have filled := (not_or.mp rejected).2
    rw [if_neg rejected]
    split
    · rename_i group
      constructor
      · intro ack msgId allocates
        have response := (sendToGroup_allocated (groupStore msg.msgType) allocates).1
        rw [← sendMessage_toGroup valid filled group] at response
        exact (group_stored_iff valid filled group allocates).mp
          (ack msgId response allocates.2.2.2.2)
      · intro inserts msgId response allocated
        rw [sendMessage_toGroup valid filled group] at response
        have allocates := sendToGroup_allocates _ response allocated
        exact (group_stored_iff valid filled group allocates).mpr (inserts msgId allocates)
    · rename_i notGroup
      have single : isGroupType msg.msgType = false := Bool.eq_false_iff.mpr notGroup
      constructor
      · intro ack relateId msgId allocates
        have response := (sendToUser_allocated (userStore msg.msgType) allocates).1
        rw [← sendMessage_toUser valid filled single] at response
        exact (user_stored_iff valid filled single allocates).mp
          (ack msgId response allocates.2.2.2.2.2)
      · intro inserts msgId response allocated
        rw [sendMessage_toUser valid filled single] at response
        obtain ⟨relateId, allocates⟩ := sendToUser_allocates _ response allocated
        exact (user_stored_iff valid filled single allocates).mpr
          (inserts relateId msgId allocates)

/-! ### A row that cannot be inserted -/

/-- A text from user 1 to user 2. -/
def plainText : MsgData :=
  ⟨1, 2, 100, msgTypeSingleText, [104, 105], 100⟩

/-- Only the statement that inserts the row fails. -/
def insertFails : (op : MessageOp) → op.Reply
  | .insertMessage _ => .failed
  | op => succeeding op

theorem ack_without_row :
    (sendMessage plainText).eval insertFails = some 3 ∧ ¬Stored insertFails plainText 3 ∧
      ¬AckMeansStored insertFails plainText := by
  have response : (sendMessage plainText).eval insertFails = some 3 := rfl
  have absent : ¬Stored insertFails plainText 3 := by
    intro stored
    obtain ⟨row, ⟨_, inserted⟩, _⟩ := stored
    cases inserted
  exact ⟨response, absent, fun ack => absent (ack 3 response (by decide))⟩

end AChat.DbProxy
