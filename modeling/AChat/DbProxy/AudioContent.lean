import AChat.Lib.NumberText
import AChat.DbProxy.MessageHistory

/-!
Contract: an audio message comes back as it was sent.

The data of an audio message is uploaded without its head of four bytes, which is kept as the
duration, and the row of the message has the id of the audio row in its place. Reading puts the
two together again, unless the duration is 0.

Owns:
- the audio row that is saved, and the rows of the messages that refer to it;
- the condition under which the data comes back in a page of the rows that are stored, for
  messages to users and to groups.
-/

namespace AChat.DbProxy

open Lib (Prog)

/-! ### The head -/

theorem writeUint32_readUint32 {data : Content} (long : 4 ≤ data.length) :
    writeUint32 (readUint32 data) ++ data.drop 4 = data := by
  match data, long with
  | a :: b :: c :: d :: rest, _ =>
      have bytes := And.intro a.toNat_lt (And.intro b.toNat_lt (And.intro c.toNat_lt d.toNat_lt))
      have head : ∀ (value : Nat) (byte : UInt8), value % 256 = byte.toNat →
          UInt8.ofNat value = byte := by
        intro value byte same
        apply UInt8.toNat_inj.mp
        rw [UInt8.toNat_ofNat', same]
      simp only [readUint32, writeUint32, List.drop_succ_cons, List.drop_zero, List.cons_append,
        List.nil_append]
      rw [head _ a (by omega), head _ b (by omega), head _ c (by omega), head _ d (by omega)]

/-- A head that is 0 has no digits. -/
theorem head_of_readUint32 {data : Content} (long : 4 ≤ data.length) (zero : readUint32 data = 0) :
    data.head? = some 0 := by
  match data, long with
  | a :: b :: c :: d :: rest, _ =>
      simp only [readUint32] at zero
      have first : a.toNat = 0 := by omega
      rw [List.head?_cons, UInt8.toNat_inj.mp (first.trans UInt8.toNat_zero.symm)]

theorem zero_not_mem_int2string (value : Int) : 0 ∉ int2string value := by
  intro member
  unfold int2string at member
  rw [← Nat.toString_eq_repr] at member
  obtain ⟨digit, among, zero⟩ := List.mem_map.mp member
  have isDigit := Lib.isDigit_of_mem_toString among
  have code := congrArg UInt8.toNat zero
  simp only [Char.isDigit, Bool.and_eq_true, decide_eq_true_eq, UInt32.le_iff_toNat_le] at isDigit
  rw [UInt8.toNat_ofNat', UInt8.toNat_zero] at code
  have low : 48 ≤ digit.toNat := isDigit.1
  have high : digit.toNat ≤ 57 := isDigit.2
  omega

/-! ### What is stored -/

section Stored

variable {reply : (op : MessageOp) → op.Reply}

/-- The audio row has the head as its duration, and what was uploaded has the rest. -/
theorem saveAudioInfo_eval {fromId toId createTime : Nat} {data : Content} {audioId : Int}
    (saved : (AudioModel.saveAudioInfo fromId toId createTime data).eval reply = audioId)
    (valid : audioId ≠ -1) :
    reply (.uploadByteFile (data.drop 4)) ≠ "" ∧
      reply (.insertAudio ⟨fromId, toId, reply (.uploadByteFile (data.drop 4)), data.length - 4,
        readUint32 data, createTime⟩) = .ok audioId := by
  unfold AudioModel.saveAudioInfo at saved
  simp only [Prog.perform_bind, Prog.eval_call] at saved
  split at saved
  · exact absurd saved.symm valid
  · rename_i path
    refine ⟨path, ?_⟩
    simp only [Prog.eval_call] at saved
    split at saved
    · rename_i inserted same
      exact same.trans (congrArg Answer.ok saved)
    · exact absurd saved.symm valid

variable {msg : MsgData} {msgId : Id}

/-- The row of an acknowledged message to a user. -/
theorem userRow_of_issued (single : isGroupType msg.msgType = false)
    (response : (sendMessage msg).eval reply = some msgId) (acknowledged : msgId ≠ invalidValue)
    {row : MessageRow} (issued : .insertMessage row ∈ (sendMessage msg).issued reply) :
    ∃ relateId content, relateId ≠ invalidValue ∧ SavesContent reply msg content ∧
      row = ⟨relateId, msg.fromUserId, msg.toSessionId, msgId, content, 0, msg.msgType,
        msg.createTime⟩ := by
  by_cases rejected : msgTypeIsValid msg.msgType = false ∨ msg.msgData.length = 0
  · rw [sendMessage_rejected rejected] at response
    cases response
  · have valid : msgTypeIsValid msg.msgType = true := by
      simpa using (not_or.mp rejected).1
    have filled := (not_or.mp rejected).2
    rw [sendMessage_toUser valid filled single] at response issued
    obtain ⟨relateId, allocates⟩ := sendToUser_allocates _ response acknowledged
    obtain ⟨_, _, related, validRelation, _⟩ := id allocates
    rw [← related] at validRelation
    have users := getRelationId_users validRelation
    rw [(sendToUser_allocated _ allocates).2 (.insertMessage row) not_false,
      userStore_inserts users.1 users.2] at issued
    obtain ⟨content, saves, rfl⟩ := issued
    exact ⟨relateId, content, related ▸ validRelation, saves, rfl⟩

/-- The row of an acknowledged message to a group. -/
theorem groupRow_of_issued (group : isGroupType msg.msgType = true)
    (response : (sendMessage msg).eval reply = some msgId) (acknowledged : msgId ≠ invalidValue)
    {row : GroupMessageRow} (issued : .insertGroupMessage row ∈ (sendMessage msg).issued reply) :
    ∃ content, SavesContent reply msg content ∧
      row = ⟨msg.toSessionId, msg.fromUserId, msgId, content, msg.msgType, 0, msg.createTime⟩ := by
  by_cases rejected : msgTypeIsValid msg.msgType = false ∨ msg.msgData.length = 0
  · rw [sendMessage_rejected rejected] at response
    cases response
  · have valid : msgTypeIsValid msg.msgType = true := by
      simpa using (not_or.mp rejected).1
    have filled := (not_or.mp rejected).2
    rw [sendMessage_toGroup valid filled group] at response issued
    have allocates := sendToGroup_allocates _ response acknowledged
    rw [(sendToGroup_allocated _ allocates).2 (.insertGroupMessage row) not_false,
      groupStore_inserts] at issued
    obtain ⟨_, _, content, saves, same⟩ := issued
    exact ⟨content, saves, same⟩

end Stored

/-! ### What comes back -/

/-- The file site gives back what was uploaded, and the audio rows are found by their ids. -/
structure KeepsAudio (reply : (op : MessageOp) → op.Reply) (calls : AudioCalls) : Prop where
  connection : calls.connection = true
  answered : calls.Answered
  uploaded : ∀ data, reply (.uploadByteFile data) ≠ "" →
    calls.downloadByteFile (reply (.uploadByteFile data)) data.length = some data
  inserted : ∀ row audioId, reply (.insertAudio row) = .ok audioId →
    calls.selectAudio (int2string audioId) = some [row]

/-- A page from the newest message on, that has room for all rows, among which is the one that
the request inserted. -/
inductive PageWith (reply : (op : MessageOp) → op.Reply) (calls : HistoryCalls) (msg : MsgData) :
    List MsgInfo → Prop where
  | ofUsers {history : MessageIds.History} {row : MessageRow} {userId peerId : Id} {count : Nat}
      (single : isGroupType msg.msgType = false)
      (issued : .insertMessage row ∈ (sendMessage msg).issued reply)
      (stored : row ∈ history.store.messages) (orderly : MessageHistory.Orderly history)
      (relation : MessageModel.relationOf history.store calls userId peerId = row.relateId)
      (enough : history.store.messages.length ≤ count) :
      PageWith reply calls msg (MessageModel.getMessage history.store calls userId peerId 0 count)
  | ofGroup {rows : List GroupMessageRow} {row : GroupMessageRow} {joinTime count : Nat}
      (group : isGroupType msg.msgType = true)
      (issued : .insertGroupMessage row ∈ (sendMessage msg).issued reply) (stored : row ∈ rows)
      (orderly : InOrder GroupMessageRow.msgId GroupMessageRow.created
        (rows.filter fun other =>
          other.groupId == row.groupId && other.status == 0 && joinTime ≤ other.created))
      (valid : ∀ other ∈ rows, msgTypeIsValid other.type = true)
      (joined : joinTime ≤ row.created) (enough : rows.length ≤ count) :
      PageWith reply calls msg
        (GroupMessageModel.getMessage rows calls joinTime row.groupId 0 count)

section Reading

variable {reply : (op : MessageOp) → op.Reply} {calls : AudioCalls} {msg : MsgData}

/-- What a reader is shown for the content that was saved. -/
theorem shown_data_iff (keeps : KeepsAudio reply calls) (audio : isAudioType msg.msgType = true)
    {content : Content} (saves : SavesContent reply msg content) {info : MsgInfo}
    (msgType : info.msgType = msg.msgType) (data : info.msgData = ResultSet.getString content) :
    (AudioModel.shown calls info).msgData = msg.msgData ↔ readUint32 msg.msgData ≠ 0 := by
  rw [SavesContent, if_pos audio] at saves
  obtain ⟨long, audioId, saved, valid, rfl⟩ := saves
  rw [ResultSet.getString_eq (zero_not_mem_int2string audioId)] at data
  obtain ⟨path, inserted⟩ := saveAudioInfo_eval saved valid
  have found := keeps.inserted _ _ inserted
  have download := keeps.uploaded _ path
  rw [List.length_drop] at download
  have size : msg.msgData.length - 4 ≠ 0 := by omega
  rw [← msgType] at audio
  unfold AudioModel.shown AudioModel.readAudio
  rw [if_pos keeps.connection, if_pos audio, data, found]
  simp only [Option.map_some, Option.getD_some, List.foldl_cons, List.foldl_nil,
    AudioModel.readAudioContent, path, size, false_or, or_false]
  by_cases duration : readUint32 msg.msgData = 0
  · rw [if_pos duration, data]
    refine iff_of_false ?_ (fun positive => positive duration)
    intro same
    have head := head_of_readUint32 (by omega) duration
    rw [← same] at head
    exact zero_not_mem_int2string audioId (List.mem_of_mem_head? head)
  · rw [if_neg duration, download]
    exact iff_of_true (writeUint32_readUint32 (by omega)) duration

/-- The message of a row is the only one with its id. -/
theorem exists_shown_iff {Row : Type} {msgIdOf created : Row → Nat} {info : Row → MsgInfo}
    {rows : List Row} (inOrder : InOrder msgIdOf created rows)
    (named : ∀ row, (info row).msgId = msgIdOf row) {row : Row} (member : row ∈ rows)
    (data : Content) :
    (∃ shown ∈ rows.reverse.map (AudioModel.shown calls ∘ info),
        shown.msgId = msgIdOf row ∧ shown.msgData = data) ↔
      (AudioModel.shown calls (info row)).msgData = data := by
  have id (row : Row) : (AudioModel.shown calls (info row)).msgId = msgIdOf row :=
    (AudioModel.shown_msgId _).trans (named row)
  have distinct : (rows.map msgIdOf).Nodup :=
    List.pairwise_map.mpr (inOrder.imp fun ordered => Nat.ne_of_lt ordered.1)
  constructor
  · rintro ⟨_, among, sameId, sameData⟩
    obtain ⟨other, there, rfl⟩ := List.mem_map.mp among
    have one : other = row := List.inj_on_of_nodup_map distinct (List.mem_reverse.mp there) member
      ((id other).symm.trans sameId)
    exact one ▸ sameData
  · intro same
    exact ⟨_, List.mem_map.mpr ⟨row, List.mem_reverse.mpr member, rfl⟩, id row, same⟩

end Reading

/-- An audio message that was acknowledged and whose row is stored comes back as it was sent
exactly when its duration is not 0. -/
theorem audio_comes_back_iff {reply : (op : MessageOp) → op.Reply} {calls : HistoryCalls}
    (keeps : KeepsAudio reply calls.audio)
    (reached : calls.connection = true ∧ calls.resultSet = true) {msg : MsgData} {msgId : Id}
    (audio : isAudioType msg.msgType = true)
    (response : (sendMessage msg).eval reply = some msgId) (acknowledged : msgId ≠ invalidValue)
    {page : List MsgInfo} (reads : PageWith reply calls msg page) :
    (∃ info ∈ page, info.msgId = msgId ∧ info.msgData = msg.msgData) ↔
      readUint32 msg.msgData ≠ 0 := by
  cases reads with
  | @ofUsers history row userId peerId count single issued stored orderly relation enough =>
      obtain ⟨relateId, content, valid, saves, rfl⟩ :=
        userRow_of_issued single response acknowledged issued
      have inOrder := MessageHistory.InOrder.of_orderly orderly relateId
      have visible : _ ∈ history.store.messages.filter (MessageModel.ofRelation relateId) :=
        List.mem_filter.mpr ⟨stored, by simp [MessageModel.ofRelation]⟩
      rw [MessageModel.getMessage, MessageModel.select, relation, if_pos ⟨valid, reached⟩,
        readAudios_page inOrder orderly.valid keeps.answered,
        page_newest (MessageHistory.length_reverse_filter_le enough)]
      exact (exists_shown_iff inOrder (fun _ => rfl) visible _).trans
        (shown_data_iff keeps audio saves rfl rfl)
  | @ofGroup rows row joinTime count group issued stored orderly valid joined enough =>
      obtain ⟨content, saves, rfl⟩ := groupRow_of_issued group response acknowledged issued
      have visible : _ ∈ rows.filter fun other =>
          other.groupId == msg.toSessionId && other.status == 0 && joinTime ≤ other.created :=
        List.mem_filter.mpr ⟨stored, by simpa using joined⟩
      rw [GroupMessageModel.getMessage, if_pos reached,
        readAudios_page orderly valid keeps.answered,
        page_newest (MessageHistory.length_reverse_filter_le enough)]
      exact (exists_shown_iff orderly (fun _ => rfl) visible _).trans
        (shown_data_iff keeps audio saves rfl rfl)

/-- An audio message of one byte, after a head of 1. -/
def oneSecond : MsgData :=
  ⟨1, 2, 100, msgTypeSingleAudio, [0, 0, 0, 1, 9], 100⟩

def oneSecondRow : AudioRow :=
  ⟨1, 2, "path", 1, 1, 100⟩

/-- The audio tables have room for one row. -/
def keepingOne : (op : MessageOp) → op.Reply
  | .uploadByteFile data => if data = [9] then "path" else ""
  | .insertAudio row => if row = oneSecondRow then .ok 7 else .failed
  | op => succeeding op

def readingOne : AudioCalls :=
  ⟨true, fun audioId => if audioId = int2string 7 then some [oneSecondRow] else some [],
    fun path _ => if path = "path" then some [9] else none⟩

theorem keepsAudio_one : KeepsAudio keepingOne readingOne := by
  refine ⟨rfl, ?_, ?_, ?_⟩
  · intro audioId
    unfold readingOne
    simp only
    split <;> exact Option.some_ne_none _
  · intro data path
    by_cases uploaded : data = [9]
    · subst uploaded
      rfl
    · exact absurd (if_neg uploaded) path
  · intro row audioId inserted
    by_cases known : row = oneSecondRow
    · subst known
      have same : Answer.ok (7 : Int) = .ok audioId := inserted
      cases same
      rfl
    · have failed : keepingOne (.insertAudio row) = .failed := if_neg known
      rw [failed] at inserted
      cases inserted

/-- The two users have exchanged a text before. -/
def oneSecondStored : MessageStore where
  relations := ⟨[⟨9, 1, 2, 0⟩], 10, by decide, by decide, by decide⟩
  counters _ := some 3
  messages :=
    [⟨9, 2, 1, 2, [104, 105], 0, msgTypeSingleText, 90⟩,
      ⟨9, 1, 2, 3, int2string 7, 0, msgTypeSingleAudio, 100⟩]

/-- The receiver gets the text and the audio. -/
theorem audio_comes_back_iff_oneSecond :
    (∃ info ∈ MessageModel.getMessage oneSecondStored ⟨succeeding, true, true, readingOne⟩ 2 1 0 20,
        info.msgId = 3 ∧ info.msgData = oneSecond.msgData) ↔
      readUint32 oneSecond.msgData ≠ 0 := by
  have orderly : MessageHistory.Orderly ⟨oneSecondStored, []⟩ := ⟨by decide, by decide⟩
  refine @audio_comes_back_iff keepingOne ⟨succeeding, true, true, readingOne⟩ keepsAudio_one
    ⟨rfl, rfl⟩ oneSecond 3 rfl (by decide) (by decide) _ ?_
  refine @PageWith.ofUsers _ _ _ ⟨oneSecondStored, []⟩
    ⟨9, 1, 2, 3, int2string 7, 0, msgTypeSingleAudio, 100⟩ _ _ _ rfl (by decide) ?_ orderly
    (by decide) (by decide)
  exact List.mem_cons_of_mem _ List.mem_cons_self

end AChat.DbProxy
