import AChat.DbProxy.MessageHistory

/-!
Contract: that the ways of reading messages agree.

A client pages through the history, asks for messages by their ids, and is shown the last message
of a session. Each is a statement of its own, with an order and a limit of its own. In a store whose
rows are in order they give the same messages.

Owns: the last message, and the agreement of the three in runs of any threads.
-/

namespace AChat.DbProxy

open Lib (Pool Meets run page page_keys)

/-! ### The last message -/

/-- What `getLastMsg` sets. -/
structure LatestMsg where
  msgId : Id
  msgType : Nat
  msgData : Content
deriving DecidableEq, Repr

namespace MessageModel

/-- The data of an audio message are left out, and `strAudioEnc` stands for them. -/
def latest (strAudioEnc : Content) (row : MessageRow) : LatestMsg where
  msgId := row.msgId
  msgType := row.type
  msgData := if row.type = msgTypeSingleAudio then strAudioEnc else ResultSet.getString row.content

/-- `none` when the variables of the caller are not set. -/
def getLastMsg (store : MessageStore) (calls : HistoryCalls) (strAudioEnc : Content)
    (fromId toId : Id) : Option LatestMsg :=
  let relateId := relationOf store calls fromId toId
  if relateId ≠ invalidValue ∧ calls.connection = true ∧ calls.resultSet = true then
    ((selectNewest MessageRow.created (ofRelation relateId) 1 store.messages).map
      (latest strAudioEnc)).getLast?
  else none

end MessageModel

/-! ### What is left without audio data -/

/-- The id and the type of a message, and its data unless it is an audio message. -/
def plainly (msgId msgType : Nat) (data : Content) : Id × Nat × Option Content :=
  (msgId, msgType, if isAudioType msgType then none else some data)

def LatestMsg.plain (msg : LatestMsg) : Id × Nat × Option Content :=
  plainly msg.msgId msg.msgType msg.msgData

def MsgInfo.plain (msg : MsgInfo) : Id × Nat × Option Content :=
  plainly msg.msgId msg.msgType msg.msgData

theorem plain_latest (strAudioEnc : Content) (row : MessageRow) :
    (MessageModel.latest strAudioEnc row).plain = row.info.plain := by
  have data : ¬isAudioType row.type →
      (MessageModel.latest strAudioEnc row).msgData = row.info.msgData := by
    intro text
    refine if_neg fun audio => text ?_
    rw [audio]
    rfl
  by_cases audio : isAudioType row.type
  · exact congrArg (fun shown => (row.msgId, row.type, shown))
      ((if_pos audio).trans (if_pos audio).symm)
  · exact congrArg (fun content => plainly row.msgId row.type content) (data audio)

theorem AudioModel.plain_shown (calls : AudioCalls) (msg : MsgInfo) :
    (AudioModel.shown calls msg).plain = msg.plain := by
  have content (row : AudioRow) (msg : MsgInfo) :
      ∃ data, readAudioContent calls msg row = { msg with msgData := data } := by
    unfold readAudioContent
    split
    · exact ⟨msg.msgData, rfl⟩
    · split
      · exact ⟨_, rfl⟩
      · exact ⟨msg.msgData, rfl⟩
  have folded : ∀ (rows : List AudioRow) (msg : MsgInfo),
      ∃ data, rows.foldl (readAudioContent calls) msg = { msg with msgData := data } := by
    intro rows
    induction rows with
    | nil => exact fun msg => ⟨msg.msgData, rfl⟩
    | cons row rest inductionHypothesis =>
        intro msg
        obtain ⟨data, read⟩ := content row msg
        obtain ⟨final, rest⟩ := inductionHypothesis { msg with msgData := data }
        exact ⟨final, by rw [List.foldl_cons, read, rest]⟩
  unfold shown readAudio
  split
  · split
    · rename_i audio
      cases calls.selectAudio msg.msgData with
      | none => rfl
      | some rows =>
          obtain ⟨data, read⟩ := folded rows msg
          rw [Option.map_some, Option.getD_some, read]
          exact congrArg (fun shown => (msg.msgId, msg.msgType, shown))
            ((if_pos audio).trans (if_pos audio).symm)
    · rfl
  · rfl

/-! ### Stores in order -/

namespace MessageHistory

open MessageModel
open MessageIds (History SendEvent)

section Readers

variable {history : History} {calls : HistoryCalls} {userId peerId relateId : Id}

/-- The relation is found and its statement has a result. -/
structure Readable (history : History) (calls : HistoryCalls) (userId peerId relateId : Id) :
    Prop where
  relation : relationOf history.store calls userId peerId = relateId
  valid : relateId ≠ invalidValue
  connection : calls.connection = true
  resultSet : calls.resultSet = true

/-- The messages of a relation that are not deleted, newest first. -/
def newest (history : History) (relateId : Id) : List MessageRow :=
  (history.store.messages.filter (ofRelation relateId)).reverse

theorem newest_descending (orderly : Orderly history) (relateId : Id) :
    (newest history relateId).Pairwise fun first second => second.msgId < first.msgId :=
  List.pairwise_reverse.mpr ((InOrder.of_orderly orderly relateId).imp And.left)

theorem Readable.select (readable : Readable history calls userId peerId relateId)
    (orderly : Orderly history) (answered : calls.audio.Answered) (keeps : Nat → Bool)
    (limit : Nat) :
    select history.store calls userId peerId (fun row => keeps row.msgId) limit =
      (page MessageRow.msgId (newest history relateId) keeps limit).map
        (AudioModel.shown calls.audio ∘ MessageRow.info) := by
  have reached : relateId ≠ invalidValue ∧ calls.connection = true ∧ calls.resultSet = true :=
    ⟨readable.valid, readable.connection, readable.resultSet⟩
  rw [MessageModel.select, readable.relation, if_pos reached,
    readAudios_page (InOrder.of_orderly orderly relateId) orderly.valid answered]
  rfl

theorem shown_info_msgId (row : MessageRow) :
    (AudioModel.shown calls.audio row.info).msgId = row.msgId :=
  AudioModel.shown_msgId _

/-- The ids of the messages that come back are those of their rows. -/
theorem map_msgId_shown (rows : List MessageRow) :
    (rows.map (AudioModel.shown calls.audio ∘ MessageRow.info)).map MsgInfo.msgId =
      rows.map MessageRow.msgId := by
  rw [List.map_map]
  exact List.map_congr_left fun row _ => shown_info_msgId row

/-- The messages of a page are found by their ids, in the order of the page. -/
theorem Readable.page_by_ids (readable : Readable history calls userId peerId relateId)
    (orderly : Orderly history) (answered : calls.audio.Answered) (msgId : Id) {count : Nat}
    (fits : count ≤ 100) :
    getMsgByMsgId history.store calls userId peerId
        ((getMessage history.store calls userId peerId msgId count).map MsgInfo.msgId) =
      getMessage history.store calls userId peerId msgId count := by
  have gets := readable.select orderly answered (notAbove msgId) count
  rw [getMessage, gets, map_msgId_shown, getMsgByMsgId]
  split
  · rename_i none
    rw [List.map_eq_nil_iff.mp none]
    rfl
  · rw [readable.select orderly answered, page_keys (newest_descending orderly relateId) fits]

/-- The last message is the first one of the newest page. -/
theorem Readable.last (readable : Readable history calls userId peerId relateId)
    (orderly : Orderly history) (strAudioEnc : Content) :
    getLastMsg history.store calls strAudioEnc userId peerId =
      (newest history relateId).head?.map (latest strAudioEnc) := by
  have reached : relateId ≠ invalidValue ∧ calls.connection = true ∧ calls.resultSet = true :=
    ⟨readable.valid, readable.connection, readable.resultSet⟩
  have one := selectNewest_eq ((InOrder.of_orderly orderly relateId).imp And.right) 1
  rw [getLastMsg, readable.relation, if_pos reached, one]
  change (((newest history relateId).take 1).map (latest strAudioEnc)).getLast? = _
  cases newest history relateId with
  | nil => rfl
  | cons row rest => rfl

end Readers

/-- Whatever threads have stored the messages, the messages of a page of up to 100 are found by
their ids, and the last message of two users is the first one of their newest page, its audio data
apart. -/
theorem readers_agree {start : MessageStore} (orderly : Orderly ⟨start, []⟩)
    {events : List SendEvent}
    (ordered : Meets MessageIds.step (Pool.Permits StoresInOrder) ⟨⟨start, []⟩, []⟩ events)
    {calls : HistoryCalls} (answered : calls.audio.Answered) {userId peerId relateId : Id}
    (readable : Readable (run MessageIds.step ⟨⟨start, []⟩, []⟩ events).store calls userId peerId
      relateId) (strAudioEnc : Content) :
    let store := (run MessageIds.step ⟨⟨start, []⟩, []⟩ events).store.store
    (∀ (msgId : Id) (count : Nat), count ≤ 100 →
      getMsgByMsgId store calls userId peerId
          ((getMessage store calls userId peerId msgId count).map MsgInfo.msgId) =
        getMessage store calls userId peerId msgId count) ∧
      ∀ count, 0 < count →
        (getLastMsg store calls strAudioEnc userId peerId).map LatestMsg.plain =
          (getMessage store calls userId peerId 0 count).head?.map MsgInfo.plain := by
  have stored := orderly_of_run orderly ordered
  generalize (run MessageIds.step ⟨⟨start, []⟩, []⟩ events).store = history at readable stored ⊢
  refine ⟨fun msgId count fits => readable.page_by_ids stored answered msgId fits, ?_⟩
  intro count more
  rw [readable.last stored strAudioEnc, getMessage, readable.select stored answered]
  have every : (newest history relateId).filter (fun row => notAbove 0 row.msgId) =
      newest history relateId := List.filter_eq_self.mpr fun _ _ => rfl
  rw [page, every]
  cases newest history relateId with
  | nil => rw [List.take_nil]; rfl
  | cons row rest =>
      obtain ⟨fewer, rfl⟩ := Nat.exists_eq_succ_of_ne_zero (Nat.ne_of_gt more)
      rw [List.take_succ_cons, List.map_cons, List.head?_cons, List.head?_cons, Option.map_some,
        Option.map_some, Option.map_some, plain_latest, Function.comp_apply,
        AudioModel.plain_shown]

/-- Two users have sent a message each. -/
theorem readers_agree_two :
    let store := (run MessageIds.step ⟨⟨.empty, []⟩, []⟩
      (MessageIds.firstMessage ++ MessageIds.answerMessage)).store.store
    (∀ (msgId : Id) (count : Nat), count ≤ 100 →
      getMsgByMsgId store allAnswered 1 2
          ((getMessage store allAnswered 1 2 msgId count).map MsgInfo.msgId) =
        getMessage store allAnswered 1 2 msgId count) ∧
      ∀ count, 0 < count →
        (getLastMsg store allAnswered [91] 1 2).map LatestMsg.plain =
          (getMessage store allAnswered 1 2 0 count).head?.map MsgInfo.plain :=
  readers_agree orderly_empty (by decide) (fun _ => Option.some_ne_none _)
    ⟨rfl, by decide, rfl, rfl⟩ [91]

end MessageHistory

end AChat.DbProxy
