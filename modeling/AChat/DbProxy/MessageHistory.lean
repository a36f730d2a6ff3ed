import AChat.Lib.CString
import AChat.Lib.Pages
import AChat.DbProxy.MessageAck
import AChat.DbProxy.MessageIds

/-!
Contract: what a user gets of the messages that were stored.

A page of the history is cut out of the rows by time and by the ids that they were given, while
the next page is asked for by message id. The two go together as long as the rows of a relation
are stored in the order of their message ids and of their times.

Owns:
- the statements that read messages, whose contents end at their first zero, and the audio data
  that is put in their place;
- the history of two users in runs of any number of threads that store their messages;
- what comes back of an audio message.
-/

namespace AChat.DbProxy

open Lib (Prog Protocol Pool PoolEvent Meets run page)

/-! ### Rows -/

/-- `IM::BaseDefine::MsgInfo`. -/
structure MsgInfo where
  msgId : Id
  fromSessionId : Id
  createTime : Nat
  msgType : Nat
  msgData : Content
deriving DecidableEq, Repr

/-- `getString`: a `char*`, which its callers read up to the first zero. -/
def ResultSet.getString (column : Content) : Content :=
  (Lib.CString.ofArray column).bytes

theorem ResultSet.getString_eq {column : Content} (noZero : 0 ∉ column) :
    getString column = column := by
  rw [getString, Lib.CString.ofArray_eq noZero]

def MessageRow.info (row : MessageRow) : MsgInfo :=
  ⟨row.msgId, row.fromId, row.created, row.type, ResultSet.getString row.content⟩

def GroupMessageRow.info (row : GroupMessageRow) : MsgInfo :=
  ⟨row.msgId, row.userId, row.created, row.type, ResultSet.getString row.content⟩

/-- `order by created desc, id desc`, of rows with the ids that they were given. -/
def NewestFirst {Row : Type} (created : Row → Nat) (first second : Row × Nat) : Prop :=
  created second.1 < created first.1 ∨
    created second.1 = created first.1 ∧ second.2 ≤ first.2

instance NewestFirst.instDecidable {Row : Type} (created : Row → Nat) :
    DecidableRel (NewestFirst created) :=
  fun _ _ => inferInstanceAs (Decidable (_ ∨ _))

/-- `select .. where .. order by created desc, id desc limit ..`. -/
def selectNewest {Row : Type} (created : Row → Nat) (wanted : Row → Bool) (limit : Nat)
    (rows : List Row) : List Row :=
  ((((rows.zipIdx 1).filter fun row => wanted row.1).insertionSort (NewestFirst created)).take
    limit).map Prod.fst

/-- A message without a valid type is left out. -/
def readRows {Row : Type} (info : Row → MsgInfo) (rows : List Row) : List MsgInfo :=
  (rows.map info).filter fun msg => msgTypeIsValid msg.msgType

/-! ### Audio data -/

/-- How the statements and downloads of `readAudios` end. -/
structure AudioCalls where
  connection : Bool
  selectAudio : Content → Option (List AudioRow)
  downloadByteFile : String → Nat → Option Content

def writeUint32 (value : Nat) : Content :=
  [UInt8.ofNat (value / 2 ^ 24), UInt8.ofNat (value / 2 ^ 16), UInt8.ofNat (value / 2 ^ 8),
    UInt8.ofNat value]

namespace AudioModel

variable (calls : AudioCalls)

/-- The message keeps its data when the audio is not there. -/
def readAudioContent (msg : MsgInfo) (row : AudioRow) : MsgInfo :=
  if row.path = "" ∨ row.duration = 0 ∨ row.size = 0 then msg
  else
    match calls.downloadByteFile row.path row.size with
    | some audio => { msg with msgData := writeUint32 row.duration ++ audio }
    | none => msg

/-- One message of `readAudios`, which is erased when its statement fails. -/
def readAudio (msg : MsgInfo) : Option MsgInfo :=
  if isAudioType msg.msgType then
    (calls.selectAudio msg.msgData).map fun rows => rows.foldl (readAudioContent calls) msg
  else some msg

def readAudios (msgs : List MsgInfo) : List MsgInfo :=
  if calls.connection then msgs.filterMap (readAudio calls) else msgs

end AudioModel

/-! ### Statements -/

/-- How the calls of reading messages end. -/
structure HistoryCalls where
  relation : (op : MessageOp) → op.Reply
  connection : Bool
  resultSet : Bool
  audio : AudioCalls

/-- `and msgId <=`, unless the newest messages are asked for. -/
def notAbove (msgId rowId : Nat) : Bool :=
  msgId == 0 || rowId ≤ msgId

namespace MessageModel

variable (store : MessageStore) (calls : HistoryCalls)

/-- `getRelationId(nUserId, nPeerId, false)`. -/
def relationOf (userId peerId : Id) : Id :=
  ((RelationModel.getRelationId userId peerId false).exec MessageStore.apply calls.relation
    store).1

/-- The row is one of the relation, and not deleted. -/
def ofRelation (relateId : Id) (row : MessageRow) : Bool :=
  row.relateId == relateId && row.status == 0

/-- The messages of a statement, if there is a relation and the statement has a result. -/
def select (userId peerId : Id) (wanted : MessageRow → Bool) (limit : Nat) : List MsgInfo :=
  let relateId := relationOf store calls userId peerId
  if relateId ≠ invalidValue ∧ calls.connection = true ∧ calls.resultSet = true then
    AudioModel.readAudios calls.audio
      (readRows MessageRow.info
        (selectNewest MessageRow.created (fun row => ofRelation relateId row && wanted row) limit
          store.messages))
  else []

def getMessage (userId peerId msgId msgCnt : Nat) : List MsgInfo :=
  select store calls userId peerId (fun row => notAbove msgId row.msgId) msgCnt

def getMsgByMsgId (userId peerId : Id) (msgIds : List Id) : List MsgInfo :=
  if msgIds = [] then []
  else select store calls userId peerId (fun row => msgIds.contains row.msgId) 100

end MessageModel

namespace GroupMessageModel

/-- `joinTime` is what `getUserJoinTime` finds. -/
def getMessage (rows : List GroupMessageRow) (calls : HistoryCalls) (joinTime groupId msgId
    msgCnt : Nat) : List MsgInfo :=
  if calls.connection = true ∧ calls.resultSet = true then
    AudioModel.readAudios calls.audio
      (readRows GroupMessageRow.info
        (selectNewest GroupMessageRow.created
          (fun row => (row.groupId == groupId && row.status == 0 && joinTime ≤ row.created) &&
            notAbove msgId row.msgId) msgCnt rows))
  else []

end GroupMessageModel

/-! ### One statement -/

theorem selectNewest_eq {Row : Type} {created : Row → Nat} {wanted : Row → Bool} {rows : List Row}
    (inOrder : (rows.filter wanted).Pairwise fun first second => created first ≤ created second)
    (limit : Nat) :
    selectNewest created wanted limit rows = (rows.filter wanted).reverse.take limit := by
  have numbered := Lib.pairwise_zipIdx (List.pairwise_filter.mp inOrder) 1
  have opposite : ((rows.zipIdx 1).filter fun row => wanted row.1).Pairwise
      fun first second => ¬NewestFirst created first second := by
    apply List.pairwise_filter.mpr
    refine numbered.imp ?_
    intro first second ordered firstWanted secondWanted newest
    have older := ordered.1 firstWanted secondWanted
    have lower := ordered.2
    unfold NewestFirst at newest
    omega
  rw [selectNewest, Lib.insertionSort_eq_reverse opposite, List.map_take, List.map_reverse,
    Lib.map_fst_filter_zipIdx]

/-- The rows come in the order of their message ids and of their times. -/
def InOrder {Row : Type} (msgIdOf created : Row → Nat) (rows : List Row) : Prop :=
  rows.Pairwise fun first second => msgIdOf first < msgIdOf second ∧ created first ≤ created second

/-- A statement for messages with some ids gives a page. -/
theorem selectNewest_page {Row : Type} {msgIdOf created : Row → Nat} {visible : Row → Bool}
    {rows : List Row} (inOrder : InOrder msgIdOf created (rows.filter visible))
    (keeps : Nat → Bool) (limit : Nat) :
    selectNewest created (fun row => visible row && keeps (msgIdOf row)) limit rows =
      page msgIdOf (rows.filter visible).reverse keeps limit := by
  have narrowed : rows.filter (fun row => visible row && keeps (msgIdOf row)) =
      (rows.filter visible).filter fun row => keeps (msgIdOf row) := by
    rw [List.filter_filter]
    apply List.filter_congr
    intro row _
    exact Bool.and_comm _ _
  have times : (rows.filter fun row => visible row && keeps (msgIdOf row)).Pairwise
      fun first second => created first ≤ created second := by
    rw [narrowed]
    exact (inOrder.filter _).imp And.right
  rw [selectNewest_eq times, narrowed, page, List.filter_reverse]

theorem notAbove_closed {msgId low high : Nat} (le : low ≤ high)
    (kept : notAbove msgId high = true) : notAbove msgId low = true := by
  simp only [notAbove, Bool.or_eq_true, beq_iff_eq, decide_eq_true_eq] at kept ⊢
  omega

/-- What is below an id that is not the first one can be asked for. -/
theorem below_eq_notAbove {msgId : Nat} (more : 1 < msgId) :
    (fun other => decide (other < msgId)) = notAbove (msgId - 1) := by
  funext other
  rw [Bool.eq_iff_iff]
  simp only [notAbove, Bool.or_eq_true, beq_iff_eq, decide_eq_true_eq]
  omega

/-- What a row comes back as. -/
def AudioModel.shown (calls : AudioCalls) (msg : MsgInfo) : MsgInfo :=
  if calls.connection then (readAudio calls msg).getD msg else msg

/-- No statement for audio data fails. -/
def AudioCalls.Answered (calls : AudioCalls) : Prop :=
  ∀ data, calls.selectAudio data ≠ none

namespace AudioModel

variable {calls : AudioCalls}

theorem readAudios_eq (answered : calls.Answered) (msgs : List MsgInfo) :
    readAudios calls msgs = msgs.map (shown calls) := by
  unfold readAudios shown
  cases calls.connection with
  | false => simp
  | true =>
      have every : readAudio calls = fun msg => some ((readAudio calls msg).getD msg) := by
        funext msg
        unfold readAudio
        split
        · obtain ⟨rows, found⟩ := Option.ne_none_iff_exists'.mp (answered msg.msgData)
          rw [found]
          rfl
        · rfl
      simp only [if_true]
      rw [every, List.filterMap_eq_map']
      rfl

theorem readAudioContent_msgId (msg : MsgInfo) (row : AudioRow) :
    (readAudioContent calls msg row).msgId = msg.msgId := by
  unfold readAudioContent
  split
  · rfl
  · split <;> rfl

theorem shown_msgId (msg : MsgInfo) : (shown calls msg).msgId = msg.msgId := by
  have folded : ∀ rows : List AudioRow, ∀ msg : MsgInfo,
      (rows.foldl (readAudioContent calls) msg).msgId = msg.msgId := by
    intro rows
    induction rows with
    | nil => exact fun _ => rfl
    | cons row rest inductionHypothesis =>
        exact fun msg => (inductionHypothesis _).trans (readAudioContent_msgId msg row)
  unfold shown readAudio
  split
  · split
    · cases calls.selectAudio msg.msgData with
      | none => rfl
      | some rows => exact folded rows msg
    · rfl
  · rfl

end AudioModel

theorem readRows_eq {Row : Type} {info : Row → MsgInfo} {rows : List Row}
    (valid : ∀ row ∈ rows, msgTypeIsValid (info row).msgType = true) :
    readRows info rows = rows.map info := by
  apply List.filter_eq_self.mpr
  intro msg member
  obtain ⟨row, known, rfl⟩ := List.mem_map.mp member
  exact valid row known

section Pages

variable {Row : Type} {msgIdOf created : Row → Nat} {info : Row → MsgInfo} {visible : Row → Bool}
  {rows : List Row} {calls : AudioCalls}

/-- What comes back of a page of rows. -/
theorem readAudios_page (inOrder : InOrder msgIdOf created (rows.filter visible))
    (valid : ∀ row ∈ rows, msgTypeIsValid (info row).msgType = true) (answered : calls.Answered)
    (keeps : Nat → Bool) (limit : Nat) :
    AudioModel.readAudios calls (readRows info
        (selectNewest created (fun row => visible row && keeps (msgIdOf row)) limit rows)) =
      (page msgIdOf (rows.filter visible).reverse keeps limit).map
        (AudioModel.shown calls ∘ info) := by
  have within : ∀ row ∈ page msgIdOf (rows.filter visible).reverse keeps limit,
      msgTypeIsValid (info row).msgType = true := by
    intro row member
    have known := (List.mem_filter.mp (List.mem_of_mem_take member)).1
    exact valid row (List.mem_filter.mp (List.mem_reverse.mp known)).1
  rw [selectNewest_page inOrder, readRows_eq within, AudioModel.readAudios_eq answered,
    List.map_map]

/-- All rows are in the first page that is long enough. -/
theorem page_newest {shown : List Row} {limit : Nat} (enough : shown.length ≤ limit) :
    page msgIdOf shown (notAbove 0) limit = shown := by
  have every : shown.filter (fun row => notAbove 0 (msgIdOf row)) = shown :=
    List.filter_eq_self.mpr fun _ _ => rfl
  rw [page, every, List.take_of_length_le enough]

/-- The pages of rows that are in order go together. -/
theorem shown_page_append (inOrder : InOrder msgIdOf created (rows.filter visible))
    (named : ∀ row, (info row).msgId = msgIdOf row) {msgId count : Nat} {oldest : MsgInfo}
    (last : ((page msgIdOf (rows.filter visible).reverse (notAbove msgId) count).map
      (AudioModel.shown calls ∘ info)).getLast? = some oldest)
    (further : 1 < oldest.msgId) (more : Nat) :
    page msgIdOf (rows.filter visible).reverse (notAbove msgId) (count + more) =
      page msgIdOf (rows.filter visible).reverse (notAbove msgId) count ++
        page msgIdOf (rows.filter visible).reverse (notAbove (oldest.msgId - 1)) more := by
  have descending : (rows.filter visible).reverse.Pairwise
      fun first second => msgIdOf second < msgIdOf first :=
    List.pairwise_reverse.mpr (inOrder.imp And.left)
  rw [List.getLast?_map, Option.map_eq_some_iff] at last
  obtain ⟨row, lastRow, rfl⟩ := last
  have id : (AudioModel.shown calls (info row)).msgId = msgIdOf row :=
    (AudioModel.shown_msgId _).trans (named row)
  rw [Function.comp_apply, id] at further ⊢
  rw [Lib.page_append descending notAbove_closed lastRow, below_eq_notAbove further]

end Pages

/-- A longer page of a group is the shorter one and the page that starts below its last message,
where the rows that a member sees are in order. -/
theorem group_pages {rows : List GroupMessageRow} {calls : HistoryCalls} {joinTime groupId : Nat}
    (inOrder : InOrder GroupMessageRow.msgId GroupMessageRow.created
      (rows.filter fun row => row.groupId == groupId && row.status == 0 && joinTime ≤ row.created))
    (valid : ∀ row ∈ rows, msgTypeIsValid row.type = true) (answered : calls.audio.Answered)
    {msgId count : Nat} {oldest : MsgInfo}
    (last : (GroupMessageModel.getMessage rows calls joinTime groupId msgId count).getLast? =
      some oldest) (further : 1 < oldest.msgId) (more : Nat) :
    GroupMessageModel.getMessage rows calls joinTime groupId msgId (count + more) =
      GroupMessageModel.getMessage rows calls joinTime groupId msgId count ++
        GroupMessageModel.getMessage rows calls joinTime groupId (oldest.msgId - 1) more := by
  unfold GroupMessageModel.getMessage at last ⊢
  split at last
  · rename_i reached
    rw [readAudios_page inOrder valid answered] at last
    rw [if_pos reached, if_pos reached, if_pos reached, readAudios_page inOrder valid answered,
      readAudios_page inOrder valid answered, readAudios_page inOrder valid answered,
      shown_page_append inOrder (fun _ => rfl) last further more, List.map_append]
  · cases last

/-! ### Runs -/

namespace MessageHistory

open MessageIds (History SendPool SendEvent SingleMsg)

/-- The row that an operation stores. -/
def storedRow : (op : MessageOp) → op.Reply → Option MessageRow
  | .insertMessage row, .ok _ => some row
  | _, _ => none

/-- A row is stored after the rows of its relation, by its message id and by its time. -/
def StoresInOrder (history : History) (op : MessageOp) (answer : op.Reply) : Prop :=
  ∀ row ∈ storedRow op answer, ∀ before ∈ history.store.messages,
    before.relateId = row.relateId → before.msgId < row.msgId ∧ before.created ≤ row.created

instance StoresInOrder.instDecidable (history : History) (op : MessageOp) (answer : op.Reply) :
    Decidable (StoresInOrder history op answer) :=
  inferInstanceAs (Decidable (∀ row ∈ storedRow op answer, _))

/-- The rows of every relation are in order, and have a valid type. -/
structure Orderly (history : History) : Prop where
  inOrder : history.store.messages.Pairwise fun before row => before.relateId = row.relateId →
    before.msgId < row.msgId ∧ before.created ≤ row.created
  valid : ∀ row ∈ history.store.messages, msgTypeIsValid row.type = true

/-- A message that is inserted has a valid type. -/
def InsertsValid : MessageOp → Prop
  | .insertMessage row => msgTypeIsValid row.type = true
  | _ => True

def rules : Protocol History MessageOp MessageOp.Reply where
  effect := MessageIds.effect
  allowed := StoresInOrder
  inv := Orderly
  rely _ _ _ := True
  rely_refl _ _ := trivial

theorem orderly_effect {thread : Nat} {history : History} {op : MessageOp} {answer : op.Reply}
    (orderly : Orderly history) (inserts : InsertsValid op)
    (allowed : StoresInOrder history op answer) :
    Orderly (MessageIds.effect thread history op answer).2 := by
  obtain ⟨inOrder, valid⟩ := orderly
  have messages : (MessageIds.effect thread history op answer).2.store.messages =
      (history.store.apply op answer).2.messages := rfl
  cases MessageIds.apply_messages history.store op answer with
  | inl same =>
      rw [same] at messages
      exact ⟨messages ▸ inOrder, messages ▸ valid⟩
  | inr grown =>
      obtain ⟨row, rfl, grown⟩ := grown
      rw [grown] at messages
      cases answer with
      | noConnection => simp [MessageStore.apply] at grown
      | failed => simp [MessageStore.apply] at grown
      | ok done =>
          refine ⟨?_, ?_⟩
          · rw [messages]
            refine List.pairwise_append.mpr ⟨inOrder, List.pairwise_singleton _ _, ?_⟩
            intro before known last new
            rw [List.mem_singleton.mp new]
            exact allowed row rfl before known
          · rw [messages]
            intro other member
            cases List.mem_append.mp member with
            | inl known => exact valid other known
            | inr new =>
                rw [List.mem_singleton.mp new]
                exact inserts

/-! #### What a request inserts -/

theorem insertsValid_of_noRow (op : MessageOp) (noRow : NoRow op) : InsertsValid op := by
  cases op <;> trivial

theorem sendMessage_insertsValid {msgType : Nat} (valid : msgTypeIsValid msgType = true)
    (relateId fromId toId createTime msgId : Nat) (content : Content) :
    (MessageModel.sendMessage relateId fromId toId msgType createTime msgId content).Issues
      InsertsValid := by
  unfold MessageModel.sendMessage
  split
  · trivial
  · have inserts : InsertsValid
        (.insertMessage ⟨relateId, fromId, toId, msgId, content, 0, msgType, createTime⟩) := valid
    apply (Prog.Issues.perform inserts).bind
    intro answer
    cases answer with
    | ok done => exact (Prog.Issues.perform trivial).bind fun _ => trivial
    | noConnection => trivial
    | failed => trivial

theorem userStore_insertsValid {msgType : Nat} (valid : msgTypeIsValid msgType = true)
    (relateId fromId toId createTime msgId : Nat) (content : Content) :
    (userStore msgType relateId fromId toId msgType createTime msgId content).Issues
      InsertsValid := by
  unfold userStore
  split
  · unfold MessageModel.sendAudioMessage
    split
    · trivial
    · have saves : (AudioModel.saveAudioInfo fromId toId createTime content).Issues InsertsValid :=
        (saveAudioInfo_audioOp fromId toId createTime content).mono fun op audio => by
          cases op <;> trivial
      apply saves.bind
      intro audioId
      split
      · exact sendMessage_insertsValid valid relateId fromId toId createTime msgId _
      · trivial
  · exact sendMessage_insertsValid valid relateId fromId toId createTime msgId content

theorem body_insertsValid (msg : SingleMsg) : (sendMessage msg.1).Issues InsertsValid := by
  by_cases rejected : msgTypeIsValid msg.1.msgType = false ∨ msg.1.msgData.length = 0
  · rw [sendMessage_rejected rejected]
    trivial
  · have valid : msgTypeIsValid msg.1.msgType = true := by
      simpa using (not_or.mp rejected).1
    rw [sendMessage_toUser valid (not_or.mp rejected).2 msg.2]
    have noRow := insertsValid_of_noRow
    have touches : ∀ sessionId : Id,
        (SessionModel.updateSession sessionId msg.1.now).Issues InsertsValid := fun sessionId =>
      (updateSession_sessionOp sessionId msg.1.now).mono fun op known =>
        noRow op (SessionOp.noRow op known)
    unfold sendToUser
    split
    · trivial
    · apply ((openSessions_sessionOp msg.1.fromUserId msg.1.toSessionId).mono
        fun op known => noRow op (SessionOp.noRow op known)).bind
      intro sessions
      apply ((getRelationId_relationOp msg.1.fromUserId msg.1.toSessionId true).mono
        fun op known => noRow op (RelationOp.noRow op known)).bind
      intro relateId
      split
      · have counts : (getMsgId (.relation relateId)).Issues InsertsValid :=
          ⟨trivial, fun _ => trivial⟩
        apply counts.bind
        intro msgId
        split
        · apply (userStore_insertsValid valid relateId _ _ _ msgId _).bind
          intro _
          apply (touches _).bind
          intro _
          exact (touches _).bind fun _ => trivial
        · trivial
      · trivial

/-- The rows that any threads store are orderly, as long as each is stored in order. -/
theorem orderly_of_run {start : MessageStore} (orderly : Orderly ⟨start, []⟩)
    {events : List SendEvent}
    (ordered : Meets MessageIds.step (Pool.Permits StoresInOrder) ⟨⟨start, []⟩, []⟩ events) :
    Orderly (run MessageIds.step ⟨⟨start, []⟩, []⟩ events).store := by
  have starts : ∀ (index : Nat) (msg : SingleMsg),
      rules.Ensures index (fun _ => True) (sendMessage msg.1) fun _ _ => True :=
    fun index msg => Protocol.Ensures.issues (body_insertsValid msg)
      fun _ _ _ inserts holds allowed =>
        ⟨orderly_effect holds inserts allowed, fun _ _ => trivial⟩
  have sound := @Protocol.Sound.run _ _ _ _ _ rules _ _ _ starts events (.empty orderly) ordered
  exact sound.1

theorem InOrder.of_orderly {history : History} (orderly : Orderly history) (relateId : Id) :
    InOrder MessageRow.msgId MessageRow.created
      (history.store.messages.filter (MessageModel.ofRelation relateId)) := by
  apply List.pairwise_filter.mpr
  refine orderly.inOrder.imp ?_
  intro before row ordered first second
  simp only [MessageModel.ofRelation, Bool.and_eq_true, beq_iff_eq] at first second
  exact ordered (first.1.trans second.1.symm)

theorem length_reverse_filter_le {Row : Type} {rows : List Row} {wanted : Row → Bool} {count : Nat}
    (enough : rows.length ≤ count) : (rows.filter wanted).reverse.length ≤ count := by
  rw [List.length_reverse]
  exact (List.length_filter_le _ _).trans enough

/-- Whatever threads have stored the messages, all messages of two users are in a page that is
long enough, newest first, and a longer page is the shorter one and the page that starts below its
last message. -/
theorem history_pages {start : MessageStore} (orderly : Orderly ⟨start, []⟩)
    {events : List SendEvent}
    (ordered : Meets MessageIds.step (Pool.Permits StoresInOrder) ⟨⟨start, []⟩, []⟩ events)
    {calls : HistoryCalls} (answered : calls.audio.Answered) {userId peerId : Nat}
    (reached : MessageModel.relationOf
        (run MessageIds.step ⟨⟨start, []⟩, []⟩ events).store.store calls userId peerId ≠
          invalidValue ∧ calls.connection = true ∧ calls.resultSet = true) (count : Nat) :
    let store := (run MessageIds.step ⟨⟨start, []⟩, []⟩ events).store.store
    let relateId := MessageModel.relationOf store calls userId peerId
    (store.messages.length ≤ count →
      MessageModel.getMessage store calls userId peerId 0 count =
        (store.messages.filter (MessageModel.ofRelation relateId)).reverse.map
          (AudioModel.shown calls.audio ∘ MessageRow.info)) ∧
      ∀ msgId oldest more,
        (MessageModel.getMessage store calls userId peerId msgId count).getLast? = some oldest →
          1 < oldest.msgId →
            MessageModel.getMessage store calls userId peerId msgId (count + more) =
              MessageModel.getMessage store calls userId peerId msgId count ++
                MessageModel.getMessage store calls userId peerId (oldest.msgId - 1) more := by
  have stored := orderly_of_run orderly ordered
  generalize (run MessageIds.step ⟨⟨start, []⟩, []⟩ events).store = history at reached stored ⊢
  intro store relateId
  have inOrder := InOrder.of_orderly stored relateId
  have gets : ∀ msgId limit, MessageModel.getMessage store calls userId peerId msgId limit =
      (page MessageRow.msgId (store.messages.filter (MessageModel.ofRelation relateId)).reverse
        (notAbove msgId) limit).map (AudioModel.shown calls.audio ∘ MessageRow.info) :=
    fun msgId limit =>
      (if_pos reached).trans (readAudios_page inOrder stored.valid answered (notAbove msgId) limit)
  refine ⟨?_, ?_⟩
  · intro enough
    rw [gets, page_newest (length_reverse_filter_le enough)]
  · intro msgId oldest more last further
    rw [gets] at last
    rw [gets, gets, gets, shown_page_append inOrder (fun _ => rfl) last further more,
      List.map_append]

/-- All calls succeed, and there is no audio data. -/
def allAnswered : HistoryCalls :=
  ⟨succeeding, true, true, ⟨true, fun _ => some [], fun _ _ => none⟩⟩

theorem orderly_empty : Orderly ⟨.empty, []⟩ :=
  ⟨.nil, nofun⟩

/-- Two users have sent a message each: both are in a page of two, which is a page of one and the
next one. -/
theorem history_pages_two :
    let store := (run MessageIds.step ⟨⟨.empty, []⟩, []⟩
      (MessageIds.firstMessage ++ MessageIds.answerMessage)).store.store
    MessageModel.getMessage store allAnswered 1 2 0 2 =
        (store.messages.filter (MessageModel.ofRelation
          (MessageModel.relationOf store allAnswered 1 2))).reverse.map
            (AudioModel.shown allAnswered.audio ∘ MessageRow.info) ∧
      MessageModel.getMessage store allAnswered 1 2 0 (1 + 1) =
        MessageModel.getMessage store allAnswered 1 2 0 1 ++
          MessageModel.getMessage store allAnswered 1 2 1 1 := by
  intro store
  have pages (count : Nat) := @history_pages _ orderly_empty
    (MessageIds.firstMessage ++ MessageIds.answerMessage) (by decide) allAnswered
    (fun _ => Option.some_ne_none _) 1 2 ⟨by decide, rfl, rfl⟩ count
  exact ⟨(pages 2).1 (by decide), (pages 1).2 0 _ 1 rfl (by decide)⟩

example : (MessageModel.getMessage (run MessageIds.step ⟨⟨.empty, []⟩, []⟩
    (MessageIds.firstMessage ++ MessageIds.answerMessage)).store.store allAnswered 1 2 0 5).map
      MsgInfo.msgId = [2, 1] := by
  decide

end MessageHistory

end AChat.DbProxy
