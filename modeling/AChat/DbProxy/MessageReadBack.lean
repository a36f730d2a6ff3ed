import AChat.DbProxy.MessageHistory
import AChat.DbProxy.RelationLookup

/-!
Contract: what was acknowledged can be read by both users.

The sender is told the id of a message whether or not its row was inserted, and the reader finds
the row by the relation of the two users. The two agree while inserts succeed and no pair of users
gets a second relation. What is read of the content ends at its first zero.

Owns: the condition on the statements, and what a thread relies on for the row of its message.
-/

namespace AChat.DbProxy

open Lib (Prog Protocol Pool PoolEvent Meets run page)

namespace MessageReadBack

open MessageIds (History SingleMsg SendEvent)
open MessageHistory (Orderly StoresInOrder storedRow InsertsValid insertsValid_of_noRow
  body_insertsValid orderly_effect)

/-! ### The condition -/

/-- The pair that an operation adds a relation to. -/
def addedPair : (op : MessageOp) → op.Reply → Option (Id × Id)
  | .insertRelation smallId bigId, .ok _ => some (smallId, bigId)
  | _, _ => none

/-- The row that an operation is to store. -/
def insertedRow : MessageOp → Option MessageRow
  | .insertMessage row => some row
  | _ => none

/-- A relation is added only to a pair without one, rows are stored in order, and no insert of a
message fails. -/
structure Careful (history : History) (op : MessageOp) (answer : op.Reply) : Prop where
  adds : ∀ pair ∈ addedPair op answer, history.store.relations.select pair.1 pair.2 true = []
  ordered : StoresInOrder history op answer
  stores : ∀ row ∈ insertedRow op, storedRow op answer = some row

instance Careful.instDecidable (history : History) (op : MessageOp) (answer : op.Reply) :
    Decidable (Careful history op answer) :=
  decidable_of_iff
    ((∀ pair ∈ addedPair op answer, history.store.relations.select pair.1 pair.2 true = []) ∧
      StoresInOrder history op answer ∧ ∀ row ∈ insertedRow op, storedRow op answer = some row)
    ⟨fun careful => ⟨careful.1, careful.2.1, careful.2.2⟩,
      fun careful => ⟨careful.adds, careful.ordered, careful.stores⟩⟩

/-! ### The rules -/

/-- The relation is an active one of the pair. -/
def Linked (smallId bigId relateId : Id) (history : History) : Prop :=
  relateId ∈ history.store.relations.select smallId bigId false

structure Readable (history : History) : Prop where
  orderly : Orderly history
  pairs : ∀ smallId bigId, history.store.relations.OneRow smallId bigId true

/-- Relations stay and stay active, and rows are added at the end. -/
structure Keeps (history later : History) : Prop where
  relations : ∀ smallId bigId isAll,
    ∀ relateId ∈ history.store.relations.select smallId bigId isAll,
      relateId ∈ later.store.relations.select smallId bigId isAll
  messages : history.store.messages <+: later.store.messages

def rules : Protocol History MessageOp MessageOp.Reply where
  effect := MessageIds.effect
  allowed := Careful
  inv := Readable
  rely _ := Keeps
  rely_refl _ _ := ⟨fun _ _ _ _ => id, List.prefix_rfl⟩

section Steps

variable {thread : Nat} {history : History} {op : MessageOp} {answer : op.Reply}

theorem effect_keeps (thread : Nat) (history : History) (op : MessageOp) (answer : op.Reply) :
    Keeps history (MessageIds.effect thread history op answer).2 := by
  constructor
  · intro smallId bigId isAll relateId found
    simp only [MessageIds.effect, MessageStore.apply]
    split
    · exact found
    · exact (RelationTable.mem_select_activate _ _ _ _ _ _).mpr (.inl found)
    · exact (RelationTable.mem_select_insert _ _ _ _ _ _ _).mpr (.inl found)
    · exact found
    · exact found
    · exact found
    · exact found
  · cases MessageIds.apply_messages history.store op answer with
    | inl same => exact same.symm ▸ List.prefix_rfl
    | inr stored =>
        obtain ⟨row, _, rows⟩ := stored
        exact ⟨[row], rows.symm⟩

theorem effect_pairs (readable : Readable history) (careful : Careful history op answer)
    (smallId bigId : Id) :
    (MessageIds.effect thread history op answer).2.store.relations.OneRow smallId bigId true := by
  have pairs := readable.pairs smallId bigId
  have adds := careful.adds
  simp only [MessageIds.effect, MessageStore.apply]
  split
  · exact pairs
  · intro relateId found other otherFound
    rw [RelationTable.mem_select_activate] at found otherFound
    exact pairs relateId (found.elim id And.right) other (otherFound.elim id And.right)
  · exact RelationTable.oneRow_insert pairs (adds _ rfl)
  · exact pairs
  · exact pairs
  · exact pairs
  · exact pairs

theorem guarantees (readable : Readable history) (careful : Careful history op answer)
    (inserts : InsertsValid op) :
    rules.Guarantees thread history (MessageIds.effect thread history op answer).2 :=
  ⟨⟨orderly_effect readable.orderly inserts careful.ordered, effect_pairs readable careful⟩,
    fun _ _ => effect_keeps thread history op answer⟩

end Steps

/-! ### One thread -/

section Thread

variable {thread : Nat} {smallId bigId relateId : Id}

theorem stable_row (isAll : Bool) :
    rules.Stable thread fun history =>
      relateId ∈ history.store.relations.select smallId bigId isAll :=
  fun _ _ _ _ keeps found => keeps.relations smallId bigId isAll relateId found

theorem stable_linked : rules.Stable thread (Linked smallId bigId relateId) :=
  stable_row false

theorem stable_stored (row : MessageRow) :
    rules.Stable thread fun history => row ∈ history.store.messages :=
  fun _ _ _ _ keeps stored => keeps.messages.subset stored

theorem selects (isAll : Bool) :
    rules.Ensures thread (fun _ => True) (issue (.selectRelation smallId bigId isAll))
      fun answer history => ∀ ids, answer = .ok ids → ∀ relateId ∈ ids,
        relateId ∈ history.store.relations.select smallId bigId isAll := by
  apply Protocol.Ensures.perform (.const True)
  · exact fun answer => .all fun ids => .all fun _ => .all fun relateId => .all fun _ =>
      stable_row isAll
  · intro history answer readable _ careful
    refine ⟨guarantees readable careful trivial, ?_⟩
    intro ids answered
    cases answer with
    | noConnection => cases answered
    | failed => cases answered
    | ok proposed =>
        cases answered
        exact fun _ => id

theorem relationRules (thread : Nat) (smallId bigId : Id) :
    RelationRules rules thread smallId bigId
      (fun relateId history => relateId ∈ history.store.relations.select smallId bigId true)
      (Linked smallId bigId) where
  stable _ := stable_linked
  stableKnown _ := stable_row true
  selects := selects false
  finds := selects true
  activates relateId := by
    apply Protocol.Ensures.perform (stable_row true)
    · exact fun answer => .all fun _ => stable_linked
    · intro history answer readable known careful
      refine ⟨guarantees readable careful trivial, ?_⟩
      intro answered
      cases answer with
      | noConnection => cases answered
      | failed => cases answered
      | ok done => exact (RelationTable.mem_select_activate _ _ _ _ _ _).mpr (.inr ⟨rfl, known⟩)
  inserts := by
    apply Protocol.Ensures.perform (.const True)
    · exact fun answer => .all fun relateId => .all fun _ => stable_linked
    · intro history answer readable _ careful
      refine ⟨guarantees readable careful trivial, ?_⟩
      intro relateId answered
      cases answer with
      | noConnection => cases answered
      | failed => cases answered
      | ok proposed =>
          cases answered
          exact (RelationTable.mem_select_insert _ _ _ _ _ _ _).mpr (.inr ⟨rfl, rfl, rfl⟩)
  resets relateId := by
    apply Protocol.Ensures.perform stable_linked fun _ => stable_linked
    intro history answer readable linked careful
    exact ⟨guarantees readable careful trivial,
      (effect_keeps thread history _ answer).relations smallId bigId false relateId linked⟩

/-- The relation of two users, who have ids. -/
def RelationOf (fromId toId relateId : Id) (history : History) : Prop :=
  (fromId ≠ 0 ∧ toId ≠ 0) ∧ Linked (min fromId toId) (max fromId toId) relateId history

theorem stable_relationOf {fromId toId : Id} :
    rules.Stable thread (RelationOf fromId toId relateId) :=
  (Protocol.Stable.const _).and stable_linked

theorem getRelationId_ensures (fromId toId : Id) :
    rules.Ensures thread (fun _ => True) (RelationModel.getRelationId fromId toId true)
      (RelationRules.Linked (RelationOf fromId toId)) := by
  by_cases missing : fromId = 0 ∨ toId = 0
  · rw [RelationModel.getRelationId, if_pos missing]
    exact .done (.const True) fun _ _ _ => .inl rfl
  · apply ((relationRules thread _ _).getRelationId true).weaken
    intro relateId history _ linked
    exact linked.imp id fun found => ⟨not_or.mp missing, found⟩

/-- A program that stores no row keeps what is known. -/
theorem ensures_noRow {α : Type} {prog : MessageProg α} {know : History → Prop}
    (issues : prog.Issues NoRow) (stable : rules.Stable thread know) :
    rules.Ensures thread know prog fun _ => know := by
  induction prog with
  | done value => exact .done stable fun _ _ => id
  | call op next inductionHypothesis =>
      rw [Protocol.Ensures]
      refine ⟨stable, ?_⟩
      intro history answer readable known careful
      have acts : rules.Guarantees thread history
          (MessageIds.effect thread history op answer).2 :=
        guarantees readable careful (insertsValid_of_noRow op issues.1)
      exact ⟨acts, know,
        stable _ _ readable acts.1 (effect_keeps thread history op answer) known,
        inductionHypothesis _ (issues.2 _)⟩

/-- The row of a text message. -/
def textRow (msg : MsgData) (relateId msgId : Id) : MessageRow :=
  ⟨relateId, msg.fromUserId, msg.toSessionId, msgId, msg.msgData, 0, msg.msgType, msg.createTime⟩

/-- The row is stored under the relation of the two users. -/
def Kept (msg : MsgData) (relateId msgId : Id) (history : History) : Prop :=
  RelationOf msg.fromUserId msg.toSessionId relateId history ∧
    textRow msg relateId msgId ∈ history.store.messages

theorem stable_kept {msg : MsgData} {msgId : Id} :
    rules.Stable thread (Kept msg relateId msgId) :=
  stable_relationOf.and (stable_stored _)

theorem sendMessage_ensures (msg : MsgData) (valid : msgTypeIsValid msg.msgType = true)
    (msgId : Id) :
    rules.Ensures thread (RelationOf msg.fromUserId msg.toSessionId relateId)
      (MessageModel.sendMessage relateId msg.fromUserId msg.toSessionId msg.msgType msg.createTime
        msgId msg.msgData)
      fun _ => Kept msg relateId msgId := by
  unfold MessageModel.sendMessage
  split
  · rename_i missing
    apply Protocol.Ensures.done stable_relationOf
    intro history _ related
    exact absurd missing (not_or.mpr related.1)
  · have inserts : rules.Ensures thread (RelationOf msg.fromUserId msg.toSessionId relateId)
        (issue (.insertMessage (textRow msg relateId msgId)))
        fun _ => Kept msg relateId msgId := by
      apply Protocol.Ensures.perform stable_relationOf fun _ => stable_kept
      intro history answer readable related careful
      have acts : rules.Guarantees thread history
          (MessageIds.effect thread history (.insertMessage (textRow msg relateId msgId))
            answer).2 :=
        guarantees readable careful valid
      have keeps := effect_keeps thread history (.insertMessage (textRow msg relateId msgId)) answer
      refine ⟨acts, ⟨related.1, keeps.relations _ _ false relateId related.2⟩, ?_⟩
      have stores := careful.stores (textRow msg relateId msgId) rfl
      cases answer with
      | noConnection => cases stores
      | failed => cases stores
      | ok done => exact List.mem_append_right _ (List.mem_singleton.mpr rfl)
    apply inserts.bind
    intro answer
    cases answer with
    | noConnection => exact .done stable_kept fun _ _ => id
    | failed => exact .done stable_kept fun _ _ => id
    | ok done =>
        have counts : (issue (.hincrUnread msg.toSessionId msg.fromUserId)).Issues NoRow :=
          Prog.Issues.perform trivial
        apply (ensures_noRow counts stable_kept).bind
        exact fun _ => .done stable_kept fun _ _ => id

/-- An id in a response is the one of the row of the message. -/
def Acknowledged (msg : MsgData) (response : Option Id) (history : History) : Prop :=
  ∀ msgId, response = some msgId → msgId ≠ invalidValue →
    ∃ relateId, relateId ≠ invalidValue ∧ Kept msg relateId msgId history

theorem sendToUser_ensures (msg : MsgData) (valid : msgTypeIsValid msg.msgType = true) :
    rules.Ensures thread (fun _ => True) (sendToUser MessageModel.sendMessage msg)
      (Acknowledged msg) := by
  have none : ∀ know : History → Prop, rules.Stable thread know →
      rules.Ensures thread know (.done (some invalidValue)) (Acknowledged msg) := by
    intro know stable
    apply Protocol.Ensures.done stable
    intro history _ _ msgId same acknowledged
    exact absurd (Option.some.inj same).symm acknowledged
  unfold sendToUser
  split
  · exact none _ (.const True)
  · have opens := (openSessions_sessionOp msg.fromUserId msg.toSessionId).mono SessionOp.noRow
    apply (ensures_noRow opens (.const True)).bind
    intro sessions
    apply (getRelationId_ensures msg.fromUserId msg.toSessionId).bind
    intro relateId
    have stable : rules.Stable thread
        (RelationRules.Linked (RelationOf msg.fromUserId msg.toSessionId) relateId) :=
      (Protocol.Stable.const _).or stable_relationOf
    split
    · rename_i opened
      have counts : (getMsgId (.relation relateId)).Issues NoRow :=
        ⟨trivial, fun _ => trivial⟩
      have numbered := (ensures_noRow counts stable_relationOf).strengthen stable
        fun _ _ linked => linked.resolve_left opened.2
      apply numbered.bind
      intro msgId
      split
      · apply (sendMessage_ensures msg valid msgId).bind
        intro _
        have touch : ∀ sessionId : Id, rules.Ensures thread (Kept msg relateId msgId)
            (SessionModel.updateSession sessionId msg.now) fun _ => Kept msg relateId msgId :=
          fun sessionId => ensures_noRow
            ((updateSession_sessionOp sessionId msg.now).mono SessionOp.noRow) stable_kept
        apply (touch sessions.1).bind
        intro _
        apply (touch sessions.2).bind
        intro _
        apply Protocol.Ensures.done stable_kept
        intro history _ kept found same _
        cases same
        exact ⟨relateId, opened.2, kept⟩
      · exact none _ stable_relationOf
    · exact none _ stable

/-- What is known of the response to a text message. -/
theorem body_ensures (thread : Nat) (msg : SingleMsg) :
    rules.Ensures thread (fun _ => True) (sendMessage msg.1) fun response history =>
      msg.1.msgType = msgTypeSingleText → Acknowledged msg.1 response history := by
  by_cases text : msg.1.msgType = msgTypeSingleText
  · by_cases rejected : msgTypeIsValid msg.1.msgType = false ∨ msg.1.msgData.length = 0
    · rw [sendMessage_rejected rejected]
      apply Protocol.Ensures.done (.const True)
      intro history _ _ _ msgId same
      cases same
    · have valid : msgTypeIsValid msg.1.msgType = true := by
        simpa using (not_or.mp rejected).1
      have plain : userStore msg.1.msgType = MessageModel.sendMessage := by
        rw [userStore, text]
        rfl
      rw [sendMessage_toUser valid (not_or.mp rejected).2 msg.2, plain]
      exact (sendToUser_ensures msg.1 valid).weaken fun _ _ _ acknowledged _ => acknowledged
  · have acts : rules.Ensures thread (fun _ => True) (sendMessage msg.1) fun _ _ => True :=
      Protocol.Ensures.issues (body_insertsValid msg)
        fun _ _ _ inserts readable careful => guarantees readable careful inserts
    exact acts.weaken fun _ _ _ _ same => absurd same text

end Thread

/-! ### Reading -/

/-- The calls of reading messages succeed. -/
structure Answered (calls : HistoryCalls) : Prop where
  connection : calls.connection = true
  resultSet : calls.resultSet = true
  relation : ∀ smallId bigId, ∃ ids, calls.relation (.selectRelation smallId bigId false) = .ok ids
  audio : calls.audio.Answered

/-- The only active relation of two users is found. -/
theorem relationOf_eq {history : History} (readable : Readable history) {calls : HistoryCalls}
    (answered : Answered calls) {userId peerId relateId : Id}
    (related : RelationOf userId peerId relateId history) :
    MessageModel.relationOf history.store calls userId peerId = relateId := by
  obtain ⟨⟨user, peer⟩, linked⟩ := related
  obtain ⟨ids, answer⟩ := answered.relation (min userId peerId) (max userId peerId)
  have active : history.store.relations.OneRow (min userId peerId) (max userId peerId) false := by
    have known : ∀ other ∈
        history.store.relations.select (min userId peerId) (max userId peerId) false,
        other ∈ history.store.relations.select (min userId peerId) (max userId peerId) true := by
      intro other found
      obtain ⟨row, member, small, big, _, same⟩ :=
        (RelationTable.mem_select _ _ _ _ _).mp found
      exact (RelationTable.mem_select _ _ _ _ _).mpr ⟨row, member, small, big, .inl rfl, same⟩
    intro first foundFirst second foundSecond
    exact readable.pairs _ _ first (known first foundFirst) second (known second foundSecond)
  have single := (RelationTable.oneRow_iff_length _ _ _ _).mp active
  have only : history.store.relations.select (min userId peerId) (max userId peerId) false =
      [relateId] := by
    obtain ⟨other, same⟩ := List.length_eq_one_iff.mp
      (Nat.le_antisymm single (List.length_pos_of_mem linked))
    rw [Linked, same] at linked
    rw [same, List.mem_singleton.mp linked]
  unfold MessageModel.relationOf RelationModel.getRelationId
  rw [if_neg (not_or.mpr ⟨user, peer⟩)]
  simp [Prog.perform_bind, answer, MessageStore.apply, only, lastId]

/-- The relation does not depend on who of the two asks. -/
theorem RelationOf.symm {fromId toId relateId : Id} {history : History}
    (related : RelationOf fromId toId relateId history) :
    RelationOf toId fromId relateId history := by
  obtain ⟨users, linked⟩ := related
  rw [RelationOf, min_comm, max_comm]
  exact ⟨users.symm, linked⟩

theorem shown_text (calls : AudioCalls) {msg : MsgInfo} (text : msg.msgType = msgTypeSingleText) :
    AudioModel.shown calls msg = msg := by
  have plain : isAudioType msg.msgType = false := by
    rw [text]
    rfl
  unfold AudioModel.shown AudioModel.readAudio
  rw [plain]
  exact ite_self _

/-- After a run in which every statement is careful, the row of an acknowledged message is
stored. -/
theorem kept_of_run {start : MessageStore} (readable : Readable ⟨start, []⟩)
    {events : List SendEvent}
    (careful : Meets MessageIds.step (Pool.Permits Careful) ⟨⟨start, []⟩, []⟩ events) {index : Nat}
    {msg : SingleMsg} {msgId : Id}
    (finished : (run MessageIds.step ⟨⟨start, []⟩, []⟩ events).Finished index msg (some msgId))
    (acknowledged : msgId ≠ invalidValue) (text : msg.1.msgType = msgTypeSingleText) :
    Readable (run MessageIds.step ⟨⟨start, []⟩, []⟩ events).store ∧
      ∃ relateId, relateId ≠ invalidValue ∧
        Kept msg.1 relateId msgId (run MessageIds.step ⟨⟨start, []⟩, []⟩ events).store := by
  have sound := @Protocol.Sound.run _ _ _ _ _ rules _ _ _ body_ensures events (.empty readable)
    careful
  exact ⟨sound.1, sound.finished finished text msgId rfl acknowledged⟩

/-- A text message that was acknowledged comes back to the sender and to the receiver with its
content up to the first zero, however the requests were interleaved, in every page that is long
enough. -/
theorem acknowledged_comes_back {start : MessageStore} (readable : Readable ⟨start, []⟩)
    {events : List SendEvent}
    (careful : Meets MessageIds.step (Pool.Permits Careful) ⟨⟨start, []⟩, []⟩ events) {index : Nat}
    {msg : SingleMsg} {msgId : Id}
    (finished : (run MessageIds.step ⟨⟨start, []⟩, []⟩ events).Finished index msg (some msgId))
    (acknowledged : msgId ≠ invalidValue) (text : msg.1.msgType = msgTypeSingleText)
    {calls : HistoryCalls} (answered : Answered calls) {userId peerId : Id}
    (users : userId = msg.1.fromUserId ∧ peerId = msg.1.toSessionId ∨
      userId = msg.1.toSessionId ∧ peerId = msg.1.fromUserId) {count : Nat}
    (enough : (run MessageIds.step ⟨⟨start, []⟩, []⟩ events).store.store.messages.length ≤ count) :
    (⟨msgId, msg.1.fromUserId, msg.1.createTime, msg.1.msgType,
        ResultSet.getString msg.1.msgData⟩ : MsgInfo) ∈
      MessageModel.getMessage (run MessageIds.step ⟨⟨start, []⟩, []⟩ events).store.store calls
        userId peerId 0 count := by
  obtain ⟨last, relateId, valid, related, stored⟩ :=
    kept_of_run readable careful finished acknowledged text
  generalize (run MessageIds.step ⟨⟨start, []⟩, []⟩ events).store = history at *
  have asked : RelationOf userId peerId relateId history := by
    obtain ⟨rfl, rfl⟩ | ⟨rfl, rfl⟩ := users
    · exact related
    · exact related.symm
  have relation := relationOf_eq last answered asked
  rw [MessageModel.getMessage, MessageModel.select, relation,
    if_pos ⟨valid, answered.connection, answered.resultSet⟩,
    readAudios_page (MessageHistory.InOrder.of_orderly last.orderly relateId) last.orderly.valid
      answered.audio]
  refine List.mem_map.mpr ⟨textRow msg.1 relateId msgId, ?_, shown_text _ text⟩
  have visible : textRow msg.1 relateId msgId ∈
      history.store.messages.filter (MessageModel.ofRelation relateId) :=
    List.mem_filter.mpr ⟨stored, by simp [MessageModel.ofRelation, textRow]⟩
  rw [page, List.take_of_length_le ?_]
  · exact List.mem_filter.mpr ⟨List.mem_reverse.mpr visible, rfl⟩
  · refine (List.length_filter_le _ _).trans ?_
    rw [List.length_reverse]
    exact (List.length_filter_le _ _).trans enough

theorem readable_empty : Readable ⟨.empty, []⟩ :=
  ⟨MessageHistory.orderly_empty, fun _ _ _ found => by cases found⟩

theorem allAnswered_answered : Answered MessageHistory.allAnswered :=
  ⟨rfl, rfl, fun _ _ => ⟨[9], rfl⟩, fun _ => Option.some_ne_none _⟩

/-- The receiver reads the first message after an answer to it. -/
theorem acknowledged_comes_back_answered :
    (⟨1, 1, 100, msgTypeSingleText, (MessageIds.text 1 2).1.msgData⟩ : MsgInfo) ∈
      MessageModel.getMessage (run MessageIds.step ⟨⟨.empty, []⟩, []⟩
        (MessageIds.firstMessage ++ MessageIds.answerMessage)).store.store
          MessageHistory.allAnswered 2 1 0 10 :=
  @acknowledged_comes_back _ readable_empty (MessageIds.firstMessage ++ MessageIds.answerMessage)
    (by decide) 0 (MessageIds.text 1 2) 1 rfl (by decide) rfl _ allAnswered_answered _ _
    (.inr ⟨rfl, rfl⟩) _ (by decide)

end MessageReadBack

end AChat.DbProxy
