import Mathlib.Data.Nat.Basic
import AChat.DbProxy.RelationLookup

/-!
Contract: message ids of a relation are unique and increasing, whatever threads send.

An id is the value of a counter that `INCRBY` raises. The thread that adds a relation
sets its counter to 0 afterwards, when others may have counted already.

Owns: runs of `sendMessage` for messages to single users, the condition under which
their ids are in order, and a run in which an id is given twice.
-/

namespace AChat.DbProxy

open Lib (Prog Protocol Pool PoolEvent Meets run)

namespace MessageIds

/-! ### Runs -/

abbrev SingleMsg := { msg : MsgData // isGroupType msg.msgType = false }

/-- A thread was given an id. -/
structure Allocation where
  thread : Nat
  relateId : Id
  msgId : Id
deriving DecidableEq, Repr

/-- The store, and the ids that were given so far, which nothing reads. -/
structure History where
  store : MessageStore
  allocated : List Allocation

abbrev SendPool := Pool History SingleMsg MessageOp MessageOp.Reply (Option Id)
abbrev SendEvent := PoolEvent SingleMsg MessageOp MessageOp.Reply

def allocations (thread : Nat) : (op : MessageOp) → op.Reply → List Allocation
  | .incrMsgId (.relation relateId), .ok count => [⟨thread, relateId, incrResult (.ok count)⟩]
  | _, _ => []

def effect : Lib.Effect History MessageOp MessageOp.Reply :=
  fun thread history op answer =>
    let result := history.store.apply op answer
    (result.1, ⟨result.2, history.allocated ++ allocations thread op result.1⟩)

def step : SendPool → SendEvent → SendPool :=
  Pool.step (fun msg => sendMessage msg.1) effect

/-! ### The condition -/

/-- A relation is added only to a pair without one, its counter is reset only as long as it has
not counted, and counting does not fail and stays below `2 ^ 32`. -/
def KeepsCounting (history : History) : (op : MessageOp) → op.Reply → Prop
  | .insertRelation smallId bigId, .ok _ =>
      history.store.relations.select smallId bigId true = []
  | .setMsgId relateId, .ok _ => (history.store.counters relateId).getD 0 = 0
  | .incrMsgId (.relation _), .failed => False
  | .incrMsgId (.relation relateId), .ok _ => history.store.nextCount relateId < 2 ^ 32
  | _, _ => True

instance (history : History) (op : MessageOp) (answer : op.Reply) :
    Decidable (KeepsCounting history op answer) := by
  unfold KeepsCounting
  split <;> infer_instance

/-! ### Invariants -/

def messageKey (row : MessageRow) : Id × Id :=
  (row.relateId, row.msgId)

/-- The counter of the relation has reached this id. -/
def Counted (store : MessageStore) (relateId msgId : Id) : Prop :=
  ∃ count, store.counters relateId = some count ∧ msgId ≤ count

structure Consistent (store : MessageStore) : Prop where
  pairs : ∀ smallId bigId, store.relations.OneRow smallId bigId true
  counted : ∀ row ∈ store.messages, Counted store row.relateId row.msgId
  distinct : (store.messages.map messageKey).Nodup

structure Accounted (history : History) : Prop where
  consistent : Consistent history.store
  counted : ∀ given ∈ history.allocated, Counted history.store given.relateId given.msgId
  increasing : history.allocated.Pairwise fun first second =>
    first.relateId = second.relateId → first.msgId < second.msgId

/-- The thread has the id, and no row has it yet. -/
def Holds (thread : Nat) (relateId msgId : Id) (history : History) : Prop :=
  ⟨thread, relateId, msgId⟩ ∈ history.allocated ∧
    ∀ row ∈ history.store.messages, messageKey row ≠ (relateId, msgId)

/-- Relations stay, and allocations are added at the end. -/
structure Grows (history later : History) : Prop where
  rows : ∀ smallId bigId, ∀ relateId ∈ history.store.relations.select smallId bigId true,
    relateId ∈ later.store.relations.select smallId bigId true
  allocated : history.allocated <+: later.allocated

/-- What a thread relies on: nobody stores a row under its ids. -/
structure Respects (thread : Nat) (history later : History) : Prop where
  grows : Grows history later
  holds : ∀ relateId msgId, Holds thread relateId msgId history →
    Holds thread relateId msgId later

theorem Grows.refl (history : History) : Grows history history :=
  ⟨fun _ _ _ => id, List.prefix_rfl⟩

theorem Grows.trans {first second third : History} (before : Grows first second)
    (after : Grows second third) : Grows first third :=
  ⟨fun smallId bigId relateId found =>
      after.rows smallId bigId relateId (before.rows smallId bigId relateId found),
    before.allocated.trans after.allocated⟩

/-! ### Steps -/

theorem incrResult_ok {count : Nat} (small : count < 2 ^ 32) :
    incrResult (.ok (count : Int)) = count := by
  rw [incrResult, Int.emod_eq_of_lt (Int.natCast_nonneg count) (by exact_mod_cast small),
    Int.toNat_natCast]

section Steps

variable {thread : Nat} {history : History} {op : MessageOp} {answer : op.Reply}

theorem effect_grows (thread : Nat) (history : History) (op : MessageOp) (answer : op.Reply) :
    Grows history (effect thread history op answer).2 := by
  refine ⟨?_, List.prefix_append _ _⟩
  intro smallId bigId relateId found
  simp only [effect, MessageStore.apply]
  split
  · exact found
  · exact (RelationTable.mem_select_activate _ _ _ _ _ _).mpr (.inl found)
  · exact (RelationTable.mem_select_insert _ _ _ _ _ _ _).mpr (.inl found)
  · exact found
  · exact found
  · exact found
  · exact found

theorem apply_counted (keeps : KeepsCounting history op answer) {relateId msgId : Id}
    (counted : Counted history.store relateId msgId) :
    Counted (history.store.apply op answer).2 relateId msgId := by
  obtain ⟨count, value, reached⟩ := counted
  unfold MessageStore.apply
  split
  · exact ⟨count, value, reached⟩
  · exact ⟨count, value, reached⟩
  · exact ⟨count, value, reached⟩
  · rename_i reset _
    have zero : (history.store.counters reset).getD 0 = 0 := keeps
    by_cases same : relateId = reset
    · subst same
      rw [value, Option.getD_some] at zero
      exact ⟨0, Function.update_self .., zero ▸ reached⟩
    · exact ⟨count, (Function.update_of_ne same _ _).trans value, reached⟩
  · rename_i raised _
    by_cases same : relateId = raised
    · subst same
      refine ⟨_, Function.update_self .., ?_⟩
      rw [MessageStore.nextCount, value, Option.getD_some]
      exact Nat.le_succ_of_le reached
    · exact ⟨count, (Function.update_of_ne same _ _).trans value, reached⟩
  · exact ⟨count, value, reached⟩
  · exact ⟨count, value, reached⟩

theorem apply_pairs (consistent : Consistent history.store)
    (keeps : KeepsCounting history op answer) (smallId bigId : Id) :
    (history.store.apply op answer).2.relations.OneRow smallId bigId true := by
  have pairs := consistent.pairs smallId bigId
  unfold MessageStore.apply
  split
  · exact pairs
  · intro relateId found other otherFound
    simp only [RelationTable.mem_select_activate] at found otherFound
    exact pairs relateId (found.elim id And.right) other (otherFound.elim id And.right)
  · exact RelationTable.oneRow_insert pairs keeps
  · exact pairs
  · exact pairs
  · exact pairs
  · exact pairs

/-- Only the insert of a message changes the rows. -/
theorem apply_messages (store : MessageStore) (op : MessageOp) (answer : op.Reply) :
    (store.apply op answer).2.messages = store.messages ∨
      ∃ row, op = .insertMessage row ∧
        (store.apply op answer).2.messages = store.messages ++ [row] := by
  unfold MessageStore.apply
  split
  · exact .inl rfl
  · exact .inl rfl
  · exact .inl rfl
  · exact .inl rfl
  · exact .inl rfl
  · exact .inr ⟨_, rfl, rfl⟩
  · exact .inl rfl

/-- Only counting gives an id, which is the next one. -/
theorem effect_allocated (thread : Nat) (keeps : KeepsCounting history op answer) :
    (effect thread history op answer).2.allocated = history.allocated ∨
      ∃ relateId, (effect thread history op answer).2.allocated =
          history.allocated ++ [⟨thread, relateId, history.store.nextCount relateId⟩] ∧
        (effect thread history op answer).2.store.counters relateId =
          some (history.store.nextCount relateId) := by
  cases op with
  | incrMsgId key =>
      cases key with
      | group groupId => exact .inl (by cases answer <;> exact List.append_nil _)
      | relation relateId =>
          cases answer with
          | noConnection => exact .inl (List.append_nil _)
          | failed => exact .inl (List.append_nil _)
          | ok proposed =>
              refine .inr ⟨relateId, ?_, Function.update_self ..⟩
              simp only [effect, MessageStore.apply, allocations, incrResult_ok keeps]
  | _ => exact .inl (List.append_nil _)

theorem holds_unique (accounted : Accounted history) {other : Nat} {relateId msgId : Id}
    (holds : Holds thread relateId msgId history)
    (holdsOther : Holds other relateId msgId history) :
    thread = other := by
  obtain ⟨first, firstInside, firstEntry⟩ := List.getElem_of_mem holds.1
  obtain ⟨second, secondInside, secondEntry⟩ := List.getElem_of_mem holdsOther.1
  have increasing := List.pairwise_iff_getElem.mp accounted.increasing
  rcases Nat.lt_trichotomy first second with before | same | after
  · have less := increasing first second firstInside secondInside before
    rw [firstEntry, secondEntry] at less
    exact absurd (less rfl) (Nat.lt_irrefl msgId)
  · subst same
    rw [firstEntry] at secondEntry
    exact congrArg Allocation.thread secondEntry
  · have less := increasing second first secondInside firstInside after
    rw [firstEntry, secondEntry] at less
    exact absurd (less rfl) (Nat.lt_irrefl msgId)

theorem effect_accounted (accounted : Accounted history) (keeps : KeepsCounting history op answer)
    (owns : ∀ row, op = .insertMessage row → Holds thread row.relateId row.msgId history) :
    Accounted (effect thread history op answer).2 := by
  have counted : ∀ relateId msgId, Counted history.store relateId msgId →
      Counted (effect thread history op answer).2.store relateId msgId :=
    fun _ _ => apply_counted keeps
  have messages := apply_messages history.store op answer
  refine ⟨⟨apply_pairs accounted.consistent keeps, ?_, ?_⟩, ?_, ?_⟩
  · intro row member
    cases messages with
    | inl same => exact counted _ _ (accounted.consistent.counted row (same ▸ member))
    | inr stored =>
        obtain ⟨new, rfl, rows⟩ := stored
        have member := List.mem_append.mp (rows ▸ member)
        cases member with
        | inl before => exact counted _ _ (accounted.consistent.counted row before)
        | inr last =>
            rw [List.mem_singleton.mp last]
            exact counted _ _ (accounted.counted _ (owns new rfl).1)
  · cases messages with
    | inl same => exact same.symm ▸ accounted.consistent.distinct
    | inr stored =>
        obtain ⟨new, rfl, rows⟩ := stored
        have absent := (owns new rfl).2
        have distinct := accounted.consistent.distinct
        change (((history.store.apply _ answer).2.messages).map messageKey).Nodup
        rw [rows, List.map_append, List.map_singleton]
        apply List.Nodup.append distinct (List.nodup_singleton _)
        intro key before last
        obtain ⟨row, member, same⟩ := List.mem_map.mp before
        rw [List.mem_singleton.mp last] at same
        exact absent row member same
  · intro given member
    cases effect_allocated thread keeps with
    | inl same => exact counted _ _ (accounted.counted given (same ▸ member))
    | inr new =>
        obtain ⟨relateId, allocated, value⟩ := new
        cases List.mem_append.mp (allocated ▸ member) with
        | inl before => exact counted _ _ (accounted.counted given before)
        | inr last =>
            rw [List.mem_singleton.mp last]
            exact ⟨_, value, Nat.le_refl _⟩
  · cases effect_allocated thread keeps with
    | inl same => exact same.symm ▸ accounted.increasing
    | inr new =>
        obtain ⟨relateId, allocated, _⟩ := new
        rw [allocated]
        refine List.pairwise_append.mpr ⟨accounted.increasing, List.pairwise_singleton _ _, ?_⟩
        intro given before last member same
        rw [List.mem_singleton.mp member] at same ⊢
        obtain ⟨count, value, reached⟩ := accounted.counted given before
        rw [same] at value
        rw [MessageStore.nextCount, value, Option.getD_some]
        exact Nat.lt_succ_of_le reached

theorem effect_respects (accounted : Accounted history)
    (owns : ∀ row, op = .insertMessage row → Holds thread row.relateId row.msgId history)
    {other : Nat} (different : other ≠ thread) :
    Respects other history (effect thread history op answer).2 := by
  have grows := effect_grows thread history op answer
  refine ⟨grows, ?_⟩
  intro relateId msgId holds
  refine ⟨grows.allocated.subset holds.1, ?_⟩
  intro row member
  cases apply_messages history.store op answer with
  | inl same => exact holds.2 row (same ▸ member)
  | inr stored =>
      obtain ⟨new, rfl, rows⟩ := stored
      cases List.mem_append.mp (rows ▸ member) with
      | inl before => exact holds.2 row before
      | inr last =>
          rw [List.mem_singleton.mp last]
          intro key
          obtain ⟨rfl, rfl⟩ := Prod.mk.inj key
          exact different (holds_unique accounted holds (owns new rfl))

end Steps

/-! ### One thread -/

def rules : Protocol History MessageOp MessageOp.Reply where
  effect := effect
  allowed := KeepsCounting
  inv := Accounted
  rely := Respects
  rely_refl _ history := ⟨.refl history, fun _ _ => id⟩

def Related (smallId bigId relateId : Id) (history : History) : Prop :=
  relateId ∈ history.store.relations.select smallId bigId true

def Allocated (thread : Nat) (relateId msgId : Id) (history : History) : Prop :=
  ⟨thread, relateId, msgId⟩ ∈ history.allocated

section Thread

variable {thread : Nat} {smallId bigId relateId msgId : Id}

theorem stable_related : rules.Stable thread (Related smallId bigId relateId) :=
  fun _ _ _ _ respects related => respects.grows.rows smallId bigId relateId related

theorem stable_allocated : rules.Stable thread (Allocated thread relateId msgId) :=
  fun _ _ _ _ respects allocated => respects.grows.allocated.subset allocated

theorem stable_holds : rules.Stable thread (Holds thread relateId msgId) :=
  fun _ _ _ _ respects holds => respects.holds relateId msgId holds

theorem guarantees {history : History} {op : MessageOp} {answer : op.Reply}
    (accounted : Accounted history) (keeps : KeepsCounting history op answer)
    (owns : ∀ row, op = .insertMessage row → Holds thread row.relateId row.msgId history) :
    rules.Guarantees thread history (effect thread history op answer).2 :=
  ⟨effect_accounted accounted keeps owns,
    fun _ different => effect_respects accounted owns different⟩

theorem quiet {op : MessageOp} (unshared : ¬SharedOp op) : rules.Quiet op := by
  intro thread history answer
  have same := apply_unshared unshared history.store answer
  have none : allocations thread op (history.store.apply op answer).1 = [] := by
    unfold allocations
    split
    · exact absurd trivial unshared
    · rfl
  change (⟨(history.store.apply op answer).2, history.allocated ++ _⟩ : History) = history
  rw [same, none, List.append_nil]

theorem SessionOp.quiet (op : MessageOp) (session : SessionOp op) : rules.Quiet op := by
  apply MessageIds.quiet
  cases op <;> first | exact id | cases session

theorem AudioOp.quiet (op : MessageOp) (audio : AudioOp op) : rules.Quiet op := by
  apply MessageIds.quiet
  cases op <;> first | exact id | cases audio

/-- Any operation of a thread but the insert of a message keeps what is related. -/
theorem ensures_related {op : MessageOp} (other : ∀ row, op ≠ .insertMessage row) :
    rules.Ensures thread (Related smallId bigId relateId) (issue op)
      fun _ => Related smallId bigId relateId := by
  apply Protocol.Ensures.perform stable_related fun _ => stable_related
  intro history answer accounted related keeps
  exact ⟨guarantees accounted keeps fun row same => absurd same (other row),
    (effect_grows thread history op answer).rows smallId bigId relateId related⟩

theorem selects (isAll : Bool) :
    rules.Ensures thread (fun _ => True) (issue (.selectRelation smallId bigId isAll))
      fun answer history => ∀ ids, answer = .ok ids → ∀ relateId ∈ ids,
        Related smallId bigId relateId history := by
  apply Protocol.Ensures.perform (.const True)
  · exact fun answer => .all fun ids => .all fun _ => .all fun relateId => .all fun _ =>
      stable_related
  · intro history answer accounted _ keeps
    refine ⟨guarantees accounted keeps fun row same => (by cases same), ?_⟩
    intro ids answered relateId found
    cases answer with
    | noConnection => cases answered
    | failed => cases answered
    | ok proposed =>
        cases answered
        obtain ⟨row, member, small, big, _, same⟩ :=
          (RelationTable.mem_select _ _ _ _ _).mp found
        exact (RelationTable.mem_select _ _ _ _ _).mpr
          ⟨row, member, small, big, .inl rfl, same⟩

theorem relationRules (thread : Nat) (smallId bigId : Id) :
    RelationRules rules thread smallId bigId (Related smallId bigId)
      (Related smallId bigId) where
  stable _ := stable_related
  stableKnown _ := stable_related
  selects := selects false
  finds := selects true
  activates relateId := by
    apply (ensures_related fun _ same => by cases same).bind
    exact fun answer => .done stable_related fun _ _ related _ => related
  inserts := by
    apply Protocol.Ensures.perform (.const True)
    · exact fun answer => .all fun relateId => .all fun _ => stable_related
    · intro history answer accounted _ keeps
      refine ⟨guarantees accounted keeps fun row same => (by cases same), ?_⟩
      intro relateId answered
      cases answer with
      | noConnection => cases answered
      | failed => cases answered
      | ok proposed =>
          cases answered
          exact (RelationTable.mem_select_insert _ _ _ _ _ _ _).mpr (.inr ⟨rfl, rfl, rfl⟩)
  resets relateId := ensures_related fun _ same => by cases same

/-- What a thread knows from the id on: the relation, and that the id is its own. -/
def Numbered (thread : Nat) (smallId bigId relateId msgId : Id) (history : History) : Prop :=
  Related smallId bigId relateId history ∧
    (msgId = invalidValue ∨ Holds thread relateId msgId history)

theorem stable_numbered : rules.Stable thread (Numbered thread smallId bigId relateId msgId) :=
  stable_related.and ((Protocol.Stable.const _).or stable_holds)

theorem incrMsgId_ensures :
    rules.Ensures thread (Related smallId bigId relateId) (issue (.incrMsgId (.relation relateId)))
      fun answer => Numbered thread smallId bigId relateId (incrResult answer) := by
  apply Protocol.Ensures.perform stable_related fun _ => stable_numbered
  intro history answer accounted related keeps
  have grown := (effect_grows thread history (.incrMsgId (.relation relateId)) answer).rows
    smallId bigId relateId related
  refine ⟨guarantees accounted keeps fun row same => (by cases same), grown, ?_⟩
  cases answer with
  | noConnection => exact .inl rfl
  | failed => exact keeps.elim
  | ok proposed =>
      have below : history.store.nextCount relateId < 2 ^ 32 := keeps
      refine .inr ⟨List.mem_append_right _ (List.mem_singleton.mpr rfl), ?_⟩
      intro row member key
      -- The counter has reached the ids of all rows, and the new id is above it.
      obtain ⟨count, value, reached⟩ := accounted.consistent.counted row member
      obtain ⟨sameRelation, sameId⟩ := Prod.mk.inj key
      have new : row.msgId = history.store.nextCount relateId :=
        sameId.trans (incrResult_ok below)
      rw [sameRelation] at value
      rw [MessageStore.nextCount, value, Option.getD_some] at new
      exact absurd (Nat.le_trans (Nat.le_of_eq new.symm) reached) (Nat.not_succ_le_self count)

theorem getMsgId_ensures :
    rules.Ensures thread (Related smallId bigId relateId) (getMsgId (.relation relateId))
      fun msgId => Numbered thread smallId bigId relateId msgId :=
  incrMsgId_ensures.bind fun _ => .done stable_numbered fun _ _ => id

/-- What is known once a row may be stored. -/
def Given (thread : Nat) (smallId bigId relateId msgId : Id) (history : History) : Prop :=
  Related smallId bigId relateId history ∧ Allocated thread relateId msgId history

theorem stable_given : rules.Stable thread (Given thread smallId bigId relateId msgId) :=
  stable_related.and stable_allocated

theorem stable_owned : rules.Stable thread fun history =>
    Related smallId bigId relateId history ∧ Holds thread relateId msgId history :=
  stable_related.and stable_holds

theorem given_of_owned (history : History) (owned : Related smallId bigId relateId history ∧
    Holds thread relateId msgId history) : Given thread smallId bigId relateId msgId history :=
  ⟨owned.1, owned.2.1⟩

theorem sendMessage_ensures (fromId toId msgType createTime : Nat) (content : Content) :
    rules.Ensures thread
      (fun history => Related smallId bigId relateId history ∧ Holds thread relateId msgId history)
      (MessageModel.sendMessage relateId fromId toId msgType createTime msgId content)
      fun _ => Given thread smallId bigId relateId msgId := by
  unfold MessageModel.sendMessage
  split
  · exact .done stable_owned fun history _ => given_of_owned history
  · have inserts : rules.Ensures thread
        (fun history => Related smallId bigId relateId history ∧
          Holds thread relateId msgId history)
        (issue (.insertMessage ⟨relateId, fromId, toId, msgId, content, 0, msgType, createTime⟩))
        fun _ => Given thread smallId bigId relateId msgId := by
      apply Protocol.Ensures.perform stable_owned fun _ => stable_given
      intro history answer accounted owned keeps
      have grows := effect_grows thread history
        (.insertMessage ⟨relateId, fromId, toId, msgId, content, 0, msgType, createTime⟩) answer
      refine ⟨guarantees accounted keeps ?_, grows.rows smallId bigId relateId owned.1,
        grows.allocated.subset owned.2.1⟩
      intro row same
      cases same
      exact owned.2
    apply inserts.bind
    intro answer
    cases answer with
    | noConnection => exact .done stable_given fun _ _ => id
    | failed => exact .done stable_given fun _ _ => id
    | ok stored =>
        have unread : rules.Quiet (.hincrUnread toId fromId) := quiet id
        apply (Protocol.Ensures.quiet (Prog.Issues.perform unread) stable_given).bind
        exact fun _ => .done stable_given fun _ _ => id

theorem sendAudioMessage_ensures (fromId toId msgType createTime : Nat) (content : Content) :
    rules.Ensures thread
      (fun history => Related smallId bigId relateId history ∧ Holds thread relateId msgId history)
      (MessageModel.sendAudioMessage relateId fromId toId msgType createTime msgId content)
      fun _ => Given thread smallId bigId relateId msgId := by
  unfold MessageModel.sendAudioMessage
  split
  · exact .done stable_owned fun history _ => given_of_owned history
  · have saves := (saveAudioInfo_audioOp fromId toId createTime content).mono AudioOp.quiet
    apply (Protocol.Ensures.quiet saves stable_owned).bind
    intro audioId
    split
    · exact sendMessage_ensures fromId toId msgType createTime _
    · exact .done stable_owned fun history _ => given_of_owned history

theorem userStore_ensures (msg : MsgData) :
    rules.Ensures thread
      (fun history => Related smallId bigId relateId history ∧ Holds thread relateId msgId history)
      (userStore msg.msgType relateId msg.fromUserId msg.toSessionId msg.msgType msg.createTime
        msgId msg.msgData)
      fun _ => Given thread smallId bigId relateId msgId := by
  unfold userStore
  split
  · exact sendAudioMessage_ensures _ _ _ _ _
  · exact sendMessage_ensures _ _ _ _ _

/-- An id in a response was given to the thread, under a relation of the two users. -/
def Acknowledged (thread : Nat) (msg : SingleMsg) (response : Option Id) (history : History) :
    Prop :=
  ∀ msgId, response = some msgId → msgId ≠ invalidValue →
    ∃ relateId, Given thread (min msg.1.fromUserId msg.1.toSessionId)
      (max msg.1.fromUserId msg.1.toSessionId) relateId msgId history

theorem sendToUser_ensures (msg : SingleMsg) :
    rules.Ensures thread (fun _ => True) (sendToUser (userStore msg.1.msgType) msg.1)
      (Acknowledged thread msg) := by
  have none : ∀ know : History → Prop, rules.Stable thread know →
      rules.Ensures thread know (.done (some invalidValue)) (Acknowledged thread msg) := by
    intro know stable
    apply Protocol.Ensures.done stable
    intro history _ _ msgId same valid
    exact absurd (Option.some.inj same).symm valid
  unfold sendToUser
  split
  · exact none _ (.const True)
  · have opens := (openSessions_sessionOp msg.1.fromUserId msg.1.toSessionId).mono SessionOp.quiet
    apply (Protocol.Ensures.quiet opens (.const True)).bind
    intro sessions
    have looks : rules.Ensures thread (fun _ => True)
        (RelationModel.getRelationId msg.1.fromUserId msg.1.toSessionId true)
        (RelationRules.Linked (Related (min msg.1.fromUserId msg.1.toSessionId)
          (max msg.1.fromUserId msg.1.toSessionId))) :=
      (relationRules thread _ _).getRelationId true
    apply looks.bind
    intro relateId
    have stable : rules.Stable thread (RelationRules.Linked (Related
        (min msg.1.fromUserId msg.1.toSessionId) (max msg.1.fromUserId msg.1.toSessionId))
        relateId) := (Protocol.Stable.const _).or stable_related
    split
    · rename_i valid
      apply (getMsgId_ensures.strengthen stable fun _ _ linked => linked.resolve_left valid.2).bind
      intro msgId
      split
      · rename_i counted
        apply ((userStore_ensures msg.1).strengthen stable_numbered fun _ _ numbered =>
          ⟨numbered.1, numbered.2.resolve_left counted⟩).bind
        intro _
        have touch : ∀ sessionId : Id, rules.Ensures thread
            (Given thread (min msg.1.fromUserId msg.1.toSessionId)
              (max msg.1.fromUserId msg.1.toSessionId) relateId msgId)
            (SessionModel.updateSession sessionId msg.1.now)
            fun _ => Given thread (min msg.1.fromUserId msg.1.toSessionId)
              (max msg.1.fromUserId msg.1.toSessionId) relateId msgId :=
          fun sessionId => .quiet ((updateSession_sessionOp sessionId msg.1.now).mono
            SessionOp.quiet) stable_given
        apply (touch sessions.1).bind
        intro _
        apply (touch sessions.2).bind
        intro _
        apply Protocol.Ensures.done stable_given
        intro history _ given found same _
        cases same
        exact ⟨relateId, given⟩
      · exact none _ stable_numbered
    · exact none _ stable

theorem body_ensures (thread : Nat) (msg : SingleMsg) :
    rules.Ensures thread (fun _ => True) (sendMessage msg.1) (Acknowledged thread msg) := by
  by_cases rejected : msgTypeIsValid msg.1.msgType = false ∨ msg.1.msgData.length = 0
  · rw [sendMessage_rejected rejected]
    apply Protocol.Ensures.done (.const True)
    intro history _ _ msgId same
    cases same
  · have valid : msgTypeIsValid msg.1.msgType = true := by
      simpa using (not_or.mp rejected).1
    rw [sendMessage_toUser valid (not_or.mp rejected).2 msg.2]
    exact sendToUser_ensures msg

end Thread

/-! ### Runs with increasing ids -/

/-- An id is given to a thread that runs. -/
def Named (pool : SendPool) : Prop :=
  ∀ given ∈ pool.store.allocated, given.thread < pool.threads.length

theorem step_named (pool : SendPool) (event : SendEvent) (named : Named pool) :
    Named (step pool event) := by
  cases event with
  | spawn msg =>
      intro given member
      have before := named given member
      simp only [step, Pool.step, List.length_append]
      omega
  | advance index answers =>
      simp only [step, Pool.step]
      split
      · rename_i task op next found
        intro given member
        have inside := (List.getElem?_eq_some_iff.mp found).1
        simp only [List.length_set]
        cases List.mem_append.mp member with
        | inl before => exact named given before
        | inr new =>
            unfold allocations at new
            split at new
            · rw [List.mem_singleton.mp new]
              exact inside
            · cases new
      · exact named

/-- The messages of the two have the same users, in one direction or the other. -/
def SameUsers (first second : SingleMsg) : Prop :=
  first.1.fromUserId = second.1.fromUserId ∧ first.1.toSessionId = second.1.toSessionId ∨
    first.1.fromUserId = second.1.toSessionId ∧ first.1.toSessionId = second.1.fromUserId

theorem SameUsers.pair {first second : SingleMsg} (same : SameUsers first second) :
    min first.1.fromUserId first.1.toSessionId =
        min second.1.fromUserId second.1.toSessionId ∧
      max first.1.fromUserId first.1.toSessionId =
        max second.1.fromUserId second.1.toSessionId := by
  cases same with
  | inl straight => rw [straight.1, straight.2]; exact ⟨rfl, rfl⟩
  | inr crossed => rw [crossed.1, crossed.2, min_comm, max_comm]; exact ⟨rfl, rfl⟩

/-- In every run whose steps keep counting, the rows of a relation have different ids, and a
message that is sent after the response to another one between the same users has the greater
id. -/
theorem messageIds_ordered (start : MessageStore) (consistent : Consistent start)
    (events later : List SendEvent)
    (keeps : Meets step (Pool.Permits KeepsCounting) ⟨⟨start, []⟩, []⟩ (events ++ later)) :
    let mid := run step ⟨⟨start, []⟩, []⟩ events
    let last := run step mid later
    (last.store.store.messages.map messageKey).Nodup ∧
      ∀ index other msg otherMsg msgId otherId,
        mid.Finished index msg (some msgId) → mid.threads.length ≤ other →
        last.Finished other otherMsg (some otherId) → SameUsers msg otherMsg →
        msgId ≠ invalidValue → otherId ≠ invalidValue → msgId < otherId := by
  intro mid last
  have split := (Lib.meets_append events later _).mp keeps
  have initial : Accounted ⟨start, []⟩ :=
    ⟨consistent, fun _ none => (by cases none), List.Pairwise.nil⟩
  have soundMid : rules.Sound Acknowledged mid :=
    Protocol.Sound.run body_ensures events (.empty initial) split.1
  have soundLast : rules.Sound Acknowledged last :=
    Protocol.Sound.run body_ensures later soundMid split.2
  refine ⟨soundLast.1.consistent.distinct, ?_⟩
  intro index other msg otherMsg msgId otherId finished after otherFinished users valid otherValid
  have named : Named mid := (Lib.reach_run events split.1).invariant Named
    (fun _ none => (by cases none)) fun pool event named _ => step_named pool event named
  obtain ⟨relateId, related, allocated⟩ := soundMid.finished finished msgId rfl valid
  obtain ⟨otherRelateId, otherRelated, otherAllocated⟩ :=
    soundLast.finished otherFinished otherId rfl otherValid
  have grows : Grows mid.store last.store :=
    Pool.run_store Grows.refl Grows.trans effect_grows later mid
  have same : relateId = otherRelateId := by
    have relatedLater := grows.rows _ _ relateId related
    rw [users.pair.1, users.pair.2] at relatedLater
    exact soundLast.1.consistent.pairs _ _ relateId relatedLater otherRelateId otherRelated
  obtain ⟨more, appended⟩ := grows.allocated
  have increasing := soundLast.1.increasing
  rw [← appended] at increasing
  rw [Allocated, ← appended] at otherAllocated
  have new := List.mem_append.mp otherAllocated
  have fresh := new.resolve_left fun before => Nat.not_lt.mpr after (named _ before)
  exact (List.pairwise_append.mp increasing).2.2 _ allocated _ fresh same

theorem consistent_empty : Consistent .empty where
  pairs _ _ _ found := by cases found
  counted _ found := by cases found
  distinct := List.nodup_nil

/-- A text from one user to another. -/
def text (fromId toId : Id) : SingleMsg :=
  ⟨⟨fromId, toId, 100, msgTypeSingleText, [104, 105], 100⟩, rfl⟩

/-- A thread takes some steps, which all succeed. -/
def advances (index count : Nat) : List SendEvent :=
  List.replicate count (.advance index succeeding)

/-- The first message of two users, which adds their relation. -/
def firstMessage : List SendEvent :=
  .spawn (text 1 2) :: advances 0 11

/-- The answer to it. -/
def answerMessage : List SendEvent :=
  .spawn (text 2 1) :: advances 1 8

theorem messageIds_ordered_answer :
    let mid := run step ⟨⟨.empty, []⟩, []⟩ firstMessage
    let last := run step mid answerMessage
    (last.store.store.messages.map messageKey).Nodup ∧
      ∀ index other msg otherMsg msgId otherId,
        mid.Finished index msg (some msgId) → mid.threads.length ≤ other →
        last.Finished other otherMsg (some otherId) → SameUsers msg otherMsg →
        msgId ≠ invalidValue → otherId ≠ invalidValue → msgId < otherId :=
  messageIds_ordered .empty consistent_empty firstMessage answerMessage (by decide)

example : (run step ⟨⟨.empty, []⟩, []⟩ (firstMessage ++ answerMessage)).store.store.messages.map
    messageKey = [(1, 1), (1, 2)] := by
  decide

/-! ### Two first messages -/

/-- Between the insert of the relation and the reset of its counter, the other user finds the
relation and sends a message. -/
def bothSendFirst : List SendEvent :=
  .spawn (text 1 2) :: .spawn (text 2 1) :: (advances 0 5 ++ advances 1 8 ++ advances 0 6)

theorem messageIds_given_twice :
    let last := run step ⟨⟨.empty, []⟩, []⟩ bothSendFirst
    last.store.store.messages.map messageKey = [(1, 1), (1, 1)] ∧
      last.Finished 0 (text 1 2) (some 1) ∧ last.Finished 1 (text 2 1) (some 1) :=
  ⟨rfl, rfl, rfl⟩

end MessageIds

end AChat.DbProxy
