import AChat.DbProxy.CounterStore
import AChat.Lib.Interleaving

/-!
Contract: what the unread counters count.

A single chat has a counter that grows with each message and is deleted by a clear. A group has a
total, and a user of it a copy that is made from the total with each own message and each clear.
Between the read of the total and the write of the copy others may send, so a copy can be late. It
is never ahead.

Owns: what counts since when, and the invariant of the interleavings.
-/

namespace AChat.DbProxy

open Lib (Prog Protocol Pool PoolEvent)

namespace UnreadCounters

open Pooled
open Pooled.GroupMessageModel (tableName)

/-! ### Messages and clears -/

/-- What changes the counters: a message that was stored, to a user or to a group, and a clear. -/
inductive CounterEvent where
  | message (fromId toId : Id)
  | groupMessage (fromId groupId : Id)
  | clear (userId peerId sessionType : Nat)
deriving DecidableEq, Repr

/-- What `insertMessage` does to the counters of a group. -/
def countMessage (fromId groupId : Id) : PoolProg Unit := do
  let _ ← GroupMessageModel.incMessageCount fromId groupId
  let _ ← GroupMessageModel.clearMessageCount fromId groupId
  return ()

def body : CounterEvent → PoolProg Unit
  | .message fromId toId => MessageModel.incMsgCount fromId toId
  | .groupMessage fromId groupId => countMessage fromId groupId
  | .clear userId peerId sessionType => UserModel.clearUserCounter userId peerId sessionType

/-- An event, and what comes back from what is not a command on the counters. -/
abbrev Request := CounterEvent × ((op : PoolOp) → op.Reply)

def handle (hashes : Hashes) (request : Request) : Hashes :=
  ((body request.1).exec apply request.2 hashes).2

def Counters.step (counters : Counters) : CounterEvent → Counters
  | .message fromId toId => counters.setUnread toId fromId (counters.unread toId fromId + 1)
  | .groupMessage fromId groupId => (counters.increase groupId).catchUp fromId groupId
  | .clear userId peerId sessionType =>
      if sessionType = sessionTypeSingle then counters.setUnread userId peerId 0
      else if sessionType = sessionTypeGroup then counters.catchUp userId peerId
      else counters

section Handle

variable {hashes : Hashes} {counters : Counters}

/-- Both ways to copy the counts of a group read its hash and write what they have read. -/
theorem Represents.catchUp (represents : Represents hashes counters) (conn : Conn)
    (userId groupId : Id) (answer : String) :
    Represents
      (apply hashes (.hmset conn (userKey userId groupId) (hashes (groupKey groupId))) answer).2
      (counters.catchUp userId groupId) := by
  rw [represents.total]
  exact represents.hmset_copied conn userId groupId _ answer

theorem Represents.incMessageCount (represents : Represents hashes counters)
    (fromId groupId : Id) (answers : (op : PoolOp) → op.Reply) :
    Represents ((GroupMessageModel.incMessageCount fromId groupId).exec apply answers hashes).2
      ((counters.increase groupId).catchUp fromId groupId) := by
  have increased := represents.hincrBy_total ((answers (.getCacheConn "unread")).getD 0) groupId 0
  exact increased.catchUp ((answers (.getCacheConn "unread")).getD 0) fromId groupId ""

theorem Represents.clearMessageCount (represents : Represents hashes counters)
    (fromId groupId : Id) (answers : (op : PoolOp) → op.Reply) :
    Represents ((GroupMessageModel.clearMessageCount fromId groupId).exec apply answers hashes).2
      (counters.catchUp fromId groupId) :=
  represents.catchUp ((answers (.getCacheConn "unread")).getD 0) fromId groupId ""

theorem Represents.countMessage (represents : Represents hashes counters) (fromId groupId : Id)
    (answers : (op : PoolOp) → op.Reply) :
    Represents ((countMessage fromId groupId).exec apply answers hashes).2
      ((counters.increase groupId).catchUp fromId groupId) := by
  have counted := represents.incMessageCount fromId groupId answers
  have again := counted.clearMessageCount fromId groupId answers
  rw [Counters.catchUp_catchUp] at again
  simp only [UnreadCounters.countMessage, Prog.exec_bind]
  exact again

theorem Represents.handle (represents : Represents hashes counters) (request : Request) :
    Represents (handle hashes request) (counters.step request.1) := by
  obtain ⟨event, answers⟩ := request
  cases event with
  | message fromId toId => exact represents.hincrBy_unread 0 toId fromId 0
  | groupMessage fromId groupId => exact represents.countMessage fromId groupId answers
  | clear userId peerId sessionType =>
      simp only [UnreadCounters.handle, body, UserModel.clearUserCounter, Counters.step]
      split
      · exact represents.hdel_unread 0 userId peerId 0
      · split
        · exact represents.clearMessageCount userId peerId answers
        · exact represents

/-- What is replied to as it is answered, and changes no counter. -/
def Passive (op : PoolOp) : Prop :=
  ∀ (hashes : Hashes) answer, apply hashes op answer = (answer, hashes)

theorem passive_withDBConn {α : Type} {pool : String} {body : Conn → PoolProg α}
    (passive : ∀ conn, (body conn).Issues Passive) : (withDBConn pool body).Issues Passive := by
  apply Prog.Issues.bind (Prog.Issues.perform fun _ _ => rfl)
  intro conn
  cases conn with
  | none => trivial
  | some conn =>
      exact (passive conn).bind fun _ => (Prog.Issues.perform fun _ _ => rfl).bind fun _ => trivial

theorem passive_storeMessage (relateId fromId toId msgType createTime msgId : Nat)
    (content : String) :
    (MessageModel.storeMessage relateId fromId toId msgType createTime msgId
      content).Issues Passive := by
  refine (passive_withDBConn fun conn => ?_).bind fun _ => trivial
  refine Prog.Issues.bind ?_ fun _ => (Prog.Issues.perform fun _ _ => rfl).bind fun _ => trivial
  apply Prog.Issues.bind (Prog.Issues.perform fun _ _ => rfl)
  intro prepared
  cases prepared with
  | false => trivial
  | true => exact Prog.Issues.perform fun _ _ => rfl

/-- A message to a user changes the counters if its row was stored. -/
theorem sendMessage_handle (relateId fromId toId msgType createTime msgId : Nat)
    (content : String) (answers : (op : PoolOp) → op.Reply) :
    ((Pooled.MessageModel.sendMessage relateId fromId toId msgType createTime msgId content).exec
      apply answers hashes).2 =
        if (Pooled.MessageModel.sendMessage relateId fromId toId msgType createTime msgId
          content).eval answers = true
        then UnreadCounters.handle hashes (.message fromId toId, answers) else hashes := by
  have passive := passive_storeMessage relateId fromId toId msgType createTime msgId content
  unfold Pooled.MessageModel.sendMessage
  split
  · rfl
  · rw [Prog.exec_bind, Prog.eval_bind, passive.exec_eq]
    cases (MessageModel.storeMessage relateId fromId toId msgType createTime msgId content).eval
      answers with
    | false => rfl
    | true =>
        simp only [if_true, Prog.eval_bind, Prog.pure_eq_done, Prog.eval_done]
        rfl

/-- The row of a message to a group. -/
def insertRow (conn : Conn) (fromId groupId msgType createTime msgId : Nat) (content : String) :
    PoolProg Bool := do
  if ← request (.stmtInit conn
    (s!"insert into {tableName groupId} (`groupId`, `userId`, `msgId`, `content`, `type`, " ++
      "`status`, `updated`, `created`) values(?, ?, ?, ?, ?, ?, ?, ?)")) then
    request (.stmtExecuteUpdate conn [.number groupId, .number fromId, .number msgId,
      .text content, .number msgType, .number 0, .number createTime, .number createTime])
  else return false

theorem insertMessage_eq (conn : Conn) (fromId groupId msgType createTime msgId : Nat)
    (content : String) :
    GroupMessageModel.insertMessage conn fromId groupId msgType createTime msgId content = do
      if ← insertRow conn fromId groupId msgType createTime msgId content then
        GroupModel.updateGroupChat groupId
        countMessage fromId groupId
      else return () := by
  show Prog.call _ _ = Prog.call _ _
  congr 1
  funext prepared
  cases prepared <;> rfl

/-- So does a message to a group. -/
theorem insertMessage_handle (conn : Conn) (fromId groupId msgType createTime msgId : Nat)
    (content : String) (answers : (op : PoolOp) → op.Reply) :
    ((GroupMessageModel.insertMessage conn fromId groupId msgType createTime msgId content).exec
      apply answers hashes).2 =
        if (insertRow conn fromId groupId msgType createTime msgId content).eval answers = true
        then UnreadCounters.handle hashes (.groupMessage fromId groupId, answers) else hashes := by
  have row : (insertRow conn fromId groupId msgType createTime msgId content).Issues Passive := by
    apply Prog.Issues.bind (Prog.Issues.perform fun _ _ => rfl)
    intro prepared
    cases prepared with
    | false => trivial
    | true => exact Prog.Issues.perform fun _ _ => rfl
  have chat : (GroupModel.updateGroupChat groupId).Issues Passive := by
    refine (passive_withDBConn fun conn => ?_).bind fun _ => trivial
    exact (Prog.Issues.perform fun _ _ => rfl).bind fun _ => Prog.Issues.perform fun _ _ => rfl
  rw [insertMessage_eq, Prog.exec_bind, row.exec_eq]
  cases (insertRow conn fromId groupId msgType createTime msgId content).eval answers with
  | false => rfl
  | true =>
      simp only [if_true, Prog.exec_bind, chat.exec_eq]
      rfl

end Handle

/-! ### What the counters count -/

/-- How many of the events count, since the last one that ends. -/
def since (ends counted : CounterEvent → Bool) (history : List CounterEvent) : Nat :=
  (history.reverse.takeWhile fun event => !ends event).countP counted

theorem since_append (ends counted : CounterEvent → Bool) (history : List CounterEvent)
    (event : CounterEvent) :
    since ends counted (history ++ [event]) =
      if ends event = true then 0
      else since ends counted history + if counted event = true then 1 else 0 := by
  unfold since
  rw [List.reverse_append, List.reverse_singleton, List.singleton_append, List.takeWhile_cons]
  cases ends event with
  | true => rfl
  | false =>
      simp only [Bool.not_false, if_true, List.countP_cons]
      rfl

def sentTo (fromId toId : Id) (event : CounterEvent) : Bool :=
  event = .message fromId toId

def cleared (userId peerId sessionType : Nat) (event : CounterEvent) : Bool :=
  event = .clear userId peerId sessionType

def sentToGroup (groupId : Id) : CounterEvent → Bool
  | .groupMessage _ group => group = groupId
  | _ => false

/-- An own message to the group, or a clear. -/
def caughtUp (userId groupId : Id) (event : CounterEvent) : Bool :=
  event = .groupMessage userId groupId ∨ event = .clear userId groupId sessionTypeGroup

namespace Counters

def after (history : List CounterEvent) : Counters :=
  history.foldl step empty

theorem after_append (history : List CounterEvent) (event : CounterEvent) :
    after (history ++ [event]) = (after history).step event := by
  unfold after
  rw [List.foldl_append]
  rfl

theorem total_catchUp (counters : Counters) (userId groupId : Id) :
    (counters.catchUp userId groupId).total = counters.total :=
  rfl

theorem unread_after (history : List CounterEvent) (userId peerId : Id) :
    (after history).unread userId peerId =
      since (cleared userId peerId sessionTypeSingle) (sentTo peerId userId) history := by
  induction history using List.reverseRecOn with
  | nil => rfl
  | append_singleton history event inductionHypothesis =>
      rw [after_append, since_append, ← inductionHypothesis]
      cases event with
      | message fromId toId =>
          simp only [step, setUnread, cleared, sentTo, reduceCtorEq, decide_false,
            Bool.false_eq_true, if_false, decide_eq_true_eq, CounterEvent.message.injEq]
          by_cases same : userId = toId ∧ peerId = fromId
          · rw [if_pos same, if_pos ⟨same.2.symm, same.1.symm⟩, same.1, same.2]
          · rw [if_neg same, if_neg fun other => same ⟨other.2.symm, other.1.symm⟩, Nat.add_zero]
      | groupMessage fromId groupId => rfl
      | clear user peer sessionType =>
          simp only [step, cleared, sentTo, reduceCtorEq, decide_false, Bool.false_eq_true,
            if_false, Nat.add_zero, decide_eq_true_eq, CounterEvent.clear.injEq]
          by_cases single : sessionType = sessionTypeSingle
          · rw [if_pos single]
            simp only [setUnread, single, and_true]
            by_cases same : user = userId ∧ peer = peerId
            · rw [if_pos ⟨same.1.symm, same.2.symm⟩, if_pos same]
            · rw [if_neg fun other => same ⟨other.1.symm, other.2.symm⟩, if_neg same]
          · have different : ¬(user = userId ∧ peer = peerId ∧ sessionType = sessionTypeSingle) :=
              fun same => single same.2.2
            rw [if_neg single, if_neg different]
            split <;> rfl

/-- What a user catches up with is the whole total of the group, and nothing of another. -/
theorem total_sub_copied_catchUp (counters : Counters) (user group userId groupId : Id) :
    (counters.catchUp user group).total groupId -
        (counters.catchUp user group).copied userId groupId =
      if user = userId ∧ group = groupId then 0
      else counters.total groupId - counters.copied userId groupId := by
  rw [copied_catchUp, total_catchUp]
  by_cases same : user = userId ∧ group = groupId
  · rw [if_pos ⟨same.1.symm, same.2.symm⟩, if_pos same, Nat.sub_self]
  · rw [if_neg fun other => same ⟨other.1.symm, other.2.symm⟩, if_neg same]

theorem total_sub_copied_increase (counters : Counters) (group userId groupId : Id) :
    (counters.increase group).total groupId - (counters.increase group).copied userId groupId =
      counters.total groupId - counters.copied userId groupId +
        if group = groupId then 1 else 0 := by
  have before := counters.copied_le userId groupId
  simp only [increase]
  by_cases same : group = groupId
  · rw [if_pos same.symm, if_pos same]
    omega
  · rw [if_neg fun other => same other.symm, if_neg same, Nat.add_zero]

theorem total_sub_copied_after (history : List CounterEvent) (userId groupId : Id) :
    (after history).total groupId - (after history).copied userId groupId =
      since (caughtUp userId groupId) (sentToGroup groupId) history := by
  induction history using List.reverseRecOn with
  | nil => rfl
  | append_singleton history event inductionHypothesis =>
      rw [after_append, since_append, ← inductionHypothesis]
      cases event with
      | message fromId toId => rfl
      | groupMessage fromId group =>
          simp only [step, caughtUp, sentToGroup, reduceCtorEq, or_false, decide_eq_true_eq,
            CounterEvent.groupMessage.injEq]
          rw [total_sub_copied_catchUp, total_sub_copied_increase]
      | clear user peer sessionType =>
          simp only [step, caughtUp, sentToGroup, reduceCtorEq, false_or, decide_eq_true_eq,
            CounterEvent.clear.injEq, Bool.false_eq_true, if_false, Nat.add_zero]
          by_cases group : sessionType = sessionTypeGroup
          · rw [if_neg (by rw [group]; decide), if_pos group, total_sub_copied_catchUp]
            simp only [group, and_true]
          · have different : ¬(user = userId ∧ peer = groupId ∧ sessionType = sessionTypeGroup) :=
              fun same => group same.2.2
            rw [if_neg group, if_neg different]
            split <;> rfl

end Counters

/-! ### Interleavings -/

/-- Each command is one step, and the total of a group never falls. -/
def rules : Protocol Hashes PoolOp PoolOp.Reply where
  effect _ := apply
  allowed _ _ _ := True
  inv hashes := ∃ counters, Represents hashes counters
  rely _ before later := ∀ groupId,
    number (before (groupKey groupId)) "count" ≤ number (later (groupKey groupId)) "count"
  rely_refl _ _ _ := le_refl _

/-- The hash was read from a group whose total was not more than it is now. -/
def ReadFrom (groupId : Id) (hash : List (String × String)) (hashes : Hashes) : Prop :=
  ∃ count : Nat, hash = counts count ∧ (count : Int) ≤ number (hashes (groupKey groupId)) "count"

section Rules

variable {thread : Nat}

theorem stable_readFrom (groupId : Id) (hash : List (String × String)) :
    rules.Stable thread (ReadFrom groupId hash) := by
  intro before later _ _ relies known
  obtain ⟨count, read, bounded⟩ := known
  exact ⟨count, read, bounded.trans (relies groupId)⟩

theorem guarantees {hashes later : Hashes} {counters after : Counters}
    (before : Represents hashes counters) (represents : Represents later after)
    (grows : ∀ groupId, counters.total groupId ≤ after.total groupId) :
    rules.Guarantees thread hashes later := by
  refine ⟨⟨after, represents⟩, ?_⟩
  intro other _ groupId
  rw [before.number_total, represents.number_total]
  exact_mod_cast grows groupId

/-- A command on the counters that needs no knowledge of them. -/
theorem ensures_command {op : PoolOp}
    (acts : ∀ hashes counters answer, Represents hashes counters →
      ∃ after : Counters, Represents (apply hashes op answer).2 after ∧
        ∀ groupId, counters.total groupId ≤ after.total groupId) :
    rules.Ensures thread (fun _ => True) (request op) fun _ _ => True := by
  apply Protocol.Ensures.perform (.const True) fun _ => .const True
  intro hashes answer holds _ _
  obtain ⟨counters, before⟩ := holds
  obtain ⟨after, represents, grows⟩ := acts hashes counters answer before
  exact ⟨guarantees before represents grows, trivial⟩

theorem ensures_hgetAll (conn : Conn) (groupId : Id) :
    rules.Ensures thread (fun _ => True) (hgetAll conn (groupKey groupId))
      fun reply hashes => ∀ hash, reply = some hash → ReadFrom groupId hash hashes := by
  apply Protocol.Ensures.perform (.const True)
  · exact fun reply => .all fun hash => .all fun _ => stable_readFrom groupId hash
  · intro hashes answer holds _ _
    refine ⟨⟨holds, fun other _ => rules.rely_refl other hashes⟩, ?_⟩
    intro hash read
    obtain ⟨counters, represents⟩ := holds
    have same : hashes (groupKey groupId) = hash := Option.some.inj read
    refine ⟨counters.total groupId, ?_, ?_⟩
    · rw [← same, represents.total]
    · exact le_of_eq (represents.number_total groupId).symm

theorem ensures_hmset (conn : Conn) (userId groupId : Id) (hash : List (String × String)) :
    rules.Ensures thread (ReadFrom groupId hash)
      (request (.hmset conn (userKey userId groupId) hash)) fun _ _ => True := by
  apply Protocol.Ensures.perform (stable_readFrom groupId hash) fun _ => .const True
  intro hashes answer holds known _
  obtain ⟨counters, before⟩ := holds
  obtain ⟨count, rfl, bounded⟩ := known
  rw [before.number_total] at bounded
  have copied := before.hmset_copied conn userId groupId (Int.ofNat_le.mp bounded) answer
  exact ⟨guarantees before copied fun _ => Nat.le_refl _, trivial⟩

theorem ensures_quiet {op : PoolOp} {know : Hashes → Prop} (quiet : rules.Quiet op)
    (stable : rules.Stable thread know) :
    rules.Ensures thread know (request op) fun _ => know :=
  .quiet (.perform quiet) stable

theorem ensures_done {α : Type} {value : α} {know : Hashes → Prop}
    (stable : rules.Stable thread know) :
    rules.Ensures thread know (.done value) fun _ _ => True :=
  .done stable fun _ _ _ => trivial

/-- Nothing happens after the program but the return. -/
theorem ensures_return {α β : Type} {prog : PoolProg α} {next : α → β} {know : Hashes → Prop}
    (ensures : rules.Ensures thread know prog fun _ _ => True) :
    rules.Ensures thread know (do let value ← prog; return next value) fun _ _ => True :=
  ensures.bind fun _ => ensures_done (.const True)

theorem ensures_withCacheConn {α : Type} {pool : String} {body : Conn → PoolProg α}
    (ensures : ∀ conn, rules.Ensures thread (fun _ => True) (body conn) fun _ _ => True) :
    rules.Ensures thread (fun _ => True) (withCacheConn pool body) fun _ _ => True := by
  apply (ensures_quiet (fun _ _ _ => rfl) (.const True)).bind
  intro conn
  cases conn with
  | none => exact ensures_done (.const True)
  | some conn =>
      apply (ensures conn).bind
      intro value
      exact ensures_return (ensures_quiet (fun _ _ _ => rfl) (.const True))

/-- The write of a copy ends both ways to make one. -/
theorem ensures_hmset_last {α : Type} (conn : Conn) (userId groupId : Id)
    (hash : List (String × String)) (value : α) :
    rules.Ensures thread (ReadFrom groupId hash)
      (do let _ ← request (.hmset conn (userKey userId groupId) hash); return value)
      fun _ _ => True :=
  ensures_return (ensures_hmset conn userId groupId hash)

theorem ensures_copyCounts (conn : Conn) (userId groupId : Id) :
    rules.Ensures thread (fun _ => True) (copyCounts conn userId groupId) fun _ _ => True := by
  apply (ensures_hgetAll conn groupId).bind
  intro reply
  cases reply with
  | none => exact ensures_done (.all fun hash => .all fun _ => stable_readFrom groupId hash)
  | some hash =>
      apply (ensures_hmset_last conn userId groupId hash ()).strengthen
        (.all fun hash => .all fun _ => stable_readFrom groupId hash)
      exact fun hashes _ known => known hash rfl

theorem ensures_incMessageCount (userId groupId : Id) :
    rules.Ensures thread (fun _ => True) (GroupMessageModel.incMessageCount userId groupId)
      fun _ _ => True := by
  refine ensures_return (ensures_withCacheConn fun conn => ?_)
  have counted : rules.Ensures thread (fun _ => True)
      (request (.hincrBy conn (groupKey groupId) "count" 1)) fun _ _ => True := by
    apply ensures_command
    intro hashes counters answer represents
    refine ⟨_, represents.hincrBy_total conn groupId answer, ?_⟩
    intro group
    simp only [Counters.increase]
    split <;> omega
  exact counted.bind fun _ => ensures_copyCounts conn userId groupId

/-- The copy is written after the connection was given back. -/
theorem ensures_clearMessageCount (userId groupId : Id) :
    rules.Ensures thread (fun _ => True) (GroupMessageModel.clearMessageCount userId groupId)
      fun _ _ => True := by
  apply (ensures_quiet (fun _ _ _ => rfl) (.const True)).bind
  intro conn
  cases conn with
  | none => exact ensures_done (.const True)
  | some conn =>
      apply (ensures_hgetAll conn groupId).bind
      intro reply
      have stable : rules.Stable thread fun hashes =>
          ∀ hash, reply = some hash → ReadFrom groupId hash hashes :=
        .all fun hash => .all fun _ => stable_readFrom groupId hash
      apply (ensures_quiet (fun _ _ _ => rfl) stable).bind
      intro _
      cases reply with
      | none => exact ensures_done stable
      | some hash =>
          apply (ensures_quiet (fun _ _ _ => rfl) stable).bind
          intro _
          exact (ensures_hmset_last conn userId groupId hash false).strengthen stable
            fun hashes _ known => known hash rfl

theorem ensures_body (event : CounterEvent) :
    rules.Ensures thread (fun _ => True) (body event) fun _ _ => True := by
  cases event with
  | message fromId toId =>
      refine ensures_return (ensures_withCacheConn fun conn => ?_)
      apply ensures_command
      intro hashes counters answer represents
      exact ⟨_, represents.hincrBy_unread conn toId fromId answer, fun _ => Nat.le_refl _⟩
  | groupMessage fromId groupId =>
      exact (ensures_incMessageCount fromId groupId).bind fun _ =>
        ensures_return (ensures_clearMessageCount fromId groupId)
  | clear userId peerId sessionType =>
      simp only [body, UserModel.clearUserCounter]
      split
      · refine ensures_return (ensures_withCacheConn fun conn => ?_)
        apply ensures_command
        intro hashes counters answer represents
        exact ⟨_, represents.hdel_unread conn userId peerId answer, fun _ => Nat.le_refl _⟩
      · split
        · exact ensures_return (ensures_withCacheConn fun conn =>
            ensures_copyCounts conn userId peerId)
        · exact ensures_done (.const True)

end Rules

theorem Represents.run {hashes : Hashes} {counters : Counters}
    (represents : Represents hashes counters) (requests : List Request) :
    Represents (Lib.run UnreadCounters.handle hashes requests)
      ((requests.map Prod.fst).foldl Counters.step counters) := by
  induction requests generalizing hashes counters with
  | nil => exact represents
  | cons request rest inductionHypothesis => exact inductionHypothesis (represents.handle request)

/-- The counter of a single chat is the number of messages since the last clear, and the total of
a group is ahead of the counter of a user by the messages since the user's last own message or
clear. However the commands of messages and clears interleave, no counter of a user is ahead of
its group. -/
theorem unread_counters_count :
    (∀ requests : List Request,
      let hashes := Lib.run handle (fun _ => []) requests
      let history := requests.map Prod.fst
      (∀ userId peerId : Id, number (hashes (unreadKey userId)) (toString peerId) =
        since (cleared userId peerId sessionTypeSingle) (sentTo peerId userId) history) ∧
      ∀ userId groupId : Id,
        number (hashes (groupKey groupId)) "count" -
            number (hashes (userKey userId groupId)) "count" =
          since (caughtUp userId groupId) (sentToGroup groupId) history) ∧
    ∀ (events : List (PoolEvent CounterEvent PoolOp PoolOp.Reply)) (userId groupId : Id),
      let hashes := (Lib.run (Pool.step body fun _ => apply) ⟨fun _ => [], []⟩ events).store
      number (hashes (userKey userId groupId)) "count" ≤
        number (hashes (groupKey groupId)) "count" := by
  constructor
  · intro requests
    have represents : Represents (Lib.run handle (fun _ => []) requests)
        (Counters.after (requests.map Prod.fst)) := Represents.empty.run requests
    constructor
    · intro userId peerId
      rw [represents.unread, Counters.unread_after]
    · intro userId groupId
      rw [represents.number_total, represents.number_copied, ← Counters.total_sub_copied_after]
      exact (Int.ofNat_sub (Counters.copied_le _ userId groupId)).symm
  · intro events userId groupId
    have start : rules.Sound (fun _ _ _ _ => True)
        (⟨fun _ => [], []⟩ : Pool Hashes CounterEvent PoolOp PoolOp.Reply Unit) :=
      .empty ⟨Counters.empty, .empty⟩
    obtain ⟨⟨counters, represents⟩, _⟩ :=
      Protocol.Sound.run (fun _ event => ensures_body event) events start
        (Lib.meets_of_forall (Pool.permits_of_forall fun _ _ _ => trivial) events _)
    have copied := represents.number_copied userId groupId
    have total := represents.number_total groupId
    have behind := Int.ofNat_le.mpr (counters.copied_le userId groupId)
    exact copied.le.trans (behind.trans total.ge)

end UnreadCounters

end AChat.DbProxy
