import Mathlib.Data.List.Infix
import Mathlib.Data.Nat.ModEq
import AChat.DbProxy.MessageCounters

/-!
Contract: when what is listed as unread and the two sums of it agree.

The count of a group stays in its variable for the next group, which takes it over when the counter
of the user is above the total. The sum of the groups grows before the last message is looked at,
and the sum of the peers after that, so what is not listed is in one of them and not in the other.

Owns: the state that is read, the loops over it, and the condition under which they agree.
-/

namespace AChat.DbProxy

open Lib (Prog)

namespace UnreadTotals

open Pooled

/-! ### Groups -/

/-- The counters of the groups of a user, and the last messages. -/
structure GroupState where
  total : Id → Nat
  read : Id → Nat
  last : Id → LastMsg

namespace GroupState

variable (state : GroupState)

/-- `max (total - user) 0`. -/
def behind (groupId : Id) : Nat :=
  state.total groupId - state.read groupId

/-- The last message has a known type. -/
def shows (groupId : Id) : Bool :=
  msgTypeIsValid (state.last groupId).msgType

/-- What is unread in the last of these groups in which the user is not ahead of the total. -/
def carried (seen : List Id) : Nat :=
  ((seen.reverse.find? fun groupId => state.read groupId ≤ state.total groupId).map
    state.behind).getD 0

/-- What is listed when the last of these groups is looked at. -/
def info (seen : List Id) : Option UnreadInfo :=
  seen.getLast?.bind fun groupId =>
    if state.carried seen ≠ 0 ∧ state.shows groupId = true then
      some ⟨groupId, sessionTypeGroup, state.carried seen, state.last groupId⟩
    else none

/-- The count of the last of these groups, when it is summed up without being listed. -/
def hidden (seen : List Id) : Nat :=
  if seen.getLast?.any state.shows = true then 0 else state.carried seen

/-- One turn of the loop of `getUnreadMsgCount`. -/
def list (unread : Unread) (groupId : Id) : Unread :=
  let count := if state.read groupId ≤ state.total groupId then state.behind groupId
    else unread.count
  if count = 0 then { unread with count := count }
  else GroupMessageModel.Unread.listed unread groupId count (state.last groupId)

/-- One turn of the loop of `getUnReadCntAll`. -/
def add (unread : Nat × Nat) (groupId : Id) : Nat × Nat :=
  let count := if state.read groupId ≤ state.total groupId then state.behind groupId
    else unread.1
  (count, (unread.2 + count) % 2 ^ 32)

theorem carried_append (seen : List Id) (groupId : Id) :
    state.carried (seen ++ [groupId]) =
      if state.read groupId ≤ state.total groupId then state.behind groupId
      else state.carried seen := by
  unfold carried
  rw [List.reverse_append, List.reverse_singleton, List.singleton_append, List.find?_cons]
  by_cases within : state.read groupId ≤ state.total groupId <;> simp [within]

theorem inits_append_singleton {α : Type} (seen : List α) (item : α) :
    (seen ++ [item]).inits = seen.inits ++ [seen ++ [item]] := by
  rw [List.inits_append]
  rfl

theorem info_append (seen : List Id) (groupId : Id) :
    state.info (seen ++ [groupId]) =
      if state.carried (seen ++ [groupId]) ≠ 0 ∧ state.shows groupId = true then
        some ⟨groupId, sessionTypeGroup, state.carried (seen ++ [groupId]), state.last groupId⟩
      else none := by
  rw [info, List.getLast?_concat, Option.bind_some]

theorem hidden_append (seen : List Id) (groupId : Id) :
    state.hidden (seen ++ [groupId]) =
      if state.shows groupId = true then 0 else state.carried (seen ++ [groupId]) := by
  rw [hidden, List.getLast?_concat, Option.any_some]

theorem foldl_list (groups : List Id) (totalCnt : Nat) :
    let unread := groups.foldl state.list ⟨0, totalCnt, []⟩
    unread.count = state.carried groups ∧
      unread.totalCnt ≡ totalCnt + (groups.inits.map state.carried).sum [MOD 2 ^ 32] ∧
      unread.lsUnreadCount = groups.inits.filterMap state.info := by
  induction groups using List.reverseRecOn with
  | nil => exact ⟨rfl, Nat.ModEq.refl _, rfl⟩
  | append_singleton groups groupId inductionHypothesis =>
      obtain ⟨count, sum, listed⟩ := inductionHypothesis
      rw [inits_append_singleton, List.foldl_append, List.map_append, List.sum_append,
        List.filterMap_append, List.map_singleton, List.sum_singleton, ← Nat.add_assoc, ← listed]
      simp only [List.foldl_cons, List.foldl_nil, list, count, ← carried_append,
        List.filterMap_cons, List.filterMap_nil, info_append]
      by_cases none : state.carried (groups ++ [groupId]) = 0
      · rw [if_pos none, none, if_neg fun all => all.1 rfl]
        exact ⟨rfl, sum, (List.append_nil _).symm⟩
      · rw [if_neg none]
        refine ⟨rfl, (Nat.mod_modEq _ _).trans (sum.add_right _), ?_⟩
        simp only [GroupMessageModel.Unread.listed, shows, none, ne_eq, not_false_eq_true,
          true_and]
        split
        · rfl
        · exact (List.append_nil _).symm

theorem foldl_add (groups : List Id) (totalCnt : Nat) :
    let unread := groups.foldl state.add (0, totalCnt)
    unread.1 = state.carried groups ∧
      unread.2 ≡ totalCnt + (groups.inits.map state.carried).sum [MOD 2 ^ 32] := by
  induction groups using List.reverseRecOn with
  | nil => exact ⟨rfl, Nat.ModEq.refl _⟩
  | append_singleton groups groupId inductionHypothesis =>
      obtain ⟨count, sum⟩ := inductionHypothesis
      rw [inits_append_singleton, List.foldl_append, List.map_append, List.sum_append,
        List.map_singleton, List.sum_singleton, ← Nat.add_assoc]
      simp only [List.foldl_cons, List.foldl_nil, add, count, ← carried_append]
      exact ⟨trivial, (Nat.mod_modEq _ _).trans (sum.add_right _)⟩

/-- What is summed up is listed or hidden. -/
theorem info_add_hidden (seen : List Id) :
    ((state.info seen).map UnreadInfo.unreadCnt).getD 0 + state.hidden seen =
      state.carried seen := by
  induction seen using List.reverseRecOn with
  | nil => rfl
  | append_singleton seen groupId _ =>
      rw [info_append, hidden_append]
      cases state.shows groupId with
      | false => simp
      | true =>
          by_cases none : state.carried (seen ++ [groupId]) = 0 <;> simp [none]

theorem sum_info_add_sum_hidden (prefixes : List (List Id)) :
    ((prefixes.filterMap state.info).map UnreadInfo.unreadCnt).sum +
      (prefixes.map state.hidden).sum = (prefixes.map state.carried).sum := by
  induction prefixes with
  | nil => rfl
  | cons seen rest inductionHypothesis =>
      have here := state.info_add_hidden seen
      rw [List.filterMap_cons, List.map_cons, List.map_cons, List.sum_cons, List.sum_cons]
      cases listed : state.info seen with
      | none =>
          rw [listed, Option.map_none, Option.getD_none] at here
          simp only
          omega
      | some info =>
          rw [listed, Option.map_some, Option.getD_some] at here
          simp only [List.map_cons, List.sum_cons]
          omega

/-- No group that is listed takes a count over: where the user is ahead of the total, nothing is
unread in the last group before in which the user is not. -/
def OwnCounts (groups : List Id) : Prop :=
  ∀ seen ∈ groups.inits, ∀ groupId ∈ seen.getLast?, state.total groupId < state.read groupId →
    state.shows groupId = true → state.carried seen = 0

theorem own_iff (groups : List Id) :
    (∀ info ∈ groups.inits.filterMap state.info, info.unreadCnt = state.behind info.sessionId) ↔
      state.OwnCounts groups := by
  constructor
  · intro own seen member groupId last ahead shown
    by_contra taken
    obtain ⟨before, rfl⟩ := List.getLast?_eq_some_iff.mp last
    have listed := own ⟨groupId, sessionTypeGroup, state.carried (before ++ [groupId]),
      state.last groupId⟩ (List.mem_filterMap.mpr ⟨_, member, by
        rw [info_append, if_pos ⟨taken, shown⟩]⟩)
    have nothing : state.behind groupId = 0 := Nat.sub_eq_zero_of_le (Nat.le_of_lt ahead)
    exact taken (listed.trans nothing)
  · intro counts info member
    obtain ⟨seen, inside, listed⟩ := List.mem_filterMap.mp member
    cases last : seen.getLast? with
    | none =>
        rw [GroupState.info, last] at listed
        cases listed
    | some groupId =>
        have empty := counts seen inside groupId last
        obtain ⟨before, rfl⟩ := List.getLast?_eq_some_iff.mp last
        rw [info_append] at listed
        split at listed
        · rename_i shown
          cases listed
          by_cases within : state.read groupId ≤ state.total groupId
          · exact (state.carried_append before groupId).trans (if_pos within)
          · exact absurd (empty (Nat.lt_of_not_le within) shown.2) shown.1
        · cases listed

end GroupState

section Read

variable (reply : (op : PoolOp) → op.Reply) (strAudioEnc : String) (userId : Id)

/-- A connection that was not got is not used. -/
def unreadConn : Conn :=
  (reply (.getCacheConn "unread")).getD 0

/-- What the cache and the tables hold of the groups of the user. -/
def groupState : GroupState where
  total groupId := uint32 (atoi (reply (.hget (unreadConn reply) (groupKey groupId) "count")))
  read groupId :=
    let userCnt := reply (.hget (unreadConn reply) (userKey userId groupId) "count")
    if userCnt = "" then 0 else uint32 (atoi userCnt)
  last groupId := (GroupMessageModel.getLastMsg strAudioEnc groupId
    ⟨reply .unset, "", reply .unset, reply .unset⟩).eval reply

/-- The groups of the user that have a total, in their order. -/
def countedGroups : List Id :=
  if (reply (.getCacheConn "unread")).isNone then []
  else ((GroupModel.getUserGroupIds userId 0).eval reply).filter fun groupId =>
    reply (.hget (unreadConn reply) (groupKey groupId) "count") ≠ ""

variable {reply userId}

theorem eval_readCount (count groupId : Nat) :
    (GroupMessageModel.readCount (unreadConn reply) userId count groupId).eval reply =
      if reply (.hget (unreadConn reply) (groupKey groupId) "count") ≠ "" then
        some (if (groupState reply strAudioEnc userId).read groupId ≤
            (groupState reply strAudioEnc userId).total groupId then
          (groupState reply strAudioEnc userId).behind groupId else count)
      else none := by
  unfold GroupMessageModel.readCount hget
  rw [Prog.eval_bind, Prog.eval_perform]
  by_cases empty : reply (.hget (unreadConn reply) (groupKey groupId) "count") = ""
  · rw [if_pos empty, if_neg (not_not.mpr empty)]
    rfl
  · rw [if_neg empty, if_pos empty]
    rfl

theorem eval_listUnread (unread : Unread) (groupId : Id) :
    (GroupMessageModel.listUnread strAudioEnc (unreadConn reply) userId unread groupId).eval
        reply =
      if reply (.hget (unreadConn reply) (groupKey groupId) "count") ≠ "" then
        (groupState reply strAudioEnc userId).list unread groupId
      else unread := by
  unfold GroupMessageModel.listUnread
  rw [Prog.eval_bind, eval_readCount strAudioEnc]
  by_cases counted : reply (.hget (unreadConn reply) (groupKey groupId) "count") ≠ ""
  · rw [if_pos counted, if_pos counted]
    simp only [GroupState.list]
    generalize (if (groupState reply strAudioEnc userId).read groupId ≤ _ then _ else _) = count
    by_cases none : count = 0
    · rw [if_pos none, if_pos none]
      rfl
    · rw [if_neg none, if_neg none]
      simp only [Prog.eval_bind, Prog.eval_perform, Prog.pure_eq_done, Prog.eval_done]
      rfl
  · rw [if_neg counted, if_neg counted]
    rfl

theorem eval_addUnread (unread : Nat × Nat) (groupId : Id) :
    (GroupMessageModel.addUnread (unreadConn reply) userId unread groupId).eval reply =
      if reply (.hget (unreadConn reply) (groupKey groupId) "count") ≠ "" then
        (groupState reply strAudioEnc userId).add unread groupId
      else unread := by
  unfold GroupMessageModel.addUnread
  rw [Prog.eval_bind, eval_readCount strAudioEnc]
  by_cases counted : reply (.hget (unreadConn reply) (groupKey groupId) "count") ≠ ""
  · rw [if_pos counted, if_pos counted]
    rfl
  · rw [if_neg counted, if_neg counted]
    rfl

/-- The loops go over the groups that have a total. -/
theorem eval_getUnreadMsgCount (totalCnt : Nat) :
    (GroupMessageModel.getUnreadMsgCount strAudioEnc userId totalCnt).eval reply =
      let unread := (countedGroups reply userId).foldl
        (groupState reply strAudioEnc userId).list ⟨0, totalCnt, []⟩
      (unread.totalCnt, unread.lsUnreadCount) := by
  unfold GroupMessageModel.getUnreadMsgCount withCacheConn countedGroups
  simp only [Prog.eval_bind, Prog.eval_perform]
  cases found : reply (.getCacheConn "unread") with
  | none => rfl
  | some conn =>
      have same : unreadConn reply = conn := congrArg (Option.getD · 0) found
      simp only [Prog.eval_bind, Prog.eval_foldlM, ← same, eval_listUnread]
      rw [Option.isNone_some, if_neg Bool.false_ne_true, List.foldl_filter]
      simp only [decide_eq_true_eq]
      rfl

theorem eval_getUnReadCntAll (totalCnt : Nat) :
    (GroupMessageModel.getUnReadCntAll userId totalCnt).eval reply =
      ((countedGroups reply userId).foldl
        (groupState reply strAudioEnc userId).add (0, totalCnt)).2 := by
  unfold GroupMessageModel.getUnReadCntAll withCacheConn countedGroups
  simp only [Prog.eval_bind, Prog.eval_perform]
  cases found : reply (.getCacheConn "unread") with
  | none => rfl
  | some conn =>
      have same : unreadConn reply = conn := congrArg (Option.getD · 0) found
      simp only [Prog.eval_bind, Prog.eval_foldlM, ← same, eval_addUnread strAudioEnc]
      rw [Option.isNone_some, if_neg Bool.false_ne_true, List.foldl_filter]
      simp only [decide_eq_true_eq]
      rfl

end Read

/-! ### Peers -/

section Peers

variable (reply : (op : PoolOp) → op.Reply) (strAudioEnc : String) (userId : Id)

/-- What the hash of the user holds. -/
def counters : List (String × String) :=
  (MessageModel.readCounters userId).eval reply

def peerOf (entry : String × String) : Id :=
  uint32 (atoi entry.1)

def countOf (entry : String × String) : Nat :=
  uint32 (atoi entry.2)

/-- The last message of a peer. -/
def lastOf (entry : String × String) : LastMsg :=
  (Pooled.MessageModel.getLastMsg strAudioEnc (peerOf entry) userId
    ⟨0, "", reply .unset, peerOf entry⟩).eval reply

def peerShows (entry : String × String) : Bool :=
  msgTypeIsValid (lastOf reply strAudioEnc userId entry).msgType

def peerInfo (entry : String × String) : UnreadInfo :=
  ⟨peerOf entry, sessionTypeSingle, countOf entry, lastOf reply strAudioEnc userId entry⟩

/-- What is listed of the peers. -/
def peerInfos (entries : List (String × String)) : List UnreadInfo :=
  (entries.filter (peerShows reply strAudioEnc userId)).map
    (peerInfo reply strAudioEnc userId)

/-- The counts of the peers that are not listed. -/
def peersHidden (entries : List (String × String)) : Nat :=
  ((entries.filter fun entry => !peerShows reply strAudioEnc userId entry).map countOf).sum

theorem eval_listPeer (unread : Nat × List UnreadInfo) (entry : String × String) :
    (MessageModel.listUnread strAudioEnc userId unread entry).eval reply =
      if peerShows reply strAudioEnc userId entry = true then
        ((unread.1 + countOf entry) % 2 ^ 32,
          unread.2 ++ [peerInfo reply strAudioEnc userId entry])
      else unread := by
  unfold MessageModel.listUnread
  simp only [Prog.eval_bind, Prog.eval_perform, Prog.pure_eq_done, Prog.eval_done]
  rfl

theorem foldl_listUnread (entries : List (String × String)) (totalCnt : Nat)
    (listed : List UnreadInfo) :
    let unread := entries.foldl (fun unread entry =>
      (MessageModel.listUnread strAudioEnc userId unread entry).eval reply) (totalCnt, listed)
    unread.1 ≡ totalCnt +
        ((peerInfos reply strAudioEnc userId entries).map UnreadInfo.unreadCnt).sum [MOD 2 ^ 32] ∧
      unread.2 = listed ++ peerInfos reply strAudioEnc userId entries := by
  induction entries generalizing totalCnt listed with
  | nil => exact ⟨Nat.ModEq.refl _, (List.append_nil _).symm⟩
  | cons entry rest inductionHypothesis =>
      simp only [List.foldl_cons]
      rw [eval_listPeer]
      cases shown : peerShows reply strAudioEnc userId entry with
      | false =>
          rw [if_neg Bool.false_ne_true, peerInfos, List.filter_cons_of_neg (by simp [shown])]
          exact inductionHypothesis totalCnt listed
      | true =>
          have later := inductionHypothesis ((totalCnt + countOf entry) % 2 ^ 32)
            (listed ++ [peerInfo reply strAudioEnc userId entry])
          rw [if_pos rfl, peerInfos, List.filter_cons_of_pos shown, List.map_cons, List.map_cons,
            List.sum_cons, ← Nat.add_assoc]
          refine ⟨later.1.trans ((Nat.mod_modEq _ _).add_right _), later.2.trans ?_⟩
          rw [List.append_assoc]
          rfl

theorem foldl_sum (entries : List (String × String)) (totalCnt : Nat) :
    entries.foldl (fun total entry => (total + countOf entry) % 2 ^ 32) totalCnt ≡
      totalCnt + (entries.map countOf).sum [MOD 2 ^ 32] := by
  induction entries generalizing totalCnt with
  | nil => exact Nat.ModEq.refl _
  | cons entry rest inductionHypothesis =>
      rw [List.foldl_cons, List.map_cons, List.sum_cons, ← Nat.add_assoc]
      exact (inductionHypothesis _).trans ((Nat.mod_modEq _ _).add_right _)

theorem sum_peerInfos_add_peersHidden (entries : List (String × String)) :
    ((peerInfos reply strAudioEnc userId entries).map UnreadInfo.unreadCnt).sum +
      peersHidden reply strAudioEnc userId entries = (entries.map countOf).sum := by
  induction entries with
  | nil => rfl
  | cons entry rest inductionHypothesis =>
      unfold peerInfos peersHidden at *
      rw [List.map_cons, List.sum_cons, ← inductionHypothesis]
      cases shown : peerShows reply strAudioEnc userId entry with
      | false =>
          rw [List.filter_cons_of_neg (by simp [shown]), List.filter_cons_of_pos (by simp [shown]),
            List.map_cons, List.sum_cons]
          omega
      | true =>
          rw [List.filter_cons_of_pos shown, List.filter_cons_of_neg (by simp [shown]),
            List.map_cons, List.map_cons, List.sum_cons, Nat.add_assoc]
          rfl

end Peers

/-! ### What has to agree -/

section Agreement

variable (reply : (op : PoolOp) → op.Reply) (strAudioEnc : String) (userId totalCnt : Nat)

/-- Every number that is listed for a group is that of its own counters, and the sum that is added
is that of the list and that of `getUnReadCntAll`. -/
structure GroupsAgree : Prop where
  own : ∀ info ∈ ((GroupMessageModel.getUnreadMsgCount strAudioEnc userId totalCnt).eval reply).2,
    info.unreadCnt = (groupState reply strAudioEnc userId).behind info.sessionId
  sum : ((GroupMessageModel.getUnreadMsgCount strAudioEnc userId totalCnt).eval reply).1 ≡
    totalCnt + (((GroupMessageModel.getUnreadMsgCount strAudioEnc userId totalCnt).eval
      reply).2.map UnreadInfo.unreadCnt).sum [MOD 2 ^ 32]
  all : ((GroupMessageModel.getUnreadMsgCount strAudioEnc userId totalCnt).eval reply).1 ≡
    (GroupMessageModel.getUnReadCntAll userId totalCnt).eval reply [MOD 2 ^ 32]

/-- The same for the peers, each of which has one counter. -/
structure PeersAgree : Prop where
  own : ∀ info ∈ ((MessageModel.getUnreadMsgCount strAudioEnc userId totalCnt).eval reply).2,
    ∃ entry ∈ counters reply userId,
      info.sessionId = peerOf entry ∧ info.unreadCnt = countOf entry
  sum : ((MessageModel.getUnreadMsgCount strAudioEnc userId totalCnt).eval reply).1 ≡
    totalCnt + (((MessageModel.getUnreadMsgCount strAudioEnc userId totalCnt).eval
      reply).2.map UnreadInfo.unreadCnt).sum [MOD 2 ^ 32]
  all : ((MessageModel.getUnreadMsgCount strAudioEnc userId totalCnt).eval reply).1 ≡
    (MessageModel.getUnReadCntAll userId totalCnt).eval reply [MOD 2 ^ 32]

/-- Each listed group stands for itself, and the counts of what is not listed are 0 as a sum of
32 bits. -/
structure AllListed : Prop where
  own : (groupState reply strAudioEnc userId).OwnCounts (countedGroups reply userId)
  groups : 2 ^ 32 ∣ ((countedGroups reply userId).inits.map
    (groupState reply strAudioEnc userId).hidden).sum
  peers : 2 ^ 32 ∣ peersHidden reply strAudioEnc userId (counters reply userId)

variable {reply strAudioEnc userId totalCnt}

/-- A sum that is split agrees with its first part when the other part is nothing. -/
theorem modEq_add_iff {sum start listed hidden : Nat}
    (split : sum ≡ start + (listed + hidden) [MOD 2 ^ 32]) :
    sum ≡ start + listed [MOD 2 ^ 32] ↔ 2 ^ 32 ∣ hidden := by
  have whole : start + (listed + hidden) ≡ start + listed + 0 [MOD 2 ^ 32] ↔
      hidden ≡ 0 [MOD 2 ^ 32] := by
    rw [← Nat.add_assoc]
    exact ⟨Nat.ModEq.add_left_cancel' _, Nat.ModEq.add_left _⟩
  rw [← Nat.modEq_zero_iff_dvd, ← whole]
  exact ⟨split.symm.trans, split.trans⟩

theorem groupsAgree_iff :
    GroupsAgree reply strAudioEnc userId totalCnt ↔
      (groupState reply strAudioEnc userId).OwnCounts (countedGroups reply userId) ∧
        2 ^ 32 ∣ ((countedGroups reply userId).inits.map
          (groupState reply strAudioEnc userId).hidden).sum := by
  obtain ⟨-, sum, listed⟩ := (groupState reply strAudioEnc userId).foldl_list
    (countedGroups reply userId) totalCnt
  have all := ((groupState reply strAudioEnc userId).foldl_add
    (countedGroups reply userId) totalCnt).2
  have parts := (groupState reply strAudioEnc userId).sum_info_add_sum_hidden
    (countedGroups reply userId).inits
  constructor
  · intro agree
    obtain ⟨own, agrees, -⟩ := agree
    rw [eval_getUnreadMsgCount] at own agrees
    simp only [listed] at own agrees
    exact ⟨(GroupState.own_iff _ _).mp own, (modEq_add_iff (parts ▸ sum)).mp agrees⟩
  · intro holds
    constructor
    · rw [eval_getUnreadMsgCount]
      simp only [listed]
      exact (GroupState.own_iff _ _).mpr holds.1
    · rw [eval_getUnreadMsgCount]
      simp only [listed]
      exact (modEq_add_iff (parts ▸ sum)).mpr holds.2
    · rw [eval_getUnreadMsgCount, eval_getUnReadCntAll strAudioEnc]
      exact sum.trans all.symm

theorem peersAgree_iff :
    PeersAgree reply strAudioEnc userId totalCnt ↔
      2 ^ 32 ∣ peersHidden reply strAudioEnc userId (counters reply userId) := by
  have listed : (MessageModel.getUnreadMsgCount strAudioEnc userId totalCnt).eval reply =
      (counters reply userId).foldl (fun unread entry =>
        (MessageModel.listUnread strAudioEnc userId unread entry).eval reply) (totalCnt, []) := by
    unfold MessageModel.getUnreadMsgCount
    rw [Prog.eval_bind, Prog.eval_foldlM]
    rfl
  have summed : (MessageModel.getUnReadCntAll userId totalCnt).eval reply =
      (counters reply userId).foldl (fun total entry => (total + countOf entry) % 2 ^ 32)
        totalCnt := by
    unfold MessageModel.getUnReadCntAll
    rw [Prog.eval_bind]
    rfl
  obtain ⟨sum, infos⟩ := foldl_listUnread reply strAudioEnc userId (counters reply userId)
    totalCnt []
  have all := foldl_sum (counters reply userId) totalCnt
  rw [← sum_peerInfos_add_peersHidden reply strAudioEnc userId] at all
  rw [← listed] at sum infos
  rw [← summed] at all
  have agrees := modEq_add_iff all
  constructor
  · intro agree
    exact agrees.mp (agree.all.symm.trans sum)
  · intro nothing
    refine ⟨?_, ?_, sum.trans (agrees.mpr nothing).symm⟩
    · intro info member
      rw [infos, List.nil_append] at member
      obtain ⟨entry, inside, rfl⟩ := List.mem_map.mp member
      exact ⟨entry, (List.mem_filter.mp inside).1, rfl, rfl⟩
    · rw [infos]
      exact sum

/-- What is listed and the two sums agree, for the groups and for the peers, if and only if every
listed group stands for itself and nothing that is not listed is summed up. -/
theorem unread_agrees_iff_listed (reply : (op : PoolOp) → op.Reply) (strAudioEnc : String)
    (userId totalCnt : Nat) :
    GroupsAgree reply strAudioEnc userId totalCnt ∧ PeersAgree reply strAudioEnc userId totalCnt ↔
      AllListed reply strAudioEnc userId := by
  rw [groupsAgree_iff, peersAgree_iff]
  constructor
  · rintro ⟨⟨own, groups⟩, peers⟩
    exact ⟨own, groups, peers⟩
  · intro all
    exact ⟨⟨all.own, all.groups⟩, all.peers⟩

end Agreement

/-- The groups 7 and 8, and a text as the last message of each. User 1 has not read 2 of the 3
messages of the first, and is ahead of the total of the second. -/
def aheadOfSecond : (op : PoolOp) → op.Reply
  | .getDBConn _ | .getCacheConn _ => some 0
  | .executeQuery _ sql =>
      if sql = "select groupId from IMGroupMember where userId=1 and status = 0" ++
          " order by updated desc, id desc" then
        some [⟨fun _ => 7, fun _ => ""⟩, ⟨fun _ => 8, fun _ => ""⟩]
      else some [⟨fun column => if column = "type" then 17 else 2, fun _ => "text"⟩]
  | .hget _ key _ =>
      if key = groupKey 7 then "3" else if key = userKey 1 7 then "1"
      else if key = groupKey 8 then "1" else if key = userKey 1 8 then "5" else ""
  | .hgetAll _ _ => some []
  | .relDBConn _ | .relCacheConn _ | .stmtDelete _ | .takes _ => ()
  | .executeUpdate _ _ | .stmtInit _ _ | .stmtExecuteUpdate _ _ | .isExists _ _ => true
  | .getInsertId _ | .stmtGetInsertId _ | .time | .unset => 0
  | .hmset _ _ _ | .set _ _ _ | .uploadByteFile _ => "OK"
  | .hset _ _ _ _ | .hdel _ _ _ | .hincrBy _ _ _ _ | .incrBy _ _ _ => 0
  | .downloadByteFile _ => none

/-- The second group is listed with the 2 messages of the first. -/
theorem unread_of_first_listed_for_second :
    ¬(GroupsAgree aheadOfSecond "" 1 0 ∧ PeersAgree aheadOfSecond "" 1 0) := by
  intro agree
  have own := (groupsAgree_iff.mp agree.1).1
  have groups : countedGroups aheadOfSecond 1 = [7, 8] := by decide +kernel
  have ahead : (groupState aheadOfSecond "" 1).total 8 <
      (groupState aheadOfSecond "" 1).read 8 := by decide +kernel
  have shown : (groupState aheadOfSecond "" 1).shows 8 = true := by decide +kernel
  rw [groups] at own
  have taken : (groupState aheadOfSecond "" 1).carried [7, 8] = 2 := by decide +kernel
  have none := own [7, 8] (by decide) 8 rfl ahead shown
  rw [taken] at none
  exact absurd none (by decide)

end UnreadTotals

end AChat.DbProxy
