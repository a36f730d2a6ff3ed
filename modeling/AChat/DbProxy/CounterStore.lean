import Mathlib
import AChat.DbProxy.MessageCounters
import AChat.Lib.NumberText

/-!
Owns the hashes of the unread counters: their keys, what the commands do to them, and the counters
that they stand for as numbers.

Does not own which commands are issued.
-/

namespace AChat.DbProxy

namespace UnreadCounters

open Pooled
open Lib (toString_injective toString_append_inj exists_digit_toString)

/-! ### Keys -/

section Keys

theorem toList_groupKey (groupId : Id) :
    (groupKey groupId).toList = (toString groupId).toList ++ '_' :: "im_group_msg".toList := by
  show ((toString groupId) ++ "_im_group_msg").toList = _
  rw [String.toList_append]
  rfl

theorem toList_userKey (userId groupId : Id) :
    (userKey userId groupId).toList = (toString userId).toList ++
      '_' :: ((toString groupId).toList ++ '_' :: "im_user_group".toList) := by
  show ((toString userId) ++ "_" ++ (toString groupId) ++ "_im_user_group").toList = _
  rw [String.toList_append, String.toList_append, String.toList_append, List.append_assoc,
    List.append_assoc]
  rfl

theorem unreadKey_injective : Function.Injective unreadKey := by
  intro left right same
  have texts : "unread_" ++ toString left = "unread_" ++ toString right := same
  exact toString_injective (String.append_right_inj _ |>.mp texts)

theorem groupKey_injective : Function.Injective groupKey := by
  intro left right same
  have texts := congrArg String.toList same
  rw [toList_groupKey, toList_groupKey] at texts
  exact (toString_append_inj rfl texts).1

theorem userKey_inj {userId otherUser groupId otherGroup : Id}
    (same : userKey userId groupId = userKey otherUser otherGroup) :
    userId = otherUser ∧ groupId = otherGroup := by
  have texts := congrArg String.toList same
  rw [toList_userKey, toList_userKey] at texts
  have inside := toString_append_inj rfl texts
  exact ⟨inside.1, (toString_append_inj rfl inside.2).1⟩

theorem groupKey_ne_userKey (groupId userId otherGroup : Id) :
    groupKey groupId ≠ userKey userId otherGroup := by
  intro same
  have texts := congrArg String.toList same
  rw [toList_groupKey, toList_userKey] at texts
  have inside := (toString_append_inj rfl texts).2
  obtain ⟨digit, rest, digits, isDigit⟩ := exists_digit_toString otherGroup
  rw [digits] at inside
  have first : 'i' = digit := (List.cons.inj inside).1
  rw [← first] at isDigit
  exact absurd isDigit (by decide)

/-- The key of a single chat starts with a letter. -/
theorem unreadKey_ne_of_digit {userId number : Nat} {key : String} {rest : List Char}
    (starts : key.toList = (toString number).toList ++ rest) : unreadKey userId ≠ key := by
  intro same
  have texts : "unread_".toList ++ (toString userId).toList = key.toList := by
    rw [← same]
    exact (String.toList_append ..).symm
  obtain ⟨digit, more, digits, isDigit⟩ := exists_digit_toString number
  rw [starts, digits] at texts
  have first : 'u' = digit := (List.cons.inj texts).1
  rw [← first] at isDigit
  exact absurd isDigit (by decide)

theorem unreadKey_ne_groupKey (userId groupId : Id) : unreadKey userId ≠ groupKey groupId :=
  unreadKey_ne_of_digit (toList_groupKey groupId)

theorem unreadKey_ne_userKey (userId otherUser groupId : Id) :
    unreadKey userId ≠ userKey otherUser groupId :=
  unreadKey_ne_of_digit (toList_userKey otherUser groupId)

end Keys

/-! ### The cache -/

/-- The fields of the hashes, by key. A hash that is not there has none. -/
abbrev Hashes := String → List (String × String)

/-- The number in a field, and 0 when the field is not there. -/
def number (hash : List (String × String)) (field : String) : Int :=
  ((hash.lookup field).bind String.toInt?).getD 0

def setField (hash : List (String × String)) (entry : String × String) : List (String × String) :=
  hash.filter (·.1 ≠ entry.1) ++ [entry]

/-- The commands on the counters, which all succeed. `HMSET` without a field is an error and
changes nothing. A number that a command leaves is not bounded, so every run in which no
`HINCRBY` overflows is one of these. -/
def apply (hashes : Hashes) : (op : PoolOp) → op.Reply → op.Reply × Hashes
  | .getCacheConn _, conn => (some (conn.getD 0), hashes)
  | .hgetAll _ key, _ => (some (hashes key), hashes)
  | .hincrBy _ key field value, _ =>
      let counted := number (hashes key) field + value
      (counted, Function.update hashes key (setField (hashes key) (field, toString counted)))
  | .hmset _ key hash, answer =>
      (answer, if hash = [] then hashes
        else Function.update hashes key (hash.foldl setField (hashes key)))
  | .hdel _ key field, _ =>
      ((hashes key).countP (·.1 = field),
        Function.update hashes key ((hashes key).filter (·.1 ≠ field)))
  | _, answer => (answer, hashes)

section Fields

variable (hash : List (String × String)) {field other : String}

theorem lookup_filter_ne (different : field ≠ other) :
    (hash.filter (·.1 ≠ other)).lookup field = hash.lookup field := by
  induction hash with
  | nil => rfl
  | cons entry rest inductionHypothesis =>
      by_cases same : entry.1 = other
      · rw [List.filter_cons_of_neg (by simp [same]), inductionHypothesis, List.lookup_cons,
          beq_false_of_ne (same ▸ different)]
      · rw [List.filter_cons_of_pos (by simp [same]), List.lookup_cons, List.lookup_cons,
          inductionHypothesis]

theorem lookup_filter_self : (hash.filter (·.1 ≠ field)).lookup field = none := by
  rw [List.lookup_eq_none_iff]
  intro entry member
  have different := (List.mem_filter.mp member).2
  simp only [ne_eq, decide_not, Bool.not_eq_eq_eq_not, Bool.not_true, decide_eq_false_iff_not]
    at different
  simpa using fun same => different same.symm

theorem number_setField_self (value : Nat) :
    number (setField hash (field, toString (value : Int))) field = value := by
  have text : (toString (value : Int)).toInt? = some (value : Int) := Nat.toInt?_repr value
  rw [number, setField, List.lookup_append, lookup_filter_self, List.lookup_cons, beq_self_eq_true]
  simp only [Option.none_or, Option.bind_some, text, Option.getD_some]

theorem number_setField_ne (different : field ≠ other) (value : String) :
    number (setField hash (other, value)) field = number hash field := by
  rw [number, setField, List.lookup_append, lookup_filter_ne hash different, List.lookup_cons,
    beq_false_of_ne different, List.lookup_nil, Option.or_none, number]

theorem number_filter_self : number (hash.filter (·.1 ≠ field)) field = 0 := by
  rw [number, lookup_filter_self]
  rfl

theorem number_filter_ne (different : field ≠ other) :
    number (hash.filter (·.1 ≠ other)) field = number hash field := by
  rw [number, lookup_filter_ne hash different, number]

end Fields

/-- The hash of a group, or of a user in it, that holds a count. -/
def counts (count : Nat) : List (String × String) :=
  if count = 0 then [] else [("count", toString count)]

@[simp] theorem number_counts (count : Nat) : number (counts count) "count" = count := by
  unfold counts
  split
  · rename_i none
    rw [none]
    rfl
  · exact number_setField_self [] count

theorem counts_eq_nil_iff (count : Nat) : counts count = [] ↔ count = 0 := by
  unfold counts
  split <;> simp_all

theorem setField_counts (before count : Nat) :
    setField (counts before) ("count", toString count) = [("count", toString count)] := by
  unfold counts
  split <;> simp [setField]

theorem foldl_setField_counts {count : Nat} (some : count ≠ 0) (before : Nat) :
    (counts count).foldl setField (counts before) = counts count := by
  have held : counts count = [("count", toString count)] := if_neg some
  rw [held]
  exact setField_counts before count

/-! ### The counters as numbers -/

/-- `unread` is by the user and the peer, `copied` by the user and the group. -/
@[ext] structure Counters where
  unread : Id → Id → Nat
  total : Id → Nat
  copied : Id → Id → Nat
  copied_le : ∀ userId groupId, copied userId groupId ≤ total groupId

namespace Counters

def empty : Counters where
  unread _ _ := 0
  total _ := 0
  copied _ _ := 0
  copied_le _ _ := Nat.le_refl 0

def setUnread (counters : Counters) (userId peerId count : Nat) : Counters where
  unread user peer := if user = userId ∧ peer = peerId then count else counters.unread user peer
  total := counters.total
  copied := counters.copied
  copied_le := counters.copied_le

def increase (counters : Counters) (groupId : Id) : Counters where
  unread := counters.unread
  total group := if group = groupId then counters.total group + 1 else counters.total group
  copied := counters.copied
  copied_le user group := by
    have before := counters.copied_le user group
    split <;> omega

/-- A count of 0 was read from a hash without fields, and is not written. -/
def copy (counters : Counters) (userId groupId count : Nat)
    (known : count ≤ counters.total groupId) : Counters where
  unread := counters.unread
  total := counters.total
  copied user group :=
    if user = userId ∧ group = groupId ∧ count ≠ 0 then count else counters.copied user group
  copied_le user group := by
    have before := counters.copied_le user group
    split
    · rename_i same
      rw [same.2.1]
      exact known
    · exact before

def catchUp (counters : Counters) (userId groupId : Id) : Counters :=
  counters.copy userId groupId (counters.total groupId) (Nat.le_refl _)

/-- A copy of the total is the total, also when it is 0. -/
theorem copied_catchUp (counters : Counters) (userId groupId user group : Nat) :
    (counters.catchUp userId groupId).copied user group =
      if user = userId ∧ group = groupId then counters.total group
      else counters.copied user group := by
  have before := counters.copied_le user group
  simp only [catchUp, copy]
  by_cases same : user = userId ∧ group = groupId
  · rw [if_pos same, ← same.2]
    split
    · rfl
    · rename_i zero
      have : counters.total group = 0 := by tauto
      omega
  · rw [if_neg same, if_neg fun all => same ⟨all.1, all.2.1⟩]

theorem catchUp_catchUp (counters : Counters) (userId groupId : Id) :
    (counters.catchUp userId groupId).catchUp userId groupId =
      counters.catchUp userId groupId := by
  apply Counters.ext
  · rfl
  · rfl
  · funext user group
    rw [copied_catchUp, copied_catchUp]
    split <;> rfl

end Counters

structure Represents (hashes : Hashes) (counters : Counters) : Prop where
  unread : ∀ userId peerId,
    number (hashes (unreadKey userId)) (toString peerId) = counters.unread userId peerId
  total : ∀ groupId, hashes (groupKey groupId) = counts (counters.total groupId)
  copied : ∀ userId groupId,
    hashes (userKey userId groupId) = counts (counters.copied userId groupId)

namespace Represents

variable {hashes : Hashes} {counters : Counters}

theorem empty : Represents (fun _ => []) Counters.empty where
  unread _ _ := rfl
  total _ := rfl
  copied _ _ := rfl

theorem number_total (represents : Represents hashes counters) (groupId : Id) :
    number (hashes (groupKey groupId)) "count" = counters.total groupId := by
  rw [represents.total, number_counts]

theorem number_copied (represents : Represents hashes counters) (userId groupId : Id) :
    number (hashes (userKey userId groupId)) "count" = counters.copied userId groupId := by
  rw [represents.copied, number_counts]

/-- A hash of a single chat is changed in one field. -/
theorem setUnread (represents : Represents hashes counters) {userId peerId count : Nat}
    {hash : List (String × String)} (self : number hash (toString peerId) = count)
    (others : ∀ peer : Nat, peer ≠ peerId →
      number hash (toString peer) = number (hashes (unreadKey userId)) (toString peer)) :
    Represents (Function.update hashes (unreadKey userId) hash)
      (counters.setUnread userId peerId count) where
  unread user peer := by
    simp only [Counters.setUnread]
    by_cases sameUser : user = userId
    · subst sameUser
      rw [Function.update_self]
      by_cases samePeer : peer = peerId
      · subst samePeer
        rw [if_pos ⟨rfl, rfl⟩]
        exact self
      · rw [if_neg fun same => samePeer same.2, others peer samePeer]
        exact represents.unread user peer
    · rw [if_neg fun same => sameUser same.1,
        Function.update_of_ne fun same => sameUser (unreadKey_injective same)]
      exact represents.unread user peer
  total groupId := by
    rw [Function.update_of_ne (unreadKey_ne_groupKey userId groupId).symm]
    exact represents.total groupId
  copied user groupId := by
    rw [Function.update_of_ne (unreadKey_ne_userKey userId user groupId).symm]
    exact represents.copied user groupId

theorem hincrBy_unread (represents : Represents hashes counters) (conn : Conn)
    (userId peerId : Id) (answer : Int) :
    Represents (apply hashes (.hincrBy conn (unreadKey userId) (toString peerId) 1) answer).2
      (counters.setUnread userId peerId (counters.unread userId peerId + 1)) := by
  have counted : number (hashes (unreadKey userId)) (toString peerId) + 1 =
      ((counters.unread userId peerId + 1 : Nat) : Int) := by
    rw [represents.unread, Nat.cast_succ]
  simp only [apply, counted]
  apply represents.setUnread
  · exact number_setField_self _ _
  · exact fun peer different =>
      number_setField_ne _ (fun same => different (toString_injective same)) _

theorem hdel_unread (represents : Represents hashes counters) (conn : Conn) (userId peerId : Id)
    (answer : Int) :
    Represents (apply hashes (.hdel conn (unreadKey userId) (toString peerId)) answer).2
      (counters.setUnread userId peerId 0) := by
  apply represents.setUnread
  · exact number_filter_self _
  · exact fun peer different =>
      number_filter_ne _ fun same => different (toString_injective same)

theorem hincrBy_total (represents : Represents hashes counters) (conn : Conn) (groupId : Id)
    (answer : Int) :
    Represents (apply hashes (.hincrBy conn (groupKey groupId) "count" 1) answer).2
      (counters.increase groupId) where
  unread userId peerId := by
    simp only [apply]
    rw [Function.update_of_ne (unreadKey_ne_groupKey userId groupId)]
    exact represents.unread userId peerId
  total group := by
    simp only [apply, Counters.increase]
    by_cases same : group = groupId
    · subst same
      have counted : number (hashes (groupKey group)) "count" + 1 =
          ((counters.total group + 1 : Nat) : Int) := by
        rw [represents.number_total, Nat.cast_succ]
      rw [Function.update_self, if_pos rfl, counted, represents.total]
      exact (setField_counts _ _).trans (if_neg (Nat.succ_ne_zero _)).symm
    · rw [if_neg same, Function.update_of_ne fun keys => same (groupKey_injective keys)]
      exact represents.total group
  copied userId group := by
    simp only [apply]
    rw [Function.update_of_ne (groupKey_ne_userKey groupId userId group).symm]
    exact represents.copied userId group

/-- The copy of a count that the total has had. -/
theorem hmset_copied (represents : Represents hashes counters) (conn : Conn)
    (userId groupId : Id) {count : Nat} (known : count ≤ counters.total groupId)
    (answer : String) :
    Represents (apply hashes (.hmset conn (userKey userId groupId) (counts count)) answer).2
      (counters.copy userId groupId count known) := by
  simp only [apply]
  split
  · rename_i none
    rw [counts_eq_nil_iff] at none
    refine ⟨represents.unread, represents.total, fun user group => ?_⟩
    simp only [Counters.copy]
    rw [represents.copied, if_neg fun all => all.2.2 none]
  · rename_i some
    rw [counts_eq_nil_iff] at some
    constructor
    · intro user peer
      rw [Function.update_of_ne (unreadKey_ne_userKey user userId groupId)]
      exact represents.unread user peer
    · intro group
      rw [Function.update_of_ne (groupKey_ne_userKey group userId groupId)]
      exact represents.total group
    · intro user group
      simp only [Counters.copy]
      by_cases same : user = userId ∧ group = groupId
      · rw [if_pos ⟨same.1, same.2, some⟩, same.1, same.2, Function.update_self,
          represents.copied]
        exact foldl_setField_counts some _
      · rw [if_neg fun all => same ⟨all.1, all.2.1⟩,
          Function.update_of_ne fun keys => same (userKey_inj keys)]
        exact represents.copied user group

end Represents

end UnreadCounters

end AChat.DbProxy
