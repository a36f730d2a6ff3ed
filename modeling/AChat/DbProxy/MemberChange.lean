import AChat.DbProxy.MembershipConsistency

/-!
Contract: which users the DB proxy reports as changed and as current after a member change.

The set of users that is asked for shrinks to those that are changed, and the current users are
read from the hash behind the change. So users who were added are reported in both lists, and
users who were removed in one.

Owns: the reply to a change of the members of a group.
-/

namespace AChat.DbProxy

open Lib (Prog)

namespace MemberChange

open GroupMembers

/-! ### `GroupModel` with the set of users -/

/-- Whether a change went through, with the users that are left in the set, and the current users
behind it. -/
structure Outcome where
  done : Bool
  setUserId : List Id
  lsCurUserId : List Id
deriving DecidableEq, Repr

def addMember (groupId : Id) (users : List Id) : GroupProg Outcome := do
  let users ← removeRepeatUser groupId users
  let (added, users) ← insertNewMember groupId users
  return ⟨added, users, ← getGroupUser groupId⟩

def removeMember (groupId : Id) (users : List Id) : GroupProg Outcome := do
  let (removed, current) ← GroupMembers.removeMember groupId users
  return ⟨removed, users, current⟩

def modifyGroupMember (userId groupId modifyType : Id) (users : List Id) : GroupProg Outcome := do
  if ← selectPermission userId groupId modifyType then
    if modifyType = groupModifyTypeAdd then addMember groupId users
    else if modifyType = groupModifyTypeDel then removeMember groupId users
    else return ⟨false, users, []⟩
  else return ⟨false, users, []⟩

/-! ### The reply -/

/-- `IMGroupChangeMemberRsp`. -/
structure ChangeMemberRsp where
  userId : Id
  groupId : Id
  changeType : Nat
  resultCode : Nat
  chgUserIdList : List Id
  curUserIdList : List Id
deriving DecidableEq, Repr

/-- `IM::BaseDefine::GroupModifyType_IsValid`. -/
def groupModifyTypeIsValid (changeType : Nat) : Bool :=
  changeType == groupModifyTypeAdd || changeType == groupModifyTypeDel

/-- `GroupModel::isValidateGroupId`: a hash without fields is not there. -/
def isValidateGroupId (store : GroupStore) (groupId : Id) : Bool :=
  !(store.hash groupId).isEmpty

def changeMemberRsp (userId groupId changeType : Id) (outcome : Outcome) : ChangeMemberRsp where
  userId := userId
  groupId := groupId
  changeType := changeType
  resultCode := if outcome.done then 0 else 1
  chgUserIdList := if outcome.done then outcome.setUserId else []
  curUserIdList := if outcome.done then outcome.lsCurUserId else []

/-- `DB_PROXY::modifyMember`. There is no reply for an unknown type or group. -/
def modifyMember (store : GroupStore) (answers : (op : GroupOp) → op.Reply)
    (userId groupId changeType : Id) (users : UserSet) : Option ChangeMemberRsp :=
  if groupModifyTypeIsValid changeType && isValidateGroupId store groupId then
    some (changeMemberRsp userId groupId changeType
      ((modifyGroupMember userId groupId changeType users.1).exec GroupStore.apply answers store).1)
  else none

/-! ### Who is added -/

/-- The users of whom a row is found. -/
def hasUser (store : GroupStore) (answers : (op : GroupOp) → op.Reply) (groupId : Id)
    (users : List Id) : List Id :=
  (store.apply (.selectPresent groupId users) (answers (.selectPresent groupId users))).1.getD []

/-- The users who are not in the group and of whom a row is found, or the insert of one can be
prepared. -/
def joining (store : GroupStore) (answers : (op : GroupOp) → op.Reply) (groupId : Id)
    (users : List Id) : List Id :=
  (strangers store groupId users).filter fun user =>
    (hasUser store answers groupId (strangers store groupId users)).contains user ||
      answers (.prepareMember groupId user)

section Programs

variable {groupId : Id} {answers : (op : GroupOp) → op.Reply} {store later : GroupStore}

/-- The operations that leave the hash as it is. -/
def KeepsHash : GroupOp → Prop
  | .hset _ _ | .hdel _ _ => False
  | _ => True

/-- The hash is as it was. -/
structure SameHash (store later : GroupStore) : Prop where
  hash : later.hash = store.hash

theorem SameHash.refl (store : GroupStore) : SameHash store store :=
  ⟨rfl⟩

theorem SameHash.trans {third : GroupStore} (first : SameHash store later)
    (second : SameHash later third) : SameHash store third :=
  ⟨second.hash.trans first.hash⟩

theorem apply_keepsHash {op : GroupOp} (keeps : KeepsHash op) (answer : op.Reply)
    (store : GroupStore) : SameHash store (store.apply op answer).2 := by
  unfold GroupStore.apply
  split
  all_goals first | exact ⟨rfl⟩ | exact keeps.elim

theorem exec_keepsHash {α : Type} {prog : GroupProg α} (issues : prog.Issues KeepsHash)
    (store : GroupStore) : SameHash store (prog.exec GroupStore.apply answers store).2 :=
  issues.exec SameHash.refl SameHash.trans
    (fun _ answer store keeps => apply_keepsHash keeps answer store) answers store

theorem reactivateUsers_keepsHash (users : List Id) :
    (reactivateUsers groupId users).Issues KeepsHash := by
  unfold reactivateUsers
  split
  · trivial
  · exact .perform trivial

theorem raiseUserCnt_keepsHash (count : Nat) :
    (raiseUserCnt groupId count).Issues KeepsHash := by
  unfold raiseUserCnt
  split
  · trivial
  · exact .perform trivial

theorem insertUsers_keepsHash (found users : List Id) :
    (insertUsers groupId found users).Issues KeepsHash := by
  induction users with
  | nil => trivial
  | cons user rest inductionHypothesis =>
      unfold insertUsers
      split
      · exact inductionHypothesis.bind fun _ => trivial
      · refine ⟨trivial, fun isPrepared => ?_⟩
        show Prog.Issues KeepsHash (if isPrepared = true then _ else _)
        split
        · exact ⟨trivial, fun _ => inductionHypothesis.bind fun _ => trivial⟩
        · exact inductionHypothesis

/-- A user stays in the set when a row is found, or the insert of one is prepared. -/
theorem exec_insertUsers_users (found users : List Id) (store : GroupStore) :
    ((insertUsers groupId found users).exec GroupStore.apply answers store).1.1 =
      users.filter fun user => found.contains user || answers (.prepareMember groupId user) := by
  induction users generalizing store with
  | nil => rfl
  | cons user rest inductionHypothesis =>
      unfold insertUsers
      rw [List.filter_cons]
      by_cases isFound : user ∈ found
      · rw [if_pos isFound, Prog.exec_bind, if_pos (by simp [isFound])]
        exact congrArg (user :: ·) (inductionHypothesis store)
      · rw [if_neg isFound, Prog.perform_bind, Prog.exec_call, apply_prepareMember]
        have notFound : found.contains user = false := by simpa using isFound
        rw [notFound, Bool.false_or]
        cases answers (.prepareMember groupId user) with
        | false => exact inductionHypothesis store
        | true =>
            rw [if_pos rfl, if_pos rfl, Prog.perform_bind, Prog.exec_call, Prog.exec_bind]
            exact congrArg (user :: ·) (inductionHypothesis _)

/-- The users who are left in the set get a field in the hash. -/
theorem exec_insertNewMember_users {users : List Id} (valid : groupId ≠ invalidValue)
    (nonempty : users ≠ []) (store : GroupStore) :
    let left := users.filter fun user => (hasUser store answers groupId users).contains user ||
      answers (.prepareMember groupId user)
    ((insertNewMember groupId users).exec GroupStore.apply answers store).1 = (true, left) ∧
      ((insertNewMember groupId users).exec GroupStore.apply answers store).2.hash =
        setFields store.hash groupId left := by
  intro left
  unfold insertNewMember
  rw [if_neg (not_or.mpr ⟨valid, nonempty⟩)]
  simp only [Prog.perform_bind, Prog.exec_call, Prog.exec_bind, Prog.pure_eq_done, Prog.exec_done,
    exec_hset, exec_insertUsers_users]
  refine ⟨rfl, congrArg (fun hash => setFields hash groupId left) ?_⟩
  have selected : KeepsHash (.selectPresent groupId users) := trivial
  exact ((((apply_keepsHash selected _ store).trans
    (exec_keepsHash (reactivateUsers_keepsHash _) _)).trans
    (exec_keepsHash (insertUsers_keepsHash _ _) _)).trans
    (exec_keepsHash (raiseUserCnt_keepsHash _) _)).hash

/-! ### The two lists -/

theorem nodup_setFields {hash : Id → List Id} (distinct : (hash groupId).Nodup)
    (users : List Id) : (setFields hash groupId users groupId).Nodup := by
  induction users generalizing hash with
  | nil => exact distinct
  | cons user rest inductionHypothesis =>
      apply inductionHypothesis
      show (Function.update hash groupId ((hash groupId).insert user) groupId).Nodup
      rw [Function.update_self]
      exact distinct.insert

theorem nodup_delFields {hash : Id → List Id} (distinct : (hash groupId).Nodup)
    (users : List Id) : (delFields hash groupId users groupId).Nodup := by
  induction users generalizing hash with
  | nil => exact distinct
  | cons user rest inductionHypothesis =>
      apply inductionHypothesis
      show (Function.update hash groupId ((hash groupId).filter (· != user)) groupId).Nodup
      rw [Function.update_self]
      exact distinct.filter _

/-- A change that went through: its lists have no repetitions, and this is who is in both. -/
structure Lists (outcome : Outcome) (both : List Id) : Prop where
  changed : outcome.setUserId.Nodup
  current : outcome.lsCurUserId.Nodup
  both : ∀ user, user ∈ outcome.setUserId ∧ user ∈ outcome.lsCurUserId ↔ user ∈ both

theorem addMember_lists (distinct : (store.hash groupId).Nodup) {users : List Id}
    (once : users.Nodup)
    (done : ((addMember groupId users).exec GroupStore.apply answers store).1.done = true) :
    Lists ((addMember groupId users).exec GroupStore.apply answers store).1
      (joining store answers groupId users) := by
  have outcome : ((addMember groupId users).exec GroupStore.apply answers store).1 =
      let added := (insertNewMember groupId (strangers store groupId users)).exec GroupStore.apply
        answers store
      ⟨added.1.1, added.1.2, added.2.hash groupId⟩ := by
    unfold addMember
    simp only [Prog.exec_bind, exec_removeRepeatUser]
    rfl
  rw [outcome] at done ⊢
  by_cases nothing : groupId = invalidValue ∨ strangers store groupId users = []
  · unfold insertNewMember at done
    rw [if_pos nothing] at done
    cases done
  · obtain ⟨valid, nonempty⟩ := not_or.mp nothing
    obtain ⟨result, hash⟩ := @exec_insertNewMember_users groupId answers _ valid nonempty store
    refine ⟨?_, ?_, ?_⟩
    · show ((insertNewMember groupId (strangers store groupId users)).exec _ _ store).1.2.Nodup
      rw [result]
      exact (once.filter _).filter _
    · show (((insertNewMember groupId (strangers store groupId users)).exec _ _ store).2.hash
        groupId).Nodup
      rw [hash]
      exact nodup_setFields distinct _
    · intro user
      show user ∈ ((insertNewMember groupId (strangers store groupId users)).exec _ _ store).1.2 ∧
        user ∈ ((insertNewMember groupId (strangers store groupId users)).exec _ _ store).2.hash
          groupId ↔ _
      rw [result, hash, mem_setFields]
      exact and_iff_left_of_imp .inr

/-- Who was removed is not current. -/
theorem removeMember_lists (distinct : (store.hash groupId).Nodup) {users : List Id}
    (once : users.Nodup) :
    Lists ((removeMember groupId users).exec GroupStore.apply answers store).1 [] := by
  unfold removeMember GroupMembers.removeMember
  by_cases nobody : users = []
  · rw [if_pos nobody, nobody]
    exact ⟨List.nodup_nil, List.nodup_nil, fun _ => ⟨fun both => both.1, fun none => nomatch none⟩⟩
  · rw [if_neg nobody]
    have selected : KeepsHash (.deactivate groupId users) := trivial
    have same := (apply_keepsHash selected (answers (.deactivate groupId users)) store).hash
    simp only [Prog.perform_bind, Prog.exec_call, Prog.exec_bind, exec_hdel, getGroupUser]
    refine ⟨once, ?_, ?_⟩
    · show (delFields (store.apply _ _).2.hash groupId users groupId).Nodup
      rw [same]
      exact nodup_delFields distinct _
    · intro user
      show user ∈ users ∧ user ∈ delFields (store.apply _ _).2.hash groupId users groupId ↔ _
      rw [mem_delFields]
      exact ⟨fun both => absurd both.1 both.2.2, fun none => nomatch none⟩

theorem modifyGroupMember_lists {userId modifyType : Id} {users : List Id}
    (distinct : (store.hash groupId).Nodup) (once : users.Nodup)
    (done : ((modifyGroupMember userId groupId modifyType users).exec GroupStore.apply answers
      store).1.done = true) :
    Lists ((modifyGroupMember userId groupId modifyType users).exec GroupStore.apply answers store).1
      (if modifyType = groupModifyTypeAdd then joining store answers groupId users else []) := by
  revert done
  unfold modifyGroupMember
  rw [Prog.exec_bind, exec_selectPermission]
  split
  · split
    · exact addMember_lists distinct once
    · split
      · exact fun _ => removeMember_lists distinct once
      · intro done
        cases done
  · intro done
    cases done

/-- Of a change that went through the reply has the lists, without repetitions. -/
theorem modifyMember_lists {userId changeType : Id} {users : UserSet} {rsp : ChangeMemberRsp}
    (distinct : (store.hash groupId).Nodup)
    (responds : modifyMember store answers userId groupId changeType users = some rsp)
    (success : rsp.resultCode = 0) :
    rsp.chgUserIdList.Nodup ∧ rsp.curUserIdList.Nodup ∧
      ∀ user, user ∈ rsp.chgUserIdList ∧ user ∈ rsp.curUserIdList ↔
        changeType = groupModifyTypeAdd ∧ user ∈ joining store answers groupId users.1 := by
  have once : users.1.Nodup := users.2.imp fun less => Nat.ne_of_lt less
  unfold modifyMember at responds
  split at responds
  · have rsp_eq := (Option.some.inj responds).symm
    unfold changeMemberRsp at rsp_eq
    split at rsp_eq
    · rename_i done
      have lists := modifyGroupMember_lists distinct once done
      rw [rsp_eq]
      refine ⟨lists.changed, lists.current, fun user => ?_⟩
      rw [lists.both]
      split
      · rename_i adds
        exact (and_iff_right adds).symm
      · rename_i notAdd
        exact iff_of_false List.not_mem_nil fun added => notAdd added.1
    · rw [rsp_eq] at success
      cases success
  · cases responds

/-- The reply is about what was asked for. -/
theorem modifyMember_echoes {userId changeType : Id} {users : UserSet} {rsp : ChangeMemberRsp}
    (responds : modifyMember store answers userId groupId changeType users = some rsp) :
    rsp.userId = userId ∧ rsp.groupId = groupId ∧ rsp.changeType = changeType := by
  unfold modifyMember at responds
  split at responds
  · rw [← Option.some.inj responds]
    exact ⟨rfl, rfl, rfl⟩
  · cases responds

/-- Beside the set of users the operation is the one whose effect on the tables is known. -/
theorem exec_modifyGroupMember_outcome (userId modifyType : Id) (users : List Id) :
    (GroupMembers.modifyGroupMember userId groupId modifyType users).exec GroupStore.apply answers
        store =
      let result := (modifyGroupMember userId groupId modifyType users).exec GroupStore.apply
        answers store
      ((result.1.done, result.1.lsCurUserId), result.2) := by
  unfold GroupMembers.modifyGroupMember modifyGroupMember
  simp only [Prog.exec_bind]
  split
  · split
    · unfold GroupMembers.addMember addMember
      simp only [Prog.exec_bind]
      rfl
    · split
      · unfold removeMember
        simp only [Prog.exec_bind]
        rfl
      · rfl
  · rfl

end Programs

end MemberChange

end AChat.DbProxy
