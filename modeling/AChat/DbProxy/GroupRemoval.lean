import AChat.DbProxy.PoolPrograms

/-!
Contract: what a removal of a group does to the group.

The status that stands for an active group is 0 everywhere, and the removal sets it to 0. For an
active group the statement changes no row, which counts as a failure, and a group that is not active
becomes so.

Owns: the removal with every connection that may be missing and every statement that may fail, and
the exact states in which it does what its result says.
-/

namespace AChat.DbProxy

namespace GroupRemoval

open Lib (Prog)
open GroupMembers (GroupOp GroupStore ImGroup GroupTable)

/-! ### The program -/

/-- Who asks for a connection. -/
inductive Caller where
  | removeGroup
  | removeMember
  | getGroupUser
deriving DecidableEq, Repr

/-- `unset` reads a variable that has no value yet. -/
inductive RemoveOp where
  | getDBConn (caller : Caller)
  | getCacheConn (caller : Caller)
  | unset
  | statement (op : GroupOp)
deriving DecidableEq, Repr

abbrev RemoveOp.Reply : RemoveOp → Type
  | .getDBConn _ => Bool
  | .getCacheConn _ => Bool
  | .unset => Id
  | .statement op => op.Reply

abbrev RemoveProg := Prog RemoveOp RemoveOp.Reply

abbrev request (op : RemoveOp) : RemoveProg op.Reply :=
  Prog.perform op

abbrev statement (op : GroupOp) : RemoveProg op.Reply :=
  Prog.perform (RemoveOp.statement op)

def forUsers (op : Id → GroupOp) : List Id → RemoveProg Unit
  | [] => return ()
  | user :: rest => do
      let _ ← statement (op user)
      forUsers op rest

/-- A command that fails counts as a connection that is not there. -/
def getGroupUser (groupId : Id) : RemoveProg (List Id) := do
  if ← request (.getCacheConn .getGroupUser) then statement (.hgetAll groupId)
  else return []

def removeMember (groupId : Id) (users : List Id) : RemoveProg (Bool × List Id) := do
  if users = [] then return (true, [])
  else if ← request (.getDBConn .removeMember) then
    if ← request (.getCacheConn .removeMember) then
      let _ ← statement (.deactivate groupId users)
      forUsers (.hdel groupId) users
      return (true, ← getGroupUser groupId)
    else return (false, [])
  else return (false, [])

/-- The users of all rows of the group are removed. -/
def removeListed (groupId : Id) : RemoveProg (Bool × List Id) := do
  let users := (← statement (.selectMembers groupId)).getD []
  removeMember groupId (Pooled.toSet users)

/-- The part behind the loop over the rows. -/
def removeOwned (userId groupId nCreator : Id) : RemoveProg (Bool × List Id) := do
  if nCreator = 0 ∨ nCreator = userId then
    if ← statement (.updateStatus groupId) then removeListed groupId
    else return (false, [])
  else return (false, [])

def removeGroup (userId groupId : Id) : RemoveProg (Bool × List Id) := do
  if ← request (.getDBConn .removeGroup) then
    match ← statement (.selectCreator groupId) with
    | none => return (false, [])
    | some creators =>
        let unset ← request .unset
        removeOwned userId groupId (creators.getLast?.getD unset)
  else return (false, [])

/-- A deletion from a hash that fails changes nothing. -/
def apply (store : GroupStore) : (op : RemoveOp) → op.Reply → op.Reply × GroupStore
  | .statement (.hdel _ _), false => (false, store)
  | .statement op, answer => store.apply op answer
  | .getDBConn _, answer => (answer, store)
  | .getCacheConn _, answer => (answer, store)
  | .unset, answer => (answer, store)

/-! ### The specification -/

/-- The caller may remove the group. -/
def Allowed (userId : Id) (row : ImGroup) : Prop :=
  row.creator = 0 ∨ row.creator = userId

/-- No row of the group, of its members and no field of its hash is active. -/
structure Gone (store : GroupStore) (groupId : Id) : Prop where
  group : ∀ row ∈ store.groups.rows, row.id = groupId → row.status ≠ 0
  members : ∀ member ∈ store.members, member.groupId = groupId → member.status ≠ 0
  hash : store.hash groupId = []

/-- The group, its members and its hash are as before. -/
structure Untouched (before after : GroupStore) (groupId : Id) : Prop where
  group : after.rowsOf groupId = before.rowsOf groupId
  members : after.members.filter (GroupStore.memberOf groupId) =
    before.members.filter (GroupStore.memberOf groupId)
  hash : after.hash groupId = before.hash groupId

/-- A success is for the creator of a group, and the group is gone behind it. A failure changes
nothing of the group. -/
structure Truthful (before after : GroupStore) (userId groupId : Id) (success : Bool) : Prop where
  removed : success = true →
    (∃ row ∈ before.groups.rows, row.id = groupId ∧ Allowed userId row) ∧ Gone after groupId
  kept : success = false → Untouched before after groupId

/-- The statement on the status is reached, goes through, and finds a group that is not active. -/
def Revives (store : GroupStore) (answers : (op : RemoveOp) → op.Reply) (userId groupId : Id) :
    Prop :=
  answers (.getDBConn .removeGroup) = true ∧
    (answers (.statement (.selectCreator groupId))).isSome = true ∧
    answers (.statement (.updateStatus groupId)) = true ∧
    ∃ row ∈ store.groups.rows, row.id = groupId ∧ Allowed userId row ∧ row.status ≠ 0

/-! ### What the removal does -/

section Removal

variable {store : GroupStore} {answers : (op : RemoveOp) → op.Reply} {userId groupId : Id}

theorem Untouched.refl (store : GroupStore) (groupId : Id) : Untouched store store groupId :=
  ⟨rfl, rfl, rfl⟩

theorem truthful_of_failure (store : GroupStore) (userId groupId : Id) :
    Truthful store store userId groupId false :=
  ⟨fun success => (nomatch success), fun _ => .refl store groupId⟩

def SameGroups (before after : GroupStore) : Prop :=
  after.groups = before.groups

theorem SameGroups.refl (store : GroupStore) : SameGroups store store :=
  Eq.refl store.groups

theorem SameGroups.trans {first second third : GroupStore} (before : SameGroups first second)
    (after : SameGroups second third) : SameGroups first third :=
  Eq.trans after before

/-- The operations that leave the table of groups alone. -/
def KeepsGroups (op : RemoveOp) : Prop :=
  ∀ (answer : op.Reply) (store : GroupStore), SameGroups store (apply store op answer).2

theorem keepsGroups_selectMembers : KeepsGroups (.statement (.selectMembers groupId)) := by
  intro answer store
  cases answer with
  | none => rfl
  | some rows => rfl

theorem keepsGroups_deactivate (users : List Id) :
    KeepsGroups (.statement (.deactivate groupId users)) := by
  intro answer store
  cases answer with
  | false => rfl
  | true => rfl

theorem keepsGroups_hdel (user : Id) : KeepsGroups (.statement (.hdel groupId user)) := by
  intro answer store
  cases answer with
  | false => rfl
  | true => rfl

theorem forUsers_keepsGroups (users : List Id) :
    (forUsers (.hdel groupId) users).Issues KeepsGroups := by
  induction users with
  | nil => trivial
  | cons user rest inductionHypothesis =>
      exact (Prog.Issues.perform (keepsGroups_hdel user)).bind fun _ => inductionHypothesis

theorem getGroupUser_keepsGroups : (getGroupUser groupId).Issues KeepsGroups := by
  refine (Prog.Issues.perform fun _ _ => rfl).bind fun there => ?_
  split
  · exact Prog.Issues.perform fun _ _ => rfl
  · trivial

theorem removeMember_keepsGroups (users : List Id) :
    (removeMember groupId users).Issues KeepsGroups := by
  unfold removeMember
  split
  · trivial
  · refine (Prog.Issues.perform fun _ _ => rfl).bind fun conn => ?_
    split
    · refine (Prog.Issues.perform fun _ _ => rfl).bind fun cacheConn => ?_
      split
      · refine (Prog.Issues.perform (keepsGroups_deactivate users)).bind fun _ => ?_
        refine (forUsers_keepsGroups users).bind fun _ => ?_
        exact getGroupUser_keepsGroups.bind fun _ => trivial
      · trivial
    · trivial

theorem removeListed_keepsGroups : (removeListed groupId).Issues KeepsGroups :=
  (Prog.Issues.perform keepsGroups_selectMembers).bind fun _ => removeMember_keepsGroups _

/-- Behind the statement on the status no group changes. -/
theorem exec_removeListed_groups :
    SameGroups store ((removeListed groupId).exec apply answers store).2 :=
  removeListed_keepsGroups.exec SameGroups.refl (fun first second => first.trans second)
    (fun _ answer store keeps => keeps answer store) answers store

/-- There is one row of the group at most, so its creator is the last one that is read. -/
theorem rowsOf_eq_singleton {row : ImGroup} (member : row ∈ store.groups.rows)
    (same : row.id = groupId) : store.rowsOf groupId = [row] := by
  have listed : row ∈ store.rowsOf groupId :=
    List.mem_filter.mpr ⟨member, beq_iff_eq.mpr same⟩
  have named : ∀ other ∈ store.rowsOf groupId, other.id = groupId :=
    fun other there => beq_iff_eq.mp (List.mem_filter.mp there).2
  have distinct : ((store.rowsOf groupId).map fun row => row.id).Nodup :=
    store.groups.distinct.sublist (List.filter_sublist.map _)
  match rows : store.rowsOf groupId with
  | [] =>
      rw [rows] at listed
      cases listed
  | [first] =>
      rw [rows] at listed
      rw [List.mem_singleton.mp listed]
  | first :: second :: rest =>
      rw [rows] at named distinct
      have equal : first.id = second.id :=
        (named first (by simp)).trans (named second (by simp)).symm
      simp [equal] at distinct

theorem rowsOf_cases : store.rowsOf groupId = [] ∨
    ∃ row ∈ store.groups.rows, row.id = groupId ∧ store.rowsOf groupId = [row] := by
  cases rows : store.rowsOf groupId with
  | nil => exact .inl rfl
  | cons row rest =>
      have listed : row ∈ store.rowsOf groupId := by
        rw [rows]
        exact List.mem_cons_self
      obtain ⟨member, same⟩ := List.mem_filter.mp listed
      refine .inr ⟨row, member, beq_iff_eq.mp same, ?_⟩
      rw [← rows]
      exact rowsOf_eq_singleton member (beq_iff_eq.mp same)

/-- The tables behind the statement on the status. -/
def revived (store : GroupStore) (groupId : Id) : GroupStore :=
  { store with groups := store.groups.update groupId ImGroup.clearStatus ImGroup.clearStatus_id }

theorem update_eq_self {table : GroupTable}
    (active : ∀ row ∈ table.rows, row.id = groupId → row.status = 0) :
    table.update groupId ImGroup.clearStatus ImGroup.clearStatus_id = table := by
  have unchanged : table.rows.map (GroupTable.changeRow groupId ImGroup.clearStatus) =
      table.rows := by
    refine (List.map_congr_left fun row member => ?_).trans (List.map_id _)
    unfold GroupTable.changeRow ImGroup.clearStatus
    split
    · rename_i same
      rw [← active row member same]
      rfl
    · rfl
  obtain ⟨rows, nextKey, positive, fresh, distinct⟩ := table
  simp only [GroupTable.update, Lib.AutoTable.update]
  congr

/-- A statement on the status of a group that is active, or not there, changes nothing. -/
theorem revived_of_active
    (active : ((store.rowsOf groupId).any fun row => row.status != 0) = false) :
    revived store groupId = store := by
  have same : store.groups.update groupId ImGroup.clearStatus ImGroup.clearStatus_id =
      store.groups := by
    refine update_eq_self fun row member named => ?_
    rw [List.any_eq_false] at active
    have status := active row (List.mem_filter.mpr ⟨member, beq_iff_eq.mpr named⟩)
    rwa [bne_iff_ne, not_not] at status
  unfold revived
  rw [same]

theorem apply_getDBConn (caller : Caller) (answer : Bool) :
    apply store (.getDBConn caller) answer = (answer, store) :=
  rfl

theorem apply_unset (answer : Id) : apply store .unset answer = (answer, store) :=
  rfl

theorem apply_selectCreator (proposed : List Id) :
    apply store (.statement (.selectCreator groupId)) (some proposed) =
      (some ((store.rowsOf groupId).map fun row => row.creator), store) :=
  rfl

theorem apply_updateStatus :
    apply store (.statement (.updateStatus groupId)) true =
      ((store.rowsOf groupId).any fun row => row.status != 0, revived store groupId) :=
  rfl

/-- The creator that is compared is the one of the row, if the group is there. -/
theorem creator_of_row {row : ImGroup} (member : row ∈ store.groups.rows) (same : row.id = groupId)
    (unset : Id) :
    ((store.rowsOf groupId).map fun row => row.creator).getLast?.getD unset = row.creator := by
  rw [rowsOf_eq_singleton member same]
  rfl

theorem any_of_row {row : ImGroup} (member : row ∈ store.groups.rows) (same : row.id = groupId) :
    ((store.rowsOf groupId).any fun row => row.status != 0) = (row.status != 0) := by
  rw [rowsOf_eq_singleton member same]
  exact Bool.or_false _

/-- A group that is not active is made active before its members are removed. -/
theorem exec_of_revives (revives : Revives store answers userId groupId) :
    (removeGroup userId groupId).exec apply answers store =
      (removeListed groupId).exec apply answers (revived store groupId) := by
  obtain ⟨conn, selected, updated, row, member, same, allowed, inactive⟩ := revives
  obtain ⟨proposed, selected⟩ := Option.isSome_iff_exists.mp selected
  have any : ((store.rowsOf groupId).any fun row => row.status != 0) = true := by
    rw [any_of_row member same]
    exact bne_iff_ne.mpr inactive
  have creator : ((store.rowsOf groupId).map fun row => row.creator).getLast?.getD
      (answers .unset) = row.creator := creator_of_row member same _
  unfold removeGroup
  simp only [Prog.perform_bind, Prog.exec_call, conn, apply_getDBConn, if_true, selected,
    apply_selectCreator, apply_unset, creator]
  have own : row.creator = 0 ∨ row.creator = userId := allowed
  unfold removeOwned
  rw [if_pos own]
  simp only [Prog.perform_bind, Prog.exec_call, updated, apply_updateStatus, any, if_true]

theorem exec_removeOwned_of_active {nCreator : Id}
    (active : nCreator = 0 ∨ nCreator = userId →
      answers (.statement (.updateStatus groupId)) = true →
      ((store.rowsOf groupId).any fun row => row.status != 0) = false) :
    (removeOwned userId groupId nCreator).exec apply answers store = ((false, []), store) := by
  unfold removeOwned
  by_cases allowed : nCreator = 0 ∨ nCreator = userId
  · rw [if_pos allowed]
    simp only [Prog.perform_bind, Prog.exec_call]
    cases updated : answers (.statement (.updateStatus groupId)) with
    | false => rfl
    | true =>
        have none := active allowed updated
        simp only [apply_updateStatus, none, revived_of_active none, Bool.false_eq_true, if_false]
        rfl
  · rw [if_neg allowed]
    rfl

/-- Otherwise nothing is done. -/
theorem exec_of_not_revives (spared : ¬Revives store answers userId groupId) :
    (removeGroup userId groupId).exec apply answers store = ((false, []), store) := by
  unfold removeGroup
  simp only [Prog.perform_bind, Prog.exec_call, apply_getDBConn]
  cases conn : answers (.getDBConn .removeGroup) with
  | false => rfl
  | true =>
      simp only [if_true, Prog.exec_call]
      cases selected : answers (.statement (.selectCreator groupId)) with
      | none => rfl
      | some proposed =>
          simp only [apply_selectCreator, Prog.exec_call, apply_unset]
          apply exec_removeOwned_of_active
          intro allowed updated
          -- the statement goes through, so it finds no group that is not active
          rcases rowsOf_cases with none | ⟨row, member, same, rows⟩
          · rw [none]
            rfl
          · rw [rows] at allowed
            rw [any_of_row member same]
            by_contra inactive
            refine spared ⟨conn, ?_, updated, row, member, same, allowed, ?_⟩
            · rw [selected]
              rfl
            · exact bne_iff_ne.mp (Bool.eq_true_of_not_eq_false inactive)

theorem status_revived {row : ImGroup} (member : row ∈ (revived store groupId).groups.rows)
    (same : row.id = groupId) : row.status = 0 := by
  rcases GroupTable.mem_update ImGroup.clearStatus_id member with ⟨_, other⟩ | ⟨before, _, _, rfl⟩
  · exact absurd same other
  · rfl

/-- A removal that finds a group that is not active leaves it active. -/
theorem not_truthful_of_revives (revives : Revives store answers userId groupId) :
    ¬Truthful store ((removeGroup userId groupId).exec apply answers store).2 userId groupId
      ((removeGroup userId groupId).exec apply answers store).1.1 := by
  rw [exec_of_revives revives]
  obtain ⟨_, _, _, row, member, same, _, inactive⟩ := revives
  have groups : SameGroups (revived store groupId)
      ((removeListed groupId).exec apply answers (revived store groupId)).2 :=
    exec_removeListed_groups
  intro truthful
  cases success : ((removeListed groupId).exec apply answers (revived store groupId)).1.1 with
  | true =>
      have gone := (truthful.removed success).2
      have there : row.clearStatus ∈ (revived store groupId).groups.rows :=
        List.mem_map.mpr ⟨row, member, if_pos same⟩
      rw [← groups] at there
      exact gone.group row.clearStatus there same rfl
  | false =>
      have kept := (truthful.kept success).group
      have listed : row ∈ store.rowsOf groupId :=
        List.mem_filter.mpr ⟨member, beq_iff_eq.mpr same⟩
      rw [← kept] at listed
      obtain ⟨after, _⟩ := List.mem_filter.mp listed
      rw [groups] at after
      exact inactive (status_revived after same)

end Removal

/-- A removal is truthful exactly if it does not reach a group that is not active: then it fails, and
changes nothing. -/
theorem removal_truthful_iff (store : GroupStore) (answers : (op : RemoveOp) → op.Reply)
    (userId groupId : Id) :
    Truthful store ((removeGroup userId groupId).exec apply answers store).2 userId groupId
        ((removeGroup userId groupId).exec apply answers store).1.1 ↔
      ¬Revives store answers userId groupId := by
  constructor
  · exact fun truthful revives => not_truthful_of_revives revives truthful
  · intro spared
    rw [exec_of_not_revives spared]
    exact truthful_of_failure store userId groupId

/-- A group of user 5 that was removed before. -/
def removedGroup : GroupStore where
  groups := ⟨[⟨1, 5, 1, 0, 1⟩], 2, by decide, by decide, by decide⟩
  members := []
  hash _ := []

/-- Every connection is there, and every statement goes through. -/
def accepting : (op : RemoveOp) → op.Reply
  | .getDBConn _ => true
  | .getCacheConn _ => true
  | .unset => 0
  | .statement (.selectGroup _) => some []
  | .statement (.selectCreator _) => some []
  | .statement (.selectMembers _) => some []
  | .statement (.selectPresent _ _) => some []
  | .statement (.insertGroup _) => some 0
  | .statement (.hgetAll _) => []
  | .statement (.updateStatus _) => true
  | .statement (.setGroupMsgId _) => true
  | .statement (.deleteMembers _) => true
  | .statement (.reactivate _ _) => true
  | .statement (.prepareMember _ _) => true
  | .statement (.insertMember _ _) => true
  | .statement (.addUserCnt _ _) => true
  | .statement (.deactivate _ _) => true
  | .statement (.hget _ _) => true
  | .statement (.hset _ _) => true
  | .statement (.hdel _ _) => true

/-- Its creator removes it, is told of a success, and the group is active again. -/
theorem removed_group_revived :
    ¬Truthful removedGroup ((removeGroup 5 1).exec apply accepting removedGroup).2 5 1
      ((removeGroup 5 1).exec apply accepting removedGroup).1.1 := by
  refine not_truthful_of_revives ⟨rfl, rfl, rfl, ⟨1, 5, 1, 0, 1⟩, List.mem_cons_self, rfl, ?_, ?_⟩
  · exact .inr rfl
  · decide

end GroupRemoval

end AChat.DbProxy
