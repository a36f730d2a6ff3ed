import AChat.DbProxy.GroupMembers
import AChat.Lib.Reach

/-!
Contract: the member hash, the member rows and the user count of a group agree.

Each operation writes the three by statements of its own and does not look at most
of their results. The count is raised twice for a new group, and not at all when a
member leaves or comes back.

Owns: runs of the operations, the condition under which the three agree, and a run
in which they do not.
-/

namespace AChat.DbProxy

open Lib (Prog Meets run)

namespace GroupMembers

/-! ### Runs -/

/-- A `set<uint32_t>`, in its order. -/
abbrev UserSet := { users : List Id // users.Pairwise (· < ·) }

inductive GroupRequest where
  | createGroup (userId : Id) (groupName groupAvatar : String) (groupType : Nat)
      (members : UserSet)
  | modifyGroupMember (userId groupId modifyType : Id) (users : UserSet)
  | removeGroup (userId groupId : Id)

/-- A request, and whether each of its statements succeeds. -/
structure GroupEvent where
  request : GroupRequest
  answers : (op : GroupOp) → op.Reply

def step (store : GroupStore) (event : GroupEvent) : GroupStore :=
  match event.request with
  | .createGroup userId groupName groupAvatar groupType members =>
      ((createGroup userId groupName groupAvatar groupType members.1).exec GroupStore.apply
        event.answers store).2
  | .modifyGroupMember userId groupId modifyType users =>
      ((modifyGroupMember userId groupId modifyType users.1).exec GroupStore.apply event.answers
        store).2
  | .removeGroup userId groupId =>
      ((removeGroup userId groupId).exec GroupStore.apply event.answers store).2

/-! ### The specification -/

def isActive (groupId : Id) (member : GroupMember) : Bool :=
  GroupStore.memberOf groupId member && member.status == 0

/-- The users of the active rows of a group. -/
def activeUsers (members : List GroupMember) (groupId : Id) : List Id :=
  (members.filter (isActive groupId)).map fun member => member.userId

/-- The hash, the member rows and the count of a group agree. -/
structure Agrees (store : GroupStore) (row : ImGroup) : Prop where
  cached : ∀ user, user ∈ store.hash row.id ↔ user ∈ activeUsers store.members row.id
  once : (activeUsers store.members row.id).Nodup
  counted : row.userCnt = (activeUsers store.members row.id).length

structure Consistent (store : GroupStore) : Prop where
  agrees : ∀ row ∈ store.groups.rows, Agrees store row
  available : ∀ row ∈ store.groups.rows, row.status = 0

/-! ### The condition -/

/-- The users for whom the insert of a row is prepared. -/
def prepared (answers : (op : GroupOp) → op.Reply) (groupId : Id) (users : List Id) : List Id :=
  users.filter fun user => answers (.prepareMember groupId user)

/-- No row of the users is found. -/
def NoneFound (store : GroupStore) (answers : (op : GroupOp) → op.Reply) (groupId : Id)
    (users : List Id) : Prop :=
  answers (.selectPresent groupId users) = none ∨
    ∀ member ∈ store.members, member.groupId = groupId → member.userId ∉ users

def InsertsPrepared (answers : (op : GroupOp) → op.Reply) (groupId : Id) (users : List Id) :
    Prop :=
  ∀ user ∈ prepared answers groupId users, answers (.insertMember groupId user) = true

/-- The new id has no member rows left, all rows are inserted, and the update of the count, which
was right from the start, fails. -/
def CreatesOnce (store : GroupStore) (answers : (op : GroupOp) → op.Reply) (members : List Id) :
    Prop :=
  (answers (.deleteMembers store.groups.nextKey) = true ∨
      ∀ member ∈ store.members, member.groupId ≠ store.groups.nextKey) ∧
    prepared answers store.groups.nextKey members = members ∧
    InsertsPrepared answers store.groups.nextKey members ∧
    answers (.addUserCnt store.groups.nextKey members.length) = false

/-- The users of the set without a field in the hash. -/
def strangers (store : GroupStore) (groupId : Id) (users : List Id) : List Id :=
  users.filter fun user => !(store.hash groupId).contains user

/-- None of the users who are added was a member before, their rows are inserted, and the count
is updated. -/
def AddsStrangers (store : GroupStore) (answers : (op : GroupOp) → op.Reply) (groupId : Id)
    (users : List Id) : Prop :=
  NoneFound store answers groupId users ∧ InsertsPrepared answers groupId users ∧
    (prepared answers groupId users = [] ∨
      answers (.addUserCnt groupId (prepared answers groupId users).length) = true)

def RemovesNobody (store : GroupStore) (groupId : Id) (users : List Id) : Prop :=
  ∀ user ∈ users, user ∉ activeUsers store.members groupId

def Permitted (store : GroupStore) (answers : (op : GroupOp) → op.Reply)
    (userId groupId modifyType : Id) : Prop :=
  ((selectPermission userId groupId modifyType).exec GroupStore.apply answers store).1 = true

/-- What keeps the three in agreement. Nothing is asked of the removal of a group, which is never
carried out. -/
def KeepsAgreement (store : GroupStore) (event : GroupEvent) : Prop :=
  match event.request with
  | .createGroup userId groupName groupAvatar groupType members =>
      groupName ≠ "" → members.1 ≠ [] →
        event.answers (.insertGroup ⟨groupName, groupAvatar, userId, groupType,
          members.1.length⟩) ≠ none →
        CreatesOnce store event.answers members.1
  | .modifyGroupMember userId groupId modifyType users =>
      (∃ row ∈ store.groups.rows, row.id = groupId) →
        Permitted store event.answers userId groupId modifyType →
        (modifyType = groupModifyTypeAdd →
          AddsStrangers store event.answers groupId (strangers store groupId users.1)) ∧
        (modifyType = groupModifyTypeDel → RemovesNobody store groupId users.1)
  | .removeGroup _ _ => True

section Decidable

variable (store : GroupStore) (answers : (op : GroupOp) → op.Reply) (groupId : Id)
  (users : List Id)

instance : Decidable (NoneFound store answers groupId users) :=
  inferInstanceAs (Decidable (_ ∨ _))

instance : Decidable (InsertsPrepared answers groupId users) :=
  inferInstanceAs (Decidable (∀ user ∈ prepared answers groupId users, _ = true))

instance : Decidable (CreatesOnce store answers users) :=
  inferInstanceAs (Decidable (_ ∧ _))

instance : Decidable (AddsStrangers store answers groupId users) :=
  inferInstanceAs (Decidable (_ ∧ _))

instance : Decidable (RemovesNobody store groupId users) :=
  inferInstanceAs (Decidable (∀ user ∈ users, _ ∉ _))

instance (userId modifyType : Id) :
    Decidable (Permitted store answers userId groupId modifyType) :=
  inferInstanceAs (Decidable (_ = true))

instance : ∀ event : GroupEvent, Decidable (KeepsAgreement store event)
  | ⟨.createGroup _ _ _ _ _, _⟩ => inferInstanceAs (Decidable (_ ≠ "" → _ ≠ [] → _ → _))
  | ⟨.modifyGroupMember _ groupId _ _, _⟩ =>
      inferInstanceAs (Decidable ((∃ row ∈ store.groups.rows, row.id = groupId) → _ → _ ∧ _))
  | ⟨.removeGroup _ _, _⟩ => inferInstanceAs (Decidable True)

end Decidable

/-! ### Other groups -/

/-- Only one group is touched. -/
structure Elsewhere (groupId : Id) (store later : GroupStore) : Prop where
  rows : ∀ row ∈ later.groups.rows, row.id ≠ groupId → row ∈ store.groups.rows
  status : (∀ row ∈ store.groups.rows, row.status = 0) →
    ∀ row ∈ later.groups.rows, row.status = 0
  ids : ∀ row ∈ later.groups.rows, ∃ before ∈ store.groups.rows, before.id = row.id
  hash : ∀ other, other ≠ groupId → later.hash other = store.hash other
  active : ∀ other, other ≠ groupId →
    activeUsers later.members other = activeUsers store.members other

/-- The operation is about this group, and does not add one. -/
def OnGroup (groupId : Id) : GroupOp → Prop
  | .selectGroup id | .selectCreator id | .updateStatus id | .selectMembers id
  | .setGroupMsgId id | .deleteMembers id | .selectPresent id _ | .reactivate id _
  | .prepareMember id _ | .insertMember id _ | .addUserCnt id _ | .deactivate id _
  | .hget id _ | .hset id _ | .hdel id _ | .hgetAll id => id = groupId
  | .insertGroup _ => False

variable {store later : GroupStore} {groupId : Id} {answers : (op : GroupOp) → op.Reply}

theorem Elsewhere.refl (store : GroupStore) : Elsewhere groupId store store :=
  ⟨fun _ member _ => member, id, fun row member => ⟨row, member, rfl⟩, fun _ _ => rfl,
    fun _ _ => rfl⟩

theorem Elsewhere.trans {third : GroupStore} (first : Elsewhere groupId store later)
    (second : Elsewhere groupId later third) : Elsewhere groupId store third where
  rows row member other := first.rows row (second.rows row member other) other
  status before := second.status (first.status before)
  ids row member := by
    obtain ⟨between, there, same⟩ := second.ids row member
    obtain ⟨before, found, equal⟩ := first.ids between there
    exact ⟨before, found, equal.trans same⟩
  hash other different := (second.hash other different).trans (first.hash other different)
  active other different := (second.active other different).trans (first.active other different)

theorem activeUsers_map {change : GroupMember → GroupMember} (members : List GroupMember)
    {other : Id} (keeps : ∀ member ∈ members,
      isActive other (change member) = isActive other member ∧
        (isActive other member = true → (change member).userId = member.userId)) :
    activeUsers (members.map change) other = activeUsers members other := by
  induction members with
  | nil => rfl
  | cons member rest inductionHypothesis =>
      have head := keeps member List.mem_cons_self
      have tail := inductionHypothesis fun later there => keeps later (List.mem_cons_of_mem _ there)
      simp only [activeUsers, List.map_cons, List.filter_cons, head.1] at tail ⊢
      split
      · rename_i active
        rw [List.map_cons, List.map_cons, head.2 active, tail]
      · exact tail

theorem setStatus_elsewhere (status : Nat) (users : List Id) (members : List GroupMember)
    {other : Id} (different : other ≠ groupId) :
    activeUsers (members.map (GroupStore.setStatus status groupId users)) other =
      activeUsers members other := by
  apply activeUsers_map
  intro member _
  unfold GroupStore.setStatus
  split
  · rename_i changed
    have absent : member.groupId ≠ other := changed.1 ▸ different.symm
    simp [isActive, GroupStore.memberOf, beq_false_of_ne absent]
  · exact ⟨rfl, fun _ => rfl⟩

theorem delete_elsewhere (members : List GroupMember) {other : Id} (different : other ≠ groupId) :
    activeUsers (members.filter fun member => !GroupStore.memberOf groupId member) other =
      activeUsers members other := by
  unfold activeUsers
  rw [List.filter_filter]
  refine congrArg _ (List.filter_congr fun member _ => ?_)
  by_cases same : member.groupId = other
  · simp [isActive, GroupStore.memberOf, same, different]
  · simp [isActive, GroupStore.memberOf, same]

theorem insert_elsewhere (members : List GroupMember) (userId : Id) {other : Id}
    (different : other ≠ groupId) :
    activeUsers (members ++ [⟨groupId, userId, 0⟩]) other = activeUsers members other := by
  simp [activeUsers, isActive, GroupStore.memberOf, different.symm]

theorem update_elsewhere (change : ImGroup → ImGroup) (keepsId : ∀ row, (change row).id = row.id)
    (keepsStatus : ∀ row : ImGroup, row.status = 0 → (change row).status = 0) :
    Elsewhere groupId store
      { store with groups := store.groups.update groupId change keepsId } where
  rows row member other := by
    cases GroupTable.mem_update keepsId member with
    | inl kept => exact kept.1
    | inr changed =>
        obtain ⟨before, _, found, rfl⟩ := changed
        exact absurd ((keepsId before).trans found) other
  status available row member := by
    cases GroupTable.mem_update keepsId member with
    | inl kept => exact available row kept.1
    | inr changed =>
        obtain ⟨before, there, _, rfl⟩ := changed
        exact keepsStatus before (available before there)
  ids row member := by
    cases GroupTable.mem_update keepsId member with
    | inl kept => exact ⟨row, kept.1, rfl⟩
    | inr changed =>
        obtain ⟨before, there, _, rfl⟩ := changed
        exact ⟨before, there, (keepsId before).symm⟩
  hash _ _ := rfl
  active _ _ := rfl

theorem members_elsewhere {members : List GroupMember} (same : ∀ other, other ≠ groupId →
    activeUsers members other = activeUsers store.members other) :
    Elsewhere groupId store { store with members := members } :=
  ⟨fun _ member _ => member, id, fun row member => ⟨row, member, rfl⟩, fun _ _ => rfl, same⟩

theorem hash_elsewhere (fields : List Id) :
    Elsewhere groupId store
      { store with hash := Function.update store.hash groupId fields } :=
  ⟨fun _ member _ => member, id, fun row member => ⟨row, member, rfl⟩,
    fun _ different => Function.update_of_ne different _ _, fun _ _ => rfl⟩

theorem apply_elsewhere {op : GroupOp} (onGroup : OnGroup groupId op) (answer : op.Reply)
    (store : GroupStore) : Elsewhere groupId store (store.apply op answer).2 := by
  unfold GroupStore.apply
  split
  · exact .refl store
  · exact .refl store
  · exact onGroup ▸ update_elsewhere ImGroup.clearStatus ImGroup.clearStatus_id fun _ _ => rfl
  · exact .refl store
  · exact onGroup.elim
  · exact onGroup ▸ members_elsewhere fun _ => delete_elsewhere store.members
  · exact .refl store
  · exact onGroup ▸ members_elsewhere fun _ => setStatus_elsewhere 0 _ store.members
  · exact onGroup ▸ members_elsewhere fun _ => insert_elsewhere store.members _
  · exact onGroup ▸ update_elsewhere (ImGroup.addUserCnt _) (ImGroup.addUserCnt_id _) fun _ => id
  · exact onGroup ▸ members_elsewhere fun _ => setStatus_elsewhere 1 _ store.members
  · exact .refl store
  · exact onGroup ▸ hash_elsewhere _
  · exact onGroup ▸ hash_elsewhere _
  · exact .refl store
  · exact .refl store

/-! ### Programs about one group -/

theorem request_onGroup (op : GroupOp) (onGroup : OnGroup groupId op) :
    (request op).Issues (OnGroup groupId) :=
  .perform onGroup

theorem forUsers_onGroup (op : Id → GroupOp) (onGroup : ∀ user, OnGroup groupId (op user))
    (users : List Id) : (forUsers op users).Issues (OnGroup groupId) := by
  induction users with
  | nil => trivial
  | cons user rest inductionHypothesis =>
      exact (Prog.Issues.perform (onGroup user)).bind fun _ => inductionHypothesis

theorem insertUsers_onGroup (hasUser users : List Id) :
    (insertUsers groupId hasUser users).Issues (OnGroup groupId) := by
  induction users with
  | nil => trivial
  | cons user rest inductionHypothesis =>
      unfold insertUsers
      split
      · exact inductionHypothesis.bind fun _ => trivial
      · apply (request_onGroup (.prepareMember groupId user) rfl).bind
        intro isPrepared
        split
        · apply (request_onGroup (.insertMember groupId user) rfl).bind
          exact fun _ => inductionHypothesis.bind fun _ => trivial
        · exact inductionHypothesis

theorem insertNewMember_onGroup (users : List Id) :
    (insertNewMember groupId users).Issues (OnGroup groupId) := by
  unfold insertNewMember
  split
  · trivial
  · apply (request_onGroup (.selectPresent groupId users) rfl).bind
    intro found
    have reactivates : (reactivateUsers groupId (found.getD [])).Issues (OnGroup groupId) := by
      unfold reactivateUsers
      split
      · trivial
      · exact request_onGroup _ rfl
    apply reactivates.bind
    intro _
    apply (insertUsers_onGroup (found.getD []) users).bind
    intro inserted
    have raises : (raiseUserCnt groupId inserted.2).Issues (OnGroup groupId) := by
      unfold raiseUserCnt
      split
      · trivial
      · exact request_onGroup _ rfl
    apply raises.bind
    intro _
    exact (forUsers_onGroup (.hset groupId) (fun _ => rfl) inserted.1).bind fun _ => trivial

theorem clearGroupMember_onGroup : (clearGroupMember groupId).Issues (OnGroup groupId) := by
  apply (request_onGroup (.deleteMembers groupId) rfl).bind
  intro _
  apply (request_onGroup (.hgetAll groupId) rfl).bind
  exact fun users => forUsers_onGroup (.hdel groupId) (fun _ => rfl) users

theorem removeMember_onGroup (users : List Id) :
    (removeMember groupId users).Issues (OnGroup groupId) := by
  unfold removeMember
  split
  · trivial
  · apply (request_onGroup (.deactivate groupId users) rfl).bind
    intro _
    apply (forUsers_onGroup (.hdel groupId) (fun _ => rfl) users).bind
    intro _
    exact (request_onGroup (.hgetAll groupId) rfl).bind fun _ => trivial

theorem removeRepeatUser_onGroup (users : List Id) :
    (removeRepeatUser groupId users).Issues (OnGroup groupId) := by
  induction users with
  | nil => trivial
  | cons user rest inductionHypothesis =>
      apply (request_onGroup (.hget groupId user) rfl).bind
      intro isMember
      split
      · exact inductionHypothesis
      · exact inductionHypothesis.bind fun _ => trivial

theorem selectPermission_onGroup (userId modifyType : Id) :
    (selectPermission userId groupId modifyType).Issues (OnGroup groupId) := by
  unfold selectPermission
  split
  · trivial
  · exact (request_onGroup (.selectGroup groupId) rfl).bind fun _ => trivial

theorem modifyGroupMember_onGroup (userId groupId modifyType : Id) (users : List Id) :
    (modifyGroupMember userId groupId modifyType users).Issues (OnGroup groupId) := by
  apply (selectPermission_onGroup userId modifyType).bind
  intro permitted
  split
  · split
    · apply (removeRepeatUser_onGroup users).bind
      intro users
      apply (insertNewMember_onGroup users).bind
      intro _
      exact (request_onGroup (.hgetAll groupId) rfl).bind fun _ => trivial
    · split
      · exact removeMember_onGroup users
      · trivial
  · trivial

theorem exec_elsewhere {α : Type} {prog : GroupProg α} (issues : prog.Issues (OnGroup groupId))
    (answers : (op : GroupOp) → op.Reply) (store : GroupStore) :
    Elsewhere groupId store (prog.exec GroupStore.apply answers store).2 :=
  issues.exec Elsewhere.refl Elsewhere.trans
    (fun _ answer store onGroup => apply_elsewhere onGroup answer store) answers store

/-- Agreement is only left to show for the group itself. -/
theorem consistent_of_elsewhere
    (agrees : ∀ row ∈ store.groups.rows, row.id ≠ groupId → Agrees store row)
    (available : ∀ row ∈ store.groups.rows, row.status = 0)
    (elsewhere : Elsewhere groupId store later)
    (group : ∀ row ∈ later.groups.rows, row.id = groupId → Agrees later row) :
    Consistent later := by
  refine ⟨?_, elsewhere.status available⟩
  intro row member
  by_cases same : row.id = groupId
  · exact group row member same
  · have before := agrees row (elsewhere.rows row member same) same
    have hash := elsewhere.hash row.id same
    have active := elsewhere.active row.id same
    exact ⟨hash ▸ active ▸ before.cached, active ▸ before.once, active ▸ before.counted⟩

/-! ### What the programs do -/

def setFields (hash : Id → List Id) (groupId : Id) (users : List Id) : Id → List Id :=
  users.foldl (fun hash user => GroupStore.setField hash groupId user) hash

def delFields (hash : Id → List Id) (groupId : Id) (users : List Id) : Id → List Id :=
  users.foldl (fun hash user => GroupStore.delField hash groupId user) hash

theorem mem_setFields (hash : Id → List Id) (users : List Id) (user : Id) :
    user ∈ setFields hash groupId users groupId ↔ user ∈ hash groupId ∨ user ∈ users := by
  induction users generalizing hash with
  | nil => simp [setFields]
  | cons first rest inductionHypothesis =>
      apply (inductionHypothesis _).trans
      simp only [GroupStore.setField, Function.update_self, List.mem_insert_iff, List.mem_cons]
      tauto

theorem mem_delFields (hash : Id → List Id) (users : List Id) (user : Id) :
    user ∈ delFields hash groupId users groupId ↔ user ∈ hash groupId ∧ user ∉ users := by
  induction users generalizing hash with
  | nil => simp [delFields]
  | cons first rest inductionHypothesis =>
      apply (inductionHypothesis _).trans
      simp only [GroupStore.delField, Function.update_self, List.mem_filter, bne_iff_ne,
        List.mem_cons]
      tauto

theorem exec_hset (users : List Id) (store : GroupStore) :
    (forUsers (.hset groupId) users).exec GroupStore.apply answers store =
      ((), { store with hash := setFields store.hash groupId users }) := by
  induction users generalizing store with
  | nil => rfl
  | cons user rest inductionHypothesis => exact inductionHypothesis _

theorem exec_hdel (users : List Id) (store : GroupStore) :
    (forUsers (.hdel groupId) users).exec GroupStore.apply answers store =
      ((), { store with hash := delFields store.hash groupId users }) := by
  induction users generalizing store with
  | nil => rfl
  | cons user rest inductionHypothesis => exact inductionHypothesis _

/-- The rows of users for whom the insert goes through. -/
def newRows (answers : (op : GroupOp) → op.Reply) (groupId : Id) (users : List Id) :
    List GroupMember :=
  (users.filter fun user => answers (.insertMember groupId user)).map (⟨groupId, ·, 0⟩)

theorem apply_prepareMember (store : GroupStore) (userId : Id) (answer : Bool) :
    store.apply (.prepareMember groupId userId) answer = (answer, store) := by
  cases answer <;> rfl

theorem apply_insertMember (store : GroupStore) (userId : Id) :
    (store.apply (.insertMember groupId userId) (answers (.insertMember groupId userId))).2 =
      ⟨store.groups, store.members ++ newRows answers groupId [userId], store.hash⟩ := by
  unfold newRows
  cases inserted : answers (.insertMember groupId userId) with
  | false => simp [GroupStore.apply, inserted]
  | true => simp [GroupStore.apply, inserted]

theorem newRows_append (first second : List Id) :
    newRows answers groupId (first ++ second) =
      newRows answers groupId first ++ newRows answers groupId second := by
  simp [newRows]

theorem exec_insertUsers (users : List Id) (store : GroupStore) :
    (insertUsers groupId [] users).exec GroupStore.apply answers store =
      ((prepared answers groupId users, (prepared answers groupId users).length),
        ⟨store.groups,
          store.members ++ newRows answers groupId (prepared answers groupId users),
          store.hash⟩) := by
  induction users generalizing store with
  | nil => simp [insertUsers, prepared, newRows]
  | cons user rest inductionHypothesis =>
      unfold insertUsers
      rw [if_neg List.not_mem_nil]
      cases isPrepared : answers (.prepareMember groupId user) with
      | false =>
          have skipped :
              prepared answers groupId (user :: rest) = prepared answers groupId rest := by
            simp [prepared, isPrepared]
          rw [skipped]
          simp only [Prog.perform_bind, Prog.exec_call, apply_prepareMember, isPrepared,
            Bool.false_eq_true, if_false]
          exact inductionHypothesis store
      | true =>
          have taken : prepared answers groupId (user :: rest) =
              [user] ++ prepared answers groupId rest := by
            simp [prepared, isPrepared]
          rw [taken, newRows_append]
          simp only [Prog.perform_bind, Prog.exec_call, apply_prepareMember, isPrepared, if_true,
            Prog.exec_bind, apply_insertMember, inductionHypothesis]
          simp

def raised (answers : (op : GroupOp) → op.Reply) (groupId : Id) (count : Nat)
    (groups : GroupTable) : GroupTable :=
  if count ≠ 0 ∧ answers (.addUserCnt groupId count) = true then
    groups.update groupId (ImGroup.addUserCnt count) (ImGroup.addUserCnt_id count)
  else groups

theorem exec_raiseUserCnt (count : Nat) (store : GroupStore) :
    ((raiseUserCnt groupId count).exec GroupStore.apply answers store).2 =
      ⟨raised answers groupId count store.groups, store.members, store.hash⟩ := by
  unfold raiseUserCnt raised
  by_cases zero : count = 0
  · rw [if_pos zero, if_neg fun counts => counts.1 zero]
    rfl
  · rw [if_neg zero, Prog.exec_perform]
    cases counted : answers (.addUserCnt groupId count) with
    | false => simp [GroupStore.apply]
    | true => simp [GroupStore.apply, zero]

theorem selectPresent_none {users : List Id} (none : NoneFound store answers groupId users) :
    store.apply (.selectPresent groupId users) (answers (.selectPresent groupId users)) =
        (.none, store) ∨
      store.apply (.selectPresent groupId users) (answers (.selectPresent groupId users)) =
        (.some [], store) := by
  cases found : answers (.selectPresent groupId users) with
  | none => exact .inl rfl
  | some rows =>
      refine .inr ?_
      have absent := none.resolve_left (by simp [found])
      have empty : store.members.filter (fun member => GroupStore.memberOf groupId member &&
          users.contains member.userId) = [] := by
        apply List.filter_eq_nil_iff.mpr
        intro member there
        have notUser := absent member there
        simpa [GroupStore.memberOf] using notUser
      simp only [GroupStore.apply, empty, List.map_nil]

/-- When none of the users had a row before. -/
theorem exec_insertNewMember {users : List Id} (valid : groupId ≠ invalidValue)
    (nonempty : users ≠ []) (none : NoneFound store answers groupId users) :
    ((insertNewMember groupId users).exec GroupStore.apply answers store).2 =
      ⟨raised answers groupId (prepared answers groupId users).length store.groups,
        store.members ++ newRows answers groupId (prepared answers groupId users),
        setFields store.hash groupId (prepared answers groupId users)⟩ := by
  have idle : reactivateUsers groupId [] = .done false := if_pos rfl
  unfold insertNewMember
  rw [if_neg (not_or.mpr ⟨valid, nonempty⟩), Prog.perform_bind, Prog.exec_call]
  cases selectPresent_none none with
  | inl failed =>
      rw [failed]
      simp only [Option.getD_none, idle, Prog.pure_eq_done, Prog.done_bind, Prog.exec_bind,
        exec_insertUsers, exec_raiseUserCnt, exec_hset, Prog.exec_done]
  | inr empty =>
      rw [empty]
      simp only [Option.getD_some, idle, Prog.pure_eq_done, Prog.done_bind, Prog.exec_bind,
        exec_insertUsers, exec_raiseUserCnt, exec_hset, Prog.exec_done]

/-! ### Agreement after each request -/

theorem raised_userCnt {count : Nat} {groups : GroupTable} {row : ImGroup}
    (member : row ∈ (raised answers groupId count groups).rows) (same : row.id = groupId) :
    ∃ before ∈ groups.rows, before.id = groupId ∧ row.userCnt = before.userCnt +
      if answers (.addUserCnt groupId count) = true then count else 0 := by
  unfold raised at member
  split at member
  · rename_i counts
    cases GroupTable.mem_update (ImGroup.addUserCnt_id count) member with
    | inl kept => exact absurd same kept.2
    | inr changed =>
        obtain ⟨before, there, found, rfl⟩ := changed
        exact ⟨before, there, found, by rw [if_pos counts.2]; rfl⟩
  · rename_i kept
    refine ⟨row, member, same, ?_⟩
    split
    · rename_i counted
      have zero : count = 0 := by_contra fun some => kept ⟨some, counted⟩
      rw [zero, Nat.add_zero]
    · rfl

theorem activeUsers_append (members : List GroupMember) (users : List Id) :
    activeUsers (members ++ users.map (⟨groupId, ·, 0⟩)) groupId =
      activeUsers members groupId ++ users := by
  simp [activeUsers, isActive, GroupStore.memberOf, List.filter_map, Function.comp_def]

theorem newRows_of_inserts {users : List Id} (inserts : InsertsPrepared answers groupId users) :
    newRows answers groupId (prepared answers groupId users) =
      (prepared answers groupId users).map (⟨groupId, ·, 0⟩) :=
  congrArg _ (List.filter_eq_self.mpr inserts)

theorem exec_removeRepeatUser (users : List Id) :
    (removeRepeatUser groupId users).exec GroupStore.apply answers store =
      (strangers store groupId users, store) := by
  induction users with
  | nil => rfl
  | cons user rest inductionHypothesis =>
      unfold removeRepeatUser
      simp only [Prog.perform_bind, Prog.exec_call]
      by_cases found :
          (store.apply (.hget groupId user) (answers (.hget groupId user))).1 = true
      · have isMember : (store.hash groupId).contains user = true := found
        rw [if_pos found, strangers, List.filter_cons, if_neg (by simpa using isMember)]
        exact inductionHypothesis
      · have stranger : ¬(store.hash groupId).contains user = true := found
        rw [if_neg found, strangers, List.filter_cons, if_pos (by simpa using stranger),
          Prog.exec_bind]
        change (user :: ((removeRepeatUser groupId rest).exec GroupStore.apply answers store).1,
          ((removeRepeatUser groupId rest).exec GroupStore.apply answers store).2) = _
        rw [inductionHypothesis]
        rfl

/-- New users are appended to the hash and to the active rows alike. -/
theorem addMember_agrees {users : List Id} (distinct : users.Nodup)
    (agrees : ∀ row ∈ store.groups.rows, row.id = groupId → Agrees store row)
    (adds : AddsStrangers store answers groupId (strangers store groupId users)) :
    let later := ((addMember groupId users).exec GroupStore.apply answers store).2
    ∀ row ∈ later.groups.rows, row.id = groupId → Agrees later row := by
  intro later row member same
  have result : later = ((insertNewMember groupId (strangers store groupId users)).exec
      GroupStore.apply answers store).2 := by
    simp only [later, addMember, Prog.exec_bind, exec_removeRepeatUser]
    rfl
  rw [result] at member ⊢
  by_cases nothing : groupId = invalidValue ∨ strangers store groupId users = []
  · rw [insertNewMember, if_pos nothing] at member ⊢
    exact agrees row member same
  · obtain ⟨valid, nonempty⟩ := not_or.mp nothing
    obtain ⟨none, inserts, counts⟩ := adds
    rw [exec_insertNewMember valid nonempty none, newRows_of_inserts inserts] at member ⊢
    obtain ⟨before, there, found, userCnt⟩ := raised_userCnt member same
    have agreed := agrees before there found
    have raisedBy : row.userCnt = before.userCnt +
        (prepared answers groupId (strangers store groupId users)).length := by
      rw [userCnt]
      split
      · rfl
      · rename_i kept
        rw [counts.resolve_right kept]
        rfl
    have stranger : ∀ user ∈ prepared answers groupId (strangers store groupId users),
        user ∉ activeUsers store.members groupId := by
      intro user added active
      have notCached : user ∉ store.hash groupId := by
        simpa using (List.mem_filter.mp (List.mem_of_mem_filter added)).2
      exact notCached ((found ▸ agreed.cached user).mpr active)
    refine ⟨?_, ?_, ?_⟩
    · intro user
      rw [same, activeUsers_append, List.mem_append]
      apply (mem_setFields _ _ _).trans
      exact or_congr_left (found ▸ agreed.cached user)
    · rw [same, activeUsers_append]
      have distinctPrepared :
          (prepared answers groupId (strangers store groupId users)).Nodup :=
        (distinct.filter _).filter _
      apply (found ▸ agreed.once).append distinctPrepared
      intro user active added
      exact stranger user added active
    · rw [same, activeUsers_append, List.length_append, raisedBy, agreed.counted, found]

theorem deactivate_nobody {users : List Id} (nobody : RemovesNobody store groupId users) :
    activeUsers (store.members.map (GroupStore.setStatus 1 groupId users)) groupId =
      activeUsers store.members groupId := by
  apply activeUsers_map
  intro member there
  unfold GroupStore.setStatus
  split
  · rename_i removed
    have inactive : isActive groupId member = false := by
      by_contra active
      apply nobody member.userId removed.2
      exact List.mem_map.mpr ⟨member, List.mem_filter.mpr ⟨there, by simpa using active⟩, rfl⟩
    exact ⟨by rw [inactive]; simp [isActive], fun active => absurd active (by simp [inactive])⟩
  · exact ⟨rfl, fun _ => rfl⟩

/-- Without an active member in the set, neither the hash nor the active rows change. -/
theorem removeMember_agrees {users : List Id} (nobody : RemovesNobody store groupId users)
    (agrees : ∀ row ∈ store.groups.rows, row.id = groupId → Agrees store row) :
    let later := ((removeMember groupId users).exec GroupStore.apply answers store).2
    ∀ row ∈ later.groups.rows, row.id = groupId → Agrees later row := by
  intro later row member same
  by_cases empty : users = []
  · have unchanged : later = store := by
      simp only [later, removeMember, if_pos empty]
      rfl
    rw [unchanged] at member ⊢
    exact agrees row member same
  · have result : later = ⟨store.groups,
        (store.apply (.deactivate groupId users) (answers (.deactivate groupId users))).2.members,
        delFields store.hash groupId users⟩ := by
      simp only [later, removeMember, if_neg empty, Prog.perform_bind, Prog.exec_call,
        Prog.exec_bind, exec_hdel]
      cases answers (.deactivate groupId users) <;> rfl
    have active : activeUsers (store.apply (.deactivate groupId users)
        (answers (.deactivate groupId users))).2.members groupId =
          activeUsers store.members groupId := by
      cases answers (.deactivate groupId users) with
      | false => rfl
      | true => exact deactivate_nobody nobody
    rw [result] at member ⊢
    have before := agrees row member same
    refine ⟨?_, ?_, ?_⟩
    · intro user
      rw [same]
      apply (mem_delFields _ _ _).trans
      rw [active, ← same, before.cached user]
      constructor
      · exact fun kept => kept.1
      · intro isActive
        exact ⟨isActive, fun removed => nobody user removed (same ▸ isActive)⟩
    · rw [same, active, ← same]
      exact before.once
    · rw [same, active, ← same]
      exact before.counted

/-- The status of a group is 0 already, so its removal has no effect. -/
theorem removeGroup_consistent (consistent : Consistent store) (userId groupId : Id) :
    Consistent ((removeGroup userId groupId).exec GroupStore.apply answers store).2 := by
  have noStatus : ((store.rowsOf groupId).any fun row => row.status != 0) = false := by
    apply List.any_eq_false.mpr
    intro row member
    simp [consistent.available row (List.mem_of_mem_filter member)]
  have untouched : Consistent { store with
      groups := store.groups.update groupId ImGroup.clearStatus ImGroup.clearStatus_id } := by
    apply consistent_of_elsewhere (fun row member _ => consistent.agrees row member)
      consistent.available (update_elsewhere ImGroup.clearStatus ImGroup.clearStatus_id fun _ _ => rfl)
    intro row member same
    cases GroupTable.mem_update ImGroup.clearStatus_id member with
    | inl kept => exact absurd same kept.2
    | inr changed =>
        obtain ⟨before, there, _, rfl⟩ := changed
        have agreed := consistent.agrees before there
        exact ⟨agreed.cached, agreed.once, agreed.counted⟩
  unfold removeGroup
  rw [Prog.perform_bind, Prog.exec_call]
  cases answers (.selectCreator groupId) with
  | none => exact consistent
  | some proposed =>
      simp only [GroupStore.apply]
      split
      · rw [Prog.perform_bind, Prog.exec_call]
        cases answers (.updateStatus groupId) with
        | false => exact consistent
        | true =>
            simp only [GroupStore.apply, noStatus]
            exact untouched
      · exact consistent

theorem exec_selectPermission (userId modifyType : Id) :
    ((selectPermission userId groupId modifyType).exec GroupStore.apply answers store).2 =
      store := by
  unfold selectPermission
  split
  · rfl
  · simp only [Prog.perform_bind, Prog.exec_call]
    cases answers (.selectGroup groupId) <;> rfl

/-- What is left of a permitted request is the operation itself. -/
theorem exec_modifyGroupMember {userId modifyType : Id} (users : List Id)
    (permitted : Permitted store answers userId groupId modifyType) :
    (modifyGroupMember userId groupId modifyType users).exec GroupStore.apply answers store =
      (if modifyType = groupModifyTypeAdd then addMember groupId users
        else if modifyType = groupModifyTypeDel then removeMember groupId users
        else return (false, [])).exec GroupStore.apply answers store := by
  unfold Permitted at permitted
  unfold modifyGroupMember
  rw [Prog.exec_bind, exec_selectPermission, if_pos permitted]

theorem modifyGroupMember_agrees {userId modifyType : Id} {users : List Id}
    (distinct : users.Nodup)
    (agrees : ∀ row ∈ store.groups.rows, row.id = groupId → Agrees store row)
    (keeps : Permitted store answers userId groupId modifyType →
      (modifyType = groupModifyTypeAdd →
        AddsStrangers store answers groupId (strangers store groupId users)) ∧
      (modifyType = groupModifyTypeDel → RemovesNobody store groupId users)) :
    let later := ((modifyGroupMember userId groupId modifyType users).exec GroupStore.apply
      answers store).2
    ∀ row ∈ later.groups.rows, row.id = groupId → Agrees later row := by
  intro later
  by_cases permitted : Permitted store answers userId groupId modifyType
  · have result := exec_modifyGroupMember users permitted
    split at result
    · rename_i isAdd
      simp only [later, result]
      exact addMember_agrees distinct agrees ((keeps permitted).1 isAdd)
    · split at result
      · rename_i isDel
        simp only [later, result]
        exact removeMember_agrees ((keeps permitted).2 isDel) agrees
      · simp only [later, result]
        exact agrees
  · have unchanged : later = store := by
      unfold Permitted at permitted
      simp only [later, modifyGroupMember, Prog.exec_bind, exec_selectPermission]
      rw [if_neg permitted]
      rfl
    rw [unchanged]
    exact agrees

theorem modifyGroupMember_consistent (consistent : Consistent store)
    (userId groupId modifyType : Id) (users : UserSet)
    (keeps : KeepsAgreement store ⟨.modifyGroupMember userId groupId modifyType users, answers⟩) :
    Consistent ((modifyGroupMember userId groupId modifyType users.1).exec GroupStore.apply answers
      store).2 := by
  have elsewhere :=
    exec_elsewhere (modifyGroupMember_onGroup userId groupId modifyType users.1) answers store
  apply consistent_of_elsewhere (fun row member _ => consistent.agrees row member)
    consistent.available elsewhere
  intro row member same
  obtain ⟨before, there, equal⟩ := elsewhere.ids row member
  have kept := keeps ⟨before, there, equal.trans same⟩
  have distinct : users.1.Nodup := users.2.imp fun less => Nat.ne_of_lt less
  exact modifyGroupMember_agrees distinct (fun row member _ => consistent.agrees row member) kept
    row member same

/-! ### New groups -/

/-- Nothing is left of a group whose rows and fields are cleared. -/
theorem exec_clearGroupMember (store : GroupStore) :
    ((clearGroupMember groupId).exec GroupStore.apply answers store).2 =
      ⟨store.groups,
        (store.apply (.deleteMembers groupId) (answers (.deleteMembers groupId))).2.members,
        delFields store.hash groupId (store.hash groupId)⟩ := by
  unfold clearGroupMember
  simp only [Prog.perform_bind, Prog.exec_call]
  cases answers (.deleteMembers groupId) <;> simp [GroupStore.apply, exec_hdel]

/-- What `createGroup` does once the row of the group is there. -/
def fillGroup (groupId : Id) (members : List Id) : GroupProg (Id × List Id) := do
  let _ ← request (.setGroupMsgId groupId)
  clearGroupMember groupId
  let (_, members) ← insertNewMember groupId members
  return (groupId, members)

theorem fillGroup_onGroup (groupId : Id) (members : List Id) :
    (fillGroup groupId members).Issues (OnGroup groupId) := by
  apply (request_onGroup (.setGroupMsgId groupId) rfl).bind
  intro _
  apply clearGroupMember_onGroup.bind
  intro _
  exact (insertNewMember_onGroup members).bind fun _ => trivial

theorem exec_fillGroup (members : List Id) (store : GroupStore) :
    ((fillGroup groupId members).exec GroupStore.apply answers store).2 =
      ((insertNewMember groupId members).exec GroupStore.apply answers
        ((clearGroupMember groupId).exec GroupStore.apply answers store).2).2 := by
  unfold fillGroup
  simp only [Prog.perform_bind, Prog.exec_call, Prog.exec_bind]
  cases answers (.setGroupMsgId groupId) <;> rfl

/-- The rows of a new group are its members, and the count of the group says so. -/
theorem fillGroup_agrees {members : List Id} (distinct : members.Nodup) (nonempty : members ≠ [])
    (valid : groupId ≠ invalidValue)
    (counted : ∀ row ∈ store.groups.rows, row.id = groupId → row.userCnt = members.length)
    (cleared : answers (.deleteMembers groupId) = true ∨
      ∀ member ∈ store.members, member.groupId ≠ groupId)
    (all : prepared answers groupId members = members)
    (inserts : InsertsPrepared answers groupId members)
    (once : answers (.addUserCnt groupId members.length) = false) :
    let later := ((fillGroup groupId members).exec GroupStore.apply answers store).2
    ∀ row ∈ later.groups.rows, row.id = groupId → Agrees later row := by
  intro later
  have absent : ∀ member ∈ (store.apply (.deleteMembers groupId)
      (answers (.deleteMembers groupId))).2.members, member.groupId ≠ groupId := by
    cases deleted : answers (.deleteMembers groupId) with
    | false => exact cleared.resolve_left (by simp [deleted])
    | true =>
        intro member kept
        have other := (List.mem_filter.mp kept).2
        simpa [GroupStore.memberOf] using other
  have noneActive : activeUsers (store.apply (.deleteMembers groupId)
      (answers (.deleteMembers groupId))).2.members groupId = [] := by
    unfold activeUsers
    rw [List.map_eq_nil_iff]
    apply List.filter_eq_nil_iff.mpr
    intro member there
    simp [isActive, GroupStore.memberOf, absent member there]
  have result : later = ⟨store.groups,
      (store.apply (.deleteMembers groupId) (answers (.deleteMembers groupId))).2.members ++
        members.map (⟨groupId, ·, 0⟩),
      setFields (delFields store.hash groupId (store.hash groupId)) groupId members⟩ := by
    have rows := newRows_of_inserts inserts
    rw [all] at rows
    have none : NoneFound ⟨store.groups,
        (store.apply (.deleteMembers groupId) (answers (.deleteMembers groupId))).2.members,
        delFields store.hash groupId (store.hash groupId)⟩ answers groupId members :=
      .inr fun member there same => absurd same (absent member there)
    simp only [later, exec_fillGroup, exec_clearGroupMember]
    rw [exec_insertNewMember valid nonempty none, all, rows]
    simp [raised, once]
  rw [result]
  intro row member same
  refine ⟨?_, ?_, ?_⟩
  · intro user
    rw [same, activeUsers_append, noneActive, List.nil_append]
    apply (mem_setFields _ _ _).trans
    rw [mem_delFields]
    tauto
  · rw [same, activeUsers_append, noneActive, List.nil_append]
    exact distinct
  · rw [same, activeUsers_append, noneActive, List.nil_append]
    exact counted row member same

theorem createGroup_consistent (consistent : Consistent store) (userId : Id)
    (groupName groupAvatar : String) (groupType : Nat) (members : UserSet)
    (keeps : KeepsAgreement store
      ⟨.createGroup userId groupName groupAvatar groupType members, answers⟩) :
    Consistent ((createGroup userId groupName groupAvatar groupType members.1).exec
      GroupStore.apply answers store).2 := by
  unfold createGroup
  split
  · exact consistent
  · rename_i named
    split
    · exact consistent
    · rename_i nonempty
      rw [Prog.perform_bind, Prog.exec_call]
      cases inserted : answers (.insertGroup ⟨groupName, groupAvatar, userId, groupType,
          members.1.length⟩) with
      | none => exact consistent
      | some proposed =>
          obtain ⟨cleared, all, inserts, once⟩ := keeps named nonempty (by simp [inserted])
          have distinct : members.1.Nodup := members.2.imp fun less => Nat.ne_of_lt less
          have elsewhere := exec_elsewhere (fillGroup_onGroup store.groups.nextKey members.1)
            answers ⟨store.groups.insert ⟨groupName, groupAvatar, userId, groupType,
              members.1.length⟩, store.members, store.hash⟩
          apply consistent_of_elsewhere _ _ elsewhere
          · have counted : ∀ row ∈ (store.groups.insert ⟨groupName, groupAvatar, userId,
                groupType, members.1.length⟩).rows, row.id = store.groups.nextKey →
                  row.userCnt = members.1.length := by
              intro row member same
              cases GroupTable.mem_insert member with
              | inl before => exact absurd same before.2
              | inr new => rw [new]
            exact fillGroup_agrees distinct nonempty (Nat.ne_of_gt store.groups.positive) counted
              cleared all inserts once
          · intro row member other
            cases GroupTable.mem_insert member with
            | inl before =>
                have agreed := consistent.agrees row before.1
                exact ⟨agreed.cached, agreed.once, agreed.counted⟩
            | inr new => exact absurd (congrArg ImGroup.id new) other
          · intro row member
            cases GroupTable.mem_insert member with
            | inl before => exact consistent.available row before.1
            | inr new => rw [new]

/-! ### Runs in agreement -/

theorem step_consistent (consistent : Consistent store) (event : GroupEvent)
    (keeps : KeepsAgreement store event) : Consistent (step store event) := by
  obtain ⟨request, answers⟩ := event
  cases request with
  | createGroup userId groupName groupAvatar groupType members =>
      exact createGroup_consistent consistent userId groupName groupAvatar groupType members keeps
  | modifyGroupMember userId groupId modifyType users =>
      exact modifyGroupMember_consistent consistent userId groupId modifyType users keeps
  | removeGroup userId groupId => exact removeGroup_consistent consistent userId groupId

/-- In every run whose requests all meet the condition, the hash, the rows and the count of every
group agree. -/
theorem membership_consistent (start : GroupStore) (consistent : Consistent start)
    (events : List GroupEvent) (keeps : Meets step KeepsAgreement start events) :
    ∀ row ∈ (run step start events).groups.rows, Agrees (run step start events) row :=
  ((Lib.reach_run events keeps).invariant Consistent consistent fun _ event before met =>
    step_consistent before event met).agrees

theorem consistent_empty : Consistent .empty :=
  ⟨fun _ member => (by cases member), fun _ member => (by cases member)⟩

/-- Every statement succeeds. -/
def accepting : (op : GroupOp) → op.Reply
  | .selectGroup _ => some []
  | .selectCreator _ => some []
  | .updateStatus _ => true
  | .selectMembers _ => some []
  | .insertGroup _ => some 0
  | .setGroupMsgId _ => true
  | .deleteMembers _ => true
  | .selectPresent _ _ => some []
  | .reactivate _ _ => true
  | .prepareMember _ _ => true
  | .insertMember _ _ => true
  | .addUserCnt _ _ => true
  | .deactivate _ _ => true
  | .hget _ _ => true
  | .hset _ _ => true
  | .hdel _ _ => true
  | .hgetAll _ => []

/-- Only the update of the count fails. -/
def withoutCount : (op : GroupOp) → op.Reply
  | .addUserCnt _ _ => false
  | op => accepting op

/-- A group of two, to which a third user is added, and from which a stranger is removed. -/
def growingGroup : List GroupEvent :=
  [⟨.createGroup 1 "name" "avatar" groupTypeNormal ⟨[7, 8], by decide⟩, withoutCount⟩,
    ⟨.modifyGroupMember 1 1 groupModifyTypeAdd ⟨[8, 9], by decide⟩, accepting⟩,
    ⟨.modifyGroupMember 1 1 groupModifyTypeDel ⟨[10], by decide⟩, accepting⟩,
    ⟨.removeGroup 1 1, accepting⟩]

theorem membership_consistent_growing :
    ∃ row ∈ (run step .empty growingGroup).groups.rows,
      Agrees (run step .empty growingGroup) row := by
  have stored : ⟨1, 1, groupTypeNormal, 3, 0⟩ ∈ (run step .empty growingGroup).groups.rows := by
    decide
  exact ⟨_, stored,
    membership_consistent .empty consistent_empty growingGroup (by decide) _ stored⟩

example : (run step .empty growingGroup).groups.rows.map (fun row => row.userCnt) = [3] := by
  decide

/-! ### A new group -/

def newGroup : List GroupEvent :=
  [⟨.createGroup 1 "name" "avatar" groupTypeNormal ⟨[7], by decide⟩, accepting⟩]

/-- The count of a new group with one member is 2. -/
theorem count_of_new_group :
    ∃ row ∈ (run step .empty newGroup).groups.rows, row.userCnt = 2 ∧
      activeUsers (run step .empty newGroup).members row.id = [7] ∧
      ¬Agrees (run step .empty newGroup) row := by
  refine ⟨⟨1, 1, groupTypeNormal, 2, 0⟩, List.mem_singleton.mpr rfl, rfl, rfl, ?_⟩
  intro agrees
  have counted : 2 = 1 := agrees.counted
  cases counted

end GroupMembers

end AChat.DbProxy
