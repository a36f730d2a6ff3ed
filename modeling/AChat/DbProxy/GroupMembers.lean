import AChat.DbProxy.GroupModel
import AChat.DbProxy.MessageService
import AChat.Lib.AutoTable

/-!
Owns how the DB proxy creates groups and changes their members: the group table, the
member table and the member hash in Redis, and the operations on them statement by
statement.

Whether a statement succeeds is proposed from outside; what it then finds and changes
comes from the tables. The slave is equal to the master, connections are there, and
Redis does not fail.
-/

namespace AChat.DbProxy

open Lib (AutoTable Prog)

namespace GroupMembers

/-! ### Operations -/

/-- What a new row of `IMGroup` is made of. -/
structure NewGroup where
  name : String
  avatar : String
  creator : Id
  type : Nat
  userCnt : Nat
deriving DecidableEq, Repr

inductive GroupOp where
  | selectGroup (groupId : Id)
  | selectCreator (groupId : Id)
  | updateStatus (groupId : Id)
  | selectMembers (groupId : Id)
  | insertGroup (group : NewGroup)
  | setGroupMsgId (groupId : Id)
  | deleteMembers (groupId : Id)
  | selectPresent (groupId : Id) (users : List Id)
  | reactivate (groupId : Id) (users : List Id)
  | prepareMember (groupId userId : Id)
  | insertMember (groupId userId : Id)
  | addUserCnt (groupId : Id) (count : Nat)
  | deactivate (groupId : Id) (users : List Id)
  | hget (groupId userId : Id)
  | hset (groupId userId : Id)
  | hdel (groupId userId : Id)
  | hgetAll (groupId : Id)
deriving DecidableEq, Repr

/-- A query that fails has no result, and an update tells whether it changed a row. -/
abbrev GroupOp.Reply : GroupOp → Type
  | .selectGroup _ => Option (List GroupRow)
  | .selectCreator _ => Option (List Id)
  | .selectMembers _ => Option (List Id)
  | .selectPresent _ _ => Option (List Id)
  | .insertGroup _ => Option Id
  | .hgetAll _ => List Id
  | _ => Bool

abbrev GroupProg := Prog GroupOp GroupOp.Reply

abbrev request (op : GroupOp) : GroupProg op.Reply :=
  Prog.perform op

/-- The loop of `hset` or `hdel` over a set of users. -/
def forUsers (op : Id → GroupOp) : List Id → GroupProg Unit
  | [] => return ()
  | user :: rest => do
      let _ ← request (op user)
      forUsers op rest

/-! ### `GroupModel` -/

def getGroupUser (groupId : Id) : GroupProg (List Id) :=
  request (.hgetAll groupId)

/-- The users that stay in the set, and how many rows were inserted. The result of the insert is
not looked at, and a user for whom it cannot be prepared is taken out. -/
def insertUsers (groupId : Id) (hasUser : List Id) : List Id → GroupProg (List Id × Nat)
  | [] => return ([], 0)
  | userId :: rest => do
      if userId ∈ hasUser then
        let (users, incMemberCnt) ← insertUsers groupId hasUser rest
        return (userId :: users, incMemberCnt)
      else if ← request (.prepareMember groupId userId) then
        let _ ← request (.insertMember groupId userId)
        let (users, incMemberCnt) ← insertUsers groupId hasUser rest
        return (userId :: users, incMemberCnt + 1)
      else insertUsers groupId hasUser rest

/-- The rows of users who were members before are made active. -/
def reactivateUsers (groupId : Id) (hasUser : List Id) : GroupProg Bool :=
  if hasUser = [] then return false
  else request (.reactivate groupId hasUser)

def raiseUserCnt (groupId : Id) (incMemberCnt : Nat) : GroupProg Bool :=
  if incMemberCnt = 0 then return false
  else request (.addUserCnt groupId incMemberCnt)

/-- Whether it went through, and the users that are left. -/
def insertNewMember (groupId : Id) (users : List Id) : GroupProg (Bool × List Id) := do
  if groupId = invalidValue ∨ users = [] then return (false, users)
  else
    let hasUser := (← request (.selectPresent groupId users)).getD []
    let _ ← reactivateUsers groupId hasUser
    let (users, incMemberCnt) ← insertUsers groupId hasUser users
    let _ ← raiseUserCnt groupId incMemberCnt
    forUsers (.hset groupId) users
    return (true, users)

def clearGroupMember (groupId : Id) : GroupProg Unit := do
  let _ ← request (.deleteMembers groupId)
  let users ← request (.hgetAll groupId)
  forUsers (.hdel groupId) users

/-- The id of the group, and the users of whom rows were inserted. -/
def createGroup (userId : Id) (groupName groupAvatar : String) (groupType : Nat)
    (members : List Id) : GroupProg (Id × List Id) := do
  if groupName = "" then return (invalidValue, members)
  else if members = [] then return (invalidValue, members)
  else
    match ← request (.insertGroup ⟨groupName, groupAvatar, userId, groupType, members.length⟩) with
    | none => return (invalidValue, members)
    | some groupId =>
        let _ ← request (.setGroupMsgId groupId)
        clearGroupMember groupId
        let (_, members) ← insertNewMember groupId members
        return (groupId, members)

def removeMember (groupId : Id) (users : List Id) : GroupProg (Bool × List Id) := do
  if users = [] then return (true, [])
  else
    let _ ← request (.deactivate groupId users)
    forUsers (.hdel groupId) users
    return (true, ← getGroupUser groupId)

/-- Without a row the creator is not set, and there is no status to change either. -/
def removeGroup (userId groupId : Id) : GroupProg (Bool × List Id) := do
  match ← request (.selectCreator groupId) with
  | none => return (false, [])
  | some creators =>
      if lastId creators = 0 ∨ lastId creators = userId then
        if ← request (.updateStatus groupId) then
          let users := (← request (.selectMembers groupId)).getD []
          removeMember groupId users.dedup
        else return (false, [])
      else return (false, [])

/-- The users who have no field in the hash. -/
def removeRepeatUser (groupId : Id) : List Id → GroupProg (List Id)
  | [] => return []
  | userId :: rest => do
      if ← request (.hget groupId userId) then removeRepeatUser groupId rest
      else return userId :: (← removeRepeatUser groupId rest)

def addMember (groupId : Id) (users : List Id) : GroupProg (Bool × List Id) := do
  let users ← removeRepeatUser groupId users
  let (added, _) ← insertNewMember groupId users
  return (added, ← getGroupUser groupId)

def groupModifyTypeDel : Nat := 2

/-- The rows are not selected for user id 0. -/
def selectPermission (userId groupId modifyType : Id) : GroupProg Bool := do
  if userId = 0 then return hasModifyPermission none userId modifyType
  else return hasModifyPermission (← request (.selectGroup groupId)) userId modifyType

def modifyGroupMember (userId groupId modifyType : Id) (users : List Id) :
    GroupProg (Bool × List Id) := do
  if ← selectPermission userId groupId modifyType then
    if modifyType = groupModifyTypeAdd then addMember groupId users
    else if modifyType = groupModifyTypeDel then removeMember groupId users
    else return (false, [])
  else return (false, [])

/-! ### Tables -/

/-- A row of `IMGroup`. -/
structure ImGroup where
  id : Id
  creator : Id
  type : Nat
  userCnt : Nat
  status : Nat
deriving DecidableEq, Repr

def ImGroup.clearStatus (row : ImGroup) : ImGroup :=
  { row with status := 0 }

def ImGroup.addUserCnt (count : Nat) (row : ImGroup) : ImGroup :=
  { row with userCnt := row.userCnt + count }

theorem ImGroup.clearStatus_id (row : ImGroup) : row.clearStatus.id = row.id :=
  rfl

theorem ImGroup.addUserCnt_id (count : Nat) (row : ImGroup) :
    (row.addUserCnt count).id = row.id :=
  rfl

/-- A row of `IMGroupMember`. -/
structure GroupMember where
  groupId : Id
  userId : Id
  status : Nat
deriving DecidableEq, Repr

/-- `IMGroup`. -/
abbrev GroupTable := AutoTable ImGroup fun row => row.id

structure GroupStore where
  groups : GroupTable
  members : List GroupMember
  /-- The fields of `group_member_` of each group. -/
  hash : Id → List Id

namespace GroupTable

def changeRow (groupId : Id) (change : ImGroup → ImGroup) (row : ImGroup) : ImGroup :=
  if row.id = groupId then change row else row

def update (table : GroupTable) (groupId : Id) (change : ImGroup → ImGroup)
    (keepsId : ∀ row, (change row).id = row.id) : GroupTable :=
  AutoTable.update table (changeRow groupId change) fun row => by
    unfold changeRow
    split
    · exact keepsId row
    · rfl

def insert (table : GroupTable) (group : NewGroup) : GroupTable :=
  AutoTable.insert table
    (fun groupId => ⟨groupId, group.creator, group.type, group.userCnt, 0⟩) fun _ => rfl

theorem mem_update {table : GroupTable} {groupId : Id} {change : ImGroup → ImGroup}
    (keepsId : ∀ row, (change row).id = row.id) {row : ImGroup}
    (member : row ∈ (table.update groupId change keepsId).rows) :
    row ∈ table.rows ∧ row.id ≠ groupId ∨
      ∃ before ∈ table.rows, before.id = groupId ∧ row = change before := by
  obtain ⟨before, there, rfl⟩ := (AutoTable.mem_update table).mp member
  unfold changeRow
  split
  · rename_i found
    exact .inr ⟨before, there, found, rfl⟩
  · rename_i other
    exact .inl ⟨there, other⟩

theorem mem_insert {table : GroupTable} {group : NewGroup} {row : ImGroup}
    (member : row ∈ (table.insert group).rows) :
    row ∈ table.rows ∧ row.id ≠ table.nextKey ∨
      row = ⟨table.nextKey, group.creator, group.type, group.userCnt, 0⟩ :=
  ((AutoTable.mem_insert table).mp member).imp_left fun there =>
    ⟨there, Nat.ne_of_lt (table.fresh row there)⟩

end GroupTable

namespace GroupStore

def empty : GroupStore where
  groups := AutoTable.empty
  members := []
  hash _ := []

def memberOf (groupId : Id) (member : GroupMember) : Bool :=
  member.groupId == groupId

/-- The status of the rows of these users. -/
def setStatus (status : Nat) (groupId : Id) (users : List Id) (member : GroupMember) :
    GroupMember :=
  if member.groupId = groupId ∧ member.userId ∈ users then { member with status := status }
  else member

def setField (hash : Id → List Id) (groupId userId : Id) : Id → List Id :=
  Function.update hash groupId ((hash groupId).insert userId)

def delField (hash : Id → List Id) (groupId userId : Id) : Id → List Id :=
  Function.update hash groupId ((hash groupId).filter (· != userId))

def rowsOf (store : GroupStore) (groupId : Id) : List ImGroup :=
  store.groups.rows.filter fun row => row.id == groupId

/-- What an operation answers and does, when this answer is proposed. -/
def apply (store : GroupStore) : (op : GroupOp) → op.Reply → op.Reply × GroupStore
  | .selectGroup groupId, some _ =>
      (some ((store.rowsOf groupId).map fun row => ⟨row.creator, row.type⟩), store)
  | .selectCreator groupId, some _ =>
      (some ((store.rowsOf groupId).map fun row => row.creator), store)
  | .updateStatus groupId, true =>
      ((store.rowsOf groupId).any fun row => row.status != 0,
        { store with
          groups := store.groups.update groupId ImGroup.clearStatus ImGroup.clearStatus_id })
  | .selectMembers groupId, some _ =>
      (some ((store.members.filter (memberOf groupId)).map fun member => member.userId), store)
  | .insertGroup group, some _ =>
      (some store.groups.nextKey, { store with groups := store.groups.insert group })
  | .deleteMembers groupId, true =>
      (true, { store with members := store.members.filter fun member => !memberOf groupId member })
  | .selectPresent groupId users, some _ =>
      (some ((store.members.filter fun member => memberOf groupId member &&
        users.contains member.userId).map fun member => member.userId), store)
  | .reactivate groupId users, true =>
      (true, { store with members := store.members.map (setStatus 0 groupId users) })
  | .insertMember groupId userId, true =>
      (true, { store with members := store.members ++ [⟨groupId, userId, 0⟩] })
  | .addUserCnt groupId count, true =>
      (true, { store with
        groups := store.groups.update groupId (ImGroup.addUserCnt count)
          (ImGroup.addUserCnt_id count) })
  | .deactivate groupId users, true =>
      (true, { store with members := store.members.map (setStatus 1 groupId users) })
  | .hget groupId userId, _ => ((store.hash groupId).contains userId, store)
  | .hset groupId userId, _ =>
      (true, { store with hash := setField store.hash groupId userId })
  | .hdel groupId userId, _ =>
      (true, { store with hash := delField store.hash groupId userId })
  | .hgetAll groupId, _ => (store.hash groupId, store)
  | _, answer => (answer, store)

end GroupStore

end GroupMembers

end AChat.DbProxy
