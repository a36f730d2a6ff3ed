import AChat.DbProxy.PoolRules

/-!
Contract: the operations on groups and group messages give each pooled connection back once, and
use none that they have given back.

Two of them do not. `removeRepeatUser` gives its connection back once for each user, and
`clearMessageCount` uses its connection once more after it has given it back. Where neither
branch is taken, every path keeps the discipline.

Owns: the paths of these two, and of the operations that call them; all operations, when their
paths are disciplined, and which operations always are.
-/

namespace AChat.DbProxy

open Lib (Prog LeaseLog)
open Lib.LeaseLog

namespace Pooled

/-- `removeRepeatUser` got no connection but for one user, and `clearMessageCount` read no
counts. -/
structure Spared (log : Log) : Prop where
  removesRepeats : ∀ count, .noted (.removesRepeats count) ∈ log → count = 1
  copiesCounts : .noted .copiesCounts ∉ log

theorem spared_iff {log : Log} : Spared log ↔ ¬Broken Branch.Breaks log := by
  constructor
  · rintro spared ⟨branch, breaks, member⟩
    cases branch with
    | removesRepeats count => exact breaks (spared.removesRepeats count member)
    | copiesCounts => exact spared.copiesCounts member
  · intro unbroken
    refine ⟨fun count member => ?_, fun member =>
      unbroken ⟨.copiesCounts, trivial, member⟩⟩
    by_contra other
    exact unbroken ⟨.removesRepeats count, other, member⟩

/-! ### The programs that break the discipline -/

section Programs

variable {borrowed : List Conn} {log : Log}

theorem breaks_of_ne_one {count : Nat} (other : count ≠ 1) :
    Branch.Breaks (.removesRepeats count) :=
  other

/-- A connection that was got is not held once it was given back. -/
theorem not_held_of_given {later : Log} (numbered : Numbered log)
    (still : held later = log.length :: held log) :
    log.length ∉ held (.released log.length :: later) := by
  show log.length ∉ (held later).erase log.length
  rw [still, List.erase_cons_head]
  exact numbered.fresh

namespace GroupModel

/-- A turn of the loop uses the connection and gives it back. -/
theorem keepNewUser_runs {conn : Conn} {groupId userId : Id} {users kept : List Id}
    {later : Log} (runs : Prog.Runs acts (keepNewUser conn groupId users userId) log kept later) :
    later = .released conn :: .used conn :: log := by
  obtain ⟨value, between, used, rest⟩ := Prog.runs_perform_bind.mp runs
  obtain ⟨_, _, released, _, rfl⟩ := Prog.runs_perform_bind.mp rest
  cases used
  exact released

theorem keeps_removeRepeatUser (groupId : Id) (users : List Id) :
    Keeps True borrowed (removeRepeatUser groupId users) := by
  intro log value later numbered still runs
  obtain ⟨reply, between, acted, rest⟩ := Prog.runs_perform_bind.mp runs
  cases reply with
  | none =>
      obtain ⟨_, rfl⟩ := rest
      obtain rfl : later = log := acted
      exact .kept (Kept.refl _)
  | some conn =>
      obtain ⟨rfl, rfl⟩ := acted
      obtain ⟨_, noted, taken, loop⟩ := Prog.runs_perform_bind.mp rest
      obtain rfl : noted = .noted (.removesRepeats users.length) :: .acquired log.length :: log :=
        taken
      rcases users with _ | ⟨first, _ | ⟨second, others⟩⟩
      · -- No user: the connection is not given back.
        obtain ⟨_, rfl⟩ := loop
        exact .leaked trivial ⟨⟨_, breaks_of_ne_one (by decide), List.mem_cons_self⟩,
          [log.length], by simp, rfl⟩
      · obtain ⟨kept, middle, turn, done⟩ := Prog.runs_bind.mp loop
        obtain ⟨_, rfl⟩ := done
        rw [keepNewUser_runs turn]
        have harmless : ¬Branch.Breaks (.removesRepeats 1) := fun breaks => breaks rfl
        exact .lent (.kept ((Kept.noted harmless).trans (Kept.used List.mem_cons_self)))
      · -- The second turn uses a connection that the first one gave back.
        obtain ⟨kept, middle, turn, more⟩ := Prog.runs_bind.mp loop
        obtain rfl := keepNewUser_runs turn
        obtain ⟨keptAgain, after, next, others'⟩ := Prog.runs_bind.mp more
        obtain rfl := keepNewUser_runs next
        have lost : Misused Branch.Breaks (.used log.length :: .released log.length ::
            .used log.length :: .noted (.removesRepeats (others.length + 2)) ::
            .acquired log.length :: log) :=
          { broken := ⟨.removesRepeats (others.length + 2), breaks_of_ne_one (by omega), by simp⟩
            usesLost := fun usesHeld => not_held_of_given numbered rfl usesHeld.1 }
        exact .misused trivial ((lost.of_suffix (List.suffix_cons _ _)).of_suffix
          (records.runs_isSuffix others'))

theorem keeps_addMember (groupId : Id) (users : List Id) :
    Keeps True borrowed (addMember groupId users) := by
  refine keeps_bind (keeps_removeRepeatUser groupId users) fun users => ?_
  refine keeps_bind (keeps_insertNewMember groupId users) fun inserted => ?_
  exact keeps_return (keeps_getGroupUser groupId)

theorem keeps_changeMember (groupId modifyType : Id) (users : List Id) :
    Keeps True borrowed (changeMember groupId modifyType users) := by
  refine keeps_ite (keeps_addMember groupId users) (keeps_ite ?_ (keeps_pure _))
  refine keeps_bind (keeps_removeMember groupId users) fun removed => ?_
  exact keeps_return (keeps_removeSession groupId users)

theorem keeps_modifyGroupMember (userId groupId modifyType : Id) (users : List Id) :
    Keeps True borrowed (modifyGroupMember userId groupId modifyType users) := by
  refine keeps_bind (keeps_hasModifyPermission userId groupId modifyType)
    fun _ => keeps_ite ?_ (keeps_pure _)
  refine keeps_bind (keeps_changeMember groupId modifyType users)
    fun changed => keeps_ite ?_ (keeps_pure _)
  refine keeps_bind (keeps_incGroupVersion groupId) fun _ => ?_
  exact keeps_return (keeps_forEach fun userId => UserModel.keeps_clearUserCounter _ _ _)

end GroupModel

namespace GroupMessageModel

theorem keeps_clearMessageCount (userId groupId : Id) :
    Keeps True borrowed (clearMessageCount userId groupId) := by
  intro log value later numbered still runs
  obtain ⟨reply, between, acted, rest⟩ := Prog.runs_perform_bind.mp runs
  cases reply with
  | none =>
      obtain ⟨_, rfl⟩ := rest
      obtain rfl : later = log := acted
      exact .kept (Kept.refl _)
  | some conn =>
      obtain ⟨rfl, rfl⟩ := acted
      obtain ⟨counts, _, used, rest⟩ := Prog.runs_perform_bind.mp rest
      obtain ⟨_, _, released, rest⟩ := Prog.runs_perform_bind.mp rest
      cases used
      cases released
      cases counts with
      | none =>
          obtain ⟨_, rfl⟩ := rest
          exact .lent (.kept (Kept.used List.mem_cons_self))
      | some counts =>
          obtain ⟨_, _, taken, rest⟩ := Prog.runs_perform_bind.mp rest
          obtain ⟨_, _, usedAgain, _, rfl⟩ := Prog.runs_perform_bind.mp rest
          cases taken
          cases usedAgain
          exact .misused trivial
            { broken := ⟨.copiesCounts, trivial, List.mem_cons_of_mem _ List.mem_cons_self⟩
              usesLost := fun usesHeld => not_held_of_given numbered rfl usesHeld.1 }

theorem keeps_insertMessage {conn : Conn} (lent : conn ∈ borrowed)
    (fromId groupId msgType createTime msgId : Nat) (content : String) :
    Keeps True borrowed
      (insertMessage conn fromId groupId msgType createTime msgId content) := by
  refine keeps_bind (keeps_request lent) fun _ => keeps_ite ?_ (keeps_pure _)
  refine keeps_bind (keeps_request lent) fun _ => keeps_ite ?_ (keeps_pure _)
  refine keeps_bind (GroupModel.keeps_updateGroupChat groupId) fun _ => ?_
  refine keeps_bind (keeps_incMessageCount fromId groupId) fun _ => ?_
  exact keeps_return (keeps_clearMessageCount fromId groupId)

theorem keeps_sendMessage (fromId groupId msgType createTime msgId : Nat) (content : String) :
    Keeps True borrowed (sendMessage fromId groupId msgType createTime msgId content) := by
  refine keeps_bind (GroupModel.keeps_isInGroup fromId groupId)
    fun _ => keeps_ite ?_ (keeps_pure _)
  refine keeps_return (keeps_withDBConn fun conn => ?_)
  exact keeps_bind (keeps_insertMessage List.mem_cons_self _ _ _ _ _ _)
    fun _ => keeps_request List.mem_cons_self

theorem keeps_sendAudioMessage (fromId groupId msgType createTime msgId : Nat)
    (content : Content) :
    Keeps True borrowed (sendAudioMessage fromId groupId msgType createTime msgId content) := by
  refine keeps_ite (keeps_pure _) (keeps_bind (GroupModel.keeps_isInGroup fromId groupId)
    fun _ => keeps_ite ?_ (keeps_pure _))
  refine keeps_bind (AudioModel.keeps_saveAudioInfo fromId groupId createTime content)
    fun audioId => keeps_ite ?_ (keeps_pure _)
  exact keeps_sendMessage _ _ _ _ _ _

end GroupMessageModel

end Programs

/-! ### All operations -/

/-- The operations of `GroupModel` and `GroupMessageModel`, with their arguments. -/
inductive Operation where
  | createGroup (userId : Id) (groupName groupAvatar : String) (groupType : Nat)
      (members : List Id)
  | removeGroup (userId groupId : Id)
  | getUserGroup (userId groupType : Nat)
  | getUserGroupIds (userId limited : Nat)
  | getGroupInfo (versions : List (Id × Nat)) (lsGroupInfo : List GroupInfo)
  | setPush (userId groupId type status : Nat)
  | getPush (groupId : Id) (lsUser : List Id)
  | modifyGroupMember (userId groupId modifyType : Id) (users : List Id)
  | getGroupUser (groupId : Id)
  | isInGroup (userId groupId : Id)
  | updateGroupChat (groupId : Id)
  | isValidateGroupId (groupId : Id)
  | getUserJoinTime (groupId userId : Id)
  | insertNewGroup (userId : Id) (groupName groupAvatar : String) (groupType memberCnt : Nat)
  | insertNewMember (groupId : Id) (users : List Id)
  | getGroupVersion (lsGroupId : List Id) (groupType : Nat)
  | hasModifyPermission (userId groupId modifyType : Id)
  | addMember (groupId : Id) (users : List Id)
  | removeMember (groupId : Id) (users : List Id)
  | removeRepeatUser (groupId : Id) (users : List Id)
  | removeSession (groupId : Id) (users : List Id)
  | incGroupVersion (groupId : Id)
  | clearGroupMember (groupId : Id)
  | fillGroupMember (lsGroups : List GroupInfo)
  | sendMessage (fromId groupId msgType createTime msgId : Nat) (content : String)
  | sendAudioMessage (fromId groupId msgType createTime msgId : Nat) (content : Content)
  | clearMessageCount (userId groupId : Id)
  | incMessageCount (userId groupId : Id)
  | getMessage (userId groupId msgId msgCnt : Nat) (lsMsg : List MsgInfo)
  | getUnreadMsgCount (strAudioEnc : String) (userId totalCnt : Nat)
  | getMsgId (groupId : Id)
  | getLastMsg (strAudioEnc : String) (groupId : Id) (last : LastMsg)
  | getUnReadCntAll (userId totalCnt : Nat)
  | getMsgByMsgId (userId groupId : Id) (lsMsgId : List Id) (lsMsg : List MsgInfo)
  | resetMsgId (groupId : Id)
deriving DecidableEq, Repr

namespace Operation

/-- A program whose result is not looked at. -/
def callOf {α : Type} (prog : PoolProg α) : PoolProg Unit := do
  let _ ← prog
  return ()

def prog : Operation → PoolProg Unit
  | createGroup userId groupName groupAvatar groupType members =>
      callOf (GroupModel.createGroup userId groupName groupAvatar groupType members)
  | removeGroup userId groupId => callOf (GroupModel.removeGroup userId groupId)
  | getUserGroup userId groupType => callOf (GroupModel.getUserGroup userId groupType)
  | getUserGroupIds userId limited => callOf (GroupModel.getUserGroupIds userId limited)
  | getGroupInfo versions lsGroupInfo => callOf (GroupModel.getGroupInfo versions lsGroupInfo)
  | setPush userId groupId type status => callOf (GroupModel.setPush userId groupId type status)
  | getPush groupId lsUser => callOf (GroupModel.getPush groupId lsUser)
  | modifyGroupMember userId groupId modifyType users =>
      callOf (GroupModel.modifyGroupMember userId groupId modifyType users)
  | getGroupUser groupId => callOf (GroupModel.getGroupUser groupId)
  | isInGroup userId groupId => callOf (GroupModel.isInGroup userId groupId)
  | updateGroupChat groupId => callOf (GroupModel.updateGroupChat groupId)
  | isValidateGroupId groupId => callOf (GroupModel.isValidateGroupId groupId)
  | getUserJoinTime groupId userId => callOf (GroupModel.getUserJoinTime groupId userId)
  | insertNewGroup userId groupName groupAvatar groupType memberCnt =>
      callOf (GroupModel.insertNewGroup userId groupName groupAvatar groupType memberCnt)
  | insertNewMember groupId users => callOf (GroupModel.insertNewMember groupId users)
  | getGroupVersion lsGroupId groupType => callOf (GroupModel.getGroupVersion lsGroupId groupType)
  | hasModifyPermission userId groupId modifyType =>
      callOf (GroupModel.hasModifyPermission userId groupId modifyType)
  | addMember groupId users => callOf (GroupModel.addMember groupId users)
  | removeMember groupId users => callOf (GroupModel.removeMember groupId users)
  | removeRepeatUser groupId users => callOf (GroupModel.removeRepeatUser groupId users)
  | removeSession groupId users => callOf (GroupModel.removeSession groupId users)
  | incGroupVersion groupId => callOf (GroupModel.incGroupVersion groupId)
  | clearGroupMember groupId => callOf (GroupModel.clearGroupMember groupId)
  | fillGroupMember lsGroups => callOf (GroupModel.fillGroupMember lsGroups)
  | sendMessage fromId groupId msgType createTime msgId content =>
      callOf (GroupMessageModel.sendMessage fromId groupId msgType createTime msgId content)
  | sendAudioMessage fromId groupId msgType createTime msgId content =>
      callOf (GroupMessageModel.sendAudioMessage fromId groupId msgType createTime msgId content)
  | clearMessageCount userId groupId =>
      callOf (GroupMessageModel.clearMessageCount userId groupId)
  | incMessageCount userId groupId => callOf (GroupMessageModel.incMessageCount userId groupId)
  | getMessage userId groupId msgId msgCnt lsMsg =>
      callOf (GroupMessageModel.getMessage userId groupId msgId msgCnt lsMsg)
  | getUnreadMsgCount strAudioEnc userId totalCnt =>
      callOf (GroupMessageModel.getUnreadMsgCount strAudioEnc userId totalCnt)
  | getMsgId groupId => callOf (GroupMessageModel.getMsgId groupId)
  | getLastMsg strAudioEnc groupId last =>
      callOf (GroupMessageModel.getLastMsg strAudioEnc groupId last)
  | getUnReadCntAll userId totalCnt =>
      callOf (GroupMessageModel.getUnReadCntAll userId totalCnt)
  | getMsgByMsgId userId groupId lsMsgId lsMsg =>
      callOf (GroupMessageModel.getMsgByMsgId userId groupId lsMsgId lsMsg)
  | resetMsgId groupId => callOf (GroupMessageModel.resetMsgId groupId)

/-- The operations that come to one of the two programs that break the discipline. -/
def careless : Operation → Bool
  | modifyGroupMember _ _ _ _ | addMember _ _ | removeRepeatUser _ _ => true
  | sendMessage _ _ _ _ _ _ | sendAudioMessage _ _ _ _ _ _ | clearMessageCount _ _ => true
  | _ => false

theorem keeps_callOf {α : Type} {may : Prop} {borrowed : List Conn} {prog : PoolProg α}
    (keeps : Keeps may borrowed prog) : Keeps may borrowed (callOf prog) :=
  keeps_return keeps

theorem keeps_careless {α : Type} {prog : PoolProg α} (keeps : Keeps True [] prog) :
    Keeps (true = true) [] (callOf prog) :=
  (keeps_callOf keeps).mono (fun _ => rfl) (List.Subset.refl _)

open Pooled.GroupModel Pooled.GroupMessageModel in
/-- Only a careless operation may break the discipline. -/
theorem keeps (operation : Operation) :
    Keeps (operation.careless = true) [] operation.prog := by
  cases operation with
  | createGroup => exact keeps_callOf (keeps_createGroup _ _ _ _ _)
  | removeGroup => exact keeps_callOf (keeps_removeGroup _ _)
  | getUserGroup => exact keeps_callOf (keeps_getUserGroup _ _)
  | getUserGroupIds => exact keeps_callOf (keeps_getUserGroupIds _ _)
  | getGroupInfo => exact keeps_callOf (keeps_getGroupInfo _ _)
  | setPush => exact keeps_callOf (keeps_setPush _ _ _ _)
  | getPush => exact keeps_callOf (keeps_getPush _ _)
  | modifyGroupMember => exact keeps_careless (keeps_modifyGroupMember _ _ _ _)
  | getGroupUser => exact keeps_callOf (keeps_getGroupUser _)
  | isInGroup => exact keeps_callOf (keeps_isInGroup _ _)
  | updateGroupChat => exact keeps_callOf (keeps_updateGroupChat _)
  | isValidateGroupId => exact keeps_callOf (keeps_isValidateGroupId _)
  | getUserJoinTime => exact keeps_callOf (keeps_getUserJoinTime _ _)
  | insertNewGroup => exact keeps_callOf (keeps_insertNewGroup _ _ _ _ _)
  | insertNewMember => exact keeps_callOf (keeps_insertNewMember _ _)
  | getGroupVersion => exact keeps_callOf (keeps_getGroupVersion _ _)
  | hasModifyPermission => exact keeps_callOf (keeps_hasModifyPermission _ _ _)
  | addMember => exact keeps_careless (keeps_addMember _ _)
  | removeMember => exact keeps_callOf (keeps_removeMember _ _)
  | removeRepeatUser => exact keeps_careless (keeps_removeRepeatUser _ _)
  | removeSession => exact keeps_callOf (keeps_removeSession _ _)
  | incGroupVersion => exact keeps_callOf (keeps_incGroupVersion _)
  | clearGroupMember => exact keeps_callOf (keeps_clearGroupMember _)
  | fillGroupMember => exact keeps_callOf (keeps_fillGroupMember _)
  | sendMessage => exact keeps_careless (keeps_sendMessage _ _ _ _ _ _)
  | sendAudioMessage => exact keeps_careless (keeps_sendAudioMessage _ _ _ _ _ _)
  | clearMessageCount => exact keeps_careless (keeps_clearMessageCount _ _)
  | incMessageCount => exact keeps_callOf (keeps_incMessageCount _ _)
  | getMessage => exact keeps_callOf (keeps_getMessage _ _ _ _ _)
  | getUnreadMsgCount => exact keeps_callOf (keeps_getUnreadMsgCount _ _ _)
  | getMsgId => exact keeps_callOf (keeps_getMsgId _)
  | getLastMsg => exact keeps_callOf (keeps_getLastMsg _ _ _)
  | getUnReadCntAll => exact keeps_callOf (keeps_getUnReadCntAll _ _)
  | getMsgByMsgId => exact keeps_callOf (keeps_getMsgByMsgId _ _ _ _)
  | resetMsgId => exact keeps_callOf (keeps_resetMsgId _)

end Operation

section Paths

variable {operation : Operation} {log : Log}

theorem path_numbered (runs : operation.prog.Runs acts [] () log) : Numbered log :=
  records.runs_numbered runs trivial

theorem path_outcome (runs : operation.prog.Runs acts [] () log) :
    Outcome Branch.Breaks (operation.careless = true) [] log :=
  operation.keeps [] () log trivial (List.nil_subset _) runs

/-- A path through an operation gives each connection back once and uses none that it has given
back, exactly if it takes neither of the two branches. -/
theorem disciplined_iff_spared (operation : Operation) {log : Log}
    (runs : operation.prog.Runs acts [] () log) : Disciplined log ↔ Spared log :=
  ((path_outcome runs).disciplined_iff (path_numbered runs)).trans spared_iff.symm

/-- For one user, the connection is used and given back. -/
theorem oneUser_disciplined :
    Disciplined ([.released 0, .used 0, .noted (.removesRepeats 1), .acquired 0] : Log) := by
  have spared : Spared [.released 0, .used 0, .noted (.removesRepeats 1), .acquired 0] :=
    ⟨by simp, by simp⟩
  exact (disciplined_iff_spared (.removeRepeatUser 1 [8])
    ⟨some 0, _, ⟨rfl, rfl⟩, (), _, rfl, "", _, rfl, (), _, rfl, rfl, rfl⟩).mpr spared

/-- The other operations are disciplined on every path. -/
theorem disciplined_of_careful (operation : Operation) (careful : operation.careless = false)
    {log : Log} (runs : operation.prog.Runs acts [] () log) : Disciplined log := by
  have never : operation.careless = true → False := fun careless => by
    rw [careful] at careless
    cases careless
  exact ((path_outcome runs).mono never).disciplined (path_numbered runs)

/-- The counts of a group are copied with a connection that was given back, and the connection is
not given back when there is no user to check. -/
theorem some_path_not_disciplined :
    (∃ log, (Operation.clearMessageCount 7 1).prog.Runs acts [] () log ∧ ¬Disciplined log) ∧
      ∃ log, (Operation.removeRepeatUser 1 []).prog.Runs acts [] () log ∧ ¬Disciplined log := by
  constructor
  · refine ⟨_, ⟨some 0, _, ⟨rfl, rfl⟩, some [("count", "5")], _, rfl, (), _, rfl, (), _, rfl, "OK",
      _, rfl, rfl, rfl⟩, fun disciplined => ?_⟩
    exact absurd disciplined.usesHeld.1 (by decide)
  · refine ⟨_, ⟨some 0, _, ⟨rfl, rfl⟩, (), _, rfl, rfl, rfl⟩, fun disciplined => ?_⟩
    exact absurd (disciplined.releasedOnce 0 (by decide)) (by decide)

end Paths

end Pooled

end AChat.DbProxy
