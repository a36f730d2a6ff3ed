import AChat.DbProxy.MemberChange
import AChat.MsgServer.Delivery

/-!
Contract: how often a connection is notified of a change of the members of a group.

The users of the changed list and those of the current list are notified one list after the
other. A user who is in both lists is notified twice: these are the users who were added.

Owns: the handlers of a member change, the one for the reply of a DB server and the one for the
notification of another message server.
-/

namespace AChat.MsgServer

open DbProxy (Id)
open DbProxy.GroupMembers (GroupStore GroupOp UserSet groupModifyTypeDel)
open DbProxy.MemberChange (ChangeMemberRsp modifyMember joining)

/-! ### Packets -/

/-- The reply of a DB server. `attach` goes out with it, or not. -/
def changeMemberRspPdu (seqNum : Nat) (rsp : ChangeMemberRsp) (attach : Option Handle) : Packet :=
  ⟨sidGroup, cidGroupChangeMemberResponse, seqNum,
    .groupChangeMemberRsp rsp.userId rsp.changeType rsp.resultCode rsp.groupId rsp.chgUserIdList
      rsp.curUserIdList attach⟩

def groupChangeMemberNotify (userId : UserId) (changeType groupId : Nat)
    (chgUserIdList curUserIdList : List UserId) : Packet :=
  ⟨sidGroup, cidGroupChangeMemberNotify, 0,
    .groupChangeMemberNotify userId changeType groupId chgUserIdList curUserIdList⟩

namespace Registry

variable (reg : Registry)

/-! ### Handlers -/

/-- The loops over the changed and the current users, with `_SendPduToUser`. -/
def sendPduToUsers (packet : Packet) (reqConn : Option ConnPtr)
    (chgUserIdList curUserIdList : List UserId) : List Sent :=
  (chgUserIdList.flatMap fun user => reg.broadcast user reqConn packet) ++
    curUserIdList.flatMap fun user => reg.broadcast user reqConn packet

/-- `GroupChat::HandleGroupChangeMemberResponse`. `handle` is read from the attach data. -/
def handleGroupChangeMemberResponse (routeServ : Bool) (pdu : Packet) (handle : Handle) :
    List Sent :=
  match pdu.message with
  | .groupChangeMemberRsp userId changeType resultCode groupId chgUserIdList curUserIdList _ =>
      let fromConn := reg.getMsgConnByHandle userId handle
      let notify := groupChangeMemberNotify userId changeType groupId chgUserIdList curUserIdList
      Sent.toClient fromConn
          { pdu with
            message := .groupChangeMemberRsp userId changeType resultCode groupId chgUserIdList
              curUserIdList none } ++
        if resultCode = 0 then
          Sent.when routeServ (.route notify) ++
            reg.sendPduToUsers notify fromConn chgUserIdList curUserIdList
        else []
  | _ => []

/-- `GroupChat::HandleGroupChangeMemberBroadcast`, on another message server. -/
def handleGroupChangeMemberBroadcast (pdu : Packet) : List Sent :=
  match pdu.message with
  | .groupChangeMemberNotify _ _ _ chgUserIdList curUserIdList =>
      reg.sendPduToUsers pdu none chgUserIdList curUserIdList
  | _ => []

end Registry

/-! ### The specification -/

/-- Every registered connection of a listed user, except for the one that asked, is notified once,
and no connection of another user is. -/
structure NotifiedOnce (reg : Registry) (reqConn : Option ConnPtr) (notify : Packet)
    (listed : UserId → Prop) (sent : List Sent) : Prop where
  once : ∀ user, listed user → ∀ conn, reg.RegisteredTo user conn → reqConn ≠ some conn →
    (received conn sent).count notify = 1
  others : ∀ user, ¬listed user → ∀ conn, reg.RegisteredTo user conn →
    notify ∉ received conn sent

/-- The user has a connection that did not ask. -/
def Registry.Reachable (reg : Registry) (reqConn : Option ConnPtr) (user : UserId) : Prop :=
  ∃ conn, reg.RegisteredTo user conn ∧ reqConn ≠ some conn

/-! ### Two lists -/

section Lists

variable {reg : Registry} {conn : ConnPtr} {user : UserId} {packet : Packet}
  {reqConn : Option ConnPtr} {chgUserIdList curUserIdList : List UserId}

/-- As many packets as the user has entries in the two lists. -/
theorem Registry.OneEntry.received_sendPduToUsers (oneEntry : reg.OneEntry)
    (registered : reg.RegisteredTo user conn) :
    received conn (reg.sendPduToUsers packet reqConn chgUserIdList curUserIdList) =
      if some conn = reqConn then []
      else List.replicate (chgUserIdList.count user + curUserIdList.count user) packet := by
  unfold Registry.sendPduToUsers
  rw [received_append, oneEntry.received_broadcasts registered _ fun _ => reqConn,
    oneEntry.received_broadcasts registered _ fun _ => reqConn]
  split
  · rfl
  · rw [List.replicate_append_replicate]

/-- Lists without repetitions: a user is notified once unless in both. -/
theorem count_lists (chgOnce : chgUserIdList.Nodup) (curOnce : curUserIdList.Nodup)
    (listed : user ∈ chgUserIdList ∨ user ∈ curUserIdList) :
    chgUserIdList.count user + curUserIdList.count user = 1 ↔
      ¬(user ∈ chgUserIdList ∧ user ∈ curUserIdList) := by
  have changed : chgUserIdList.count user = if user ∈ chgUserIdList then 1 else 0 :=
    List.Nodup.count chgOnce
  have current : curUserIdList.count user = if user ∈ curUserIdList then 1 else 0 :=
    List.Nodup.count curOnce
  rw [changed, current]
  split <;> split <;> simp_all

/-- What is sent to the users is sent once exactly when nobody who can be reached is in both
lists. -/
theorem Registry.OneEntry.notifiedOnce_iff (oneEntry : reg.OneEntry)
    (chgOnce : chgUserIdList.Nodup) (curOnce : curUserIdList.Nodup) {before : List Sent}
    (silent : ∀ conn, packet ∉ received conn before) :
    NotifiedOnce reg reqConn packet (fun user => user ∈ chgUserIdList ∨ user ∈ curUserIdList)
        (before ++ reg.sendPduToUsers packet reqConn chgUserIdList curUserIdList) ↔
      ∀ user, user ∈ chgUserIdList ∧ user ∈ curUserIdList → ¬reg.Reachable reqConn user := by
  have counted : ∀ user conn, reg.RegisteredTo user conn → reqConn ≠ some conn →
      (received conn (before ++ reg.sendPduToUsers packet reqConn chgUserIdList
        curUserIdList)).count packet = chgUserIdList.count user + curUserIdList.count user := by
    intro user conn registered notReq
    rw [received_append, oneEntry.received_sendPduToUsers registered, if_neg (Ne.symm notReq),
      List.count_append, List.count_eq_zero.mpr (silent conn), List.count_replicate_self]
    exact Nat.zero_add _
  constructor
  · rintro notified user both ⟨conn, registered, notReq⟩
    have once := notified.once user (.inl both.1) conn registered notReq
    rw [counted user conn registered notReq] at once
    exact (count_lists chgOnce curOnce (.inl both.1)).mp once both
  · intro unreachable
    refine ⟨?_, ?_⟩
    · intro user listed conn registered notReq
      rw [counted user conn registered notReq]
      exact (count_lists chgOnce curOnce listed).mpr fun both =>
        unreachable user both ⟨conn, registered, notReq⟩
    · intro user notListed conn registered member
      rw [received_append, oneEntry.received_sendPduToUsers registered] at member
      rcases List.mem_append.mp member with earlier | sent
      · exact silent conn earlier
      · split at sent
        · cases sent
        · rw [List.count_eq_zero.mpr fun among => notListed (.inl among),
            List.count_eq_zero.mpr fun among => notListed (.inr among)] at sent
          cases sent

end Lists

/-- Every successful reply of the DB proxy to a member change is notified once exactly when nobody
was added who has another connection than the one that asked. -/
theorem changeNotifiedOnce_iff {reg : Registry} (oneEntry : reg.OneEntry) (routeServ : Bool)
    (seqNum : Nat) (handle : Handle) {store : GroupStore} {answers : (op : GroupOp) → op.Reply}
    {userId groupId changeType : Id} (distinct : (store.hash groupId).Nodup) {users : UserSet}
    {rsp : ChangeMemberRsp}
    (responds : modifyMember store answers userId groupId changeType users = some rsp)
    (success : rsp.resultCode = 0) :
    NotifiedOnce reg (reg.getMsgConnByHandle userId handle)
        (groupChangeMemberNotify userId changeType groupId rsp.chgUserIdList rsp.curUserIdList)
        (fun user => user ∈ rsp.chgUserIdList ∨ user ∈ rsp.curUserIdList)
        (reg.handleGroupChangeMemberResponse routeServ
          (changeMemberRspPdu seqNum rsp (some handle)) handle) ↔
      (changeType = DbProxy.groupModifyTypeAdd →
        ∀ user ∈ joining store answers groupId users.1,
          ¬reg.Reachable (reg.getMsgConnByHandle userId handle) user) := by
  obtain ⟨rfl, rfl, rfl⟩ := DbProxy.MemberChange.modifyMember_echoes responds
  obtain ⟨chgOnce, curOnce, both⟩ :=
    DbProxy.MemberChange.modifyMember_lists distinct responds success
  have sent : reg.handleGroupChangeMemberResponse routeServ
      (changeMemberRspPdu seqNum rsp (some handle)) handle =
      (Sent.toClient (reg.getMsgConnByHandle rsp.userId handle)
          (changeMemberRspPdu seqNum rsp none) ++
        Sent.when routeServ (.route (groupChangeMemberNotify rsp.userId rsp.changeType rsp.groupId
          rsp.chgUserIdList rsp.curUserIdList))) ++
        reg.sendPduToUsers (groupChangeMemberNotify rsp.userId rsp.changeType rsp.groupId
          rsp.chgUserIdList rsp.curUserIdList) (reg.getMsgConnByHandle rsp.userId handle)
          rsp.chgUserIdList rsp.curUserIdList := by
    unfold Registry.handleGroupChangeMemberResponse
    rw [List.append_assoc]
    exact congrArg (_ ++ ·) (if_pos success)
  have silent : ∀ conn, groupChangeMemberNotify rsp.userId rsp.changeType rsp.groupId
      rsp.chgUserIdList rsp.curUserIdList ∉ received conn
        (Sent.toClient (reg.getMsgConnByHandle rsp.userId handle)
          (changeMemberRspPdu seqNum rsp none) ++
        Sent.when routeServ (.route (groupChangeMemberNotify rsp.userId rsp.changeType rsp.groupId
          rsp.chgUserIdList rsp.curUserIdList))) := by
    intro conn member
    rw [received_append, received_when_route, List.append_nil] at member
    by_cases asks : reg.getMsgConnByHandle rsp.userId handle = some conn
    · rw [asks, received_toClient_self] at member
      cases List.mem_singleton.mp member
    · rw [received_toClient_other asks] at member
      cases member
  rw [sent, oneEntry.notifiedOnce_iff chgOnce curOnce silent]
  constructor
  · intro unreachable adds user joins
    exact unreachable user ((both user).mpr ⟨adds, joins⟩)
  · intro unreachable user listed
    obtain ⟨adds, joins⟩ := (both user).mp listed
    exact unreachable adds user joins

/-- The same on another message server, where nobody asked. -/
theorem broadcastNotifiedOnce_iff {reg : Registry} (oneEntry : reg.OneEntry) {store : GroupStore}
    {answers : (op : GroupOp) → op.Reply} {userId groupId changeType : Id}
    (distinct : (store.hash groupId).Nodup) {users : UserSet} {rsp : ChangeMemberRsp}
    (responds : modifyMember store answers userId groupId changeType users = some rsp)
    (success : rsp.resultCode = 0) :
    NotifiedOnce reg none
        (groupChangeMemberNotify userId changeType groupId rsp.chgUserIdList rsp.curUserIdList)
        (fun user => user ∈ rsp.chgUserIdList ∨ user ∈ rsp.curUserIdList)
        (reg.handleGroupChangeMemberBroadcast
          (groupChangeMemberNotify userId changeType groupId rsp.chgUserIdList
            rsp.curUserIdList)) ↔
      (changeType = DbProxy.groupModifyTypeAdd →
        ∀ user ∈ joining store answers groupId users.1, ¬reg.Reachable none user) := by
  obtain ⟨chgOnce, curOnce, both⟩ :=
    DbProxy.MemberChange.modifyMember_lists distinct responds success
  have silent : ∀ conn, groupChangeMemberNotify userId changeType groupId rsp.chgUserIdList
      rsp.curUserIdList ∉ received conn [] := fun _ => List.not_mem_nil
  refine (oneEntry.notifiedOnce_iff chgOnce curOnce silent).trans ?_
  constructor
  · intro unreachable adds user joins
    exact unreachable user ((both user).mpr ⟨adds, joins⟩)
  · intro unreachable user listed
    obtain ⟨adds, joins⟩ := (both user).mp listed
    exact unreachable adds user joins

/-! ### A group of two -/

/-- User 7 creates a group, with these members. -/
def groupOf (members : UserSet) : GroupStore :=
  Lib.run DbProxy.GroupMembers.step .empty
    [⟨.createGroup 7 "name" "avatar" DbProxy.groupTypeNormal members,
      DbProxy.GroupMembers.accepting⟩]

def onlyUser (user : UserId) : UserSet :=
  ⟨[user], List.pairwise_singleton _ user⟩

theorem bothUsers_sorted : List.Pairwise (· < ·) ([7, 8] : List Id) :=
  List.pairwise_pair.mpr (Nat.lt_succ_self 7)

def bothUsers : UserSet :=
  ⟨[7, 8], bothUsers_sorted⟩

/-- User 7 removes user 8: both are notified once, user 7 on other connections than this one. -/
theorem removal_notified_once :
    NotifiedOnce (twoUsers 3) (some 1) (groupChangeMemberNotify 7 groupModifyTypeDel 1 [8] [7])
      (fun user => user ∈ [8] ∨ user ∈ [7])
      ((twoUsers 3).handleGroupChangeMemberResponse true
        (changeMemberRspPdu 9 ⟨7, 1, groupModifyTypeDel, 0, [8], [7]⟩ (some 3)) 3) :=
  (changeNotifiedOnce_iff oneEntry_twoUsers true 9 3
    (by decide : ((groupOf bothUsers).hash 1).Nodup)
    (by decide : modifyMember (groupOf bothUsers) DbProxy.GroupMembers.accepting 7 1
      groupModifyTypeDel (onlyUser 8) = some ⟨7, 1, groupModifyTypeDel, 0, [8], [7]⟩) rfl).mpr
    fun adds => absurd adds (by decide)

/-- User 7 adds user 8, who is notified twice. -/
theorem addition_notified_twice :
    ∃ rsp, modifyMember (groupOf (onlyUser 7)) DbProxy.GroupMembers.accepting 7 1
        DbProxy.groupModifyTypeAdd (onlyUser 8) = some rsp ∧ rsp.resultCode = 0 ∧
      ¬NotifiedOnce (twoUsers 3) ((twoUsers 3).getMsgConnByHandle 7 3)
        (groupChangeMemberNotify 7 DbProxy.groupModifyTypeAdd 1 rsp.chgUserIdList
          rsp.curUserIdList)
        (fun user => user ∈ rsp.chgUserIdList ∨ user ∈ rsp.curUserIdList)
        ((twoUsers 3).handleGroupChangeMemberResponse true
          (changeMemberRspPdu 9 rsp (some 3)) 3) := by
  refine ⟨⟨7, 1, DbProxy.groupModifyTypeAdd, 0, [8], [8, 7]⟩, by decide, rfl, ?_⟩
  intro notified
  have once := notified.once 8 (.inl List.mem_cons_self) 2 ⟨1, 4, by decide, by decide⟩ (by decide)
  revert once
  decide

end AChat.MsgServer
