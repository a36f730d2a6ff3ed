import AChat.MsgServer.System

/-!
Owns the frame lemmas of the registry operations, and `Shrinks`: an operation
that only takes connections and users out. `Close` shrinks the registry, after
it marked the connection closed.
-/

namespace AChat.MsgServer

open Std

namespace Registry

variable (reg : Registry) (user : UserPtr) (change : ImUser → ImUser)

/-! ### Fields that an operation leaves alone -/

@[simp] theorem modifyUser_self : (reg.modifyUser user change).users user =
    change (reg.users user) := by
  simp [modifyUser]

theorem modifyUser_other {other : UserPtr} (different : other ≠ user) :
    (reg.modifyUser user change).users other = reg.users other := by
  simp [modifyUser, different]

@[simp] theorem modifyUser_conns : (reg.modifyUser user change).conns = reg.conns := rfl
@[simp] theorem modifyUser_nextUser : (reg.modifyUser user change).nextUser = reg.nextUser := rfl
@[simp] theorem modifyUser_accepted : (reg.modifyUser user change).accepted = reg.accepted := rfl
@[simp] theorem modifyUser_imUserMap :
    (reg.modifyUser user change).imUserMap = reg.imUserMap := rfl
@[simp] theorem modifyUser_imUserMapByName :
    (reg.modifyUser user change).imUserMapByName = reg.imUserMapByName := rfl

variable (conn : ConnPtr) (update : MsgConn → MsgConn)

@[simp] theorem modifyConn_self : (reg.modifyConn conn update).conns conn =
    update (reg.conns conn) := by
  simp [modifyConn, setConn]

theorem modifyConn_other {other : ConnPtr} (different : other ≠ conn) :
    (reg.modifyConn conn update).conns other = reg.conns other := by
  simp [modifyConn, setConn, different]

@[simp] theorem modifyConn_users : (reg.modifyConn conn update).users = reg.users := rfl
@[simp] theorem modifyConn_nextUser : (reg.modifyConn conn update).nextUser = reg.nextUser := rfl
@[simp] theorem modifyConn_accepted : (reg.modifyConn conn update).accepted = reg.accepted := rfl
@[simp] theorem modifyConn_imUserMap :
    (reg.modifyConn conn update).imUserMap = reg.imUserMap := rfl
@[simp] theorem modifyConn_imUserMapByName :
    (reg.modifyConn conn update).imUserMapByName = reg.imUserMapByName := rfl

variable (imUser : UserPtr) (loginName : String) (userId : UserId) (userInfo : UserInfo)

@[simp] theorem mergeUser_conns :
    (reg.mergeUser imUser conn loginName userId).2.conns = reg.conns := by
  unfold mergeUser
  split
  · rfl
  · simp only
    split <;> rfl

@[simp] theorem mergeUser_accepted :
    (reg.mergeUser imUser conn loginName userId).2.accepted = reg.accepted := by
  unfold mergeUser
  split
  · rfl
  · simp only
    split <;> rfl

@[simp] theorem identifyUser_conns : (reg.identifyUser user userInfo).conns = reg.conns := by
  unfold identifyUser addImUserById
  split <;> rfl

@[simp] theorem identifyUser_accepted :
    (reg.identifyUser user userInfo).accepted = reg.accepted := by
  unfold identifyUser addImUserById
  split <;> rfl

theorem enqueueLogin_conns : (reg.enqueueLogin conn loginName).conns = reg.conns := by
  unfold enqueueLogin addImUserByLoginName
  split
  · rfl
  · simp only
    split <;> rfl

/-- A login request lists no connection. -/
theorem enqueueLogin_connMap (other : UserPtr) (handle : Handle) (target : ConnPtr)
    (found : ((reg.enqueueLogin conn loginName).users other).connMap[handle]? = some target) :
    (reg.users other).connMap[handle]? = some target := by
  have added : ∀ (before : Registry) (holder : UserPtr),
      ((before.modifyUser holder fun value => value.addUnValidateMsgConn conn).users
        other).connMap = (before.users other).connMap := by
    intro before holder
    by_cases same : other = holder
    · rw [same, modifyUser_self]
      rfl
    · rw [modifyUser_other before holder _ same]
  unfold enqueueLogin at found
  split at found
  · rw [added] at found
    exact found
  · rw [added] at found
    have users : ((reg.newImUser loginName).2.addImUserByLoginName loginName
        (reg.newImUser loginName).1).users =
      Function.update reg.users reg.nextUser (ImUser.new loginName) := by
      unfold addImUserByLoginName
      split <;> rfl
    rw [users] at found
    by_cases same : other = reg.nextUser
    · rw [same, Function.update_self] at found
      simp [ImUser.new] at found
    · rw [Function.update_of_ne same] at found
      exact found

@[simp] theorem openConn_isOpen : ((reg.openConn conn userId).conns conn).isOpen = true := by
  simp [openConn]

@[simp] theorem openConn_userId : ((reg.openConn conn userId).conns conn).userId = userId := by
  simp [openConn]

@[simp] theorem openConn_users : (reg.openConn conn userId).users = reg.users := rfl
@[simp] theorem openConn_accepted : (reg.openConn conn userId).accepted = reg.accepted := rfl
@[simp] theorem openConn_imUserMap :
    (reg.openConn conn userId).imUserMap = reg.imUserMap := rfl
@[simp] theorem openConn_imUserMapByName :
    (reg.openConn conn userId).imUserMapByName = reg.imUserMapByName := rfl

theorem openConn_other {other : ConnPtr} (different : other ≠ conn) :
    (reg.openConn conn userId).conns other = reg.conns other :=
  modifyConn_other reg conn _ different

/-- The connection that a response is for waits under the name, has the handle, and is not open. -/
theorem awaited_eq_some {userName : String} {handle : Handle} {imUser : UserPtr}
    {conn : ConnPtr} (awaited : reg.awaited userName handle = some (imUser, conn)) :
    reg.imUserMapByName[userName]? = some imUser ∧
      (reg.users imUser).getUnValidateMsgConn reg.conns handle = some conn ∧
      conn ∈ (reg.users imUser).unvalidateConnSet ∧
      (reg.conns conn).handle = handle ∧ (reg.conns conn).isOpen = false := by
  unfold Registry.awaited Registry.getImUserByLoginName at awaited
  split at awaited
  · cases awaited
  · rename_i user named
    split at awaited
    · cases awaited
    · rename_i target found
      split at awaited
      · cases awaited
      · rename_i notOpen
        cases awaited
        have sameHandle := List.find?_some found
        have member := List.mem_of_find?_eq_some found
        refine ⟨named, found, ?_, by simpa using sameHandle, by simpa using notOpen⟩
        exact TreeSet.mem_toList.mp member

/-- A deleted user keeps all but the mark. -/
theorem deleteImUser_users (other : UserPtr) :
    (reg.deleteImUser user).users other =
      { reg.users other with
        deleted := ((reg.deleteImUser user).users other).deleted } := by
  unfold deleteImUser
  by_cases same : other = user
  · subst same
    rw [modifyUser_self]
  · rw [modifyUser_other reg user _ same]

/-- Moving a waiting connection changes no user but in who waits. -/
theorem moveWaiting_users (other : UserPtr) :
    (reg.moveWaiting imUser user conn).users other =
      { reg.users other with
        unvalidateConnSet :=
          ((reg.moveWaiting imUser user conn).users other).unvalidateConnSet } := by
  have added : (reg.modifyUser user fun value => value.addUnValidateMsgConn conn).users other =
      { reg.users other with
        unvalidateConnSet := ((reg.modifyUser user fun value =>
          value.addUnValidateMsgConn conn).users other).unvalidateConnSet } := by
    by_cases same : other = user
    · subst same
      rw [modifyUser_self]
      rfl
    · rw [modifyUser_other _ user _ same]
  unfold moveWaiting
  by_cases same : other = imUser
  · subst same
    rw [modifyUser_self, added]
    rfl
  · rw [modifyUser_other _ imUser _ same, added]

theorem moveWaiting_waiting (other : UserPtr) (target : ConnPtr) :
    target ∈ ((reg.moveWaiting imUser user conn).users other).unvalidateConnSet ↔
      (target ∈ (reg.users other).unvalidateConnSet ∨ target = conn ∧ other = user) ∧
        ¬(target = conn ∧ other = imUser) := by
  have added : target ∈ ((reg.modifyUser user fun value =>
        value.addUnValidateMsgConn conn).users other).unvalidateConnSet ↔
      target ∈ (reg.users other).unvalidateConnSet ∨ target = conn ∧ other = user := by
    by_cases same : other = user
    · subst same
      rw [modifyUser_self, ImUser.addUnValidateMsgConn, Lib.treeSet_mem_insert, eq_comm]
      tauto
    · rw [modifyUser_other _ user _ same]
      simp [same]
  unfold moveWaiting
  by_cases same : other = imUser
  · subst same
    rw [modifyUser_self, ImUser.delUnValidateMsgConn, Lib.treeSet_mem_erase, added, ne_comm]
    tauto
  · rw [modifyUser_other _ imUser _ same, added]
    simp [same]

/-- What `identifyUser` sets, and what it leaves. -/
theorem identifyUser_users (other : UserPtr) :
    ((reg.identifyUser user userInfo).users other).connMap = (reg.users other).connMap ∧
    ((reg.identifyUser user userInfo).users other).unvalidateConnSet =
      (reg.users other).unvalidateConnSet ∧
    ((reg.identifyUser user userInfo).users other).loginName = (reg.users other).loginName ∧
    (reg.identifyUser user userInfo).imUserMapByName = reg.imUserMapByName ∧
    ((reg.identifyUser user userInfo).users other).userId =
      if other = user then userInfo.userId else (reg.users other).userId := by
  have users : (reg.identifyUser user userInfo).users =
      (reg.modifyUser user fun value =>
        { value with
          userId := userInfo.userId
          nickName := userInfo.userNickName
          validate := true }).users := by
    unfold identifyUser addImUserById
    split <;> rfl
  have names : (reg.identifyUser user userInfo).imUserMapByName = reg.imUserMapByName := by
    unfold identifyUser addImUserById
    split <;> rfl
  rw [users]
  by_cases same : other = user
  · subst same
    rw [modifyUser_self, if_pos rfl]
    exact ⟨rfl, rfl, rfl, names, rfl⟩
  · rw [modifyUser_other reg user _ same, if_neg same]
    exact ⟨rfl, rfl, rfl, names, rfl⟩

theorem identifyUser_validate (other : UserPtr) :
    ((reg.identifyUser user userInfo).users other).validate =
      if other = user then true else (reg.users other).validate := by
  have users : (reg.identifyUser user userInfo).users =
      (reg.modifyUser user fun value =>
        { value with
          userId := userInfo.userId
          nickName := userInfo.userNickName
          validate := true }).users := by
    unfold identifyUser addImUserById
    split <;> rfl
  rw [users]
  split
  · rename_i same
    rw [same, modifyUser_self]
  · rename_i different
    rw [modifyUser_other reg user _ different]

theorem identifyUser_imUserMap :
    (reg.identifyUser user userInfo).imUserMap =
      if reg.imUserMap[userInfo.userId]? = none then reg.imUserMap.insert userInfo.userId user
      else reg.imUserMap := by
  unfold identifyUser addImUserById
  cases found : reg.imUserMap[userInfo.userId]? with
  | none =>
      rw [if_pos rfl]
      split
      · rfl
      · rename_i other entry
        exact absurd (found.symm.trans entry) (by simp)
  | some other =>
      rw [if_neg (by simp)]
      split
      · rename_i absent
        exact absurd (found.symm.trans absent) (by simp)
      · rfl

theorem mergeUser_imUserMap :
    (reg.mergeUser imUser conn loginName userId).2.imUserMap = reg.imUserMap := by
  unfold mergeUser
  split
  · rfl
  · simp only
    split <;> rfl

/-! ### The stages of an accepted login -/

variable (rsp : ValidateRsp)

/-- The user that takes the connection over. -/
def loginUser : UserPtr :=
  (reg.mergeUser imUser conn rsp.userName rsp.userInfo.userId).1

/-- The registry once that user has the answered id. -/
def identified : Registry :=
  (reg.mergeUser imUser conn rsp.userName rsp.userInfo.userId).2.identifyUser
    (reg.loginUser conn imUser rsp) rsp.userInfo

/-- The registry once that user kicked a connection of the same class. -/
def duplicateKicked : Registry :=
  ((reg.identified conn imUser rsp).kickOutSameClientType (reg.loginUser conn imUser rsp)
    (reg.conns conn).clientType kickReasonDuplicateUser (some conn)).1

theorem identified_conns : (reg.identified conn imUser rsp).conns = reg.conns := by
  unfold identified
  rw [identifyUser_conns, mergeUser_conns]

theorem identified_accepted : (reg.identified conn imUser rsp).accepted = reg.accepted := by
  unfold identified
  rw [identifyUser_accepted, mergeUser_accepted]

theorem duplicateKicked_untouched :
    Untouched (reg.identified conn imUser rsp) (reg.duplicateKicked conn imUser rsp) :=
  kickOutSameClientType_untouched _ _ _ _ _

theorem acceptLogin_registry (routeServ : Bool) (now : Nat) :
    (reg.acceptLogin imUser conn rsp routeServ now).1 =
      ((reg.duplicateKicked conn imUser rsp).openConn conn rsp.userInfo.userId).modifyUser
        (reg.loginUser conn imUser rsp) fun value =>
          value.validateMsgConn (reg.conns conn).handle conn := by
  have handle := (reg.duplicateKicked_untouched conn imUser rsp).handle conn
  rw [identified_conns] at handle
  rw [← handle]
  unfold acceptLogin
  simp only [identifyUser_conns, mergeUser_conns]
  unfold openConn
  rw [modifyConn_self]
  rfl

theorem acceptLogin_sent (routeServ : Bool) (now : Nat) :
    ∃ before after, Quiet none before ∧ Quiet none after ∧
      (reg.acceptLogin imUser conn rsp routeServ now).2 =
        before ++
          ((reg.duplicateKicked conn imUser rsp).openConn conn
            rsp.userInfo.userId).sendUserStatusUpdate conn userStatusOnline ++ after := by
  unfold acceptLogin
  simp only [identifyUser_conns, mergeUser_conns]
  exact ⟨_, _, (kickOutSameClientType_quiet _ _ _ _ _).append (Quiet.route routeServ _),
    Quiet.client conn _, rfl⟩

/-! ### What an accepted login changes -/

/-- A merge changes no user but in who waits and in the mark of a deletion. -/
theorem mergeUser_users (other : UserPtr) :
    (reg.mergeUser imUser conn loginName userId).2.users other =
      { reg.users other with
        unvalidateConnSet :=
          ((reg.mergeUser imUser conn loginName userId).2.users other).unvalidateConnSet
        deleted := ((reg.mergeUser imUser conn loginName userId).2.users other).deleted } := by
  unfold mergeUser
  split
  · rfl
  · rename_i target _
    have moved := reg.moveWaiting_users target conn imUser other
    simp only
    split
    · rw [deleteImUser_users, show ((reg.moveWaiting imUser target
        conn).removeImUserByLoginName loginName).users other = _ from moved]
    · rw [moved]

theorem mergeUser_waiting (other : UserPtr) (target : ConnPtr) :
    target ∈ ((reg.mergeUser imUser conn loginName userId).2.users other).unvalidateConnSet ∧
        ¬(target = conn ∧ other = (reg.mergeUser imUser conn loginName userId).1) ↔
      target ∈ (reg.users other).unvalidateConnSet ∧
        ¬(target = conn ∧ (other = (reg.mergeUser imUser conn loginName userId).1 ∨
          other = imUser)) := by
  unfold mergeUser
  split
  · simp
  · rename_i user _
    have moved := reg.moveWaiting_waiting user conn imUser other target
    have same : ∀ dropped : Registry,
        (∀ other, (dropped.users other).unvalidateConnSet =
          ((reg.moveWaiting imUser user conn).users other).unvalidateConnSet) →
        (target ∈ (dropped.users other).unvalidateConnSet ∧ ¬(target = conn ∧ other = user) ↔
          target ∈ (reg.users other).unvalidateConnSet ∧
            ¬(target = conn ∧ (other = user ∨ other = imUser))) := by
      intro dropped keeps
      rw [keeps, moved]
      grind
    simp only
    split
    · refine same _ fun other => ?_
      rw [deleteImUser_users]
      rfl
    · exact same _ fun _ => rfl

variable (routeServ : Bool) (now : Nat)

/-- The user that takes the connection over validates it, and the others stay as they were. -/
theorem acceptLogin_users (other : UserPtr) :
    (reg.acceptLogin imUser conn rsp routeServ now).1.users other =
      if other = reg.loginUser conn imUser rsp then
        ((reg.identified conn imUser rsp).users other).validateMsgConn (reg.conns conn).handle conn
      else (reg.identified conn imUser rsp).users other := by
  rw [acceptLogin_registry, ← (reg.duplicateKicked_untouched conn imUser rsp).users]
  split
  · rename_i same
    rw [same, modifyUser_self, openConn_users]
  · rename_i different
    rw [modifyUser_other _ _ _ different, openConn_users]

/-- The user that takes the connection over lists it under its handle. -/
theorem acceptLogin_connMap (other : UserPtr) :
    ((reg.acceptLogin imUser conn rsp routeServ now).1.users other).connMap =
      if other = reg.loginUser conn imUser rsp then
        (reg.users other).connMap.insert (reg.conns conn).handle conn
      else (reg.users other).connMap := by
  have before : ((reg.identified conn imUser rsp).users other).connMap =
      (reg.users other).connMap := by
    refine (identifyUser_users _ _ _ other).1.trans ?_
    rw [mergeUser_users]
  rw [acceptLogin_users, ← before]
  split <;> rfl

/-- The connection waits no more, neither where it waited nor where it went. -/
theorem acceptLogin_waiting (other : UserPtr) (target : ConnPtr) :
    target ∈ ((reg.acceptLogin imUser conn rsp routeServ now).1.users other).unvalidateConnSet ↔
      target ∈ (reg.users other).unvalidateConnSet ∧
        ¬(target = conn ∧ (other = reg.loginUser conn imUser rsp ∨ other = imUser)) := by
  have before : ((reg.identified conn imUser rsp).users other).unvalidateConnSet =
      ((reg.mergeUser imUser conn rsp.userName rsp.userInfo.userId).2.users
        other).unvalidateConnSet := (identifyUser_users _ _ _ other).2.1
  have merged := reg.mergeUser_waiting conn imUser rsp.userName rsp.userInfo.userId other target
  rw [← before] at merged
  rw [acceptLogin_users]
  refine Iff.trans ?_ merged
  split
  · rename_i same
    rw [same]
    unfold ImUser.validateMsgConn ImUser.delUnValidateMsgConn
    rw [Lib.treeSet_mem_erase, ne_comm]
    constructor
    · rintro ⟨different, member⟩
      exact ⟨member, fun both => different both.1⟩
    · rintro ⟨member, different⟩
      exact ⟨fun equal => different ⟨equal, rfl⟩, member⟩
  · rename_i different
    constructor
    · exact fun member => ⟨member, fun both => different both.2⟩
    · exact And.left

/-- The user that takes the connection over is the one with the answered id, else
the one under the login name. -/
theorem loginUser_cases :
    reg.imUserMap[rsp.userInfo.userId]? = none ∧ reg.loginUser conn imUser rsp = imUser ∨
      reg.imUserMap[rsp.userInfo.userId]? = some (reg.loginUser conn imUser rsp) := by
  unfold loginUser mergeUser
  cases found : reg.getImUserById rsp.userInfo.userId with
  | none => exact .inl ⟨found, rfl⟩
  | some user => exact .inr found

theorem acceptLogin_userId (other : UserPtr) :
    ((reg.acceptLogin imUser conn rsp routeServ now).1.users other).userId =
      if other = reg.loginUser conn imUser rsp then rsp.userInfo.userId
      else (reg.users other).userId := by
  have before : ((reg.identified conn imUser rsp).users other).userId =
      if other = reg.loginUser conn imUser rsp then rsp.userInfo.userId
      else (reg.users other).userId := by
    refine (identifyUser_users _ _ _ other).2.2.2.2.trans ?_
    rw [mergeUser_users]
  rw [acceptLogin_users, ← before]
  split <;> rfl

/-- A login registers no name and may take one away. -/
theorem acceptLogin_names {name : String} {other : UserPtr}
    (found : (reg.acceptLogin imUser conn rsp routeServ now).1.imUserMapByName[name]? =
      some other) : reg.imUserMapByName[name]? = some other := by
  rw [acceptLogin_registry, modifyUser_imUserMapByName, openConn_imUserMapByName,
    (reg.duplicateKicked_untouched conn imUser rsp).imUserMapByName] at found
  unfold identified at found
  rw [(identifyUser_users _ (reg.loginUser conn imUser rsp) rsp.userInfo other).2.2.2.1] at found
  unfold mergeUser at found
  split at found
  · exact found
  · simp only at found
    split at found
    · have erased : (reg.imUserMapByName.erase rsp.userName)[name]? = some other := found
      rw [Lib.getElem?_erase_ite] at erased
      split at erased
      · cases erased
      · exact erased
    · exact found

theorem acceptLogin_conns (target : ConnPtr) :
    ((reg.acceptLogin imUser conn rsp routeServ now).1.conns target).standing =
      if target = conn then
        { (reg.conns conn).standing with userId := rsp.userInfo.userId, isOpen := true }
      else (reg.conns target).standing := by
  have kick := (reg.duplicateKicked_untouched conn imUser rsp).standing
  rw [acceptLogin_registry, modifyUser_conns]
  split
  · rename_i same
    subst same
    have own := kick target
    rw [identified_conns] at own
    rw [← own]
    simp [openConn, MsgConn.standing]
  · rename_i different
    rw [openConn_other _ _ _ different, kick, identified_conns]

/-- A login changes the user id of its connection and opens it. The rest stays. -/
theorem acceptLogin_field {Value : Type} (field : Standing → Value)
    (keeps : ∀ (standing : Standing) (userId : UserId) (isOpen : Bool),
      field { standing with userId := userId, isOpen := isOpen } = field standing)
    (target : ConnPtr) :
    field ((reg.acceptLogin imUser conn rsp routeServ now).1.conns target).standing =
      field (reg.conns target).standing := by
  rw [acceptLogin_conns]
  split
  · rename_i same
    rw [keeps, same]
  · rfl

theorem acceptLogin_handle (target : ConnPtr) :
    ((reg.acceptLogin imUser conn rsp routeServ now).1.conns target).handle =
      (reg.conns target).handle :=
  reg.acceptLogin_field conn imUser rsp routeServ now Standing.handle (fun _ _ _ => rfl) target

theorem acceptLogin_loginName (target : ConnPtr) :
    ((reg.acceptLogin imUser conn rsp routeServ now).1.conns target).loginName =
      (reg.conns target).loginName :=
  reg.acceptLogin_field conn imUser rsp routeServ now Standing.loginName (fun _ _ _ => rfl) target

theorem acceptLogin_clientType (target : ConnPtr) :
    ((reg.acceptLogin imUser conn rsp routeServ now).1.conns target).clientType =
      (reg.conns target).clientType :=
  reg.acceptLogin_field conn imUser rsp routeServ now Standing.clientType (fun _ _ _ => rfl) target

theorem acceptLogin_closed (target : ConnPtr) :
    ((reg.acceptLogin imUser conn rsp routeServ now).1.conns target).closed =
      (reg.conns target).closed :=
  reg.acceptLogin_field conn imUser rsp routeServ now Standing.closed (fun _ _ _ => rfl) target

theorem acceptLogin_accepted :
    (reg.acceptLogin imUser conn rsp routeServ now).1.accepted = reg.accepted := by
  rw [acceptLogin_registry, modifyUser_accepted, openConn_accepted,
    (reg.duplicateKicked_untouched conn imUser rsp).accepted, identified_accepted]

end Registry

/-- The registry lost entries, connections or waiting connections, and nothing else changed. -/
structure Shrinks (before after : Registry) : Prop where
  conns : after.conns = before.conns
  nextUser : after.nextUser = before.nextUser
  accepted : after.accepted = before.accepted
  names : ∀ (name : String) (user : UserPtr),
    after.imUserMapByName[name]? = some user → before.imUserMapByName[name]? = some user
  ids : ∀ (userId : UserId) (user : UserPtr),
    after.imUserMap[userId]? = some user → before.imUserMap[userId]? = some user
  connMap : ∀ (user : UserPtr) (handle : Handle) (conn : ConnPtr),
    (after.users user).connMap[handle]? = some conn →
      (before.users user).connMap[handle]? = some conn
  waiting : ∀ (user : UserPtr) (conn : ConnPtr),
    conn ∈ (after.users user).unvalidateConnSet → conn ∈ (before.users user).unvalidateConnSet
  userId : ∀ user, (after.users user).userId = (before.users user).userId
  loginName : ∀ user, (after.users user).loginName = (before.users user).loginName
  validate : ∀ user, (after.users user).validate = (before.users user).validate

namespace Shrinks

variable {before middle after : Registry}

theorem refl (reg : Registry) : Shrinks reg reg :=
  ⟨rfl, rfl, rfl, fun _ _ found => found, fun _ _ found => found, fun _ _ _ found => found,
    fun _ _ member => member, fun _ => rfl, fun _ => rfl, fun _ => rfl⟩

theorem trans (first : Shrinks before middle) (second : Shrinks middle after) :
    Shrinks before after where
  conns := second.conns.trans first.conns
  nextUser := second.nextUser.trans first.nextUser
  accepted := second.accepted.trans first.accepted
  names name user found := first.names name user (second.names name user found)
  ids userId user found := first.ids userId user (second.ids userId user found)
  connMap user handle conn found :=
    first.connMap user handle conn (second.connMap user handle conn found)
  waiting user conn member := first.waiting user conn (second.waiting user conn member)
  userId user := (second.userId user).trans (first.userId user)
  loginName user := (second.loginName user).trans (first.loginName user)
  validate user := (second.validate user).trans (first.validate user)

/-- A user that loses connections. -/
theorem modifyUser (reg : Registry) (user : UserPtr) {change : ImUser → ImUser}
    (connMap : ∀ (handle : Handle) (conn : ConnPtr),
      (change (reg.users user)).connMap[handle]? = some conn →
        (reg.users user).connMap[handle]? = some conn)
    (waiting : ∀ conn : ConnPtr, conn ∈ (change (reg.users user)).unvalidateConnSet →
      conn ∈ (reg.users user).unvalidateConnSet)
    (userId : (change (reg.users user)).userId = (reg.users user).userId)
    (loginName : (change (reg.users user)).loginName = (reg.users user).loginName)
    (validate : (change (reg.users user)).validate = (reg.users user).validate) :
    Shrinks reg (reg.modifyUser user change) := by
  refine ⟨rfl, rfl, rfl, fun _ _ found => found, fun _ _ found => found, ?_, ?_, ?_, ?_, ?_⟩
  all_goals
    intro other
    by_cases same : other = user
  · subst same
    rw [Registry.modifyUser_self]
    exact connMap
  · rw [Registry.modifyUser_other reg user change same]
    exact fun _ _ found => found
  · subst same
    rw [Registry.modifyUser_self]
    exact waiting
  · rw [Registry.modifyUser_other reg user change same]
    exact fun _ member => member
  all_goals
    first
      | rw [Registry.modifyUser_other reg user change same]
      | (subst same
         rw [Registry.modifyUser_self]
         assumption)

theorem leave (reg : Registry) (user : UserPtr) (handle : Handle) (conn : ConnPtr) :
    Shrinks reg (reg.modifyUser user fun value =>
      (value.delMsgConn handle).delUnValidateMsgConn conn) := by
  refine modifyUser reg user ?_ ?_ rfl rfl rfl
  · intro other target found
    simp only [ImUser.delUnValidateMsgConn, ImUser.delMsgConn, Lib.getElem?_erase_ite] at found
    split at found
    · cases found
    · exact found
  · intro other member
    exact ((Lib.treeSet_mem_erase _ _ _).mp member).2

theorem delUnValidate (reg : Registry) (user : UserPtr) (conn : ConnPtr) :
    Shrinks reg (reg.modifyUser user fun value => value.delUnValidateMsgConn conn) := by
  refine modifyUser reg user (fun _ _ found => found) ?_ rfl rfl rfl
  intro other member
  exact ((Lib.treeSet_mem_erase _ _ _).mp member).2

theorem removeImUserById (reg : Registry) (userId : UserId) :
    Shrinks reg (reg.removeImUserById userId) := by
  refine ⟨rfl, rfl, rfl, fun _ _ found => found, ?_, fun _ _ _ found => found,
    fun _ _ member => member, fun _ => rfl, fun _ => rfl, fun _ => rfl⟩
  intro other user found
  simp only [Registry.removeImUserById, Lib.getElem?_erase_ite] at found
  split at found
  · cases found
  · exact found

theorem removeImUserByLoginName (reg : Registry) (loginName : String) :
    Shrinks reg (reg.removeImUserByLoginName loginName) := by
  refine ⟨rfl, rfl, rfl, ?_, fun _ _ found => found, fun _ _ _ found => found,
    fun _ _ member => member, fun _ => rfl, fun _ => rfl, fun _ => rfl⟩
  intro other user found
  simp only [Registry.removeImUserByLoginName, Lib.getElem?_erase_ite] at found
  split at found
  · cases found
  · exact found

theorem deleteImUser (reg : Registry) (user : UserPtr) : Shrinks reg (reg.deleteImUser user) :=
  modifyUser reg user (fun _ _ found => found) (fun _ member => member) rfl rfl rfl

theorem removeImUser (reg : Registry) (user : UserPtr) : Shrinks reg (reg.removeImUser user) :=
  ((removeImUserById reg _).trans (removeImUserByLoginName _ _)).trans (deleteImUser _ user)

theorem removeIfEmpty (reg : Registry) (user : UserPtr) :
    Shrinks reg (reg.removeIfEmpty user) := by
  unfold Registry.removeIfEmpty
  split
  · exact removeImUser reg user
  · exact refl reg

theorem closeById (reg : Registry) (conn : ConnPtr) : Shrinks reg (reg.closeById conn).1 := by
  unfold Registry.closeById
  split
  · exact refl reg
  · rename_i user _
    exact (leave reg user _ conn).trans (removeIfEmpty _ user)

theorem closeByLoginName (reg : Registry) (conn : ConnPtr) :
    Shrinks reg (reg.closeByLoginName conn) := by
  unfold Registry.closeByLoginName
  split
  · exact refl reg
  · rename_i user _
    exact (delUnValidate reg user conn).trans (removeIfEmpty _ user)

theorem close (reg : Registry) (conn : ConnPtr) :
    Shrinks (reg.markClosed conn) (reg.close conn).1 :=
  (closeById (reg.markClosed conn) conn).trans (closeByLoginName _ conn)

variable (shrinks : Shrinks before after)
include shrinks

theorem listed {conn : ConnPtr} (listed : after.Listed conn) : before.Listed conn := by
  obtain ⟨user, handle, found⟩ := listed
  exact ⟨user, handle, shrinks.connMap user handle conn found⟩

end Shrinks

/-! ### What `Close` takes out -/

namespace Registry

variable (reg : Registry) (conn : ConnPtr)

/-- The user found under the user id of a closed connection has no connection under its handle. -/
theorem close_connMap {user : UserPtr}
    (found : reg.imUserMap[(reg.conns conn).userId]? = some user) :
    ((reg.close conn).1.users user).connMap[(reg.conns conn).handle]? = none := by
  have sameId : ((reg.markClosed conn).conns conn).userId = (reg.conns conn).userId := by
    simp [markClosed]
  have sameHandle : ((reg.markClosed conn).conns conn).handle = (reg.conns conn).handle := by
    simp [markClosed]
  have taken : (((reg.markClosed conn).closeById conn).1.users user).connMap[
      (reg.conns conn).handle]? = none := by
    unfold closeById getImUserById
    rw [sameId, show (reg.markClosed conn).imUserMap[_]? = some user from found, sameHandle]
    simp only
    cases entry : (((modifyUser (reg.markClosed conn) user fun value =>
        (value.delMsgConn (reg.conns conn).handle).delUnValidateMsgConn conn).removeIfEmpty
          user).users user).connMap[(reg.conns conn).handle]? with
    | none => rfl
    | some target =>
        have earlier := (Shrinks.removeIfEmpty _ user).connMap user _ target entry
        rw [modifyUser_self] at earlier
        simp [ImUser.delUnValidateMsgConn, ImUser.delMsgConn] at earlier
  cases entry : ((reg.close conn).1.users user).connMap[(reg.conns conn).handle]? with
  | none => rfl
  | some target =>
      have earlier := (Shrinks.closeByLoginName _ conn).connMap user _ target entry
      rw [taken] at earlier
      cases earlier

/-- A closed connection does not wait for the user under its login name. -/
theorem close_waiting {user : UserPtr}
    (found : (reg.close conn).1.imUserMapByName[(reg.conns conn).loginName]? = some user) :
    conn ∉ ((reg.close conn).1.users user).unvalidateConnSet := by
  have sameName : (((reg.markClosed conn).closeById conn).1.conns conn).loginName =
      (reg.conns conn).loginName := by
    rw [(Shrinks.closeById (reg.markClosed conn) conn).conns]
    simp [markClosed]
  have earlier := (Shrinks.closeByLoginName _ conn).names _ user found
  intro member
  unfold close at member
  simp only at member
  unfold closeByLoginName getImUserByLoginName at member
  rw [sameName, earlier] at member
  simp only at member
  have left := (Shrinks.removeIfEmpty _ user).waiting user conn member
  rw [modifyUser_self] at left
  exact ((Lib.treeSet_mem_erase _ _ _).mp left).1 rfl

end Registry

end AChat.MsgServer
