import AChat.MsgServer.RegistryConsistency

/-!
Contract: a login that waits for the response of a DB server is not lost.

`IsMsgConnEmpty` does not look at the connections that wait, so a user is
deleted under them when its last validated connection leaves, or when it never
had one. The contract needs that no other login waits in a user that a step
deletes, that a response finds the connection of its request, and that a login
request is found under its name.

Owns: the invariant of the requests on their way.
-/

namespace AChat.MsgServer

open Std

/-! ### The condition on the steps -/

/-- The request was not answered, and its connection was not closed. -/
def Server.Pending (server : Server) (req : ValidateReq) : Prop :=
  req ∈ server.inflight ∧ (server.reg.conns req.conn).closed = false

/-- `Close` of the connection leaves the user without validated connections. -/
def Registry.Empties (reg : Registry) (conn : ConnPtr) (user : UserPtr) : Prop :=
  reg.imUserMap[(reg.conns conn).userId]? = some user ∧
      ((reg.users user).delMsgConn (reg.conns conn).handle).isMsgConnEmpty = true ∨
    reg.imUserMapByName[(reg.conns conn).loginName]? = some user ∧
      (reg.users user).isMsgConnEmpty = true

/-- The user under a login name is deleted when its first login goes to the user
that already has the answered id. -/
def Registry.MergesAway (reg : Registry) (imUser : UserPtr) (rsp : ValidateRsp) : Prop :=
  reg.imUserMap[rsp.userInfo.userId]? ≠ none ∧ (reg.users imUser).isMsgConnEmpty = true

/-- The users that an event deletes. -/
def Server.Deletes (server : Server) (event : Event) (user : UserPtr) : Prop :=
  match server.closing event, event with
  | some conn, _ => server.reg.Empties conn user
  | none, .validateRsp _ rsp _ _ =>
      (∃ conn, server.reg.awaited rsp.userName rsp.attach = some (user, conn)) ∧
        server.reg.MergesAway user rsp
  | none, _ => False

/-- No other pending login waits in a user that the event deletes. -/
def KeepsWaiting (server : Server) (event : Event) : Prop :=
  ∀ (user : UserPtr) (req : ValidateReq), server.Deletes event user → server.Pending req →
    req ∈ server.unanswered event → server.closing event ≠ some req.conn →
      req.conn ∉ (server.reg.users user).unvalidateConnSet

/-- A response finds no live connection but that of its request, and opens it
only when it has no other request on its way. -/
def AnswersOwn (server : Server) : Event → Prop
  | .validateRsp req rsp _ _ =>
      ∀ user conn, server.reg.awaited rsp.userName rsp.attach = some (user, conn) →
        (server.reg.conns conn).closed = false →
          conn = req.conn ∧
            (rsp.resultCode = 0 → ∀ other ∈ server.inflight.erase req, other.conn ≠ conn)
  | _ => True

/-- A login request comes on a connection that is not open. Where a closed and a
live connection with one handle wait under one name, the live one comes first. -/
def LoginsFound (server : Server) : Event → Prop
  | .read conn pdu given =>
      ∀ userName clientType,
        server.reg.startedLogin (server.peers given) conn pdu = some (userName, clientType) →
        ((server.reg.conns conn).closed = false → (server.reg.conns conn).isOpen = false) ∧
        ∀ user, server.reg.imUserMapByName[userName]? = some user →
          ∀ other ∈ (server.reg.users user).unvalidateConnSet,
            (server.reg.conns other).handle = (server.reg.conns conn).handle → other ≠ conn →
              ((server.reg.conns conn).closed = false → conn < other) ∧
                ((server.reg.conns other).closed = false → other < conn)
  | _ => True

def KeepsLogins (server : Server) (event : Event) : Prop :=
  KeepsWaiting server event ∧ AnswersOwn server event ∧ LoginsFound server event

/-! ### What a step keeps of a waiting connection -/

/-- A connection that waits in a named user still does, among no others. -/
structure Keeps (conn : ConnPtr) (before after : Registry) : Prop where
  loginName : (after.conns conn).loginName = (before.conns conn).loginName
  isOpen : (after.conns conn).isOpen = (before.conns conn).isOpen
  handle : ∀ (user : UserPtr) (other : ConnPtr),
    other ∈ (after.users user).unvalidateConnSet →
      (after.conns other).handle = (before.conns other).handle
  waits : ∀ (name : String) (user : UserPtr), before.imUserMapByName[name]? = some user →
    conn ∈ (before.users user).unvalidateConnSet →
      after.imUserMapByName[name]? = some user ∧ conn ∈ (after.users user).unvalidateConnSet
  waiting : ∀ (user : UserPtr) (other : ConnPtr),
    other ∈ (after.users user).unvalidateConnSet → other ∈ (before.users user).unvalidateConnSet

namespace Registry

/-- The connection waits in the user under the name. -/
def WaitsAs (reg : Registry) (conn : ConnPtr) (name : String) : Prop :=
  ∃ user, reg.imUserMapByName[name]? = some user ∧ conn ∈ (reg.users user).unvalidateConnSet

/-- The response to the request finds its connection. -/
def Finds (reg : Registry) (req : ValidateReq) : Prop :=
  (reg.conns req.conn).handle = req.handle ∧ (reg.conns req.conn).isOpen = false ∧
    ∃ user, reg.imUserMapByName[req.userName]? = some user ∧
      req.conn ∈ (reg.users user).unvalidateConnSet ∧
      ∀ other ∈ (reg.users user).unvalidateConnSet,
        (reg.conns other).handle = req.handle → req.conn ≤ other

variable {reg before after : Registry}

theorem WaitsAs.keeps {conn : ConnPtr} {name : String} (waits : before.WaitsAs conn name)
    (keeps : Keeps conn before after) : after.WaitsAs conn name := by
  obtain ⟨user, named, member⟩ := waits
  exact ⟨user, keeps.waits name user named member⟩

theorem Finds.keeps {req : ValidateReq} (finds : before.Finds req)
    (keeps : Keeps req.conn before after) : after.Finds req := by
  obtain ⟨sameHandle, notOpen, user, named, member, first⟩ := finds
  obtain ⟨stillNamed, stillMember⟩ := keeps.waits _ user named member
  refine ⟨?_, ?_, user, stillNamed, stillMember, ?_⟩
  · rw [keeps.handle user req.conn stillMember]
    exact sameHandle
  · rw [keeps.isOpen]
    exact notOpen
  · intro other among
    rw [keeps.handle user other among]
    exact first other (keeps.waiting user other among)

/-- The response to such a request is for its connection. -/
theorem Finds.awaited {req : ValidateReq} (finds : reg.Finds req) :
    ∃ user, reg.awaited req.userName req.handle = some (user, req.conn) := by
  obtain ⟨sameHandle, notOpen, user, named, member, first⟩ := finds
  refine ⟨user, ?_⟩
  have found : (reg.users user).getUnValidateMsgConn reg.conns req.handle = some req.conn := by
    refine Lib.treeSet_find?_toList member ?_ ?_
    · simpa using sameHandle
    · intro other among same below
      have order := first other among (by simpa using same)
      exact Nat.not_lt.mpr order (Nat.compare_eq_lt.mp below)
  unfold Registry.awaited Registry.getImUserByLoginName
  rw [named]
  simp only
  rw [found]
  simp only
  rw [if_neg]
  rw [notOpen]
  exact Bool.false_ne_true

end Registry

/-! ### The operations -/

theorem Untouched.keeps {before after : Registry} (untouched : Untouched before after)
    (conn : ConnPtr) : Keeps conn before after where
  loginName := untouched.loginName conn
  isOpen := untouched.isOpen conn
  handle _ other _ := untouched.handle other
  waits name user named member := by
    rw [untouched.imUserMapByName, untouched.users]
    exact ⟨named, member⟩
  waiting user other member := by
    rw [untouched.users] at member
    exact member

theorem Keeps.trans {conn : ConnPtr} {before middle after : Registry}
    (first : Keeps conn before middle) (second : Keeps conn middle after) :
    Keeps conn before after where
  loginName := second.loginName.trans first.loginName
  isOpen := second.isOpen.trans first.isOpen
  handle user other member :=
    (second.handle user other member).trans
      (first.handle user other (second.waiting user other member))
  waits name user named member := by
    obtain ⟨stillNamed, stillMember⟩ := first.waits name user named member
    exact second.waits name user stillNamed stillMember
  waiting user other member := first.waiting user other (second.waiting user other member)

theorem keeps_accept {reg : Registry} (authorized : Authorized reg) {conn fresh : ConnPtr}
    (accepted : conn ∈ reg.accepted) (new : fresh ∉ reg.accepted) (handle : Handle)
    (clientType : BitVec 32) (now : Nat) :
    Keeps conn reg (reg.accept fresh handle clientType now) := by
  have keep : ∀ other, other ∈ reg.accepted →
      (reg.accept fresh handle clientType now).conns other = reg.conns other := by
    intro other known
    have different : other ≠ fresh := by
      rintro rfl
      exact new known
    simp [Registry.accept, Registry.setConn, different]
  refine ⟨?_, ?_, ?_, fun _ _ named member => ⟨named, member⟩, fun _ _ member => member⟩
  · rw [keep conn accepted]
  · rw [keep conn accepted]
  · intro user other member
    rw [keep other (authorized.waiting user other member)]

namespace Registry

variable {reg : Registry}

/-- Removing another user, or none, keeps a named user. -/
theorem removeIfEmpty_keeps {vacated : Option UserPtr} (shape : Shape vacated reg) {name : String}
    {user target : UserPtr} (named : reg.imUserMapByName[name]? = some user)
    (targetNamed : reg.imUserMapByName[(reg.users target).loginName]? = some target)
    (stays : target = user → (reg.users target).isMsgConnEmpty = false) :
    (reg.removeIfEmpty target).imUserMapByName[name]? = some user ∧
      (reg.removeIfEmpty target).users user = reg.users user := by
  unfold removeIfEmpty
  split
  · rename_i empty
    have different : user ≠ target := by
      rintro rfl
      rw [stays rfl] at empty
      cases empty
    refine ⟨(shape.erase_name targetNamed name user).mpr ⟨named, different⟩, ?_⟩
    unfold removeImUser deleteImUser
    rw [modifyUser_other _ target _ different]
    rfl
  · exact ⟨named, rfl⟩

/-- A connection that waits in a user which does not lose its last connection goes on waiting. -/
theorem closeById_keeps (shape : Shape none reg) {conn other : ConnPtr} (different : other ≠ conn)
    {name : String} {user : UserPtr} (named : reg.imUserMapByName[name]? = some user)
    (member : other ∈ (reg.users user).unvalidateConnSet)
    (stays : reg.imUserMap[(reg.conns conn).userId]? = some user →
      ((reg.users user).delMsgConn (reg.conns conn).handle).isMsgConnEmpty = false) :
    (reg.closeById conn).1.imUserMapByName[name]? = some user ∧
      other ∈ ((reg.closeById conn).1.users user).unvalidateConnSet ∧
      (((reg.closeById conn).1.users user).isMsgConnEmpty = true →
        (reg.users user).isMsgConnEmpty = true) := by
  unfold closeById getImUserById
  split
  · exact ⟨named, member, id⟩
  · rename_i target found
    have targetNamed := shape.named_of_id found
    have left := shape.leave targetNamed (reg.conns conn).handle conn
    by_cases same : target = user
    · subst same
      have kept := stays found
      obtain ⟨stillNamed, unchanged⟩ := removeIfEmpty_keeps left named
        (by rw [modifyUser_self]; exact targetNamed)
        (fun _ => by rw [modifyUser_self]; exact kept)
      refine ⟨stillNamed, ?_, ?_⟩
      · simp only
        rw [unchanged, modifyUser_self]
        exact (Lib.treeSet_mem_erase _ _ _).mpr ⟨different.symm, member⟩
      · simp only
        rw [unchanged, modifyUser_self]
        intro empty
        have absent : ((reg.users target).delMsgConn (reg.conns conn).handle).isMsgConnEmpty =
            true := empty
        rw [kept] at absent
        cases absent
    · obtain ⟨stillNamed, unchanged⟩ := removeIfEmpty_keeps left named
        (by rw [modifyUser_self]; exact targetNamed) (fun equal => absurd equal same)
      refine ⟨stillNamed, ?_, ?_⟩
      · simp only
        rw [unchanged, modifyUser_other _ _ _ (Ne.symm same)]
        exact member
      · simp only
        rw [unchanged, modifyUser_other _ _ _ (Ne.symm same)]
        exact id

theorem closeByLoginName_keeps (shape : Shape none reg) {conn other : ConnPtr}
    (different : other ≠ conn) {name : String} {user : UserPtr}
    (named : reg.imUserMapByName[name]? = some user)
    (member : other ∈ (reg.users user).unvalidateConnSet)
    (stays : reg.imUserMapByName[(reg.conns conn).loginName]? = some user →
      (reg.users user).isMsgConnEmpty = false) :
    (reg.closeByLoginName conn).imUserMapByName[name]? = some user ∧
      other ∈ ((reg.closeByLoginName conn).users user).unvalidateConnSet := by
  unfold closeByLoginName getImUserByLoginName
  split
  · exact ⟨named, member⟩
  · rename_i target found
    have left : Shape none (reg.modifyUser target fun value => value.delUnValidateMsgConn conn) :=
      shape.delUnValidate found conn
    have sameName := (shape.nameEntry _ target found).2.1
    have targetNamed : reg.imUserMapByName[((reg.modifyUser target fun value =>
        value.delUnValidateMsgConn conn).users target).loginName]? = some target := by
      rw [modifyUser_self]
      exact sameName ▸ found
    obtain ⟨stillNamed, unchanged⟩ := removeIfEmpty_keeps left named targetNamed (by
      rintro rfl
      rw [modifyUser_self]
      exact stays found)
    refine ⟨stillNamed, ?_⟩
    rw [unchanged]
    by_cases same : user = target
    · subst same
      rw [modifyUser_self]
      exact (Lib.treeSet_mem_erase _ _ _).mpr ⟨different.symm, member⟩
    · rw [modifyUser_other _ target _ same]
      exact member

end Registry

theorem keeps_close {reg : Registry} (shape : Shape none reg) {conn other : ConnPtr}
    (different : other ≠ conn)
    (stays : ∀ user, reg.Empties conn user → other ∉ (reg.users user).unvalidateConnSet) :
    Keeps other reg (reg.close conn).1 := by
  have shrinks := Shrinks.close reg conn
  have marked : Shape none (reg.markClosed conn) := shape.modifyConn conn _ rfl rfl rfl
  have keep : ∀ target, ((reg.close conn).1.conns target).loginName = (reg.conns target).loginName ∧
      ((reg.close conn).1.conns target).isOpen = (reg.conns target).isOpen ∧
      ((reg.close conn).1.conns target).handle = (reg.conns target).handle := by
    intro target
    rw [shrinks.conns]
    unfold Registry.markClosed
    by_cases same : target = conn
    · subst same
      rw [Registry.modifyConn_self]
      exact ⟨rfl, rfl, rfl⟩
    · rw [Registry.modifyConn_other reg conn _ same]
      exact ⟨rfl, rfl, rfl⟩
  have own : (((reg.markClosed conn).conns conn).userId = (reg.conns conn).userId ∧
      ((reg.markClosed conn).conns conn).handle = (reg.conns conn).handle) ∧
      ((reg.markClosed conn).conns conn).loginName = (reg.conns conn).loginName := by
    simp [Registry.markClosed]
  refine ⟨(keep other).1, (keep other).2.1, fun _ target _ => (keep target).2.2, ?_,
    fun user target => shrinks.waiting user target⟩
  intro name user named member
  have staysById : (reg.markClosed conn).imUserMap[((reg.markClosed conn).conns conn).userId]? =
      some user → (((reg.markClosed conn).users user).delMsgConn
        ((reg.markClosed conn).conns conn).handle).isMsgConnEmpty = false := by
    rw [own.1.1, own.1.2]
    intro found
    rw [Bool.eq_false_iff]
    exact fun empty => stays user (.inl ⟨found, empty⟩) member
  obtain ⟨stillNamed, stillMember, emptied⟩ :=
    Registry.closeById_keeps marked different named member staysById
  refine Registry.closeByLoginName_keeps (marked.closeById conn) different stillNamed stillMember ?_
  intro found
  rw [Bool.eq_false_iff]
  intro empty
  have earlier := (Shrinks.closeById (reg.markClosed conn) conn).names _ user found
  rw [(Shrinks.closeById (reg.markClosed conn) conn).conns, own.2] at earlier
  exact stays user (.inr ⟨earlier, emptied empty⟩) member

/-- A login keeps the names of all users but the one that it merges away. -/
theorem Registry.acceptLogin_keeps_name {reg : Registry} {imUser user : UserPtr} {conn : ConnPtr}
    {rsp : ValidateRsp} (routeServ : Bool) (now : Nat) {name : String}
    (imUserNamed : reg.imUserMapByName[rsp.userName]? = some imUser)
    (named : reg.imUserMapByName[name]? = some user)
    (stays : reg.MergesAway imUser rsp → user ≠ imUser) :
    (reg.acceptLogin imUser conn rsp routeServ now).1.imUserMapByName[name]? = some user := by
  rw [acceptLogin_registry, modifyUser_imUserMapByName]
  unfold openConn
  rw [modifyConn_imUserMapByName, (reg.duplicateKicked_untouched conn imUser rsp).imUserMapByName]
  unfold identified
  rw [(identifyUser_users _ (reg.loginUser conn imUser rsp) rsp.userInfo user).2.2.2.1]
  unfold mergeUser
  split
  · exact named
  · rename_i target found
    simp only
    split
    · rename_i empty
      have sameEmpty : ((reg.moveWaiting imUser target conn).users imUser).isMsgConnEmpty =
          (reg.users imUser).isMsgConnEmpty := by
        rw [reg.moveWaiting_users target conn imUser imUser]
        rfl
      rw [sameEmpty] at empty
      have known : reg.imUserMap[rsp.userInfo.userId]? ≠ none := by
        rw [show reg.imUserMap[rsp.userInfo.userId]? = some target from found]
        exact Option.some_ne_none target
      have different := stays ⟨known, empty⟩
      show (reg.imUserMapByName.erase rsp.userName)[name]? = some user
      rw [Lib.getElem?_erase_ite, if_neg]
      · exact named
      · rintro rfl
        exact different (Option.some.inj (named.symm.trans imUserNamed))
    · exact named

theorem keeps_acceptLogin {reg : Registry} {imUser : UserPtr} {conn other : ConnPtr}
    {rsp : ValidateRsp} (routeServ : Bool) (now : Nat)
    (named : reg.imUserMapByName[rsp.userName]? = some imUser) (different : other ≠ conn)
    (stays : reg.MergesAway imUser rsp → other ∉ (reg.users imUser).unvalidateConnSet) :
    Keeps other reg (reg.acceptLogin imUser conn rsp routeServ now).1 := by
  have unchanged := reg.acceptLogin_conns conn imUser rsp routeServ now other
  rw [if_neg different] at unchanged
  refine ⟨congrArg Standing.loginName unchanged, congrArg Standing.isOpen unchanged, ?_, ?_, ?_⟩
  · exact fun _ target _ => reg.acceptLogin_handle conn imUser rsp routeServ now target
  · intro name user found member
    refine ⟨Registry.acceptLogin_keeps_name routeServ now named found ?_, ?_⟩
    · rintro merged rfl
      exact stays merged member
    · rw [Registry.acceptLogin_waiting]
      exact ⟨member, fun both => different both.1⟩
  · intro user target member
    rw [Registry.acceptLogin_waiting] at member
    exact member.1

/-! ### Login requests -/

namespace Registry

variable {reg : Registry} (conn : ConnPtr) (userName : String)

theorem nameConn_conns (clientType : BitVec 32) (onlineStatus : Nat) (other : ConnPtr) :
    ((reg.nameConn conn userName clientType onlineStatus).conns other).handle =
        (reg.conns other).handle ∧
      ((reg.nameConn conn userName clientType onlineStatus).conns other).isOpen =
        (reg.conns other).isOpen ∧
      ((reg.nameConn conn userName clientType onlineStatus).conns other).closed =
        (reg.conns other).closed ∧
      ((reg.nameConn conn userName clientType onlineStatus).conns other).loginName =
        if other = conn then userName else (reg.conns other).loginName := by
  unfold nameConn
  by_cases same : other = conn
  · rw [same, modifyConn_self, if_pos rfl]
    exact ⟨rfl, rfl, rfl, rfl⟩
  · rw [modifyConn_other _ _ _ same, if_neg same]
    exact ⟨rfl, rfl, rfl, rfl⟩

variable {conn userName}

theorem Finds.nameConn {req : ValidateReq} (finds : reg.Finds req) (clientType : BitVec 32)
    (onlineStatus : Nat) : (reg.nameConn conn userName clientType onlineStatus).Finds req := by
  have conns := reg.nameConn_conns conn userName clientType onlineStatus
  obtain ⟨sameHandle, notOpen, user, named, member, first⟩ := finds
  refine ⟨(conns _).1.trans sameHandle, (conns _).2.1.trans notOpen, user, named, member, ?_⟩
  intro other among
  rw [(conns other).1]
  exact first other among

theorem WaitsAs.enqueueLogin (shape : Shape none reg) {other : ConnPtr} {name : String}
    (waits : reg.WaitsAs other name) : (reg.enqueueLogin conn userName).WaitsAs other name := by
  obtain ⟨user, named, member⟩ := waits
  have stillNamed := (Shape.enqueueLogin_names reg conn userName).2 name user named
  refine ⟨user, stillNamed, ?_⟩
  rcases shape.enqueueLogin_named conn stillNamed with ⟨_, _, waiting⟩ | ⟨sameName, _, _, free⟩
  · exact (waiting other).mpr (.inl member)
  · rw [← sameName, named] at free
    cases free

theorem waitsAs_enqueueLogin (shape : Shape none reg) :
    (reg.enqueueLogin conn userName).WaitsAs conn userName := by
  obtain ⟨holder, held⟩ := (Shape.enqueueLogin_names reg conn userName).1
  refine ⟨holder, held, ?_⟩
  rcases shape.enqueueLogin_named conn held with ⟨_, _, waiting⟩ | ⟨_, _, waiting, _⟩
  · exact (waiting conn).mpr (.inr ⟨rfl, rfl⟩)
  · exact (waiting conn).mpr rfl

/-- A login request is found as long as the new connection does not come before it. -/
theorem Finds.enqueueLogin (shape : Shape none reg) {req : ValidateReq} (finds : reg.Finds req)
    (order : ∀ user, reg.imUserMapByName[userName]? = some user →
      req.conn ∈ (reg.users user).unvalidateConnSet →
        (reg.conns req.conn).handle = (reg.conns conn).handle → req.conn ≤ conn) :
    (reg.enqueueLogin conn userName).Finds req := by
  have conns := (Shape.enqueueLogin_frame reg conn userName).1
  obtain ⟨sameHandle, notOpen, user, named, member, first⟩ := finds
  have stillNamed := (Shape.enqueueLogin_names reg conn userName).2 req.userName user named
  rcases shape.enqueueLogin_named conn stillNamed with ⟨_, _, waiting⟩ | ⟨sameName, _, _, free⟩
  · refine ⟨by rw [conns]; exact sameHandle, by rw [conns]; exact notOpen, user, stillNamed,
      (waiting req.conn).mpr (.inl member), ?_⟩
    intro other among
    rw [conns]
    intro equal
    rcases (waiting other).mp among with earlier | ⟨rfl, sameName⟩
    · exact first other earlier equal
    · rw [sameName] at named
      exact order user named member (sameHandle.trans equal.symm)
  · rw [← sameName, named] at free
    cases free

theorem finds_enqueueLogin (shape : Shape none reg) (notOpen : (reg.conns conn).isOpen = false)
    (order : ∀ user, reg.imUserMapByName[userName]? = some user →
      ∀ other ∈ (reg.users user).unvalidateConnSet,
        (reg.conns other).handle = (reg.conns conn).handle → conn ≤ other) :
    (reg.enqueueLogin conn userName).Finds ⟨conn, userName, (reg.conns conn).handle⟩ := by
  have conns := (Shape.enqueueLogin_frame reg conn userName).1
  obtain ⟨holder, held⟩ := (Shape.enqueueLogin_names reg conn userName).1
  refine ⟨by rw [conns], by rw [conns]; exact notOpen, holder, held, ?_⟩
  rw [conns]
  rcases shape.enqueueLogin_named conn held with ⟨named, _, waiting⟩ | ⟨_, _, waiting, _⟩
  · refine ⟨(waiting conn).mpr (.inr ⟨rfl, rfl⟩), fun other among equal => ?_⟩
    rcases (waiting other).mp among with earlier | ⟨rfl, _⟩
    · exact order holder named other earlier equal
    · exact Nat.le_refl _
  · refine ⟨(waiting conn).mpr rfl, fun other among _ => ?_⟩
    exact Nat.le_of_eq ((waiting other).mp among).symm

end Registry

/-! ### The invariant -/

/-- Every pending login waits under its login name, and its response finds it. -/
structure Awaits (server : Server) : Prop where
  accepted : ∀ req ∈ server.inflight, req.conn ∈ server.reg.accepted
  own : ∀ req, server.Pending req →
    server.reg.WaitsAs req.conn (server.reg.conns req.conn).loginName
  found : ∀ req, server.Pending req → server.reg.Finds req

namespace Awaits

variable {server next : Server}

theorem keeps (awaits : Awaits server)
    (accepted : ∀ req ∈ next.inflight, req.conn ∈ next.reg.accepted)
    (pending : ∀ req, next.Pending req → server.Pending req)
    (keeps : ∀ req, next.Pending req → Keeps req.conn server.reg next.reg) : Awaits next := by
  refine ⟨accepted, ?_, ?_⟩
  · intro req holds
    have kept := keeps req holds
    rw [kept.loginName]
    exact (awaits.own req (pending req holds)).keeps kept
  · intro req holds
    exact (awaits.found req (pending req holds)).keeps (keeps req holds)

/-- What a login request does to those that wait. -/
theorem enqueueLogin (awaits : Awaits server) (shape : Shape none server.reg) {conn : ConnPtr}
    {pdu : Pdu} {given : Peers} {userName : String} {clientType : BitVec 32}
    (onlineStatus : Nat) (accepted : conn ∈ server.reg.accepted)
    (starts : server.reg.startedLogin (server.peers given) conn pdu =
      some (userName, clientType))
    (found : LoginsFound server (.read conn pdu given))
    (reg : next.reg =
      (server.reg.nameConn conn userName clientType onlineStatus).enqueueLogin conn userName)
    (inflight : next.inflight =
      server.inflight ++ [⟨conn, userName, (server.reg.conns conn).handle⟩]) :
    Awaits next := by
  obtain ⟨notOpen, order⟩ := found userName clientType starts
  have shaped : Shape none (server.reg.nameConn conn userName clientType onlineStatus) :=
    shape.modifyConn conn _ rfl rfl rfl
  have named := server.reg.nameConn_conns conn userName clientType onlineStatus
  have frame := Shape.enqueueLogin_frame
    (server.reg.nameConn conn userName clientType onlineStatus) conn userName
  have cases : ∀ req, next.Pending req → server.Pending req ∨
      req = ⟨conn, userName, (server.reg.conns conn).handle⟩ ∧
        (server.reg.conns conn).closed = false := by
    rintro req ⟨member, live⟩
    rw [reg, frame.1, (named _).2.2.1] at live
    rw [inflight, List.mem_append, List.mem_singleton] at member
    rcases member with earlier | rfl
    · exact .inl ⟨earlier, live⟩
    · exact .inr ⟨rfl, live⟩
  refine ⟨?_, ?_, ?_⟩
  · intro req member
    rw [reg, frame.2.2]
    rw [inflight, List.mem_append, List.mem_singleton] at member
    rcases member with earlier | rfl
    · exact awaits.accepted req earlier
    · exact accepted
  · intro req pending
    rw [reg, frame.1, (named _).2.2.2]
    split
    · rename_i same
      rw [same]
      exact Registry.waitsAs_enqueueLogin shaped
    · rename_i different
      rcases cases req pending with earlier | ⟨rfl, _⟩
      · exact (awaits.own req earlier).enqueueLogin shaped
      · exact absurd rfl different
  · intro req pending
    rw [reg]
    rcases cases req pending with earlier | ⟨rfl, live⟩
    · refine ((awaits.found req earlier).nameConn clientType onlineStatus).enqueueLogin shaped ?_
      intro user holds member
      rw [(named req.conn).1, (named conn).1]
      intro equal
      by_cases same : req.conn = conn
      · exact Nat.le_of_eq same
      · exact Nat.le_of_lt ((order user holds req.conn member equal same).2 earlier.2)
    · rw [← (named conn).1]
      refine Registry.finds_enqueueLogin shaped ((named conn).2.1.trans (notOpen live)) ?_
      intro user holds other member
      rw [(named other).1, (named conn).1]
      intro equal
      by_cases same : other = conn
      · exact Nat.le_of_eq same.symm
      · exact Nat.le_of_lt ((order user holds other member equal same).1 live)

end Awaits

theorem Server.mem_inflight_of_unanswered {server : Server} {event : Event} {req : ValidateReq}
    (member : req ∈ server.unanswered event) : req ∈ server.inflight := by
  cases event with
  | validateRsp own rsp routeServ now => exact List.mem_of_mem_erase member
  | _ => exact member

theorem Registry.Empties.untouched {before after : Registry} (untouched : Untouched before after)
    {conn : ConnPtr} {user : UserPtr} (empties : after.Empties conn user) :
    before.Empties conn user := by
  unfold Registry.Empties at empties ⊢
  rwa [untouched.imUserMap, untouched.imUserMapByName, untouched.users, untouched.userId,
    untouched.handle, untouched.loginName] at empties

theorem close_conns (reg : Registry) (conn other : ConnPtr) :
    (((reg.close conn).1.conns other).closed = true ↔
      other = conn ∨ (reg.conns other).closed = true) := by
  rw [(Shrinks.close reg conn).conns]
  unfold Registry.markClosed
  by_cases same : other = conn
  · rw [same, Registry.modifyConn_self]
    simp
  · rw [Registry.modifyConn_other reg conn _ same]
    simp [same]

theorem accept_closed {reg : Registry} {conn other : ConnPtr} (different : other ≠ conn)
    (handle : Handle) (clientType : BitVec 32) (now : Nat) :
    ((reg.accept conn handle clientType now).conns other).closed = (reg.conns other).closed := by
  simp [Registry.accept, Registry.setConn, different]

theorem Awaits.step_accept {server : Server} (awaits : Awaits server)
    (authorized : Authorized server.reg) {conn : ConnPtr} (new : conn ∉ server.reg.accepted)
    (handle : Handle) (clientType : BitVec 32) (now : Nat) :
    Awaits { server with reg := server.reg.accept conn handle clientType now } := by
  have distinct : ∀ req ∈ server.inflight, req.conn ≠ conn := by
    intro req member same
    exact new (same ▸ awaits.accepted req member)
  refine awaits.keeps ?_ ?_ ?_
  · exact fun req member => List.mem_cons_of_mem _ (awaits.accepted req member)
  · rintro req ⟨member, live⟩
    rw [accept_closed (distinct req member)] at live
    exact ⟨member, live⟩
  · rintro req ⟨member, _⟩
    exact keeps_accept authorized (awaits.accepted req member) new _ _ _

theorem Awaits.step_quiet {server : Server} {event : Event} (awaits : Awaits server)
    {after : Registry} (untouched : Untouched server.reg after) (outs : List Out) :
    Awaits { server.perform (after, outs) with inflight := server.unanswered event } := by
  refine awaits.keeps ?_ ?_ fun req _ => untouched.keeps req.conn
  · intro req member
    show req.conn ∈ after.accepted
    rw [untouched.accepted]
    exact awaits.accepted req (Server.mem_inflight_of_unanswered member)
  · rintro req ⟨member, live⟩
    have earlier := (untouched.closed req.conn).symm.trans live
    exact ⟨Server.mem_inflight_of_unanswered member, earlier⟩

/-- A close leaves the requests of the other connections, which do not wait in a user that it
deletes. -/
theorem Awaits.step_close {server : Server} {event : Event} (awaits : Awaits server)
    (shape : Shape none server.reg) (keepsWaiting : KeepsWaiting server event) {conn : ConnPtr}
    (closing : server.closing event = some conn) {reset : Registry}
    (untouched : Untouched server.reg reset) (outs : List Out) :
    Awaits { server.perform ((reset.close conn).1, outs ++ (reset.close conn).2) with
      inflight := server.unanswered event } := by
  have survivor : ∀ req : ValidateReq, ((reset.close conn).1.conns req.conn).closed = false →
      req.conn ≠ conn ∧ (server.reg.conns req.conn).closed = false := by
    intro req live
    have open_iff := close_conns reset conn req.conn
    rw [live, untouched.closed] at open_iff
    simpa using open_iff
  refine awaits.keeps ?_ ?_ ?_
  · intro req member
    have accepted := awaits.accepted req (Server.mem_inflight_of_unanswered member)
    show req.conn ∈ (reset.close conn).1.accepted
    rw [(Shrinks.close reset conn).accepted]
    exact untouched.accepted ▸ accepted
  · rintro req ⟨member, live⟩
    exact ⟨Server.mem_inflight_of_unanswered member, (survivor req live).2⟩
  · rintro req ⟨member, live⟩
    obtain ⟨different, earlier⟩ := survivor req live
    refine (untouched.keeps req.conn).trans
      (keeps_close (shape.untouched untouched) different ?_)
    intro user empties
    have deletes : server.Deletes event user := by
      unfold Server.Deletes
      rw [closing]
      exact empties.untouched untouched
    rw [untouched.users]
    refine keepsWaiting user req deletes
      ⟨Server.mem_inflight_of_unanswered member, earlier⟩ member ?_
    rw [closing]
    exact fun same => different (Option.some.inj same).symm

/-- An accepted login opens the connection of its own request, and the user that it may delete holds
no other request. -/
theorem Awaits.step_acceptLogin {server : Server} (awaits : Awaits server) {own : ValidateReq}
    {rsp : ValidateRsp} {routeServ : Bool} {now : Nat}
    (keepsWaiting : KeepsWaiting server (.validateRsp own rsp routeServ now))
    (answersOwn : AnswersOwn server (.validateRsp own rsp routeServ now)) {imUser : UserPtr}
    {conn : ConnPtr} (awaited : server.reg.awaited rsp.userName rsp.attach = some (imUser, conn))
    (success : rsp.resultCode = 0) :
    Awaits { server.perform (server.reg.acceptLogin imUser conn rsp routeServ now) with
      inflight := server.inflight.erase own } := by
  have closing : server.closing (.validateRsp own rsp routeServ now) = none := by
    simp only [Server.closing, awaited, if_pos success]
  have before : ∀ req ∈ server.inflight.erase own,
      ((server.reg.acceptLogin imUser conn rsp routeServ now).1.conns req.conn).closed = false →
        server.Pending req ∧ req.conn ≠ conn := by
    intro req member live
    rw [Registry.acceptLogin_closed] at live
    refine ⟨⟨List.mem_of_mem_erase member, live⟩, ?_⟩
    intro same
    rw [same] at live
    exact (answersOwn imUser conn awaited live).2 success req member same
  refine awaits.keeps ?_ ?_ ?_
  · intro req member
    show req.conn ∈ (server.reg.acceptLogin imUser conn rsp routeServ now).1.accepted
    rw [Registry.acceptLogin_accepted]
    exact awaits.accepted req (List.mem_of_mem_erase member)
  · rintro req ⟨member, live⟩
    exact (before req member live).1
  · rintro req ⟨member, live⟩
    obtain ⟨pending, different⟩ := before req member live
    refine keeps_acceptLogin routeServ now (server.reg.awaited_eq_some awaited).1 different ?_
    intro merges
    refine keepsWaiting imUser req ?_ pending member ?_
    · unfold Server.Deletes
      rw [closing]
      exact ⟨⟨conn, awaited⟩, merges⟩
    · rw [closing]
      intro same
      cases same

theorem Awaits.step {server : Server} {event : Event} (awaits : Awaits server)
    (shape : Shape none server.reg) (authorized : Authorized server.reg)
    (admissible : Admissible server event) (kept : KeepsLogins server event) :
    Awaits (server.step event) := by
  obtain ⟨keepsWaiting, answersOwn, loginsFound⟩ := kept
  have transition := step_transition admissible
  generalize server.step event = next at transition ⊢
  cases transition with
  | accept => exact awaits.step_accept authorized admissible.1 _ _ _
  | quiet untouched quiet => exact awaits.step_quiet untouched _
  | closed closing untouched quiet => exact awaits.step_close shape keepsWaiting closing untouched _
  | login starts unnamed =>
      exact awaits.enqueueLogin shape _ admissible.1 starts loginsFound rfl rfl
  | acceptLogin awaited success =>
      exact awaits.step_acceptLogin keepsWaiting answersOwn awaited success
  | loginConnect | loginConfirm | loginClose =>
      exact ⟨awaits.accepted, awaits.own, awaits.found⟩

/-! ### Kept logins -/

/-- Every pending login waits in the user under its login name; its response
opens the connection, or refuses and closes it. -/
structure LoginsKept (server : Server) : Prop where
  waits : ∀ req, server.Pending req →
    ∃ user, server.reg.imUserMapByName[(server.reg.conns req.conn).loginName]? = some user ∧
      req.conn ∈ (server.reg.users user).unvalidateConnSet
  answered : ∀ (req : ValidateReq) (rsp : ValidateRsp) (routeServ : Bool) (now : Nat),
    server.Pending req → rsp.userName = req.userName → rsp.attach = req.handle →
      let result := server.reg.handleValidateResponse rsp routeServ now
      (rsp.resultCode = 0 → (result.1.conns req.conn).isOpen = true) ∧
      (rsp.resultCode ≠ 0 → (result.1.conns req.conn).closed = true ∧
        Out.client req.conn ⟨sidLogin, cidLoginResUserlogin, rsp.seqNum,
          .loginRes now refuseReasonDbValidateFailed rsp.resultString none none⟩ ∈ result.2)

/-- The event is the response to a request of the connection, or its own `Close`. -/
def EndsLogin (server : Server) (event : Event) (conn : ConnPtr) : Prop :=
  match event with
  | .validateRsp own _ _ _ => own.conn = conn
  | _ => server.closing event = some conn

theorem Awaits.loginsKept {server : Server} (awaits : Awaits server) : LoginsKept server := by
  refine ⟨awaits.own, ?_⟩
  intro req rsp routeServ now pending sameName sameHandle
  obtain ⟨user, awaited⟩ := (awaits.found req pending).awaited
  rw [← sameName, ← sameHandle] at awaited
  unfold Registry.handleValidateResponse
  rw [awaited]
  refine ⟨fun success => ?_, fun refused => ?_⟩
  · simp only [if_pos success]
    have standing := server.reg.acceptLogin_conns req.conn user rsp routeServ now req.conn
    rw [if_pos rfl] at standing
    exact congrArg Standing.isOpen standing
  · simp only [if_neg refused]
    exact ⟨(close_conns server.reg req.conn req.conn).mpr (.inl rfl), List.mem_cons_self⟩

theorem Server.mem_unanswered {server : Server} {req : ValidateReq}
    (member : req ∈ server.inflight) (event : Event) :
    req ∈ server.unanswered event ∨ EndsLogin server event req.conn := by
  cases event with
  | validateRsp own rsp routeServ now =>
      by_cases same : req = own
      · exact .inr (congrArg ValidateReq.conn same.symm)
      · exact .inl ((List.mem_erase_of_ne same).mpr member)
  | _ => exact .inl member

/-- A pending login ends only by the response to it or by `Close` of its connection. -/
theorem Awaits.pending_step {server : Server} {event : Event} (awaits : Awaits server)
    (admissible : Admissible server event) (answersOwn : AnswersOwn server event)
    {req : ValidateReq} (pending : server.Pending req) :
    (server.step event).Pending req ∨ EndsLogin server event req.conn := by
  obtain ⟨member, live⟩ := pending
  have transition := step_transition admissible
  generalize server.step event = next at transition ⊢
  cases transition with
  | accept =>
      rename_i conn handle clientType now
      have different : req.conn ≠ conn := by
        intro same
        exact admissible.1 (same ▸ awaits.accepted req member)
      exact .inl ⟨member, (accept_closed different handle clientType now).trans live⟩
  | quiet untouched _ =>
      exact (Server.mem_unanswered member event).imp_left
        fun waits => ⟨waits, (untouched.closed req.conn).trans live⟩
  | closed closing untouched quiet =>
      rename_i conn reset outs
      by_cases same : req.conn = conn
      · right
        cases event with
        | validateRsp own rsp routeServ now =>
            simp only [Server.closing] at closing
            split at closing
            · rename_i user target found
              split at closing
              · cases closing
              · cases closing
                exact (answersOwn user conn found (same ▸ live)).1.symm.trans same.symm
            · cases closing
        | _ => exact same ▸ closing
      · refine (Server.mem_unanswered member event).imp_left fun waits => ⟨waits, ?_⟩
        have closed := close_conns reset conn req.conn
        rw [untouched.closed, live] at closed
        show ((reset.close conn).1.conns req.conn).closed = false
        simpa [same] using closed
  | login starts unnamed =>
      rename_i conn pdu given userName password clientType onlineStatus seqNum
      refine .inl ⟨List.mem_append_left _ member, ?_⟩
      have named := server.reg.nameConn_conns conn userName clientType onlineStatus req.conn
      show (((server.reg.nameConn conn userName clientType onlineStatus).enqueueLogin conn
        userName).conns req.conn).closed = false
      rw [(Shape.enqueueLogin_frame _ conn userName).1]
      exact named.2.2.1.trans live
  | acceptLogin awaited success =>
      rename_i own rsp routeServ now imUser conn
      have closed := server.reg.acceptLogin_closed conn imUser rsp routeServ now req.conn
      exact (Server.mem_unanswered member (.validateRsp own rsp routeServ now)).imp_left
        fun waits => ⟨waits, closed.trans live⟩
  | loginConnect | loginConfirm | loginClose => exact .inl ⟨member, live⟩

theorem awaits_init (config : MsgServConfig) (loginServerCount : Nat) :
    Awaits (Server.init config loginServerCount) := by
  refine ⟨?_, ?_, ?_⟩
  · intro req member
    cases member
  · rintro req ⟨member, _⟩
    cases member
  · rintro req ⟨member, _⟩
    cases member

/-- In every run whose steps meet the condition no pending login is lost. -/
theorem logins_kept {resolve : String → UserId} {config : MsgServConfig}
    {loginServerCount : Nat} {server : Server}
    (reached : Reached (fun state event => AnsweredBy resolve state event ∧
      KeepsLogins state event) config loginServerCount server) :
    LoginsKept server ∧
    ∀ (event : Event) (req : ValidateReq), AnsweredBy resolve server event →
      KeepsLogins server event → server.Pending req →
        (server.step event).Pending req ∨ EndsLogin server event req.conn := by
  have invariants := reached.invariant
    (fun state => (Authorized state.reg ∧ Shape none state.reg ∧ Resolved resolve state.reg) ∧
      Awaits state)
    ⟨⟨authorized_empty, shape_empty, resolved_empty resolve⟩, awaits_init config loginServerCount⟩
    (by
      rintro state event ⟨⟨authorized, shape, resolved⟩, awaits⟩
        ⟨⟨admissible, names, answers⟩, kept⟩
      refine ⟨⟨authorized_step authorized admissible, ?_, ?_⟩,
        awaits.step shape authorized admissible kept⟩
      · exact shape_step shape authorized admissible names
          (stableAnswers_of_resolved shape resolved names answers)
      · exact resolved.step shape admissible answers)
  refine ⟨invariants.2.loginsKept, ?_⟩
  intro event req answered kept pending
  exact invariants.2.pending_step answered.1 kept.2.1 pending

/-- Two connections log in under one name. -/
def twoLoginEvents : List Event :=
  onlineEvents ++
    [.accept 1 3 0 0, .accept 2 4 0 0, .read 1 (loginPdu "ann" 1) Peers.allUp,
      .read 2 (loginPdu "ann" 1) Peers.allUp]

theorem keepsWaiting_of_not_deletes {server : Server} {event : Event}
    (none : ∀ user, ¬server.Deletes event user) : KeepsWaiting server event :=
  fun user _ deletes => absurd deletes (none user)

theorem loginsFound_of_new {server : Server} {conn : ConnPtr} {pdu : Pdu} {given : Peers}
    (userName : String) (clientType : BitVec 32)
    (starts : server.reg.startedLogin (server.peers given) conn pdu =
      some (userName, clientType))
    (notOpen : (server.reg.conns conn).isOpen = false)
    (other : ∀ user ∈ server.reg.imUserMapByName[userName]?,
      ∀ other ∈ (server.reg.users user).unvalidateConnSet.toList,
        (server.reg.conns other).handle ≠ (server.reg.conns conn).handle) :
    LoginsFound server (.read conn pdu given) := by
  intro name requested started
  cases starts.symm.trans started
  refine ⟨fun _ => notOpen, fun user named target member same => ?_⟩
  exact absurd same (other user named target (TreeSet.mem_toList.mpr member))

theorem logins_kept_two :
    LoginsKept (Lib.run Server.step (Server.init sampleConfig 1) twoLoginEvents) := by
  have faithful := Peers.allUp_faithful
  have meets : Lib.Meets Server.step
      (fun state event => AnsweredBy (fun _ => 7) state event ∧ KeepsLogins state event)
      (Server.init sampleConfig 1) twoLoginEvents := by
    refine ⟨⟨⟨trivial, trivial, trivial⟩, ?_, trivial, trivial⟩,
      ⟨⟨trivial, trivial, trivial⟩, ?_, trivial, trivial⟩,
      ⟨⟨⟨by decide, by decide⟩, trivial, trivial⟩, ?_, trivial, trivial⟩,
      ⟨⟨⟨by decide, by decide⟩, trivial, trivial⟩, ?_, trivial, trivial⟩,
      ⟨⟨⟨by decide, faithful⟩, trivial, trivial⟩, ?_, trivial, ?_⟩,
      ⟨⟨⟨by decide, faithful⟩, trivial, trivial⟩, ?_, trivial, ?_⟩, trivial⟩
    any_goals exact keepsWaiting_of_not_deletes fun _ deletes => deletes
    · exact loginsFound_of_new "ann" 1 (by decide) (by decide) (by decide)
    · exact loginsFound_of_new "ann" 1 (by decide) (by decide) (by decide)
  exact (logins_kept (Lib.reach_run twoLoginEvents meets)).1

/-- The first response refuses the login, and the user is deleted under the second one. -/
def refusedEvents : List Event :=
  twoLoginEvents ++ [.validateRsp ⟨1, "ann", 3⟩ (refusedRsp "ann" 3) true 0]

/-- The user under the second name is merged into the first one, while another
connection waits in it. -/
def mergedEvents : List Event :=
  loginEvents ++
    [.accept 2 4 0 0, .accept 3 5 0 0, .read 2 (loginPdu "bob" 1) Peers.allUp,
      .read 3 (loginPdu "bob" 1) Peers.allUp,
      .validateRsp ⟨2, "bob", 4⟩ (acceptedRsp "bob" 7 4) true 0]

/-- The response to the request of a closed connection finds the next connection
with its handle. -/
def reusedHandleEvents : List Event :=
  onlineEvents ++
    [.accept 1 3 0 0, .read 1 (loginPdu "ann" 1) Peers.allUp, .onClose 1, .accept 2 3 0 0,
      .read 2 (loginPdu "ann" 1) Peers.allUp,
      .validateRsp ⟨1, "ann", 3⟩ (acceptedRsp "ann" 7 3) true 0]

theorem not_loginsKept {server : Server} (req : ValidateReq) (pending : server.Pending req)
    (lost : ∀ user ∈ server.reg.imUserMapByName[(server.reg.conns req.conn).loginName]?,
      (server.reg.users user).unvalidateConnSet.contains req.conn = false) :
    ¬LoginsKept server := by
  intro kept
  obtain ⟨user, named, member⟩ := kept.waits req pending
  have absent := lost user named
  rw [TreeSet.contains_iff_mem.mpr member] at absent
  cases absent

/-- A pending login is lost when another login under the name is refused, when
another login under the name is merged away, and when the response to an earlier
connection with the same handle opens the connection. -/
theorem logins_lost :
    (Reached (Promised fun _ => 7) sampleConfig 1
        (Lib.run Server.step (Server.init sampleConfig 1) refusedEvents) ∧
      ¬LoginsKept (Lib.run Server.step (Server.init sampleConfig 1) refusedEvents)) ∧
    (Reached (Promised fun _ => 7) sampleConfig 1
        (Lib.run Server.step (Server.init sampleConfig 1) mergedEvents) ∧
      ¬LoginsKept (Lib.run Server.step (Server.init sampleConfig 1) mergedEvents)) ∧
    Reached (Promised fun _ => 7) sampleConfig 1
        (Lib.run Server.step (Server.init sampleConfig 1) reusedHandleEvents) ∧
      ¬LoginsKept (Lib.run Server.step (Server.init sampleConfig 1) reusedHandleEvents) := by
  have faithful := Peers.allUp_faithful
  refine ⟨⟨Lib.reach_run _ ?_, ?_⟩, ⟨Lib.reach_run _ ?_, ?_⟩, Lib.reach_run _ ?_, ?_⟩
  · exact ⟨.of_admissible trivial nofun, .of_admissible trivial nofun,
      .of_admissible ⟨by decide, by decide⟩ nofun, .of_admissible ⟨by decide, by decide⟩ nofun,
      .of_admissible ⟨by decide, faithful⟩ nofun, .of_admissible ⟨by decide, faithful⟩ nofun,
      .refused (by decide), trivial⟩
  · exact not_loginsKept ⟨2, "ann", 4⟩ ⟨by decide, by decide⟩ (by decide)
  · exact ⟨.of_admissible trivial nofun, .of_admissible trivial nofun,
      .of_admissible ⟨by decide, by decide⟩ nofun, .of_admissible ⟨by decide, faithful⟩ nofun,
      .accepted (by decide) (by decide),
      .of_admissible ⟨by decide, by decide⟩ nofun, .of_admissible ⟨by decide, by decide⟩ nofun,
      .of_admissible ⟨by decide, faithful⟩ nofun, .of_admissible ⟨by decide, faithful⟩ nofun,
      .accepted (by decide) (by decide), trivial⟩
  · exact not_loginsKept ⟨3, "bob", 5⟩ ⟨by decide, by decide⟩ (by decide)
  · exact ⟨.of_admissible trivial nofun, .of_admissible trivial nofun,
      .of_admissible ⟨by decide, by decide⟩ nofun, .of_admissible ⟨by decide, faithful⟩ nofun,
      .of_admissible (by decide : (1 : ConnPtr) ∈ _) nofun,
      .of_admissible ⟨by decide, by decide⟩ nofun, .of_admissible ⟨by decide, faithful⟩ nofun,
      .accepted (by decide) (by decide), trivial⟩
  · exact not_loginsKept ⟨2, "ann", 3⟩ ⟨by decide, by decide⟩ (by decide)

end AChat.MsgServer
