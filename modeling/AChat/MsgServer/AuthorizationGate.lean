import AChat.DbProxy.GroupModel
import AChat.MsgServer.Frames

/-!
Contract: which client PDUs pass the authorization check of `HandlePdu`, and on
whose behalf requests reach the DB servers.

A kicked connection was opened before, so the check, which asks for a kicked
connection that is not open, refuses no PDU of a run.

Owns: the invariant of open, kicked and listed connections.
-/

namespace AChat.MsgServer

/-! ### Open, kicked and listed connections -/

/-- Connections are listed under a user only once they are open, and only listed
connections are kicked. -/
structure Authorized (reg : Registry) : Prop where
  listed : ∀ conn, reg.Listed conn → conn ∈ reg.accepted ∧ (reg.conns conn).isOpen = true
  waiting : ∀ user conn, conn ∈ (reg.users user).unvalidateConnSet → conn ∈ reg.accepted
  kicked : ∀ conn, (reg.conns conn).isKickOff = true → (reg.conns conn).isOpen = true

theorem authorized_empty : Authorized Registry.empty := by
  refine ⟨?_, ?_, ?_⟩
  · rintro conn ⟨user, handle, found⟩
    simp [Registry.empty, ImUser.new] at found
  · intro user conn member
    simp [Registry.empty, ImUser.new] at member
  · intro conn kicked
    simp [Registry.empty, MsgConn.onConnected] at kicked

namespace Authorized

variable {before after reg : Registry}

theorem accept (authorized : Authorized reg) {conn : ConnPtr} (fresh : conn ∉ reg.accepted)
    (handle : Handle) (clientType : BitVec 32) (now : Nat) :
    Authorized (reg.accept conn handle clientType now) := by
  have keep : ∀ other, other ≠ conn →
      (reg.accept conn handle clientType now).conns other = reg.conns other := by
    intro other different
    simp [Registry.accept, Registry.setConn, different]
  have new : (reg.accept conn handle clientType now).conns conn =
      MsgConn.onConnected handle clientType now := by
    simp [Registry.accept, Registry.setConn]
  refine ⟨?_, ?_, ?_⟩
  · intro other listed
    have earlier := authorized.listed other listed
    have different : other ≠ conn := by
      rintro rfl
      exact fresh earlier.1
    rw [keep other different]
    exact ⟨List.mem_cons_of_mem _ earlier.1, earlier.2⟩
  · intro user other member
    exact List.mem_cons_of_mem _ (authorized.waiting user other member)
  · intro other kicked
    by_cases same : other = conn
    · subst same
      rw [new] at kicked
      cases kicked
    · rw [keep other same] at kicked ⊢
      exact authorized.kicked other kicked

theorem untouched (authorized : Authorized before) (untouched : Untouched before after) :
    Authorized after := by
  refine ⟨?_, ?_, ?_⟩
  · intro conn listed
    unfold Registry.Listed at listed
    rw [untouched.users] at listed
    rw [untouched.accepted, untouched.isOpen]
    exact authorized.listed conn listed
  · intro user conn member
    rw [untouched.users] at member
    rw [untouched.accepted]
    exact authorized.waiting user conn member
  · intro conn kicked
    rw [untouched.isOpen]
    rcases untouched.kicked conn kicked with earlier | listed
    · exact authorized.kicked conn earlier
    · exact (authorized.listed conn listed).2

theorem shrinks (authorized : Authorized before) (shrinks : Shrinks before after) :
    Authorized after := by
  refine ⟨?_, ?_, ?_⟩
  · intro conn listed
    rw [shrinks.accepted, shrinks.conns]
    exact authorized.listed conn (shrinks.listed listed)
  · intro user conn member
    rw [shrinks.accepted]
    exact authorized.waiting user conn (shrinks.waiting user conn member)
  · rw [shrinks.conns]
    exact authorized.kicked

/-- A change of one connection that keeps it open as it is. -/
theorem modifyConn (authorized : Authorized reg) (conn : ConnPtr) (change : MsgConn → MsgConn)
    (isOpen : (change (reg.conns conn)).isOpen = (reg.conns conn).isOpen)
    (isKickOff : (change (reg.conns conn)).isKickOff = (reg.conns conn).isKickOff) :
    Authorized (reg.modifyConn conn change) := by
  have keep : ∀ other,
      ((reg.modifyConn conn change).conns other).isOpen = (reg.conns other).isOpen ∧
      ((reg.modifyConn conn change).conns other).isKickOff = (reg.conns other).isKickOff := by
    intro other
    by_cases same : other = conn
    · subst same
      rw [Registry.modifyConn_self]
      exact ⟨isOpen, isKickOff⟩
    · rw [Registry.modifyConn_other reg conn change same]
      exact ⟨rfl, rfl⟩
  refine ⟨?_, authorized.waiting, ?_⟩
  · intro other listed
    rw [(keep other).1]
    exact authorized.listed other listed
  · intro other kicked
    rw [(keep other).2] at kicked
    rw [(keep other).1]
    exact authorized.kicked other kicked

theorem nameConn (authorized : Authorized reg) (conn : ConnPtr) (userName : String)
    (clientType : BitVec 32) (onlineStatus : Nat) :
    Authorized (reg.nameConn conn userName clientType onlineStatus) :=
  authorized.modifyConn conn _ rfl rfl

theorem close (authorized : Authorized reg) (conn : ConnPtr) :
    Authorized (reg.close conn).1 :=
  (authorized.modifyConn conn _ rfl rfl).shrinks (Shrinks.close reg conn)

/-- A change of one user that lists only open connections and lets only accepted ones wait. -/
theorem modifyUser (authorized : Authorized reg) (user : UserPtr) (change : ImUser → ImUser)
    (connMap : ∀ (handle : Handle) (conn : ConnPtr),
      (change (reg.users user)).connMap[handle]? = some conn →
        conn ∈ reg.accepted ∧ (reg.conns conn).isOpen = true)
    (waiting : ∀ conn : ConnPtr, conn ∈ (change (reg.users user)).unvalidateConnSet →
      conn ∈ reg.accepted) :
    Authorized (reg.modifyUser user change) := by
  refine ⟨?_, ?_, authorized.kicked⟩
  · rintro conn ⟨other, handle, found⟩
    by_cases same : other = user
    · subst same
      rw [Registry.modifyUser_self] at found
      exact connMap handle conn found
    · rw [Registry.modifyUser_other reg user change same] at found
      exact authorized.listed conn ⟨other, handle, found⟩
  · intro other conn member
    by_cases same : other = user
    · subst same
      rw [Registry.modifyUser_self] at member
      exact waiting conn member
    · rw [Registry.modifyUser_other reg user change same] at member
      exact authorized.waiting other conn member

theorem addUnValidate (authorized : Authorized reg) (user : UserPtr) {conn : ConnPtr}
    (accepted : conn ∈ reg.accepted) :
    Authorized (reg.modifyUser user fun value => value.addUnValidateMsgConn conn) := by
  refine authorized.modifyUser user _
    (fun handle other found => authorized.listed other ⟨user, handle, found⟩) ?_
  intro other member
  rcases (Lib.treeSet_mem_insert _ _ _).mp member with rfl | member
  · exact accepted
  · exact authorized.waiting user other member

/-- The maps do not matter. -/
theorem congr (authorized : Authorized before) (conns : after.conns = before.conns)
    (users : after.users = before.users) (accepted : after.accepted = before.accepted) :
    Authorized after := by
  refine ⟨?_, ?_, ?_⟩
  · intro conn listed
    unfold Registry.Listed at listed
    rw [users] at listed
    rw [accepted, conns]
    exact authorized.listed conn listed
  · rw [users, accepted]
    exact authorized.waiting
  · rw [conns]
    exact authorized.kicked

theorem enqueueLogin (authorized : Authorized reg) {conn : ConnPtr}
    (accepted : conn ∈ reg.accepted) (loginName : String) :
    Authorized (reg.enqueueLogin conn loginName) := by
  unfold Registry.enqueueLogin
  split
  · exact authorized.addUnValidate _ accepted
  · have fresh : Authorized (reg.modifyUser reg.nextUser fun _ => ImUser.new loginName) := by
      refine authorized.modifyUser reg.nextUser _ ?_ ?_
      · intro handle other found
        simp [ImUser.new] at found
      · intro other member
        simp [ImUser.new] at member
    have named : Authorized
        ((reg.newImUser loginName).2.addImUserByLoginName loginName reg.nextUser) := by
      unfold Registry.addImUserByLoginName
      split <;> exact fresh.congr rfl rfl rfl
    refine named.addUnValidate _ ?_
    unfold Registry.addImUserByLoginName
    split <;> exact accepted

theorem mergeUser (authorized : Authorized reg) {imUser : UserPtr} {conn : ConnPtr}
    (accepted : conn ∈ reg.accepted) (loginName : String) (userId : UserId) :
    Authorized (reg.mergeUser imUser conn loginName userId).2 := by
  unfold Registry.mergeUser
  split
  · exact authorized
  · rename_i user _
    have moved := (authorized.addUnValidate user accepted).shrinks
      (Shrinks.delUnValidate _ imUser conn)
    simp only
    split
    · exact (moved.shrinks (Shrinks.removeImUserByLoginName _ loginName)).shrinks
        (Shrinks.deleteImUser _ imUser)
    · exact moved

theorem identifyUser (authorized : Authorized reg) (user : UserPtr) (userInfo : UserInfo) :
    Authorized (reg.identifyUser user userInfo) := by
  have named : Authorized (reg.modifyUser user fun value =>
      { value with
        userId := userInfo.userId
        nickName := userInfo.userNickName
        validate := true }) :=
    authorized.modifyUser user _
      (fun handle other found => authorized.listed other ⟨user, handle, found⟩)
      (fun other member => authorized.waiting user other member)
  unfold Registry.identifyUser Registry.addImUserById
  split
  · exact named.congr rfl rfl rfl
  · exact named

/-- Any connection may be opened for a user. -/
theorem openConn (authorized : Authorized reg) (conn : ConnPtr) (userId : UserId) :
    Authorized (reg.openConn conn userId) := by
  have opened : ((reg.openConn conn userId).conns conn).isOpen = true := by
    simp [Registry.openConn]
  have stays : ∀ other, (reg.conns other).isOpen = true →
      ((reg.openConn conn userId).conns other).isOpen = true := by
    intro other earlier
    by_cases same : other = conn
    · rw [same]
      exact opened
    · unfold Registry.openConn
      rwa [Registry.modifyConn_other _ _ _ same]
  refine ⟨?_, authorized.waiting, ?_⟩
  · intro other listed
    have earlier := authorized.listed other listed
    exact ⟨earlier.1, stays other earlier.2⟩
  · intro other kicked
    by_cases same : other = conn
    · rw [same]
      exact opened
    · apply stays
      apply authorized.kicked
      unfold Registry.openConn at kicked
      rwa [Registry.modifyConn_other _ _ _ same] at kicked

theorem validateMsgConn (authorized : Authorized reg) (user : UserPtr) {conn : ConnPtr}
    (handle : Handle) (accepted : conn ∈ reg.accepted)
    (opened : (reg.conns conn).isOpen = true) :
    Authorized (reg.modifyUser user fun value => value.validateMsgConn handle conn) := by
  refine authorized.modifyUser user _ ?_ ?_
  · intro other target found
    simp only [ImUser.validateMsgConn, ImUser.delUnValidateMsgConn, ImUser.addMsgConn,
      Lib.getElem?_insert_ite] at found
    split at found
    · cases found
      exact ⟨accepted, opened⟩
    · exact authorized.listed target ⟨user, other, found⟩
  · intro other member
    exact authorized.waiting user other ((Lib.treeSet_mem_erase _ _ _).mp member).2

theorem acceptLogin (authorized : Authorized reg) {imUser : UserPtr} {conn : ConnPtr}
    {rsp : ValidateRsp} (routeServ : Bool) (now : Nat)
    (awaited : reg.awaited rsp.userName rsp.attach = some (imUser, conn)) :
    Authorized (reg.acceptLogin imUser conn rsp routeServ now).1 := by
  obtain ⟨_, _, member, _, _⟩ := reg.awaited_eq_some awaited
  have accepted := authorized.waiting imUser conn member
  have named : Authorized (reg.identified conn imUser rsp) :=
    (authorized.mergeUser accepted _ _).identifyUser _ _
  have kick := reg.duplicateKicked_untouched conn imUser rsp
  have opened : Authorized
      ((reg.duplicateKicked conn imUser rsp).openConn conn rsp.userInfo.userId) :=
    (named.untouched kick).openConn conn _
  rw [Registry.acceptLogin_registry]
  refine opened.validateMsgConn _ _ ?_ (Registry.openConn_isOpen _ _ _)
  unfold Registry.openConn
  rw [Registry.modifyConn_accepted, kick.accepted, Registry.identified_accepted]
  exact accepted

end Authorized

/-- Every admissible step keeps the invariant. -/
theorem authorized_step {server : Server} {event : Event} (authorized : Authorized server.reg)
    (admissible : Admissible server event) : Authorized (server.step event).reg := by
  have transition := step_transition admissible
  generalize server.step event = next at transition ⊢
  cases transition with
  | accept => exact authorized.accept admissible.1 _ _ _
  | quiet untouched _ => exact authorized.untouched untouched
  | closed _ untouched _ => exact (authorized.untouched untouched).close _
  | login _ _ =>
      exact (authorized.nameConn _ _ _ _).enqueueLogin admissible.1 _
  | acceptLogin awaited success =>
      rename_i routeServ now _ _
      exact authorized.acceptLogin routeServ now awaited
  | loginConnect | loginConfirm | loginClose => exact authorized

theorem authorized_of_reach {config : MsgServConfig} {loginServerCount : Nat} {server : Server}
    (reached : Reached Admissible config loginServerCount server) : Authorized server.reg :=
  reached.invariant (fun state => Authorized state.reg) authorized_empty
    fun _ _ authorized admissible => authorized_step authorized admissible

/-! ### The user ids of open connections -/

/-- An open connection has a user id. -/
def Identified (reg : Registry) : Prop :=
  ∀ conn, (reg.conns conn).isOpen = true → (reg.conns conn).userId ≠ 0

theorem identified_empty : Identified Registry.empty := by
  intro conn opened
  simp [Registry.empty, MsgConn.onConnected] at opened

namespace Identified

variable {before after : Registry}

/-- Connections that are as open as before, with the ids they had. -/
theorem congr (identified : Identified before)
    (isOpen : ∀ conn, (after.conns conn).isOpen = (before.conns conn).isOpen)
    (userId : ∀ conn, (after.conns conn).userId = (before.conns conn).userId) :
    Identified after := by
  intro conn opened
  rw [userId]
  exact identified conn ((isOpen conn).symm.trans opened)

theorem untouched (identified : Identified before) (untouched : Untouched before after) :
    Identified after :=
  identified.congr untouched.isOpen untouched.userId

/-- A change of one connection that keeps it open as it is, under its id. -/
theorem modifyConn (identified : Identified before) (conn : ConnPtr)
    (change : MsgConn → MsgConn)
    (isOpen : ∀ value, (change value).isOpen = value.isOpen)
    (userId : ∀ value, (change value).userId = value.userId) :
    Identified (before.modifyConn conn change) := by
  refine identified.congr (fun other => ?_) fun other => ?_
  · by_cases same : other = conn
    · rw [same, Registry.modifyConn_self, isOpen]
    · rw [Registry.modifyConn_other before conn change same]
  · by_cases same : other = conn
    · rw [same, Registry.modifyConn_self, userId]
    · rw [Registry.modifyConn_other before conn change same]

theorem accept (identified : Identified before) (conn : ConnPtr) (handle : Handle)
    (clientType : BitVec 32) (now : Nat) :
    Identified (before.accept conn handle clientType now) := by
  intro other opened
  by_cases same : other = conn
  · simp [Registry.accept, Registry.setConn, same, MsgConn.onConnected] at opened
  · have kept : (before.accept conn handle clientType now).conns other = before.conns other := by
      simp [Registry.accept, Registry.setConn, same]
    rw [kept] at opened ⊢
    exact identified other opened

theorem close (identified : Identified before) (conn : ConnPtr) :
    Identified (before.close conn).1 := by
  have marked : Identified (before.markClosed conn) :=
    identified.modifyConn conn _ (fun _ => rfl) fun _ => rfl
  unfold Identified
  rw [(Shrinks.close before conn).conns]
  exact marked

theorem enqueueLogin (identified : Identified before) (conn : ConnPtr) (userName : String)
    (clientType : BitVec 32) (onlineStatus : Nat) :
    Identified
      ((before.nameConn conn userName clientType onlineStatus).enqueueLogin conn userName) := by
  have named : Identified (before.nameConn conn userName clientType onlineStatus) :=
    identified.modifyConn conn _ (fun _ => rfl) fun _ => rfl
  unfold Identified
  rw [Registry.enqueueLogin_conns]
  exact named

theorem acceptLogin (identified : Identified before) (imUser : UserPtr) (conn : ConnPtr)
    (rsp : ValidateRsp) (routeServ : Bool) (now : Nat) (nonzero : rsp.userInfo.userId ≠ 0) :
    Identified (before.acceptLogin imUser conn rsp routeServ now).1 := by
  intro other opened
  have standing := before.acceptLogin_conns conn imUser rsp routeServ now other
  have userId := congrArg Standing.userId standing
  have isOpen := congrArg Standing.isOpen standing
  split at standing
  · rename_i same
    rw [if_pos same] at userId
    exact fun zero => nonzero (userId.symm.trans zero)
  · rename_i different
    rw [if_neg different] at userId isOpen
    exact fun zero => identified other (isOpen.symm.trans opened) (userId.symm.trans zero)

end Identified

/-- A step in which no login is accepted for user id 0 keeps the ids. -/
theorem identified_step {server : Server} {event : Event} (identified : Identified server.reg)
    (admissible : Admissible server event) (names : NamesUsers event) :
    Identified (server.step event).reg := by
  have transition := step_transition admissible
  generalize server.step event = next at transition ⊢
  cases transition with
  | accept => exact identified.accept _ _ _ _
  | quiet untouched _ => exact identified.untouched untouched
  | closed _ untouched _ => exact (identified.untouched untouched).close _
  | login _ _ => exact identified.enqueueLogin _ _ _ _
  | acceptLogin awaited success =>
      rename_i routeServ now _ _
      exact identified.acceptLogin _ _ _ routeServ now (names success)
  | loginConnect | loginConfirm | loginClose => exact identified

/-! ### The check -/

/-- A PDU other than a login reaches a handler only on an open connection that
was not kicked. Any other PDU is refused, and no request goes to a DB server. -/
def GateHolds (reg : Registry) (peers : Peers) (conn : ConnPtr) (pdu : Pdu) : Prop :=
  pdu.commandId ≠ cidLoginReqUserlogin →
    (∀ handler, dispatch pdu.commandId = some handler →
      reg.handlePdu peers conn pdu = .ok (reg.runHandler peers conn pdu handler) →
        (reg.conns conn).isOpen = true ∧ (reg.conns conn).isKickOff = false) ∧
    (¬((reg.conns conn).isOpen = true ∧ (reg.conns conn).isKickOff = false) →
      (∃ exception, reg.handlePdu peers conn pdu = .error exception) ∧
        ∀ request, Out.db request ∉ (reg.onRead peers conn pdu).2)

/-- The PDU needs no check, or would pass it. -/
def Permitted (reg : Registry) (conn : ConnPtr) (pdu : Pdu) : Prop :=
  pdu.commandId = cidLoginReqUserlogin ∨
    (reg.conns conn).isOpen = true ∧ (reg.conns conn).isKickOff = false

/-- The check of the code refuses no PDU. -/
theorem Authorized.not_unauthorized {reg : Registry} (authorized : Authorized reg)
    (conn : ConnPtr) (pdu : Pdu) : ¬reg.Unauthorized conn pdu := by
  rintro ⟨_, notOpen, kicked⟩
  have opened := authorized.kicked conn kicked
  rw [notOpen] at opened
  cases opened

theorem Authorized.gateHolds_iff {reg : Registry} (authorized : Authorized reg) (peers : Peers)
    (conn : ConnPtr) (pdu : Pdu) : GateHolds reg peers conn pdu ↔ Permitted reg conn pdu := by
  constructor
  · intro gate
    by_cases login : pdu.commandId = cidLoginReqUserlogin
    · exact .inl login
    · right
      by_contra denied
      obtain ⟨⟨exception, refused⟩, _⟩ := (gate login).2 denied
      unfold Registry.handlePdu at refused
      rw [if_neg (authorized.not_unauthorized conn pdu)] at refused
      split at refused <;> cases refused
  · rintro (login | passed) other
    · exact absurd login other
    · exact ⟨fun _ _ _ => passed, fun denied => absurd passed denied⟩

/-! ### Requests to the DB servers -/

/-- Every PDU that is read is permitted. -/
def OnlyPermitted (server : Server) : Event → Prop
  | .read conn pdu _ => Permitted server.reg conn pdu
  | _ => True

/-- No request in the log was made on behalf of user id 0. -/
def NoneForZero (server : Server) : Prop :=
  ∀ request, Out.db request ∈ server.log → request.body.requester ≠ some 0

theorem Quiet.none_for_zero {sender : Option UserId} {outs : List Out} (quiet : Quiet sender outs)
    (identified : sender ≠ some 0) {request : Pdu} (member : Out.db request ∈ outs) :
    request.body.requester ≠ some 0 := by
  obtain ⟨_, _, _, behalf⟩ := quiet _ member
  rw [behalf]
  exact identified

theorem sendUserStatusUpdate_no_db (reg : Registry) (conn : ConnPtr) (userStatus : Nat)
    (request : Pdu) : Out.db request ∉ reg.sendUserStatusUpdate conn userStatus := by
  unfold Registry.sendUserStatusUpdate Registry.statusUpdate
  split
  · simp
  · split
    · simp
    · split
      · simp
      · split <;> simp

theorem close_no_db (reg : Registry) (conn : ConnPtr) (request : Pdu) :
    Out.db request ∉ (reg.close conn).2 := by
  unfold Registry.close Registry.closeById
  simp only
  split
  · simp
  · exact sendUserStatusUpdate_no_db _ _ _ _

theorem sender_ne_zero {server : Server} {event : Event} (identified : Identified server.reg)
    (permitted : OnlyPermitted server event) : server.sender event ≠ some 0 := by
  cases event with
  | read conn pdu given =>
      simp only [Server.sender, Registry.requestSender]
      rcases permitted with login | ⟨opened, _⟩
      · simp [login]
      · split
        · simp
        · simpa using identified conn opened
  | _ => simp [Server.sender]

theorem noneForZero_step {server : Server} {event : Event} (identified : Identified server.reg)
    (none : NoneForZero server) (admissible : Admissible server event)
    (permitted : OnlyPermitted server event) : NoneForZero (server.step event) := by
  have sender := sender_ne_zero identified permitted
  have transition := step_transition admissible
  generalize server.step event = next at transition ⊢
  intro request member
  cases transition with
  | accept | loginConnect | loginConfirm | loginClose => exact none request member
  | quiet _ quiet =>
      rcases List.mem_append.mp member with earlier | sent
      · exact none request earlier
      · exact quiet.none_for_zero sender sent
  | closed _ _ quiet =>
      rcases List.mem_append.mp member with earlier | sent
      · exact none request earlier
      · rcases List.mem_append.mp sent with before | after
        · exact quiet.none_for_zero sender before
        · exact absurd after (close_no_db _ _ request)
  | login _ _ =>
      rcases List.mem_append.mp member with earlier | sent
      · exact none request earlier
      · cases List.mem_singleton.mp sent
        simp [Body.requester]
  | acceptLogin awaited success =>
      rcases List.mem_append.mp member with earlier | sent
      · exact none request earlier
      · rename_i routeServ now imUser conn
        obtain ⟨before, after, quietBefore, quietAfter, outs⟩ :=
          server.reg.acceptLogin_sent conn imUser _ routeServ now
        rw [outs] at sent
        rcases List.mem_append.mp sent with sent | sent
        · rcases List.mem_append.mp sent with sent | sent
          · exact quietBefore.none_for_zero (by simp) sent
          · exact absurd sent (sendUserStatusUpdate_no_db _ _ _ request)
        · exact quietAfter.none_for_zero (by simp) sent

/-- In every reached state, the authorization check does what it is for exactly
on the PDUs that need no check or would pass it. In a run whose PDUs are all
such, and whose DB servers accept no login for user id 0, no request reaches a
DB server on behalf of user id 0, for which `hasModifyPermission` permits
everything. -/
theorem gate_holds_iff_permitted {config : MsgServConfig} {loginServerCount : Nat}
    {server : Server} (reached : Reached Admissible config loginServerCount server)
    (peers : Peers) (conn : ConnPtr) (pdu : Pdu) :
    (GateHolds server.reg peers conn pdu ↔ Permitted server.reg conn pdu) ∧
    (Reached (fun state event => Admissible state event ∧ NamesUsers event ∧
        OnlyPermitted state event) config loginServerCount server → NoneForZero server) := by
  refine ⟨(authorized_of_reach reached).gateHolds_iff peers conn pdu, fun permitted => ?_⟩
  have both := permitted.invariant (fun state => Identified state.reg ∧ NoneForZero state)
    ⟨identified_empty, fun _ member => absurd member List.not_mem_nil⟩
    (by
      rintro state event ⟨identified, none⟩ ⟨admissible, names, permitted⟩
      exact ⟨identified_step identified admissible names,
        noneForZero_step identified none admissible permitted⟩)
  exact both.2

/-- A client asks to add a member to group 5. -/
def changeMemberPdu : Pdu :=
  ⟨sidGroup, cidGroupChangeMemberRequest, 1, .groupChangeMemberReq 7 5 1 none []⟩

/-- User 7 logs in and asks to add the member. -/
def changeAfterLoginEvents : List Event :=
  onlineEvents ++
    [.accept 1 3 0 0, .read 1 (loginPdu "ann" 1) Peers.allUp,
      .validateRsp ⟨1, "ann", 3⟩ (acceptedRsp "ann" 7 3) true 0,
      .read 1 changeMemberPdu Peers.allUp]

/-- The request of user 7 passes the check, and goes out in the name of user 7. -/
theorem gate_holds_iff_permitted_login :
    let server := Lib.run Server.step (Server.init sampleConfig 1) changeAfterLoginEvents
    (GateHolds server.reg Peers.allUp 1 changeMemberPdu ↔
      Permitted server.reg 1 changeMemberPdu) ∧ NoneForZero server ∧
    Out.db ⟨sidGroup, cidGroupChangeMemberRequest, 1, .groupChangeMemberReq 7 5 1 (some 3) []⟩ ∈
      server.log := by
  have faithful := Peers.allUp_faithful
  have admitted : Lib.Meets Server.step Admissible (Server.init sampleConfig 1)
      changeAfterLoginEvents :=
    ⟨trivial, trivial, ⟨by decide, by decide⟩, ⟨by decide, faithful⟩, trivial,
      ⟨by decide, faithful⟩, trivial⟩
  have permitted : Lib.Meets Server.step
      (fun state event => Admissible state event ∧ NamesUsers event ∧ OnlyPermitted state event)
      (Server.init sampleConfig 1) changeAfterLoginEvents :=
    ⟨⟨trivial, trivial, trivial⟩, ⟨trivial, trivial, trivial⟩,
      ⟨⟨by decide, by decide⟩, trivial, trivial⟩, ⟨⟨by decide, faithful⟩, trivial, .inl rfl⟩,
      ⟨trivial, fun _ => by decide, trivial⟩,
      ⟨⟨by decide, faithful⟩, trivial, .inr (by decide)⟩, trivial⟩
  have gate := gate_holds_iff_permitted (Lib.reach_run _ admitted) Peers.allUp 1 changeMemberPdu
  exact ⟨gate.1, gate.2 (Lib.reach_run _ permitted), by decide⟩

/-- A server with one connection, which did not log in. -/
def unvalidated : Server :=
  (Server.init sampleConfig 0).step (.accept 1 3 0 0)

theorem reached_unvalidated : Reached Admissible sampleConfig 0 unvalidated := by
  refine .step .start ⟨by simp [Server.init, Registry.empty], fun other member => ?_⟩
  cases member

/-- The connection did not log in, and its request is forwarded on behalf of
user id 0, which may change every group. -/
theorem gate_lets_unvalidated_through :
    Reached Admissible sampleConfig 0 unvalidated ∧
    ¬GateHolds unvalidated.reg Peers.allUp 1 changeMemberPdu ∧
    Out.db ⟨sidGroup, cidGroupChangeMemberRequest, 1, .groupChangeMemberReq 0 5 1 (some 3) []⟩ ∈
      (unvalidated.step (.read 1 changeMemberPdu Peers.allUp)).log ∧
    DbProxy.hasModifyPermission (some [⟨9, DbProxy.groupTypeNormal⟩]) 0
      DbProxy.groupModifyTypeAdd = true := by
  refine ⟨reached_unvalidated, ?_, by decide, by decide⟩
  intro gate
  have quiet := ((gate (by decide)).2 (by decide)).2
  exact quiet ⟨sidGroup, cidGroupChangeMemberRequest, 1,
    .groupChangeMemberReq 0 5 1 (some 3) []⟩ (by decide)

end AChat.MsgServer
