import AChat.MsgServer.HandlePdu

/-!
Owns what a client PDU can do to the registry. Every handler leaves the registry
untouched but for kicks, counters and acknowledgements, or closes its own
connection, or enqueues a login. `onRead_effect` says so once, and the
invariants of the registry are proved from these three cases.
-/

namespace AChat.MsgServer

/-! ### What the registry keeps of a connection -/

/-- The fields of a connection that the registry depends on. -/
structure Standing where
  handle : Handle
  loginName : String
  userId : UserId
  isOpen : Bool
  clientType : BitVec 32
  closed : Bool
deriving DecidableEq, Repr

def MsgConn.standing (conn : MsgConn) : Standing where
  handle := conn.handle
  loginName := conn.loginName
  userId := conn.userId
  isOpen := conn.isOpen
  clientType := conn.clientType
  closed := conn.closed

/-- The connection is in the connection map of some user. -/
def Registry.Listed (reg : Registry) (conn : ConnPtr) : Prop :=
  ∃ (user : UserPtr) (handle : Handle), (reg.users user).connMap[handle]? = some conn

/-- Nothing changed but counters, send lists, and kicks of listed connections. -/
structure Untouched (before after : Registry) : Prop where
  users : after.users = before.users
  nextUser : after.nextUser = before.nextUser
  imUserMap : after.imUserMap = before.imUserMap
  imUserMapByName : after.imUserMapByName = before.imUserMapByName
  accepted : after.accepted = before.accepted
  standing : ∀ conn, (after.conns conn).standing = (before.conns conn).standing
  kicked : ∀ conn, (after.conns conn).isKickOff = true →
    (before.conns conn).isKickOff = true ∨ before.Listed conn
  kickStays : ∀ conn, (before.conns conn).isKickOff = true → (after.conns conn).isKickOff = true

namespace Untouched

variable {before middle after : Registry}

theorem refl (reg : Registry) : Untouched reg reg :=
  ⟨rfl, rfl, rfl, rfl, rfl, fun _ => rfl, fun _ kicked => .inl kicked, fun _ kicked => kicked⟩

theorem trans (first : Untouched before middle) (second : Untouched middle after) :
    Untouched before after where
  users := second.users.trans first.users
  nextUser := second.nextUser.trans first.nextUser
  imUserMap := second.imUserMap.trans first.imUserMap
  imUserMapByName := second.imUserMapByName.trans first.imUserMapByName
  accepted := second.accepted.trans first.accepted
  standing conn := (second.standing conn).trans (first.standing conn)
  kicked conn kicked := by
    rcases second.kicked conn kicked with earlier | listed
    · exact first.kicked conn earlier
    · right
      unfold Registry.Listed at listed ⊢
      rwa [first.users] at listed
  kickStays conn kicked := second.kickStays conn (first.kickStays conn kicked)

variable (untouched : Untouched before after) (conn : ConnPtr)
include untouched

theorem handle : (after.conns conn).handle = (before.conns conn).handle :=
  congrArg Standing.handle (untouched.standing conn)

theorem loginName : (after.conns conn).loginName = (before.conns conn).loginName :=
  congrArg Standing.loginName (untouched.standing conn)

theorem userId : (after.conns conn).userId = (before.conns conn).userId :=
  congrArg Standing.userId (untouched.standing conn)

theorem isOpen : (after.conns conn).isOpen = (before.conns conn).isOpen :=
  congrArg Standing.isOpen (untouched.standing conn)

theorem clientType : (after.conns conn).clientType = (before.conns conn).clientType :=
  congrArg Standing.clientType (untouched.standing conn)

theorem closed : (after.conns conn).closed = (before.conns conn).closed :=
  congrArg Standing.closed (untouched.standing conn)

end Untouched

/-- A change of one connection that keeps its standing and its kick leaves the registry
untouched. -/
theorem Untouched.modifyConn (reg : Registry) (conn : ConnPtr) (change : MsgConn → MsgConn)
    (standing : ∀ value, (change value).standing = value.standing)
    (kick : ∀ value, (change value).isKickOff = value.isKickOff) :
    Untouched reg (reg.modifyConn conn change) := by
  refine ⟨rfl, rfl, rfl, rfl, rfl, ?_, ?_, ?_⟩
  · intro other
    by_cases same : other = conn
    · subst same
      simp [Registry.modifyConn, Registry.setConn, standing]
    · simp [Registry.modifyConn, Registry.setConn, same]
  · intro other kicked
    left
    by_cases same : other = conn
    · subst same
      simpa [Registry.modifyConn, Registry.setConn, kick] using kicked
    · simpa [Registry.modifyConn, Registry.setConn, same] using kicked
  · intro other kicked
    by_cases same : other = conn
    · subst same
      simpa [Registry.modifyConn, Registry.setConn, kick] using kicked
    · simpa [Registry.modifyConn, Registry.setConn, same] using kicked

theorem handleKickUser_untouched (reg : Registry) (user : UserPtr) (conn : ConnPtr)
    (reason : Nat) : Untouched reg (reg.handleKickUser user conn reason).1 := by
  unfold Registry.handleKickUser
  split
  · exact Untouched.refl reg
  · rename_i target found
    refine ⟨rfl, rfl, rfl, rfl, rfl, ?_, ?_, ?_⟩
    · intro other
      by_cases same : other = target
      · subst same
        simp [Registry.modifyConn, Registry.setConn, MsgConn.standing]
      · simp [Registry.modifyConn, Registry.setConn, same]
    · intro other kicked
      by_cases same : other = target
      · subst same
        exact .inr ⟨user, _, found⟩
      · left
        simpa [Registry.modifyConn, Registry.setConn, same] using kicked
    · intro other kicked
      by_cases same : other = target
      · subst same
        simp [Registry.modifyConn, Registry.setConn]
      · simpa [Registry.modifyConn, Registry.setConn, same] using kicked

theorem kickOutSameClientType_untouched (reg : Registry) (user : UserPtr)
    (clientType : BitVec 32) (reason : Nat) (fromConn : Option ConnPtr) :
    Untouched reg (reg.kickOutSameClientType user clientType reason fromConn).1 := by
  unfold Registry.kickOutSameClientType
  split
  · exact Untouched.refl reg
  · exact handleKickUser_untouched reg user _ reason

/-! ### What is sent -/

/-- The PDU sent to all login servers. -/
def Out.loginPdu : Out → Option Pdu
  | .allLogin pdu => some pdu
  | _ => none

/-- The login name and the handle in a validate request. -/
def Out.validateRequest : Out → Option (String × Handle)
  | .db ⟨_, _, _, .validateReq userName _ attach⟩ => some (userName, attach)
  | _ => none

/-- A request to a DB server is made on behalf of this user. -/
def Out.OnBehalfOf (sender : Option UserId) : Out → Prop
  | .db request => request.body.requester.isSome ∧ request.body.requester = sender
  | _ => True

/-- Neither a count for the login servers nor a validate request is sent, and
every request to a DB server is made on behalf of `sender`. -/
def Quiet (sender : Option UserId) (outs : List Out) : Prop :=
  ∀ out ∈ outs, out.loginPdu = none ∧ out.validateRequest = none ∧ out.OnBehalfOf sender

theorem Quiet.nil {sender : Option UserId} : Quiet sender [] := by
  intro out member
  cases member

theorem Quiet.append {sender : Option UserId} {left right : List Out}
    (leftQuiet : Quiet sender left) (rightQuiet : Quiet sender right) :
    Quiet sender (left ++ right) := by
  intro out member
  rcases List.mem_append.mp member with member | member
  · exact leftQuiet out member
  · exact rightQuiet out member

theorem Quiet.singleton {sender : Option UserId} {out : Out} (loginPdu : out.loginPdu = none)
    (validateRequest : out.validateRequest = none) (behalf : out.OnBehalfOf sender) :
    Quiet sender [out] := by
  intro other member
  rw [List.mem_singleton.mp member]
  exact ⟨loginPdu, validateRequest, behalf⟩

theorem Quiet.client {sender : Option UserId} (conn : ConnPtr) (pdu : Pdu) :
    Quiet sender [.client conn pdu] :=
  Quiet.singleton rfl rfl trivial

theorem Quiet.sendTo {sender : Option UserId} (available : Bool) {out : Out}
    (loginPdu : out.loginPdu = none) (validateRequest : out.validateRequest = none)
    (behalf : out.OnBehalfOf sender) : Quiet sender (Registry.sendTo available out) := by
  unfold Registry.sendTo
  split
  · exact Quiet.singleton loginPdu validateRequest behalf
  · exact Quiet.nil

theorem Quiet.route {sender : Option UserId} (available : Bool) (pdu : Pdu) :
    Quiet sender (Registry.sendTo available (.route pdu)) :=
  Quiet.sendTo available rfl rfl trivial

theorem Quiet.db {sender : Option UserId} (available : Bool) {pdu : Pdu}
    (plain : Out.validateRequest (.db pdu) = none)
    (behalf : pdu.body.requester.isSome ∧ pdu.body.requester = sender) :
    Quiet sender (Registry.sendTo available (.db pdu)) :=
  Quiet.sendTo available rfl plain behalf

theorem broadcastPdu_quiet (reg : Registry) (userId : UserId) (fromConn : Option ConnPtr)
    (pdu : Pdu) {sender : Option UserId} : Quiet sender (reg.broadcastPdu userId fromConn pdu) := by
  unfold Registry.broadcastPdu
  split
  · exact Quiet.nil
  · intro out member
    obtain ⟨target, _, rfl⟩ := List.mem_map.mp member
    exact ⟨rfl, rfl, trivial⟩

theorem kickOutSameClientType_quiet (reg : Registry) (user : UserPtr) (clientType : BitVec 32)
    (reason : Nat) (fromConn : Option ConnPtr) {sender : Option UserId} :
    Quiet sender (reg.kickOutSameClientType user clientType reason fromConn).2 := by
  unfold Registry.kickOutSameClientType Registry.handleKickUser
  split
  · exact Quiet.nil
  · split
    · exact Quiet.nil
    · exact Quiet.client _ _

theorem forwardToDb_quiet (reg : Registry) (conn : ConnPtr) (pdu : Pdu)
    (available setsAttach : Bool) :
    Quiet (some (reg.conns conn).userId) (reg.forwardToDb conn pdu available setsAttach) := by
  unfold Registry.forwardToDb
  split
  · exact Quiet.db available rfl ⟨rfl, rfl⟩
  · exact Quiet.nil

theorem forwardOrReply_quiet (peers : Peers) (conn : ConnPtr) (pdu : Pdu) (request reply : Body)
    (replyCommand : Nat) {sender : Option UserId}
    (plain : Out.validateRequest (.db { pdu with body := request }) = none)
    (behalf : request.requester.isSome ∧ request.requester = sender) :
    Quiet sender (Registry.forwardOrReply peers conn pdu request reply replyCommand) := by
  unfold Registry.forwardOrReply
  split
  · exact Quiet.singleton rfl plain behalf
  · exact Quiet.client _ _

/-! ### The cases of a client PDU -/

/-- What the file handler may send: nothing that concerns logins, and requests
only on behalf of the connection's own user. -/
def Peers.Faithful (peers : Peers) : Prop :=
  ∀ reg conn pdu, Quiet (some (reg.conns conn).userId) (peers.fileHandler reg conn pdu)

/-- The three things that a PDU on a connection can do. The second one
needs `closes`, the third one `starts`. -/
inductive Effect (sender : Option UserId) (starts : Option (String × BitVec 32)) (closes : Prop)
    (reg : Registry) (conn : ConnPtr) : Registry × List Out → Prop where
  | quiet {after : Registry} {outs : List Out} :
      Untouched reg after → Quiet sender outs → Effect sender starts closes reg conn (after, outs)
  | closed {reset : Registry} {outs : List Out} :
      closes → Untouched reg reset → Quiet sender outs →
        Effect sender starts closes reg conn ((reset.close conn).1, outs ++ (reset.close conn).2)
  | login {userName password : String} {clientType : BitVec 32} {onlineStatus seqNum : Nat} :
      starts = some (userName, clientType) → (reg.conns conn).loginName = "" →
        Effect sender starts closes reg conn
          ((reg.nameConn conn userName clientType onlineStatus).enqueueLogin conn
            userName,
          [.db ⟨sidOther, cidOtherValidateReq, seqNum,
            .validateReq userName password (reg.conns conn).handle⟩])

theorem Effect.silent {sender : Option UserId} {starts : Option (String × BitVec 32)}
    {closes : Prop} {reg : Registry} {conn : ConnPtr} {outs : List Out}
    (quiet : Quiet sender outs) : Effect sender starts closes reg conn (reg, outs) :=
  .quiet (Untouched.refl reg) quiet

/-- A handler is reached only through a case of the switch. -/
theorem mem_of_dispatch {commandId : Nat} {handler : Handler}
    (dispatched : dispatch commandId = some handler) : (commandId, handler) ∈ handlerTable := by
  unfold dispatch at dispatched
  obtain ⟨before, after, parts, _⟩ := List.lookup_eq_some_iff.mp dispatched
  rw [parts]
  simp

theorem dispatch_loginRequest {commandId : Nat}
    (dispatched : dispatch commandId = some .loginRequest) : commandId = cidLoginReqUserlogin := by
  have entries : ∀ entry ∈ handlerTable, entry.2 = .loginRequest →
      entry.1 = cidLoginReqUserlogin := by decide
  exact entries _ (mem_of_dispatch dispatched) rfl

/-- The login command reaches no other handler. -/
theorem commandId_ne_of_dispatch {commandId : Nat} {handler : Handler}
    (dispatched : dispatch commandId = some handler) (other : handler ≠ .loginRequest) :
    commandId ≠ cidLoginReqUserlogin := by
  rintro rfl
  have login : dispatch cidLoginReqUserlogin = some .loginRequest := by decide
  rw [login] at dispatched
  exact other (Option.some.inj dispatched).symm

theorem dispatch_loginOutRequest {commandId : Nat}
    (dispatched : dispatch commandId = some .loginOutRequest) :
    commandId = cidLoginReqLoginout := by
  have entries : ∀ entry ∈ handlerTable, entry.2 = .loginOutRequest →
      entry.1 = cidLoginReqLoginout := by decide
  exact entries _ (mem_of_dispatch dispatched) rfl

section Handlers

variable (starts : Option (String × BitVec 32)) (closes : Prop) (reg : Registry) (peers : Peers)
  (conn : ConnPtr) (pdu : Pdu)

theorem handleLoginRequest_effect (sender : Option UserId)
    (command : pdu.commandId = cidLoginReqUserlogin) :
    Effect sender (reg.startedLogin peers conn pdu) (reg.ClosesOnRead peers conn pdu) reg conn
      (reg.handleLoginRequest peers conn pdu) := by
  unfold Registry.handleLoginRequest
  split
  · exact Effect.silent Quiet.nil
  · rename_i unnamed
    rw [not_not] at unnamed
    split
    · rename_i refused
      refine Effect.closed (.inr (.inr ⟨command, unnamed, ?_⟩)) (Untouched.refl reg)
        (Quiet.client _ _)
      rw [refused]
      exact Option.some_ne_none _
    · rename_i accepted
      split
      · rename_i parsed
        refine Effect.login ?_ unnamed
        unfold Registry.startedLogin
        rw [if_pos ⟨command, unnamed, accepted⟩, parsed]
      · exact Effect.silent Quiet.nil

theorem handleLoginOutRequest_effect (command : pdu.commandId = cidLoginReqLoginout) :
    Effect (some (reg.conns conn).userId) (reg.startedLogin peers conn pdu)
      (reg.ClosesOnRead peers conn pdu) reg conn (reg.handleLoginOutRequest peers conn pdu) := by
  unfold Registry.handleLoginOutRequest
  refine Effect.closed (.inr (.inl command)) (Untouched.refl reg) ?_
  exact (Quiet.db _ rfl ⟨rfl, rfl⟩).append (Quiet.client _ _)

theorem handleKickPCClient_effect :
    Effect (some (reg.conns conn).userId) starts closes reg conn
      (reg.handleKickPCClient peers conn pdu) := by
  unfold Registry.handleKickPCClient
  split
  · split
    · exact Effect.silent Quiet.nil
    · have rest : Quiet (some (reg.conns conn).userId)
          (Registry.sendTo peers.routeServ (.route ⟨sidOther, cidOtherServerKickUser, 0,
              .serverKickUser (reg.conns conn).userId clientTypeMac kickReasonMobileKick⟩) ++
            [.client conn ⟨sidLogin, cidLoginResKickpcclient, pdu.seqNum,
              .kickPCClientRsp (reg.conns conn).userId 0⟩]) :=
        (Quiet.route _ _).append (Quiet.client _ _)
      simp only [List.append_assoc]
      split
      · exact Effect.silent (Quiet.nil.append rest)
      · exact Effect.quiet (kickOutSameClientType_untouched reg _ _ _ _)
          ((kickOutSameClientType_quiet reg _ _ _ _).append rest)
  · exact Effect.silent Quiet.nil

theorem handleClientMsgData_effect :
    Effect (some (reg.conns conn).userId) starts closes reg conn
      (reg.handleClientMsgData peers conn pdu) := by
  unfold Registry.handleClientMsgData
  split
  · split
    · exact Effect.silent Quiet.nil
    · split
      · exact Effect.silent Quiet.nil
      · split
        · exact Effect.silent Quiet.nil
        · exact Effect.quiet (Untouched.modifyConn reg conn _ (fun _ => rfl) fun _ => rfl)
            (Quiet.db _ rfl ⟨rfl, rfl⟩)
  · exact Effect.silent Quiet.nil

theorem delFromSendList_untouched (msgId fromId : Nat) :
    Untouched reg (reg.delFromSendList conn msgId fromId) :=
  Untouched.modifyConn reg conn _ (fun _ => rfl) fun _ => rfl

theorem handleClientMsgDataAck_effect :
    Effect (some (reg.conns conn).userId) starts closes reg conn
      (reg.handleClientMsgDataAck conn pdu, []) := by
  refine Effect.quiet ?_ Quiet.nil
  unfold Registry.handleClientMsgDataAck
  split
  · split
    · exact delFromSendList_untouched reg conn _ _
    · exact Untouched.refl reg
  · exact Untouched.refl reg

theorem handleClientMsgReadAck_effect :
    Effect (some (reg.conns conn).userId) starts closes reg conn
      (reg.handleClientMsgReadAck peers conn pdu) := by
  unfold Registry.handleClientMsgReadAck
  split
  · refine Effect.quiet ?_ ?_
    · split
      · exact delFromSendList_untouched reg conn _ _
      · exact Untouched.refl reg
    · exact ((Quiet.db _ rfl ⟨rfl, rfl⟩).append (broadcastPdu_quiet reg _ _ _)).append
        (Quiet.route _ _)
  · exact Effect.silent Quiet.nil

theorem handleClientDeviceToken_quiet :
    Quiet (some (reg.conns conn).userId) (reg.handleClientDeviceToken peers conn pdu) := by
  unfold Registry.handleClientDeviceToken
  split
  · exact Quiet.nil
  · split
    · exact Quiet.append (Quiet.client _ _) (Quiet.db _ rfl ⟨rfl, rfl⟩)
    · exact Quiet.nil

theorem handleClientRemoveSessionRequest_quiet :
    Quiet (some (reg.conns conn).userId) (reg.handleClientRemoveSessionRequest peers conn pdu) := by
  unfold Registry.handleClientRemoveSessionRequest
  split
  · refine (Quiet.db _ rfl ⟨rfl, rfl⟩).append ?_
    split
    · exact (broadcastPdu_quiet reg _ _ _).append (Quiet.route _ _)
    · exact Quiet.nil
  · exact Quiet.nil

theorem handleClientP2PCmdMsg_quiet :
    Quiet (some (reg.conns conn).userId) (reg.handleClientP2PCmdMsg peers conn pdu) := by
  unfold Registry.handleClientP2PCmdMsg
  split
  · exact ((broadcastPdu_quiet reg _ _ _).append (broadcastPdu_quiet reg _ _ _)).append
      (Quiet.route _ _)
  · exact Quiet.nil

theorem handleClientUsersStatusRequest_quiet :
    Quiet (some (reg.conns conn).userId) (reg.handleClientUsersStatusRequest peers conn pdu) := by
  unfold Registry.handleClientUsersStatusRequest
  split
  · exact Quiet.route _ _
  · exact Quiet.nil

theorem groupRequest_quiet :
    Quiet (some (reg.conns conn).userId) (reg.handleClientGroupNormalRequest peers conn pdu) ∧
    Quiet (some (reg.conns conn).userId) (reg.handleClientGroupInfoRequest peers conn pdu) ∧
    Quiet (some (reg.conns conn).userId) (reg.handleClientGroupCreateRequest peers conn pdu) ∧
    Quiet (some (reg.conns conn).userId) (reg.handleClientGroupChangeMemberRequest peers conn pdu) ∧
    Quiet (some (reg.conns conn).userId)
      (reg.handleClientGroupShieldGroupRequest peers conn pdu) := by
  unfold Registry.handleClientGroupNormalRequest Registry.handleClientGroupInfoRequest
    Registry.handleClientGroupCreateRequest Registry.handleClientGroupChangeMemberRequest
    Registry.handleClientGroupShieldGroupRequest
  refine ⟨?_, ?_, ?_, ?_, ?_⟩ <;> split
  all_goals first
    | exact Quiet.nil
    | exact forwardOrReply_quiet peers conn pdu _ _ _ rfl ⟨rfl, rfl⟩
    | skip
  split
  · exact Quiet.nil
  · exact forwardOrReply_quiet peers conn pdu _ _ _ rfl ⟨rfl, rfl⟩

theorem runHandler_effect (faithful : peers.Faithful) {handler : Handler}
    (dispatched : dispatch pdu.commandId = some handler) :
    Effect (reg.requestSender conn pdu) (reg.startedLogin peers conn pdu)
      (reg.ClosesOnRead peers conn pdu) reg conn (reg.runHandler peers conn pdu handler) := by
  by_cases login : handler = .loginRequest
  · subst login
    exact handleLoginRequest_effect reg peers conn pdu _ (dispatch_loginRequest dispatched)
  have sender : reg.requestSender conn pdu = some (reg.conns conn).userId :=
    if_neg (commandId_ne_of_dispatch dispatched login)
  rw [sender]
  have logout := handleLoginOutRequest_effect reg peers conn pdu
  generalize reg.startedLogin peers conn pdu = starts at logout ⊢
  generalize reg.ClosesOnRead peers conn pdu = closes at logout ⊢
  have group := groupRequest_quiet reg peers conn pdu
  have file : Effect _ starts closes reg conn (reg, peers.fileHandler reg conn pdu) :=
    Effect.silent (faithful reg conn pdu)
  have forwarded : ∀ available setsAttach,
      Effect _ starts closes reg conn (reg, reg.forwardToDb conn pdu available setsAttach) :=
    fun available setsAttach => Effect.silent (forwardToDb_quiet reg conn pdu _ _)
  cases handler with
  | heartBeat => exact Effect.silent (Quiet.client _ _)
  | loginRequest => exact absurd rfl login
  | loginOutRequest => exact logout (dispatch_loginOutRequest dispatched)
  | clientDeviceToken => exact Effect.silent (handleClientDeviceToken_quiet reg peers conn pdu)
  | kickPCClient => exact handleKickPCClient_effect starts closes reg peers conn pdu
  | clientMsgData => exact handleClientMsgData_effect starts closes reg peers conn pdu
  | clientMsgDataAck => exact handleClientMsgDataAck_effect starts closes reg conn pdu
  | clientTimeRequest => exact Effect.silent (Quiet.client _ _)
  | clientMsgReadAck => exact handleClientMsgReadAck_effect starts closes reg peers conn pdu
  | clientP2PCmdMsg => exact Effect.silent (handleClientP2PCmdMsg_quiet reg peers conn pdu)
  | clientRemoveSessionRequest =>
      exact Effect.silent (handleClientRemoveSessionRequest_quiet reg peers conn pdu)
  | clientUsersStatusRequest =>
      exact Effect.silent (handleClientUsersStatusRequest_quiet reg peers conn pdu)
  | clientGroupNormalRequest => exact Effect.silent group.1
  | clientGroupInfoRequest => exact Effect.silent group.2.1
  | clientGroupCreateRequest => exact Effect.silent group.2.2.1
  | clientGroupChangeMemberRequest => exact Effect.silent group.2.2.2.1
  | clientGroupShieldGroupRequest => exact Effect.silent group.2.2.2.2
  | clientFileRequest | clientFileHasOfflineReq | clientFileAddOfflineReq
  | clientFileDelOfflineReq => exact file
  | _ => exact forwarded _ _

theorem onRead_effect (faithful : peers.Faithful) :
    Effect (reg.requestSender conn pdu) (reg.startedLogin peers conn pdu)
      (reg.ClosesOnRead peers conn pdu) reg conn (reg.onRead peers conn pdu) := by
  unfold Registry.onRead Registry.handlePdu
  by_cases refused : reg.Unauthorized conn pdu
  · rw [if_pos refused]
    exact Effect.closed (.inl refused) (Untouched.refl reg) Quiet.nil
  · rw [if_neg refused]
    cases dispatched : dispatch pdu.commandId with
    | none => exact Effect.silent Quiet.nil
    | some handler => exact runHandler_effect reg peers conn pdu faithful dispatched

theorem dropOverdue_untouched (currTick : Nat) :
    Untouched reg (reg.dropOverdue conn currTick) := by
  have trimmed : Untouched reg (reg.modifyConn conn fun value =>
      { value with sendMsgList := value.sendMsgList.drop (reg.overdue conn currTick).length }) :=
    Untouched.modifyConn reg conn _ (fun _ => rfl) fun _ => rfl
  exact ⟨rfl, rfl, rfl, rfl, rfl, trimmed.standing, trimmed.kicked, trimmed.kickStays⟩

end Handlers

end AChat.MsgServer
