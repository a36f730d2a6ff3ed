import AChat.Lib.Reach
import AChat.MsgServer.Effects

/-!
Owns the message server as a system: its registry, the links to its login
servers, the validate requests that no DB server has answered yet, and all that
it sent. One event is one callback of the event loop.

`Admissible` is what every run keeps to: the kernel hands out free handles, and
only accepted connections are called back. What a DB server may promise of its
responses is apart, in `AnswersRequest` and `NamesUsers`.
-/

namespace AChat.MsgServer

/-- `LoginServConn`, with what was sent on the link. -/
structure LoginServConn where
  isOpen : Bool
  sent : List Pdu
deriving DecidableEq, Repr

/-- A validate request on its way, with the connection that sent it. -/
structure ValidateReq where
  conn : ConnPtr
  userName : String
  handle : Handle
deriving DecidableEq, Repr

structure Server where
  reg : Registry
  config : MsgServConfig
  loginServers : List (Option LoginServConn)
  inflight : List ValidateReq
  log : List Out

inductive Event where
  /-- A client connects. -/
  | accept (conn : ConnPtr) (handle : Handle) (clientType : BitVec 32) (now : Nat)
  /-- A PDU of a client is read. -/
  | read (conn : ConnPtr) (pdu : Pdu) (peers : Peers)
  | onTimer (conn : ConnPtr) (currTick : Nat)
  | onClose (conn : ConnPtr)
  /-- A DB server answers a validate request. -/
  | validateRsp (req : ValidateReq) (rsp : ValidateRsp) (routeServ : Bool) (now : Nat)
  /-- A kick that another message server asked for. -/
  | serverKick (userId : UserId) (clientType : BitVec 32) (reason : Nat)
  /-- The life of a link to a login server. -/
  | loginConnect (index : Nat)
  | loginConfirm (index : Nat)
  | loginClose (index : Nat)

/-- A new connection. -/
def Registry.accept (reg : Registry) (conn : ConnPtr) (handle : Handle) (clientType : BitVec 32)
    (now : Nat) : Registry :=
  { reg.setConn conn (MsgConn.onConnected handle clientType now) with
    accepted := conn :: reg.accepted }

def Registry.empty : Registry where
  conns := fun _ => MsgConn.onConnected 0 0 0
  users := fun _ => ImUser.new ""
  nextUser := 0
  imUserMap := ∅
  imUserMapByName := ∅
  accepted := []
  downMsgMissCnt := 0

namespace Server

/-- A server with `loginServerCount` configured login servers, none connected. -/
def init (config : MsgServConfig) (loginServerCount : Nat) : Server where
  reg := Registry.empty
  config := config
  loginServers := List.replicate loginServerCount none
  inflight := []
  log := []

/-- `is_login_server_available`. -/
def isLoginServerAvailable (server : Server) : Bool :=
  server.loginServers.any fun link => link.any LoginServConn.isOpen

/-- `send_to_all_login_server` on one entry of the list. -/
def deliver (pdus : List Pdu) : Option LoginServConn → Option LoginServConn
  | some ⟨true, sent⟩ => some ⟨true, sent ++ pdus⟩
  | other => other

/-- The registry that an operation leaves, and the delivery of what it sent. -/
def perform (server : Server) (result : Registry × List Out) : Server :=
  { server with
    reg := result.1
    loginServers := server.loginServers.map (deliver (result.2.filterMap Out.loginPdu))
    log := server.log ++ result.2 }

/-- The validate requests among what a connection sent. -/
def requests (conn : ConnPtr) (outs : List Out) : List ValidateReq :=
  (outs.filterMap Out.validateRequest).map fun request => ⟨conn, request.1, request.2⟩

/-- `LoginServConn::OnConfirm`: the link opens with the number of open connections. -/
def onConfirm (server : Server) (link : LoginServConn) : LoginServConn :=
  ⟨true, link.sent ++ [⟨sidOther, cidOtherMsgServInfo, 0,
    .msgServInfo server.config server.reg.getUserConnCnt⟩]⟩

/-- What a PDU may ask of the rest of the server, with the login servers as they are. -/
def peers (server : Server) (given : Peers) : Peers :=
  { given with loginServerAvailable := server.isLoginServerAvailable }

def step (server : Server) : Event → Server
  | .accept conn handle clientType now =>
      { server with reg := server.reg.accept conn handle clientType now }
  | .read conn pdu given =>
      let result := server.reg.onRead (server.peers given) conn pdu
      { server.perform result with inflight := server.inflight ++ requests conn result.2 }
  | .onTimer conn currTick => server.perform (server.reg.onTimer conn currTick)
  | .onClose conn => server.perform (server.reg.close conn)
  | .validateRsp req rsp routeServ now =>
      { server.perform (server.reg.handleValidateResponse rsp routeServ now) with
        inflight := server.inflight.erase req }
  | .serverKick userId clientType reason =>
      match server.reg.getImUserById userId with
      | none => server
      | some user =>
          server.perform (server.reg.kickOutSameClientType user clientType reason none)
  | .loginConnect index =>
      { server with loginServers := server.loginServers.set index (some ⟨false, []⟩) }
  | .loginConfirm index =>
      { server with
        loginServers := server.loginServers.modify index fun link => link.map server.onConfirm }
  | .loginClose index => { server with loginServers := server.loginServers.set index none }

end Server

/-- What the kernel and the file handler promise of an event. Whatever a DB
server answers is admissible. -/
def Admissible (server : Server) : Event → Prop
  | .accept conn handle _ _ =>
      conn ∉ server.reg.accepted ∧
        ∀ other ∈ server.reg.accepted, (server.reg.conns other).closed = false →
          (server.reg.conns other).handle ≠ handle
  | .read conn _ given => conn ∈ server.reg.accepted ∧ given.Faithful
  | .onTimer conn _ => conn ∈ server.reg.accepted
  | .onClose conn => conn ∈ server.reg.accepted
  | _ => True

/-- The states of all runs from the start whose steps meet a condition. -/
abbrev Reached (condition : Server → Event → Prop) (config : MsgServConfig)
    (loginServerCount : Nat) (server : Server) : Prop :=
  Lib.Reach Server.step condition (Server.init config loginServerCount) server

/-- The connection on which an event calls `Close`. -/
def Server.closing (server : Server) : Event → Option ConnPtr
  | .read conn pdu given =>
      if server.reg.ClosesOnRead (server.peers given) conn pdu then some conn else none
  | .onTimer conn currTick =>
      if (server.reg.resetMsgCnt conn).timedOut conn currTick then some conn else none
  | .onClose conn => some conn
  | .validateRsp _ rsp _ _ =>
      match server.reg.awaited rsp.userName rsp.attach with
      | some (_, conn) => if rsp.resultCode = 0 then none else some conn
      | none => none
  | _ => none

/-- The validate requests that an event leaves unanswered. -/
def Server.unanswered (server : Server) : Event → List ValidateReq
  | .validateRsp req _ _ _ => server.inflight.erase req
  | _ => server.inflight

/-- The user on whose behalf an event makes requests. -/
def Server.sender (server : Server) : Event → Option UserId
  | .read conn pdu _ => server.reg.requestSender conn pdu
  | _ => none

/-! ### Inputs of concrete runs -/

/-- Every server is connected, and the file handler sends nothing. -/
def Peers.allUp : Peers where
  dbServ := true
  dbServForLogin := true
  loginServerAvailable := true
  routeServerAvailable := true
  routeServ := true
  now := 0
  fileHandler := fun _ _ _ => []

theorem Peers.allUp_faithful : Peers.allUp.Faithful :=
  fun _ _ _ => Quiet.nil

def loginPdu (userName : String) (clientType : BitVec 32) : Pdu :=
  ⟨sidLogin, cidLoginReqUserlogin, 1, .loginReq userName "" userStatusOnline clientType⟩

def logoutPdu : Pdu :=
  ⟨sidLogin, cidLoginReqLoginout, 2, .logoutReq⟩

def acceptedRsp (userName : String) (userId : UserId) (handle : Handle) : ValidateRsp :=
  ⟨userName, 0, "", ⟨userId, userName, []⟩, handle, 1⟩

def refusedRsp (userName : String) (handle : Handle) : ValidateRsp :=
  ⟨userName, 1, "", ⟨0, "", []⟩, handle, 1⟩

def sampleConfig : MsgServConfig :=
  ⟨"127.0.0.1", "127.0.0.1", 8000, 100, "msg"⟩

/-- A message server whose only login server is connected. -/
def onlineEvents : List Event :=
  [.loginConnect 0, .loginConfirm 0]

/-! ### What the DB servers may promise -/

/-- A DB server accepts a login only for a user id other than 0. -/
def NamesUsers : Event → Prop
  | .validateRsp _ rsp _ _ => rsp.resultCode = 0 → rsp.userInfo.userId ≠ 0
  | _ => True

/-- Every accepted login answers the user id of the login name. -/
def AnswersAs (resolve : String → UserId) : Event → Prop
  | .validateRsp _ rsp _ _ => rsp.resultCode = 0 → rsp.userInfo.userId = resolve rsp.userName
  | _ => True

/-- The response of a DB server is to a request on its way, and has the login
name and the handle of the request. -/
def AnswersRequest (server : Server) : Event → Prop
  | .validateRsp req rsp _ _ =>
      req ∈ server.inflight ∧ rsp.userName = req.userName ∧ rsp.attach = req.handle
  | _ => True

/-- The steps of a run in which the DB servers answer as `resolve` says, with user
ids other than 0. -/
def AnsweredBy (resolve : String → UserId) (server : Server) (event : Event) : Prop :=
  Admissible server event ∧ NamesUsers event ∧ AnswersAs resolve event

/-- Besides, every response is to a request on its way. -/
def Promised (resolve : String → UserId) (server : Server) (event : Event) : Prop :=
  AnsweredBy resolve server event ∧ AnswersRequest server event

/-- Only the response of a DB server asks for more than an admissible event. -/
theorem Promised.of_admissible {resolve : String → UserId} {server : Server} {event : Event}
    (admissible : Admissible server event)
    (other : ∀ req rsp routeServ now, event ≠ .validateRsp req rsp routeServ now) :
    Promised resolve server event := by
  cases event with
  | validateRsp req rsp routeServ now => exact absurd rfl (other req rsp routeServ now)
  | _ => exact ⟨⟨admissible, trivial, trivial⟩, trivial⟩

theorem Promised.accepted {userId : UserId} {server : Server} {req : ValidateReq}
    {routeServ : Bool} {now : Nat} (pending : req ∈ server.inflight) (nonzero : userId ≠ 0) :
    Promised (fun _ => userId) server
      (.validateRsp req (acceptedRsp req.userName userId req.handle) routeServ now) :=
  ⟨⟨trivial, fun _ => nonzero, fun _ => rfl⟩, pending, rfl, rfl⟩

theorem Promised.refused {resolve : String → UserId} {server : Server} {req : ValidateReq}
    {routeServ : Bool} {now : Nat} (pending : req ∈ server.inflight) :
    Promised resolve server
      (.validateRsp req (refusedRsp req.userName req.handle) routeServ now) :=
  ⟨⟨trivial, nofun, nofun⟩, pending, rfl, rfl⟩

/-! ### What a step can do -/

/-- The cases of a step. -/
inductive Transition (server : Server) : Event → Server → Prop where
  | accept {conn : ConnPtr} {handle : Handle} {clientType : BitVec 32} {now : Nat} :
      Transition server (.accept conn handle clientType now)
        { server with reg := server.reg.accept conn handle clientType now }
  | quiet {event : Event} {after : Registry} {outs : List Out} :
      Untouched server.reg after → Quiet (server.sender event) outs →
        Transition server event
          { server.perform (after, outs) with inflight := server.unanswered event }
  | closed {event : Event} {conn : ConnPtr} {reset : Registry} {outs : List Out} :
      server.closing event = some conn → Untouched server.reg reset →
        Quiet (server.sender event) outs →
        Transition server event
          { server.perform ((reset.close conn).1, outs ++ (reset.close conn).2) with
            inflight := server.unanswered event }
  | login {conn : ConnPtr} {pdu : Pdu} {given : Peers} {userName password : String}
      {clientType : BitVec 32} {onlineStatus seqNum : Nat} :
      server.reg.startedLogin (server.peers given) conn pdu = some (userName, clientType) →
      (server.reg.conns conn).loginName = "" →
        Transition server (.read conn pdu given)
          { server.perform
              ((server.reg.nameConn conn userName clientType onlineStatus).enqueueLogin conn
                userName,
                [.db ⟨sidOther, cidOtherValidateReq, seqNum,
                  .validateReq userName password (server.reg.conns conn).handle⟩]) with
            inflight := server.inflight ++
              [⟨conn, userName, (server.reg.conns conn).handle⟩] }
  | acceptLogin {req : ValidateReq} {rsp : ValidateRsp} {routeServ : Bool} {now : Nat}
      {imUser : UserPtr} {conn : ConnPtr} :
      server.reg.awaited rsp.userName rsp.attach = some (imUser, conn) → rsp.resultCode = 0 →
        Transition server (.validateRsp req rsp routeServ now)
          { server.perform (server.reg.acceptLogin imUser conn rsp routeServ now) with
            inflight := server.inflight.erase req }
  | loginConnect {index : Nat} :
      Transition server (.loginConnect index)
        { server with loginServers := server.loginServers.set index (some ⟨false, []⟩) }
  | loginConfirm {index : Nat} :
      Transition server (.loginConfirm index)
        { server with
          loginServers := server.loginServers.modify index
            fun link => link.map server.onConfirm }
  | loginClose {index : Nat} :
      Transition server (.loginClose index)
        { server with loginServers := server.loginServers.set index none }

theorem sendUserStatusUpdate_validateRequest (reg : Registry) (conn : ConnPtr)
    (userStatus : Nat) :
    (reg.sendUserStatusUpdate conn userStatus).filterMap Out.validateRequest = [] := by
  unfold Registry.sendUserStatusUpdate Registry.statusUpdate
  split
  · rfl
  · split
    · rfl
    · split
      · rfl
      · split <;> rfl

theorem close_validateRequest (reg : Registry) (conn : ConnPtr) :
    (reg.close conn).2.filterMap Out.validateRequest = [] := by
  unfold Registry.close Registry.closeById
  simp only
  split
  · rfl
  · exact sendUserStatusUpdate_validateRequest _ _ _

theorem Quiet.validateRequest {sender : Option UserId} {outs : List Out}
    (quiet : Quiet sender outs) :
    outs.filterMap Out.validateRequest = [] :=
  List.filterMap_eq_nil_iff.mpr fun out member => (quiet out member).2.1

theorem Quiet.loginPdu {sender : Option UserId} {outs : List Out}
    (quiet : Quiet sender outs) :
    outs.filterMap Out.loginPdu = [] :=
  List.filterMap_eq_nil_iff.mpr fun out member => (quiet out member).1

/-- An effect of a PDU on the registry, seen as a transition of the server. -/
theorem transition_of_read {server : Server} {conn : ConnPtr} {pdu : Pdu} {given : Peers}
    {result : Registry × List Out}
    (effect : Effect (server.reg.requestSender conn pdu)
      (server.reg.startedLogin (server.peers given) conn pdu)
      (server.reg.ClosesOnRead (server.peers given) conn pdu) server.reg conn result) :
    Transition server (.read conn pdu given)
      { server.perform result with
        inflight := server.inflight ++ Server.requests conn result.2 } := by
  cases effect with
  | quiet untouched quiet =>
      have none : Server.requests conn _ = [] := congrArg (List.map _) quiet.validateRequest
      rw [none, List.append_nil]
      exact Transition.quiet untouched quiet
  | closed closes untouched quiet =>
      rename_i reset outs
      have none : Server.requests conn (outs ++ (reset.close conn).2) = [] := by
        unfold Server.requests
        rw [List.filterMap_append, quiet.validateRequest, close_validateRequest]
        rfl
      rw [none, List.append_nil]
      exact Transition.closed (if_pos closes) untouched quiet
  | login starts unnamed => exact Transition.login starts unnamed

theorem transition_of_onTimer (server : Server) (conn : ConnPtr) (currTick : Nat) :
    Transition server (.onTimer conn currTick)
      (server.perform (server.reg.onTimer conn currTick)) := by
  have reset : Untouched server.reg (server.reg.resetMsgCnt conn) :=
    Untouched.modifyConn server.reg conn _ (fun _ => rfl) fun _ => rfl
  unfold Registry.onTimer
  by_cases late : (server.reg.resetMsgCnt conn).timedOut conn currTick
  · rw [if_pos late]
    have closing : server.closing (.onTimer conn currTick) = some conn := if_pos late
    exact Transition.closed closing reset Quiet.nil
  · rw [if_neg late]
    exact Transition.quiet (reset.trans (dropOverdue_untouched _ conn currTick)) Quiet.nil

/-- Every admissible step is one of the cases. -/
theorem step_transition {server : Server} {event : Event}
    (admissible : Admissible server event) :
    Transition server event (server.step event) := by
  cases event with
  | accept conn handle clientType now => exact Transition.accept
  | read conn pdu given =>
      have faithful : (server.peers given).Faithful := admissible.2
      exact transition_of_read (onRead_effect server.reg (server.peers given) conn pdu faithful)
  | onTimer conn currTick => exact transition_of_onTimer server conn currTick
  | onClose conn =>
      have closing : server.closing (.onClose conn) = some conn := rfl
      exact Transition.closed closing (Untouched.refl server.reg) Quiet.nil
  | validateRsp req rsp routeServ now =>
      unfold Server.step Registry.handleValidateResponse
      simp only
      cases awaited : server.reg.awaited rsp.userName rsp.attach with
      | none =>
          have quiet : Transition server (.validateRsp req rsp routeServ now) _ :=
            Transition.quiet (Untouched.refl server.reg) Quiet.nil
          exact quiet
      | some found =>
          obtain ⟨imUser, conn⟩ := found
          by_cases success : rsp.resultCode = 0
          · simp only [if_pos success]
            exact Transition.acceptLogin awaited success
          · simp only [if_neg success]
            have closing : server.closing (.validateRsp req rsp routeServ now) = some conn := by
              simp [Server.closing, awaited, success]
            exact Transition.closed closing (Untouched.refl server.reg) (Quiet.client conn _)
  | serverKick userId clientType reason =>
      unfold Server.step
      simp only
      split
      · have same : server =
            { server.perform (server.reg, []) with
              inflight := server.unanswered (.serverKick userId clientType reason) } := by
          have delivered : server.loginServers.map (Server.deliver []) = server.loginServers := by
            refine List.map_id'' (fun link => ?_) _
            rcases link with _ | ⟨isOpen, sent⟩
            · rfl
            · cases isOpen <;> simp [Server.deliver]
          simp [Server.perform, Server.unanswered, delivered]
        have quiet : Transition server (.serverKick userId clientType reason) _ :=
          Transition.quiet (Untouched.refl server.reg) Quiet.nil
        rwa [← same] at quiet
      · exact Transition.quiet (kickOutSameClientType_untouched _ _ _ _ _)
          (kickOutSameClientType_quiet _ _ _ _ _)
  | loginConnect index => exact Transition.loginConnect
  | loginConfirm index => exact Transition.loginConfirm
  | loginClose index => exact Transition.loginClose

end AChat.MsgServer
