import AChat.MsgServer.GroupChat

/-!
Contract: who receives a message between two users, and who is expected to acknowledge it.

The message goes to the sender, except to the connection that it came from, and to the receiver.
Both broadcasts go through the connection maps, and each connection that they reach gets an entry
in its list of messages that wait for an acknowledgement.

Owns: the handler of a stored message, and what it does to the connections.
-/

namespace AChat.MsgServer

open Std

namespace Registry

variable (reg : Registry)

/-! ### Handlers -/

/-- `MsgConn::AddToSendList`. -/
def addToSendList (conn : ConnPtr) (msgId : Nat) (fromId : UserId) (tick : Nat) : Registry :=
  reg.modifyConn conn fun value =>
    { value with sendMsgList := value.sendMsgList ++ [⟨msgId, fromId, tick⟩] }

/-- An entry for each connection, which reads the clock itself. -/
def addToSendLists (msgId : Nat) (fromId : UserId) (tick : ConnPtr → Nat) :
    List ConnPtr → Registry → Registry
  | [], reg => reg
  | conn :: rest, reg =>
      addToSendLists msgId fromId tick rest (reg.addToSendList conn msgId fromId (tick conn))

/-- The connections of `BroadcastClientMsgData`. -/
def msgTargets (userId : UserId) (fromConn : Option ConnPtr) : List ConnPtr :=
  match reg.getImUserById userId with
  | none => []
  | some user => (reg.users user).broadcastTargets fromConn

/-- `ImUser::BroadcastClientMsgData` to the user registered under an id. -/
def broadcastClientMsgData (tick : ConnPtr → Nat) (userId : UserId) (packet : Packet)
    (msgId : Nat) (fromConn : Option ConnPtr) (fromId : UserId) : Registry × List Sent :=
  (addToSendLists msgId fromId tick (reg.msgTargets userId fromConn) reg,
    reg.broadcast userId fromConn packet)

/-- The message as the clients get it. -/
def clientMsgData (pdu : Packet) (msg : MsgData) : Packet :=
  { pdu with seqNum := 0, message := .msgData { msg with attach := none } }

/-- The request for the device tokens of the receiver. -/
def getDeviceTokenReq (msg : MsgData) : Packet :=
  ⟨sidOther, cidOtherGetDeviceTokenReq, 0,
    .getDeviceTokenReq [msg.toSessionId] { msg with attach := none }⟩

/-- `DBServConn::_HandleMsgData`. `handle` is read from the attach data of the message. -/
def handleMsgData (routeServ dbServ : Bool) (tick : ConnPtr → Nat) (pdu : Packet)
    (handle : Handle) : Registry × List Sent :=
  match pdu.message with
  | .msgData msg =>
      if checkMsgTypeGroup msg.msgType then
        (reg, reg.handleGroupMessage routeServ dbServ pdu handle)
      else if msg.msgId = 0 then (reg, [])
      else
        let msgConn := reg.getMsgConnByHandle msg.fromUserId handle
        let toSender := reg.broadcastClientMsgData tick msg.fromUserId (clientMsgData pdu msg)
          msg.msgId msgConn msg.fromUserId
        let toReceiver := toSender.1.broadcastClientMsgData tick msg.toSessionId
          (clientMsgData pdu msg) msg.msgId none msg.fromUserId
        (toReceiver.1,
          Sent.toClient msgConn (msgDataAck msg sessionTypeSingle pdu.seqNum) ++
            Sent.when routeServ (.route pdu) ++ toSender.2 ++ toReceiver.2 ++
            [.back (getDeviceTokenReq msg)])
  | _ => (reg, [])

end Registry

/-! ### The specification -/

/-- The connection has one new entry in its list. -/
def MsgConn.awaiting (value : MsgConn) (msgId : Nat) (fromId : UserId) (tick : Nat) : MsgConn :=
  { value with sendMsgList := value.sendMsgList ++ [⟨msgId, fromId, tick⟩] }

/-- What the handler does to the connections, and what they receive. -/
structure DeliversSingle (reg : Registry) (pdu : Packet) (msg : MsgData) (handle : Handle)
    (tick : ConnPtr → Nat) (later : Registry) (sent : List Sent) : Prop where
  notStored : msg.msgId = 0 → ∀ conn, received conn sent = [] ∧ later.conns conn = reg.conns conn
  origin : msg.msgId ≠ 0 → ∀ conn, reg.getMsgConnByHandle msg.fromUserId handle = some conn →
    received conn sent = [msgDataAck msg sessionTypeSingle pdu.seqNum] ∧
      later.conns conn = reg.conns conn
  delivered : msg.msgId ≠ 0 → ∀ conn, reg.getMsgConnByHandle msg.fromUserId handle ≠ some conn →
    reg.RegisteredTo msg.fromUserId conn ∨ reg.RegisteredTo msg.toSessionId conn →
      received conn sent = [Registry.clientMsgData pdu msg] ∧
        later.conns conn = (reg.conns conn).awaiting msg.msgId msg.fromUserId (tick conn)
  untouched : msg.msgId ≠ 0 → ∀ conn, ¬reg.RegisteredTo msg.fromUserId conn →
    ¬reg.RegisteredTo msg.toSessionId conn →
      received conn sent = [] ∧ later.conns conn = reg.conns conn

/-! ### Entries -/

section Lists

variable {reg : Registry} {msgId : Nat} {fromId userId : UserId} {tick : ConnPtr → Nat}
  {conn : ConnPtr} {targets : List ConnPtr}

/-- Only connections change. -/
theorem addToSendLists_maps (targets : List ConnPtr) (reg : Registry) :
    (Registry.addToSendLists msgId fromId tick targets reg).users = reg.users ∧
      (Registry.addToSendLists msgId fromId tick targets reg).imUserMap = reg.imUserMap := by
  induction targets generalizing reg with
  | nil => exact ⟨rfl, rfl⟩
  | cons target rest inductionHypothesis => exact inductionHypothesis _

theorem addToSendLists_other (other : conn ∉ targets) (reg : Registry) :
    (Registry.addToSendLists msgId fromId tick targets reg).conns conn = reg.conns conn := by
  induction targets generalizing reg with
  | nil => rfl
  | cons target rest inductionHypothesis =>
      have different : conn ≠ target := fun same => other (same ▸ List.mem_cons_self)
      show (Registry.addToSendLists msgId fromId tick rest _).conns conn = _
      rw [inductionHypothesis fun member => other (List.mem_cons_of_mem _ member)]
      exact Registry.modifyConn_other reg target _ different

/-- A connection that is among the targets once gets one entry. -/
theorem addToSendLists_target (distinct : targets.Nodup) (among : conn ∈ targets)
    (reg : Registry) :
    (Registry.addToSendLists msgId fromId tick targets reg).conns conn =
      (reg.conns conn).awaiting msgId fromId (tick conn) := by
  induction targets generalizing reg with
  | nil => cases among
  | cons target rest inductionHypothesis =>
      obtain ⟨notInRest, restDistinct⟩ := List.nodup_cons.mp distinct
      show (Registry.addToSendLists msgId fromId tick rest _).conns conn = _
      rcases List.mem_cons.mp among with same | later
      · subst same
        rw [addToSendLists_other notInRest]
        exact Registry.modifyConn_self reg conn _
      · have different : conn ≠ target := fun same => notInRest (same ▸ later)
        rw [inductionHypothesis restDistinct later]
        exact congrArg (fun value => MsgConn.awaiting value msgId fromId (tick conn))
          (Registry.modifyConn_other reg target _ different)

theorem mem_msgTargets {fromConn : Option ConnPtr} :
    conn ∈ reg.msgTargets userId fromConn ↔
      reg.RegisteredTo userId conn ∧ some conn ≠ fromConn := by
  unfold Registry.msgTargets Registry.getImUserById Registry.RegisteredTo
  cases found : reg.imUserMap[userId]? with
  | none => simp
  | some user =>
      show conn ∈ (reg.users user).broadcastTargets fromConn ↔ _
      rw [mem_broadcastTargets]
      simp

theorem Registry.OneEntry.nodup_msgTargets (oneEntry : reg.OneEntry)
    (fromConn : Option ConnPtr) : (reg.msgTargets userId fromConn).Nodup := by
  unfold Registry.msgTargets Registry.getImUserById
  cases found : reg.imUserMap[userId]? with
  | none => exact List.nodup_nil
  | some user => exact oneEntry.nodup_targets found fromConn

theorem msgTargets_congr {later : Registry} {fromConn : Option ConnPtr}
    (users : later.users = reg.users) (ids : later.imUserMap = reg.imUserMap) :
    later.msgTargets userId fromConn = reg.msgTargets userId fromConn := by
  unfold Registry.msgTargets Registry.getImUserById
  rw [users, ids]

theorem broadcast_congr {later : Registry} {fromConn : Option ConnPtr} {packet : Packet}
    (users : later.users = reg.users) (ids : later.imUserMap = reg.imUserMap) :
    later.broadcast userId fromConn packet = reg.broadcast userId fromConn packet := by
  unfold Registry.broadcast Registry.getImUserById
  rw [users, ids]

end Lists

/-! ### The handler -/

section Handler

variable {reg : Registry} {tick : ConnPtr → Nat} {pdu : Packet} {msg : MsgData} {handle : Handle}

/-- A stored message between users: the acknowledgement and the two broadcasts. -/
theorem handleMsgData_stored (routeServ dbServ : Bool) (carries : pdu.message = .msgData msg)
    (single : checkMsgTypeGroup msg.msgType = false) (stored : msg.msgId ≠ 0) :
    reg.handleMsgData routeServ dbServ tick pdu handle =
      (Registry.addToSendLists msg.msgId msg.fromUserId tick (reg.msgTargets msg.toSessionId none)
          (Registry.addToSendLists msg.msgId msg.fromUserId tick
            (reg.msgTargets msg.fromUserId (reg.getMsgConnByHandle msg.fromUserId handle)) reg),
        Sent.toClient (reg.getMsgConnByHandle msg.fromUserId handle)
            (msgDataAck msg sessionTypeSingle pdu.seqNum) ++
          Sent.when routeServ (.route pdu) ++
          reg.broadcast msg.fromUserId (reg.getMsgConnByHandle msg.fromUserId handle)
            (Registry.clientMsgData pdu msg) ++
          reg.broadcast msg.toSessionId none (Registry.clientMsgData pdu msg) ++
          [.back (Registry.getDeviceTokenReq msg)]) := by
  unfold Registry.handleMsgData Registry.broadcastClientMsgData
  rw [carries]
  dsimp only
  rw [if_neg (Bool.not_eq_true _ ▸ single), if_neg stored]
  have maps := @addToSendLists_maps msg.msgId msg.fromUserId tick
    (reg.msgTargets msg.fromUserId (reg.getMsgConnByHandle msg.fromUserId handle)) reg
  rw [msgTargets_congr maps.1 maps.2, broadcast_congr maps.1 maps.2]

theorem received_stored_single (routeServ : Bool) (conn : ConnPtr) (first second : List Sent)
    (origin : Option ConnPtr) (ack : Packet) (request : Packet) :
    received conn (Sent.toClient origin ack ++ Sent.when routeServ (.route pdu) ++ first ++ second ++
        [.back request]) =
      received conn (Sent.toClient origin ack) ++ received conn first ++ received conn second := by
  rw [received_append, received_append, received_append, received_append, received_when_route,
    List.append_nil]
  exact List.append_nil _

end Handler

theorem consistent_twoUsers : Consistent (twoUsers 3) := by
  have meets : Lib.Meets Server.step
      (fun state event => AnsweredBy userIdOf state event ∧ LoginsFresh state event)
      (Server.init sampleConfig 1) (twoLogins 3) := by
    have faithful := Peers.allUp_faithful
    refine ⟨⟨⟨trivial, trivial, trivial⟩, trivial⟩, ⟨⟨trivial, trivial, trivial⟩, trivial⟩,
      ⟨⟨⟨by decide, by decide⟩, trivial, trivial⟩, trivial⟩,
      ⟨⟨⟨by decide, faithful⟩, trivial, trivial⟩, ?_⟩,
      ⟨⟨trivial, fun _ => by decide, fun _ => rfl⟩, trivial⟩,
      ⟨⟨⟨by decide, by decide⟩, trivial, trivial⟩, trivial⟩,
      ⟨⟨⟨by decide, faithful⟩, trivial, trivial⟩, ?_⟩,
      ⟨⟨trivial, fun _ => by decide, fun _ => rfl⟩, trivial⟩, trivial⟩
    · exact fun _ => FreshForLogin.of_unnamed (by decide) (by decide)
    · exact fun _ => FreshForLogin.of_unnamed (by decide) (by decide)
  have registered := (Lib.reach_run _ meets).invariant (fun state => Registered userIdOf state.reg)
    (registered_empty userIdOf) fun _ _ holds met => holds.step met.1 met.2
  exact consistent_of_shape registered.shape registered.authorized registered.identified
    registered.live

/-- A message of user 7 to user 8. -/
def singleMsg : MsgData :=
  ⟨7, 8, 1, 0, msgTypeSingleText, [1], some 3⟩

end AChat.MsgServer
