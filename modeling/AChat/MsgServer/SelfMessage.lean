import AChat.MsgServer.SingleDelivery

/-!
Contract: when a client cannot write to its own user.

The handler compares the receiver with the sender that the client wrote, and only then writes
the user of the connection into the message. A client that writes another sender gets a message
to its own user through. The handler of the stored message relies on two different users.
-/

namespace AChat.MsgServer

/-! ### What is asked of the handler -/

/-- A message with this sender, receiver and type is sent to a DB server. -/
def Forwards (outs : List Out) (fromUserId : UserId) (toSessionId msgType : Nat) : Prop :=
  ∃ (pdu : Pdu) (msgId : Nat) (msgData : Content) (createTime : Nat) (attach : Option Handle),
    Out.db pdu ∈ outs ∧
      pdu.body = .msgData fromUserId toSessionId msgId msgType msgData createTime attach

/-- A single-chat message that is forwarded is one of the user of the connection to another
user. When it comes back, in any consistent registry, no connection gets it twice. -/
structure NoMessageToOneself (userId : UserId) (outs : List Out) : Prop where
  apart : ∀ fromUserId toSessionId msgType, Forwards outs fromUserId toSessionId msgType →
    checkMsgTypeSingle msgType = true → fromUserId = userId ∧ toSessionId ≠ userId
  once : ∀ fromUserId toSessionId msgType, Forwards outs fromUserId toSessionId msgType →
    checkMsgTypeSingle msgType = true → ∀ later : Registry, Consistent later →
      ∀ (msg : MsgData) (packet : Packet), msg.fromUserId = fromUserId →
        msg.toSessionId = toSessionId → msg.msgType = msgType → packet.message = .msgData msg →
          ∀ routeServ dbServ tick handle conn,
            (received conn (later.handleMsgData routeServ dbServ tick packet handle).2).count
              (Registry.clientMsgData packet msg) ≤ 1

/-- The client wrote another sender into a single-chat message to its own user, and the message
passes the checks of its length and of the rate and finds a DB server. -/
def ForgedSender (reg : Registry) (peers : Peers) (conn : ConnPtr) (pdu : Pdu) : Prop :=
  match pdu.body with
  | .msgData fromUserId toSessionId _ msgType msgData _ _ =>
      toSessionId = (reg.conns conn).userId ∧ fromUserId ≠ toSessionId ∧
        checkMsgTypeSingle msgType = true ∧ msgData.length ≠ 0 ∧
        (reg.conns conn).msgCntPerSec < maxMsgCntPerSecond ∧ peers.dbServ = true
  | _ => False

/-! ### Delivery -/

theorem group_of_single {msgType : Nat} (single : checkMsgTypeSingle msgType = true) :
    checkMsgTypeGroup msgType = false := by
  unfold checkMsgTypeSingle at single
  unfold checkMsgTypeGroup
  have text : msgTypeSingleText = 1 := rfl
  have audio : msgTypeSingleAudio = 2 := rfl
  have groupText : msgTypeGroupText = 17 := rfl
  have groupAudio : msgTypeGroupAudio = 18 := rfl
  simp only [Bool.or_eq_true, beq_iff_eq, Bool.or_eq_false_iff, beq_eq_false_iff_ne] at single ⊢
  omega

/-- A broadcast reaches a connection once at most, and only one of the user. -/
theorem Registry.OneEntry.received_broadcast_cases {reg : Registry} (oneEntry : reg.OneEntry)
    (userId : UserId) (fromConn : Option ConnPtr) (packet : Packet) (conn : ConnPtr) :
    received conn (reg.broadcast userId fromConn packet) = [] ∨
      (reg.RegisteredTo userId conn ∧
        received conn (reg.broadcast userId fromConn packet) = [packet]) := by
  by_cases target : reg.RegisteredTo userId conn ∧ some conn ≠ fromConn
  · exact .inr ⟨target.1, oneEntry.received_broadcast target.1 target.2⟩
  · exact .inl (received_broadcast_nil target)

/-- A message between two users is delivered to no connection twice. -/
theorem count_received_le_one {reg : Registry} (oneEntry : reg.OneEntry) {msg : MsgData}
    {packet : Packet} (carries : packet.message = .msgData msg)
    (single : checkMsgTypeGroup msg.msgType = false) (apart : msg.fromUserId ≠ msg.toSessionId)
    (routeServ dbServ : Bool) (tick : ConnPtr → Nat) (handle : Handle) (conn : ConnPtr) :
    (received conn (reg.handleMsgData routeServ dbServ tick packet handle).2).count
      (Registry.clientMsgData packet msg) ≤ 1 := by
  by_cases stored : msg.msgId = 0
  · have nothing : (reg.handleMsgData routeServ dbServ tick packet handle).2 = [] := by
      unfold Registry.handleMsgData
      rw [carries]
      dsimp only
      rw [if_neg (Bool.not_eq_true _ ▸ single), if_pos stored]
    rw [nothing]
    exact Nat.zero_le _
  · rw [handleMsgData_stored routeServ dbServ carries single stored, received_stored_single]
    have acknowledged : (received conn (Sent.toClient (reg.getMsgConnByHandle msg.fromUserId handle)
        (msgDataAck msg sessionTypeSingle packet.seqNum))).count
          (Registry.clientMsgData packet msg) = 0 := by
      rw [List.count_eq_zero]
      intro member
      by_cases origin : reg.getMsgConnByHandle msg.fromUserId handle = some conn
      · rw [origin, received_toClient_self, List.mem_singleton] at member
        have same := congrArg Packet.message member
        cases same
      · rw [received_toClient_other origin] at member
        cases member
    rw [List.count_append, List.count_append, acknowledged]
    rcases oneEntry.received_broadcast_cases msg.fromUserId
        (reg.getMsgConnByHandle msg.fromUserId handle) (Registry.clientMsgData packet msg) conn
      with silent | ⟨sender, one⟩
    · rw [silent]
      rcases oneEntry.received_broadcast_cases msg.toSessionId none
        (Registry.clientMsgData packet msg) conn with nothing | ⟨_, other⟩
      · rw [nothing]
        simp
      · rw [other]
        simp
    · rw [one]
      rcases oneEntry.received_broadcast_cases msg.toSessionId none
        (Registry.clientMsgData packet msg) conn with nothing | ⟨receiver, _⟩
      · rw [nothing]
        simp
      · exact absurd (oneEntry.userId _ _ conn sender receiver) apart

/-! ### The handler -/

section Handler

variable {reg : Registry} {peers : Peers} {conn : ConnPtr} {pdu : Pdu}

/-- What the handler forwards: the message with the user of the connection as its sender. -/
theorem forwards_handleClientMsgData {fromUserId toSessionId msgType : Nat} :
    Forwards (reg.handleClientMsgData peers conn pdu).2 fromUserId toSessionId msgType ↔
      ∃ written msgId msgData createTime attach,
        pdu.body = .msgData written toSessionId msgId msgType msgData createTime attach ∧
          fromUserId = (reg.conns conn).userId ∧ msgData.length ≠ 0 ∧
          (reg.conns conn).msgCntPerSec < maxMsgCntPerSecond ∧
          ¬(written = toSessionId ∧ checkMsgTypeSingle msgType = true) ∧ peers.dbServ = true := by
  have nothing (fromUserId toSessionId msgType : Nat) :
      ¬Forwards [] fromUserId toSessionId msgType := by
    intro forwards
    obtain ⟨_, _, _, _, _, member, _⟩ := forwards
    cases member
  unfold Registry.handleClientMsgData
  split
  · rename_i written receiver msgId type msgData createTime attach body
    have parts {other : Nat} {otherId otherType : Nat} {otherData : Content} {otherTime : Nat}
        {otherAttach : Option Handle} (same : pdu.body =
          .msgData other toSessionId otherId otherType otherData otherTime otherAttach) :
        written = other ∧ receiver = toSessionId ∧ msgId = otherId ∧ type = otherType ∧
          msgData = otherData ∧ createTime = otherTime ∧ attach = otherAttach := by
      rw [body] at same
      simpa using same
    split
    · rename_i short
      refine iff_of_false (nothing _ _ _) ?_
      intro passes
      obtain ⟨_, _, _, _, _, same, _, long, _⟩ := passes
      exact long ((parts same).2.2.2.2.1 ▸ short)
    · rename_i long
      split
      · rename_i limit
        refine iff_of_false (nothing _ _ _) ?_
        intro passes
        obtain ⟨_, _, _, _, _, _, _, _, below, _⟩ := passes
        exact absurd below (Nat.not_lt.mpr limit)
      · rename_i below
        split
        · rename_i guarded
          refine iff_of_false (nothing _ _ _) ?_
          intro passes
          obtain ⟨_, _, _, _, _, same, _, _, _, other, _⟩ := passes
          obtain ⟨rfl, rfl, _, rfl, _⟩ := parts same
          exact other guarded
        · rename_i passed
          unfold Registry.sendTo
          constructor
          · intro forwards
            obtain ⟨sent, _, _, _, _, member, content⟩ := forwards
            cases available : peers.dbServ with
            | false =>
                rw [available] at member
                cases member
            | true =>
                rw [available, if_pos rfl, List.mem_singleton] at member
                cases member
                cases content
                exact ⟨_, _, _, _, _, body, rfl, long, Nat.not_le.mp below, passed, rfl⟩
          · intro passes
            obtain ⟨_, _, _, _, _, same, sender, _, _, _, available⟩ := passes
            obtain ⟨rfl, rfl, _, rfl, _⟩ := parts same
            subst sender
            rw [available, if_pos rfl]
            exact ⟨_, _, _, _, _, List.mem_singleton_self _, rfl⟩
  · rename_i other
    refine iff_of_false (nothing _ _ _) ?_
    intro passes
    obtain ⟨_, _, _, _, _, same, _⟩ := passes
    exact other _ _ _ _ _ _ _ same

/-- On any connection and for any message, the handler keeps a user from writing to itself
exactly when the sender is not forged. -/
theorem noMessageToOneself_iff (reg : Registry) (peers : Peers) (conn : ConnPtr) (pdu : Pdu) :
    NoMessageToOneself (reg.conns conn).userId (reg.handleClientMsgData peers conn pdu).2 ↔
      ¬ForgedSender reg peers conn pdu := by
  constructor
  · intro noSelf forged
    unfold ForgedSender at forged
    split at forged
    · rename_i written receiver msgId type msgData createTime attach body
      obtain ⟨own, different, single, long, below, available⟩ := forged
      have forwards : Forwards (reg.handleClientMsgData peers conn pdu).2
          (reg.conns conn).userId receiver type :=
        forwards_handleClientMsgData.mpr ⟨_, _, _, _, _, body, rfl, long, below,
          fun guarded => different guarded.1, available⟩
      exact (noSelf.apart _ _ _ forwards single).2 own
    · exact forged
  · intro honest
    have apart : ∀ fromUserId toSessionId msgType,
        Forwards (reg.handleClientMsgData peers conn pdu).2 fromUserId toSessionId msgType →
          checkMsgTypeSingle msgType = true →
            fromUserId = (reg.conns conn).userId ∧ toSessionId ≠ (reg.conns conn).userId := by
      intro fromUserId toSessionId msgType forwards single
      obtain ⟨written, _, _, _, _, body, sender, long, below, passed, available⟩ :=
        forwards_handleClientMsgData.mp forwards
      refine ⟨sender, fun own => honest ?_⟩
      unfold ForgedSender
      rw [body]
      exact ⟨own, fun same => passed ⟨same, single⟩, single, long, below, available⟩
    refine ⟨apart, ?_⟩
    intro fromUserId toSessionId msgType forwards single later consistent msg packet sender
      receiver type carries routeServ dbServ tick handle other
    obtain ⟨own, different⟩ := apart _ _ _ forwards single
    have users : msg.fromUserId ≠ msg.toSessionId := by
      rw [sender, receiver, own]
      exact different.symm
    exact count_received_le_one (oneEntry_of_consistent consistent) carries
      (group_of_single (type ▸ single)) users routeServ dbServ tick handle other

end Handler

/-! ### A forged sender -/

/-- One connection of user 7. -/
def userSeven : Registry :=
  Registry.empty.modifyConn 1 fun value => { value with isOpen := true, userId := 7 }

/-- A text to user 7, with user 8 as its sender. -/
def forgedPdu : Pdu :=
  ⟨sidMsg, cidMsgData, 1, .msgData 8 7 0 msgTypeSingleText [65] 0 none⟩

/-- The text is forwarded as one of user 7 to user 7. -/
theorem forged_message_to_oneself :
    userSeven.handleClientMsgData .allUp 1 forgedPdu =
        ((userSeven.handleClientMsgData .allUp 1 forgedPdu).1,
          [.db { forgedPdu with body := .msgData 7 7 0 msgTypeSingleText [65] 0 (some 0) }]) ∧
      ¬NoMessageToOneself 7 (userSeven.handleClientMsgData .allUp 1 forgedPdu).2 := by
  have sent : (userSeven.handleClientMsgData .allUp 1 forgedPdu).2 =
      [.db { forgedPdu with body := .msgData 7 7 0 msgTypeSingleText [65] 0 (some 0) }] := by
    decide
  refine ⟨Prod.ext rfl sent, ?_⟩
  intro noSelf
  rw [sent] at noSelf
  have forwards := noSelf.apart 7 7 msgTypeSingleText
    ⟨_, _, _, _, _, List.mem_singleton_self _, rfl⟩ (by decide)
  exact forwards.2 rfl

end AChat.MsgServer
