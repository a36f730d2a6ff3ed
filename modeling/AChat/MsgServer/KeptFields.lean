import AChat.MsgServer.Frames

/-!
Owns the fields of a connection that outlast what happens to it.

A connection is changed when it is closed, kicked, opened or named, when an acknowledgement comes in,
and when a message is counted. A field that these changes leave alone is kept by every handler, so
the handlers are gone through once, for any field.

Does not own what the changes do to users and maps.
-/

namespace AChat.MsgServer

universe u

variable {Value : Type u} {field : MsgConn → Value}

/-- Every connection has kept the field. -/
def SameField (field : MsgConn → Value) (before after : Registry) : Prop :=
  ∀ conn, field (after.conns conn) = field (before.conns conn)

namespace SameField

variable {before middle after : Registry}

theorem refl (reg : Registry) : SameField field reg reg :=
  fun _ => rfl

theorem trans (first : SameField field before middle) (second : SameField field middle after) :
    SameField field before after :=
  fun conn => (second conn).trans (first conn)

theorem of_conns (conns : after.conns = before.conns) : SameField field before after := by
  intro conn
  rw [conns]

theorem modifyConn (reg : Registry) (conn : ConnPtr) (change : MsgConn → MsgConn)
    (keeps : ∀ value, field (change value) = field value) :
    SameField field reg (reg.modifyConn conn change) := by
  intro other
  by_cases same : other = conn
  · rw [same, Registry.modifyConn_self, keeps]
  · rw [Registry.modifyConn_other reg conn change same]

end SameField

/-- A field that nothing sets but the constructor and perhaps the count of messages. -/
structure Lasting (field : MsgConn → Value) : Prop where
  closed : ∀ value, field { value with closed := true } = field value
  kicked : ∀ value, field { value with isKickOff := true } = field value
  opened : ∀ value userId, field { value with userId := userId, isOpen := true } = field value
  named : ∀ value loginName clientType onlineStatus,
    field { value with
      loginName := loginName
      clientType := clientType
      onlineStatus := onlineStatus } = field value
  acked : ∀ value sendMsgList, field { value with sendMsgList := sendMsgList } = field value

namespace Lasting

variable (lasting : Lasting field) (reg : Registry) (peers : Peers) (conn : ConnPtr) (pdu : Pdu)
include lasting

theorem close : SameField field reg (reg.close conn).1 := by
  have marked : SameField field reg (reg.markClosed conn) := .modifyConn reg conn _ lasting.closed
  exact marked.trans (.of_conns (Shrinks.close reg conn).conns)

theorem kickOutSameClientType (user : UserPtr) (clientType : BitVec 32) (reason : Nat)
    (fromConn : Option ConnPtr) :
    SameField field reg (reg.kickOutSameClientType user clientType reason fromConn).1 := by
  unfold Registry.kickOutSameClientType Registry.handleKickUser
  split
  · exact .refl reg
  · split
    · exact .refl reg
    · exact .modifyConn reg _ _ lasting.kicked

theorem handleValidateResponse (rsp : ValidateRsp) (routeServ : Bool) (now : Nat) :
    SameField field reg (reg.handleValidateResponse rsp routeServ now).1 := by
  unfold Registry.handleValidateResponse
  split
  · exact .refl reg
  · rename_i imUser conn _
    split
    · rw [Registry.acceptLogin_registry]
      have identified : SameField field reg (reg.identified conn imUser rsp) :=
        .of_conns (reg.identified_conns conn imUser rsp)
      have kicked : SameField field (reg.identified conn imUser rsp)
          (reg.duplicateKicked conn imUser rsp) := lasting.kickOutSameClientType _ _ _ _ _
      have opened : SameField field (reg.duplicateKicked conn imUser rsp)
          ((reg.duplicateKicked conn imUser rsp).openConn conn rsp.userInfo.userId) :=
        .modifyConn _ conn _ fun value => lasting.opened value _
      exact (identified.trans kicked).trans (opened.trans (.of_conns rfl))
    · exact lasting.close reg conn

theorem handleLoginRequest : SameField field reg (reg.handleLoginRequest peers conn pdu).1 := by
  unfold Registry.handleLoginRequest
  split
  · exact .refl reg
  · split
    · exact lasting.close reg conn
    · split
      · rename_i userName _ _ clientType _
        have named (status : Nat) :
            SameField field reg (reg.nameConn conn userName clientType status) :=
          .modifyConn reg conn _ fun value => lasting.named value _ _ _
        exact (named _).trans (.of_conns (Registry.enqueueLogin_conns _ _ _))
      · exact .refl reg

theorem handleKickPCClient : SameField field reg (reg.handleKickPCClient peers conn pdu).1 := by
  unfold Registry.handleKickPCClient
  split
  · split
    · exact .refl reg
    · simp only
      split
      · exact .refl reg
      · exact lasting.kickOutSameClientType reg _ _ _ _
  · exact .refl reg

theorem delFromSendList (msgId fromId : Nat) :
    SameField field reg (reg.delFromSendList conn msgId fromId) :=
  .modifyConn reg conn _ fun value => lasting.acked value _

theorem handleClientMsgDataAck : SameField field reg (reg.handleClientMsgDataAck conn pdu) := by
  unfold Registry.handleClientMsgDataAck
  split
  · split
    · exact lasting.delFromSendList reg conn _ _
    · exact .refl reg
  · exact .refl reg

theorem handleClientMsgReadAck :
    SameField field reg (reg.handleClientMsgReadAck peers conn pdu).1 := by
  unfold Registry.handleClientMsgReadAck
  split
  · simp only
    split
    · exact lasting.delFromSendList reg conn _ _
    · exact .refl reg
  · exact .refl reg

/-- The handler of messages is the only one that may set the field. -/
theorem runHandler {handler : Handler} (other : handler ≠ .clientMsgData) :
    SameField field reg (reg.runHandler peers conn pdu handler).1 := by
  cases handler with
  | loginRequest => exact lasting.handleLoginRequest reg peers conn pdu
  | loginOutRequest => exact lasting.close reg conn
  | kickPCClient => exact lasting.handleKickPCClient reg peers conn pdu
  | clientMsgData => exact absurd rfl other
  | clientMsgDataAck => exact lasting.handleClientMsgDataAck reg conn pdu
  | clientMsgReadAck => exact lasting.handleClientMsgReadAck reg peers conn pdu
  | _ => exact .refl reg

theorem onTimer (currTick : Nat) :
    SameField field (reg.resetMsgCnt conn) (reg.onTimer conn currTick).1 := by
  unfold Registry.onTimer
  split
  · exact lasting.close _ conn
  · exact .modifyConn _ conn (fun value => { value with sendMsgList := value.sendMsgList.drop _ })
      fun value => lasting.acked value _

end Lasting

end AChat.MsgServer
