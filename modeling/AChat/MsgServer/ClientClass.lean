import AChat.MsgServer.AuthorizationGate

/-!
Contract: a user has at most one connection in each client class that is not
kicked, and after a login that is the new one.

`KickOutSameClientType` stops at the first connection of the class, and a kicked
connection stays in the map until it is closed. So the contract needs that the
first connection of the class is the one that is not kicked.

Owns: the invariant of listed connections and their handles.
-/

namespace AChat.MsgServer

open Std

/-- The client class of a client type. -/
def clientClass (clientType : BitVec 32) : BitVec 32 :=
  clientType >>> 4

theorem sameClientClass_iff (left right : BitVec 32) :
    sameClientClass left right = true ↔ clientClass left = clientClass right := by
  unfold sameClientClass clientClass
  rw [beq_iff_eq, BitVec.ushiftRight_xor_distrib]
  exact BitVec.xor_eq_zero_iff

namespace Registry

/-- The user has the connection, in the client class, and it is not kicked. -/
def Serves (reg : Registry) (user : UserPtr) (conn : ConnPtr) (class_ : BitVec 32) : Prop :=
  (∃ handle : Handle, (reg.users user).connMap[handle]? = some conn) ∧
    clientClass (reg.conns conn).clientType = class_ ∧ (reg.conns conn).isKickOff = false

/-- No user serves two connections of one class. -/
def SingleSession (reg : Registry) : Prop :=
  ∀ (user : UserPtr) (class_ : BitVec 32) (left right : ConnPtr),
    reg.Serves user left class_ → reg.Serves user right class_ → left = right

/-- Every connection is listed under its own handle. -/
def OwnHandles (reg : Registry) : Prop :=
  ∀ (user : UserPtr) (handle : Handle) (conn : ConnPtr),
    (reg.users user).connMap[handle]? = some conn → (reg.conns conn).handle = handle

end Registry

/-! ### The condition on the steps -/

/-- The connection of the class that the user still serves is the one that the
login kicks, unless the new connection takes its entry over. -/
def Registry.KicksServed (reg : Registry) (imUser : UserPtr) (conn : ConnPtr)
    (rsp : ValidateRsp) : Prop :=
  ∀ (handle : Handle) (served : ConnPtr), handle ≠ (reg.conns conn).handle →
    (reg.users (reg.loginUser conn imUser rsp)).connMap[handle]? = some served →
    reg.Serves (reg.loginUser conn imUser rsp) served
        (clientClass (reg.conns conn).clientType) →
      reg.firstOfClass (reg.loginUser conn imUser rsp) (reg.conns conn).clientType
        (some conn) = some served

/-- Every accepted login kicks such a connection. -/
def KicksServed (server : Server) : Event → Prop
  | .validateRsp _ rsp _ _ => rsp.resultCode = 0 →
      ∀ imUser conn, server.reg.awaited rsp.userName rsp.attach = some (imUser, conn) →
        server.reg.KicksServed imUser conn rsp
  | _ => True

/-- A login request that is passed on does not move a served connection into a
class that its user serves already. -/
def KeepsClass (server : Server) : Event → Prop
  | .read conn pdu given =>
      ∀ userName clientType,
        server.reg.startedLogin (server.peers given) conn pdu = some (userName, clientType) →
          ∀ user served,
            server.reg.Serves user conn (clientClass (server.reg.conns conn).clientType) →
            server.reg.Serves user served (clientClass clientType) → served = conn
  | _ => True

def KeepsSingle (server : Server) (event : Event) : Prop :=
  KicksServed server event ∧ KeepsClass server event

/-! ### The invariant -/

/-- The invariant of the listed connections. -/
structure Sessions (reg : Registry) : Prop where
  authorized : Authorized reg
  ownHandles : reg.OwnHandles
  single : reg.SingleSession

namespace Sessions

variable {before after reg : Registry}

/-- Connections leave or are kicked, and the others keep their handle and class. -/
theorem shrinks (sessions : Sessions before) (authorized : Authorized after)
    (connMap : ∀ (user : UserPtr) (handle : Handle) (conn : ConnPtr),
      (after.users user).connMap[handle]? = some conn →
        (before.users user).connMap[handle]? = some conn)
    (conns : ∀ conn, before.Listed conn →
      (after.conns conn).handle = (before.conns conn).handle ∧
        (after.conns conn).clientType = (before.conns conn).clientType ∧
        ((after.conns conn).isKickOff = false → (before.conns conn).isKickOff = false)) :
    Sessions after := by
  refine ⟨authorized, ?_, ?_⟩
  · intro user handle conn found
    have earlier := connMap user handle conn found
    rw [(conns conn ⟨user, handle, earlier⟩).1]
    exact sessions.ownHandles user handle conn earlier
  · have served : ∀ user conn class_, after.Serves user conn class_ →
        before.Serves user conn class_ := by
      rintro user conn class_ ⟨⟨handle, found⟩, sameClass, notKicked⟩
      have earlier := connMap user handle conn found
      obtain ⟨_, clientType, kicked⟩ := conns conn ⟨user, handle, earlier⟩
      rw [clientType] at sameClass
      exact ⟨⟨handle, earlier⟩, sameClass, kicked notKicked⟩
    intro user class_ left right leftServed rightServed
    exact sessions.single user class_ left right (served _ _ _ leftServed)
      (served _ _ _ rightServed)

theorem untouched (sessions : Sessions before) (untouched : Untouched before after) :
    Sessions after := by
  refine sessions.shrinks (sessions.authorized.untouched untouched) ?_ ?_
  · rw [untouched.users]
    exact fun _ _ _ found => found
  · intro conn _
    refine ⟨untouched.handle conn, untouched.clientType conn, fun notKicked => ?_⟩
    by_contra kicked
    rw [untouched.kickStays conn (by simpa using kicked)] at notKicked
    cases notKicked

theorem accept (sessions : Sessions reg) {conn : ConnPtr} (fresh : conn ∉ reg.accepted)
    (handle : Handle) (clientType : BitVec 32) (now : Nat) :
    Sessions (reg.accept conn handle clientType now) := by
  refine sessions.shrinks (sessions.authorized.accept fresh handle clientType now)
    (fun _ _ _ found => found) ?_
  intro other listed
  have different : other ≠ conn := by
    rintro rfl
    exact fresh (sessions.authorized.listed other listed).1
  simp [Registry.accept, Registry.setConn, different]

theorem close (sessions : Sessions reg) (conn : ConnPtr) : Sessions (reg.close conn).1 := by
  have shrink := Shrinks.close reg conn
  refine sessions.shrinks (sessions.authorized.close conn) shrink.connMap ?_
  intro other _
  rw [shrink.conns]
  unfold Registry.markClosed
  by_cases same : other = conn
  · rw [same, Registry.modifyConn_self]
    exact ⟨rfl, rfl, id⟩
  · rw [Registry.modifyConn_other reg conn _ same]
    exact ⟨rfl, rfl, id⟩

/-- A login request may move a connection into another class. -/
theorem enqueueLogin (sessions : Sessions reg) {conn : ConnPtr} (accepted : conn ∈ reg.accepted)
    (userName : String) {clientType : BitVec 32} (onlineStatus : Nat)
    (keepsClass : ∀ user served,
      reg.Serves user conn (clientClass (reg.conns conn).clientType) →
        reg.Serves user served (clientClass clientType) → served = conn) :
    Sessions ((reg.nameConn conn userName clientType onlineStatus).enqueueLogin conn
      userName) := by
  have named := sessions.authorized.nameConn conn userName clientType onlineStatus
  have conns : ((reg.nameConn conn userName clientType onlineStatus).enqueueLogin conn
      userName).conns = (reg.nameConn conn userName clientType onlineStatus).conns :=
    Registry.enqueueLogin_conns _ conn userName
  have connMap := (reg.nameConn conn userName clientType onlineStatus).enqueueLogin_connMap conn
    userName
  have others : ∀ other, other ≠ conn →
      (reg.nameConn conn userName clientType onlineStatus).conns other = reg.conns other :=
    fun other different => Registry.modifyConn_other reg conn _ different
  have self : (reg.nameConn conn userName clientType onlineStatus).conns conn =
      { reg.conns conn with
        loginName := userName
        clientType := clientType
        onlineStatus := onlineStatus } := Registry.modifyConn_self reg conn _
  refine ⟨named.enqueueLogin accepted userName, ?_, ?_⟩
  · intro user handle other found
    rw [conns]
    have own := sessions.ownHandles user handle other (connMap user handle other found)
    by_cases same : other = conn
    · rw [same, self, ← same]
      exact own
    · rw [others other same]
      exact own
  · have moved : ∀ user other class_,
        ((reg.nameConn conn userName clientType onlineStatus).enqueueLogin conn userName).Serves
          user other class_ → other ≠ conn → reg.Serves user other class_ := by
      rintro user other class_ ⟨⟨handle, found⟩, sameClass, notKicked⟩ different
      rw [conns, others other different] at sameClass notKicked
      exact ⟨⟨handle, connMap user handle other found⟩, sameClass, notKicked⟩
    have own : ∀ user class_,
        ((reg.nameConn conn userName clientType onlineStatus).enqueueLogin conn userName).Serves
          user conn class_ → clientClass clientType = class_ ∧
            reg.Serves user conn (clientClass (reg.conns conn).clientType) := by
      rintro user class_ ⟨⟨handle, found⟩, sameClass, notKicked⟩
      rw [conns, self] at sameClass notKicked
      exact ⟨sameClass, ⟨handle, connMap user handle conn found⟩, rfl, notKicked⟩
    intro user class_ left right leftServed rightServed
    by_cases leftSame : left = conn
    · subst leftSame
      obtain ⟨rfl, before⟩ := own user class_ leftServed
      by_contra different
      exact different (keepsClass user right before
        (moved user right _ rightServed (Ne.symm different))).symm
    · have leftBefore := moved user left class_ leftServed leftSame
      by_cases rightSame : right = conn
      · subst rightSame
        obtain ⟨rfl, before⟩ := own user class_ rightServed
        exact keepsClass user left before leftBefore
      · exact sessions.single user class_ left right leftBefore
          (moved user right class_ rightServed rightSame)

end Sessions

namespace Registry

variable {reg : Registry} {imUser : UserPtr} {conn : ConnPtr} {rsp : ValidateRsp}

/-- The first connection of the class is kicked. -/
theorem duplicateKicked_first (ownHandles : reg.OwnHandles) {first : ConnPtr}
    (found : reg.firstOfClass (reg.loginUser conn imUser rsp) (reg.conns conn).clientType
      (some conn) = some first) :
    ((reg.duplicateKicked conn imUser rsp).conns first).isKickOff = true := by
  have connMap : ((reg.identified conn imUser rsp).users
      (reg.loginUser conn imUser rsp)).connMap =
        (reg.users (reg.loginUser conn imUser rsp)).connMap := by
    refine (identifyUser_users _ _ _ _).1.trans ?_
    rw [mergeUser_users]
  have same : (reg.identified conn imUser rsp).firstOfClass (reg.loginUser conn imUser rsp)
      (reg.conns conn).clientType (some conn) = some first := by
    unfold firstOfClass at found ⊢
    rw [connMap, identified_conns]
    exact found
  obtain ⟨entry, member, rfl⟩ := List.mem_map.mp (List.mem_of_find?_eq_some found)
  have listed : (reg.users (reg.loginUser conn imUser rsp)).connMap[entry.1]? = some entry.2 :=
    TreeMap.mem_toList_iff_getElem?_eq_some.mp member
  have own := ownHandles _ _ _ listed
  unfold duplicateKicked kickOutSameClientType
  rw [same]
  unfold handleKickUser ImUser.getMsgConn
  simp only
  rw [connMap, identified_conns, own, listed]
  simp only
  rw [modifyConn_self]

theorem acceptLogin_isKickOff (routeServ : Bool) (now : Nat) (other : ConnPtr) :
    ((reg.acceptLogin imUser conn rsp routeServ now).1.conns other).isKickOff =
      ((reg.duplicateKicked conn imUser rsp).conns other).isKickOff := by
  rw [acceptLogin_registry, modifyUser_conns]
  unfold openConn
  by_cases same : other = conn
  · rw [same, modifyConn_self]
  · rw [modifyConn_other _ _ _ same]

end Registry

/-! ### A login -/

/-- The new connection is served, and no other one of its class. -/
structure Newest (reg : Registry) (user : UserPtr) (conn : ConnPtr) : Prop where
  served : reg.Serves user conn (clientClass (reg.conns conn).clientType)
  alone : ∀ other, reg.Serves user other (clientClass (reg.conns conn).clientType) → other = conn

section Login

variable {reg : Registry} {imUser : UserPtr} {conn : ConnPtr} {rsp : ValidateRsp}
variable (routeServ : Bool) (now : Nat)

/-- The user that takes the connection over has the answered id. -/
theorem acceptLogin_registered :
    (reg.acceptLogin imUser conn rsp routeServ now).1.imUserMap[rsp.userInfo.userId]? =
      some (reg.loginUser conn imUser rsp) := by
  rw [Registry.acceptLogin_registry, Registry.modifyUser_imUserMap, Registry.openConn_imUserMap,
    (reg.duplicateKicked_untouched conn imUser rsp).imUserMap]
  unfold Registry.identified
  rw [Registry.identifyUser_imUserMap, Registry.mergeUser_imUserMap]
  rcases reg.loginUser_cases conn imUser rsp with ⟨free, _⟩ | found
  · rw [if_pos free, Lib.getElem?_insert_ite, if_pos rfl]
  · rw [if_neg (by simp [found])]
    exact found

variable (sessions : Sessions reg)
variable (awaited : reg.awaited rsp.userName rsp.attach = some (imUser, conn))
include sessions awaited

theorem Sessions.identified : Authorized (reg.identified conn imUser rsp) := by
  obtain ⟨_, _, member, _, _⟩ := reg.awaited_eq_some awaited
  have accepted := sessions.authorized.waiting imUser conn member
  exact (sessions.authorized.mergeUser accepted _ _).identifyUser _ _

theorem Sessions.unlisted : ¬reg.Listed conn := by
  intro listed
  have opened := (sessions.authorized.listed conn listed).2
  rw [(reg.awaited_eq_some awaited).2.2.2.2] at opened
  cases opened

/-- After the login a user serves the new connection, or one that it served before
and that is not of the same class. -/
theorem Sessions.served_of_acceptLogin (kicks : reg.KicksServed imUser conn rsp)
    {user : UserPtr} {other : ConnPtr} {class_ : BitVec 32}
    (served : (reg.acceptLogin imUser conn rsp routeServ now).1.Serves user other class_) :
    other = conn ∧ user = reg.loginUser conn imUser rsp ∨
      other ≠ conn ∧ reg.Serves user other class_ ∧
        ¬(user = reg.loginUser conn imUser rsp ∧
          class_ = clientClass (reg.conns conn).clientType) := by
  obtain ⟨⟨handle, found⟩, sameClass, notKicked⟩ := served
  rw [Registry.acceptLogin_clientType] at sameClass
  rw [Registry.acceptLogin_isKickOff] at notKicked
  have notKickedBefore : (reg.conns other).isKickOff = false := by
    by_contra kicked
    have stays := (reg.duplicateKicked_untouched conn imUser rsp).kickStays other
    rw [Registry.identified_conns] at stays
    rw [stays (by simpa using kicked)] at notKicked
    cases notKicked
  have earlier : ∀ entry : (reg.users user).connMap[handle]? = some other,
      other ≠ conn ∧ reg.Serves user other class_ := by
    intro entry
    refine ⟨?_, ⟨handle, entry⟩, sameClass, notKickedBefore⟩
    rintro rfl
    exact sessions.unlisted awaited ⟨user, handle, entry⟩
  rw [Registry.acceptLogin_connMap] at found
  split at found
  · rename_i taker
    rw [Lib.getElem?_insert_ite] at found
    split at found
    · cases found
      exact .inl ⟨rfl, taker⟩
    · rename_i otherHandle
      obtain ⟨different, before⟩ := earlier found
      refine .inr ⟨different, before, ?_⟩
      rintro ⟨rfl, rfl⟩
      have first := kicks handle other (Ne.symm otherHandle) found before
      rw [Registry.duplicateKicked_first sessions.ownHandles first] at notKicked
      cases notKicked
  · rename_i taker
    obtain ⟨different, before⟩ := earlier found
    exact .inr ⟨different, before, fun both => taker both.1⟩

theorem Sessions.acceptLogin
    (kicks : reg.KicksServed imUser conn rsp) :
    Sessions (reg.acceptLogin imUser conn rsp routeServ now).1 := by
  refine ⟨sessions.authorized.acceptLogin routeServ now awaited, ?_, ?_⟩
  · intro user handle other found
    rw [Registry.acceptLogin_handle]
    rw [Registry.acceptLogin_connMap] at found
    split at found
    · rw [Lib.getElem?_insert_ite] at found
      split at found
      · rename_i own
        cases found
        exact own
      · exact sessions.ownHandles user handle other found
    · exact sessions.ownHandles user handle other found
  · intro user class_ left right leftServed rightServed
    have class_of_conn : ∀ holder,
        (reg.acceptLogin imUser conn rsp routeServ now).1.Serves holder conn class_ →
          class_ = clientClass (reg.conns conn).clientType := by
      rintro holder ⟨_, sameClass, _⟩
      rw [Registry.acceptLogin_clientType] at sameClass
      exact sameClass.symm
    rcases sessions.served_of_acceptLogin routeServ now awaited kicks leftServed with
      ⟨rfl, taker⟩ | ⟨leftOther, leftBefore, leftClass⟩
    · rcases sessions.served_of_acceptLogin routeServ now awaited kicks rightServed with
        ⟨rfl, _⟩ | ⟨_, _, rightClass⟩
      · rfl
      · exact absurd ⟨taker, class_of_conn user leftServed⟩ rightClass
    · rcases sessions.served_of_acceptLogin routeServ now awaited kicks rightServed with
        ⟨rfl, taker⟩ | ⟨_, rightBefore, _⟩
      · exact absurd ⟨taker, class_of_conn user rightServed⟩ leftClass
      · exact sessions.single user class_ left right leftBefore rightBefore

theorem Sessions.newest (kicks : reg.KicksServed imUser conn rsp) :
    Newest (reg.acceptLogin imUser conn rsp routeServ now).1 (reg.loginUser conn imUser rsp)
      conn := by
  have notKicked : ((reg.acceptLogin imUser conn rsp routeServ now).1.conns conn).isKickOff =
      false := by
    rw [Registry.acceptLogin_isKickOff]
    by_contra kicked
    have named := sessions.identified awaited
    have opened : ((reg.identified conn imUser rsp).conns conn).isOpen = true := by
      rcases (reg.duplicateKicked_untouched conn imUser rsp).kicked conn (by simpa using kicked)
        with earlier | listed
      · exact named.kicked conn earlier
      · exact (named.listed conn listed).2
    rw [Registry.identified_conns, (reg.awaited_eq_some awaited).2.2.2.2] at opened
    cases opened
  refine ⟨⟨⟨(reg.conns conn).handle, ?_⟩, rfl, notKicked⟩, ?_⟩
  · rw [Registry.acceptLogin_connMap, if_pos rfl, Lib.getElem?_insert_ite, if_pos rfl]
  · intro other served
    rw [Registry.acceptLogin_clientType] at served
    rcases sessions.served_of_acceptLogin routeServ now awaited kicks served with
      ⟨same, _⟩ | ⟨_, _, otherClass⟩
    · exact same
    · exact absurd ⟨rfl, rfl⟩ otherClass

end Login

theorem Sessions.step {server : Server} {event : Event} (sessions : Sessions server.reg)
    (admissible : Admissible server event) (kept : KeepsSingle server event) :
    Sessions (server.step event).reg := by
  obtain ⟨kicksServed, keepsClass⟩ := kept
  have transition := step_transition admissible
  generalize server.step event = next at transition ⊢
  cases transition with
  | accept => exact sessions.accept admissible.1 _ _ _
  | quiet untouched _ => exact sessions.untouched untouched
  | closed _ untouched _ => exact (sessions.untouched untouched).close _
  | login starts unnamed =>
      exact sessions.enqueueLogin admissible.1 _ _ (keepsClass _ _ starts)
  | acceptLogin awaited success =>
      rename_i routeServ now imUser conn
      exact sessions.acceptLogin routeServ now awaited
        (kicksServed success imUser conn awaited)
  | loginConnect | loginConfirm | loginClose => exact sessions

theorem sessions_empty : Sessions Registry.empty := by
  refine ⟨authorized_empty, ?_, ?_⟩
  · intro user handle conn found
    simp [Registry.empty, ImUser.new] at found
  · rintro user class_ left right ⟨⟨handle, found⟩, _, _⟩
    simp [Registry.empty, ImUser.new] at found

/-- In every run whose steps meet the condition a user serves one connection in
each class, and after an accepted login that is the new one. -/
theorem single_session {config : MsgServConfig} {loginServerCount : Nat} {server : Server}
    (reached : Reached (fun state event => Admissible state event ∧ KeepsSingle state event)
      config loginServerCount server) :
    server.reg.SingleSession ∧
    ∀ (req : ValidateReq) (rsp : ValidateRsp) (routeServ : Bool) (now : Nat) (imUser : UserPtr)
      (conn : ConnPtr), KeepsSingle server (.validateRsp req rsp routeServ now) →
      rsp.resultCode = 0 → server.reg.awaited rsp.userName rsp.attach = some (imUser, conn) →
        let after := (server.step (.validateRsp req rsp routeServ now)).reg
        ∃ user, after.imUserMap[rsp.userInfo.userId]? = some user ∧ Newest after user conn := by
  have sessions := reached.invariant (fun state => Sessions state.reg) sessions_empty
    fun _ _ holds met => holds.step met.1 met.2
  refine ⟨sessions.single, ?_⟩
  intro req rsp routeServ now imUser conn kept success awaited
  have after : (server.step (.validateRsp req rsp routeServ now)).reg =
      (server.reg.acceptLogin imUser conn rsp routeServ now).1 := by
    simp only [Server.step, Registry.handleValidateResponse, awaited, if_pos success]
    rfl
  simp only [after]
  exact ⟨_, acceptLogin_registered routeServ now,
    sessions.newest routeServ now awaited (kept.1 success imUser conn awaited)⟩

/-- A user logs in on one device, and asks to log in on a second one of the class. -/
def secondDeviceEvents : List Event :=
  onlineEvents ++
    [.accept 1 3 0 0, .read 1 (loginPdu "ann" 1) Peers.allUp,
      .validateRsp ⟨1, "ann", 3⟩ (acceptedRsp "ann" 7 3) true 0, .accept 2 4 0 0]

/-- The second login is accepted. -/
def secondLoginEvents : List Event :=
  secondDeviceEvents ++
    [.read 2 (loginPdu "ann" 1) Peers.allUp,
      .validateRsp ⟨2, "ann", 4⟩ (acceptedRsp "ann" 7 4) true 0]

/-- A third device of the class follows. -/
def thirdLoginEvents : List Event :=
  secondLoginEvents ++
    [.accept 3 5 0 0, .read 3 (loginPdu "ann" 1) Peers.allUp,
      .validateRsp ⟨3, "ann", 5⟩ (acceptedRsp "ann" 7 5) true 0]

theorem kicksServed_of_entries {reg : Registry} {imUser : UserPtr} {conn : ConnPtr}
    {rsp : ValidateRsp}
    (entries : ∀ entry ∈ (reg.users (reg.loginUser conn imUser rsp)).connMap.toList,
      reg.firstOfClass (reg.loginUser conn imUser rsp) (reg.conns conn).clientType (some conn) =
        some entry.2) : reg.KicksServed imUser conn rsp := by
  intro handle served _ found _
  exact entries (handle, served) (TreeMap.mem_toList_iff_getElem?_eq_some.mpr found)

theorem keepsClass_of_not_open {server : Server} (authorized : Authorized server.reg)
    {conn : ConnPtr} (notOpen : (server.reg.conns conn).isOpen = false) (pdu : Pdu)
    (given : Peers) : KeepsClass server (.read conn pdu given) := by
  rintro userName clientType _ user served ⟨⟨handle, found⟩, _⟩
  have opened := (authorized.listed conn ⟨user, handle, found⟩).2
  rw [notOpen] at opened
  cases opened

theorem single_session_second_login :
    (Lib.run Server.step (Server.init sampleConfig 1) secondLoginEvents).reg.SingleSession := by
  have faithful := Peers.allUp_faithful
  have first : Authorized (Lib.run Server.step (Server.init sampleConfig 1)
      (onlineEvents ++ [.accept 1 3 0 0])).reg :=
    authorized_of_reach (Lib.reach_run _ ⟨trivial, trivial, ⟨by decide, by decide⟩, trivial⟩)
  have second : Authorized (Lib.run Server.step (Server.init sampleConfig 1)
      secondDeviceEvents).reg :=
    authorized_of_reach (Lib.reach_run _
      ⟨trivial, trivial, ⟨by decide, by decide⟩, ⟨by decide, faithful⟩, trivial,
        ⟨by decide, by decide⟩, trivial⟩)
  have meets : Lib.Meets Server.step
      (fun state event => Admissible state event ∧ KeepsSingle state event)
      (Server.init sampleConfig 1) secondLoginEvents := by
    refine ⟨⟨trivial, trivial, trivial⟩, ⟨trivial, trivial, trivial⟩,
      ⟨⟨by decide, by decide⟩, trivial, trivial⟩, ⟨⟨by decide, faithful⟩, trivial, ?_⟩,
      ⟨trivial, ?_, trivial⟩,
      ⟨⟨by decide, by decide⟩, trivial, trivial⟩, ⟨⟨by decide, faithful⟩, trivial, ?_⟩,
      ⟨trivial, ?_, trivial⟩, trivial⟩
    · exact keepsClass_of_not_open first (by decide) _ _
    · intro _ imUser conn awaited
      cases awaited.symm.trans (by decide : _ = some (0, 1))
      exact kicksServed_of_entries (by decide)
    · exact keepsClass_of_not_open second (by decide) _ _
    · intro _ imUser conn awaited
      cases awaited.symm.trans (by decide : _ = some (0, 2))
      exact kicksServed_of_entries (by decide)
  exact (single_session (Lib.reach_run secondLoginEvents meets)).1

/-- The third login kicks the first device again, and the second one is left. -/
theorem two_sessions_after_third_login :
    Reached (Promised fun _ => 7) sampleConfig 1
        (Lib.run Server.step (Server.init sampleConfig 1) thirdLoginEvents) ∧
      ¬(Lib.run Server.step (Server.init sampleConfig 1) thirdLoginEvents).reg.SingleSession := by
  have faithful := Peers.allUp_faithful
  refine ⟨Lib.reach_run _ ⟨.of_admissible trivial nofun, .of_admissible trivial nofun,
    .of_admissible ⟨by decide, by decide⟩ nofun, .of_admissible ⟨by decide, faithful⟩ nofun,
    .accepted (by decide) (by decide),
    .of_admissible ⟨by decide, by decide⟩ nofun, .of_admissible ⟨by decide, faithful⟩ nofun,
    .accepted (by decide) (by decide),
    .of_admissible ⟨by decide, by decide⟩ nofun, .of_admissible ⟨by decide, faithful⟩ nofun,
    .accepted (by decide) (by decide), trivial⟩, ?_⟩
  intro single
  have same : (2 : ConnPtr) = 3 := single 0 0 2 3 ⟨⟨4, by decide⟩, by decide, by decide⟩
    ⟨⟨5, by decide⟩, by decide, by decide⟩
  exact absurd same (by decide)

end AChat.MsgServer
