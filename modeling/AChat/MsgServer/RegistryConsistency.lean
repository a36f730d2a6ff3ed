import AChat.MsgServer.RegistryShape

/-!
Contract: the consistency of the registry in every run in which the DB servers
answer one user id per login name.

`HandleLoginReq` refuses a second login request only when the first one named a
user, and never asks whether the connection is still there. So the contract
needs `LoginsFresh`: a login request that is passed on comes on a connection
that was not closed and does not wait under the empty name.

Owns: the invariant of closed and waiting connections.
-/

namespace AChat.MsgServer

/-! ### The ids of named users -/

/-- A named user with a user id has the id of its name. -/
def Resolved (resolve : String → UserId) (reg : Registry) : Prop :=
  ∀ (name : String) (user : UserPtr), reg.imUserMapByName[name]? = some user →
    (reg.users user).userId = 0 ∨ (reg.users user).userId = resolve name

namespace Resolved

variable {resolve : String → UserId} {before after reg : Registry}

theorem shrinks (resolved : Resolved resolve before) (shrinks : Shrinks before after) :
    Resolved resolve after := by
  intro name user found
  rw [shrinks.userId]
  exact resolved name user (shrinks.names name user found)

theorem congr (resolved : Resolved resolve before) (users : after.users = before.users)
    (names : after.imUserMapByName = before.imUserMapByName) : Resolved resolve after := by
  unfold Resolved
  rw [users, names]
  exact resolved

theorem acceptLogin (resolved : Resolved resolve reg) (shape : Shape none reg)
    {imUser : UserPtr} {conn : ConnPtr} {rsp : ValidateRsp} (routeServ : Bool) (now : Nat)
    (named : reg.imUserMapByName[rsp.userName]? = some imUser)
    (answers : rsp.userInfo.userId = resolve rsp.userName) :
    Resolved resolve (reg.acceptLogin imUser conn rsp routeServ now).1 := by
  intro name user found
  have earlier := reg.acceptLogin_names conn imUser rsp routeServ now found
  rw [Registry.acceptLogin_userId]
  split
  · rename_i same
    right
    rcases reg.loginUser_cases conn imUser rsp with ⟨_, chosen⟩ | chosen
    · rw [same, chosen] at earlier
      have sameName := (shape.nameEntry _ imUser earlier).2.1
      rw [answers, ← sameName, (shape.nameEntry _ imUser named).2.1]
    · rw [← same] at chosen
      obtain ⟨nonzero, sameId, _⟩ := shape.idEntry _ user chosen
      rcases resolved name user earlier with zero | own
      · exact absurd (sameId.symm.trans zero) nonzero
      · rw [← own, sameId]
  · exact resolved name user earlier

theorem enqueueLogin (resolved : Resolved resolve reg) (shape : Shape none reg) (conn : ConnPtr)
    (loginName : String) : Resolved resolve (reg.enqueueLogin conn loginName) := by
  intro name user found
  rcases shape.enqueueLogin_named conn found with ⟨entry, same, _⟩ | ⟨_, new, _⟩
  · rw [same]
    exact resolved name user entry
  · rw [new]
    exact .inl rfl

theorem step {server : Server} {event : Event} (resolved : Resolved resolve server.reg)
    (shape : Shape none server.reg) (admissible : Admissible server event)
    (answers : AnswersAs resolve event) : Resolved resolve (server.step event).reg := by
  have transition := step_transition admissible
  generalize server.step event = next at transition ⊢
  cases transition with
  | accept => exact resolved.congr rfl rfl
  | quiet untouched _ => exact resolved.congr untouched.users untouched.imUserMapByName
  | closed closing untouched quiet =>
      rename_i conn reset outs
      have marked : Resolved resolve (reset.markClosed conn) :=
        resolved.congr untouched.users untouched.imUserMapByName
      exact marked.shrinks (Shrinks.close reset conn)
  | login starts unnamed =>
      rename_i conn pdu given userName password clientType onlineStatus seqNum
      have named : Resolved resolve (server.reg.nameConn conn userName clientType onlineStatus) :=
        resolved.congr rfl rfl
      exact named.enqueueLogin (shape.modifyConn conn _ rfl rfl rfl) conn userName
  | acceptLogin awaited success =>
      rename_i req rsp routeServ now imUser conn
      exact resolved.acceptLogin shape routeServ now (server.reg.awaited_eq_some awaited).1
        (answers success)
  | loginConnect | loginConfirm | loginClose => exact resolved

end Resolved

theorem stableAnswers_of_resolved {resolve : String → UserId} {server : Server} {event : Event}
    (shape : Shape none server.reg) (resolved : Resolved resolve server.reg)
    (names : NamesUsers event) (answers : AnswersAs resolve event) :
    StableAnswers server event := by
  cases event with
  | validateRsp req rsp routeServ now =>
      intro success user named free
      rcases resolved rsp.userName user named with zero | own
      · exact zero
      · rw [← answers success] at own
        have entry := shape.identified rsp.userName user named (own ▸ names success)
        rw [own, free] at entry
        cases entry
  | _ => trivial

/-! ### Closed and waiting connections -/

/-- No listed and no waiting connection is closed, and a waiting connection
waits for the user under its own login name. -/
structure Live (reg : Registry) : Prop where
  listed : ∀ (name : String) (user : UserPtr) (handle : Handle) (conn : ConnPtr),
    reg.imUserMapByName[name]? = some user → (reg.users user).connMap[handle]? = some conn →
      (reg.conns conn).closed = false
  waiting : ∀ (name : String) (user : UserPtr) (conn : ConnPtr),
    reg.imUserMapByName[name]? = some user → conn ∈ (reg.users user).unvalidateConnSet →
      (reg.conns conn).closed = false ∧ (reg.conns conn).loginName = name

/-- A login request may be passed on for this connection: it was not closed, and
does not wait under the empty login name. -/
def FreshForLogin (reg : Registry) (conn : ConnPtr) : Prop :=
  (reg.conns conn).closed = false ∧
    ∀ user, reg.imUserMapByName[""]? = some user → conn ∉ (reg.users user).unvalidateConnSet

theorem FreshForLogin.of_unnamed {reg : Registry} {conn : ConnPtr}
    (live : (reg.conns conn).closed = false) (unnamed : reg.imUserMapByName[""]? = none) :
    FreshForLogin reg conn := by
  refine ⟨live, fun user named => ?_⟩
  rw [unnamed] at named
  cases named

/-- Login requests are passed on only for fresh connections. -/
def LoginsFresh (server : Server) : Event → Prop
  | .read conn pdu given =>
      server.reg.startedLogin (server.peers given) conn pdu ≠ none →
        FreshForLogin server.reg conn
  | _ => True

namespace Live

variable {before after reg : Registry}

theorem untouched (live : Live before) (untouched : Untouched before after) : Live after := by
  refine ⟨?_, ?_⟩
  · rw [untouched.imUserMapByName, untouched.users]
    intro name user handle conn named found
    rw [untouched.closed]
    exact live.listed name user handle conn named found
  · rw [untouched.imUserMapByName, untouched.users]
    intro name user conn named member
    rw [untouched.closed, untouched.loginName]
    exact live.waiting name user conn named member

theorem accept (live : Live reg) (authorized : Authorized reg) {conn : ConnPtr}
    (fresh : conn ∉ reg.accepted) (handle : Handle) (clientType : BitVec 32) (now : Nat) :
    Live (reg.accept conn handle clientType now) := by
  have keep : ∀ other, other ∈ reg.accepted →
      (reg.accept conn handle clientType now).conns other = reg.conns other := by
    intro other accepted
    have different : other ≠ conn := by
      rintro rfl
      exact fresh accepted
    simp [Registry.accept, Registry.setConn, different]
  refine ⟨?_, ?_⟩
  · intro name user other target named found
    rw [keep target (authorized.listed target ⟨user, other, found⟩).1]
    exact live.listed name user other target named found
  · intro name user target named member
    rw [keep target (authorized.waiting user target member)]
    exact live.waiting name user target named member

/-- Closing a connection takes it out wherever it is listed or waits. -/
theorem close (live : Live reg) (shape : Shape none reg) (authorized : Authorized reg)
    (identified : Identified reg) (conn : ConnPtr) : Live (reg.close conn).1 := by
  have shrinks := Shrinks.close reg conn
  have keep : ∀ other, other ≠ conn →
      ((reg.close conn).1.conns other) = reg.conns other := by
    intro other different
    rw [shrinks.conns]
    exact Registry.modifyConn_other reg conn _ different
  refine ⟨?_, ?_⟩
  · intro name user handle target named found
    have earlierNamed : reg.imUserMapByName[name]? = some user := shrinks.names name user named
    have earlier : (reg.users user).connMap[handle]? = some target :=
      shrinks.connMap user handle target found
    have different : target ≠ conn := by
      rintro rfl
      obtain ⟨sameId, sameHandle⟩ :=
        shape.registered name user handle target earlierNamed earlier
      have opened := (authorized.listed target ⟨user, handle, earlier⟩).2
      have own := shape.identified name user earlierNamed
        (sameId ▸ identified target opened)
      rw [← sameId] at own
      have taken := reg.close_connMap target own
      rw [sameHandle, found] at taken
      cases taken
    rw [keep target different]
    exact live.listed name user handle target earlierNamed earlier
  · intro name user target named member
    have earlierNamed : reg.imUserMapByName[name]? = some user := shrinks.names name user named
    have earlier : target ∈ (reg.users user).unvalidateConnSet :=
      shrinks.waiting user target member
    have known := live.waiting name user target earlierNamed earlier
    have different : target ≠ conn := by
      rintro rfl
      rw [← known.2] at named
      exact reg.close_waiting target named member
    rw [keep target different]
    exact known

theorem enqueueLogin (live : Live reg) (shape : Shape none reg) {conn : ConnPtr}
    (unnamed : (reg.conns conn).loginName = "") (fresh : FreshForLogin reg conn)
    (userName : String) (clientType : BitVec 32) (onlineStatus : Nat) :
    Live ((reg.nameConn conn userName clientType onlineStatus).enqueueLogin conn userName) := by
  have named : Shape none (reg.nameConn conn userName clientType onlineStatus) :=
    shape.modifyConn conn _ rfl rfl rfl
  have conns := (Shape.enqueueLogin_frame (reg.nameConn conn userName clientType onlineStatus)
    conn userName).1
  have closed : ∀ other, ((reg.nameConn conn userName clientType onlineStatus).conns
      other).closed = (reg.conns other).closed := by
    intro other
    unfold Registry.nameConn
    by_cases same : other = conn
    · rw [same, Registry.modifyConn_self]
    · rw [Registry.modifyConn_other _ _ _ same]
  refine ⟨?_, ?_⟩
  · intro name user handle target found listed
    rw [conns, closed]
    rcases named.enqueueLogin_named conn found with ⟨entry, same, _⟩ | ⟨_, new, _⟩
    · rw [same] at listed
      exact live.listed name user handle target entry listed
    · rw [new] at listed
      simp [ImUser.new] at listed
  · intro name user target found member
    rw [conns, closed]
    have own : ((reg.nameConn conn userName clientType onlineStatus).conns conn).loginName =
        userName := by
      unfold Registry.nameConn
      rw [Registry.modifyConn_self]
    have waited : ∀ entry : reg.imUserMapByName[name]? = some user,
        target ∈ (reg.users user).unvalidateConnSet →
          (reg.conns target).closed = false ∧
            ((reg.nameConn conn userName clientType onlineStatus).conns target).loginName =
              name := by
      intro entry earlier
      have known := live.waiting name user target entry earlier
      -- The connection itself waited nowhere: that could only be under the empty name.
      have different : target ≠ conn := by
        rintro rfl
        rw [← known.2, unnamed] at entry
        exact fresh.2 user entry earlier
      unfold Registry.nameConn
      rw [Registry.modifyConn_other _ _ _ different]
      exact known
    rcases named.enqueueLogin_named conn found with ⟨entry, _, waiting⟩ | ⟨sameName, _, waiting, _⟩
    · rcases (waiting target).mp member with earlier | ⟨rfl, sameName⟩
      · exact waited entry earlier
      · exact ⟨fresh.1, own.trans sameName.symm⟩
    · have same := (waiting target).mp member
      subst same
      exact ⟨fresh.1, own.trans sameName.symm⟩

theorem acceptLogin (live : Live reg) {imUser : UserPtr} {conn : ConnPtr} {rsp : ValidateRsp}
    (routeServ : Bool) (now : Nat)
    (awaited : reg.awaited rsp.userName rsp.attach = some (imUser, conn)) :
    Live (reg.acceptLogin imUser conn rsp routeServ now).1 := by
  obtain ⟨named, _, member, _, _⟩ := reg.awaited_eq_some awaited
  have known := live.waiting _ imUser conn named member
  have closed := reg.acceptLogin_closed conn imUser rsp routeServ now
  have loginName := reg.acceptLogin_loginName conn imUser rsp routeServ now
  refine ⟨?_, ?_⟩
  · intro name user handle target found listed
    have entry := reg.acceptLogin_names conn imUser rsp routeServ now found
    rw [closed]
    rw [Registry.acceptLogin_connMap] at listed
    split at listed
    · rw [Lib.getElem?_insert_ite] at listed
      split at listed
      · cases listed
        exact known.1
      · exact live.listed name user handle target entry listed
    · exact live.listed name user handle target entry listed
  · intro name user target found waits
    have entry := reg.acceptLogin_names conn imUser rsp routeServ now found
    rw [Registry.acceptLogin_waiting] at waits
    rw [closed, loginName]
    exact live.waiting name user target entry waits.1

theorem step {server : Server} {event : Event} (live : Live server.reg)
    (shape : Shape none server.reg) (authorized : Authorized server.reg)
    (identified : Identified server.reg) (admissible : Admissible server event) (fresh : LoginsFresh server event) :
    Live (server.step event).reg := by
  have transition := step_transition admissible
  generalize server.step event = next at transition ⊢
  cases transition with
  | accept => exact live.accept authorized admissible.1 _ _ _
  | quiet untouched _ => exact live.untouched untouched
  | closed _ untouched _ =>
      exact (live.untouched untouched).close (shape.untouched untouched)
        (authorized.untouched untouched) (identified.untouched untouched) _
  | login starts unnamed => exact live.enqueueLogin shape unnamed (fresh (starts ▸ nofun)) _ _ _
  | acceptLogin awaited success =>
      rename_i routeServ now _ _
      exact live.acceptLogin routeServ now awaited
  | loginConnect | loginConfirm | loginClose => exact live

end Live

/-! ### Consistency -/

/-- The consistency of the registry: what the id map, the name map and the
connection maps say about each other. -/
structure Consistent (reg : Registry) : Prop where
  idEntry : ∀ (userId : UserId) (user : UserPtr), reg.imUserMap[userId]? = some user →
    (reg.users user).deleted = false ∧ (reg.users user).userId = userId ∧
      (reg.users user).validate = true ∧ (reg.users user).isMsgConnEmpty = false ∧
      reg.imUserMapByName[(reg.users user).loginName]? = some user
  registered : ∀ (userId : UserId) (user : UserPtr) (handle : Handle) (conn : ConnPtr),
    reg.imUserMap[userId]? = some user → (reg.users user).connMap[handle]? = some conn →
      (reg.conns conn).isOpen = true ∧ (reg.conns conn).closed = false ∧
        (reg.conns conn).userId = userId ∧ (reg.conns conn).handle = handle
  single : ∀ (left right : UserPtr) (leftHandle rightHandle : Handle) (conn : ConnPtr),
    (reg.users left).connMap[leftHandle]? = some conn →
      (reg.users right).connMap[rightHandle]? = some conn → left = right
  nameEntry : ∀ (name : String) (user : UserPtr), reg.imUserMapByName[name]? = some user →
    (reg.users user).deleted = false

theorem consistent_of_shape {reg : Registry} (shape : Shape none reg)
    (authorized : Authorized reg) (identified : Identified reg) (live : Live reg) :
    Consistent reg := by
  refine ⟨?_, ?_, ?_, ?_⟩
  · intro userId user found
    obtain ⟨_, sameId, validate, named⟩ := shape.idEntry userId user found
    exact ⟨(shape.nameEntry _ user named).2.2, sameId, validate,
      shape.occupied userId user found (by simp), named⟩
  · intro userId user handle conn found listed
    obtain ⟨_, sameId, _, named⟩ := shape.idEntry userId user found
    obtain ⟨connId, sameHandle⟩ := shape.registered _ user handle conn named listed
    exact ⟨(authorized.listed conn ⟨user, handle, listed⟩).2,
      live.listed _ user handle conn named listed, connId.trans sameId, sameHandle⟩
  · intro left right leftHandle rightHandle conn inLeft inRight
    have opened := (authorized.listed conn ⟨left, leftHandle, inLeft⟩).2
    have nonzero := identified conn opened
    have leftNamed := shape.housed left leftHandle conn inLeft
    have rightNamed := shape.housed right rightHandle conn inRight
    have leftId := (shape.registered _ left leftHandle conn leftNamed inLeft).1
    have rightId := (shape.registered _ right rightHandle conn rightNamed inRight).1
    have leftEntry := shape.identified _ left leftNamed (leftId ▸ nonzero)
    have rightEntry := shape.identified _ right rightNamed (rightId ▸ nonzero)
    rw [← leftId] at leftEntry
    rw [← rightId] at rightEntry
    exact Option.some.inj (leftEntry.symm.trans rightEntry)
  · intro name user named
    exact (shape.nameEntry name user named).2.2

/-- The registry invariants of a run whose login requests come on fresh connections. -/
structure Registered (resolve : String → UserId) (reg : Registry) : Prop where
  authorized : Authorized reg
  identified : Identified reg
  shape : Shape none reg
  resolved : Resolved resolve reg
  live : Live reg

theorem resolved_empty (resolve : String → UserId) : Resolved resolve Registry.empty := by
  intro name user found
  simp [Registry.empty] at found

theorem registered_empty (resolve : String → UserId) : Registered resolve Registry.empty := by
  refine ⟨authorized_empty, identified_empty, shape_empty, resolved_empty resolve, ⟨?_, ?_⟩⟩
  · intro name user handle conn found
    simp [Registry.empty] at found
  · intro name user conn found
    simp [Registry.empty] at found

theorem Registered.step {resolve : String → UserId} {server : Server} {event : Event}
    (registered : Registered resolve server.reg) (answered : AnsweredBy resolve server event)
    (fresh : LoginsFresh server event) : Registered resolve (server.step event).reg where
  authorized := authorized_step registered.authorized answered.1
  identified := identified_step registered.identified answered.1 answered.2.1
  shape := shape_step registered.shape registered.authorized answered.1 answered.2.1
    (stableAnswers_of_resolved registered.shape registered.resolved answered.2.1 answered.2.2)
  resolved := registered.resolved.step registered.shape answered.1 answered.2.2
  live := registered.live.step registered.shape registered.authorized registered.identified
    answered.1 fresh

/-- The registry is consistent in every state of every run whose login requests
come on fresh connections. -/
theorem registry_consistent {resolve : String → UserId} {config : MsgServConfig}
    {loginServerCount : Nat} {server : Server}
    (reached : Reached (fun state event => AnsweredBy resolve state event ∧
      LoginsFresh state event) config loginServerCount server) :
    Consistent server.reg := by
  have registered := reached.invariant (fun state => Registered resolve state.reg)
    (registered_empty resolve) fun _ _ holds met => holds.step met.1 met.2
  exact consistent_of_shape registered.shape registered.authorized registered.identified
    registered.live

/-- One connection logs in as a user. -/
def loginEvents : List Event :=
  onlineEvents ++
    [.accept 1 3 0 0, .read 1 (loginPdu "ann" 1) Peers.allUp,
      .validateRsp ⟨1, "ann", 3⟩ (acceptedRsp "ann" 7 3) true 0]

theorem registry_consistent_login :
    Consistent (Lib.run Server.step (Server.init sampleConfig 1) loginEvents).reg := by
  have meets : Lib.Meets Server.step
      (fun state event => AnsweredBy (fun _ => 7) state event ∧ LoginsFresh state event)
      (Server.init sampleConfig 1) loginEvents := by
    refine ⟨⟨⟨trivial, trivial, trivial⟩, trivial⟩, ⟨⟨trivial, trivial, trivial⟩, trivial⟩,
      ⟨⟨⟨by decide, by decide⟩, trivial, trivial⟩, trivial⟩,
      ⟨⟨⟨by decide, Peers.allUp_faithful⟩, trivial, trivial⟩, ?_⟩,
      ⟨⟨trivial, fun _ => by decide, fun _ => rfl⟩, trivial⟩, trivial⟩
    exact fun _ => FreshForLogin.of_unnamed (by decide) (by decide)
  exact registry_consistent (Lib.reach_run loginEvents meets)

/-- The client logs out and logs in again before the connection is torn down. -/
def loginAfterLogoutEvents : List Event :=
  onlineEvents ++
    [.accept 1 3 0 0, .read 1 logoutPdu Peers.allUp, .read 1 (loginPdu "ann" 1) Peers.allUp,
      .validateRsp ⟨1, "ann", 3⟩ (acceptedRsp "ann" 7 3) true 0]

/-- The client logs in under the empty name and under another one, and leaves
before the first response. -/
def loginTwiceEvents : List Event :=
  onlineEvents ++
    [.accept 1 3 0 0, .read 1 (loginPdu "" 1) Peers.allUp, .read 1 (loginPdu "ann" 1) Peers.allUp,
      .onClose 1, .validateRsp ⟨1, "", 3⟩ (acceptedRsp "" 7 3) true 0]

/-- A closed connection registered under user id 7 is no consistent registry. -/
theorem not_consistent_of_closed {reg : Registry} {user : UserPtr} {handle : Handle}
    {conn : ConnPtr} (found : reg.imUserMap[7]? = some user)
    (listed : (reg.users user).connMap[handle]? = some conn)
    (closed : (reg.conns conn).closed = true) : ¬Consistent reg := by
  intro consistent
  have live := (consistent.registered 7 user handle conn found listed).2.1
  rw [closed] at live
  cases live

/-- A closed connection is registered, in a run with a login after a logout and
in a run with two logins, the first under the empty name. -/
theorem registry_inconsistent_after_close :
    (Reached (Promised fun _ => 7) sampleConfig 1
        (Lib.run Server.step (Server.init sampleConfig 1) loginAfterLogoutEvents) ∧
      ¬Consistent (Lib.run Server.step (Server.init sampleConfig 1) loginAfterLogoutEvents).reg) ∧
    Reached (Promised fun _ => 7) sampleConfig 1
        (Lib.run Server.step (Server.init sampleConfig 1) loginTwiceEvents) ∧
      ¬Consistent (Lib.run Server.step (Server.init sampleConfig 1) loginTwiceEvents).reg := by
  have faithful := Peers.allUp_faithful
  refine ⟨⟨Lib.reach_run _ ?_, ?_⟩, Lib.reach_run _ ?_, ?_⟩
  · exact ⟨.of_admissible trivial nofun, .of_admissible trivial nofun,
      .of_admissible ⟨by decide, by decide⟩ nofun, .of_admissible ⟨by decide, faithful⟩ nofun,
      .of_admissible ⟨by decide, faithful⟩ nofun, .accepted (by decide) (by decide), trivial⟩
  · have listed : ((Lib.run Server.step (Server.init sampleConfig 1)
        loginAfterLogoutEvents).reg.users 0).connMap[3]? = some 1 := by decide
    exact not_consistent_of_closed (by decide) listed (by decide)
  · exact ⟨.of_admissible trivial nofun, .of_admissible trivial nofun,
      .of_admissible ⟨by decide, by decide⟩ nofun, .of_admissible ⟨by decide, faithful⟩ nofun,
      .of_admissible ⟨by decide, faithful⟩ nofun,
      .of_admissible (by decide : (1 : ConnPtr) ∈ _) nofun, .accepted (by decide) (by decide), trivial⟩
  · have listed : ((Lib.run Server.step (Server.init sampleConfig 1)
        loginTwiceEvents).reg.users 0).connMap[3]? = some 1 := by decide
    exact not_consistent_of_closed (by decide) listed (by decide)

end AChat.MsgServer
