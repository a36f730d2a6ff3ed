import AChat.MsgServer.RegistryShape

/-!
Contract: what a login server was told adds up to the open connections that are
registered.

`Close` resets neither `m_bOpen` nor the handle, so a second `Close` of a
connection whose user has other connections counts it down again. The contract
needs that `Close` of an open connection is its first one, while its user is
registered, and takes an entry out; and that a login takes no entry over.

Owns: how each operation changes `GetUserConnCnt`.
-/

namespace AChat.MsgServer

open Std

/-! ### The balance of a link -/

/-- The count of a login server after one more PDU. -/
def Pdu.count (before : Int) (pdu : Pdu) : Int :=
  match pdu.body with
  | .msgServInfo _ curConnCnt => curConnCnt
  | .userCntUpdate userAction _ =>
      if userAction = userCntInc then before + 1
      else if userAction = userCntDec then before - 1
      else before
  | _ => before

/-- The last snapshot on the link, plus the increments and minus the decrements since. -/
def LoginServConn.balance (link : LoginServConn) : Int :=
  link.sent.foldl Pdu.count 0

/-- On every open link the balance is the number of open connections. -/
def CountsAgree (server : Server) : Prop :=
  ∀ link, some link ∈ server.loginServers → link.isOpen = true →
    link.balance = server.reg.getUserConnCnt

instance CountsAgree.instDecidable (server : Server) : Decidable (CountsAgree server) :=
  decidable_of_iff
    (∀ entry ∈ server.loginServers, ∀ link ∈ entry, link.isOpen = true →
      link.balance = server.reg.getUserConnCnt)
    ⟨fun agree link member => agree (some link) member link rfl,
      fun agree _ member link same => agree link (same ▸ member)⟩

/-! ### The condition on the steps -/

/-- `Close` is called for the first time, and takes an entry out, when the
connection is open and its user is registered. -/
def ClosesOnce (server : Server) (event : Event) : Prop :=
  ∀ (conn : ConnPtr) (user : UserPtr), server.closing event = some conn →
    (server.reg.conns conn).isOpen = true →
      server.reg.imUserMap[(server.reg.conns conn).userId]? = some user →
        (server.reg.conns conn).closed = false ∧
          (server.reg.users user).connMap[(server.reg.conns conn).handle]? ≠ none

/-- A user that takes a connection over has none under its handle yet, and has
no second user id. -/
def LoginsAdd (server : Server) : Event → Prop
  | .validateRsp _ rsp _ _ => rsp.resultCode = 0 →
      StableId server.reg rsp.userName rsp.userInfo.userId ∧
        ∀ imUser conn, server.reg.awaited rsp.userName rsp.attach = some (imUser, conn) →
          (server.reg.users (server.reg.loginUser conn imUser rsp)).connMap[
            (server.reg.conns conn).handle]? = none
  | _ => True

def KeepsCount (server : Server) (event : Event) : Prop :=
  ClosesOnce server event ∧ LoginsAdd server event

/-! ### The number of open connections -/

namespace Registry

/-- What a registered user adds to the count. -/
def connCnt (reg : Registry) (user : UserPtr) : Nat :=
  if (reg.users user).validate then (reg.users user).getUserConn reg.conns else 0

theorem getUserConnCnt_eq (reg : Registry) :
    reg.getUserConnCnt = Lib.mapSum (fun _ user => reg.connCnt user) reg.imUserMap := rfl

variable {before after reg : Registry}

/-- Registries whose registered users have the same connections have the same count. -/
theorem getUserConnCnt_congr (ids : after.imUserMap = before.imUserMap)
    (same : ∀ (userId : UserId) (user : UserPtr), before.imUserMap[userId]? = some user →
      after.connCnt user = before.connCnt user) :
    after.getUserConnCnt = before.getUserConnCnt := by
  rw [getUserConnCnt_eq, getUserConnCnt_eq, ids]
  exact Lib.mapSum_congr same

theorem connCnt_congr {user : UserPtr}
    (validate : (after.users user).validate = (before.users user).validate)
    (connMap : (after.users user).connMap = (before.users user).connMap)
    (isOpen : ∀ (handle : Handle) (conn : ConnPtr),
      (before.users user).connMap[handle]? = some conn →
        (after.conns conn).isOpen = (before.conns conn).isOpen) :
    after.connCnt user = before.connCnt user := by
  unfold connCnt ImUser.getUserConn
  rw [validate, connMap]
  refine ite_congr rfl (fun _ => Lib.mapSum_congr ?_) fun _ => rfl
  intro handle conn found
  rw [isOpen handle conn found]

theorem connCnt_of_isMsgConnEmpty {user : UserPtr}
    (empty : (reg.users user).isMsgConnEmpty = true) : reg.connCnt user = 0 := by
  unfold connCnt ImUser.getUserConn
  rw [Lib.mapSum_of_isEmpty _ empty, ite_self]

/-- One registered user gains or loses connections. -/
theorem getUserConnCnt_modifyUser
    (own : ∀ (userId : UserId) (user : UserPtr), reg.imUserMap[userId]? = some user →
      (reg.users user).userId = userId)
    {userId : UserId} {user : UserPtr} (found : reg.imUserMap[userId]? = some user)
    (change : ImUser → ImUser) :
    (reg.modifyUser user change).getUserConnCnt + reg.connCnt user =
      reg.getUserConnCnt + (reg.modifyUser user change).connCnt user := by
  refine Lib.mapSum_reweight (fun _ other => reg.connCnt other)
    (fun _ other => (reg.modifyUser user change).connCnt other) found
    fun other target entry different => ?_
  have distinct : target ≠ user := by
    rintro rfl
    exact different ((own other target entry).symm.trans (own userId target found))
  unfold connCnt
  rw [modifyUser_other reg user change distinct, modifyUser_conns]

/-! ### Close -/

theorem getUserConnCnt_removeIfEmpty {vacated : Option UserPtr} (shape : Shape vacated reg)
    {name : String} {user : UserPtr} (named : reg.imUserMapByName[name]? = some user) :
    (reg.removeIfEmpty user).getUserConnCnt = reg.getUserConnCnt := by
  unfold removeIfEmpty
  split
  · rename_i empty
    have kept : ∀ other, (reg.removeImUser user).connCnt other = reg.connCnt other := by
      intro other
      unfold connCnt removeImUser
      rw [deleteImUser_users]
      rfl
    have erased : Lib.mapSum (fun _ other => reg.connCnt other)
        (reg.imUserMap.erase (reg.users user).userId) = reg.getUserConnCnt := by
      cases found : reg.imUserMap[(reg.users user).userId]? with
      | none => exact Lib.mapSum_erase_of_none _ found
      | some other =>
          have same : other = user := by
            have nonzero := (shape.idEntry _ other found).1
            exact Option.some.inj (found.symm.trans (shape.identified name user named nonzero))
          have total := Lib.mapSum_erase_of_some (fun _ other => reg.connCnt other) found
          rw [same, connCnt_of_isMsgConnEmpty empty] at total
          exact total
    rw [← erased, getUserConnCnt_eq]
    exact Lib.mapSum_congr fun _ other _ => kept other
  · rfl

/-- Taking an open connection out counts it down. -/
theorem getUserConnCnt_leave {vacated : Option UserPtr} (shape : Shape vacated reg)
    {userId : UserId} {user : UserPtr} (found : reg.imUserMap[userId]? = some user)
    {handle : Handle} {listed : ConnPtr} (entry : (reg.users user).connMap[handle]? = some listed)
    (opened : (reg.conns listed).isOpen = true) (conn : ConnPtr) :
    (reg.modifyUser user fun value =>
      (value.delMsgConn handle).delUnValidateMsgConn conn).getUserConnCnt + 1 =
        reg.getUserConnCnt := by
  have total := getUserConnCnt_modifyUser (fun id other entry => (shape.idEntry id other entry).2.1)
    found fun value => (value.delMsgConn handle).delUnValidateMsgConn conn
  have validate := (shape.idEntry userId user found).2.2.1
  have less : (reg.modifyUser user fun value =>
      (value.delMsgConn handle).delUnValidateMsgConn conn).connCnt user + 1 =
        reg.connCnt user := by
    have erased := Lib.mapSum_erase_of_some
      (fun _ conn => if (reg.conns conn).isOpen then 1 else 0) entry
    unfold connCnt ImUser.getUserConn
    rw [modifyUser_self, if_pos validate]
    simp only [opened, if_true] at erased
    rw [← erased]
    exact congrArg (· + 1) (if_pos validate)
  omega

theorem getUserConnCnt_markClosed (conn : ConnPtr) :
    (reg.markClosed conn).getUserConnCnt = reg.getUserConnCnt := by
  refine getUserConnCnt_congr rfl fun _ user _ => connCnt_congr rfl rfl fun _ other _ => ?_
  unfold markClosed
  by_cases same : other = conn
  · rw [same, modifyConn_self]
  · rw [modifyConn_other reg conn _ same]

theorem getUserConnCnt_closeByLoginName (shape : Shape none reg) (conn : ConnPtr) :
    (reg.closeByLoginName conn).getUserConnCnt = reg.getUserConnCnt := by
  unfold closeByLoginName
  split
  · rfl
  · rename_i user named
    rw [getUserConnCnt_removeIfEmpty (shape.delUnValidate named conn) named]
    refine getUserConnCnt_congr rfl fun _ other _ => connCnt_congr ?_ ?_ fun _ _ _ => rfl
    all_goals
      by_cases same : other = user
      · rw [same, modifyUser_self]
        rfl
      · rw [modifyUser_other reg user _ same]

/-- An open connection of a registered user sends its status. -/
theorem sendUserStatusUpdate_registered {conn : ConnPtr} (user : UserPtr)
    (opened : (reg.conns conn).isOpen = true)
    (found : reg.getImUserById (reg.conns conn).userId = some user) :
    reg.sendUserStatusUpdate conn userStatusOffline =
        statusUpdate userCntDec userStatusOffline (reg.users user).userId
          (reg.conns conn).clientType ∧
      reg.sendUserStatusUpdate conn userStatusOnline =
        statusUpdate userCntInc userStatusOnline (reg.users user).userId
          (reg.conns conn).clientType := by
  have notShut : ¬(reg.conns conn).isOpen = false := by simp [opened]
  unfold sendUserStatusUpdate
  refine ⟨?_, ?_⟩
  · rw [if_neg notShut, found]
    rfl
  · rw [if_neg notShut, found]
    rfl

/-- `Close` sends nothing and takes nothing out, or sends a decrement and takes one out. -/
theorem close_cases (shape : Shape none reg) (authorized : Authorized reg) (conn : ConnPtr)
    (takes : ∀ user, (reg.conns conn).isOpen = true →
      reg.imUserMap[(reg.conns conn).userId]? = some user →
        (reg.users user).connMap[(reg.conns conn).handle]? ≠ none) :
    ((reg.close conn).2 = [] ∧ (reg.close conn).1.getUserConnCnt = reg.getUserConnCnt) ∨
    ∃ (userId : UserId) (clientType : BitVec 32),
      (reg.close conn).2 = statusUpdate userCntDec userStatusOffline userId clientType ∧
      (reg.close conn).1.getUserConnCnt + 1 = reg.getUserConnCnt := by
  have same : ((reg.markClosed conn).conns conn).userId = (reg.conns conn).userId ∧
      ((reg.markClosed conn).conns conn).handle = (reg.conns conn).handle ∧
      ((reg.markClosed conn).conns conn).isOpen = (reg.conns conn).isOpen := by
    simp [markClosed]
  have marked : Shape none (reg.markClosed conn) := shape.modifyConn conn _ rfl rfl rfl
  have closedByName := getUserConnCnt_closeByLoginName (marked.closeById conn) conn
  have unmarked := @getUserConnCnt_markClosed reg conn
  unfold close
  simp only
  rw [closedByName]
  cases found : (reg.markClosed conn).getImUserById ((reg.markClosed conn).conns conn).userId with
  | none =>
      left
      unfold closeById
      rw [found]
      exact ⟨rfl, unmarked⟩
  | some user =>
      have entry : reg.imUserMap[(reg.conns conn).userId]? = some user := same.1 ▸ found
      have opened : (reg.conns conn).isOpen = true := by
        by_contra notOpen
        have zero := shape.unopened conn (by simpa using notOpen)
        exact (shape.idEntry _ user entry).1 zero
      obtain ⟨listed, member⟩ := Option.ne_none_iff_exists'.mp (takes user opened entry)
      have listedOpen : ((reg.markClosed conn).conns listed).isOpen = true := by
        have known := (authorized.listed listed ⟨user, _, member⟩).2
        unfold markClosed
        by_cases equal : listed = conn
        · rw [equal, modifyConn_self]
          exact opened
        · rwa [modifyConn_other reg conn _ equal]
      have named := marked.named_of_id found
      have less := getUserConnCnt_leave marked found (same.2.1 ▸ member) listedOpen conn
      have removed := getUserConnCnt_removeIfEmpty
        (marked.leave named ((reg.markClosed conn).conns conn).handle conn) named
      right
      unfold closeById
      rw [found]
      simp only
      rw [removed, less, unmarked]
      refine ⟨_, _, (sendUserStatusUpdate_registered user ?_ ?_).1, rfl⟩
      · exact same.2.2.trans opened
      · exact found

/-! ### Logins -/

theorem getUserConnCnt_mergeUser (imUser : UserPtr) (conn : ConnPtr) (loginName : String)
    (userId : UserId) :
    (reg.mergeUser imUser conn loginName userId).2.getUserConnCnt = reg.getUserConnCnt := by
  refine getUserConnCnt_congr (reg.mergeUser_imUserMap conn imUser loginName userId) ?_
  intro _ other _
  refine connCnt_congr ?_ ?_ fun _ target _ => by rw [mergeUser_conns]
  all_goals rw [mergeUser_users]

/-- A user that gets an id has no connection yet. -/
theorem getUserConnCnt_identifyUser (shape : Shape none reg) {name : String} {user : UserPtr}
    (named : reg.imUserMapByName[name]? = some user) {userInfo : UserInfo}
    (takes : Shape.TakesId reg user userInfo.userId) :
    (reg.identifyUser user userInfo).getUserConnCnt = reg.getUserConnCnt := by
  have connMap := fun other => (reg.identifyUser_users user userInfo other).1
  have conns := reg.identifyUser_conns user userInfo
  have others : ∀ other, ((reg.identifyUser user userInfo).users other).validate =
      (reg.users other).validate →
        (reg.identifyUser user userInfo).connCnt other = reg.connCnt other :=
    fun other validate => connCnt_congr validate (connMap other) fun _ target _ => by rw [conns]
  rcases takes with found | ⟨zero, free⟩
  · refine getUserConnCnt_congr ?_ ?_
    · rw [reg.identifyUser_imUserMap user userInfo, if_neg (by simp [found])]
    · intro userId other entry
      refine others other ?_
      rw [reg.identifyUser_validate user userInfo]
      split
      · exact (shape.idEntry userId other entry).2.2.1.symm
      · rfl
  · have empty : ((reg.identifyUser user userInfo).users user).isMsgConnEmpty = true := by
      unfold ImUser.isMsgConnEmpty
      rw [connMap]
      exact shape.anonymous name user named zero
    rw [getUserConnCnt_eq, reg.identifyUser_imUserMap user userInfo, if_pos free,
      Lib.mapSum_insert_of_none _ _ free, connCnt_of_isMsgConnEmpty empty]
    refine Lib.mapSum_congr fun userId other entry => others other ?_
    have different : other ≠ user := by
      rintro rfl
      have known := shape.idEntry userId other entry
      exact known.1 (known.2.1.symm.trans zero)
    rw [reg.identifyUser_validate user userInfo, if_neg different]

/-- An open connection that a user takes up counts. -/
theorem connCnt_validateMsgConn {reg : Registry} {user : UserPtr} {handle : Handle}
    {conn : ConnPtr} (opened : (reg.conns conn).isOpen = true)
    (validate : (reg.users user).validate = true)
    (fresh : (reg.users user).connMap[handle]? = none) :
    (reg.modifyUser user fun value => value.validateMsgConn handle conn).connCnt user =
      reg.connCnt user + 1 := by
  have inserted := Lib.mapSum_insert_of_none (fun _ target =>
    if (reg.conns target).isOpen then 1 else 0) conn fresh
  simp only [opened, if_true] at inserted
  unfold connCnt ImUser.getUserConn
  rw [modifyUser_self, if_pos validate, ← inserted]
  exact if_pos validate

/-- An accepted login sends an increment and adds a connection. -/
theorem acceptLogin_count (shape : Shape none reg) (authorized : Authorized reg)
    {imUser : UserPtr} {conn : ConnPtr} {rsp : ValidateRsp} (routeServ : Bool) (now : Nat)
    (awaited : reg.awaited rsp.userName rsp.attach = some (imUser, conn))
    (nonzero : rsp.userInfo.userId ≠ 0)
    (stable : StableId reg rsp.userName rsp.userInfo.userId)
    (adds : (reg.users (reg.loginUser conn imUser rsp)).connMap[(reg.conns conn).handle]? = none) :
    (reg.acceptLogin imUser conn rsp routeServ now).1.getUserConnCnt = reg.getUserConnCnt + 1 ∧
      ∃ userId : UserId,
        (reg.acceptLogin imUser conn rsp routeServ now).2.filterMap Out.loginPdu =
          [⟨sidOther, cidOtherUserCntUpdate, 0, .userCntUpdate userCntInc userId⟩] := by
  obtain ⟨named, _, member, _, notOpen⟩ := reg.awaited_eq_some awaited
  obtain ⟨mergedShape, mergedNamed, takes⟩ :=
    shape.mergeUser named conn (stable imUser named) (Prod.eta _).symm
  obtain ⟨shaped, identifiedNamed, sameId, found⟩ := shape.login conn named nonzero stable
  have kick := reg.duplicateKicked_untouched conn imUser rsp
  have identifiedCount : (reg.identified conn imUser rsp).getUserConnCnt = reg.getUserConnCnt :=
    (getUserConnCnt_identifyUser mergedShape mergedNamed takes).trans
      (getUserConnCnt_mergeUser imUser conn _ _)
  have unlisted : ¬(reg.identified conn imUser rsp).Listed conn := by
    intro listed
    have named : Authorized (reg.identified conn imUser rsp) :=
      (authorized.mergeUser (authorized.waiting imUser conn member) _ _).identifyUser _ _
    have opened := (named.listed conn listed).2
    rw [identified_conns, notOpen] at opened
    cases opened
  have users : ((reg.duplicateKicked conn imUser rsp).openConn conn
      rsp.userInfo.userId).users = (reg.identified conn imUser rsp).users := kick.users
  have ids : ((reg.duplicateKicked conn imUser rsp).openConn conn
      rsp.userInfo.userId).imUserMap = (reg.identified conn imUser rsp).imUserMap :=
    kick.imUserMap
  -- Opening the connection does not count yet: it is not in the map of a user.
  have openedCount : ((reg.duplicateKicked conn imUser rsp).openConn conn
      rsp.userInfo.userId).getUserConnCnt = reg.getUserConnCnt := by
    refine (getUserConnCnt_congr ids fun userId user _ => ?_).trans identifiedCount
    refine connCnt_congr (by rw [users]) (by rw [users]) fun handle target entry => ?_
    have different : target ≠ conn := by
      rintro rfl
      exact unlisted ⟨user, handle, entry⟩
    rw [openConn_other _ _ _ different, kick.isOpen]
  have opened : (((reg.duplicateKicked conn imUser rsp).openConn conn
      rsp.userInfo.userId).conns conn).isOpen = true := openConn_isOpen _ _ _
  have registered : ((reg.duplicateKicked conn imUser rsp).openConn conn
      rsp.userInfo.userId).imUserMap[rsp.userInfo.userId]? =
        some (reg.loginUser conn imUser rsp) := ids ▸ found
  refine ⟨?_, ?_⟩
  · have own : ∀ (userId : UserId) (user : UserPtr),
        ((reg.duplicateKicked conn imUser rsp).openConn conn
          rsp.userInfo.userId).imUserMap[userId]? = some user →
        (((reg.duplicateKicked conn imUser rsp).openConn conn
          rsp.userInfo.userId).users user).userId = userId := by
      rw [ids, users]
      exact fun userId user entry => (shaped.idEntry userId user entry).2.1
    have fresh : (((reg.duplicateKicked conn imUser rsp).openConn conn
        rsp.userInfo.userId).users (reg.loginUser conn imUser rsp)).connMap[
          (reg.conns conn).handle]? = none := by
      rw [users]
      refine Eq.trans ?_ adds
      refine congrArg (fun map : TreeMap Handle ConnPtr => map[(reg.conns conn).handle]?) ?_
      refine (identifyUser_users _ _ _ _).1.trans ?_
      rw [mergeUser_users]
    have validate : (((reg.duplicateKicked conn imUser rsp).openConn conn
        rsp.userInfo.userId).users (reg.loginUser conn imUser rsp)).validate = true := by
      rw [users]
      exact (shaped.idEntry _ _ found).2.2.1
    have total := getUserConnCnt_modifyUser own registered fun value =>
      value.validateMsgConn (reg.conns conn).handle conn
    have more := connCnt_validateMsgConn opened validate fresh
    rw [acceptLogin_registry]
    omega
  · obtain ⟨before, after, quietBefore, quietAfter, outs⟩ :=
      reg.acceptLogin_sent conn imUser rsp routeServ now
    have sent := (sendUserStatusUpdate_registered (reg.loginUser conn imUser rsp) opened
      (by rw [openConn_userId]; exact registered)).2
    rw [outs, sent, List.filterMap_append, List.filterMap_append, quietBefore.loginPdu,
      quietAfter.loginPdu]
    exact ⟨_, rfl⟩

end Registry

/-! ### The links -/

/-- An operation keeps the balances when it changes the count by what it sent. -/
theorem CountsAgree.deliver {server next : Server} (agree : CountsAgree server) {pdus : List Pdu}
    (links : next.loginServers = server.loginServers.map (Server.deliver pdus))
    (count : pdus.foldl Pdu.count server.reg.getUserConnCnt = next.reg.getUserConnCnt) :
    CountsAgree next := by
  intro link member opened
  rw [links] at member
  obtain ⟨earlier, earlierMember, delivered⟩ := List.mem_map.mp member
  match earlier, delivered with
  | some ⟨true, sent⟩, rfl =>
      have before := agree ⟨true, sent⟩ earlierMember rfl
      unfold LoginServConn.balance at before ⊢
      rw [List.foldl_append, before, count]
  | some ⟨false, sent⟩, rfl => cases opened

theorem Untouched.getUserConnCnt {before after : Registry} (untouched : Untouched before after) :
    after.getUserConnCnt = before.getUserConnCnt :=
  Registry.getUserConnCnt_congr untouched.imUserMap fun _ _ _ =>
    Registry.connCnt_congr (by rw [untouched.users]) (by rw [untouched.users])
      fun _ conn _ => untouched.isOpen conn

theorem getUserConnCnt_accept {reg : Registry} (authorized : Authorized reg) {conn : ConnPtr}
    (fresh : conn ∉ reg.accepted) (handle : Handle) (clientType : BitVec 32) (now : Nat) :
    (reg.accept conn handle clientType now).getUserConnCnt = reg.getUserConnCnt := by
  refine Registry.getUserConnCnt_congr rfl fun _ user _ =>
    Registry.connCnt_congr rfl rfl fun listedHandle other entry => ?_
  have different : other ≠ conn := by
    rintro rfl
    exact fresh (authorized.listed other ⟨user, listedHandle, entry⟩).1
  simp [Registry.accept, Registry.setConn, different]

theorem getUserConnCnt_login {reg : Registry} (shape : Shape none reg) (conn : ConnPtr)
    (userName : String) (clientType : BitVec 32) (onlineStatus : Nat) :
    ((reg.nameConn conn userName clientType onlineStatus).enqueueLogin conn
      userName).getUserConnCnt = reg.getUserConnCnt := by
  have shaped : Shape none (reg.nameConn conn userName clientType onlineStatus) :=
    shape.modifyConn conn _ rfl rfl rfl
  have frame := Shape.enqueueLogin_frame
    (reg.nameConn conn userName clientType onlineStatus) conn userName
  refine Registry.getUserConnCnt_congr frame.2.1 fun userId user found => ?_
  have named := shaped.named_of_id found
  have stillNamed := (Shape.enqueueLogin_names
    (reg.nameConn conn userName clientType onlineStatus) conn userName).2 _ user named
  rcases shaped.enqueueLogin_named conn stillNamed with ⟨_, same, _⟩ | ⟨sameName, _, _, free⟩
  · refine Registry.connCnt_congr ?_ ?_ fun _ other _ => ?_
    · rw [same]
      rfl
    · rw [same]
      rfl
    · rw [frame.1]
      unfold Registry.nameConn
      by_cases equal : other = conn
      · rw [equal, Registry.modifyConn_self]
      · rw [Registry.modifyConn_other _ _ _ equal]
  · rw [sameName, free] at named
    cases named

theorem CountsAgree.step {server : Server} {event : Event} (agree : CountsAgree server)
    (shape : Shape none server.reg) (authorized : Authorized server.reg)
    (admissible : Admissible server event) (names : NamesUsers event)
    (kept : KeepsCount server event) : CountsAgree (server.step event) := by
  obtain ⟨closesOnce, loginsAdd⟩ := kept
  have transition := step_transition admissible
  generalize server.step event = next at transition ⊢
  cases transition with
  | accept =>
      intro link member opened
      rw [agree link member opened, getUserConnCnt_accept authorized admissible.1]
  | quiet untouched quiet =>
      refine agree.deliver (congrArg (fun pdus => server.loginServers.map (Server.deliver pdus))
        quiet.loginPdu) ?_
      exact congrArg Nat.cast untouched.getUserConnCnt.symm
  | closed closing untouched quiet =>
      rename_i conn reset outs
      have takes : ∀ user, (reset.conns conn).isOpen = true →
          reset.imUserMap[(reset.conns conn).userId]? = some user →
            (reset.users user).connMap[(reset.conns conn).handle]? ≠ none := by
        rw [untouched.isOpen, untouched.imUserMap, untouched.userId, untouched.users,
          untouched.handle]
        exact fun user opened found => (closesOnce conn user closing opened found).2
      have sent : (outs ++ (reset.close conn).2).filterMap Out.loginPdu =
          (reset.close conn).2.filterMap Out.loginPdu := by
        rw [List.filterMap_append, quiet.loginPdu, List.nil_append]
      refine agree.deliver rfl ?_
      rw [sent, ← untouched.getUserConnCnt]
      rcases Registry.close_cases (shape.untouched untouched) (authorized.untouched untouched) conn
        takes with ⟨silent, count⟩ | ⟨userId, clientType, told, count⟩
      · rw [silent]
        exact congrArg Nat.cast count.symm
      · rw [told, ← count]
        show (((reset.close conn).1.getUserConnCnt + 1 : Nat) : Int) - 1 =
          ((reset.close conn).1.getUserConnCnt : Int)
        omega
  | login starts unnamed =>
      rename_i conn pdu given userName password clientType onlineStatus seqNum
      refine agree.deliver rfl ?_
      exact congrArg Nat.cast
        (getUserConnCnt_login shape conn userName clientType onlineStatus).symm
  | acceptLogin awaited success =>
      rename_i own rsp routeServ now imUser conn
      obtain ⟨stable, adds⟩ := loginsAdd success
      obtain ⟨count, userId, told⟩ := Registry.acceptLogin_count shape authorized routeServ now
        awaited (names success) stable (adds imUser conn awaited)
      refine agree.deliver rfl ?_
      rw [told]
      exact congrArg Nat.cast count.symm
  | loginConnect | loginClose =>
      intro link member opened
      rcases List.mem_or_eq_of_mem_set member with earlier | same
      · exact agree link earlier opened
      · cases same <;> cases opened
  | loginConfirm =>
      rename_i index
      intro link member opened
      obtain ⟨position, found⟩ := List.mem_iff_getElem?.mp member
      rw [List.getElem?_modify] at found
      obtain ⟨earlier, entry, changed⟩ := Option.map_eq_some_iff.mp found
      by_cases same : index = position
      · rw [if_pos same] at changed
        obtain ⟨before, _, rfl⟩ := Option.map_eq_some_iff.mp changed
        unfold LoginServConn.balance Server.onConfirm
        rw [List.foldl_append]
        rfl
      · rw [if_neg same] at changed
        rw [changed] at entry
        exact agree link (List.mem_iff_getElem?.mpr ⟨position, entry⟩) opened

/-- `Close` of a connection that was closed before sends nothing. -/
theorem second_close_silent {server : Server} {event : Event} (shape : Shape none server.reg)
    (closesOnce : ClosesOnce server event) {conn : ConnPtr}
    (closing : server.closing event = some conn)
    (closed : (server.reg.conns conn).closed = true) : (server.reg.close conn).2 = [] := by
  have sameId : ((server.reg.markClosed conn).conns conn).userId =
      (server.reg.conns conn).userId := by
    simp [Registry.markClosed]
  unfold Registry.close Registry.closeById Registry.getImUserById
  rw [sameId]
  cases found : (server.reg.markClosed conn).imUserMap[(server.reg.conns conn).userId]? with
  | none => rfl
  | some user =>
      have entry : server.reg.imUserMap[(server.reg.conns conn).userId]? = some user := found
      have opened : (server.reg.conns conn).isOpen = true := by
        by_contra notOpen
        have zero := shape.unopened conn (by simpa using notOpen)
        exact (shape.idEntry _ user entry).1 zero
      have first := (closesOnce conn user closing opened entry).1
      rw [closed] at first
      cases first

/-- In every run whose steps meet the condition, and whose DB servers accept no
login for user id 0, each open link has the number of open connections, and a
second `Close` sends nothing. -/
theorem counts_agree {config : MsgServConfig} {loginServerCount : Nat} {server : Server}
    (reached : Reached (fun state event => Admissible state event ∧ NamesUsers event ∧
      KeepsCount state event) config loginServerCount server) :
    CountsAgree server ∧
    ∀ (event : Event) (conn : ConnPtr), KeepsCount server event →
      server.closing event = some conn → (server.reg.conns conn).closed = true →
        (server.reg.close conn).2 = [] := by
  have invariants := reached.invariant
    (fun state => (Authorized state.reg ∧ Shape none state.reg) ∧ CountsAgree state)
    ⟨⟨authorized_empty, shape_empty⟩, by
      intro link member opened
      cases List.eq_of_mem_replicate member⟩
    (by
      rintro state event ⟨⟨authorized, shape⟩, agree⟩ ⟨admissible, names, kept⟩
      have stable : StableAnswers state event := by
        cases event with
        | validateRsp req rsp routeServ now => exact fun success => (kept.2 success).1
        | _ => trivial
      exact ⟨⟨authorized_step authorized admissible,
        shape_step shape authorized admissible names stable⟩,
        agree.step shape authorized admissible names kept⟩)
  refine ⟨invariants.2, ?_⟩
  intro event conn kept closing closed
  exact second_close_silent invariants.1.2 kept.1 closing closed

/-- One connection logs in, and is closed. -/
def loginAndCloseEvents : List Event :=
  onlineEvents ++
    [.accept 1 3 0 0, .read 1 (loginPdu "ann" 1) Peers.allUp,
      .validateRsp ⟨1, "ann", 3⟩ (acceptedRsp "ann" 7 3) true 0, .onClose 1]

/-- A user logs in on two devices, and logs out on one of them. -/
def logoutEvents : List Event :=
  onlineEvents ++
    [.accept 1 3 0 0, .read 1 (loginPdu "ann" 1) Peers.allUp,
      .validateRsp ⟨1, "ann", 3⟩ (acceptedRsp "ann" 7 3) true 0,
      .accept 2 4 0 0, .read 2 (loginPdu "ann" 17) Peers.allUp,
      .validateRsp ⟨2, "ann", 4⟩ (acceptedRsp "ann" 7 4) true 0, .read 1 logoutPdu Peers.allUp]

theorem closesOnce_of_not_closing {server : Server} {event : Event}
    (none : server.closing event = none) : ClosesOnce server event := by
  intro conn user closing
  rw [none] at closing
  cases closing

theorem counts_agree_login :
    CountsAgree (Lib.run Server.step (Server.init sampleConfig 1) loginAndCloseEvents) := by
  have faithful := Peers.allUp_faithful
  have meets : Lib.Meets Server.step
      (fun state event => Admissible state event ∧ NamesUsers event ∧ KeepsCount state event)
      (Server.init sampleConfig 1) loginAndCloseEvents := by
    refine ⟨⟨trivial, trivial, ?_, trivial⟩, ⟨trivial, trivial, ?_, trivial⟩,
      ⟨⟨by decide, by decide⟩, trivial, ?_, trivial⟩,
      ⟨⟨by decide, faithful⟩, trivial, ?_, trivial⟩,
      ⟨trivial, fun _ => by decide, ?_, ?_⟩,
      ⟨(by decide : (1 : ConnPtr) ∈ _), trivial, ?_, trivial⟩, trivial⟩
    any_goals exact closesOnce_of_not_closing rfl
    · intro _
      refine ⟨fun user named _ => ?_, fun imUser conn awaited => ?_⟩
      · cases named.symm.trans (by decide : _ = some 0)
        decide
      · cases awaited.symm.trans (by decide : _ = some (0, 1))
        decide
    · intro conn user closing _ found
      cases closing
      cases found.symm.trans (by decide : _ = some 0)
      exact ⟨by decide, by decide⟩
  exact (counts_agree (Lib.reach_run loginAndCloseEvents meets)).1

/-- The logout closes the connection, and its end closes it again: the login
server counts no connection where one is left. -/
theorem counts_disagree_after_logout :
    Reached (Promised fun _ => 7) sampleConfig 1
        (Lib.run Server.step (Server.init sampleConfig 1) (logoutEvents ++ [.onClose 1])) ∧
      ¬CountsAgree
        (Lib.run Server.step (Server.init sampleConfig 1) (logoutEvents ++ [.onClose 1])) ∧
      ((Lib.run Server.step (Server.init sampleConfig 1) logoutEvents).reg.conns 1).closed = true ∧
      ((Lib.run Server.step (Server.init sampleConfig 1) logoutEvents).reg.close 1).2 ≠ [] := by
  have faithful := Peers.allUp_faithful
  exact ⟨Lib.reach_run _ ⟨.of_admissible trivial nofun, .of_admissible trivial nofun,
    .of_admissible ⟨by decide, by decide⟩ nofun, .of_admissible ⟨by decide, faithful⟩ nofun,
    .accepted (by decide) (by decide),
    .of_admissible ⟨by decide, by decide⟩ nofun, .of_admissible ⟨by decide, faithful⟩ nofun,
    .accepted (by decide) (by decide), .of_admissible ⟨by decide, faithful⟩ nofun,
    .of_admissible (by decide : (1 : ConnPtr) ∈ _) nofun, trivial⟩,
    by decide, by decide, by decide⟩

end AChat.MsgServer
