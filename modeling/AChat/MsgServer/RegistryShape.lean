import AChat.MsgServer.AuthorizationGate

/-!
Owns the shape of the registry: how its two maps and the connection maps of its
users fit together, and that every operation keeps the shape. Only a login asks
for more than an admissible event: no user is given a second id.

Does not own what the shape says about closed and waiting connections, which
depends on how clients log in.
-/

namespace AChat.MsgServer

open Std

/-- The maps fit together. `vacated` may be a user whose last connection just
left, or whose first connection is still to come. -/
structure Shape (vacated : Option UserPtr) (reg : Registry) : Prop where
  nameEntry : ∀ (name : String) (user : UserPtr), reg.imUserMapByName[name]? = some user →
    user < reg.nextUser ∧ (reg.users user).loginName = name ∧ (reg.users user).deleted = false
  idEntry : ∀ (userId : UserId) (user : UserPtr), reg.imUserMap[userId]? = some user →
    userId ≠ 0 ∧ (reg.users user).userId = userId ∧ (reg.users user).validate = true ∧
      reg.imUserMapByName[(reg.users user).loginName]? = some user
  identified : ∀ (name : String) (user : UserPtr), reg.imUserMapByName[name]? = some user →
    (reg.users user).userId ≠ 0 → reg.imUserMap[(reg.users user).userId]? = some user
  anonymous : ∀ (name : String) (user : UserPtr), reg.imUserMapByName[name]? = some user →
    (reg.users user).userId = 0 → (reg.users user).isMsgConnEmpty = true
  registered : ∀ (name : String) (user : UserPtr) (handle : Handle) (conn : ConnPtr),
    reg.imUserMapByName[name]? = some user → (reg.users user).connMap[handle]? = some conn →
      (reg.conns conn).userId = (reg.users user).userId ∧ (reg.conns conn).handle = handle
  occupied : ∀ (userId : UserId) (user : UserPtr), reg.imUserMap[userId]? = some user →
    some user ≠ vacated → (reg.users user).isMsgConnEmpty = false
  housed : ∀ (user : UserPtr) (handle : Handle) (conn : ConnPtr),
    (reg.users user).connMap[handle]? = some conn →
      reg.imUserMapByName[(reg.users user).loginName]? = some user
  unopened : ∀ conn, (reg.conns conn).isOpen = false → (reg.conns conn).userId = 0

/-- A user id that no user has may be answered only for a user without an id. -/
def StableId (reg : Registry) (userName : String) (userId : UserId) : Prop :=
  ∀ user, reg.imUserMapByName[userName]? = some user → reg.imUserMap[userId]? = none →
    (reg.users user).userId = 0

theorem shape_empty : Shape none Registry.empty := by
  refine ⟨?_, ?_, ?_, ?_, ?_, ?_, ?_, ?_⟩
  all_goals intros
  all_goals first | rfl | simp_all [Registry.empty, ImUser.new]

theorem isMsgConnEmpty_of_subset {before after : ImUser}
    (subset : ∀ (handle : Handle) (conn : ConnPtr), after.connMap[handle]? = some conn →
      before.connMap[handle]? = some conn)
    (empty : before.isMsgConnEmpty = true) : after.isMsgConnEmpty = true := by
  unfold ImUser.isMsgConnEmpty at empty ⊢
  rw [Lib.isEmpty_iff_getElem?] at empty ⊢
  intro handle
  cases found : after.connMap[handle]? with
  | none => rfl
  | some conn =>
      have earlier := subset handle conn found
      rw [empty handle] at earlier
      cases earlier

namespace Shape

variable {vacated : Option UserPtr} {before after reg : Registry}

theorem weaken (shape : Shape none reg) (vacated : Option UserPtr) : Shape vacated reg :=
  { shape with occupied := fun userId user found _ => shape.occupied userId user found (by simp) }

/-- Two user ids, or two names, never lead to one user. -/
theorem named_of_id (shape : Shape vacated reg) {userId : UserId} {user : UserPtr}
    (found : reg.imUserMap[userId]? = some user) :
    reg.imUserMapByName[(reg.users user).loginName]? = some user :=
  (shape.idEntry userId user found).2.2.2

/-- The maps are as they were, and so are the connections that are listed. -/
theorem agree (shape : Shape vacated before) (users : after.users = before.users)
    (names : after.imUserMapByName = before.imUserMapByName)
    (ids : after.imUserMap = before.imUserMap) (nextUser : after.nextUser = before.nextUser)
    (listed : ∀ conn, before.Listed conn →
      (after.conns conn).userId = (before.conns conn).userId ∧
        (after.conns conn).handle = (before.conns conn).handle)
    (unopened : ∀ conn, (after.conns conn).isOpen = false → (after.conns conn).userId = 0) :
    Shape vacated after := by
  refine ⟨?_, ?_, ?_, ?_, ?_, ?_, ?_, unopened⟩
  · rw [names, users, nextUser]
    exact shape.nameEntry
  · rw [ids, names, users]
    exact shape.idEntry
  · rw [ids, names, users]
    exact shape.identified
  · rw [names, users]
    exact shape.anonymous
  · rw [names, users]
    intro name user handle conn named found
    obtain ⟨sameId, sameHandle⟩ := listed conn ⟨user, handle, found⟩
    rw [sameId, sameHandle]
    exact shape.registered name user handle conn named found
  · rw [ids, users]
    exact shape.occupied
  · rw [names, users]
    exact shape.housed

theorem untouched (shape : Shape vacated before) (untouched : Untouched before after) :
    Shape vacated after := by
  refine shape.agree untouched.users untouched.imUserMapByName untouched.imUserMap
    untouched.nextUser (fun conn _ => ⟨untouched.userId conn, untouched.handle conn⟩) ?_
  intro conn notOpen
  rw [untouched.isOpen] at notOpen
  rw [untouched.userId]
  exact shape.unopened conn notOpen

/-- One connection changes, and keeps its user id, its handle and whether it is open. -/
theorem modifyConn (shape : Shape vacated reg) (conn : ConnPtr) (change : MsgConn → MsgConn)
    (userId : (change (reg.conns conn)).userId = (reg.conns conn).userId)
    (handle : (change (reg.conns conn)).handle = (reg.conns conn).handle)
    (isOpen : (change (reg.conns conn)).isOpen = (reg.conns conn).isOpen) :
    Shape vacated (reg.modifyConn conn change) := by
  have keep : ∀ other,
      ((reg.modifyConn conn change).conns other).userId = (reg.conns other).userId ∧
      ((reg.modifyConn conn change).conns other).handle = (reg.conns other).handle ∧
      ((reg.modifyConn conn change).conns other).isOpen = (reg.conns other).isOpen := by
    intro other
    by_cases same : other = conn
    · subst same
      rw [Registry.modifyConn_self]
      exact ⟨userId, handle, isOpen⟩
    · rw [Registry.modifyConn_other reg conn change same]
      exact ⟨rfl, rfl, rfl⟩
  refine shape.agree rfl rfl rfl rfl (fun other _ => ⟨(keep other).1, (keep other).2.1⟩) ?_
  intro other notOpen
  rw [(keep other).2.2] at notOpen
  rw [(keep other).1]
  exact shape.unopened other notOpen

/-- A connection that is not listed changes. -/
theorem setConn (shape : Shape vacated reg) {conn : ConnPtr} (unlisted : ¬reg.Listed conn)
    (value : MsgConn) (unopened : value.isOpen = false → value.userId = 0) :
    Shape vacated (reg.setConn conn value) := by
  refine shape.agree rfl rfl rfl rfl ?_ ?_
  · intro other listed
    have different : other ≠ conn := by
      rintro rfl
      exact unlisted listed
    simp [Registry.setConn, different]
  · intro other
    by_cases same : other = conn
    · subst same
      simpa [Registry.setConn] using unopened
    · simpa [Registry.setConn, same] using shape.unopened other

/-- One named user changes, and keeps its identity. -/
theorem modifyUser {next : Option UserPtr} (shape : Shape vacated reg) {name : String}
    {user : UserPtr} (named : reg.imUserMapByName[name]? = some user) {change : ImUser → ImUser}
    (userId : (change (reg.users user)).userId = (reg.users user).userId)
    (loginName : (change (reg.users user)).loginName = (reg.users user).loginName)
    (validate : (change (reg.users user)).validate = (reg.users user).validate)
    (deleted : (change (reg.users user)).deleted = (reg.users user).deleted)
    (registered : ∀ (handle : Handle) (conn : ConnPtr),
      (change (reg.users user)).connMap[handle]? = some conn →
        (reg.conns conn).userId = (reg.users user).userId ∧ (reg.conns conn).handle = handle)
    (anonymous : (reg.users user).userId = 0 →
      (change (reg.users user)).isMsgConnEmpty = true)
    (occupied : ∀ (userId : UserId) (other : UserPtr), reg.imUserMap[userId]? = some other →
      some other ≠ next → ((reg.modifyUser user change).users other).isMsgConnEmpty = false) :
    Shape next (reg.modifyUser user change) := by
  have keep : ∀ other,
      ((reg.modifyUser user change).users other).userId = (reg.users other).userId ∧
      ((reg.modifyUser user change).users other).loginName = (reg.users other).loginName ∧
      ((reg.modifyUser user change).users other).validate = (reg.users other).validate ∧
      ((reg.modifyUser user change).users other).deleted = (reg.users other).deleted := by
    intro other
    by_cases same : other = user
    · subst same
      rw [Registry.modifyUser_self]
      exact ⟨userId, loginName, validate, deleted⟩
    · rw [Registry.modifyUser_other reg user change same]
      exact ⟨rfl, rfl, rfl, rfl⟩
  refine ⟨?_, ?_, ?_, ?_, ?_, occupied, ?_, shape.unopened⟩
  · intro name other found
    rw [(keep other).2.1, (keep other).2.2.2]
    exact shape.nameEntry name other found
  · intro userId other found
    rw [(keep other).1, (keep other).2.1, (keep other).2.2.1]
    exact shape.idEntry userId other found
  · intro name other found
    rw [(keep other).1]
    exact shape.identified name other found
  · intro name other found
    rw [(keep other).1]
    intro zero
    by_cases same : other = user
    · subst same
      rw [Registry.modifyUser_self]
      exact anonymous zero
    · rw [Registry.modifyUser_other reg user change same]
      exact shape.anonymous name other found zero
  · intro name other handle conn found
    rw [(keep other).1]
    by_cases same : other = user
    · subst same
      rw [Registry.modifyUser_self]
      exact registered handle conn
    · rw [Registry.modifyUser_other reg user change same]
      exact shape.registered name other handle conn found
  · intro other handle conn found
    rw [(keep other).2.1]
    by_cases same : other = user
    · subst same
      rw [(shape.nameEntry name other named).2.1]
      exact named
    · rw [Registry.modifyUser_other reg user change same] at found
      exact shape.housed other handle conn found

/-- One named user changes only in who waits. -/
theorem modifyWaiting (shape : Shape vacated reg) {name : String} {user : UserPtr}
    (named : reg.imUserMapByName[name]? = some user) {change : ImUser → ImUser}
    (userId : (change (reg.users user)).userId = (reg.users user).userId)
    (loginName : (change (reg.users user)).loginName = (reg.users user).loginName)
    (validate : (change (reg.users user)).validate = (reg.users user).validate)
    (deleted : (change (reg.users user)).deleted = (reg.users user).deleted)
    (connMap : (change (reg.users user)).connMap = (reg.users user).connMap) :
    Shape vacated (reg.modifyUser user change) := by
  have sameEmpty : (change (reg.users user)).isMsgConnEmpty =
      (reg.users user).isMsgConnEmpty := congrArg TreeMap.isEmpty connMap
  refine shape.modifyUser named userId loginName validate deleted ?_ ?_ ?_
  · rw [connMap]
    intro handle conn
    exact shape.registered name user handle conn named
  · rw [sameEmpty]
    exact shape.anonymous name user named
  · intro id other found different
    by_cases same : other = user
    · subst same
      rw [Registry.modifyUser_self, sameEmpty]
      exact shape.occupied id other found different
    · rw [Registry.modifyUser_other reg user change same]
      exact shape.occupied id other found different

theorem addUnValidate (shape : Shape vacated reg) {name : String} {user : UserPtr}
    (named : reg.imUserMapByName[name]? = some user) (conn : ConnPtr) :
    Shape vacated (reg.modifyUser user fun value => value.addUnValidateMsgConn conn) :=
  shape.modifyWaiting named rfl rfl rfl rfl rfl

theorem delUnValidate (shape : Shape vacated reg) {name : String} {user : UserPtr}
    (named : reg.imUserMapByName[name]? = some user) (conn : ConnPtr) :
    Shape vacated (reg.modifyUser user fun value => value.delUnValidateMsgConn conn) :=
  shape.modifyWaiting named rfl rfl rfl rfl rfl

theorem moveWaiting (shape : Shape vacated reg) {fromName toName : String}
    {imUser user : UserPtr} (fromNamed : reg.imUserMapByName[fromName]? = some imUser)
    (toNamed : reg.imUserMapByName[toName]? = some user) (conn : ConnPtr) :
    Shape vacated (reg.moveWaiting imUser user conn) :=
  (shape.addUnValidate toNamed conn).delUnValidate fromNamed conn

/-- One named user loses a connection. -/
theorem leave (shape : Shape none reg) {name : String} {user : UserPtr}
    (named : reg.imUserMapByName[name]? = some user) (handle : Handle) (conn : ConnPtr) :
    Shape (some user) (reg.modifyUser user fun value =>
      (value.delMsgConn handle).delUnValidateMsgConn conn) := by
  have subset : ∀ (other : Handle) (target : ConnPtr),
      (((reg.users user).delMsgConn handle).delUnValidateMsgConn conn).connMap[other]? =
        some target → (reg.users user).connMap[other]? = some target := by
    have shrinks := (Shrinks.leave reg user handle conn).connMap user
    rw [Registry.modifyUser_self] at shrinks
    exact shrinks
  refine shape.modifyUser named rfl rfl rfl rfl ?_ ?_ ?_
  · intro other target found
    exact shape.registered name user other target named (subset other target found)
  · intro zero
    exact isMsgConnEmpty_of_subset subset (shape.anonymous name user named zero)
  · intro userId other found different
    have other_ne : other ≠ user := fun same => different (congrArg some same)
    rw [Registry.modifyUser_other reg user _ other_ne]
    exact shape.occupied userId other found (by simp)

/-- Everything but one user without connections stays registered. -/
structure Drops (user : UserPtr) (before after : Registry) : Prop where
  conns : after.conns = before.conns
  nextUser : after.nextUser = before.nextUser
  users : ∀ other, other ≠ user → after.users other = before.users other
  names : ∀ (name : String) (other : UserPtr), after.imUserMapByName[name]? = some other ↔
    before.imUserMapByName[name]? = some other ∧ other ≠ user
  ids : ∀ (userId : UserId) (other : UserPtr), after.imUserMap[userId]? = some other ↔
    before.imUserMap[userId]? = some other ∧ other ≠ user
  emptied : (after.users user).isMsgConnEmpty = true

theorem drops {user : UserPtr} (shape : Shape (some user) before)
    (drops : Drops user before after) : Shape none after := by
  refine ⟨?_, ?_, ?_, ?_, ?_, ?_, ?_, ?_⟩
  · intro name other found
    obtain ⟨entry, different⟩ := (drops.names name other).mp found
    rw [drops.users other different, drops.nextUser]
    exact shape.nameEntry name other entry
  · intro userId other found
    obtain ⟨entry, different⟩ := (drops.ids userId other).mp found
    rw [drops.users other different]
    obtain ⟨zero, sameId, validate, named⟩ := shape.idEntry userId other entry
    exact ⟨zero, sameId, validate, (drops.names _ other).mpr ⟨named, different⟩⟩
  · intro name other found
    obtain ⟨entry, different⟩ := (drops.names name other).mp found
    rw [drops.users other different]
    intro zero
    exact (drops.ids _ other).mpr ⟨shape.identified name other entry zero, different⟩
  · intro name other found
    obtain ⟨entry, different⟩ := (drops.names name other).mp found
    rw [drops.users other different]
    exact shape.anonymous name other entry
  · intro name other handle conn found
    obtain ⟨entry, different⟩ := (drops.names name other).mp found
    rw [drops.users other different, drops.conns]
    exact shape.registered name other handle conn entry
  · intro userId other found _
    obtain ⟨entry, different⟩ := (drops.ids userId other).mp found
    rw [drops.users other different]
    exact shape.occupied userId other entry fun same => different (Option.some.inj same)
  · intro other handle conn found
    have different : other ≠ user := by
      rintro rfl
      have absent := (Lib.isEmpty_iff_getElem? _).mp drops.emptied handle
      rw [absent] at found
      cases found
    rw [drops.users other different] at found ⊢
    exact (drops.names _ other).mpr ⟨shape.housed other handle conn found, different⟩
  · rw [drops.conns]
    exact shape.unopened

/-- Erasing the key of a named user takes that user out of the name map, and no other. -/
theorem erase_name (shape : Shape vacated reg) {name : String} {user : UserPtr}
    (named : reg.imUserMapByName[name]? = some user) (probe : String) (other : UserPtr) :
    (reg.imUserMapByName.erase name)[probe]? = some other ↔
      reg.imUserMapByName[probe]? = some other ∧ other ≠ user := by
  rw [Lib.getElem?_erase_ite]
  by_cases same : name = probe
  · subst same
    rw [if_pos rfl, named]
    constructor
    · intro absent
      cases absent
    · rintro ⟨found, different⟩
      exact absurd (Option.some.inj found).symm different
  · rw [if_neg same]
    constructor
    · intro found
      refine ⟨found, ?_⟩
      rintro rfl
      have first := (shape.nameEntry name other named).2.1
      have second := (shape.nameEntry probe other found).2.1
      exact same (first.symm.trans second)
    · exact And.left

/-- Erasing the user id of a named user does the same for the id map. -/
theorem erase_id (shape : Shape vacated reg) {name : String} {user : UserPtr}
    (named : reg.imUserMapByName[name]? = some user) (probe : UserId) (other : UserPtr) :
    (reg.imUserMap.erase (reg.users user).userId)[probe]? = some other ↔
      reg.imUserMap[probe]? = some other ∧ other ≠ user := by
  rw [Lib.getElem?_erase_ite]
  by_cases same : (reg.users user).userId = probe
  · rw [if_pos same]
    constructor
    · intro absent
      cases absent
    · rintro ⟨found, different⟩
      have zero := (shape.idEntry probe other found).1
      have own := shape.identified name user named (same ▸ zero)
      rw [same, found] at own
      exact absurd (Option.some.inj own) different
  · rw [if_neg same]
    constructor
    · intro found
      refine ⟨found, ?_⟩
      rintro rfl
      exact same (shape.idEntry probe other found).2.1
    · exact And.left

/-- A named user without connections is removed. -/
theorem removeIfEmpty {name : String} {user : UserPtr} (shape : Shape (some user) reg)
    (named : reg.imUserMapByName[name]? = some user) : Shape none (reg.removeIfEmpty user) := by
  unfold Registry.removeIfEmpty
  split
  · rename_i empty
    have sameName : (reg.users user).loginName = name := (shape.nameEntry name user named).2.1
    refine shape.drops ⟨rfl, rfl, fun other different => ?_, ?_, shape.erase_id named, ?_⟩
    · unfold Registry.removeImUser Registry.deleteImUser
      rw [Registry.modifyUser_other _ user _ different]
      rfl
    · have erased := shape.erase_name named
      rw [← sameName] at erased
      exact erased
    · unfold Registry.removeImUser Registry.deleteImUser
      rw [Registry.modifyUser_self]
      exact empty
  · rename_i nonempty
    refine { shape with occupied := ?_ }
    intro userId target found _
    by_cases same : target = user
    · subst same
      simpa using nonempty
    · exact shape.occupied userId target found fun equal => same (Option.some.inj equal)

theorem closeById (shape : Shape none reg) (conn : ConnPtr) :
    Shape none (reg.closeById conn).1 := by
  unfold Registry.closeById
  split
  · exact shape
  · rename_i user found
    have named := shape.named_of_id found
    exact (shape.leave named _ conn).removeIfEmpty named

theorem closeByLoginName (shape : Shape none reg) (conn : ConnPtr) :
    Shape none (reg.closeByLoginName conn) := by
  unfold Registry.closeByLoginName
  split
  · exact shape
  · rename_i user named
    exact ((shape.delUnValidate named conn).weaken (some user)).removeIfEmpty named

theorem close (shape : Shape none reg) (conn : ConnPtr) : Shape none (reg.close conn).1 :=
  ((shape.modifyConn conn _ rfl rfl rfl).closeById conn).closeByLoginName conn

/-! ### Logins -/

/-- A new user is registered under a free name. -/
theorem newImUser (shape : Shape none reg) {loginName : String}
    (free : reg.imUserMapByName[loginName]? = none) :
    Shape none ((reg.newImUser loginName).2.addImUserByLoginName loginName reg.nextUser) ∧
      ((reg.newImUser loginName).2.addImUserByLoginName loginName
        reg.nextUser).imUserMapByName[loginName]? = some reg.nextUser := by
  have added : (reg.newImUser loginName).2.addImUserByLoginName loginName reg.nextUser =
      { reg with
        users := Function.update reg.users reg.nextUser (ImUser.new loginName)
        nextUser := reg.nextUser + 1
        imUserMapByName := reg.imUserMapByName.insert loginName reg.nextUser } := by
    unfold Registry.addImUserByLoginName Registry.getImUserByLoginName
    have none : (reg.newImUser loginName).2.imUserMapByName[loginName]? = none := free
    rw [none]
    rfl
  rw [added]
  have old : ∀ user, user < reg.nextUser →
      Function.update reg.users reg.nextUser (ImUser.new loginName) user = reg.users user := by
    intro user below
    exact Function.update_of_ne (Nat.ne_of_lt below) _ _
  have new : Function.update reg.users reg.nextUser (ImUser.new loginName) reg.nextUser =
      ImUser.new loginName := Function.update_self ..
  have names : ∀ (name : String) (user : UserPtr),
      (reg.imUserMapByName.insert loginName reg.nextUser)[name]? = some user →
        loginName = name ∧ user = reg.nextUser ∨
          loginName ≠ name ∧ reg.imUserMapByName[name]? = some user ∧ user < reg.nextUser := by
    intro name user found
    rw [Lib.getElem?_insert_ite] at found
    split at found
    · rename_i same
      exact .inl ⟨same, (Option.some.inj found).symm⟩
    · rename_i different
      exact .inr ⟨different, found, (shape.nameEntry name user found).1⟩
  refine ⟨⟨?_, ?_, ?_, ?_, ?_, ?_, ?_, shape.unopened⟩, by simp⟩
  · intro name user found
    rcases names name user found with ⟨rfl, rfl⟩ | ⟨_, entry, below⟩
    · simp only [new]
      exact ⟨Nat.lt_succ_self _, rfl, rfl⟩
    · simp only [old user below]
      obtain ⟨_, sameName, deleted⟩ := shape.nameEntry name user entry
      exact ⟨Nat.lt_succ_of_lt below, sameName, deleted⟩
  · intro userId user found
    obtain ⟨zero, sameId, validate, named⟩ := shape.idEntry userId user found
    have below := (shape.nameEntry _ user named).1
    simp only [old user below]
    refine ⟨zero, sameId, validate, ?_⟩
    rw [Lib.getElem?_insert_ite, if_neg]
    · exact named
    · intro same
      rw [← same, free] at named
      cases named
  · intro name user found
    rcases names name user found with ⟨rfl, rfl⟩ | ⟨_, entry, below⟩
    · simp only [new]
      exact fun zero => absurd rfl zero
    · simp only [old user below]
      exact shape.identified name user entry
  · intro name user found
    rcases names name user found with ⟨rfl, rfl⟩ | ⟨_, entry, below⟩
    · simp only [new]
      exact fun _ => rfl
    · simp only [old user below]
      exact shape.anonymous name user entry
  · intro name user handle conn found
    rcases names name user found with ⟨rfl, rfl⟩ | ⟨_, entry, below⟩
    · simp [ImUser.new]
    · simp only [old user below]
      exact shape.registered name user handle conn entry
  · intro userId user found _
    have named := (shape.idEntry userId user found).2.2.2
    have below := (shape.nameEntry _ user named).1
    simp only [old user below]
    exact shape.occupied userId user found (by simp)
  · intro user handle conn found
    by_cases same : user = reg.nextUser
    · subst same
      simp [ImUser.new] at found
    · simp only [Function.update_of_ne same] at found ⊢
      have named := shape.housed user handle conn found
      rw [Lib.getElem?_insert_ite, if_neg]
      · exact named
      · intro sameName
        rw [← sameName, free] at named
        cases named

theorem enqueueLogin (shape : Shape none reg) (conn : ConnPtr) (loginName : String) :
    Shape none (reg.enqueueLogin conn loginName) := by
  unfold Registry.enqueueLogin
  split
  · rename_i user named
    exact shape.addUnValidate named conn
  · rename_i free
    obtain ⟨created, named⟩ := shape.newImUser free
    exact created.addUnValidate named conn

/-- A registered name: its user takes the connection in. -/
theorem enqueueLogin_of_held {loginName : String} {holder : UserPtr}
    (held : reg.getImUserByLoginName loginName = some holder) (conn : ConnPtr) :
    reg.enqueueLogin conn loginName =
      reg.modifyUser holder fun value => value.addUnValidateMsgConn conn := by
  unfold Registry.enqueueLogin
  rw [held]

/-- A free name: it is registered with a new user, which takes the connection in. -/
theorem enqueueLogin_of_free {loginName : String}
    (free : reg.getImUserByLoginName loginName = none) (conn : ConnPtr) :
    reg.enqueueLogin conn loginName =
      Registry.modifyUser
        { (reg.newImUser loginName).2 with
          imUserMapByName := reg.imUserMapByName.insert loginName reg.nextUser }
        reg.nextUser fun value => value.addUnValidateMsgConn conn := by
  unfold Registry.enqueueLogin Registry.addImUserByLoginName
  rw [free]
  simp only
  rw [show (reg.newImUser loginName).2.getImUserByLoginName loginName = none from free]
  rfl

/-- A login request registers its name, and takes no name away. -/
theorem enqueueLogin_names (reg : Registry) (conn : ConnPtr) (loginName : String) :
    (∃ holder, (reg.enqueueLogin conn loginName).imUserMapByName[loginName]? = some holder) ∧
      ∀ (name : String) (user : UserPtr), reg.imUserMapByName[name]? = some user →
        (reg.enqueueLogin conn loginName).imUserMapByName[name]? = some user := by
  cases named : reg.getImUserByLoginName loginName with
  | some holder =>
      rw [enqueueLogin_of_held named]
      exact ⟨⟨holder, named⟩, fun _ _ found => found⟩
  | none =>
      rw [enqueueLogin_of_free named]
      simp only [Registry.modifyUser_imUserMapByName, Lib.getElem?_insert_ite]
      refine ⟨⟨reg.nextUser, by simp⟩, fun name user found => ?_⟩
      rw [if_neg]
      · exact found
      · rintro rfl
        exact absurd (named.symm.trans found) (by simp)

theorem enqueueLogin_frame (reg : Registry) (conn : ConnPtr) (loginName : String) :
    (reg.enqueueLogin conn loginName).conns = reg.conns ∧
      (reg.enqueueLogin conn loginName).imUserMap = reg.imUserMap ∧
      (reg.enqueueLogin conn loginName).accepted = reg.accepted := by
  unfold Registry.enqueueLogin Registry.addImUserByLoginName
  split
  · exact ⟨rfl, rfl, rfl⟩
  · simp only
    split <;> exact ⟨rfl, rfl, rfl⟩

/-- Where the name is registered, its user has the connection besides, and no other user changes. -/
theorem enqueueLogin_users_of_held (shape : Shape none reg) {loginName name : String}
    {holder user : UserPtr} (held : reg.getImUserByLoginName loginName = some holder)
    (entry : reg.imUserMapByName[name]? = some user) (conn : ConnPtr) :
    let after := (reg.enqueueLogin conn loginName).users user
    after = { reg.users user with unvalidateConnSet := after.unvalidateConnSet } ∧
      ∀ target, target ∈ after.unvalidateConnSet ↔
        target ∈ (reg.users user).unvalidateConnSet ∨ target = conn ∧ name = loginName := by
  intro after
  have same : user = holder ↔ name = loginName := by
    constructor
    · rintro rfl
      have first := (shape.nameEntry name user entry).2.1
      exact first.symm.trans (shape.nameEntry loginName user held).2.1
    · rintro rfl
      exact Option.some.inj (entry.symm.trans held)
  by_cases equal : user = holder
  · have changed : after = (reg.users user).addUnValidateMsgConn conn := by
      show (reg.enqueueLogin conn loginName).users user = _
      rw [enqueueLogin_of_held held, equal, Registry.modifyUser_self]
    refine ⟨by rw [changed]; rfl, fun target => ?_⟩
    rw [changed, ImUser.addUnValidateMsgConn, Lib.treeSet_mem_insert, eq_comm]
    have sameName := same.mp equal
    tauto
  · have unchanged : after = reg.users user := by
      show (reg.enqueueLogin conn loginName).users user = _
      rw [enqueueLogin_of_held held, Registry.modifyUser_other reg holder _ equal]
    have otherName : name ≠ loginName := fun sameName => equal (same.mpr sameName)
    refine ⟨by rw [unchanged], fun target => ?_⟩
    rw [unchanged]
    tauto

/-- After a login request a named user is as it was, or new; and the connection
waits for the user under its login name. -/
theorem enqueueLogin_named (shape : Shape none reg) (conn : ConnPtr) {loginName name : String}
    {user : UserPtr}
    (found : (reg.enqueueLogin conn loginName).imUserMapByName[name]? = some user) :
    let after := (reg.enqueueLogin conn loginName).users user
    (reg.imUserMapByName[name]? = some user ∧
        after = { reg.users user with unvalidateConnSet := after.unvalidateConnSet } ∧
        ∀ target, target ∈ after.unvalidateConnSet ↔
          target ∈ (reg.users user).unvalidateConnSet ∨ target = conn ∧ name = loginName) ∨
      (name = loginName ∧
        after = { ImUser.new loginName with unvalidateConnSet := after.unvalidateConnSet } ∧
        (∀ target, target ∈ after.unvalidateConnSet ↔ target = conn) ∧
        reg.imUserMapByName[loginName]? = none) := by
  intro after
  cases named : reg.getImUserByLoginName loginName with
  | some holder =>
      have entry : reg.imUserMapByName[name]? = some user := by
        rw [enqueueLogin_of_held named] at found
        exact found
      exact .inl ⟨entry, shape.enqueueLogin_users_of_held named entry conn⟩
  | none =>
      have result := enqueueLogin_of_free named conn
      rw [result] at found
      have entry : (reg.imUserMapByName.insert loginName reg.nextUser)[name]? = some user := found
      rw [Lib.getElem?_insert_ite] at entry
      split at entry
      · rename_i same
        right
        have new : user = reg.nextUser := (Option.some.inj entry).symm
        have changed : after = (ImUser.new loginName).addUnValidateMsgConn conn := by
          show (reg.enqueueLogin conn loginName).users user = _
          rw [result, new, Registry.modifyUser_self]
          simp [Registry.newImUser]
        refine ⟨same.symm, by rw [changed]; rfl, fun target => ?_, named⟩
        rw [changed, ImUser.addUnValidateMsgConn, Lib.treeSet_mem_insert, eq_comm]
        simp [ImUser.new]
      · rename_i different
        left
        have old : user ≠ reg.nextUser := Nat.ne_of_lt (shape.nameEntry name user entry).1
        have unchanged : after = reg.users user := by
          show (reg.enqueueLogin conn loginName).users user = _
          rw [result, Registry.modifyUser_other _ _ _ old]
          exact Function.update_of_ne old _ _
        refine ⟨entry, by rw [unchanged], fun target => ?_⟩
        rw [unchanged]
        have otherName : name ≠ loginName := Ne.symm different
        tauto

/-- The user that takes a connection over either has the answered id, or has no
id yet and no other user has it. -/
def TakesId (reg : Registry) (user : UserPtr) (userId : UserId) : Prop :=
  reg.imUserMap[userId]? = some user ∨
    (reg.users user).userId = 0 ∧ reg.imUserMap[userId]? = none

theorem mergeUser (shape : Shape none reg) {loginName : String} {imUser : UserPtr}
    (named : reg.imUserMapByName[loginName]? = some imUser) (conn : ConnPtr) {userId : UserId}
    (stable : reg.imUserMap[userId]? = none → (reg.users imUser).userId = 0) {user : UserPtr}
    {next : Registry}
    (merged : reg.mergeUser imUser conn loginName userId = (user, next)) :
    Shape none next ∧ next.imUserMapByName[(next.users user).loginName]? = some user ∧
      TakesId next user userId := by
  unfold Registry.mergeUser at merged
  cases found : reg.getImUserById userId with
  | none =>
      rw [found] at merged
      cases merged
      have sameName := (shape.nameEntry loginName imUser named).2.1
      exact ⟨shape, sameName ▸ named, .inr ⟨stable found, found⟩⟩
  | some target =>
      rw [found] at merged
      simp only [Prod.mk.injEq] at merged
      obtain ⟨rfl, rfl⟩ := merged
      have targetNamed := shape.named_of_id found
      have moved := shape.moveWaiting named targetNamed conn
      have keep := reg.moveWaiting_users target conn imUser
      split
      · rename_i empty
        -- The deleted user is not in the id map: a user there has a connection.
        have unidentified : ∀ (id : UserId) (other : UserPtr),
            reg.imUserMap[id]? = some other → other ≠ imUser := by
          rintro id other entry rfl
          have occupied := moved.occupied id other entry (by simp)
          rw [empty] at occupied
          cases occupied
        have different : target ≠ imUser := unidentified userId target found
        have dropped : Drops imUser (reg.moveWaiting imUser target conn)
            (((reg.moveWaiting imUser target conn).removeImUserByLoginName
              loginName).deleteImUser imUser) := by
          refine ⟨rfl, rfl, fun other distinct => ?_, moved.erase_name named, ?_, ?_⟩
          · exact Registry.modifyUser_other _ imUser _ distinct
          · exact fun id other => ⟨fun entry => ⟨entry, unidentified id other entry⟩, And.left⟩
          · unfold Registry.deleteImUser
            rw [Registry.modifyUser_self]
            exact empty
        refine ⟨(moved.weaken _).drops dropped, ?_, .inl found⟩
        rw [dropped.users target different, congrArg ImUser.loginName (keep target)]
        exact (dropped.names _ target).mpr ⟨targetNamed, different⟩
      · refine ⟨moved, ?_, .inl found⟩
        rw [congrArg ImUser.loginName (keep target)]
        exact targetNamed

/-- The user gets the answered id, and may still be without connections. -/
theorem identifyUser (shape : Shape none reg) {name : String} {user : UserPtr}
    (named : reg.imUserMapByName[name]? = some user) {userInfo : UserInfo}
    (takes : TakesId reg user userInfo.userId) (identified : userInfo.userId ≠ 0) :
    Shape (some user) (reg.identifyUser user userInfo) := by
  unfold Registry.identifyUser Registry.addImUserById
  rcases takes with found | ⟨zero, free⟩
  · obtain ⟨_, sameId, validate, _⟩ := shape.idEntry _ user found
    split
    · rename_i absent
      exact absurd (found.symm.trans absent) (by simp)
    · exact (shape.weaken _).modifyWaiting named sameId.symm rfl validate.symm rfl rfl
  · split
    · have empty := shape.anonymous name user named zero
      have below := (shape.nameEntry name user named).1
      have self : ∀ other, other = user ∨
          (reg.modifyUser user fun value =>
            { value with
              userId := userInfo.userId
              nickName := userInfo.userNickName
              validate := true }).users other = reg.users other := by
        intro other
        by_cases same : other = user
        · exact .inl same
        · exact .inr (Registry.modifyUser_other reg user _ same)
      have ids : ∀ (id : UserId) (other : UserPtr),
          (reg.imUserMap.insert userInfo.userId user)[id]? = some other →
            userInfo.userId = id ∧ other = user ∨
              other ≠ user ∧ reg.imUserMap[id]? = some other := by
        intro id other found
        rw [Lib.getElem?_insert_ite] at found
        split at found
        · rename_i same
          exact .inl ⟨same, (Option.some.inj found).symm⟩
        · refine .inr ⟨?_, found⟩
          rintro rfl
          have entry := shape.idEntry id other found
          exact entry.1 (entry.2.1.symm.trans zero)
      refine ⟨?_, ?_, ?_, ?_, ?_, ?_, ?_, shape.unopened⟩
      · intro probe other found
        rcases self other with rfl | same
        · simp only [Registry.modifyUser_self]
          exact shape.nameEntry probe other found
        · simp only [same]
          exact shape.nameEntry probe other found
      · intro id other found
        rcases ids id other found with ⟨rfl, rfl⟩ | ⟨different, entry⟩
        · simp only [Registry.modifyUser_self]
          refine ⟨identified, trivial, trivial, ?_⟩
          rw [(shape.nameEntry name other named).2.1]
          exact named
        · simp only [(self other).resolve_left different]
          exact shape.idEntry id other entry
      · intro probe other found
        rcases self other with rfl | same
        · simp only [Registry.modifyUser_self]
          intro _
          rw [Lib.getElem?_insert_ite, if_pos rfl]
        · simp only [same]
          intro nonzero
          have own := shape.identified probe other found nonzero
          rw [Lib.getElem?_insert_ite, if_neg]
          · exact own
          · intro equal
            rw [← equal] at own
            exact absurd (free.symm.trans own) (by simp)
      · intro probe other found
        rcases self other with rfl | same
        · simp only [Registry.modifyUser_self]
          exact fun _ => empty
        · simp only [same]
          exact shape.anonymous probe other found
      · intro probe other handle conn found
        rcases self other with rfl | same
        · simp only [Registry.modifyUser_self]
          intro listed
          rw [ImUser.isMsgConnEmpty, Lib.isEmpty_iff_getElem?] at empty
          exact absurd ((empty handle).symm.trans listed) (by simp)
        · simp only [same]
          exact shape.registered probe other handle conn found
      · intro id other found different
        rcases ids id other found with ⟨_, rfl⟩ | ⟨distinct, entry⟩
        · exact absurd rfl different
        · simp only [(self other).resolve_left distinct]
          exact shape.occupied id other entry (by simp)
      · intro other handle conn found
        rcases self other with rfl | same
        · simp only [Registry.modifyUser_self] at found ⊢
          exact shape.housed other handle conn found
        · simp only [same] at found ⊢
          exact shape.housed other handle conn found
    · rename_i other found
      exact absurd (free.symm.trans found) (by simp)

/-- A named user takes a connection over that carries its user id. -/
theorem validateMsgConn {name : String} {user : UserPtr} (shape : Shape (some user) reg)
    (named : reg.imUserMapByName[name]? = some user) {handle : Handle} {conn : ConnPtr}
    (sameHandle : (reg.conns conn).handle = handle)
    (sameId : (reg.conns conn).userId = (reg.users user).userId)
    (identified : (reg.users user).userId ≠ 0) :
    Shape none (reg.modifyUser user fun value => value.validateMsgConn handle conn) := by
  refine shape.modifyUser named rfl rfl rfl rfl ?_ (fun zero => absurd zero identified) ?_
  · intro other target found
    simp only [ImUser.validateMsgConn, ImUser.delUnValidateMsgConn, ImUser.addMsgConn,
      Lib.getElem?_insert_ite] at found
    split at found
    · rename_i same
      cases found
      exact ⟨sameId, sameHandle.trans same⟩
    · exact shape.registered name user other target named found
  · intro id other found _
    by_cases same : other = user
    · subst same
      rw [Registry.modifyUser_self]
      simp [ImUser.isMsgConnEmpty, ImUser.validateMsgConn, ImUser.delUnValidateMsgConn,
        ImUser.addMsgConn]
    · rw [Registry.modifyUser_other reg user _ same]
      exact shape.occupied id other found fun equal => same (Option.some.inj equal)

/-- The user of an accepted login is registered under its name and the answered id. -/
theorem login (shape : Shape none reg) {imUser : UserPtr} (conn : ConnPtr)
    {rsp : ValidateRsp} (named : reg.imUserMapByName[rsp.userName]? = some imUser)
    (nonzero : rsp.userInfo.userId ≠ 0)
    (stable : StableId reg rsp.userName rsp.userInfo.userId) :
    let identified := reg.identified conn imUser rsp
    let user := reg.loginUser conn imUser rsp
    Shape (some user) identified ∧
      identified.imUserMapByName[(identified.users user).loginName]? = some user ∧
      (identified.users user).userId = rsp.userInfo.userId ∧
      identified.imUserMap[rsp.userInfo.userId]? = some user := by
  intro identified user
  obtain ⟨merged, mergedNamed, takes⟩ :=
    shape.mergeUser named conn (stable imUser named) (Prod.eta _).symm
  have shaped : Shape (some user) identified := merged.identifyUser mergedNamed takes nonzero
  obtain ⟨_, _, loginName, names, userId⟩ :=
    (reg.mergeUser imUser conn rsp.userName rsp.userInfo.userId).2.identifyUser_users user
      rsp.userInfo user
  have identifiedNamed :
      identified.imUserMapByName[(identified.users user).loginName]? = some user := by
    show ((reg.mergeUser imUser conn rsp.userName rsp.userInfo.userId).2.identifyUser user
      rsp.userInfo).imUserMapByName[_]? = some user
    rw [names, show (identified.users user).loginName = _ from loginName]
    exact mergedNamed
  have sameId : (identified.users user).userId = rsp.userInfo.userId := userId.trans (if_pos rfl)
  refine ⟨shaped, identifiedNamed, sameId, ?_⟩
  rw [← sameId]
  exact shaped.identified _ user identifiedNamed (sameId ▸ nonzero)

theorem acceptLogin (shape : Shape none reg) (authorized : Authorized reg) {imUser : UserPtr}
    {conn : ConnPtr} {rsp : ValidateRsp} (routeServ : Bool) (now : Nat)
    (awaited : reg.awaited rsp.userName rsp.attach = some (imUser, conn))
    (nonzero : rsp.userInfo.userId ≠ 0)
    (stable : StableId reg rsp.userName rsp.userInfo.userId) :
    Shape none (reg.acceptLogin imUser conn rsp routeServ now).1 := by
  obtain ⟨named, _, member, _, notOpen⟩ := reg.awaited_eq_some awaited
  obtain ⟨shaped, identifiedNamed, sameId, _⟩ := shape.login conn named nonzero stable
  have kick := reg.duplicateKicked_untouched conn imUser rsp
  have kickedShape := shaped.untouched kick
  have kickedAuthorized : Authorized (reg.duplicateKicked conn imUser rsp) :=
    ((authorized.mergeUser (authorized.waiting imUser conn member) _ _).identifyUser _ _).untouched
      kick
  have unlisted : ¬(reg.duplicateKicked conn imUser rsp).Listed conn := by
    intro listed
    have opened := (kickedAuthorized.listed conn listed).2
    rw [kick.isOpen, Registry.identified_conns, notOpen] at opened
    cases opened
  have opened : Shape (some (reg.loginUser conn imUser rsp))
      ((reg.duplicateKicked conn imUser rsp).openConn conn rsp.userInfo.userId) :=
    kickedShape.setConn unlisted _ (fun closed => nomatch closed)
  rw [Registry.acceptLogin_registry]
  have users : ((reg.duplicateKicked conn imUser rsp).openConn conn
      rsp.userInfo.userId).users = (reg.identified conn imUser rsp).users := kick.users
  have names : ((reg.duplicateKicked conn imUser rsp).openConn conn
      rsp.userInfo.userId).imUserMapByName =
        (reg.identified conn imUser rsp).imUserMapByName := kick.imUserMapByName
  rw [← names] at identifiedNamed
  refine opened.validateMsgConn identifiedNamed ?_ ?_ ?_
  · simp [Registry.openConn, kick.handle, Registry.identified_conns]
  · rw [users, sameId, Registry.openConn_userId]
  · rw [users, sameId]
    exact nonzero

theorem accept (shape : Shape none reg) (authorized : Authorized reg) {conn : ConnPtr}
    (fresh : conn ∉ reg.accepted) (handle : Handle) (clientType : BitVec 32) (now : Nat) :
    Shape none (reg.accept conn handle clientType now) := by
  have unlisted : ¬reg.Listed conn := fun listed => fresh (authorized.listed conn listed).1
  have set := shape.setConn unlisted (MsgConn.onConnected handle clientType now) fun _ => rfl
  exact ⟨set.nameEntry, set.idEntry, set.identified, set.anonymous, set.registered,
    set.occupied, set.housed, set.unopened⟩

end Shape

/-- Every accepted login answers such a user id. -/
def StableAnswers (server : Server) : Event → Prop
  | .validateRsp _ rsp _ _ =>
      rsp.resultCode = 0 → StableId server.reg rsp.userName rsp.userInfo.userId
  | _ => True

theorem shape_step {server : Server} {event : Event} (shape : Shape none server.reg)
    (authorized : Authorized server.reg) (admissible : Admissible server event)
    (names : NamesUsers event) (stable : StableAnswers server event) : Shape none (server.step event).reg := by
  have transition := step_transition admissible
  generalize server.step event = next at transition ⊢
  cases transition with
  | accept => exact shape.accept authorized admissible.1 _ _ _
  | quiet untouched _ => exact shape.untouched untouched
  | closed _ untouched _ => exact (shape.untouched untouched).close _
  | login starts unnamed =>
      rename_i conn pdu given userName password clientType onlineStatus seqNum
      have named : Shape none (server.reg.nameConn conn userName clientType onlineStatus) :=
        shape.modifyConn conn _ rfl rfl rfl
      exact named.enqueueLogin conn userName
  | acceptLogin awaited success =>
      rename_i routeServ now _ _
      exact shape.acceptLogin authorized routeServ now awaited (names success) (stable success)
  | loginConnect | loginConfirm | loginClose => exact shape

end AChat.MsgServer
