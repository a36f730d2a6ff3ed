import AChat.DbProxy.PoolPrograms

/-!
Owns what the operations of a program do to the log of its pooled connections, the rules by which
a program is gone through, and for each program that keeps the connections the lemma that it does,
whatever it has borrowed.

Does not own the programs that break the discipline.
-/

namespace AChat.DbProxy

open Lib (Prog LeaseLog)
open Lib.LeaseLog

namespace Pooled

/-! ### The log -/

abbrev Log := LeaseLog Branch

/-- What an operation that gets no connection does to the log. -/
def PoolOp.record (log : Log) : PoolOp → Log
  | .relDBConn conn | .relCacheConn conn => .released conn :: log
  | .takes branch => .noted branch :: log
  | .getDBConn _ | .getCacheConn _ | .time | .unset | .uploadByteFile _ | .downloadByteFile _ => log
  | .executeQuery conn _ | .executeUpdate conn _ | .getInsertId conn | .stmtInit conn _
  | .stmtExecuteUpdate conn _ | .stmtGetInsertId conn | .stmtDelete conn | .hget conn _ _
  | .hset conn _ _ _ | .hdel conn _ _ | .hgetAll conn _ | .hmset conn _ _ | .hincrBy conn _ _ _
  | .incrBy conn _ _ | .set conn _ _ | .isExists conn _ => .used conn :: log

/-- A connection is got, or the pool has none to give. -/
def got (log : Log) (reply : Option Conn) (later : Log) : Prop :=
  match reply with
  | none => later = log
  | some conn => conn = log.length ∧ later = .acquired conn :: log

/-- What an operation with a reply does to the log. -/
def acts (log : Log) : (op : PoolOp) → op.Reply → Log → Prop
  | .getDBConn _, reply, later => got log reply later
  | .getCacheConn _, reply, later => got log reply later
  | op, _, later => later = op.record log

/-- The branches in which a connection is leaked, or used when it was given back. -/
def Branch.Breaks : Branch → Prop
  | .removesRepeats count => count ≠ 1
  | .copiesCounts => True

theorem acts_cases {log later : Log} {op : PoolOp} {reply : op.Reply}
    (acted : acts log op reply later) :
    later = .acquired log.length :: log ∨ later = op.record log := by
  have gotCases : ∀ reply, got log reply later →
      later = .acquired log.length :: log ∨ later = log := by
    intro reply acted
    cases reply with
    | none => exact .inr acted
    | some conn =>
        obtain ⟨rfl, appended⟩ := acted
        exact .inl appended
  cases op
  case getDBConn pool => exact gotCases reply acted
  case getCacheConn pool => exact gotCases reply acted
  all_goals exact .inr acted

theorem record_cases (log : Log) (op : PoolOp) :
    op.record log = log ∨ (∃ conn, op.record log = .released conn :: log) ∨
      (∃ conn, op.record log = .used conn :: log) ∨
      ∃ branch, op.record log = .noted branch :: log := by
  cases op
  all_goals
    first
      | exact .inl rfl
      | exact .inr (.inl ⟨_, rfl⟩)
      | exact .inr (.inr (.inl ⟨_, rfl⟩))
      | exact .inr (.inr (.inr ⟨_, rfl⟩))

theorem records : Records acts where
  isSuffix := by
    intro log op reply later acted
    rcases acts_cases acted with rfl | rfl
    · exact List.suffix_cons _ _
    · rcases record_cases log op with same | ⟨conn, same⟩ | ⟨conn, same⟩ | ⟨branch, same⟩
      · exact ⟨[], same.symm⟩
      all_goals
        rw [same]
        exact List.suffix_cons _ _
  numbered := by
    intro log op reply later acted numbered
    rcases acts_cases acted with rfl | rfl
    · exact ⟨rfl, numbered⟩
    · rcases record_cases log op with same | ⟨conn, same⟩ | ⟨conn, same⟩ | ⟨branch, same⟩
      all_goals
        rw [same]
        exact numbered

/-! ### Rules -/

/-- Every path through the program keeps the connections, or it may take a branch that breaks the
discipline. -/
abbrev Keeps {α : Type} (may : Prop) (borrowed : List Conn) (prog : PoolProg α) : Prop :=
  Obeys Branch.Breaks acts may borrowed prog

/-- An operation that gets no connection, gives none back, and uses only a borrowed one. -/
def PoolOp.Quiet (borrowed : List Conn) : PoolOp → Prop
  | .getDBConn _ | .relDBConn _ | .getCacheConn _ | .relCacheConn _ | .takes _ => False
  | .time | .unset | .uploadByteFile _ | .downloadByteFile _ => True
  | .executeQuery conn _ | .executeUpdate conn _ | .getInsertId conn | .stmtInit conn _
  | .stmtExecuteUpdate conn _ | .stmtGetInsertId conn | .stmtDelete conn | .hget conn _ _
  | .hset conn _ _ _ | .hdel conn _ _ | .hgetAll conn _ | .hmset conn _ _ | .hincrBy conn _ _ _
  | .incrBy conn _ _ | .set conn _ _ | .isExists conn _ => conn ∈ borrowed

section Rules

variable {may : Prop} {borrowed : List Conn} {α β σ : Type}

theorem keeps_pure (value : α) : Keeps may borrowed (pure value) :=
  Obeys.done value

theorem keeps_bind {prog : PoolProg α} {next : α → PoolProg β} (first : Keeps may borrowed prog)
    (rest : ∀ value, Keeps may borrowed (next value)) : Keeps may borrowed (prog >>= next) :=
  Obeys.bind records first rest

/-- Nothing happens after the program but the return. -/
theorem keeps_return {prog : PoolProg α} {next : α → β} (keeps : Keeps may borrowed prog) :
    Keeps may borrowed (do let value ← prog; return next value) :=
  keeps_bind keeps fun _ => keeps_pure _

theorem keeps_ite {condition : Prop} [Decidable condition] {yes no : PoolProg α}
    (first : Keeps may borrowed yes) (second : Keeps may borrowed no) :
    Keeps may borrowed (if condition then yes else no) := by
  split
  · exact first
  · exact second

theorem quiet_kept {op : PoolOp} {reply : op.Reply} {log later : Log}
    (quiet : op.Quiet borrowed) (still : borrowed ⊆ held log) (acted : acts log op reply later) :
    Kept Branch.Breaks log later := by
  cases op
  all_goals
    first
      | exact quiet.elim
      | (cases acted; exact Kept.refl _)
      | (cases acted; exact Kept.used (still quiet))

theorem keeps_request {op : PoolOp} (quiet : op.Quiet borrowed) :
    Keeps may borrowed (request op) :=
  Obeys.call records (fun _ _ _ still acted => quiet_kept quiet still acted) Obeys.done

theorem keeps_query {conn : Conn} {sql : String} (lent : conn ∈ borrowed) :
    Keeps may borrowed (query conn sql) :=
  keeps_request lent

theorem keeps_update {conn : Conn} {sql : String} (lent : conn ∈ borrowed) :
    Keeps may borrowed (update conn sql) :=
  keeps_request lent

theorem keeps_hget {conn : Conn} {key field : String} (lent : conn ∈ borrowed) :
    Keeps may borrowed (hget conn key field) :=
  keeps_request lent

theorem keeps_hgetAll {conn : Conn} {key : String} (lent : conn ∈ borrowed) :
    Keeps may borrowed (hgetAll conn key) :=
  keeps_request lent

theorem keeps_foldlM {body : σ → α → PoolProg σ}
    (each : ∀ state item, Keeps may borrowed (body state item)) (items : List α) (state : σ) :
    Keeps may borrowed (items.foldlM body state) :=
  Obeys.foldlM records each items state

theorem keeps_forEach {items : List α} {each : α → PoolProg β}
    (keeps : ∀ item, Keeps may borrowed (each item)) : Keeps may borrowed (forEach items each) :=
  keeps_foldlM (fun _ item => keeps_return (keeps item)) items _

/-- A path through a body between the acquisition of its connection and the release. -/
theorem outcome_lent (give : Conn → PoolOp)
    (gives : ∀ {conn log reply later}, acts log (give conn) reply later →
      later = .released conn :: log)
    {body : Conn → PoolProg α} (each : ∀ conn, Keeps may (conn :: borrowed) (body conn))
    {log later : Log} {value : Option α} (numbered : Numbered log) (still : borrowed ⊆ held log)
    (runs : Prog.Runs acts
      (do let value ← body log.length; let _ ← request (give log.length); return some value)
      (.acquired log.length :: log) value later) :
    Outcome Branch.Breaks may log later := by
  obtain ⟨result, middle, first, rest⟩ := Prog.runs_bind.mp runs
  obtain ⟨_, _, released, _, rfl⟩ := Prog.runs_perform_bind.mp rest
  rw [gives released]
  have acquired : Numbered (.acquired log.length :: log : Log) := ⟨rfl, numbered⟩
  have borrows : log.length :: borrowed ⊆ held (.acquired log.length :: log : Log) :=
    List.cons_subset_cons _ still
  exact (each log.length _ result middle acquired borrows first).lent

theorem keeps_withDBConn {pool : String} {body : Conn → PoolProg α}
    (each : ∀ conn, Keeps may (conn :: borrowed) (body conn)) :
    Keeps may borrowed (withDBConn pool body) := by
  intro log value later numbered still runs
  obtain ⟨reply, between, acted, rest⟩ := Prog.runs_perform_bind.mp runs
  cases reply with
  | none =>
      obtain ⟨_, rfl⟩ := rest
      obtain rfl : later = log := acted
      exact .kept (Kept.refl _)
  | some conn =>
      obtain ⟨rfl, rfl⟩ := acted
      exact outcome_lent .relDBConn id each numbered still rest

theorem keeps_withCacheConn {pool : String} {body : Conn → PoolProg α}
    (each : ∀ conn, Keeps may (conn :: borrowed) (body conn)) :
    Keeps may borrowed (withCacheConn pool body) := by
  intro log value later numbered still runs
  obtain ⟨reply, between, acted, rest⟩ := Prog.runs_perform_bind.mp runs
  cases reply with
  | none =>
      obtain ⟨_, rfl⟩ := rest
      obtain rfl : later = log := acted
      exact .kept (Kept.refl _)
  | some conn =>
      obtain ⟨rfl, rfl⟩ := acted
      exact outcome_lent .relCacheConn id each numbered still rest

end Rules

/-! ### The programs that keep the connections -/

section Programs

variable {may : Prop} {borrowed : List Conn}

namespace AudioModel

theorem keeps_readAudioContent (costTime size : Nat) (path : String) (msg : MsgInfo) :
    Keeps may borrowed (readAudioContent costTime size path msg) :=
  keeps_ite (keeps_pure msg) (keeps_return (keeps_request trivial))

theorem keeps_readAudio {conn : Conn} (lent : conn ∈ borrowed) (lsMsg : List MsgInfo)
    (msg : MsgInfo) : Keeps may borrowed (readAudio conn lsMsg msg) := by
  refine keeps_ite (keeps_bind (keeps_query lent) fun rows => ?_) (keeps_pure _)
  cases rows with
  | none => exact keeps_pure _
  | some rows =>
      exact keeps_return (keeps_foldlM (fun msg row => keeps_readAudioContent _ _ _ msg) rows msg)

theorem keeps_readAudios (lsMsg : List MsgInfo) : Keeps may borrowed (readAudios lsMsg) := by
  refine keeps_ite (keeps_pure _) (keeps_return (keeps_withDBConn fun conn => ?_))
  exact keeps_foldlM (keeps_readAudio List.mem_cons_self) lsMsg []

theorem keeps_insertAudio {conn : Conn} (lent : conn ∈ borrowed) (fromId toId : Id)
    (path : String) (size duration createTime : Nat) :
    Keeps may borrowed (insertAudio conn fromId toId path size duration createTime) :=
  keeps_bind (keeps_update lent) fun _ =>
    keeps_ite (keeps_return (keeps_request lent)) (keeps_pure _)

theorem keeps_saveAudioInfo (fromId toId createTime : Nat) (audioData : Content) :
    Keeps may borrowed (saveAudioInfo fromId toId createTime audioData) := by
  refine keeps_bind (keeps_request trivial) fun path => keeps_ite (keeps_pure _) ?_
  refine keeps_return (keeps_withDBConn fun conn => ?_)
  exact keeps_insertAudio List.mem_cons_self _ _ _ _ _ _

end AudioModel

namespace SessionModel

theorem keeps_getSessionId (userId peerId sessionType : Nat) (isAll : Bool) :
    Keeps may borrowed (getSessionId userId peerId sessionType isAll) :=
  keeps_return (keeps_withDBConn fun _ => keeps_query List.mem_cons_self)

theorem keeps_removeSession (sessionId : Id) : Keeps may borrowed (removeSession sessionId) := by
  refine keeps_return (keeps_withDBConn fun conn => ?_)
  exact keeps_bind (keeps_request trivial) fun _ => keeps_update List.mem_cons_self

end SessionModel

theorem keeps_copyCounts {conn : Conn} (lent : conn ∈ borrowed) (userId groupId : Id) :
    Keeps may borrowed (copyCounts conn userId groupId) := by
  refine keeps_bind (keeps_hgetAll lent) fun counts => ?_
  cases counts with
  | none => exact keeps_pure _
  | some counts => exact keeps_return (keeps_request lent)

theorem UserModel.keeps_clearUserCounter (userId peerId sessionType : Nat) :
    Keeps may borrowed (clearUserCounter userId peerId sessionType) := by
  refine keeps_ite ?_ (keeps_ite ?_ (keeps_pure _))
  · exact keeps_return (keeps_withCacheConn fun conn => keeps_request List.mem_cons_self)
  · exact keeps_return (keeps_withCacheConn fun conn => keeps_copyCounts List.mem_cons_self _ _)

namespace GroupModel

theorem keeps_getGroupUser (groupId : Id) : Keeps may borrowed (getGroupUser groupId) :=
  keeps_return (keeps_withCacheConn fun _ => keeps_hgetAll List.mem_cons_self)

theorem keeps_isInGroup (userId groupId : Id) : Keeps may borrowed (isInGroup userId groupId) :=
  keeps_return (keeps_withCacheConn fun _ => keeps_hget List.mem_cons_self)

theorem keeps_getUserJoinTime (groupId userId : Id) :
    Keeps may borrowed (getUserJoinTime groupId userId) :=
  keeps_return (keeps_withCacheConn fun _ => keeps_hget List.mem_cons_self)

theorem keeps_isValidateGroupId (groupId : Id) :
    Keeps may borrowed (isValidateGroupId groupId) :=
  keeps_return (keeps_withCacheConn fun _ => keeps_request List.mem_cons_self)

theorem keeps_setPush (userId groupId type status : Nat) :
    Keeps may borrowed (setPush userId groupId type status) := by
  refine keeps_bind (keeps_isInGroup userId groupId) fun _ => keeps_ite ?_ (keeps_pure _)
  exact keeps_return (keeps_withCacheConn fun _ => keeps_request List.mem_cons_self)

theorem keeps_getPush (groupId : Id) (lsUser : List Id) :
    Keeps may borrowed (getPush groupId lsUser) :=
  keeps_ite (keeps_pure _)
    (keeps_return (keeps_withCacheConn fun _ => keeps_hgetAll List.mem_cons_self))

theorem keeps_updateGroupChat (groupId : Id) : Keeps may borrowed (updateGroupChat groupId) := by
  refine keeps_return (keeps_withDBConn fun conn => ?_)
  exact keeps_bind (keeps_request trivial) fun _ => keeps_update List.mem_cons_self

theorem keeps_incGroupVersion (groupId : Id) : Keeps may borrowed (incGroupVersion groupId) :=
  keeps_return (keeps_withDBConn fun _ => keeps_update List.mem_cons_self)

theorem keeps_hasModifyPermission (userId groupId modifyType : Id) :
    Keeps may borrowed (hasModifyPermission userId groupId modifyType) :=
  keeps_ite (keeps_pure _)
    (keeps_return (keeps_withDBConn fun _ => keeps_query List.mem_cons_self))

theorem keeps_getUserGroupIds (userId limited : Nat) :
    Keeps may borrowed (getUserGroupIds userId limited) :=
  keeps_return (keeps_withDBConn fun _ => keeps_query List.mem_cons_self)

theorem keeps_getGroupVersion (lsGroupId : List Id) (groupType : Nat) :
    Keeps may borrowed (getGroupVersion lsGroupId groupType) :=
  keeps_ite (keeps_pure _)
    (keeps_return (keeps_withDBConn fun _ => keeps_query List.mem_cons_self))

theorem keeps_getUserGroup (userId groupType : Nat) :
    Keeps may borrowed (getUserGroup userId groupType) :=
  keeps_bind (keeps_getUserGroupIds userId 0) fun lsGroupId =>
    keeps_ite (keeps_pure _) (keeps_getGroupVersion lsGroupId groupType)

theorem keeps_fillGroupMember (lsGroups : List GroupInfo) :
    Keeps may borrowed (fillGroupMember lsGroups) := by
  refine keeps_foldlM (fun filled group => ?_) lsGroups []
  exact keeps_return (keeps_getGroupUser group.groupId)

theorem keeps_getGroupInfo (versions : List (Id × Nat)) (lsGroupInfo : List GroupInfo) :
    Keeps may borrowed (getGroupInfo versions lsGroupInfo) := by
  refine keeps_ite (keeps_pure _) (keeps_bind
    (keeps_withDBConn fun _ => keeps_query List.mem_cons_self) fun rows => ?_)
  cases rows with
  | none => exact keeps_pure _
  | some rows => exact keeps_ite (keeps_pure _) (keeps_fillGroupMember _)

theorem keeps_insertGroup {conn : Conn} (lent : conn ∈ borrowed) (userId : Id)
    (groupName groupAvatar : String) (groupType memberCnt : Nat) :
    Keeps may borrowed (insertGroup conn userId groupName groupAvatar groupType memberCnt) := by
  refine keeps_bind (keeps_request lent) fun _ => keeps_ite ?_ (keeps_pure _)
  refine keeps_bind (keeps_request trivial) fun created => ?_
  refine keeps_bind (keeps_request lent) fun _ => keeps_ite ?_ (keeps_pure _)
  exact keeps_return (keeps_request lent)

theorem keeps_insertNewGroup (userId : Id) (groupName groupAvatar : String)
    (groupType memberCnt : Nat) :
    Keeps may borrowed (insertNewGroup userId groupName groupAvatar groupType memberCnt) := by
  refine keeps_return (keeps_withDBConn fun conn => ?_)
  exact keeps_bind (keeps_insertGroup List.mem_cons_self _ _ _ _ _) fun _ =>
    keeps_return (keeps_request List.mem_cons_self)

theorem keeps_selectHasUser {conn : Conn} (lent : conn ∈ borrowed) (groupId : Id)
    (users : List Id) : Keeps may borrowed (selectHasUser conn groupId users) :=
  keeps_bind (keeps_request trivial) fun _ => keeps_return (keeps_query lent)

theorem keeps_reactivateUsers {conn : Conn} (lent : conn ∈ borrowed) (groupId created : Nat)
    (hasUser : List Id) : Keeps may borrowed (reactivateUsers conn groupId created hasUser) :=
  keeps_ite (keeps_pure _) (keeps_update lent)

theorem keeps_insertMember {conn : Conn} (lent : conn ∈ borrowed) (groupId created : Nat)
    (hasUser : List Id) (state : List Id × Nat) (userId : Id) :
    Keeps may borrowed (insertMember conn groupId created hasUser state userId) := by
  refine keeps_ite (keeps_pure _) (keeps_bind (keeps_request lent) fun _ => keeps_ite ?_ ?_)
  · exact keeps_bind (keeps_request lent) fun _ =>
      keeps_return (keeps_request lent)
  · exact keeps_return (keeps_request lent)

theorem keeps_raiseUserCnt {conn : Conn} (lent : conn ∈ borrowed) (groupId incMemberCnt : Nat) :
    Keeps may borrowed (raiseUserCnt conn groupId incMemberCnt) :=
  keeps_ite (keeps_pure _) (keeps_update lent)

theorem keeps_storeMembers {conn cacheConn : Conn} (lent : conn ∈ borrowed)
    (cacheLent : cacheConn ∈ borrowed) (groupId created : Nat) (hasUser users : List Id) :
    Keeps may borrowed (storeMembers conn cacheConn groupId created hasUser users) := by
  refine keeps_bind (keeps_reactivateUsers lent _ _ _) fun _ => ?_
  refine keeps_bind (keeps_foldlM (keeps_insertMember lent _ _ _) users _) fun inserted => ?_
  refine keeps_bind (keeps_raiseUserCnt lent _ _) fun _ => ?_
  exact keeps_return (keeps_forEach fun _ => keeps_request cacheLent)

theorem keeps_insertNewMember (groupId : Id) (users : List Id) :
    Keeps may borrowed (insertNewMember groupId users) := by
  refine keeps_ite (keeps_pure _) (keeps_bind
    (keeps_withDBConn fun _ => keeps_selectHasUser List.mem_cons_self _ _) fun present => ?_)
  cases present with
  | none => exact keeps_pure _
  | some present =>
      refine keeps_return (keeps_withDBConn fun conn => keeps_withCacheConn fun cacheConn => ?_)
      exact keeps_storeMembers (List.mem_cons_of_mem _ List.mem_cons_self) List.mem_cons_self
        _ _ _ _

theorem keeps_deactivateMembers {conn cacheConn : Conn} (lent : conn ∈ borrowed)
    (cacheLent : cacheConn ∈ borrowed) (groupId : Id) (users : List Id) :
    Keeps may borrowed (deactivateMembers conn cacheConn groupId users) :=
  keeps_bind (keeps_update lent) fun _ => keeps_forEach fun _ => keeps_request cacheLent

theorem keeps_removeMember (groupId : Id) (users : List Id) :
    Keeps may borrowed (removeMember groupId users) := by
  refine keeps_ite (keeps_pure _) (keeps_bind
    (keeps_withDBConn fun conn => keeps_withCacheConn fun cacheConn => ?_) fun removed => ?_)
  · exact keeps_deactivateMembers (List.mem_cons_of_mem _ List.mem_cons_self) List.mem_cons_self
      _ _
  · exact keeps_ite (keeps_return (keeps_getGroupUser groupId)) (keeps_pure _)

theorem keeps_disableGroup {conn : Conn} (lent : conn ∈ borrowed) (userId groupId : Id) :
    Keeps may borrowed (disableGroup conn userId groupId) := by
  refine keeps_bind (keeps_query lent) fun rows => ?_
  cases rows with
  | none => exact keeps_pure _
  | some rows =>
      exact keeps_bind (keeps_request trivial) fun _ =>
        keeps_ite (keeps_update lent) (keeps_pure _)

theorem keeps_disableAndList {conn : Conn} (lent : conn ∈ borrowed) (userId groupId : Id) :
    Keeps may borrowed (disableAndList conn userId groupId) :=
  keeps_bind (keeps_disableGroup lent userId groupId) fun _ =>
    keeps_ite (keeps_return (keeps_query lent)) (keeps_pure _)

theorem keeps_removeGroup (userId groupId : Id) :
    Keeps may borrowed (removeGroup userId groupId) := by
  refine keeps_bind (keeps_withDBConn fun _ =>
    keeps_disableAndList List.mem_cons_self userId groupId) fun users => ?_
  cases users.join with
  | none => exact keeps_pure _
  | some users => exact keeps_removeMember groupId users

theorem keeps_removeSession (groupId : Id) (users : List Id) :
    Keeps may borrowed (removeSession groupId users) :=
  keeps_forEach fun userId =>
    keeps_bind (SessionModel.keeps_getSessionId userId groupId sessionTypeGroup false)
      SessionModel.keeps_removeSession

theorem keeps_clearFields {conn : Conn} (lent : conn ∈ borrowed) (groupId : Id) :
    Keeps may borrowed (clearFields conn groupId) := by
  refine keeps_bind (keeps_hgetAll lent) fun fields => ?_
  cases fields with
  | none => exact keeps_pure _
  | some fields => exact keeps_forEach fun _ => keeps_request lent

theorem keeps_clearGroupMember (groupId : Id) :
    Keeps may borrowed (clearGroupMember groupId) := by
  refine keeps_bind (keeps_withDBConn fun _ => keeps_update List.mem_cons_self) fun _ => ?_
  exact keeps_return (keeps_withCacheConn fun _ => keeps_clearFields List.mem_cons_self groupId)

end GroupModel

namespace GroupMessageModel

theorem keeps_resetMsgId (groupId : Id) : Keeps may borrowed (resetMsgId groupId) :=
  keeps_return (keeps_withCacheConn fun _ => keeps_request List.mem_cons_self)

theorem keeps_getMsgId (groupId : Id) : Keeps may borrowed (getMsgId groupId) :=
  keeps_return (keeps_withCacheConn fun _ => keeps_request List.mem_cons_self)

theorem keeps_incMessageCount (userId groupId : Id) :
    Keeps may borrowed (incMessageCount userId groupId) := by
  refine keeps_return (keeps_withCacheConn fun conn => ?_)
  exact keeps_bind (keeps_request List.mem_cons_self) fun _ =>
    keeps_copyCounts List.mem_cons_self userId groupId

theorem keeps_readMsgs (lsMsg : List MsgInfo) (rows : Option (Option (List Row))) :
    Keeps may borrowed (readMsgs lsMsg rows) := by
  cases rows with
  | none => exact keeps_pure _
  | some rows =>
      exact keeps_ite (keeps_pure _)
        (keeps_return (AudioModel.keeps_readAudios _))

theorem keeps_getMessage (userId groupId msgId msgCnt : Nat) (lsMsg : List MsgInfo) :
    Keeps may borrowed (getMessage userId groupId msgId msgCnt lsMsg) := by
  refine keeps_bind (keeps_withDBConn fun conn => ?_) fun rows => keeps_readMsgs lsMsg rows
  exact keeps_bind (GroupModel.keeps_getUserJoinTime groupId userId) fun _ =>
    keeps_query List.mem_cons_self

theorem keeps_getMsgByMsgId (userId groupId : Id) (lsMsgId : List Id) (lsMsg : List MsgInfo) :
    Keeps may borrowed (getMsgByMsgId userId groupId lsMsgId lsMsg) := by
  refine keeps_ite (keeps_pure _) (keeps_bind (GroupModel.keeps_isInGroup userId groupId)
    fun _ => keeps_ite ?_ (keeps_pure _))
  refine keeps_bind (keeps_withDBConn fun conn => ?_) fun rows => keeps_readMsgs lsMsg rows
  exact keeps_bind (GroupModel.keeps_getUserJoinTime groupId userId) fun _ =>
    keeps_query List.mem_cons_self

theorem keeps_getLastMsg (strAudioEnc : String) (groupId : Id) (last : LastMsg) :
    Keeps may borrowed (getLastMsg strAudioEnc groupId last) :=
  keeps_return (keeps_withDBConn fun _ => keeps_query List.mem_cons_self)

theorem keeps_readCount {conn : Conn} (lent : conn ∈ borrowed) (userId : Id) (count : Nat)
    (groupId : Id) : Keeps may borrowed (readCount conn userId count groupId) :=
  keeps_bind (keeps_hget lent) fun _ =>
    keeps_ite (keeps_pure _) (keeps_return (keeps_hget lent))

theorem keeps_listUnread (strAudioEnc : String) {conn : Conn} (lent : conn ∈ borrowed)
    (userId : Id) (unread : Unread) (groupId : Id) :
    Keeps may borrowed (listUnread strAudioEnc conn userId unread groupId) := by
  refine keeps_bind (keeps_readCount lent userId unread.count groupId) fun count => ?_
  cases count with
  | none => exact keeps_pure _
  | some count =>
      refine keeps_ite (keeps_pure _) ?_
      refine keeps_bind (keeps_request trivial) fun msgId => ?_
      refine keeps_bind (keeps_request trivial) fun msgType => ?_
      refine keeps_bind (keeps_request trivial) fun fromId => ?_
      exact keeps_return (keeps_getLastMsg strAudioEnc groupId _)

theorem keeps_getUnreadMsgCount (strAudioEnc : String) (userId totalCnt : Nat) :
    Keeps may borrowed (getUnreadMsgCount strAudioEnc userId totalCnt) := by
  refine keeps_bind (GroupModel.keeps_getUserGroupIds userId 0) fun lsGroupId => ?_
  refine keeps_return (keeps_withCacheConn fun conn => ?_)
  exact keeps_foldlM (keeps_listUnread strAudioEnc List.mem_cons_self userId) lsGroupId _

theorem keeps_addUnread {conn : Conn} (lent : conn ∈ borrowed) (userId : Id)
    (unread : Nat × Nat) (groupId : Id) :
    Keeps may borrowed (addUnread conn userId unread groupId) := by
  refine keeps_bind (keeps_readCount lent userId unread.1 groupId) fun count => ?_
  cases count with
  | none => exact keeps_pure _
  | some count => exact keeps_pure _

theorem keeps_getUnReadCntAll (userId totalCnt : Nat) :
    Keeps may borrowed (getUnReadCntAll userId totalCnt) := by
  refine keeps_bind (GroupModel.keeps_getUserGroupIds userId 0) fun lsGroupId => ?_
  refine keeps_return (keeps_withCacheConn fun conn => ?_)
  exact keeps_foldlM (keeps_addUnread List.mem_cons_self userId) lsGroupId _

end GroupMessageModel

theorem GroupModel.keeps_createGroup (userId : Id) (groupName groupAvatar : String)
    (groupType : Nat) (members : List Id) :
    Keeps may borrowed (createGroup userId groupName groupAvatar groupType members) := by
  refine keeps_ite (keeps_pure _) (keeps_ite (keeps_pure _) ?_)
  refine keeps_bind (keeps_insertNewGroup _ _ _ _ _) fun inserted => keeps_ite ?_ (keeps_pure _)
  refine keeps_bind (GroupMessageModel.keeps_resetMsgId _) fun _ => ?_
  refine keeps_bind (keeps_clearGroupMember _) fun _ => ?_
  exact keeps_return (keeps_insertNewMember _ _)

end Programs

end Pooled

end AChat.DbProxy
