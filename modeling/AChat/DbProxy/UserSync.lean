import AChat.DbProxy.MessageService
import AChat.Lib.Reach
import Mathlib.Logic.Function.Basic

/-!
Contract: which changes of users the requests of one client return.

A call of `updateUserSignInfo` reads the clock, changes the row, and only then tells the sync
center its time, which replaces the time of a later call. A request asks for the rows from the time
of the client on, but only when the sync center holds a later time. A change in a second that the
client has already seen is not returned, and neither is one that was told behind a later time.

Owns: the calls of any number of threads and the requests of one client step by step, the changes
that were told and that the client does not have, and when a request misses one. The slave is equal
to the master, the statements succeed, and a sign text holds no special character of SQL.
-/

namespace AChat.DbProxy

namespace UserSync

/-! ### The threads and the client -/

/-- A row of `IMUser`. -/
structure UserRow where
  id : Id
  status : Nat
  signInfo : String
  updated : Nat
deriving DecidableEq, Repr

/-- Where a thread is in `updateUserSignInfo`. -/
inductive Call where
  | idle
  /-- Before its statement. -/
  | timed (userId : Id) (signInfo : String) (now : Nat)
  /-- Before `updateTotalUpdate`. -/
  | updated (now : Nat)
deriving DecidableEq, Repr

/-- Where the client is in `getChangedUser`. -/
inductive Request where
  | idle
  /-- Behind the comparison of the times. -/
  | reading
  /-- Behind `getChangedId`, with its ids and the new time. -/
  | queried (ids : List Id) (lastTime : Nat)
deriving DecidableEq, Repr

structure Sync (Thread : Type) where
  clock : Nat
  users : List UserRow
  /-- `getLastUpdate()`. -/
  lastUpdate : Nat
  calls : Thread → Call
  request : Request
  /-- `latest_update_time` of the last response, or of the first request. -/
  latestUpdateTime : Nat
  /-- `user_list` of the last response. -/
  userList : List UserRow

inductive Event (Thread : Type) where
  | tick (seconds : Nat)
  | call (thread : Thread) (userId : Id) (signInfo : String)
  /-- The statement of `updateUserSignInfo`. -/
  | update (thread : Thread)
  | updateTotalUpdate (thread : Thread)
  | request
  | getChangedId
  | getUsers
deriving DecidableEq, Repr

/-- The condition of the query of `getChangedId`. -/
def selected (lastTime : Nat) (row : UserRow) : Bool :=
  if lastTime = 0 then row.status != 3 else decide (row.updated ≥ lastTime)

def later (lastTime : Nat) (row : UserRow) : Nat :=
  if lastTime < row.updated then row.updated else lastTime

def setSignInfo (userId : Id) (signInfo : String) (now : Nat) (row : UserRow) : UserRow :=
  if row.id = userId then { row with signInfo := signInfo, updated := now } else row

def getChangedId (users : List UserRow) (lastTime : Nat) : List Id × Nat :=
  let rows := users.filter (selected lastTime)
  (rows.map UserRow.id, rows.foldl later lastTime)

def getUsers (users : List UserRow) (ids : List Id) : List UserRow :=
  users.filter fun row => decide (row.id ∈ ids)

variable {Thread : Type} [DecidableEq Thread]

namespace Sync

def setCall (sync : Sync Thread) (thread : Thread) (call : Call) : Sync Thread :=
  { sync with calls := Function.update sync.calls thread call }

/-- The call behind its statement. One that changes no row tells nothing. -/
def callAfter (users after : List UserRow) (now : Nat) : Call :=
  if after = users then .idle else .updated now

/-- A step. What a thread or the client cannot do where it is changes nothing. -/
def step (sync : Sync Thread) : Event Thread → Sync Thread
  | .tick seconds => { sync with clock := sync.clock + seconds }
  | .call thread userId signInfo =>
      match sync.calls thread with
      | .idle =>
          if signInfo.utf8ByteSize > 128 then sync
          else sync.setCall thread (.timed userId signInfo sync.clock)
      | _ => sync
  | .update thread =>
      match sync.calls thread with
      | .timed userId signInfo now =>
          let users := sync.users.map (setSignInfo userId signInfo now)
          { sync.setCall thread (callAfter sync.users users now) with users := users }
      | _ => sync
  | .updateTotalUpdate thread =>
      match sync.calls thread with
      | .updated now => { sync.setCall thread .idle with lastUpdate := now }
      | _ => sync
  | .request =>
      match sync.request with
      | .idle =>
          if sync.lastUpdate > sync.latestUpdateTime then { sync with request := .reading }
          else { sync with userList := [] }
      | _ => sync
  | .getChangedId =>
      match sync.request with
      | .reading =>
          let (ids, lastTime) := getChangedId sync.users sync.latestUpdateTime
          { sync with request := .queried ids lastTime }
      | _ => sync
  | .getUsers =>
      match sync.request with
      | .queried ids lastTime =>
          { sync with
            request := .idle
            latestUpdateTime := lastTime
            userList := getUsers sync.users ids }
      | _ => sync

/-- No call and no request is under way. -/
def start (users : List UserRow) (clock lastUpdate latestUpdateTime : Nat) : Sync Thread where
  clock := clock
  users := users
  lastUpdate := lastUpdate
  calls _ := .idle
  request := .idle
  latestUpdateTime := latestUpdateTime
  userList := []

/-- The time that the next request asks with. -/
def nextTime (sync : Sync Thread) : Nat :=
  match sync.request with
  | .queried _ lastTime => lastTime
  | _ => sync.latestUpdateTime

/-- The users that the request under way returns for certain. -/
def returning (sync : Sync Thread) : List Id :=
  match sync.request with
  | .queried ids _ => ids
  | _ => []

/-- Whether the next query is run: the comparison lies behind it, or comes out so. -/
def Open (sync : Sync Thread) : Prop :=
  sync.request = .reading ∨ sync.nextTime < sync.lastUpdate

/-- The next query, if it is run, selects the user. -/
def Selects (sync : Sync Thread) (userId : Id) : Prop :=
  ∃ row ∈ sync.users, row.id = userId ∧ selected sync.nextTime row = true

/-- The request under way returns the user, or the next query does. -/
def Due (sync : Sync Thread) (userId : Id) : Prop :=
  userId ∈ sync.returning ∨ (sync.Open ∧ sync.Selects userId)

end Sync

/-! ### Runs -/

/-- The threads and the client, with the users whose row was changed and not returned since. -/
structure SyncRun (Thread : Type) where
  sync : Sync Thread
  /-- The user of a call that has changed its row, and not told it. -/
  telling : Thread → Option Id
  /-- Those that the sync center was told of. -/
  told : List Id
  /-- Those that it was told of before the request under way. -/
  asked : List Id
  /-- Those that a request did not return. -/
  missed : List Id

namespace SyncRun

def start (users : List UserRow) (clock lastUpdate latestUpdateTime : Nat) : SyncRun Thread :=
  ⟨.start users clock lastUpdate latestUpdateTime, fun _ => none, [], [], []⟩

/-- A response does not hold the user. -/
def lacks (userList : List UserRow) (userId : Id) : Bool :=
  decide (userId ∉ userList.map UserRow.id)

/-- The changes of the users that a response does not hold are left. -/
def respond (current : SyncRun Thread) (sync : Sync Thread) : SyncRun Thread where
  sync := sync
  telling thread := (current.telling thread).filter (lacks sync.userList)
  told := current.told.filter (lacks sync.userList)
  asked := []
  missed := current.missed ++ current.asked.filter (lacks sync.userList)

def step (current : SyncRun Thread) (event : Event Thread) : SyncRun Thread :=
  let sync := current.sync.step event
  match event with
  | .update thread =>
      match current.sync.calls thread with
      | .timed userId _ _ =>
          if sync.users = current.sync.users then { current with sync := sync }
          else
            { current with
              sync := sync
              telling := Function.update current.telling thread (some userId) }
      | _ => { current with sync := sync }
  | .updateTotalUpdate thread =>
      match current.sync.calls thread with
      | .updated _ =>
          { current with
            sync := sync
            telling := Function.update current.telling thread none
            told := (current.telling thread).toList ++ current.told }
      | _ => { current with sync := sync }
  | .request =>
      match current.sync.request with
      | .idle =>
          if current.sync.lastUpdate > current.sync.latestUpdateTime then
            { current with sync := sync, asked := current.told }
          else { current with asked := current.told }.respond sync
      | _ => { current with sync := sync }
  | .getUsers =>
      match current.sync.request with
      | .queried _ _ => current.respond sync
      | _ => { current with sync := sync }
  | _ => { current with sync := sync }

/-- Every request has returned the changes that were told before it, and the request under way or
the next one returns those that were told by now. -/
structure Returned (current : SyncRun Thread) : Prop where
  missed : current.missed = []
  next : ∀ userId ∈ current.told, current.sync.Due userId

/-- No statement writes an older time than the client has to a row with a change that was told and
not returned. No call tells a time that the client has, or an older one, while such a change is
there, and its own change is in a row that the next query selects. -/
def Spared (current : SyncRun Thread) : Event Thread → Prop
  | .update thread => ∀ userId signInfo now,
      current.sync.calls thread = .timed userId signInfo now → userId ∈ current.told →
      userId ∉ current.sync.returning → current.sync.nextTime ≤ now
  | .updateTotalUpdate thread => ∀ now, current.sync.calls thread = .updated now →
      (∀ userId, current.telling thread = some userId → userId ∉ current.sync.returning →
        current.sync.Selects userId) ∧
      ∀ userId, current.telling thread = some userId ∨ userId ∈ current.told →
        userId ∉ current.sync.returning →
        current.sync.request = .reading ∨ current.sync.nextTime < now
  | _ => True

/-! ### One step -/

/-- What the changes that were asked for have to do with the request under way. -/
structure Tracks (current : SyncRun Thread) : Prop where
  returned : Returned current
  reading : current.sync.request = .reading → ∀ userId ∈ current.asked, userId ∈ current.told
  queried : ∀ userId ∈ current.sync.returning, userId ∈ current.sync.users.map UserRow.id
  asked : current.sync.request ≠ .reading → ∀ userId ∈ current.asked,
    userId ∈ current.sync.returning

section Steps

variable {current : SyncRun Thread} {event : Event Thread}

omit [DecidableEq Thread] in
/-- A step that changes nothing that a request reads. -/
theorem Tracks.frame (tracks : Tracks current) {after : SyncRun Thread}
    (users : after.sync.users = current.sync.users)
    (lastUpdate : after.sync.lastUpdate = current.sync.lastUpdate)
    (request : after.sync.request = current.sync.request)
    (latestUpdateTime : after.sync.latestUpdateTime = current.sync.latestUpdateTime)
    (told : after.told = current.told) (asked : after.asked = current.asked)
    (missed : after.missed = current.missed) : Tracks after := by
  have nextTime : after.sync.nextTime = current.sync.nextTime := by
    unfold Sync.nextTime
    rw [request, latestUpdateTime]
  have returning : after.sync.returning = current.sync.returning := by
    unfold Sync.returning
    rw [request]
  constructor
  · refine ⟨missed.trans tracks.returned.missed, fun userId member => ?_⟩
    rw [told] at member
    have due := tracks.returned.next userId member
    unfold Sync.Due Sync.Open Sync.Selects at due ⊢
    rw [returning, request, nextTime, lastUpdate, users]
    exact due
  · rw [request, asked, told]
    exact tracks.reading
  · rw [returning, users]
    exact tracks.queried
  · rw [request, asked, returning]
    exact tracks.asked

/-- A statement writes its time to the rows of its user, and to no others. -/
theorem selects_setSignInfo_iff {users : List UserRow} {userId written : Id} {lastTime now : Nat}
    {signInfo : String}
    (selects : ∃ row ∈ users, row.id = userId ∧ selected lastTime row = true) :
    (∃ row ∈ users.map (setSignInfo written signInfo now),
      row.id = userId ∧ selected lastTime row = true) ↔ (userId = written → lastTime ≤ now) := by
  simp only [List.mem_map, exists_exists_and_eq_and, setSignInfo]
  constructor
  · rintro ⟨row, member, named, late⟩ rfl
    by_cases own : row.id = userId
    · rw [if_pos own] at late
      by_cases zero : lastTime = 0
      · omega
      · unfold selected at late
        rw [if_neg zero] at late
        exact of_decide_eq_true late
    · rw [if_neg own] at named
      exact absurd named own
  · intro written
    obtain ⟨row, member, named, late⟩ := selects
    refine ⟨row, member, ?_⟩
    split
    · rename_i own
      refine ⟨named, ?_⟩
      have notBefore := written (named.symm.trans own)
      unfold selected at late ⊢
      split
      · rename_i zero
        rw [if_pos zero] at late
        exact late
      · exact decide_eq_true notBefore
    · exact ⟨named, late⟩

theorem map_id_setSignInfo (users : List UserRow) (userId : Id) (signInfo : String) (now : Nat) :
    (users.map (setSignInfo userId signInfo now)).map UserRow.id = users.map UserRow.id := by
  rw [List.map_map]
  apply List.map_congr_left
  intro row _
  show (setSignInfo userId signInfo now row).id = row.id
  unfold setSignInfo
  split
  · rfl
  · rfl

/-! The statement of a call. -/

section Update

variable {thread : Thread} {userId : Id} {signInfo : String} {now : Nat}

theorem step_update (timed : current.sync.calls thread = .timed userId signInfo now) :
    ∃ telling, current.step (.update thread) =
      { current with
        sync :=
          { current.sync.setCall thread (Sync.callAfter current.sync.users
              (current.sync.users.map (setSignInfo userId signInfo now)) now) with
            users := current.sync.users.map (setSignInfo userId signInfo now) }
        telling := telling } := by
  simp only [step, Sync.step, timed]
  split
  · exact ⟨_, rfl⟩
  · exact ⟨_, rfl⟩

theorem step_update_idle
    (idle : ∀ userId signInfo now, current.sync.calls thread ≠ .timed userId signInfo now) :
    current.step (.update thread) = current := by
  cases call : current.sync.calls thread with
  | timed userId signInfo now => exact absurd call (idle userId signInfo now)
  | idle => simp only [step, Sync.step, call]
  | updated now => simp only [step, Sync.step, call]

theorem update_returned_iff (tracks : Tracks current) (thread : Thread) :
    Returned (current.step (.update thread)) ↔ current.Spared (.update thread) := by
  by_cases timed : ∃ userId signInfo now, current.sync.calls thread = .timed userId signInfo now
  · obtain ⟨userId, signInfo, now, timed⟩ := timed
    obtain ⟨telling, stepped⟩ := step_update timed
    rw [stepped]
    constructor
    · intro after userId' signInfo' now' there told left
      obtain ⟨rfl, rfl, rfl⟩ := Call.timed.inj (timed.symm.trans there)
      have before := (tracks.returned.next userId told).resolve_left left
      have selects := ((after.next userId told).resolve_left left).2
      exact (selects_setSignInfo_iff before.2).mp selects rfl
    · intro spared
      refine ⟨tracks.returned.missed, fun other told => ?_⟩
      by_cases left : other ∈ current.sync.returning
      · exact .inl left
      · have before := (tracks.returned.next other told).resolve_left left
        refine .inr ⟨before.1, (selects_setSignInfo_iff before.2).mpr ?_⟩
        rintro rfl
        exact spared other signInfo now timed told left
  · have idle : ∀ userId signInfo now, current.sync.calls thread ≠ .timed userId signInfo now :=
      fun userId signInfo now there => timed ⟨userId, signInfo, now, there⟩
    rw [step_update_idle idle]
    exact iff_of_true tracks.returned fun userId signInfo now there =>
      absurd there (idle userId signInfo now)

theorem tracks_update (tracks : Tracks current)
    (returned : Returned (current.step (.update thread))) :
    Tracks (current.step (.update thread)) := by
  by_cases timed : ∃ userId signInfo now, current.sync.calls thread = .timed userId signInfo now
  · obtain ⟨userId, signInfo, now, timed⟩ := timed
    obtain ⟨telling, stepped⟩ := step_update timed
    rw [stepped] at returned ⊢
    refine ⟨returned, tracks.reading, ?_, tracks.asked⟩
    intro other member
    show other ∈ (current.sync.users.map (setSignInfo userId signInfo now)).map UserRow.id
    rw [map_id_setSignInfo]
    exact tracks.queried other member
  · rw [step_update_idle fun userId signInfo now there => timed ⟨userId, signInfo, now, there⟩]
    exact tracks

end Update

/-! The publication of its time. -/

section Publish

variable {thread : Thread} {now : Nat}

theorem step_updateTotalUpdate (updated : current.sync.calls thread = .updated now) :
    current.step (.updateTotalUpdate thread) =
      { current with
        sync := { current.sync.setCall thread .idle with lastUpdate := now }
        telling := Function.update current.telling thread none
        told := (current.telling thread).toList ++ current.told } := by
  simp only [step, Sync.step, updated]

theorem step_updateTotalUpdate_idle (idle : ∀ now, current.sync.calls thread ≠ .updated now) :
    current.step (.updateTotalUpdate thread) = current := by
  cases call : current.sync.calls thread with
  | timed userId signInfo now => simp only [step, Sync.step, call]
  | idle => simp only [step, Sync.step, call]
  | updated now => exact absurd call (idle now)

omit [DecidableEq Thread] in
theorem mem_telling_append {userId : Id} :
    userId ∈ (current.telling thread).toList ++ current.told ↔
      current.telling thread = some userId ∨ userId ∈ current.told := by
  rw [List.mem_append, Option.mem_toList]

theorem updateTotalUpdate_returned_iff (tracks : Tracks current) (thread : Thread) :
    Returned (current.step (.updateTotalUpdate thread)) ↔
      current.Spared (.updateTotalUpdate thread) := by
  by_cases updated : ∃ now, current.sync.calls thread = .updated now
  · obtain ⟨now, updated⟩ := updated
    rw [step_updateTotalUpdate updated]
    constructor
    · intro after now' there
      obtain rfl := Call.updated.inj (updated.symm.trans there)
      constructor
      · intro userId telling left
        have member := mem_telling_append.mpr (.inl telling)
        exact ((after.next userId member).resolve_left left).2
      · intro userId told left
        have member := mem_telling_append.mpr told
        exact ((after.next userId member).resolve_left left).1
    · intro spared
      obtain ⟨own, notBefore⟩ := spared now updated
      refine ⟨tracks.returned.missed, fun userId member => ?_⟩
      by_cases left : userId ∈ current.sync.returning
      · exact .inl left
      · have told := mem_telling_append.mp member
        refine .inr ⟨notBefore userId told left, ?_⟩
        rcases told with telling | told
        · exact own userId telling left
        · exact ((tracks.returned.next userId told).resolve_left left).2
  · have idle : ∀ now, current.sync.calls thread ≠ .updated now :=
      fun now there => updated ⟨now, there⟩
    rw [step_updateTotalUpdate_idle idle]
    exact iff_of_true tracks.returned fun now there => absurd there (idle now)

theorem tracks_updateTotalUpdate (tracks : Tracks current)
    (returned : Returned (current.step (.updateTotalUpdate thread))) :
    Tracks (current.step (.updateTotalUpdate thread)) := by
  by_cases updated : ∃ now, current.sync.calls thread = .updated now
  · obtain ⟨now, updated⟩ := updated
    rw [step_updateTotalUpdate updated] at returned ⊢
    refine ⟨returned, fun reading userId asked => ?_, tracks.queried, tracks.asked⟩
    exact List.mem_append_right _ (tracks.reading reading userId asked)
  · rw [step_updateTotalUpdate_idle fun now there => updated ⟨now, there⟩]
    exact tracks

end Publish

/-! The requests of the client. -/

section Requests

omit [DecidableEq Thread] in
theorem returning_of_not_queried
    (idle : ∀ ids lastTime, current.sync.request ≠ .queried ids lastTime) :
    current.sync.returning = [] ∧ current.sync.nextTime = current.sync.latestUpdateTime := by
  unfold Sync.returning Sync.nextTime
  cases request : current.sync.request with
  | idle => exact ⟨rfl, rfl⟩
  | reading => exact ⟨rfl, rfl⟩
  | queried ids lastTime => exact absurd request (idle ids lastTime)

omit [DecidableEq Thread] in
/-- Before the ids are read, a change that was told is one for the query. -/
theorem due_of_not_queried (tracks : Tracks current)
    (notQueried : ∀ ids lastTime, current.sync.request ≠ .queried ids lastTime) {userId : Id}
    (told : userId ∈ current.told) :
    (current.sync.request = .reading ∨
        current.sync.lastUpdate > current.sync.latestUpdateTime) ∧
      ∃ row ∈ current.sync.users, row.id = userId ∧
        selected current.sync.latestUpdateTime row = true := by
  obtain ⟨returning, nextTime⟩ := returning_of_not_queried notQueried
  have due := tracks.returned.next userId told
  unfold Sync.Due Sync.Open Sync.Selects at due
  rw [returning, nextTime] at due
  exact due.resolve_left List.not_mem_nil

omit [DecidableEq Thread] in
/-- Nothing is missed by a request that returns nothing. -/
theorem told_eq_nil_of_closed (tracks : Tracks current) (idle : current.sync.request = .idle)
    (closed : ¬current.sync.lastUpdate > current.sync.latestUpdateTime) : current.told = [] := by
  have notQueried : ∀ ids lastTime, current.sync.request ≠ .queried ids lastTime := by
    rw [idle]
    exact fun ids lastTime => Request.noConfusion
  rw [List.eq_nil_iff_forall_not_mem]
  intro userId told
  rcases (due_of_not_queried tracks notQueried told).1 with reading | late
  · rw [idle] at reading
    cases reading
  · exact closed late

theorem tracks_request (tracks : Tracks current) : Tracks (current.step .request) := by
  cases request : current.sync.request with
  | reading =>
      have stepped : current.step .request = current := by simp only [step, Sync.step, request]
      rw [stepped]
      exact tracks
  | queried ids lastTime =>
      have stepped : current.step .request = current := by simp only [step, Sync.step, request]
      rw [stepped]
      exact tracks
  | idle =>
      have notQueried : ∀ ids lastTime, current.sync.request ≠ .queried ids lastTime := by
        rw [request]
        exact fun ids lastTime => Request.noConfusion
      by_cases opened : current.sync.lastUpdate > current.sync.latestUpdateTime
      · have stepped : current.step .request =
            { current with
              sync := { current.sync with request := .reading }, asked := current.told } := by
          simp only [step, Sync.step, request, if_pos opened]
        rw [stepped]
        refine ⟨⟨tracks.returned.missed, fun userId told => ?_⟩, fun _ userId asked => asked,
          fun userId member => absurd member List.not_mem_nil, fun other => absurd rfl other⟩
        obtain ⟨_, row, member, named, late⟩ := due_of_not_queried tracks notQueried told
        exact .inr ⟨.inl rfl, row, member, named, late⟩
      · have none := told_eq_nil_of_closed tracks request opened
        have stepped : current.step .request =
            { current with asked := current.told }.respond
              { current.sync with userList := [] } := by
          simp only [step, Sync.step, request, if_neg opened]
        have missed : current.missed ++ current.told.filter (lacks []) = [] := by
          rw [none, tracks.returned.missed]
          rfl
        rw [stepped]
        refine ⟨⟨missed, fun userId member => ?_⟩,
          fun _ userId asked => absurd asked List.not_mem_nil, tracks.queried,
          fun _ userId asked => absurd asked List.not_mem_nil⟩
        have told := List.mem_of_mem_filter member
        change userId ∈ current.told at told
        rw [none] at told
        exact absurd told List.not_mem_nil

theorem mem_getChangedId {users : List UserRow} {lastTime : Nat} {userId : Id} :
    userId ∈ (getChangedId users lastTime).1 ↔
      ∃ row ∈ users, row.id = userId ∧ selected lastTime row = true := by
  unfold getChangedId
  simp only [List.mem_map, List.mem_filter]
  constructor
  · rintro ⟨row, ⟨member, late⟩, named⟩
    exact ⟨row, member, named, late⟩
  · rintro ⟨row, member, named, late⟩
    exact ⟨row, ⟨member, late⟩, named⟩

theorem tracks_getChangedId (tracks : Tracks current) : Tracks (current.step .getChangedId) := by
  by_cases reading : current.sync.request = .reading
  · have notQueried : ∀ ids lastTime, current.sync.request ≠ .queried ids lastTime := by
      rw [reading]
      exact fun ids lastTime => Request.noConfusion
    have stepped : current.step .getChangedId =
        { current with
          sync :=
            { current.sync with
              request := .queried (getChangedId current.sync.users current.sync.latestUpdateTime).1
                (getChangedId current.sync.users current.sync.latestUpdateTime).2 } } := by
      simp only [step, Sync.step, reading]
    -- a change that was told is in a row that the query selects
    have listed : ∀ userId ∈ current.told,
        userId ∈ (getChangedId current.sync.users current.sync.latestUpdateTime).1 := by
      intro userId told
      exact mem_getChangedId.mpr (due_of_not_queried tracks notQueried told).2
    rw [stepped]
    constructor
    · exact ⟨tracks.returned.missed, fun userId told => .inl (listed userId told)⟩
    · intro other
      cases other
    · intro userId member
      obtain ⟨row, there, named, _⟩ := mem_getChangedId.mp member
      exact List.mem_map.mpr ⟨row, there, named⟩
    · intro _ userId asked
      exact listed userId (tracks.reading reading userId asked)
  · have stepped : current.step .getChangedId = current := by
      cases request : current.sync.request with
      | reading => exact absurd request reading
      | idle => simp only [step, Sync.step, request]
      | queried ids lastTime => simp only [step, Sync.step, request]
    rw [stepped]
    exact tracks

/-- The response holds the users that were asked for. -/
theorem mem_getUsers {users : List UserRow} {ids : List Id} {userId : Id} (listed : userId ∈ ids)
    (there : userId ∈ users.map UserRow.id) : userId ∈ (getUsers users ids).map UserRow.id := by
  obtain ⟨row, member, named⟩ := List.mem_map.mp there
  refine List.mem_map.mpr ⟨row, List.mem_filter.mpr ⟨member, ?_⟩, named⟩
  rw [named]
  exact decide_eq_true listed

theorem tracks_getUsers (tracks : Tracks current) : Tracks (current.step .getUsers) := by
  cases request : current.sync.request with
  | reading =>
      have stepped : current.step .getUsers = current := by simp only [step, Sync.step, request]
      rw [stepped]
      exact tracks
  | idle =>
      have stepped : current.step .getUsers = current := by simp only [step, Sync.step, request]
      rw [stepped]
      exact tracks
  | queried ids lastTime =>
      have returning : current.sync.returning = ids := by
        unfold Sync.returning
        rw [request]
      have nextTime : current.sync.nextTime = lastTime := by
        unfold Sync.nextTime
        rw [request]
      have held : ∀ userId ∈ ids,
          userId ∈ (getUsers current.sync.users ids).map UserRow.id := by
        intro userId member
        refine mem_getUsers member (tracks.queried userId ?_)
        rw [returning]
        exact member
      have stepped : current.step .getUsers =
          current.respond
            { current.sync with
              request := .idle
              latestUpdateTime := lastTime
              userList := getUsers current.sync.users ids } := by
        simp only [step, Sync.step, request]
      have none : current.asked.filter (lacks (getUsers current.sync.users ids)) = [] := by
        rw [List.filter_eq_nil_iff]
        intro userId asked
        have notReading : current.sync.request ≠ .reading := by
          rw [request]
          exact Request.noConfusion
        have member := tracks.asked notReading userId asked
        rw [returning] at member
        intro lacking
        exact of_decide_eq_true lacking (held userId member)
      have missed : current.missed ++
          current.asked.filter (lacks (getUsers current.sync.users ids)) = [] := by
        rw [none, tracks.returned.missed]
        rfl
      rw [stepped]
      refine ⟨⟨missed, fun userId member => ?_⟩, fun _ userId asked => absurd asked List.not_mem_nil,
        fun userId member => absurd member List.not_mem_nil,
        fun _ userId asked => absurd asked List.not_mem_nil⟩
      obtain ⟨told, left⟩ := List.mem_filter.mp member
      have notListed : userId ∉ current.sync.returning := by
        rw [returning]
        exact fun listed => of_decide_eq_true left (held userId listed)
      obtain ⟨opened, row, there, named, late⟩ :=
        (tracks.returned.next userId told).resolve_left notListed
      rw [nextTime] at late
      refine .inr ⟨.inr ?_, row, there, named, late⟩
      rcases opened with reading | open'
      · rw [request] at reading
        cases reading
      · rw [nextTime] at open'
        exact open'

end Requests

theorem tracks_tick (tracks : Tracks current) (seconds : Nat) :
    Tracks (current.step (.tick seconds)) :=
  tracks.frame rfl rfl rfl rfl rfl rfl rfl

theorem tracks_call (tracks : Tracks current) (thread : Thread) (userId : Id) (signInfo : String) :
    Tracks (current.step (.call thread userId signInfo)) := by
  simp only [step, Sync.step]
  split
  · split
    · exact tracks
    · exact tracks.frame rfl rfl rfl rfl rfl rfl rfl
  · exact tracks

theorem step_returned_iff (tracks : Tracks current) (event : Event Thread) :
    Returned (current.step event) ↔ current.Spared event := by
  cases event with
  | tick seconds => exact iff_of_true (tracks_tick tracks seconds).returned trivial
  | call thread userId signInfo =>
      exact iff_of_true (tracks_call tracks thread userId signInfo).returned trivial
  | update thread => exact update_returned_iff tracks thread
  | updateTotalUpdate thread => exact updateTotalUpdate_returned_iff tracks thread
  | request => exact iff_of_true (tracks_request tracks).returned trivial
  | getChangedId => exact iff_of_true (tracks_getChangedId tracks).returned trivial
  | getUsers => exact iff_of_true (tracks_getUsers tracks).returned trivial

theorem tracks_step (tracks : Tracks current) (event : Event Thread)
    (spared : current.Spared event) : Tracks (current.step event) := by
  have returned := (step_returned_iff tracks event).mpr spared
  cases event with
  | tick seconds => exact tracks_tick tracks seconds
  | call thread userId signInfo => exact tracks_call tracks thread userId signInfo
  | update thread => exact tracks_update tracks returned
  | updateTotalUpdate thread => exact tracks_updateTotalUpdate tracks returned
  | request => exact tracks_request tracks
  | getChangedId => exact tracks_getChangedId tracks
  | getUsers => exact tracks_getUsers tracks

end Steps

/-! ### Whole runs -/

omit [DecidableEq Thread] in
theorem tracks_start (users : List UserRow) (clock lastUpdate latestUpdateTime : Nat) :
    Tracks (start users clock lastUpdate latestUpdateTime : SyncRun Thread) where
  returned := ⟨rfl, fun _ told => absurd told List.not_mem_nil⟩
  reading _ _ asked := absurd asked List.not_mem_nil
  queried _ member := absurd member List.not_mem_nil
  asked _ _ asked := absurd asked List.not_mem_nil

/-- In every interleaving the requests return every change that was told before them, and the next
one will, exactly if no statement writes and no call tells a time that the client has while a change
is not returned. -/
theorem changes_returned_iff_spared (users : List UserRow) (clock lastUpdate latestUpdateTime : Nat)
    (events : List (Event Thread)) :
    Lib.Always step Returned (start users clock lastUpdate latestUpdateTime) events ↔
      Lib.Meets step Spared (start users clock lastUpdate latestUpdateTime) events :=
  Lib.always_iff_meets (fun _ event tracks _ => step_returned_iff tracks event)
    (fun _ event tracks _ spared => tracks_step tracks event spared)
    (fun _ tracks => tracks.returned) events (tracks_start users clock lastUpdate latestUpdateTime)
    (Lib.meets_true _ events _)

/-- Two users change in one second, and the client asks in between. -/
def changesOfOneSecond : List (Event Unit) :=
  [.call () 1 "a", .update (), .updateTotalUpdate (), .request, .getChangedId, .getUsers,
    .call () 2 "b", .update (), .updateTotalUpdate (), .request]

/-- The second change is missed. -/
theorem change_of_same_second_missed :
    ¬Lib.Always step Returned (start [⟨1, 0, "", 5⟩, ⟨2, 0, "", 5⟩] 10 5 5) changesOfOneSecond := by
  intro always
  have returned : Returned
      (Lib.run step (start [⟨1, 0, "", 5⟩, ⟨2, 0, "", 5⟩] 10 5 5) changesOfOneSecond) :=
    always.2.2.2.2.2.2.2.2.2.2
  have missed := returned.missed
  revert missed
  decide

end SyncRun

end UserSync

end AChat.DbProxy
