import AChat.DbProxy.MessageService
import AChat.Lib.AutoTable

/-!
Contract: which of the two sessions a message between two users leaves behind as touched.

The id of the session that is added for the peer is put into the variable of the sender's
session. The variable of the peer keeps the invalid id, which no row has, and the session of
the sender is left out.

Owns: the session table, what a request does to it when all of its statements succeed, and
the rows of a pair of users.
-/

namespace AChat.DbProxy

open Lib (AutoTable Prog)

namespace SessionTouch

/-! ### The table -/

/-- A row of `IMRecentSession`. -/
structure SessionRow where
  id : Id
  userId : Id
  peerId : Id
  type : Nat
  status : Nat
  created : Nat
  updated : Nat
deriving DecidableEq, Repr

/-- Whose session a row is. -/
structure Party where
  userId : Id
  peerId : Id
  type : Nat
deriving DecidableEq, Repr

def SessionRow.party (row : SessionRow) : Party :=
  ⟨row.userId, row.peerId, row.type⟩

/-- `IMRecentSession`. No row has the invalid id. -/
structure SessionTable where
  table : AutoTable SessionRow fun row => row.id
  valid : ∀ row ∈ table.rows, row.id ≠ invalidValue

/-- What an update sets in a row. -/
structure Change where
  status : Nat → Nat
  updated : Nat

def reopen (now : Nat) : Change :=
  ⟨fun _ => 0, now⟩

def touch (updateTime : Nat) : Change :=
  ⟨id, updateTime⟩

namespace SessionTable

def changeRow (sessionId : Id) (change : Change) (row : SessionRow) : SessionRow :=
  if row.id = sessionId then { row with status := change.status row.status, updated := change.updated }
  else row

theorem changeRow_id (sessionId : Id) (change : Change) (row : SessionRow) :
    (changeRow sessionId change row).id = row.id := by
  unfold changeRow
  split <;> rfl

theorem changeRow_party (sessionId : Id) (change : Change) (row : SessionRow) :
    (changeRow sessionId change row).party = row.party := by
  unfold changeRow
  split <;> rfl

def empty : SessionTable where
  table := AutoTable.empty
  valid := fun _ member => nomatch member

/-- `update .. where id = ..` -/
def update (sessions : SessionTable) (sessionId : Id) (change : Change) : SessionTable where
  table := sessions.table.update (changeRow sessionId change) (changeRow_id sessionId change)
  valid := by
    intro row member
    obtain ⟨before, there, rfl⟩ := sessions.table.mem_update.mp member
    rw [changeRow_id]
    exact sessions.valid before there

/-- An update tells whether it changed a row. -/
def changes (sessions : SessionTable) (sessionId : Id) (change : Change) : Bool :=
  sessions.table.rows.any fun row => changeRow sessionId change row != row

/-- The row that is inserted. -/
def newRow (party : Party) (now sessionId : Nat) : SessionRow :=
  ⟨sessionId, party.userId, party.peerId, party.type, 0, now, now⟩

def insert (sessions : SessionTable) (party : Party) (now : Nat) : SessionTable where
  table := AutoTable.insert sessions.table (newRow party now) fun _ => rfl
  valid := by
    intro row member
    rcases sessions.table.mem_insert.mp member with there | rfl
    · exact sessions.valid row there
    · exact Nat.ne_of_gt sessions.table.positive

/-- The rows whose party is wanted. -/
def rowsOf (sessions : SessionTable) (wanted : Party → Bool) : List SessionRow :=
  sessions.table.rows.filter fun row => wanted row.party

/-- The rows of one party. -/
def sessionsOf (sessions : SessionTable) (party : Party) : List SessionRow :=
  sessions.rowsOf fun other => other == party

/-- `select id .. where userId = .. and peerId = .. and type = ..`, without or with
`and status = 0`. -/
def select (sessions : SessionTable) (party : Party) (isAll : Bool) : List Id :=
  ((sessions.sessionsOf party).filter fun row => isAll || row.status == 0).map fun row => row.id

end SessionTable

/-! ### A request -/

/-- The session table and the message rows. -/
structure Store where
  sessions : SessionTable
  messages : List MessageRow

namespace Store

def answered (changed : Bool) : Answer Unit :=
  if changed then .ok () else .failed

/-- Statements on the sessions succeed, at one time. The other operations are answered by the
environment. -/
def apply (now : Nat) (store : Store) : (op : MessageOp) → op.Reply → op.Reply × Store
  | .selectSession userId peerId sessionType isAll, _ =>
      (.ok (store.sessions.select ⟨userId, peerId, sessionType⟩ isAll), store)
  | .reopenSession sessionId, _ =>
      (answered (store.sessions.changes sessionId (reopen now)),
        { store with sessions := store.sessions.update sessionId (reopen now) })
  | .insertSession userId peerId sessionType, _ =>
      (.ok store.sessions.table.nextKey,
        { store with sessions := store.sessions.insert ⟨userId, peerId, sessionType⟩ now })
  | .touchSession sessionId updateTime, _ =>
      (answered (store.sessions.changes sessionId (touch updateTime)),
        { store with sessions := store.sessions.update sessionId (touch updateTime) })
  | .insertMessage row, .ok _ => (.ok (), { store with messages := store.messages ++ [row] })
  | _, answer => (answer, store)

/-- The store after a request. -/
def after (store : Store) (answers : (op : MessageOp) → op.Reply) (msg : MsgData) : Store :=
  ((sendMessage msg).exec (apply msg.now) answers store).2

/-- A row is inserted for the message of the request. -/
def Stores (store : Store) (answers : (op : MessageOp) → op.Reply) (msg : MsgData) : Prop :=
  ∃ row, (store.after answers msg).messages = store.messages ++ [row]

end Store

/-! ### The sessions of a message -/

/-- The session of the sender with the receiver. -/
def senderSession (msg : MsgData) : Party :=
  ⟨msg.fromUserId, msg.toSessionId, sessionTypeSingle⟩

/-- The session of the receiver with the sender. -/
def peerSession (msg : MsgData) : Party :=
  ⟨msg.toSessionId, msg.fromUserId, sessionTypeSingle⟩

namespace SessionTable

/-- The party has a session or none, active or removed. -/
def OneSession (sessions : SessionTable) (party : Party) : Prop :=
  (sessions.sessionsOf party).length ≤ 1

/-- The session of the party is there, is active, and has this update time. -/
def Touched (sessions : SessionTable) (party : Party) (now : Nat) : Prop :=
  ∃ row, sessions.sessionsOf party = [row] ∧ row.status = 0 ∧ row.updated = now

/-- The rows of all others. -/
def othersOf (sessions : SessionTable) (msg : MsgData) : List SessionRow :=
  sessions.rowsOf fun party => party != senderSession msg && party != peerSession msg

end SessionTable

/-- Both sessions are touched, and no other row is changed. -/
structure TouchesBoth (before after : SessionTable) (msg : MsgData) : Prop where
  sender : after.Touched (senderSession msg) msg.now
  peer : after.Touched (peerSession msg) msg.now
  others : after.othersOf msg = before.othersOf msg

/-- The session of the sender is active, with another update time, while that of the peer is
absent or removed. -/
structure LeftOut (sessions : SessionTable) (msg : MsgData) : Prop where
  sender : ∃ row ∈ sessions.sessionsOf (senderSession msg), row.status = 0 ∧ row.updated ≠ msg.now
  peer : ∀ row ∈ sessions.sessionsOf (peerSession msg), row.status ≠ 0

/-! ### Rows of a party -/

namespace SessionTable

section Rows

variable {sessions : SessionTable} {party : Party} {wanted : Party → Bool} {row : SessionRow}
  {sessionId now : Nat} {change : Change}

theorem mem_rowsOf :
    row ∈ sessions.rowsOf wanted ↔ row ∈ sessions.table.rows ∧ wanted row.party = true :=
  List.mem_filter

theorem party_of_mem (member : row ∈ sessions.sessionsOf party) : row.party = party :=
  beq_iff_eq.mp (mem_rowsOf.mp member).2

theorem rowsOf_update (sessions : SessionTable) (sessionId : Id) (change : Change)
    (wanted : Party → Bool) :
    (sessions.update sessionId change).rowsOf wanted =
      (sessions.rowsOf wanted).map (changeRow sessionId change) := by
  unfold rowsOf update AutoTable.update
  rw [List.filter_map]
  congr 2
  funext row
  exact congrArg wanted (changeRow_party sessionId change row)

theorem rowsOf_insert (sessions : SessionTable) (party : Party) (now : Nat)
    (wanted : Party → Bool) :
    (sessions.insert party now).rowsOf wanted =
      sessions.rowsOf wanted ++
        if wanted party then [newRow party now sessions.table.nextKey] else [] := by
  unfold rowsOf insert AutoTable.insert
  rw [List.filter_append, List.filter_singleton, Bool.cond_eq_ite]
  rfl

/-- An update of an id that the wanted rows do not have. -/
theorem rowsOf_update_of_ne (other : ∀ row ∈ sessions.rowsOf wanted, row.id ≠ sessionId) :
    (sessions.update sessionId change).rowsOf wanted = sessions.rowsOf wanted := by
  have same : (sessions.rowsOf wanted).map (changeRow sessionId change) =
      (sessions.rowsOf wanted).map id :=
    List.map_congr_left fun row member => if_neg (other row member)
  rw [rowsOf_update, same, List.map_id]

/-- Ids of different parties differ. -/
theorem id_ne_of_unwanted (member : row ∈ sessions.sessionsOf party)
    (unwanted : wanted party = false) : ∀ other ∈ sessions.rowsOf wanted, other.id ≠ row.id := by
  intro other among same
  have equal : other = row := List.inj_on_of_nodup_map sessions.table.distinct
    (mem_rowsOf.mp among).1 (mem_rowsOf.mp member).1 same
  have kept := (mem_rowsOf.mp among).2
  rw [equal, party_of_mem member, unwanted] at kept
  cases kept

theorem rowsOf_update_of_unwanted (member : row ∈ sessions.sessionsOf party)
    (unwanted : wanted party = false) :
    (sessions.update row.id change).rowsOf wanted = sessions.rowsOf wanted :=
  rowsOf_update_of_ne (id_ne_of_unwanted member unwanted)

theorem rowsOf_update_invalid :
    (sessions.update invalidValue change).rowsOf wanted = sessions.rowsOf wanted :=
  rowsOf_update_of_ne fun row member => sessions.valid row (mem_rowsOf.mp member).1

theorem sessionsOf_update_own (only : sessions.sessionsOf party = [row]) :
    (sessions.update row.id change).sessionsOf party =
      [{ row with status := change.status row.status, updated := change.updated }] := by
  unfold sessionsOf at only ⊢
  rw [rowsOf_update, only]
  exact congrArg (fun row => [row]) (if_pos rfl)

/-- No session of the party is active. -/
def Inactive (sessions : SessionTable) (party : Party) : Prop :=
  ∀ row ∈ sessions.sessionsOf party, row.status ≠ 0

theorem select_inactive (inactive : sessions.Inactive party) :
    sessions.select party false = [] := by
  unfold select
  rw [List.map_eq_nil_iff, List.filter_eq_nil_iff]
  intro row member active
  exact inactive row member (beq_iff_eq.mp active)

theorem select_active (only : sessions.sessionsOf party = [row]) (active : row.status = 0) :
    sessions.select party false = [row.id] := by
  unfold select
  rw [only, List.filter_singleton, active]
  rfl

theorem select_all (sessions : SessionTable) (party : Party) :
    sessions.select party true = (sessions.sessionsOf party).map fun row => row.id :=
  congrArg (List.map _) (List.filter_eq_self.mpr fun _ _ => rfl)

/-- A party with one session or none has an active one, or none is active. -/
theorem OneSession.cases (one : sessions.OneSession party) :
    (∃ row, sessions.sessionsOf party = [row] ∧ row.status = 0) ∨ sessions.Inactive party := by
  unfold OneSession at one
  unfold Inactive
  cases found : sessions.sessionsOf party with
  | nil => exact .inr fun row member => absurd member List.not_mem_nil
  | cons row rest =>
      rw [found, List.length_cons] at one
      obtain rfl : rest = [] := List.length_eq_zero_iff.mp (by omega)
      by_cases active : row.status = 0
      · exact .inl ⟨row, rfl, active⟩
      · right
        intro other member
        rw [List.mem_singleton.mp member]
        exact active

theorem Touched.congr {after : SessionTable} (touched : sessions.Touched party now)
    (same : after.sessionsOf party = sessions.sessionsOf party) : after.Touched party now := by
  unfold Touched
  rw [same]
  exact touched

theorem touched_update_own (only : sessions.sessionsOf party = [row]) (open_ : row.status = 0) :
    (sessions.update row.id (touch now)).Touched party now :=
  ⟨_, sessionsOf_update_own only, open_, rfl⟩

/-! ### Adding a session -/

/-- The session of the party was added or reopened, under this id; nothing else changed. -/
structure Added (before after : SessionTable) (party : Party) (now : Nat) (sessionId : Id) :
    Prop where
  row : ∃ row, after.sessionsOf party = [row] ∧ row.id = sessionId ∧ row.status = 0 ∧
    row.updated = now
  others : ∀ wanted : Party → Bool, wanted party = false →
    after.rowsOf wanted = before.rowsOf wanted

theorem added_reopen (only : sessions.sessionsOf party = [row]) :
    Added sessions (sessions.update row.id (reopen now)) party now row.id where
  row := ⟨_, sessionsOf_update_own only, rfl, rfl, rfl⟩
  others := fun _ unwanted =>
    rowsOf_update_of_unwanted (only ▸ List.mem_singleton_self row) unwanted

theorem added_insert (none : sessions.sessionsOf party = []) :
    Added sessions (sessions.insert party now) party now sessions.table.nextKey where
  row := by
    refine ⟨newRow party now sessions.table.nextKey, ?_, rfl, rfl, rfl⟩
    unfold sessionsOf at none ⊢
    rw [rowsOf_insert, none, if_pos (beq_iff_eq.mpr rfl)]
    rfl
  others := by
    intro wanted unwanted
    rw [rowsOf_insert, unwanted]
    exact List.append_nil _

end Rows

end SessionTable

open SessionTable

/-! ### The programs -/

section Programs

variable (answers : (op : MessageOp) → op.Reply) {store : Store} {party : Party} (now : Nat)

theorem exec_getSessionId (party : Party) (isAll : Bool) :
    (SessionModel.getSessionId party.userId party.peerId party.type isAll).exec (Store.apply now)
      answers store = (lastId (store.sessions.select party isAll), store) :=
  rfl

theorem exec_reopenSession {sessionId : Id}
    (changed : store.sessions.changes sessionId (reopen now) = true) :
    (do match ← issue (.reopenSession sessionId) with
        | .failed => return invalidValue
        | _ => return sessionId : MessageProg Id).exec (Store.apply now) answers store =
      (sessionId, { store with sessions := store.sessions.update sessionId (reopen now) }) := by
  rw [Prog.perform_bind, Prog.exec_call]
  have reopened : (Store.apply now store (.reopenSession sessionId)
      (answers (.reopenSession sessionId))).1 = Answer.ok () := by
    show Store.answered (store.sessions.changes sessionId (reopen now)) = _
    rw [changed]
    rfl
  rw [reopened]
  rfl

/-- `addSession` for a party without an active session. -/
theorem exec_addSession (one : store.sessions.OneSession party)
    (inactive : store.sessions.Inactive party) :
    ∃ sessionId sessions,
      (SessionModel.addSession party.userId party.peerId party.type).exec (Store.apply now)
        answers store = (sessionId, { store with sessions := sessions }) ∧
      Added store.sessions sessions party now sessionId := by
  unfold SessionModel.addSession
  rw [Prog.exec_bind, exec_getSessionId, select_all]
  cases found : store.sessions.sessionsOf party with
  | nil =>
      exact ⟨_, _, rfl, added_insert found⟩
  | cons row rest =>
      unfold OneSession at one
      rw [found, List.length_cons] at one
      obtain rfl : rest = [] := List.length_eq_zero_iff.mp (by omega)
      have member : row ∈ store.sessions.sessionsOf party := found ▸ List.mem_singleton_self row
      have there := (mem_rowsOf.mp member).1
      have changed : store.sessions.changes row.id (reopen now) = true := by
        refine List.any_eq_true.mpr ⟨row, there, bne_iff_ne.mpr fun same => ?_⟩
        have status := congrArg SessionRow.status same
        unfold changeRow at status
        rw [if_pos rfl] at status
        exact inactive row member status.symm
      have valid : row.id ≠ invalidValue := store.sessions.valid row there
      exact ⟨row.id, _, (if_pos valid).symm ▸ exec_reopenSession answers now changed, added_reopen found⟩

/-- The session of the party is open under this id. It is the one that was active, or it was
opened now. -/
structure Opened (before after : SessionTable) (party : Party) (now : Nat) (sessionId : Id) :
    Prop where
  row : ∃ row, after.sessionsOf party = [row] ∧ row.id = sessionId ∧ row.status = 0 ∧
    (before.sessionsOf party = [row] ∨ before.Inactive party ∧ row.updated = now)
  others : ∀ wanted : Party → Bool, wanted party = false →
    after.rowsOf wanted = before.rowsOf wanted

theorem exec_openSession (one : store.sessions.OneSession party) :
    ∃ sessionId sessions,
      (openSession party.userId party.peerId party.type).exec (Store.apply now) answers store =
        (sessionId, { store with sessions := sessions }) ∧
      Opened store.sessions sessions party now sessionId := by
  unfold openSession
  rw [Prog.exec_bind, exec_getSessionId]
  rcases one.cases with active | inactive
  · obtain ⟨row, only, open_⟩ := active
    rw [select_active only open_]
    have there := (mem_rowsOf.mp (only ▸ List.mem_singleton_self row)).1
    have valid : ¬lastId [row.id] = invalidValue := store.sessions.valid row there
    rw [if_neg valid]
    exact ⟨row.id, store.sessions, rfl, ⟨row, only, rfl, open_, .inl only⟩, fun _ _ => rfl⟩
  · rw [select_inactive inactive, if_pos (show lastId [] = invalidValue from rfl)]
    obtain ⟨sessionId, sessions, runs, added⟩ := exec_addSession answers now one inactive
    obtain ⟨row, only, key, open_, updated⟩ := added.row
    exact ⟨sessionId, sessions, runs, ⟨row, only, key, open_, .inr ⟨inactive, updated⟩⟩,
      added.others⟩

end Programs

/-! ### Both sessions -/

section Both

variable (answers : (op : MessageOp) → op.Reply) {store : Store} {msg : MsgData}
  {before opened : SessionTable} {sender peer : SessionRow}

theorem peerSession_ne (different : msg.fromUserId ≠ msg.toSessionId) :
    (peerSession msg == senderSession msg) = false := by
  rw [beq_eq_false_iff_ne]
  intro same
  exact different (congrArg Party.peerId same)

theorem senderSession_ne (different : msg.fromUserId ≠ msg.toSessionId) :
    (senderSession msg == peerSession msg) = false := by
  rw [beq_eq_false_iff_ne]
  intro same
  exact different (congrArg Party.userId same)

/-- The two updates at the end, when both ids are known. -/
theorem touchesBoth_of_ids (different : msg.fromUserId ≠ msg.toSessionId)
    (senderOnly : opened.sessionsOf (senderSession msg) = [sender]) (senderOpen : sender.status = 0)
    (peerOnly : opened.sessionsOf (peerSession msg) = [peer]) (peerOpen : peer.status = 0)
    (others : opened.othersOf msg = before.othersOf msg) :
    TouchesBoth before
      ((opened.update sender.id (touch msg.now)).update peer.id (touch msg.now)) msg := by
  have senderMember : sender ∈ opened.sessionsOf (senderSession msg) :=
    senderOnly ▸ List.mem_singleton_self sender
  have peerKept : (opened.update sender.id (touch msg.now)).sessionsOf (peerSession msg) = [peer] :=
    (rowsOf_update_of_unwanted senderMember (senderSession_ne different)).trans peerOnly
  have peerMember : peer ∈ (opened.update sender.id (touch msg.now)).sessionsOf (peerSession msg) :=
    peerKept ▸ List.mem_singleton_self peer
  refine ⟨?_, ?_, ?_⟩
  · exact (touched_update_own senderOnly senderOpen).congr
      (rowsOf_update_of_unwanted peerMember (peerSession_ne different))
  · exact touched_update_own peerKept peerOpen
  · unfold othersOf at others ⊢
    rw [rowsOf_update_of_unwanted peerMember (by simp),
      rowsOf_update_of_unwanted senderMember (by simp), others]

/-- The two updates at the end, when the id of the peer's session stands for the sender's. -/
theorem touchesBoth_of_peerId (different : msg.fromUserId ≠ msg.toSessionId)
    (senderOnly : opened.sessionsOf (senderSession msg) = [sender]) (senderOpen : sender.status = 0)
    (peerOnly : opened.sessionsOf (peerSession msg) = [peer]) (peerOpen : peer.status = 0)
    (others : opened.othersOf msg = before.othersOf msg) :
    TouchesBoth before
        ((opened.update peer.id (touch msg.now)).update invalidValue (touch msg.now)) msg ↔
      sender.updated = msg.now := by
  have peerMember : peer ∈ opened.sessionsOf (peerSession msg) :=
    peerOnly ▸ List.mem_singleton_self peer
  have senderKept : ((opened.update peer.id (touch msg.now)).update invalidValue
      (touch msg.now)).sessionsOf (senderSession msg) = [sender] := by
    unfold sessionsOf at senderOnly ⊢
    rw [rowsOf_update_invalid, rowsOf_update_of_unwanted peerMember (peerSession_ne different),
      senderOnly]
  constructor
  · intro touches
    obtain ⟨row, only, _, updated⟩ := touches.sender
    cases senderKept.symm.trans only
    exact updated
  · intro updated
    refine ⟨⟨sender, senderKept, senderOpen, updated⟩, ?_, ?_⟩
    · exact (touched_update_own peerOnly peerOpen).congr rowsOf_update_invalid
    · unfold othersOf at others ⊢
      rw [rowsOf_update_invalid, rowsOf_update_of_unwanted peerMember (by simp), others]

/-- What the end of a request makes of the sessions that were opened for it. -/
theorem exec_openSessions (different : msg.fromUserId ≠ msg.toSessionId)
    (oneSender : store.sessions.OneSession (senderSession msg))
    (onePeer : store.sessions.OneSession (peerSession msg)) :
    ∃ sessionId peerSessionId sessions,
      (openSessions msg.fromUserId msg.toSessionId).exec (Store.apply msg.now) answers store =
        ((sessionId, peerSessionId), { store with sessions := sessions }) ∧
      (TouchesBoth store.sessions
          ((sessions.update sessionId (touch msg.now)).update peerSessionId (touch msg.now)) msg ↔
        ¬LeftOut store.sessions msg) := by
  obtain ⟨_, sessions, runs, openedSender⟩ :=
    exec_openSession answers msg.now oneSender
  obtain ⟨sender, senderOnly, rfl, senderOpen, origin⟩ := openedSender.row
  have peerKept : sessions.sessionsOf (peerSession msg) =
      store.sessions.sessionsOf (peerSession msg) :=
    openedSender.others _ (senderSession_ne different)
  have othersKept : sessions.othersOf msg = store.sessions.othersOf msg :=
    openedSender.others _ (by simp)
  have runsSender : (openSession msg.fromUserId msg.toSessionId sessionTypeSingle).exec
      (Store.apply msg.now) answers store = (sender.id, { store with sessions := sessions }) := runs
  have onePeer' : sessions.OneSession (peerSession msg) := by
    unfold OneSession
    rw [peerKept]
    exact onePeer
  have runsSelect : ∀ isAll, (SessionModel.getSessionId msg.toSessionId msg.fromUserId
      sessionTypeSingle isAll).exec (Store.apply msg.now) answers
        { store with sessions := sessions } =
      (lastId (sessions.select (peerSession msg) isAll), { store with sessions := sessions }) :=
    fun _ => rfl
  unfold openSessions
  rw [Prog.exec_bind, runsSender, Prog.exec_bind, runsSelect]
  rcases onePeer'.cases with active | inactive
  · obtain ⟨peer, peerOnly, peerOpen⟩ := active
    have there := (mem_rowsOf.mp (peerOnly ▸ List.mem_singleton_self peer)).1
    rw [select_active peerOnly peerOpen,
      if_neg (show ¬lastId [peer.id] = invalidValue from sessions.valid peer there)]
    refine ⟨sender.id, peer.id, sessions, rfl, iff_of_true ?_ ?_⟩
    · exact touchesBoth_of_ids different senderOnly senderOpen peerOnly peerOpen othersKept
    · intro leftOut
      exact leftOut.peer peer (peerKept ▸ peerOnly ▸ List.mem_singleton_self peer) peerOpen
  · obtain ⟨_, opened, runsPeer, added⟩ :=
      @exec_addSession answers { store with sessions := sessions } _ msg.now onePeer' inactive
    obtain ⟨peer, peerOnly, rfl, peerOpen, _⟩ := added.row
    have senderKept := (added.others _ (peerSession_ne different)).trans senderOnly
    have others := (added.others _ (by simp)).trans othersKept
    rw [select_inactive inactive, if_pos (show lastId [] = invalidValue from rfl)]
    refine ⟨peer.id, invalidValue, opened, ?_, ?_⟩
    · have runsAdd : (SessionModel.addSession msg.toSessionId msg.fromUserId
          sessionTypeSingle).exec (Store.apply msg.now) answers { store with sessions := sessions } =
          (peer.id, { store with sessions := opened }) := runsPeer
      rw [Prog.exec_bind, runsAdd]
      rfl
    · rw [touchesBoth_of_peerId different senderKept senderOpen peerOnly peerOpen others]
      rcases origin with active | opened
      · constructor
        · intro updated leftOut
          obtain ⟨row, member, _, other⟩ := leftOut.sender
          rw [active] at member
          cases List.mem_singleton.mp member
          exact other updated
        · intro notLeftOut
          by_contra other
          refine notLeftOut ⟨⟨sender, ?_, senderOpen, other⟩, ?_⟩
          · exact active ▸ List.mem_singleton_self sender
          · intro row member
            exact inactive row (peerKept ▸ member)
      · refine iff_of_true opened.2 ?_
        intro leftOut
        obtain ⟨row, member, active, _⟩ := leftOut.sender
        exact opened.1 row member active

end Both

/-! ### The request -/

section Request

variable (answers : (op : MessageOp) → op.Reply) {store : Store} {msg : MsgData} (now : Nat)
  {α : Type} {prog : MessageProg α}

/-- Operations that leave the sessions alone. -/
def KeepsSessions (op : MessageOp) : Prop :=
  ¬SessionOp op

/-- Operations that insert no message row. -/
def KeepsMessages : MessageOp → Prop
  | .insertMessage _ => False
  | _ => True

theorem exec_sessions (issues : prog.Issues KeepsSessions) (store : Store) :
    (prog.exec (Store.apply now) answers store).2.sessions = store.sessions := by
  refine @Prog.Issues.exec _ _ _ KeepsSessions _ (Store.apply now)
    (fun before after => after.sessions = before.sessions) prog issues (fun _ => rfl) ?_ ?_ answers store
  · intro _ _ _ first second
    exact second.trans first
  intro op answer store keeps
  unfold Store.apply
  split <;> first | rfl | exact absurd trivial keeps

theorem exec_messages (issues : prog.Issues KeepsMessages) (store : Store) :
    (prog.exec (Store.apply now) answers store).2.messages = store.messages := by
  refine @Prog.Issues.exec _ _ _ KeepsMessages _ (Store.apply now)
    (fun before after => after.messages = before.messages) prog issues (fun _ => rfl) ?_ ?_ answers store
  · intro _ _ _ first second
    exact second.trans first
  intro op answer store keeps
  unfold Store.apply
  split <;> first | rfl | cases keeps

theorem RelationOp.keepsSessions (op : MessageOp) (relation : RelationOp op) :
    KeepsSessions op := by
  intro session
  cases op <;> first | exact relation | exact session

theorem RelationOp.keepsMessages (op : MessageOp) (relation : RelationOp op) :
    KeepsMessages op := by
  cases op <;> trivial

theorem SessionOp.keepsMessages (op : MessageOp) (session : SessionOp op) : KeepsMessages op := by
  cases op <;> trivial

theorem storeMessage_keepsSessions (relateId fromId toId msgType createTime msgId : Nat)
    (content : Content) :
    (MessageModel.sendMessage relateId fromId toId msgType createTime msgId content).Issues
      KeepsSessions := by
  unfold MessageModel.sendMessage
  split
  · trivial
  · refine ⟨id, fun answer => ?_⟩
    cases answer with
    | noConnection => trivial
    | failed => trivial
    | ok => exact ⟨id, fun _ => trivial⟩

theorem AudioOp.keepsSessions (op : MessageOp) (audio : AudioOp op) : KeepsSessions op := by
  intro session
  cases op <;> first | exact audio | exact session

theorem storeAudio_keepsSessions (relateId fromId toId msgType createTime msgId : Nat)
    (content : Content) :
    (MessageModel.sendAudioMessage relateId fromId toId msgType createTime msgId content).Issues
      KeepsSessions := by
  unfold MessageModel.sendAudioMessage
  split
  · trivial
  · apply ((saveAudioInfo_audioOp fromId toId createTime content).mono AudioOp.keepsSessions).bind
    intro audioId
    split
    · exact storeMessage_keepsSessions ..
    · trivial

theorem userStore_keepsSessions (msgType relateId fromId toId createTime msgId : Nat)
    (content : Content) :
    (userStore msgType relateId fromId toId msgType createTime msgId content).Issues
      KeepsSessions := by
  unfold userStore
  split
  · exact storeAudio_keepsSessions ..
  · exact storeMessage_keepsSessions ..

theorem exec_updateSession (sessionId updateTime : Nat) (store : Store) :
    ((SessionModel.updateSession sessionId updateTime).exec (Store.apply now) answers store).2 =
      { store with sessions := store.sessions.update sessionId (touch updateTime) } := by
  unfold SessionModel.updateSession
  rw [Prog.perform_bind, Prog.exec_call]
  split <;> rfl

/-- A request either inserts no row, or ends with the two updates. -/
theorem exec_sendToUser {sessionId peerSessionId : Id} {sessions : SessionTable}
    (different : msg.fromUserId ≠ msg.toSessionId)
    (opens : (openSessions msg.fromUserId msg.toSessionId).exec (Store.apply now) answers store =
      ((sessionId, peerSessionId), { store with sessions := sessions })) :
    let after := ((sendToUser (userStore msg.msgType) msg).exec (Store.apply now) answers store).2
    after.messages = store.messages ∨
      after.sessions =
        (sessions.update sessionId (touch msg.now)).update peerSessionId (touch msg.now) := by
  have relation := getRelationId_relationOp msg.fromUserId msg.toSessionId true
  unfold sendToUser
  rw [if_neg different, Prog.exec_bind, opens]
  simp only [Prog.exec_bind]
  have messages := exec_messages answers now
    (relation.mono RelationOp.keepsMessages) { store with sessions := sessions }
  have kept := exec_sessions answers now
    (relation.mono RelationOp.keepsSessions) { store with sessions := sessions }
  generalize (RelationModel.getRelationId msg.fromUserId msg.toSessionId true).exec
    (Store.apply now) answers { store with sessions := sessions } = related at messages kept ⊢
  split
  · have counted : (getMsgId (.relation related.1)).Issues KeepsMessages :=
      ⟨trivial, fun _ => trivial⟩
    have counts : (getMsgId (.relation related.1)).Issues KeepsSessions :=
      ⟨id, fun _ => trivial⟩
    have messagesCounted :=
      (exec_messages answers now counted related.2).trans messages
    have keptCounted :=
      (exec_sessions answers now counts related.2).trans kept
    rw [Prog.exec_bind]
    generalize (getMsgId (.relation related.1)).exec (Store.apply now) answers related.2 = count
      at messagesCounted keptCounted ⊢
    split
    · right
      have stored := exec_sessions answers now
        (userStore_keepsSessions msg.msgType related.1 msg.fromUserId msg.toSessionId
          msg.createTime count.1 msg.msgData) count.2
      simp only [Prog.exec_bind, exec_updateSession]
      rw [Prog.pure_eq_done, Prog.exec_done, stored, keptCounted]
    · exact .inl messagesCounted
  · exact .inl messages

end Request

/-- A message to one user that is stored leaves both sessions touched, and no other row changed,
exactly unless the sender's session is active with another update time while that of the peer
is absent or removed. -/
theorem touchesBoth_iff_not_leftOut (store : Store) (answers : (op : MessageOp) → op.Reply)
    (msg : MsgData) (single : isGroupType msg.msgType = false)
    (oneSender : store.sessions.OneSession (senderSession msg))
    (onePeer : store.sessions.OneSession (peerSession msg))
    (stores : store.Stores answers msg) :
    TouchesBoth store.sessions (store.after answers msg).sessions msg ↔
      ¬LeftOut store.sessions msg := by
  obtain ⟨row, inserted⟩ := stores
  have changed : (store.after answers msg).messages ≠ store.messages := by
    intro same
    have length := congrArg List.length (inserted.symm.trans same)
    rw [List.length_append, List.length_singleton] at length
    omega
  unfold Store.after at changed ⊢
  by_cases rejected : msgTypeIsValid msg.msgType = false ∨ msg.msgData.length = 0
  · rw [sendMessage_rejected rejected] at changed
    exact absurd rfl changed
  obtain ⟨valid, filled⟩ := not_or.mp rejected
  rw [sendMessage_toUser (Bool.not_eq_false _ ▸ valid) filled single] at changed ⊢
  by_cases self : msg.fromUserId = msg.toSessionId
  · unfold sendToUser at changed
    rw [if_pos self] at changed
    exact absurd rfl changed
  obtain ⟨sessionId, peerSessionId, sessions, opens, touches⟩ :=
    exec_openSessions answers self oneSender onePeer
  rcases exec_sendToUser answers msg.now self opens with same | updated
  · exact absurd same changed
  · rw [updated]
    exact touches

/-- A text from user 1 to user 2, at time 9. -/
def text : MsgData where
  fromUserId := 1
  toSessionId := 2
  createTime := 9
  msgType := msgTypeSingleText
  msgData := [104, 105]
  now := 9

/-- User 1 has an active session with user 2, last touched at time 5. -/
def oneSided : Store where
  sessions := SessionTable.empty.insert (senderSession text) 5
  messages := []

def bothSided : Store where
  sessions := oneSided.sessions.insert (peerSession text) 7
  messages := []

theorem touchesBoth_bothSided :
    TouchesBoth bothSided.sessions (bothSided.after succeeding text).sessions text ↔
      ¬LeftOut bothSided.sessions text :=
  touchesBoth_iff_not_leftOut bothSided succeeding text (by decide) (by decide : _ ≤ 1)
    (by decide : _ ≤ 1) ⟨⟨9, 1, 2, 3, [104, 105], 0, 1, 9⟩, by decide⟩

/-- The message is stored, and the sender's session still has time 5. -/
theorem oneSided_not_touchesBoth :
    oneSided.Stores succeeding text ∧
      ¬TouchesBoth oneSided.sessions (oneSided.after succeeding text).sessions text := by
  refine ⟨⟨⟨9, 1, 2, 3, [104, 105], 0, 1, 9⟩, by decide⟩, ?_⟩
  intro touches
  obtain ⟨row, only, _, updated⟩ := touches.sender
  have kept : (oneSided.after succeeding text).sessions.sessionsOf (senderSession text) =
      [⟨1, 1, 2, 1, 0, 5, 5⟩] := by decide
  cases kept.symm.trans only
  cases updated

end SessionTouch

end AChat.DbProxy
