import Mathlib.Data.Nat.Basic
import AChat.Lib.Reach
import AChat.MsgServer.SingleDelivery

/-!
Contract: what becomes of every entry in the list of messages that wait for an acknowledgement.

Entries are put at the end with the time, so that the list stays in the order of the times. An
acknowledgement takes out at most one entry, from anywhere, and the timer the overdue ones, from
the front, which it counts as missed.

Owns: the ledger of one connection and its runs.
-/

namespace AChat.MsgServer

open Lib

/-! ### The ledger -/

/-- What happens to one connection. `receive` is any data from the client. -/
inductive AckEvent where
  | addToSendList (msgId : Nat) (fromId : UserId)
  | receive
  | msgDataAck (pdu : Pdu)
  | msgReadAck (peers : Peers) (pdu : Pdu)
  | onTimer

/-- The registry, the time of the last event, the calls of the timer that left the connection
open, and what was put into the list, what each acknowledgement took out, and what the timer
took out. -/
structure Ledger where
  reg : Registry
  clock : Nat
  ticks : List Nat
  added : List MsgAck
  acked : List (List MsgAck)
  missed : List MsgAck

namespace Ledger

section Runs

variable (conn : ConnPtr)

/-- The entries that wait. -/
def pending (ledger : Ledger) : List MsgAck :=
  (ledger.reg.conns conn).sendMsgList

/-- What is in the list before and not after. -/
def gone (before after : Registry) : List MsgAck :=
  (before.conns conn).sendMsgList.diff (after.conns conn).sendMsgList

/-- One event at a time. -/
def step (ledger : Ledger) (event : Nat × AckEvent) : Ledger :=
  let tick := event.1
  match event.2 with
  | .addToSendList msgId fromId =>
      { ledger with
        reg := ledger.reg.addToSendList conn msgId fromId tick
        clock := tick
        added := ledger.added ++ [⟨msgId, fromId, tick⟩] }
  | .receive =>
      { ledger with
        reg := ledger.reg.modifyConn conn fun value => { value with lastRecvTick := tick }
        clock := tick }
  | .msgDataAck pdu =>
      let after := ledger.reg.handleClientMsgDataAck conn pdu
      { ledger with
        reg := after
        clock := tick
        acked := ledger.acked ++ [gone conn ledger.reg after] }
  | .msgReadAck peers pdu =>
      let after := (ledger.reg.handleClientMsgReadAck peers conn pdu).1
      { ledger with
        reg := after
        clock := tick
        acked := ledger.acked ++ [gone conn ledger.reg after] }
  | .onTimer =>
      let after := (ledger.reg.onTimer conn tick).1
      { ledger with
        reg := after
        clock := tick
        ticks := if (after.conns conn).closed then ledger.ticks else ledger.ticks ++ [tick]
        missed := ledger.missed ++ gone conn ledger.reg after }

/-- The connection is open and the clock does not go back. -/
def Continues (ledger : Ledger) (event : Nat × AckEvent) : Prop :=
  (ledger.reg.conns conn).closed = false ∧ ledger.clock ≤ event.1

instance (ledger : Ledger) (event : Nat × AckEvent) : Decidable (ledger.Continues conn event) :=
  inferInstanceAs (Decidable (_ ∧ _))

/-- A connection at which nothing was put into the list yet. -/
def start (reg : Registry) : Ledger :=
  ⟨reg, 0, [], [], [], []⟩

/-- The list is in the order of the times. Every entry waits, or was taken out by one
acknowledgement, or was missed and counted. Nothing waits that was overdue at a call of the
timer. -/
structure Accounted (downMsgMissCnt : Nat) (ledger : Ledger) : Prop where
  sorted : (ledger.pending conn).Pairwise (·.timestamp ≤ ·.timestamp)
  accounts : ledger.added.Perm (ledger.pending conn ++ ledger.acked.flatten ++ ledger.missed)
  oneEach : ∀ removed ∈ ledger.acked, removed.length ≤ 1
  counted : ledger.reg.downMsgMissCnt = downMsgMissCnt + ledger.missed.length
  expired : ∀ tick ∈ ledger.ticks, ∀ ack ∈ ledger.pending conn,
    tick < ack.timestamp + timeoutWaitingMsgDataAck

/-- The list and the calls of the timer are not ahead of the clock. -/
structure InTime (ledger : Ledger) : Prop where
  stamped : ∀ ack ∈ ledger.pending conn, ack.timestamp ≤ ledger.clock
  ticked : ∀ tick ∈ ledger.ticks, tick ≤ ledger.clock

end Runs

/-! ### What is taken out -/

/-- What is left of a list and what is gone from it is the list. -/
theorem perm_left_diff {before after : List MsgAck} (part : after.Sublist before) :
    (after ++ before.diff after).Perm before :=
  List.subperm_append_diff_self_of_count_le fun _ _ => part.count_le _

theorem length_diff {before after : List MsgAck} (part : after.Sublist before) :
    (before.diff after).length = before.length - after.length := by
  have lengths := (perm_left_diff part).length_eq
  rw [List.length_append] at lengths
  omega

section Steps

variable {conn : ConnPtr} {reg : Registry}

theorem removeIfEmpty_downMsgMissCnt (reg : Registry) (user : UserPtr) :
    (reg.removeIfEmpty user).downMsgMissCnt = reg.downMsgMissCnt := by
  unfold Registry.removeIfEmpty
  split
  · rfl
  · rfl

/-- `Close` leaves the list and the count alone. -/
theorem close_keeps (reg : Registry) (conn : ConnPtr) :
    ((reg.close conn).1.conns conn).sendMsgList = (reg.conns conn).sendMsgList ∧
      ((reg.close conn).1.conns conn).closed = true ∧
      (reg.close conn).1.downMsgMissCnt = reg.downMsgMissCnt := by
  have byId (left : Registry) :
      (left.closeById conn).1.downMsgMissCnt = left.downMsgMissCnt := by
    unfold Registry.closeById
    split
    · rfl
    · exact removeIfEmpty_downMsgMissCnt _ _
  have byLoginName (left : Registry) :
      (left.closeByLoginName conn).downMsgMissCnt = left.downMsgMissCnt := by
    unfold Registry.closeByLoginName
    split
    · rfl
    · exact removeIfEmpty_downMsgMissCnt _ _
  rw [(Shrinks.close reg conn).conns]
  refine ⟨?_, ?_, (byLoginName _).trans (byId _)⟩
  · simp [Registry.markClosed]
  · simp [Registry.markClosed]

/-- The registry after an acknowledgement: at most one entry less, and nothing counted. -/
structure TakesOne (conn : ConnPtr) (before after : Registry) : Prop where
  part : (after.conns conn).sendMsgList.Sublist (before.conns conn).sendMsgList
  one : (before.conns conn).sendMsgList.length ≤ (after.conns conn).sendMsgList.length + 1
  counted : after.downMsgMissCnt = before.downMsgMissCnt

theorem TakesOne.none (reg : Registry) : TakesOne conn reg reg :=
  ⟨.refl _, Nat.le_succ _, rfl⟩

theorem TakesOne.delFromSendList (reg : Registry) (msgId fromId : Nat) :
    TakesOne conn reg (reg.delFromSendList conn msgId fromId) := by
  unfold Registry.delFromSendList
  refine ⟨?_, ?_, rfl⟩
  · rw [Registry.modifyConn_self]
    exact List.eraseP_sublist
  · rw [Registry.modifyConn_self]
    simp only
    rw [List.length_eraseP]
    split
    · omega
    · omega

theorem TakesOne.msgDataAck (reg : Registry) (pdu : Pdu) :
    TakesOne conn reg (reg.handleClientMsgDataAck conn pdu) := by
  unfold Registry.handleClientMsgDataAck
  split
  · split
    · exact .delFromSendList reg _ _
    · exact .none reg
  · exact .none reg

theorem TakesOne.msgReadAck (reg : Registry) (peers : Peers) (pdu : Pdu) :
    TakesOne conn reg (reg.handleClientMsgReadAck peers conn pdu).1 := by
  unfold Registry.handleClientMsgReadAck
  split
  · simp only
    split
    · exact .delFromSendList reg _ _
    · exact .none reg
  · exact .none reg

/-- The registry after a call of the timer: the connection is closed with the list as it was, or
what was overdue is gone and counted. -/
inductive Ticks (conn : ConnPtr) (tick : Nat) (before after : Registry) : Prop where
  | closes (list : (after.conns conn).sendMsgList = (before.conns conn).sendMsgList)
      (closed : (after.conns conn).closed = true)
      (counted : after.downMsgMissCnt = before.downMsgMissCnt)
  | drops (list : (after.conns conn).sendMsgList =
        (before.conns conn).sendMsgList.dropWhile fun ack =>
          ack.timestamp + timeoutWaitingMsgDataAck ≤ tick)
      (closed : (after.conns conn).closed = (before.conns conn).closed)
      (counted : after.downMsgMissCnt = before.downMsgMissCnt +
        ((before.conns conn).sendMsgList.takeWhile fun ack =>
          ack.timestamp + timeoutWaitingMsgDataAck ≤ tick).length)

theorem drop_length_takeWhile (list : List MsgAck) (old : MsgAck → Bool) :
    list.drop (list.takeWhile old).length = list.dropWhile old := by
  have parts := List.takeWhile_append_dropWhile (p := old) (l := list)
  calc
    list.drop (list.takeWhile old).length
        = (list.takeWhile old ++ list.dropWhile old).drop (list.takeWhile old).length := by
          rw [parts]
    _ = list.dropWhile old := List.drop_left

theorem ticks_onTimer (reg : Registry) (conn : ConnPtr) (tick : Nat) :
    Ticks conn tick reg (reg.onTimer conn tick).1 := by
  have reset : ((reg.resetMsgCnt conn).conns conn).sendMsgList = (reg.conns conn).sendMsgList := by
    simp [Registry.resetMsgCnt]
  unfold Registry.onTimer
  split
  · have keeps := close_keeps (reg.resetMsgCnt conn) conn
    exact .closes (keeps.1.trans reset) keeps.2.1 keeps.2.2
  · refine .drops ?_ ?_ ?_
    · rw [← drop_length_takeWhile, ← reset]
      simp [Registry.dropOverdue, Registry.overdue, Registry.modifyConn, Registry.setConn]
    · simp [Registry.dropOverdue, Registry.resetMsgCnt, Registry.modifyConn, Registry.setConn]
    · show (reg.resetMsgCnt conn).downMsgMissCnt +
        ((reg.resetMsgCnt conn).overdue conn tick).length = _
      unfold Registry.overdue
      rw [reset]
      rfl

/-! ### Runs -/

/-- What holds of the ledger in every state. -/
structure Sound (conn : ConnPtr) (downMsgMissCnt : Nat) (ledger : Ledger) : Prop where
  accounted : Accounted conn downMsgMissCnt ledger
  inTime : InTime conn ledger

variable {downMsgMissCnt : Nat} {ledger : Ledger} {tick : Nat}

/-- A new entry has the latest time. -/
theorem Sound.addToSendList (sound : Sound conn downMsgMissCnt ledger) (later : ledger.clock ≤ tick)
    (msgId : Nat) (fromId : UserId) :
    Sound conn downMsgMissCnt (ledger.step conn (tick, .addToSendList msgId fromId)) := by
  have list : (ledger.step conn (tick, .addToSendList msgId fromId)).pending conn =
      ledger.pending conn ++ [⟨msgId, fromId, tick⟩] := by
    show ((ledger.reg.addToSendList conn msgId fromId tick).conns conn).sendMsgList = _
    unfold Registry.addToSendList
    rw [Registry.modifyConn_self]
    rfl
  have stamped : ∀ ack ∈ ledger.pending conn, ack.timestamp ≤ tick :=
    fun ack member => (sound.inTime.stamped ack member).trans later
  have cases_mem {ack : MsgAck}
      (member : ack ∈ (ledger.step conn (tick, .addToSendList msgId fromId)).pending conn) :
      ack ∈ ledger.pending conn ∨ ack.timestamp = tick := by
    rw [list] at member
    simp only [List.mem_append, List.mem_singleton] at member
    obtain before | rfl := member
    · exact .inl before
    · exact .inr rfl
  refine ⟨⟨?_, ?_, sound.accounted.oneEach, sound.accounted.counted, ?_⟩, ⟨?_, ?_⟩⟩
  · rw [list, List.pairwise_append]
    refine ⟨sound.accounted.sorted, List.pairwise_singleton _ _, ?_⟩
    intro ack member last own
    rw [List.mem_singleton.mp own]
    exact stamped ack member
  · rw [list]
    show List.Perm (ledger.added ++ [(⟨msgId, fromId, tick⟩ : MsgAck)])
      (ledger.pending conn ++ [(⟨msgId, fromId, tick⟩ : MsgAck)] ++ ledger.acked.flatten ++
        ledger.missed)
    refine (sound.accounted.accounts.append_right _).trans ?_
    simp only [List.append_assoc]
    refine List.Perm.append_left _ ?_
    rw [← List.append_assoc]
    exact List.perm_append_comm
  · intro earlier ticked ack member
    obtain before | same := cases_mem member
    · exact sound.accounted.expired earlier ticked ack before
    · have reached := sound.inTime.ticked earlier ticked
      have wait : timeoutWaitingMsgDataAck = 15000 := rfl
      omega
  · intro ack member
    obtain before | same := cases_mem member
    · exact stamped ack before
    · exact Nat.le_of_eq same
  · intro earlier ticked
    exact (sound.inTime.ticked earlier ticked).trans later

/-- What an acknowledgement does to the ledger. -/
def acknowledged (conn : ConnPtr) (ledger : Ledger) (tick : Nat) (after : Registry) : Ledger :=
  { ledger with
    reg := after
    clock := tick
    acked := ledger.acked ++ [gone conn ledger.reg after] }

/-- An acknowledgement takes an entry from the waiting ones to the acknowledged ones. -/
theorem Sound.acknowledged (sound : Sound conn downMsgMissCnt ledger)
    (later : ledger.clock ≤ tick) {after : Registry} (takes : TakesOne conn ledger.reg after) :
    Sound conn downMsgMissCnt (ledger.acknowledged conn tick after) := by
  have part : ((ledger.acknowledged conn tick after).pending conn).Sublist (ledger.pending conn) :=
    takes.part
  refine ⟨⟨sound.accounted.sorted.sublist part, ?_, ?_, ?_, ?_⟩, ⟨?_, ?_⟩⟩
  · have split : (after.conns conn).sendMsgList ++ gone conn ledger.reg after |>.Perm
        (ledger.pending conn) := perm_left_diff takes.part
    refine sound.accounted.accounts.trans ?_
    show (ledger.pending conn ++ ledger.acked.flatten ++ ledger.missed).Perm
      ((after.conns conn).sendMsgList ++ (ledger.acked ++ [gone conn ledger.reg after]).flatten ++
        ledger.missed)
    rw [List.flatten_append, List.flatten_singleton]
    refine List.Perm.append_right _ ?_
    refine (split.symm.append_right _).trans ?_
    rw [List.append_assoc]
    exact List.perm_append_comm.append_left _
  · intro removed member
    rcases List.mem_append.mp member with before | last
    · exact sound.accounted.oneEach removed before
    · rw [List.mem_singleton.mp last]
      have length := length_diff takes.part
      have one := takes.one
      unfold gone
      omega
  · exact takes.counted.trans sound.accounted.counted
  · intro earlier ticked ack member
    exact sound.accounted.expired earlier ticked ack (part.subset member)
  · intro ack member
    exact (sound.inTime.stamped ack (part.subset member)).trans later
  · intro earlier ticked
    exact (sound.inTime.ticked earlier ticked).trans later

/-- In a list in the order of the times, what comes behind an entry that is not overdue is not
overdue. -/
theorem young_of_mem_dropWhile {list : List MsgAck}
    (sorted : list.Pairwise (·.timestamp ≤ ·.timestamp)) (tick : Nat) {ack : MsgAck}
    (member : ack ∈ list.dropWhile fun ack =>
      decide (ack.timestamp + timeoutWaitingMsgDataAck ≤ tick)) :
    tick < ack.timestamp + timeoutWaitingMsgDataAck := by
  induction list with
  | nil => cases member
  | cons head rest inductionHypothesis =>
      obtain ⟨least, restSorted⟩ := List.pairwise_cons.mp sorted
      by_cases old : head.timestamp + timeoutWaitingMsgDataAck ≤ tick
      · rw [List.dropWhile_cons_of_pos (by simpa using old)] at member
        exact inductionHypothesis restSorted member
      · rw [List.dropWhile_cons_of_neg (by simpa using old)] at member
        rcases List.mem_cons.mp member with rfl | behind
        · omega
        · have above := least ack behind
          omega

/-- The timer takes what is overdue from the waiting ones to the missed ones. -/
theorem Sound.onTimer (sound : Sound conn downMsgMissCnt ledger) (later : ledger.clock ≤ tick)
    (opened : (ledger.reg.conns conn).closed = false) :
    Sound conn downMsgMissCnt (ledger.step conn (tick, .onTimer)) := by
  have ticks := ticks_onTimer ledger.reg conn tick
  have part : ((ledger.step conn (tick, .onTimer)).pending conn).Sublist
      (ledger.pending conn) := by
    show ((ledger.reg.onTimer conn tick).1.conns conn).sendMsgList.Sublist _
    cases ticks with
    | closes list _ _ =>
        rw [list]
        exact .refl _
    | drops list _ _ =>
        rw [list]
        exact List.dropWhile_sublist _
  have split : ((ledger.step conn (tick, .onTimer)).pending conn ++
      gone conn ledger.reg (ledger.reg.onTimer conn tick).1).Perm (ledger.pending conn) :=
    perm_left_diff part
  have lengths : (gone conn ledger.reg (ledger.reg.onTimer conn tick).1).length = _ :=
    length_diff part
  refine ⟨⟨sound.accounted.sorted.sublist part, ?_, sound.accounted.oneEach, ?_, ?_⟩, ⟨?_, ?_⟩⟩
  · refine sound.accounted.accounts.trans ?_
    show (ledger.pending conn ++ ledger.acked.flatten ++ ledger.missed).Perm
      ((ledger.step conn (tick, .onTimer)).pending conn ++ ledger.acked.flatten ++
        (ledger.missed ++ gone conn ledger.reg (ledger.reg.onTimer conn tick).1))
    refine ((split.symm.append_right _).append_right _).trans ?_
    simp only [List.append_assoc]
    refine List.Perm.append_left _ ?_
    refine List.perm_append_comm.trans ?_
    simp only [List.append_assoc]
    exact .refl _
  · show (ledger.reg.onTimer conn tick).1.downMsgMissCnt =
      downMsgMissCnt + (ledger.missed ++ gone conn ledger.reg _).length
    have before := sound.accounted.counted
    rw [List.length_append, lengths, ← Nat.add_assoc, ← before]
    cases ticks with
    | closes list _ counted =>
        rw [counted, list, Nat.sub_self, Nat.add_zero]
    | drops list _ counted =>
        have whole := congrArg List.length (List.takeWhile_append_dropWhile
          (p := fun ack : MsgAck => decide (ack.timestamp + timeoutWaitingMsgDataAck ≤ tick))
          (l := (ledger.reg.conns conn).sendMsgList))
        rw [List.length_append] at whole
        rw [counted, list]
        omega
  · intro earlier ticked ack member
    have known : earlier ∈ ledger.ticks →
        earlier < ack.timestamp + timeoutWaitingMsgDataAck := fun before =>
      sound.accounted.expired earlier before ack (part.subset member)
    cases ticks with
    | closes list closed _ =>
        have same : (ledger.step conn (tick, .onTimer)).ticks = ledger.ticks := if_pos closed
        exact known (same ▸ ticked)
    | drops list closed _ =>
        have more : (ledger.step conn (tick, .onTimer)).ticks = ledger.ticks ++ [tick] :=
          if_neg (by rw [closed, opened]; decide)
        rw [more] at ticked
        rcases List.mem_append.mp ticked with before | last
        · exact known before
        · rw [List.mem_singleton.mp last]
          exact young_of_mem_dropWhile sound.accounted.sorted tick (list ▸ member)
  · intro ack member
    exact (sound.inTime.stamped ack (part.subset member)).trans later
  · intro earlier ticked
    show earlier ≤ tick
    have cases_mem : earlier ∈ ledger.ticks ∨ earlier = tick := by
      revert ticked
      show earlier ∈ (if _ then ledger.ticks else ledger.ticks ++ [tick]) → _
      split
      · exact .inl
      · simp
    obtain before | rfl := cases_mem
    · exact (sound.inTime.ticked earlier before).trans later
    · exact Nat.le_refl _

/-- Data from the client are received. -/
theorem Sound.receive (sound : Sound conn downMsgMissCnt ledger) (later : ledger.clock ≤ tick) :
    Sound conn downMsgMissCnt (ledger.step conn (tick, .receive)) := by
  have list : (ledger.step conn (tick, .receive)).pending conn = ledger.pending conn := by
    show ((ledger.reg.modifyConn conn fun value =>
      { value with lastRecvTick := tick }).conns conn).sendMsgList = _
    rw [Registry.modifyConn_self]
    rfl
  obtain ⟨accounted, inTime⟩ := sound
  refine ⟨⟨list ▸ accounted.sorted, ?_, accounted.oneEach, accounted.counted, ?_⟩, ⟨?_, ?_⟩⟩
  · rw [list]
    exact accounted.accounts
  · rw [list]
    exact accounted.expired
  · rw [list]
    exact fun ack member => (inTime.stamped ack member).trans later
  · exact fun earlier ticked => (inTime.ticked earlier ticked).trans later

theorem Sound.step (sound : Sound conn downMsgMissCnt ledger) {event : Nat × AckEvent}
    (continues : ledger.Continues conn event) :
    Sound conn downMsgMissCnt (ledger.step conn event) := by
  obtain ⟨tick, event⟩ := event
  obtain ⟨opened, later⟩ := continues
  cases event with
  | addToSendList msgId fromId => exact sound.addToSendList later msgId fromId
  | receive => exact sound.receive later
  | msgDataAck pdu => exact sound.acknowledged later (.msgDataAck ledger.reg pdu)
  | msgReadAck peers pdu => exact sound.acknowledged later (.msgReadAck ledger.reg peers pdu)
  | onTimer => exact sound.onTimer later opened

end Steps

/-- From a connection with an empty list on, every state of every run on it is accounted. -/
theorem run_accounted {conn : ConnPtr} {reg : Registry}
    (empty : (reg.conns conn).sendMsgList = []) (events : List (Nat × AckEvent))
    (continues : Meets (step conn) (Continues conn) (start reg) events) :
    Accounted conn reg.downMsgMissCnt (run (step conn) (start reg) events) := by
  have initial : Sound conn reg.downMsgMissCnt (start reg) := by
    refine ⟨⟨?_, ?_, nofun, rfl, nofun⟩, ⟨?_, nofun⟩⟩
    · unfold pending start
      rw [empty]
      exact .nil
    · unfold pending start
      rw [empty]
      exact .refl _
    · unfold pending start
      rw [empty]
      exact nofun
  have sound := (reach_run events continues).invariant (Sound conn reg.downMsgMissCnt) initial
    fun _ _ sound continues => sound.step continues
  exact sound.accounted

/-- The same message twice, one acknowledgement, which takes out the older entry, and a call of
the timer when the other one is overdue. -/
def twiceAndAck : List (Nat × AckEvent) :=
  [(0, .addToSendList 7 1), (10, .addToSendList 7 1),
    (20, .msgDataAck ⟨sidMsg, cidMsgDataAck, 0, .msgDataAck 7 1 sessionTypeSingle⟩),
    (15010, .onTimer)]

/-- One connection, which is logged in. -/
def loggedIn : Registry :=
  Registry.empty.modifyConn 1 fun value => { value with isOpen := true }

theorem run_accounted_twiceAndAck :
    Accounted 1 0 (run (step 1) (start loggedIn) twiceAndAck) ∧
      (run (step 1) (start loggedIn) twiceAndAck).acked = [[⟨7, 1, 0⟩]] ∧
      (run (step 1) (start loggedIn) twiceAndAck).missed = [⟨7, 1, 10⟩] := by
  have continues : Meets (step 1) (Continues 1) (start loggedIn) twiceAndAck := by decide
  exact ⟨run_accounted (by decide) twiceAndAck continues, by decide, by decide⟩

end Ledger

end AChat.MsgServer
