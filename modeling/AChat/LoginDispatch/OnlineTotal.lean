import AChat.Lib.Reach
import AChat.Lib.TreeMapSum

/-!
Contract: when the total of the login dispatcher adds up.

A second info message on a link adds its count to the total although the record of the link
stays as it is, and a count that is zero wraps when it is decremented. In the runs in which
neither happens the total is the sum of the records, and each record holds what its link
said.

Owns: the links of the message servers, their records and the total, and the runs of their
messages.
-/

namespace AChat.LoginDispatch

open Std Lib

abbrev Handle := Nat

def userCntInc : BitVec 32 := 1

/-- `msg_serv_info_t` -/
structure MsgServInfo where
  ipAddr1 : String
  ipAddr2 : String
  port : BitVec 16
  maxConnCnt : BitVec 32
  curConnCnt : BitVec 32
  hostname : String
deriving DecidableEq, Repr

/-- `IM::Server::IMMsgServInfo` -/
structure IMMsgServInfo where
  ip1 : String
  ip2 : String
  port : BitVec 32
  maxConnCnt : BitVec 32
  curConnCnt : BitVec 32
  hostName : String
deriving DecidableEq, Repr

/-- What a message server sends. -/
inductive LinkPdu where
  | heartbeat
  | msgServInfo (msg : IMMsgServInfo)
  | userCntUpdate (userAction : BitVec 32)
  | other
deriving DecidableEq, Repr

def IMMsgServInfo.record (msg : IMMsgServInfo) : MsgServInfo where
  ipAddr1 := msg.ip1
  ipAddr2 := msg.ip2
  port := msg.port.setWidth 16
  maxConnCnt := msg.maxConnCnt
  curConnCnt := msg.curConnCnt
  hostname := msg.hostName

/-- The globals of the dispatcher: the open links, the records and the total. -/
structure Dispatcher where
  msgServConnMap : TreeSet Handle
  msgServInfo : TreeMap Handle MsgServInfo
  totalOnlineUserCnt : BitVec 32

namespace Dispatcher

def new : Dispatcher :=
  ⟨∅, ∅, 0⟩

/-- `OnConnect2` of a link of a message server. -/
def onConnect2 (dispatcher : Dispatcher) (handle : Handle) : Dispatcher :=
  { dispatcher with msgServConnMap := dispatcher.msgServConnMap.insert handle }

/-- `insert` keeps the record that a handle already has; the total grows in any case. -/
def handleMsgServInfo (dispatcher : Dispatcher) (handle : Handle) (msg : IMMsgServInfo) :
    Dispatcher :=
  { dispatcher with
    msgServInfo := dispatcher.msgServInfo.insertIfNew handle msg.record
    totalOnlineUserCnt := dispatcher.totalOnlineUserCnt + msg.record.curConnCnt }

/-- Every action that is not an increment counts down. -/
def handleUserCntUpdate (dispatcher : Dispatcher) (handle : Handle) (userAction : BitVec 32) :
    Dispatcher :=
  match dispatcher.msgServInfo[handle]? with
  | none => dispatcher
  | some info =>
      if userAction = userCntInc then
        { dispatcher with
          msgServInfo :=
            dispatcher.msgServInfo.insert handle { info with curConnCnt := info.curConnCnt + 1 }
          totalOnlineUserCnt := dispatcher.totalOnlineUserCnt + 1 }
      else
        { dispatcher with
          msgServInfo :=
            dispatcher.msgServInfo.insert handle { info with curConnCnt := info.curConnCnt - 1 }
          totalOnlineUserCnt := dispatcher.totalOnlineUserCnt - 1 }

def handlePdu (dispatcher : Dispatcher) (handle : Handle) : LinkPdu → Dispatcher
  | .heartbeat => dispatcher
  | .msgServInfo msg => dispatcher.handleMsgServInfo handle msg
  | .userCntUpdate userAction => dispatcher.handleUserCntUpdate handle userAction
  | .other => dispatcher

/-- `Close` of a link of a message server. -/
def close (dispatcher : Dispatcher) (handle : Handle) : Dispatcher :=
  let dispatcher :=
    { dispatcher with msgServConnMap := dispatcher.msgServConnMap.erase handle }
  match dispatcher.msgServInfo[handle]? with
  | none => dispatcher
  | some info =>
      { dispatcher with
        totalOnlineUserCnt := dispatcher.totalOnlineUserCnt - info.curConnCnt
        msgServInfo := dispatcher.msgServInfo.erase handle }

end Dispatcher

/-! ### Runs -/

inductive LinkEvent where
  | connect (handle : Handle)
  | pdu (handle : Handle) (pdu : LinkPdu)
  | close (handle : Handle)
deriving DecidableEq, Repr

/-- What a link said: its latest info message, with the updates since counted in. The count
is an integer, so that no count that wrapped is equal to it. -/
structure Load where
  ipAddr1 : String
  ipAddr2 : String
  port : BitVec 16
  maxConnCnt : BitVec 32
  curConnCnt : Int
  hostname : String
deriving DecidableEq, Repr

def MsgServInfo.load (info : MsgServInfo) : Load where
  ipAddr1 := info.ipAddr1
  ipAddr2 := info.ipAddr2
  port := info.port
  maxConnCnt := info.maxConnCnt
  curConnCnt := info.curConnCnt.toNat
  hostname := info.hostname

def Load.update (load : Load) (userAction : BitVec 32) : Load :=
  { load with
    curConnCnt := if userAction = userCntInc then load.curConnCnt + 1 else load.curConnCnt - 1 }

/-- The dispatcher, and what the open links said. -/
structure LinkRun where
  dispatcher : Dispatcher
  loads : Handle → Option Load

namespace LinkRun

def new : LinkRun :=
  ⟨.new, fun _ => none⟩

def loadAfter (before : Option Load) : LinkPdu → Option Load
  | .msgServInfo msg => some msg.record.load
  | .userCntUpdate userAction => before.map (·.update userAction)
  | _ => before

/-- Messages of a link that is not open do not reach a connection. -/
def step (run : LinkRun) : LinkEvent → LinkRun
  | .connect handle => { run with dispatcher := run.dispatcher.onConnect2 handle }
  | .pdu handle pdu =>
      if handle ∈ run.dispatcher.msgServConnMap then
        { dispatcher := run.dispatcher.handlePdu handle pdu
          loads := Function.update run.loads handle (loadAfter (run.loads handle) pdu) }
      else run
  | .close handle =>
      if handle ∈ run.dispatcher.msgServConnMap then
        { dispatcher := run.dispatcher.close handle
          loads := Function.update run.loads handle none }
      else run

def recordedCount (_ : Handle) (info : MsgServInfo) : Nat :=
  info.curConnCnt.toNat

/-- The total is the sum of the records, each record holds what its link said, and a link that
is not open has none. -/
structure AddsUp (run : LinkRun) : Prop where
  total : run.dispatcher.totalOnlineUserCnt.toNat =
    mapSum recordedCount run.dispatcher.msgServInfo
  records : ∀ handle, run.dispatcher.msgServInfo[handle]?.map MsgServInfo.load = run.loads handle
  closed : ∀ handle, handle ∉ run.dispatcher.msgServConnMap →
    run.dispatcher.msgServInfo[handle]? = none

/-- The message adds up: a link that has a record sends no info but the one that is recorded,
with a count of zero; a count of zero is not decremented; and the total stays below `2 ^ 32`. -/
def PduAddsUp (dispatcher : Dispatcher) (handle : Handle) : LinkPdu → Prop
  | .msgServInfo msg =>
      match dispatcher.msgServInfo[handle]? with
      | none => dispatcher.totalOnlineUserCnt.toNat + msg.curConnCnt.toNat < 2 ^ 32
      | some info => info = msg.record ∧ msg.curConnCnt = 0
  | .userCntUpdate userAction =>
      match dispatcher.msgServInfo[handle]? with
      | none => True
      | some info =>
          if userAction = userCntInc then dispatcher.totalOnlineUserCnt.toNat + 1 < 2 ^ 32
          else info.curConnCnt ≠ 0
  | _ => True

/-- The condition on a step. -/
def EventAddsUp (run : LinkRun) : LinkEvent → Prop
  | .pdu handle pdu =>
      handle ∈ run.dispatcher.msgServConnMap → PduAddsUp run.dispatcher handle pdu
  | _ => True

/-! ### One step -/

section Step

variable {run : LinkRun} {handle : Handle} {info : MsgServInfo}

/-- What a change at one open link has to meet for the run to add up again. -/
theorem AddsUp.change_iff (addsUp : AddsUp run) (isOpen : handle ∈ run.dispatcher.msgServConnMap)
    {records : TreeMap Handle MsgServInfo} {total : BitVec 32} {load : Option Load}
    (others : ∀ probe, probe ≠ handle →
      records[probe]? = run.dispatcher.msgServInfo[probe]?) :
    AddsUp ⟨{ run.dispatcher with msgServInfo := records, totalOnlineUserCnt := total },
        Function.update run.loads handle load⟩ ↔
      total.toNat = mapSum recordedCount records ∧
        records[handle]?.map MsgServInfo.load = load := by
  constructor
  · intro after
    exact ⟨after.total, (after.records handle).trans (Function.update_self ..)⟩
  · intro agrees
    obtain ⟨sum, record⟩ := agrees
    refine ⟨sum, ?_, ?_⟩
    · intro probe
      show records[probe]?.map MsgServInfo.load = Function.update run.loads handle load probe
      by_cases same : probe = handle
      · rw [same, Function.update_self]
        exact record
      · rw [Function.update_of_ne same, others probe same]
        exact addsUp.records probe
    · intro probe notOpen
      have different : probe ≠ handle := fun same => notOpen (same ▸ isOpen)
      exact (others probe different).trans (addsUp.closed probe notOpen)

/-- A recorded count is part of the total. -/
theorem AddsUp.count_le (addsUp : AddsUp run)
    (found : run.dispatcher.msgServInfo[handle]? = some info) :
    info.curConnCnt.toNat ≤ run.dispatcher.totalOnlineUserCnt.toNat := by
  have erased := mapSum_erase_of_some recordedCount found
  have total := addsUp.total
  have count : recordedCount handle info = info.curConnCnt.toNat := rfl
  omega

theorem MsgServInfo.load_injective {first second : MsgServInfo}
    (same : first.load = second.load) : first = second := by
  cases first
  cases second
  injection same with ip1 ip2 port maxConn count hostname
  cases BitVec.eq_of_toNat_eq (Int.ofNat.inj count)
  subst ip1 ip2 port maxConn hostname
  rfl

/-- `insertIfNew` enters a record under a handle that has none, and changes nothing under one
that has. -/
theorem getElem?_insertIfNew (records : TreeMap Handle MsgServInfo) (handle probe : Handle)
    (info : MsgServInfo) :
    (records.insertIfNew handle info)[probe]? =
      if handle = probe ∧ records[handle]? = none then some info else records[probe]? := by
  rw [TreeMap.getElem?_insertIfNew]
  congr 1
  rw [LawfulEqCmp.compare_eq_iff_eq, TreeMap.mem_iff_isSome_getElem?, Option.isSome_iff_ne_none,
    not_not]

theorem AddsUp.info_iff (addsUp : AddsUp run) (isOpen : handle ∈ run.dispatcher.msgServConnMap)
    (msg : IMMsgServInfo) :
    AddsUp ⟨run.dispatcher.handleMsgServInfo handle msg,
        Function.update run.loads handle (some msg.record.load)⟩ ↔
      PduAddsUp run.dispatcher handle (.msgServInfo msg) := by
  have total := addsUp.total
  have count := msg.curConnCnt.isLt
  unfold Dispatcher.handleMsgServInfo
  rw [addsUp.change_iff isOpen ?others]
  case others =>
    intro probe different
    rw [getElem?_insertIfNew, if_neg fun inserted => different inserted.1.symm]
  rw [getElem?_insertIfNew, BitVec.toNat_add]
  unfold PduAddsUp
  cases found : run.dispatcher.msgServInfo[handle]? with
  | none =>
      have same : mapSum recordedCount (run.dispatcher.msgServInfo.insertIfNew handle msg.record) =
          mapSum recordedCount run.dispatcher.msgServInfo + recordedCount handle msg.record := by
        rw [← mapSum_insert_of_none recordedCount msg.record found]
        refine mapSum_congr_getElem? _ fun probe => ?_
        rw [getElem?_insertIfNew, getElem?_insert_ite, found]
        simp only [and_true]
      have weight : recordedCount handle msg.record = msg.curConnCnt.toNat := rfl
      rw [same, if_pos ⟨rfl, rfl⟩, ← total, weight]
      show (_ + msg.curConnCnt.toNat) % _ = _ ∧ some msg.record.load = some msg.record.load ↔ _
      rw [and_iff_left rfl]
      omega
  | some info =>
      have same : mapSum recordedCount (run.dispatcher.msgServInfo.insertIfNew handle msg.record) =
          mapSum recordedCount run.dispatcher.msgServInfo := by
        refine mapSum_congr_getElem? _ fun probe => ?_
        rw [getElem?_insertIfNew, found, if_neg fun inserted => Option.some_ne_none _ inserted.2]
      rw [same, if_neg fun inserted => Option.some_ne_none _ inserted.2, ← total]
      show (_ + msg.curConnCnt.toNat) % _ = _ ∧ some info.load = some msg.record.load ↔ _
      have below := run.dispatcher.totalOnlineUserCnt.isLt
      constructor
      · intro agrees
        refine ⟨MsgServInfo.load_injective (Option.some.inj agrees.2), BitVec.eq_of_toNat_eq ?_⟩
        show msg.curConnCnt.toNat = 0
        omega
      · intro repeated
        rw [repeated.1, repeated.2]
        refine ⟨?_, rfl⟩
        show (_ + 0) % _ = _
        omega

theorem load_update_iff (info : MsgServInfo) (count userAction : BitVec 32) :
    { info with curConnCnt := count }.load = info.load.update userAction ↔
      (count.toNat : Int) =
        if userAction = userCntInc then (info.curConnCnt.toNat : Int) + 1
        else (info.curConnCnt.toNat : Int) - 1 := by
  constructor
  · exact congrArg Load.curConnCnt
  · intro counted
    unfold MsgServInfo.load Load.update
    rw [counted]

/-- An update of a link that has a record. -/
theorem AddsUp.count_iff (addsUp : AddsUp run) (isOpen : handle ∈ run.dispatcher.msgServConnMap)
    (found : run.dispatcher.msgServInfo[handle]? = some info)
    (total count userAction : BitVec 32) :
    AddsUp ⟨{ run.dispatcher with
          msgServInfo := run.dispatcher.msgServInfo.insert handle { info with curConnCnt := count }
          totalOnlineUserCnt := total },
        Function.update run.loads handle (some (info.load.update userAction))⟩ ↔
      total.toNat + info.curConnCnt.toNat =
          run.dispatcher.totalOnlineUserCnt.toNat + count.toNat ∧
        (count.toNat : Int) =
          if userAction = userCntInc then (info.curConnCnt.toNat : Int) + 1
          else (info.curConnCnt.toNat : Int) - 1 := by
  have replaced : mapSum recordedCount
        (run.dispatcher.msgServInfo.insert handle { info with curConnCnt := count }) +
        info.curConnCnt.toNat =
      mapSum recordedCount run.dispatcher.msgServInfo + count.toNat :=
    mapSum_insert_of_some recordedCount { info with curConnCnt := count } found
  rw [addsUp.change_iff isOpen ?others]
  case others =>
    intro probe different
    rw [getElem?_insert_ite, if_neg different.symm]
  rw [getElem?_insert_ite, if_pos rfl, Option.map_some, Option.some_inj, load_update_iff,
    addsUp.total]
  exact and_congr_left' (by omega)

theorem AddsUp.update_iff (addsUp : AddsUp run) (isOpen : handle ∈ run.dispatcher.msgServConnMap)
    (userAction : BitVec 32) :
    AddsUp ⟨run.dispatcher.handleUserCntUpdate handle userAction,
        Function.update run.loads handle ((run.loads handle).map (·.update userAction))⟩ ↔
      PduAddsUp run.dispatcher handle (.userCntUpdate userAction) := by
  have below := run.dispatcher.totalOnlineUserCnt.isLt
  unfold Dispatcher.handleUserCntUpdate PduAddsUp
  rw [← addsUp.records handle]
  cases found : run.dispatcher.msgServInfo[handle]? with
  | none =>
      refine iff_of_true ?_ trivial
      refine (addsUp.change_iff isOpen fun _ _ => rfl).mpr ⟨addsUp.total, ?_⟩
      rw [found]
      rfl
  | some info =>
      have atMost := addsUp.count_le found
      have one : (1 : BitVec 32).toNat = 1 := rfl
      by_cases increment : userAction = userCntInc
      · simp only [if_pos increment]
        refine (addsUp.count_iff isOpen found _ _ userAction).trans ?_
        rw [if_pos increment, BitVec.toNat_add, BitVec.toNat_add, one]
        omega
      · simp only [if_neg increment]
        refine (addsUp.count_iff isOpen found _ _ userAction).trans ?_
        rw [if_neg increment, BitVec.toNat_sub, BitVec.toNat_sub, one, ne_eq,
          ← BitVec.toNat_inj]
        show _ ↔ ¬info.curConnCnt.toNat = 0
        omega

/-- A closed link takes its count with it. -/
theorem AddsUp.close (addsUp : AddsUp run) (handle : Handle) :
    AddsUp ⟨run.dispatcher.close handle, Function.update run.loads handle none⟩ := by
  have erased : ∀ {records : TreeMap Handle MsgServInfo} {total : BitVec 32},
      (∀ probe, records[probe]? =
        if handle = probe then none else run.dispatcher.msgServInfo[probe]?) →
      total.toNat = mapSum recordedCount records →
      AddsUp ⟨⟨run.dispatcher.msgServConnMap.erase handle, records, total⟩,
        Function.update run.loads handle none⟩ := by
    intro records total lookups sum
    refine ⟨sum, ?_, ?_⟩
    · intro probe
      show records[probe]?.map MsgServInfo.load = Function.update run.loads handle none probe
      rw [lookups]
      by_cases same : handle = probe
      · rw [if_pos same, same, Function.update_self]
        rfl
      · rw [if_neg same, Function.update_of_ne (Ne.symm same)]
        exact addsUp.records probe
    · intro probe notOpen
      show records[probe]? = none
      rw [lookups]
      by_cases same : handle = probe
      · exact if_pos same
      · rw [if_neg same]
        refine addsUp.closed probe fun isOpen => notOpen ?_
        exact (treeSet_mem_erase _ handle probe).mpr ⟨same, isOpen⟩
  unfold Dispatcher.close
  cases found : run.dispatcher.msgServInfo[handle]? with
  | none =>
      simp only [found]
      refine erased (fun probe => ?_) addsUp.total
      split
      · rename_i same
        exact same ▸ found
      · rfl
  | some info =>
      simp only [found]
      refine erased (fun probe => getElem?_erase_ite _ handle probe) ?_
      have atMost := addsUp.count_le found
      have below := run.dispatcher.totalOnlineUserCnt.isLt
      have rest : mapSum recordedCount (run.dispatcher.msgServInfo.erase handle) +
          info.curConnCnt.toNat = mapSum recordedCount run.dispatcher.msgServInfo :=
        mapSum_erase_of_some recordedCount found
      have total := addsUp.total
      rw [BitVec.toNat_sub]
      omega

theorem AddsUp.connect (addsUp : AddsUp run) (handle : Handle) :
    AddsUp { run with dispatcher := run.dispatcher.onConnect2 handle } where
  total := addsUp.total
  records := addsUp.records
  closed := by
    intro probe notOpen
    refine addsUp.closed probe fun isOpen => notOpen ?_
    exact (treeSet_mem_insert _ handle probe).mpr (.inr isOpen)

/-- A step keeps the sum exactly when it meets the condition. -/
theorem AddsUp.step_iff (addsUp : AddsUp run) (event : LinkEvent) :
    AddsUp (run.step event) ↔ EventAddsUp run event := by
  cases event with
  | connect handle => exact iff_of_true (addsUp.connect handle) trivial
  | pdu handle pdu =>
      show AddsUp (if _ then _ else run) ↔ (_ → PduAddsUp run.dispatcher handle pdu)
      by_cases isOpen : handle ∈ run.dispatcher.msgServConnMap
      · rw [if_pos isOpen, forall_prop_of_true isOpen]
        have unchanged : AddsUp ⟨run.dispatcher,
            Function.update run.loads handle (run.loads handle)⟩ := by
          rw [Function.update_eq_self]
          exact addsUp
        cases pdu with
        | heartbeat => exact iff_of_true unchanged trivial
        | msgServInfo msg => exact addsUp.info_iff isOpen msg
        | userCntUpdate userAction => exact addsUp.update_iff isOpen userAction
        | other => exact iff_of_true unchanged trivial
      · rw [if_neg isOpen]
        exact iff_of_true addsUp fun isOpen' => absurd isOpen' isOpen
  | close handle =>
      show AddsUp (if _ then _ else run) ↔ True
      by_cases isOpen : handle ∈ run.dispatcher.msgServConnMap
      · rw [if_pos isOpen]
        exact iff_of_true (addsUp.close handle) trivial
      · rw [if_neg isOpen]
        exact iff_of_true addsUp trivial

theorem addsUp_new : AddsUp new where
  total := (mapSum_of_isEmpty recordedCount TreeMap.isEmpty_emptyc).symm
  records := by
    intro handle
    show (∅ : TreeMap Handle MsgServInfo)[handle]?.map MsgServInfo.load = none
    rw [TreeMap.getElem?_emptyc]
    rfl
  closed := fun _ _ => TreeMap.getElem?_emptyc

end Step

/-- The total adds up after every step of a run exactly when every step of the run meets the
condition. -/
theorem addsUp_always_iff (events : List LinkEvent) :
    Always step AddsUp new events ↔ Meets step EventAddsUp new events :=
  @always_iff_meets _ _ step EventAddsUp AddsUp AddsUp (fun _ _ => True)
    (fun _ event addsUp _ => addsUp.step_iff event)
    (fun _ event addsUp _ met => (addsUp.step_iff event).mpr met)
    (fun _ addsUp => addsUp) events _ addsUp_new (meets_true _ _ _)

/-- A message server with three users that announces itself again, with two. -/
def announcedTwice : List LinkEvent :=
  [.connect 5, .pdu 5 (.msgServInfo ⟨"a", "b", 8000, 100, 3, "h"⟩),
    .pdu 5 (.msgServInfo ⟨"a", "b", 8000, 100, 2, "h"⟩)]

theorem not_addsUp_announcedTwice : ¬Always step AddsUp new announcedTwice := by
  intro always
  have last := always.2.2.2.total
  exact absurd last (by decide)

end LinkRun

end AChat.LoginDispatch
