import AChat.Lib.BackOff
import AChat.Lib.Reach
import Mathlib.Algebra.Ring.Nat

/-!
Contract: when the message server tries again to reach a peer server.

`serv_init`, `serv_check_reconnect` and `serv_reset` are written for the one entry of the server
table that they change; the table's other entries only have other connections. The connection is
the one to a database server. `netlib_connect` is the environment's: an attempt is told the handle
it gives, `none` being `NETLIB_INVALID_HANDLE`.

Owns: the entry, its connection objects and the map of their handles, and the schedule of attempts.
-/

namespace AChat.MsgServer.Reconnect

open Lib Lib.BackOff

def maxReconnectCnt : Nat := 64

def minReconnectCnt : Nat := 4

/-- In milliseconds. -/
def serverTimeout : Nat := 30000

abbrev Handle := Nat

abbrev Pointer := Nat

structure DBServConn where
  handle : Option Handle
  isOpen : Bool
  lastRecvTick : Nat
deriving DecidableEq, Repr

structure ServInfo where
  idleCnt : Nat
  reconnectCnt : Nat
  servConn : Option Pointer
deriving DecidableEq, Repr

/-- The entry, the objects that are not deleted, `g_db_server_conn_map`, and the trace of what
happened, newest first. -/
structure Server where
  info : ServInfo
  heap : List (Pointer × DBServConn)
  nextPtr : Pointer
  connMap : List (Handle × Pointer)
  trace : List Happening
deriving DecidableEq, Repr

namespace Server

def record (server : Server) (happening : Happening) : Server :=
  { server with trace := happening :: server.trace }

/-- `imconn_callback` looks the handle up. -/
def findImConn (server : Server) (handle : Handle) : Option Pointer :=
  server.connMap.lookup handle

/-! ### `ServInfo.h` and `DBServConn` -/

def servReset (server : Server) : Server :=
  let doubled := server.info.reconnectCnt * 2 % 2 ^ 32
  { server with
    info :=
      { idleCnt := 0
        reconnectCnt := if doubled > maxReconnectCnt then minReconnectCnt else doubled
        servConn := none } }

/-- `new T()`, then `Connect`. An invalid handle is not put into the map, and that is all. -/
def connect (server : Server) (now : Nat) (handle : Option Handle) : Server :=
  let pConn := server.nextPtr
  let created : Server :=
    { server with
      heap := (pConn, ⟨handle, false, now⟩) :: server.heap
      nextPtr := pConn + 1
      info := { server.info with servConn := some pConn } }
  match handle with
  | none => created.record .failure
  | some handle =>
      if (created.findImConn handle).isSome then created
      else { created with connMap := (handle, pConn) :: created.connMap }

/-- `Close`: `serv_reset`, the handle out of the map, and the object's only reference released. -/
def close (server : Server) (pConn : Pointer) : Server :=
  match server.heap.lookup pConn with
  | none => server
  | some conn =>
      let reset := server.servReset
      let erased : Server :=
        match conn.handle with
        | none => reset
        | some handle => { reset with connMap := reset.connMap.filter (·.1 ≠ handle) }
      let released : Server := { erased with heap := erased.heap.filter (·.1 ≠ pConn) }
      released.record .failure

def onConfirm (server : Server) (pConn : Pointer) : Server :=
  let opened : Server :=
    { server with
      heap := server.heap.map fun entry =>
        if entry.1 = pConn then (entry.1, { entry.2 with isOpen := true }) else entry
      info := { server.info with reconnectCnt := minReconnectCnt / 2 } }
  opened.record .success

/-- `OnTimer` of an open connection, the heartbeat apart. -/
def onTimer (server : Server) (currTick : Nat) (pConn : Pointer) : Server :=
  match server.heap.lookup pConn with
  | none => server
  | some conn =>
      if conn.isOpen && conn.lastRecvTick + serverTimeout < currTick then server.close pConn
      else server

def servCheckReconnect (server : Server) (now : Nat) (handle : Option Handle) : Server :=
  match server.info.servConn with
  | some _ => server.record (.tick false)
  | none =>
      let idleCnt := (server.info.idleCnt + 1) % 2 ^ 32
      let counted : Server := { server with info := { server.info with idleCnt := idleCnt } }
      if idleCnt ≥ server.info.reconnectCnt then
        (counted.record (.tick true)).connect now handle
      else counted.record (.tick false)

/-- `db_server_conn_timer_callback`: the connections in the map first, the entry then. -/
def timerCallback (server : Server) (currTick : Nat) (handle : Option Handle) : Server :=
  (server.connMap.foldl (fun current entry => current.onTimer currTick entry.2) server)
    |>.servCheckReconnect currTick handle

end Server

/-- The entry after `serv_init`. -/
def servInit (now : Nat) (handle : Option Handle) : Server :=
  let start : Server := ⟨⟨0, minReconnectCnt / 2, none⟩, [], 0, [], []⟩
  start.connect now handle

/-- A tick of the timer, with the time and the handle that an attempt at this tick gets, and the
two messages of `netlib` that a connection answers. -/
inductive Event where
  | tick (currTick : Nat) (handle : Option Handle)
  | confirm (handle : Handle)
  | close (handle : Handle)
deriving DecidableEq, Repr

def step (server : Server) : Event → Server
  | .tick currTick handle => server.timerCallback currTick handle
  | .confirm handle =>
      match server.findImConn handle with
      | none => server
      | some pConn => server.onConfirm pConn
  | .close handle =>
      match server.findImConn handle with
      | none => server
      | some pConn => server.close pConn

/-! ### The schedule -/

/-- The ticks from the `k`-th consecutive failure to the next attempt. -/
def delay (failures : Nat) : Nat :=
  4 * 2 ^ ((failures - 1) % 5)

/-- At most one connection object, attempts on schedule, and a counter that is a power of two. -/
structure BacksOff (server : Server) : Prop where
  oneObject : server.heap.length ≤ 1
  schedule : KeepsSchedule delay server.trace
  counter : server.info.reconnectCnt ∈ [2, 4, 8, 16, 32, 64]

/-- The next tick makes an attempt. -/
def Server.Due (server : Server) : Prop :=
  server.info.servConn = none ∧ server.info.reconnectCnt ≤ server.info.idleCnt + 1

instance (server : Server) : Decidable server.Due :=
  inferInstanceAs (Decidable (_ ∧ _))

/-- An attempt, if the tick makes one, does not fail at once. -/
def GetsHandle (server : Server) : Event → Prop
  | .tick _ handle => server.Due → handle.isSome
  | .confirm _ => True
  | .close _ => True

instance (server : Server) (event : Event) : Decidable (GetsHandle server event) := by
  cases event with
  | tick currTick handle => exact inferInstanceAs (Decidable (_ → _))
  | confirm handle => exact inferInstanceAs (Decidable True)
  | close handle => exact inferInstanceAs (Decidable True)

/-! ### The counter -/

section Counter

/-- Before the first failure since a success the counter is half of what that failure makes it. -/
def counterFor (failures : Nat) : Nat :=
  if failures = 0 then minReconnectCnt / 2 else delay failures

theorem delay_mem (failures : Nat) : delay failures ∈ [4, 8, 16, 32, 64] := by
  have cases : ∀ turn < 5, 4 * 2 ^ turn ∈ [4, 8, 16, 32, 64] := by decide
  exact cases _ (Nat.mod_lt _ (by decide))

theorem delay_bounds (failures : Nat) : 4 ≤ delay failures ∧ delay failures ≤ 64 := by
  have member := delay_mem failures
  simp only [List.mem_cons, List.not_mem_nil, or_false] at member
  omega

theorem counterFor_mem (failures : Nat) : counterFor failures ∈ [2, 4, 8, 16, 32, 64] := by
  unfold counterFor
  split
  · decide
  · exact List.mem_cons_of_mem _ (delay_mem failures)

/-- The next power of two, and from the largest back to the least. -/
theorem delay_succ (failures : Nat) :
    delay (failures + 1) =
      if counterFor failures * 2 % 2 ^ 32 > maxReconnectCnt then minReconnectCnt
      else counterFor failures * 2 % 2 ^ 32 := by
  have turns : ∀ turn < 5, 4 * 2 ^ ((turn + 1) % 5) =
      if 4 * 2 ^ turn * 2 % 2 ^ 32 > 64 then 4 else 4 * 2 ^ turn * 2 % 2 ^ 32 := by decide
  cases failures with
  | zero => rfl
  | succ failures =>
      have turn := turns (failures % 5) (Nat.mod_lt _ (by decide))
      rw [Nat.mod_add_mod] at turn
      exact turn

end Counter

/-! ### What one event does -/

section Steps

variable {server : Server}

/-- No object and a count of the ticks since the last failure, or one object whose messages
arrive. -/
inductive Steady : Server → Prop where
  | waiting {server : Server} :
      server.info.servConn = none → server.heap = [] → server.connMap = [] →
      Waiting delay server.info.idleCnt server.trace →
      server.info.reconnectCnt = delay (streak server.trace) →
      server.info.idleCnt < server.info.reconnectCnt → Steady server
  | connected {server : Server} (pConn : Pointer) (conn : DBServConn) (handle : Handle) :
      server.info.servConn = some pConn → server.heap = [(pConn, conn)] →
      server.connMap = [(handle, pConn)] → conn.handle = some handle →
      Settled delay server.trace →
      server.info.reconnectCnt = counterFor (streak server.trace) → Steady server

/-- The entry has an object to which no message is delivered, and only ticks have come since. -/
structure Stuck (ticks : Nat) (server : Server) : Prop where
  taken : server.info.servConn.isSome
  unheard : server.connMap = []
  waiting : Waiting delay ticks server.trace

theorem Steady.backsOff (steady : Steady server) : BacksOff server := by
  cases steady with
  | waiting free noObject noHandle waiting counter idle =>
      constructor
      · simp [noObject]
      · exact waiting.keepsSchedule_iff.mpr (counter ▸ idle)
      · rw [counter]
        exact List.mem_cons_of_mem _ (delay_mem _)
  | connected pConn conn own taken oneObject oneHandle handle settled counter =>
      constructor
      · simp [oneObject]
      · exact settled.keepsSchedule
      · exact counter ▸ counterFor_mem _

/-- After as many ticks as the longest delay the attempt is overdue. -/
theorem Stuck.not_backsOff {ticks : Nat} (stuck : Stuck ticks server) (late : 64 ≤ ticks) :
    ¬ BacksOff server := by
  intro backsOff
  have early := stuck.waiting.keepsSchedule_iff.mp backsOff.schedule
  have longest := (delay_bounds (streak server.trace)).2
  omega

/-- No attempt is made. -/
theorem Stuck.tick {ticks : Nat} (stuck : Stuck ticks server) (currTick : Nat)
    (handle : Option Handle) : Stuck (ticks + 1) (step server (.tick currTick handle)) := by
  obtain ⟨pConn, taken⟩ := Option.isSome_iff_exists.mp stuck.taken
  have ticked : step server (.tick currTick handle) = server.record (.tick false) := by
    simp [step, Server.timerCallback, Server.servCheckReconnect, stuck.unheard, taken]
  rw [ticked]
  exact ⟨stuck.taken, stuck.unheard, stuck.waiting.tick⟩

/-- Nothing frees the entry. -/
theorem Stuck.step_stuck {ticks : Nat} (stuck : Stuck ticks server) (event : Event) :
    ∃ now, ticks ≤ now ∧ Stuck now (step server event) := by
  cases event with
  | tick currTick handle =>
      exact ⟨ticks + 1, by omega, stuck.tick currTick handle⟩
  | confirm handle =>
      have ignored : Reconnect.step server (.confirm handle) = server := by
        simp [Reconnect.step, Server.findImConn, stuck.unheard]
      exact ⟨ticks, Nat.le_refl _, ignored.symm ▸ stuck⟩
  | close handle =>
      have ignored : Reconnect.step server (.close handle) = server := by
        simp [Reconnect.step, Server.findImConn, stuck.unheard]
      exact ⟨ticks, Nat.le_refl _, ignored.symm ▸ stuck⟩

/-- The entry waits, with the count of failures one higher. -/
theorem close_steady {pConn : Pointer} {conn : DBServConn} {handle : Handle}
    (oneObject : server.heap = [(pConn, conn)]) (oneHandle : server.connMap = [(handle, pConn)])
    (own : conn.handle = some handle) (settled : Settled delay server.trace)
    (counter : server.info.reconnectCnt = counterFor (streak server.trace)) :
    Steady (server.close pConn) ∧ ¬ (server.close pConn).Due := by
  have closed : server.close pConn =
      { server with
        info := ⟨0, delay (streak server.trace + 1), none⟩
        heap := []
        connMap := []
        trace := .failure :: server.trace } := by
    simp [Server.close, Server.servReset, Server.record, oneObject, oneHandle, own, counter,
      delay_succ]
  have least := (delay_bounds (streak server.trace + 1)).1
  rw [closed]
  constructor
  · exact .waiting rfl rfl rfl (.failure settled) rfl (by simp only; omega)
  · intro due
    have reached : delay (streak server.trace + 1) ≤ 0 + 1 := due.2
    omega

/-- The counter of a waiting entry is far from its end. -/
theorem idle_succ (counter : server.info.reconnectCnt = delay (streak server.trace))
    (idle : server.info.idleCnt < server.info.reconnectCnt) :
    (server.info.idleCnt + 1) % 2 ^ 32 = server.info.idleCnt + 1 := by
  have longest := (delay_bounds (streak server.trace)).2
  omega

/-- An attempt is due exactly at the end of the delay. -/
theorem idle_succ_of_due (counter : server.info.reconnectCnt = delay (streak server.trace))
    (idle : server.info.idleCnt < server.info.reconnectCnt) (due : server.Due) :
    server.info.idleCnt + 1 = delay (streak server.trace) := by
  have reached := due.2
  omega

theorem servCheckReconnect_of_due
    (counter : server.info.reconnectCnt = delay (streak server.trace))
    (idle : server.info.idleCnt < server.info.reconnectCnt) (due : server.Due) (now : Nat)
    (handle : Option Handle) :
    server.servCheckReconnect now handle =
      ({ server with
        info := { server.info with idleCnt := server.info.idleCnt + 1 } }.record
          (.tick true)).connect now handle := by
  simp only [Server.servCheckReconnect, due.1, idle_succ counter idle, ge_iff_le, due.2, if_true]

/-- The tick of an entry whose connections were looked at. -/
theorem Steady.servCheckReconnect (steady : Steady server) (now : Nat) {handle : Option Handle}
    (met : server.Due → handle.isSome) : Steady (server.servCheckReconnect now handle) := by
  cases steady with
  | waiting free noObject noHandle waiting counter idle =>
      by_cases due : server.Due
      · obtain ⟨handle, rfl⟩ := Option.isSome_iff_exists.mp (met due)
        have failures : streak server.trace ≠ 0 := by
          obtain ⟨earlier, _, last⟩ := waiting.last
          omega
        rw [servCheckReconnect_of_due counter idle due]
        refine .connected server.nextPtr ⟨some handle, false, now⟩ handle ?_ ?_ ?_ rfl ?_ ?_
        all_goals
          simp only [Server.connect, Server.record, Server.findImConn, noHandle, noObject,
            List.lookup_nil, Option.isSome_none, Bool.false_eq_true, if_false]
        · exact waiting.attempt (idle_succ_of_due counter idle due)
        · rw [counter, streak_tick, counterFor, if_neg failures]
      · have early : ¬ server.info.reconnectCnt ≤ server.info.idleCnt + 1 :=
          fun reached => due ⟨free, reached⟩
        simp only [Server.servCheckReconnect, free, idle_succ counter idle, ge_iff_le, early,
          if_false]
        exact .waiting rfl noObject noHandle waiting.tick counter (Nat.lt_of_not_le early)
  | connected pConn conn own taken oneObject oneHandle handleOf settled counter =>
      simp only [Server.servCheckReconnect, taken]
      exact .connected pConn conn own taken oneObject oneHandle handleOf
        (settled.cons (by decide)) counter

/-- An attempt that fails at once. -/
theorem Steady.stuck (steady : Steady server) (now : Nat) (due : server.Due) :
    Stuck 0 (server.servCheckReconnect now none) := by
  cases steady with
  | waiting free noObject noHandle waiting counter idle =>
      rw [servCheckReconnect_of_due counter idle due]
      exact ⟨rfl, noHandle, .failure (waiting.attempt (idle_succ_of_due counter idle due))⟩
  | connected pConn conn own taken oneObject oneHandle handleOf settled counter =>
      exact absurd (taken.symm.trans due.1) (by simp)

/-- The connections are looked at: the only one may have timed out. -/
theorem Steady.onTimers (steady : Steady server) (currTick : Nat) :
    let looked :=
      server.connMap.foldl (fun current entry => current.onTimer currTick entry.2) server
    Steady looked ∧ (looked.Due ↔ server.Due) := by
  have kept := steady
  cases steady with
  | waiting free noObject noHandle waiting counter idle =>
      rw [noHandle]
      exact ⟨kept, Iff.rfl⟩
  | connected pConn conn own taken oneObject oneHandle handleOf settled counter =>
      have notDue : ¬ server.Due := fun due => absurd (taken.symm.trans due.1) (by simp)
      rw [oneHandle]
      simp only [List.foldl_cons, List.foldl_nil, Server.onTimer]
      cases found : server.heap.lookup pConn with
      | none =>
          exact ⟨kept, Iff.rfl⟩
      | some found =>
          simp only
          split
          · obtain ⟨waits, early⟩ := close_steady oneObject oneHandle handleOf settled counter
            exact ⟨waits, iff_of_false early notDue⟩
          · exact ⟨kept, Iff.rfl⟩

theorem Steady.confirm (steady : Steady server) (handle : Handle) :
    Steady (step server (.confirm handle)) := by
  cases found : server.findImConn handle with
  | none =>
      simp only [step, found]
      exact steady
  | some pConn =>
      simp only [step, found]
      cases steady with
      | waiting free noObject noHandle waiting counter idle =>
          simp [Server.findImConn, noHandle] at found
      | connected held conn own taken oneObject oneHandle handleOf settled counter =>
          refine .connected held
            (if held = pConn then { conn with isOpen := true } else conn) own
            taken ?_ oneHandle ?_ (settled.cons (by decide)) rfl
          · simp only [Server.onConfirm, Server.record, oneObject, List.map_cons, List.map_nil]
            split
            · rfl
            · rfl
          · split
            · exact handleOf
            · exact handleOf

theorem Steady.close (steady : Steady server) (handle : Handle) :
    Steady (step server (.close handle)) := by
  cases found : server.findImConn handle with
  | none =>
      simp only [step, found]
      exact steady
  | some pConn =>
      simp only [step, found]
      cases steady with
      | waiting free noObject noHandle waiting counter idle =>
          simp [Server.findImConn, noHandle] at found
      | connected held conn own taken oneObject oneHandle handleOf settled counter =>
          have same : held = pConn := by
            simp only [Server.findImConn, oneHandle, List.lookup_cons, List.lookup_nil] at found
            split at found
            · exact Option.some.inj found
            · cases found
          subst same
          exact (close_steady oneObject oneHandle handleOf settled counter).1

theorem Steady.step_of_getsHandle (steady : Steady server) {event : Event}
    (met : GetsHandle server event) : Steady (step server event) := by
  cases event with
  | tick currTick handle =>
      obtain ⟨looked, due⟩ := steady.onTimers currTick
      exact looked.servCheckReconnect currTick fun later => met (due.mp later)
  | confirm handle => exact steady.confirm handle
  | close handle => exact steady.close handle

theorem Steady.step_of_not_getsHandle (steady : Steady server) {event : Event}
    (unmet : ¬ GetsHandle server event) : Stuck 0 (step server event) := by
  cases event with
  | tick currTick handle =>
      obtain ⟨looked, due⟩ := steady.onTimers currTick
      obtain ⟨now, failed⟩ := Classical.not_imp.mp unmet
      rw [Option.not_isSome_iff_eq_none] at failed
      rw [failed]
      exact looked.stuck currTick (due.mpr now)
  | confirm handle => exact absurd trivial unmet
  | close handle => exact absurd trivial unmet

end Steps

/-! ### Runs -/

section Runs

theorem servInit_steady (now : Nat) (handle : Handle) : Steady (servInit now (some handle)) :=
  .connected _ _ _ rfl rfl rfl rfl settled_nil rfl

theorem servInit_stuck (now : Nat) : Stuck 0 (servInit now none) :=
  ⟨rfl, rfl, .failure settled_nil⟩

theorem Stuck.run_stuck {ticks : Nat} {server : Server} (stuck : Stuck ticks server)
    (events : List Event) : ∃ now, ticks ≤ now ∧ Stuck now (run step server events) := by
  induction events generalizing ticks server with
  | nil => exact ⟨ticks, Nat.le_refl _, stuck⟩
  | cons event rest inductionHypothesis =>
      obtain ⟨next, later, stuck⟩ := stuck.step_stuck event
      obtain ⟨last, latest, stuck⟩ := inductionHypothesis stuck
      exact ⟨last, by omega, stuck⟩

/-- Every tick counts. -/
theorem Stuck.run_ticks {ticks : Nat} {server : Server} (stuck : Stuck ticks server)
    (currTick : Nat) (handle : Option Handle) (more : Nat) :
    Stuck (ticks + more)
      (run step server (List.replicate more (.tick currTick handle))) := by
  induction more generalizing ticks server with
  | zero => exact stuck
  | succ more inductionHypothesis =>
      have counted := inductionHypothesis (stuck.tick currTick handle)
      rw [Nat.add_right_comm, Nat.add_assoc] at counted
      exact counted

/-- A run with an attempt that fails at once leaves the entry stuck. -/
theorem Steady.run_stuck {server : Server} (steady : Steady server) {events : List Event}
    (unmet : ¬ Meets step GetsHandle server events) :
    ∃ ticks, Stuck ticks (run step server events) := by
  induction events generalizing server with
  | nil => exact absurd trivial unmet
  | cons event rest inductionHypothesis =>
      by_cases met : GetsHandle server event
      · have later : ¬ Meets step GetsHandle (step server event) rest :=
          fun meets => unmet ⟨met, meets⟩
        exact inductionHypothesis (steady.step_of_getsHandle met) later
      · obtain ⟨ticks, _, stuck⟩ := (steady.step_of_not_getsHandle met).run_stuck rest
        exact ⟨ticks, stuck⟩

/-- Followed by ticks for the longest delay, a run backs off all along exactly when no attempt
of it fails at once. -/
theorem backsOff_iff (now : Nat) (first : Option Handle) (events : List Event) (currTick : Nat)
    (handle : Handle) :
    Always step BacksOff (servInit now first)
        (events ++ List.replicate maxReconnectCnt (.tick currTick (some handle))) ↔
      first.isSome ∧ Meets step GetsHandle (servInit now first) events := by
  have overdue {ticks : Nat} (stuck : Stuck ticks (run step (servInit now first) events)) :
      ¬ Always step BacksOff (servInit now first)
        (events ++ List.replicate maxReconnectCnt (.tick currTick (some handle))) := by
    intro always
    have last := always.last
    rw [run_append] at last
    exact (stuck.run_ticks currTick (some handle) maxReconnectCnt).not_backsOff
      (by simp [maxReconnectCnt]) last
  cases first with
  | none =>
      obtain ⟨ticks, _, stuck⟩ := (servInit_stuck now).run_stuck events
      exact iff_of_false (overdue stuck) (by simp)
  | some first =>
      have steady := servInit_steady now first
      constructor
      · intro always
        refine ⟨rfl, ?_⟩
        by_contra unmet
        obtain ⟨ticks, stuck⟩ := steady.run_stuck unmet
        exact overdue stuck always
      · rintro ⟨_, meets⟩
        have met : Meets step GetsHandle (servInit now (some first))
            (events ++ List.replicate maxReconnectCnt (.tick currTick (some handle))) :=
          (meets_append _ _ _).mpr ⟨meets, meets_replicate (fun _ _ => rfl) _ _⟩
        exact met.always (fun _ _ held given => held.step_of_getsHandle given)
          (fun _ => Steady.backsOff) steady

/-- The first attempt fails at once, and the fourth tick makes no other. -/
theorem failed_at_once_is_final :
    ¬ Always step BacksOff (servInit 0 none) (List.replicate 4 (.tick 1000 (some 3))) := by
  intro always
  have trace_eq : (run step (servInit 0 none) (List.replicate 4 (.tick 1000 (some 3)))).trace =
      List.replicate 4 (.tick false) ++ .failure :: [] := by decide
  have answered := always.last.schedule _ _ trace_eq
  exact absurd (answered_replicate.mp answered) (by decide)

end Runs

end AChat.MsgServer.Reconnect
