import AChat.Lib.Reach
import AChat.FileServer.PackageFraming
import AChat.Net.ProtocolStream

/-!
Contract: what a file session is passed after its connection broke the protocol.

An illegal header stays in the buffer and stops every later `onRead`. A body that
`process` refuses does not: the loop goes on, and so do read events until the queued
teardown runs. So nothing is passed after a refusal exactly when nothing is there.
-/

namespace AChat.FileServer

open Lib Net

/-- An illegal header, or a body that was refused. -/
def Outcome.failed : Outcome → Bool
  | .passed _ returned => !returned
  | .illegalHeader => true

/-- Nothing is passed after a failure. -/
def NotServed (log : List Outcome) : Prop :=
  log.Pairwise fun earlier later => earlier.failed = true → later.body = none

instance (log : List Outcome) : Decidable (NotServed log) :=
  inferInstanceAs (Decidable (log.Pairwise _))

inductive FileEvent where
  | read (arrived : Bytes)
  | forceCloseInLoop (registers : Bool)
deriving DecidableEq, Repr

namespace FileConnection

variable {Session : Type} (process : Process Session)

/-- A step. No read event comes after the teardown, which disables the channel. A queued call
runs once. -/
def step (reading : FileConnection Session × Bytes) :
    FileEvent → FileConnection Session × Bytes
  | .read arrived =>
      if reading.1.conn.state = .kDisconnected then reading
      else readEvent process reading arrived
  | .forceCloseInLoop registers =>
      if 0 < reading.1.conn.forceCloses then
        let called := { reading.1.conn with forceCloses := reading.1.conn.forceCloses - 1 }
        ({ reading.1 with conn := called.forceCloseInLoop registers }, reading.2)
      else reading

/-- A body was refused. -/
def Refused (state : FileConnection Session) : Prop :=
  ∃ outcome ∈ state.log, outcome ≠ .illegalHeader ∧ outcome.failed = true

instance (state : FileConnection Session) : Decidable state.Refused :=
  inferInstanceAs (Decidable (∃ outcome ∈ _, _))

/-- All of these bodies but the last are served, one after the other. -/
def ServesFront (conn : TcpConnection) (session : Session) : List Bytes → Prop
  | body :: next :: rest =>
      (process conn session body).1 = true ∧
        ServesFront (process conn session body).2.1 (process conn session body).2.2 (next :: rest)
  | _ => True

/-- Only the last of the packages that are in the buffer after a read event is refused, and
none is there when one was refused before. -/
def RefusesLast (reading : FileConnection Session × Bytes) : FileEvent → Prop
  | .read arrived =>
      reading.1.conn.state = .kDisconnected ∨
        if reading.1.Refused then packages.frames (reading.2 ++ arrived) = []
        else ServesFront process reading.1.conn reading.1.session
          (packages.frames (reading.2 ++ arrived))
  | .forceCloseInLoop _ => True

/-! ### One loop -/

theorem notServed_concat {log : List Outcome} {outcome : Outcome} :
    NotServed (log ++ [outcome]) ↔
      NotServed log ∧ ((∃ earlier ∈ log, earlier.failed = true) → outcome.body = none) := by
  unfold NotServed
  rw [List.pairwise_append]
  constructor
  · rintro ⟨before, _, across⟩
    refine ⟨before, ?_⟩
    rintro ⟨earlier, member, failed⟩
    exact across earlier member outcome List.mem_cons_self failed
  · rintro ⟨before, across⟩
    refine ⟨before, List.pairwise_singleton _ _, ?_⟩
    intro earlier member later inLast failed
    rw [List.mem_singleton.mp inLast]
    exact across ⟨earlier, member, failed⟩

theorem notServed_of_append {log later : List Outcome} (quiet : NotServed (log ++ later)) :
    NotServed log :=
  (List.pairwise_append.mp quiet).1

theorem log_prefix_foldl (bodies : List Bytes) (state : FileConnection Session) :
    state.log <+: (bodies.foldl (pass process) state).log := by
  induction bodies generalizing state with
  | nil => exact List.prefix_refl _
  | cons body bodies inductionHypothesis =>
      rw [List.foldl_cons]
      have one : state.log <+: (state.pass process body).log := List.prefix_append _ _
      exact one.trans (inductionHypothesis _)

theorem notServed_of_foldl {bodies : List Bytes} {state : FileConnection Session}
    (quiet : NotServed (bodies.foldl (pass process) state).log) : NotServed state.log := by
  obtain ⟨later, same⟩ := log_prefix_foldl process bodies state
  rw [← same] at quiet
  exact notServed_of_append quiet

/-- After a failure nothing may be passed. -/
theorem notServed_foldl_of_failed {bodies : List Bytes} {state : FileConnection Session}
    (quiet : NotServed state.log) (failed : ∃ outcome ∈ state.log, outcome.failed = true) :
    NotServed (bodies.foldl (pass process) state).log ↔ bodies = [] := by
  cases bodies with
  | nil => exact iff_of_true quiet rfl
  | cons body bodies =>
      refine iff_of_false ?_ nofun
      intro after
      rw [List.foldl_cons] at after
      have first := notServed_of_foldl process after
      cases (notServed_concat.mp first).2 failed

theorem notServed_of_no_failure {log : List Outcome}
    (well : ∀ outcome ∈ log, outcome.failed = false) : NotServed log := by
  apply List.Pairwise.imp_of_mem (R := fun _ _ => True)
  · intro earlier later member _ _ failed
    rw [well earlier member] at failed
    cases failed
  · exact List.pairwise_of_forall fun _ _ => trivial

/-- Without a failure, only the last body may be refused. -/
theorem notServed_foldl {bodies : List Bytes} {state : FileConnection Session}
    (well : ∀ outcome ∈ state.log, outcome.failed = false) :
    NotServed (bodies.foldl (pass process) state).log ↔
      ServesFront process state.conn state.session bodies := by
  induction bodies generalizing state with
  | nil => exact iff_of_true (notServed_of_no_failure well) trivial
  | cons body bodies inductionHypothesis =>
      have noFailure : ¬∃ outcome ∈ state.log, outcome.failed = true := by
        rintro ⟨outcome, member, failed⟩
        rw [well outcome member] at failed
        cases failed
      have passed : NotServed (state.pass process body).log :=
        notServed_concat.mpr
          ⟨notServed_of_no_failure well, fun failed => absurd failed noFailure⟩
      rw [List.foldl_cons]
      cases bodies with
      | nil => exact iff_of_true passed trivial
      | cons next rest =>
          by_cases served : (process state.conn state.session body).1 = true
          · have later : ∀ outcome ∈ (state.pass process body).log, outcome.failed = false := by
              intro outcome member
              rcases List.mem_append.mp member with before | last
              · exact well outcome before
              · rw [List.mem_singleton.mp last, served]
                rfl
            have same : (state.pass process body).conn =
                (process state.conn state.session body).2.1 := if_pos served
            rw [inductionHypothesis later, same]
            exact (and_iff_right served).symm
          · have failed : ∃ outcome ∈ (state.pass process body).log, outcome.failed = true := by
              refine ⟨_, List.mem_append_right _ List.mem_cons_self, ?_⟩
              rw [Outcome.failed, Bool.eq_false_iff.mpr served]
              rfl
            rw [notServed_foldl_of_failed process passed failed]
            exact iff_of_false nofun fun front => served front.1

/-- Passing bodies meets no header. -/
theorem illegalHeader_mem_foldl {bodies : List Bytes} {state : FileConnection Session}
    (met : Outcome.illegalHeader ∈ (bodies.foldl (pass process) state).log) :
    Outcome.illegalHeader ∈ state.log := by
  induction bodies generalizing state with
  | nil => exact met
  | cons body bodies inductionHypothesis =>
      rw [List.foldl_cons] at met
      rcases List.mem_append.mp (inductionHypothesis met) with before | last
      · exact before
      · cases List.mem_singleton.mp last

/-! ### Runs -/

/-- What holds along a run that serves nothing after a failure: an illegal header that was met
stays in front. -/
structure Quiet (reading : FileConnection Session × Bytes) : Prop where
  notServed : NotServed reading.1.log
  illegal : Outcome.illegalHeader ∈ reading.1.log → packageFront reading.2 = .illegal

/-- A rejected header is nothing that is passed. -/
theorem notServed_received (state : FileConnection Session) (stream : Bytes) :
    NotServed ((receiver process).received state stream).1.log ↔
      NotServed ((packages.frames stream).foldl (pass process) state).log := by
  unfold Receiver.received receiver
  simp only
  split
  · exact notServed_concat.trans (and_iff_left fun _ => rfl)
  · exact Iff.rfl

/-- An illegal header is met only in front of what is left. -/
theorem illegal_received {state : FileConnection Session} {stream : Bytes}
    (before : Outcome.illegalHeader ∈ state.log → packageFront stream = .illegal)
    (met : Outcome.illegalHeader ∈ ((receiver process).received state stream).1.log) :
    packageFront (packages.rest stream) = .illegal := by
  unfold Receiver.received receiver at met
  simp only at met
  split at met
  · rename_i front
    exact front
  · have illegal := before (illegalHeader_mem_foldl process met)
    rw [packages.rest_of_stops (packages.stops_of_illegal illegal)]
    exact illegal

/-- One read event passes nothing after a failure exactly when only the last package is
refused. -/
theorem notServed_read {reading : FileConnection Session × Bytes} (quiet : Quiet reading)
    (arrived : Bytes) :
    NotServed (readEvent process reading arrived).1.log ↔
      if reading.1.Refused then packages.frames (reading.2 ++ arrived) = []
      else ServesFront process reading.1.conn reading.1.session
        (packages.frames (reading.2 ++ arrived)) := by
  rw [readEvent_eq]
  unfold Receiver.arrive
  rw [notServed_received]
  by_cases refused : reading.1.Refused
  · rw [if_pos refused]
    obtain ⟨outcome, member, _, failed⟩ := refused
    exact notServed_foldl_of_failed process quiet.notServed ⟨outcome, member, failed⟩
  · rw [if_neg refused]
    by_cases met : Outcome.illegalHeader ∈ reading.1.log
    · have front := packages.illegal_append (quiet.illegal met) arrived
      rw [packages.frames_of_stops (packages.stops_of_illegal front)]
      exact iff_of_true quiet.notServed trivial
    · apply notServed_foldl
      intro outcome member
      cases failed : outcome.failed with
      | false => rfl
      | true =>
          have passed : outcome ≠ .illegalHeader := by
            rintro rfl
            exact met member
          exact absurd ⟨outcome, member, passed, failed⟩ refused

theorem Quiet.read {reading : FileConnection Session × Bytes} (quiet : Quiet reading)
    {arrived : Bytes} (notServed : NotServed (readEvent process reading arrived).1.log) :
    Quiet (readEvent process reading arrived) := by
  refine ⟨notServed, ?_⟩
  rw [readEvent_eq]
  intro met
  refine illegal_received process ?_ met
  intro before
  exact packages.illegal_append (quiet.illegal before) arrived

/-- A step passes nothing after a failure exactly when it refuses no package but the last. -/
theorem notServed_step {reading : FileConnection Session × Bytes} (quiet : Quiet reading)
    (event : FileEvent) :
    NotServed (step process reading event).1.log ↔ RefusesLast process reading event := by
  cases event with
  | forceCloseInLoop registers =>
      refine iff_of_true ?_ trivial
      unfold step
      simp only
      split
      · exact quiet.notServed
      · exact quiet.notServed
  | read arrived =>
      unfold step RefusesLast
      simp only
      by_cases closed : reading.1.conn.state = .kDisconnected
      · rw [if_pos closed]
        exact iff_of_true quiet.notServed (.inl closed)
      · rw [if_neg closed]
        exact (notServed_read process quiet arrived).trans (or_iff_right closed).symm

theorem Quiet.step {reading : FileConnection Session × Bytes} (quiet : Quiet reading)
    {event : FileEvent} (refusesLast : RefusesLast process reading event) :
    Quiet (step process reading event) := by
  have notServed := (notServed_step process quiet event).mpr refusesLast
  cases event with
  | forceCloseInLoop registers =>
      unfold FileConnection.step
      simp only
      split
      · exact ⟨quiet.notServed, quiet.illegal⟩
      · exact quiet
  | read arrived =>
      unfold FileConnection.step at notServed ⊢
      simp only at notServed ⊢
      split at notServed
      · rename_i closed
        rw [if_pos closed]
        exact quiet
      · rename_i live
        rw [if_neg live]
        exact quiet.read process notServed

/-- In a run nothing is passed after a failure exactly when every read event refuses no
package but the last, and none is there after a refusal. -/
theorem notServed_iff (conn : TcpConnection) (session : Session) (events : List FileEvent) :
    Always (step process) (fun reading => NotServed reading.1.log) (new conn session, [])
        events ↔
      Meets (step process) (RefusesLast process) (new conn session, []) events := by
  have initial : Quiet ((new conn session, []) : FileConnection Session × Bytes) :=
    ⟨List.Pairwise.nil, nofun⟩
  exact @always_iff_meets _ _ (step process) (RefusesLast process) Quiet
    (fun reading => NotServed reading.1.log) (fun _ _ => True)
    (fun reading event quiet _ => notServed_step process quiet event)
    (fun reading event quiet _ refusesLast => quiet.step process refusesLast)
    (fun reading quiet => quiet.notServed) events _ initial (meets_true _ _ _)

/-- The first thing that `process` does: it reads the command. -/
def readsCmd (inbuf : Bytes) : Bool :=
  match (BinaryStreamReader.new inbuf).readInt32 with
  | .ok (some _, _) => true
  | _ => false

/-- A session that refuses whatever has no command. -/
def refusing : Process Unit := fun conn _ inbuf =>
  (readsCmd inbuf, conn, ())

def connected : FileConnection Unit × Bytes :=
  (new { TcpConnection.new 3 with state := .kConnected } (), [])

/-- A body without a command, and behind it another package: in the same read event, or in one
that comes before the teardown. -/
theorem served_after_refusal :
    ¬Always (step refusing) (fun reading => NotServed reading.1.log) connected
        [.read (strPackageData [7] ++ strPackageData [8])] ∧
      ¬Always (step refusing) (fun reading => NotServed reading.1.log) connected
        [.read (strPackageData [7]), .read (strPackageData [8]), .forceCloseInLoop true] := by
  constructor
  · intro always
    have last : NotServed (step refusing connected
        (.read (strPackageData [7] ++ strPackageData [8]))).1.log := always.2
    revert last
    decide +kernel
  · intro always
    have last : NotServed (step refusing (step refusing connected
        (.read (strPackageData [7]))) (.read (strPackageData [8]))).1.log := always.2.2.1
    revert last
    decide +kernel

end FileConnection

end AChat.FileServer
