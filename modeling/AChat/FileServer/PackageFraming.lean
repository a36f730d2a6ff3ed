import AChat.FileServer.PackageStream

/-!
Contract: the packages that a file session passes on do not depend on how the stream is
cut into read events.

The bodies that `process` gets are the frames of the whole stream, and what stays in the
buffer is what is left behind them. So packages that were sent arrive as they were sent,
and what is not yet complete stays.
-/

namespace AChat.FileServer

open Lib Net

/-- The body that was passed, and what was returned. -/
def Outcome.body : Outcome → Option (Bytes × Bool)
  | .passed body returned => some (body, returned)
  | .illegalHeader => none

/-- A package of which something is missing: its header, or behind a legal header its body. -/
def Incomplete (tail : Bytes) : Prop :=
  tail.length < fileMsgHeaderSize ∨
    (0 < packagesize (tail.take fileMsgHeaderSize) ∧
      packagesize (tail.take fileMsgHeaderSize) ≤ maxPackageSize ∧
      tail.length < (packagesize (tail.take fileMsgHeaderSize)).toNat + fileMsgHeaderSize)

theorem packageFront_incomplete {tail : Bytes} (incomplete : Incomplete tail) :
    packageFront tail = .more := by
  unfold packageFront
  by_cases short : tail.length < fileMsgHeaderSize
  · rw [if_pos short]
  · rcases incomplete with header | ⟨positive, small, body⟩
    · exact absurd header short
    · rw [if_neg short]
      simp only
      rw [if_neg (by omega), if_pos body]

namespace FileConnection

variable {Session : Type}

/-- The constructors. -/
def new (conn : TcpConnection) (session : Session) : FileConnection Session :=
  ⟨conn, session, []⟩

/-- The bodies that were passed to `process`, and what was returned. -/
def passed (state : FileConnection Session) : List (Bytes × Bool) :=
  state.log.filterMap Outcome.body

/-- Read events from an empty buffer on. -/
def readEvents (process : Process Session) (conn : TcpConnection) (session : Session)
    (chunks : List Bytes) : FileConnection Session × Bytes :=
  chunks.foldl (readEvent process) (new conn session, [])

theorem passed_pass (process : Process Session) (state : FileConnection Session) (inbuf : Bytes) :
    (state.pass process inbuf).passed =
      state.passed ++ [(inbuf, (process state.conn state.session inbuf).1)] := by
  unfold passed pass
  rw [List.filterMap_append]
  rfl

theorem passed_refuseHeader (state : FileConnection Session) :
    state.refuseHeader.passed = state.passed := by
  unfold passed refuseHeader
  rw [List.filterMap_append]
  exact List.append_nil _

/-- The bodies that are passed are the frames. -/
theorem passed_foldl (process : Process Session) (bodies : List Bytes)
    (state : FileConnection Session) :
    (bodies.foldl (pass process) state).passed.map Prod.fst =
      state.passed.map Prod.fst ++ bodies := by
  induction bodies generalizing state with
  | nil => exact (List.append_nil _).symm
  | cons body bodies inductionHypothesis =>
      rw [List.foldl_cons, inductionHypothesis, passed_pass, List.map_append, List.append_assoc]
      rfl

section Events

variable (process : Process Session) (conn : TcpConnection) (session : Session)

theorem stops_nil : packages.Stops [] := by
  intro body rest found
  have falls := packages.consumes found
  exact absurd falls (Nat.not_lt_zero _)

/-- What is passed is what the packages of the whole stream make of the session. -/
theorem passed_readEvents (chunks : List Bytes) :
    (readEvents process conn session chunks).1.passed =
      ((receiver process).delivered (new conn session) chunks.flatten).passed := by
  unfold readEvents
  rw [readEvent_eq]
  exact (receiver process).view_arrivals passed_refuseHeader chunks stops_nil

theorem buffer_readEvents (chunks : List Bytes) :
    (readEvents process conn session chunks).2 = packages.rest chunks.flatten := by
  unfold readEvents
  rw [readEvent_eq]
  exact (receiver process).rest_arrivals chunks stops_nil

end Events

end FileConnection

end AChat.FileServer
