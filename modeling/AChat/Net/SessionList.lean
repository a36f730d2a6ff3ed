import Mathlib.Data.List.Nodup
import AChat.Lib.Reach

/-!
Contract: whether a server's list of sessions has the connections that are up.

`onDisconnected` takes the first session of the list, whichever connection it was
created for. Two servers lead the callback of a connection that is up to its
session, so that they never hear that it is down, and the sessions of the proxy
server do not keep their connection.

Owns: the connection callbacks of the four servers.
-/

namespace AChat.Net

open Lib

/-! ### Servers -/

inductive ServerKind where
  | fileServer
  | msgServer
  | loginServer
  | proxyServer
deriving DecidableEq, Repr

/-- The session keeps the connection that it was created for. -/
def ServerKind.keepsConnection : ServerKind → Bool
  | .fileServer | .msgServer | .loginServer => true
  | .proxyServer => false

/-- A connection that is up gets the callback of its session. -/
def ServerKind.setsConnectionCallback : ServerKind → Bool
  | .msgServer | .loginServer => true
  | .fileServer | .proxyServer => false

/-- A session stands under the connection that it was created for. -/
structure SessionList where
  kind : ServerKind
  sessions : List Nat
  /-- The connections whose callback is the one of their session. -/
  redirected : List Nat
  /-- The connections that are up, the oldest first. -/
  up : List Nat
  /-- All connections that have been up. -/
  known : List Nat
  /-- The connections whose object is gone. -/
  destroyed : List Nat
deriving DecidableEq, Repr

inductive ConnectionEvent where
  | up (conn : Nat)
  | down (conn : Nat)
  | destroyed (conn : Nat)
deriving DecidableEq, Repr

namespace SessionList

def start (kind : ServerKind) : SessionList :=
  ⟨kind, [], [], [], [], []⟩

/-- `getConnectionPtr`: the session's connection, while it is kept and its object is there. -/
def getConnectionPtr (server : SessionList) (session : Nat) : Option Nat :=
  if server.kind.keepsConnection = true ∧ session ∉ server.destroyed then some session else none

/-- The branch of `onConnected` for a connection that is up. -/
def onConnected (server : SessionList) (conn : Nat) : SessionList :=
  { server with
    sessions := server.sessions ++ [conn]
    redirected :=
      if server.kind.setsConnectionCallback then server.redirected ++ [conn]
      else server.redirected }

/-- The loop of `onDisconnected` ends in its first round. -/
def onDisconnected (server : SessionList) : SessionList :=
  match server.sessions with
  | [] => server
  | session :: rest =>
      if server.getConnectionPtr session = none then server
      else { server with sessions := rest }

def step (server : SessionList) : ConnectionEvent → SessionList
  | .up conn =>
      { server with up := server.up ++ [conn], known := conn :: server.known }.onConnected conn
  | .down conn =>
      let after := { server with up := server.up.erase conn }
      if conn ∈ server.redirected then after else after.onDisconnected
  | .destroyed conn => { server with destroyed := conn :: server.destroyed }

/-- A connection goes up once, and down once after that. Its object is there until it is
down. -/
def Admissible (server : SessionList) : ConnectionEvent → Prop
  | .up conn => conn ∉ server.known
  | .down conn => conn ∈ server.up
  | .destroyed conn => conn ∈ server.known ∧ conn ∉ server.up

/-- The list has one session for each connection that is up, and no other. -/
def TracksConnections (server : SessionList) : Prop :=
  ∀ conn, server.sessions.count conn = if conn ∈ server.up then 1 else 0

/-- A connection goes down only on the file server, and only when it is the oldest one that
is up. -/
def OldestGoesDown (server : SessionList) : ConnectionEvent → Prop
  | .down conn => server.kind = .fileServer ∧ server.up.head? = some conn
  | _ => True

/-! ### The invariant -/

/-- The sessions are those of the connections that are up, in their order. -/
structure InStep (server : SessionList) : Prop where
  sessions : server.sessions = server.up
  nodup : server.up.Nodup
  known : ∀ conn ∈ server.up, conn ∈ server.known
  there : ∀ conn ∈ server.up, conn ∉ server.destroyed
  gone : ∀ conn ∈ server.destroyed, conn ∈ server.known
  redirected : server.kind.setsConnectionCallback = true →
    ∀ conn ∈ server.up, conn ∈ server.redirected
  own : server.kind.setsConnectionCallback = false → server.redirected = []

theorem InStep.start (kind : ServerKind) : InStep (start kind) := by
  exact ⟨rfl, List.nodup_nil, nofun, nofun, nofun, fun _ => nofun, fun _ => rfl⟩

variable {server : SessionList}

theorem InStep.tracksConnections (inStep : InStep server) : TracksConnections server := by
  intro conn
  rw [inStep.sessions]
  exact inStep.nodup.count

theorem InStep.up (inStep : InStep server) {conn : Nat} (unknown : conn ∉ server.known) :
    InStep (server.step (.up conn)) := by
  have absent : conn ∉ server.up := fun up => unknown (inStep.known conn up)
  refine ⟨?_, ?_, ?_, ?_, ?_, ?_, ?_⟩
  · exact congrArg (· ++ [conn]) inStep.sessions
  · exact List.Nodup.append inStep.nodup (List.nodup_singleton conn)
      (List.disjoint_singleton.mpr absent)
  · intro other up
    cases List.mem_append.mp up with
    | inl earlier => exact List.mem_cons_of_mem _ (inStep.known other earlier)
    | inr last => exact List.mem_singleton.mp last ▸ List.mem_cons_self
  · intro other up destroyed
    cases List.mem_append.mp up with
    | inl earlier => exact inStep.there other earlier destroyed
    | inr last => exact unknown (List.mem_singleton.mp last ▸ inStep.gone other destroyed)
  · exact fun other destroyed => List.mem_cons_of_mem _ (inStep.gone other destroyed)
  · intro (sets : server.kind.setsConnectionCallback = true) other up
    show other ∈ if server.kind.setsConnectionCallback then server.redirected ++ [conn]
      else server.redirected
    rw [if_pos sets]
    cases List.mem_append.mp up with
    | inl earlier => exact List.mem_append_left _ (inStep.redirected sets other earlier)
    | inr last => exact List.mem_append_right _ last
  · intro (keeps : server.kind.setsConnectionCallback = false)
    show (if server.kind.setsConnectionCallback then server.redirected ++ [conn]
      else server.redirected) = []
    rw [if_neg (by rw [keeps]; exact Bool.false_ne_true)]
    exact inStep.own keeps

theorem InStep.destroyed (inStep : InStep server) {conn : Nat} (known : conn ∈ server.known)
    (down : conn ∉ server.up) : InStep (server.step (.destroyed conn)) := by
  refine ⟨inStep.sessions, inStep.nodup, inStep.known, ?_, ?_, inStep.redirected, inStep.own⟩
  · intro other up destroyed
    cases List.mem_cons.mp destroyed with
    | inl same => exact down (same ▸ up)
    | inr earlier => exact inStep.there other up earlier
  · intro other destroyed
    cases List.mem_cons.mp destroyed with
    | inl same => exact same ▸ known
    | inr earlier => exact inStep.gone other earlier

/-- What the list is after a connection goes down. -/
theorem sessions_down (inStep : InStep server) {conn : Nat} (up : conn ∈ server.up) :
    (server.step (.down conn)).sessions =
      if server.kind = .fileServer then server.up.tail else server.up := by
  have fromFirst : server.redirected = [] → (server.step (.down conn)).sessions =
      { server with up := server.up.erase conn }.onDisconnected.sessions := by
    intro none
    unfold step
    simp only [none, List.not_mem_nil, if_false]
  have kept : conn ∈ server.redirected → (server.step (.down conn)).sessions = server.up := by
    intro redirected
    unfold step
    simp only [redirected, if_true]
    exact inStep.sessions
  cases kind : server.kind with
  | fileServer =>
      rw [if_pos rfl, fromFirst (inStep.own (by rw [kind]; rfl)), ← inStep.sessions]
      unfold onDisconnected
      simp only
      split
      · rename_i empty
        rw [empty]
        rfl
      · rename_i session rest listed
        have live : session ∉ server.destroyed := by
          apply inStep.there
          rw [← inStep.sessions, listed]
          exact List.mem_cons_self
        rw [listed]
        simp [getConnectionPtr, kind, ServerKind.keepsConnection, live]
  | msgServer => exact kept (inStep.redirected (by rw [kind]; rfl) conn up)
  | loginServer => exact kept (inStep.redirected (by rw [kind]; rfl) conn up)
  | proxyServer =>
      rw [if_neg nofun, fromFirst (inStep.own (by rw [kind]; rfl)), ← inStep.sessions]
      unfold onDisconnected
      simp only
      split
      · rfl
      · simp [getConnectionPtr, kind, ServerKind.keepsConnection]

theorem up_down (server : SessionList) (conn : Nat) :
    (server.step (.down conn)).up = server.up.erase conn := by
  unfold step onDisconnected
  simp only
  split
  · rfl
  · split
    · rfl
    · split <;> rfl

theorem tracks_down_iff (inStep : InStep server) {conn : Nat} (up : conn ∈ server.up) :
    TracksConnections (server.step (.down conn)) ↔
      server.kind = .fileServer ∧ server.up.head? = some conn := by
  have sessions := sessions_down inStep up
  have after := up_down server conn
  have gone : conn ∉ server.up.erase conn := inStep.nodup.not_mem_erase
  unfold TracksConnections
  rw [sessions, after]
  constructor
  · intro tracks
    have none : (if server.kind = .fileServer then server.up.tail else server.up).count conn = 0 :=
      (tracks conn).trans (if_neg gone)
    have absent := List.count_eq_zero.mp none
    by_cases kind : server.kind = .fileServer
    · rw [if_pos kind] at absent
      refine ⟨kind, ?_⟩
      cases order : server.up with
      | nil => exact absurd up (by simp [order])
      | cons first rest =>
          rw [order] at up absent
          cases List.mem_cons.mp up with
          | inl same => rw [same]; rfl
          | inr later => exact absurd later absent
    · rw [if_neg kind] at absent
      exact absurd up absent
  · intro oldest
    rw [if_pos oldest.1]
    obtain ⟨rest, order⟩ := List.head?_eq_some_iff.mp oldest.2
    rw [order, List.erase_cons_head, List.tail_cons]
    have nodup := inStep.nodup
    rw [order] at nodup
    exact fun other => nodup.of_cons.count

theorem InStep.down (inStep : InStep server) {conn : Nat} (up : conn ∈ server.up)
    (oldest : OldestGoesDown server (.down conn)) : InStep (server.step (.down conn)) := by
  obtain ⟨rest, order⟩ := List.head?_eq_some_iff.mp oldest.2
  have plain := inStep.own (by rw [oldest.1]; rfl)
  have sessions := sessions_down inStep up
  have after := up_down server conn
  rw [if_pos oldest.1] at sessions
  have same : server.up.tail = server.up.erase conn := by
    rw [order, List.erase_cons_head, List.tail_cons]
  have kept : ∀ other ∈ (server.step (.down conn)).up, other ∈ server.up := by
    intro other known
    rw [after] at known
    exact List.mem_of_mem_erase known
  have rest : (server.step (.down conn)).kind = server.kind ∧
      (server.step (.down conn)).redirected = server.redirected ∧
      (server.step (.down conn)).known = server.known ∧
      (server.step (.down conn)).destroyed = server.destroyed := by
    unfold step onDisconnected
    simp only
    split
    · exact ⟨rfl, rfl, rfl, rfl⟩
    · split
      · exact ⟨rfl, rfl, rfl, rfl⟩
      · split <;> exact ⟨rfl, rfl, rfl, rfl⟩
  obtain ⟨kind, redirected, known, destroyed⟩ := rest
  refine ⟨?_, ?_, ?_, ?_, ?_, ?_, ?_⟩
  · rw [sessions, after, same]
  · rw [after]
    exact inStep.nodup.erase conn
  · rw [known]
    exact fun other up => inStep.known other (kept other up)
  · rw [destroyed]
    exact fun other up => inStep.there other (kept other up)
  · rw [known, destroyed]
    exact inStep.gone
  · rw [kind, redirected]
    exact fun sets other up => inStep.redirected sets other (kept other up)
  · rw [kind, redirected]
    exact inStep.own

/-! ### The result -/

theorem InStep.step (inStep : InStep server) {event : ConnectionEvent}
    (admissible : Admissible server event) (oldest : OldestGoesDown server event) :
    InStep (server.step event) := by
  cases event with
  | up conn => exact inStep.up admissible
  | down conn => exact inStep.down admissible oldest
  | destroyed conn => exact inStep.destroyed admissible.1 admissible.2

theorem step_tracks_iff (inStep : InStep server) {event : ConnectionEvent}
    (admissible : Admissible server event) :
    TracksConnections (server.step event) ↔ OldestGoesDown server event := by
  cases event with
  | down conn => exact tracks_down_iff inStep admissible
  | up conn => exact ⟨fun _ => trivial, fun _ => (inStep.up admissible).tracksConnections⟩
  | destroyed conn =>
      exact ⟨fun _ => trivial,
        fun _ => (inStep.destroyed admissible.1 admissible.2).tracksConnections⟩

theorem tracks_iff_oldestGoesDown (kind : ServerKind) (events : List ConnectionEvent)
    (admissible : Meets SessionList.step Admissible (start kind) events) :
    Always SessionList.step TracksConnections (start kind) events ↔
      Meets SessionList.step OldestGoesDown (start kind) events :=
  always_iff_meets (fun _ _ inStep admissible => step_tracks_iff inStep admissible)
    (fun _ _ inStep admissible oldest => inStep.step admissible oldest)
    (fun _ inStep => inStep.tracksConnections) events (.start kind) admissible

/-- The connections go down in the order in which they came up. -/
theorem tracks_in_order :
    Always SessionList.step TracksConnections (start .fileServer)
      [.up 1, .up 2, .down 1, .down 2] := by
  apply (tracks_iff_oldestGoesDown .fileServer [.up 1, .up 2, .down 1, .down 2]
    ⟨nofun, by unfold Admissible; decide, by unfold Admissible; decide,
      by unfold Admissible; decide, trivial⟩).mpr
  exact ⟨trivial, trivial, ⟨rfl, by decide⟩, ⟨rfl, by decide⟩, trivial⟩

/-- The second connection goes down, and the first one loses its session. -/
theorem tracks_not_newest :
    Meets SessionList.step Admissible (start .fileServer) [.up 1, .up 2, .down 2] ∧
      ¬Always SessionList.step TracksConnections (start .fileServer)
        [.up 1, .up 2, .down 2] := by
  refine ⟨⟨nofun, by unfold Admissible; decide, by unfold Admissible; decide, trivial⟩, ?_⟩
  intro always
  exact absurd (always.2.2.2 1) (by decide)

end SessionList

end AChat.Net
