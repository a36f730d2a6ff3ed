import AChat.DbProxy.PoolPrograms
import AChat.Lib.NumberText
import AChat.Lib.Reach

/-!
Contract: what the sync center of the DB proxy remembers over a restart.

The time of the last user update is written under one key and read under another one, so it is
never found. The time of the last group update is read only when there is none. A restart keeps
the two times only if it falls on them.

Owns: the two times in memory and in Redis, the updates and `init`, and what a restart should
bring back. A connection to Redis is there, and its commands succeed.
-/

namespace AChat.DbProxy

namespace SyncTimes

open Lib (toString_ne_empty)
open Pooled (string2int)

/-! ### The sync center -/

/-- `SyncCenter`, with the strings of Redis. A string that is not there is empty. -/
structure SyncCenter where
  lastUpdate : Nat
  lastUpdateGroup : Nat
  cache : String → String

namespace SyncCenter

def set (sync : SyncCenter) (key value : String) : SyncCenter :=
  { sync with cache := Function.update sync.cache key value }

def updateTotalUpdate (sync : SyncCenter) (updated : Nat) : SyncCenter :=
  { sync with lastUpdate := updated }.set "total_user_update" (toString updated)

def updateLastUpdateGroup (sync : SyncCenter) (updated : Nat) : SyncCenter :=
  { sync with lastUpdateGroup := updated }.set "last_update_group" (toString updated)

/-- Both strings are read before one of them is changed. -/
def init (sync : SyncCenter) (now : Nat) : SyncCenter :=
  let totalUpdate := sync.cache "total_user_updated"
  let group := sync.cache "last_update_group"
  let sync :=
    if totalUpdate ≠ "" then { sync with lastUpdate := string2int totalUpdate }
    else sync.updateTotalUpdate now
  if group = "" then { sync with lastUpdateGroup := string2int group }
  else sync.updateLastUpdateGroup now

/-- A new process, whose memory holds anything, with the same Redis. -/
def restart (sync : SyncCenter) (lastUpdate lastUpdateGroup now : Nat) : SyncCenter :=
  (SyncCenter.mk lastUpdate lastUpdateGroup sync.cache).init now

/-- A process with nothing in Redis. -/
def start (lastUpdate lastUpdateGroup : Nat) : SyncCenter :=
  ⟨lastUpdate, lastUpdateGroup, fun _ => ""⟩

end SyncCenter

inductive SyncEvent where
  | updateTotalUpdate (updated : Nat)
  | updateLastUpdateGroup (updated : Nat)
  /-- What is in the memory of the new process, and the time of the restart. -/
  | restart (lastUpdate lastUpdateGroup now : Nat)
deriving DecidableEq, Repr

def SyncCenter.step (sync : SyncCenter) : SyncEvent → SyncCenter
  | .updateTotalUpdate updated => sync.updateTotalUpdate updated
  | .updateLastUpdateGroup updated => sync.updateLastUpdateGroup updated
  | .restart lastUpdate lastUpdateGroup now => sync.restart lastUpdate lastUpdateGroup now


/-! ### The specification -/

/-- The values that were stored last. -/
structure Stored where
  total : Option Nat
  group : Option Nat
deriving DecidableEq, Repr

namespace Stored

/-- A restart brings the stored values back, and stores its own time where there is none. -/
def step (stored : Stored) : SyncEvent → Stored
  | .updateTotalUpdate updated => { stored with total := some updated }
  | .updateLastUpdateGroup updated => { stored with group := some updated }
  | .restart _ _ now => ⟨some (stored.total.getD now), some (stored.group.getD now)⟩

end Stored

/-- What was stored last is in memory and in Redis. -/
structure Remembers (sync : SyncCenter) (stored : Stored) : Prop where
  total : ∀ time, stored.total = some time →
    sync.lastUpdate = time ∧ sync.cache "total_user_update" = toString time
  group : ∀ time, stored.group = some time →
    sync.lastUpdateGroup = time ∧ sync.cache "last_update_group" = toString time

/-- The sync center, and what was stored last. -/
structure SyncRun where
  sync : SyncCenter
  stored : Stored

namespace SyncRun

def start (lastUpdate lastUpdateGroup : Nat) : SyncRun :=
  ⟨.start lastUpdate lastUpdateGroup, ⟨none, none⟩⟩

def step (current : SyncRun) (event : SyncEvent) : SyncRun :=
  ⟨current.sync.step event, current.stored.step event⟩

def Remembers (current : SyncRun) : Prop :=
  SyncTimes.Remembers current.sync current.stored

/-- A restart falls on the time that was stored last for the groups, and on the one for the users
if there is one. -/
def FallsOn (current : SyncRun) : SyncEvent → Prop
  | .restart _ _ now =>
      current.stored.group = some now ∧ ∀ time, current.stored.total = some time → time = now
  | _ => True

end SyncRun

/-! ### One step -/

/-- The times are remembered, and nothing is in Redis but what was stored. -/
structure Tracks (current : SyncRun) : Prop where
  remembers : current.Remembers
  unread : current.sync.cache "total_user_updated" = ""
  noGroup : current.stored.group = none → current.sync.cache "last_update_group" = ""

section Steps

variable {current : SyncRun}

theorem tracks_start (lastUpdate lastUpdateGroup : Nat) :
    Tracks (.start lastUpdate lastUpdateGroup) where
  remembers := ⟨fun _ stored => (nomatch stored), fun _ stored => (nomatch stored)⟩
  unread := rfl
  noGroup _ := rfl

theorem tracks_updateTotalUpdate (tracks : Tracks current) (updated : Nat) :
    Tracks (current.step (.updateTotalUpdate updated)) where
  remembers := by
    refine ⟨fun time stored => ?_, fun time stored => tracks.remembers.group time stored⟩
    rw [← Option.some.inj stored]
    exact ⟨rfl, rfl⟩
  unread := tracks.unread
  noGroup := tracks.noGroup

theorem tracks_updateLastUpdateGroup (tracks : Tracks current) (updated : Nat) :
    Tracks (current.step (.updateLastUpdateGroup updated)) where
  remembers := by
    refine ⟨fun time stored => tracks.remembers.total time stored, fun time stored => ?_⟩
    rw [← Option.some.inj stored]
    exact ⟨rfl, rfl⟩
  unread := tracks.unread
  noGroup stored := nomatch stored

/-- The string that is read for the users is never there. -/
theorem init_of_unread {sync : SyncCenter} (unread : sync.cache "total_user_updated" = "")
    (now : Nat) :
    sync.init now =
      if sync.cache "last_update_group" = "" then
        { sync.updateTotalUpdate now with lastUpdateGroup := 0 }
      else (sync.updateTotalUpdate now).updateLastUpdateGroup now := by
  simp only [SyncCenter.init, unread, ne_eq, not_true_eq_false, if_false]
  split
  · rename_i absent
    have zero : string2int "" = 0 := by decide
    rw [absent, zero]
  · rfl

theorem restarted_unread {lastUpdate lastUpdateGroup : Nat} (tracks : Tracks current) :
    (SyncCenter.mk lastUpdate lastUpdateGroup current.sync.cache).cache "total_user_updated" = "" :=
  tracks.unread

/-- A restart with no time for the groups leaves none in Redis. -/
theorem not_remembers_of_noGroup {lastUpdate lastUpdateGroup now : Nat} (tracks : Tracks current)
    (noGroup : current.stored.group = none) :
    ¬(current.step (.restart lastUpdate lastUpdateGroup now)).Remembers := by
  intro remembers
  have there : (current.step (.restart lastUpdate lastUpdateGroup now)).stored.group = some now := by
    show some (current.stored.group.getD now) = some now
    rw [noGroup]
    rfl
  have cached := (remembers.group now there).2
  have absent := tracks.noGroup noGroup
  have kept : (current.step (.restart lastUpdate lastUpdateGroup now)).sync.cache
      "last_update_group" = "" := by
    show ((SyncCenter.mk lastUpdate lastUpdateGroup current.sync.cache).init now).cache _ = _
    rw [init_of_unread (restarted_unread tracks), if_pos absent]
    exact absent
  exact toString_ne_empty now (cached.symm.trans kept)

/-- A restart with a time for the groups puts its own time in the place of both. -/
structure HasTime (sync : SyncCenter) (now : Nat) : Prop where
  total : sync.lastUpdate = now
  group : sync.lastUpdateGroup = now
  totalCached : sync.cache "total_user_update" = toString now
  groupCached : sync.cache "last_update_group" = toString now
  unread : sync.cache "total_user_updated" = ""

theorem hasTime_of_group {lastUpdate lastUpdateGroup now group : Nat} (tracks : Tracks current)
    (stored : current.stored.group = some group) :
    HasTime (current.step (.restart lastUpdate lastUpdateGroup now)).sync now := by
  have present : current.sync.cache "last_update_group" ≠ "" := by
    rw [(tracks.remembers.group group stored).2]
    exact toString_ne_empty group
  have unread := tracks.unread
  show HasTime ((SyncCenter.mk lastUpdate lastUpdateGroup current.sync.cache).init now) now
  rw [init_of_unread (restarted_unread tracks), if_neg present]
  constructor
  · rfl
  · rfl
  · simp [SyncCenter.updateLastUpdateGroup, SyncCenter.updateTotalUpdate, SyncCenter.set]
  · simp [SyncCenter.updateLastUpdateGroup, SyncCenter.set]
  · simp [SyncCenter.updateLastUpdateGroup, SyncCenter.updateTotalUpdate, SyncCenter.set, unread]

theorem remembers_iff_of_hasTime {sync : SyncCenter} {stored : Stored} {now total group : Nat}
    (hasTime : HasTime sync now) (storedTotal : stored.total = some total)
    (storedGroup : stored.group = some group) :
    SyncTimes.Remembers sync stored ↔ group = now ∧ total = now := by
  constructor
  · intro remembers
    exact ⟨(remembers.group group storedGroup).1.symm.trans hasTime.group,
      (remembers.total total storedTotal).1.symm.trans hasTime.total⟩
  · rintro ⟨rfl, rfl⟩
    refine ⟨fun time there => ?_, fun time there => ?_⟩
    · obtain rfl := Option.some.inj (storedTotal.symm.trans there)
      exact ⟨hasTime.total, hasTime.totalCached⟩
    · obtain rfl := Option.some.inj (storedGroup.symm.trans there)
      exact ⟨hasTime.group, hasTime.groupCached⟩

theorem restart_remembers_iff {lastUpdate lastUpdateGroup now group : Nat}
    (tracks : Tracks current) (stored : current.stored.group = some group) :
    (current.step (.restart lastUpdate lastUpdateGroup now)).Remembers ↔
      group = now ∧ current.stored.total.getD now = now := by
  refine remembers_iff_of_hasTime (hasTime_of_group tracks stored) rfl ?_
  show some (current.stored.group.getD now) = some group
  rw [stored]
  rfl

theorem step_remembers_iff (tracks : Tracks current) (event : SyncEvent) :
    (current.step event).Remembers ↔ current.FallsOn event := by
  cases event with
  | updateTotalUpdate updated =>
      exact iff_of_true (tracks_updateTotalUpdate tracks updated).remembers trivial
  | updateLastUpdateGroup updated =>
      exact iff_of_true (tracks_updateLastUpdateGroup tracks updated).remembers trivial
  | restart lastUpdate lastUpdateGroup now =>
      show _ ↔ current.stored.group = some now ∧
        ∀ time, current.stored.total = some time → time = now
      cases stored : current.stored.group with
      | none => exact iff_of_false (not_remembers_of_noGroup tracks stored) fun both => nomatch both.1
      | some group =>
          rw [restart_remembers_iff tracks stored, Option.some.injEq]
          cases current.stored.total with
          | none => simp
          | some total => simp

/-- A step that is remembered leaves nothing else in Redis. -/
theorem tracks_step (tracks : Tracks current) (event : SyncEvent)
    (fallsOn : current.FallsOn event) : Tracks (current.step event) := by
  have remembers := (step_remembers_iff tracks event).mpr fallsOn
  cases event with
  | updateTotalUpdate updated => exact tracks_updateTotalUpdate tracks updated
  | updateLastUpdateGroup updated => exact tracks_updateLastUpdateGroup tracks updated
  | restart lastUpdate lastUpdateGroup now =>
      exact ⟨remembers, (hasTime_of_group tracks fallsOn.1).unread, fun noGroup => nomatch noGroup⟩

end Steps

/-! ### Whole runs -/

/-- After every event what was stored last is remembered, exactly if every restart falls on the
times that were stored last. -/
theorem remembers_iff_fallsOn (lastUpdate lastUpdateGroup : Nat) (events : List SyncEvent) :
    Lib.Always SyncRun.step SyncRun.Remembers (.start lastUpdate lastUpdateGroup) events ↔
      Lib.Meets SyncRun.step SyncRun.FallsOn (.start lastUpdate lastUpdateGroup) events :=
  Lib.always_iff_meets (fun _ event tracks _ => step_remembers_iff tracks event)
    (fun _ event tracks _ fallsOn => tracks_step tracks event fallsOn)
    (fun _ tracks => tracks.remembers) events (tracks_start lastUpdate lastUpdateGroup)
    (Lib.meets_true _ events _)

/-- Both times are stored, and a restart forgets them. -/
theorem restart_forgets :
    ¬Lib.Always SyncRun.step SyncRun.Remembers (.start 0 0)
      [.updateTotalUpdate 5, .updateLastUpdateGroup 6, .restart 0 0 9] := by
  intro always
  have total := (always.2.2.2.total 5 rfl).1
  revert total
  decide

end SyncTimes

end AChat.DbProxy
