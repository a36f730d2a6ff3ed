import AChat.DbProxy.MessageService
import AChat.Lib.Reach
import Mathlib.Logic.Function.Basic

/-!
Contract: which chat updates of groups the rounds of the sync thread return.

A round looks for the groups whose last chat is not before the last sync time, and reads the clock
for the next sync time only after that. An update that was made in between, or that writes a time
which its thread has read before, can lie before the sync time of the next round, which then does
not return it, and no later round does.

Owns: the rounds and the updates of any number of threads step by step, the updates that a round
has yet to return, and when none is skipped. The slave is equal to the master, and queries succeed.
-/

namespace AChat.DbProxy

namespace GroupSync

/-! ### The sync thread and the writers -/

/-- A row of `IMGroup`. -/
structure ChatRow where
  id : Id
  status : Nat
  lastChated : Nat
deriving DecidableEq, Repr

/-- `map<uint32_t, uint32_t>` of the groups that a round has read. -/
abbrev ChangedGroup := List (Id × Nat)

/-- Where the sync thread is in `doSyncGroupChat`. -/
inductive Phase where
  /-- Before the query. -/
  | waiting
  /-- Behind the query. -/
  | queried (changed : ChangedGroup)
  /-- In the call of `updateLastUpdateGroup`, with the time that was read for it. -/
  | timed (changed : ChangedGroup) (now : Nat)
  /-- Before the loop over the groups. -/
  | publishing (changed : ChangedGroup)
deriving DecidableEq, Repr

structure Sync (Thread : Type) where
  clock : Nat
  groups : List ChatRow
  lastUpdateGroup : Nat
  phase : Phase
  /-- The group and the time of an `updateGroupChat` before its statement. -/
  writing : Thread → Option (Id × Nat)
  published : ChangedGroup

inductive Event (Thread : Type) where
  | tick (seconds : Nat)
  /-- The clock is read in `updateGroupChat`. -/
  | readTime (thread : Thread) (groupId : Id)
  /-- The statement of `updateGroupChat`. -/
  | update (thread : Thread)
  | query
  /-- The clock is read behind the query. -/
  | readClock
  | advance
  | publish
deriving DecidableEq, Repr

/-- The condition of the query. -/
def selected (lastUpdateGroup : Nat) (row : ChatRow) : Bool :=
  row.status == 0 && decide (row.lastChated ≥ lastUpdateGroup)

def setLastChated (groupId : Id) (now : Nat) (row : ChatRow) : ChatRow :=
  if row.id = groupId then { row with lastChated := now } else row

/-- The rows of a result that go into the map. -/
def changedGroup (rows : List ChatRow) : ChangedGroup :=
  (rows.filter fun row => row.lastChated != 0).map fun row => (row.id, row.lastChated)

variable {Thread : Type} [DecidableEq Thread]

namespace Sync

/-- The result of the query. -/
def select (sync : Sync Thread) : List ChatRow :=
  sync.groups.filter (selected sync.lastUpdateGroup)

/-- A step. What a thread cannot do where it is changes nothing. -/
def step (sync : Sync Thread) : Event Thread → Sync Thread
  | .tick seconds => { sync with clock := sync.clock + seconds }
  | .readTime thread groupId =>
      match sync.writing thread with
      | none =>
          { sync with writing := Function.update sync.writing thread (some (groupId, sync.clock)) }
      | some _ => sync
  | .update thread =>
      match sync.writing thread with
      | none => sync
      | some (groupId, now) =>
          { sync with
            groups := sync.groups.map (setLastChated groupId now)
            writing := Function.update sync.writing thread none }
  | .query =>
      match sync.phase with
      | .waiting => { sync with phase := .queried (changedGroup sync.select) }
      | _ => sync
  | .readClock =>
      match sync.phase with
      | .queried changed => { sync with phase := .timed changed sync.clock }
      | _ => sync
  | .advance =>
      match sync.phase with
      | .timed changed now => { sync with lastUpdateGroup := now, phase := .publishing changed }
      | _ => sync
  | .publish =>
      match sync.phase with
      | .publishing changed =>
          { sync with published := sync.published ++ changed, phase := .waiting }
      | _ => sync

/-- `init` sets the last sync time to the clock, or to 0. -/
def start (groups : List ChatRow) (clock : Nat) (stored : Bool) : Sync Thread where
  clock := clock
  groups := groups
  lastUpdateGroup := if stored then clock else 0
  phase := .waiting
  writing _ := none
  published := []

end Sync

/-! ### Runs -/

/-- The group is there, and active. -/
def Active (groups : List ChatRow) (groupId : Id) : Prop :=
  ∃ row ∈ groups, row.id = groupId ∧ row.status = 0

instance Active.instDecidable (groups : List ChatRow) (groupId : Id) :
    Decidable (Active groups groupId) :=
  inferInstanceAs (Decidable (∃ row ∈ groups, row.id = groupId ∧ row.status = 0))

/-- The sync thread and the writers, with the active groups whose chat was updated since the last
query, and those whose update was there for a query that did not return it. -/
structure SyncRun (Thread : Type) where
  sync : Sync Thread
  updated : List Id
  skipped : List Id

namespace SyncRun

def start (groups : List ChatRow) (clock : Nat) (stored : Bool) : SyncRun Thread :=
  ⟨.start groups clock stored, [], []⟩

/-- Whether the query would return the group now. -/
def returns (current : SyncRun Thread) (groupId : Id) : Bool :=
  current.sync.select.any fun row => row.id == groupId

def step (current : SyncRun Thread) (event : Event Thread) : SyncRun Thread :=
  let sync := current.sync.step event
  match event with
  | .update thread =>
      match current.sync.writing thread with
      | some (groupId, _) =>
          if Active current.sync.groups groupId then
            { current with sync := sync, updated := groupId :: current.updated }
          else { current with sync := sync }
      | none => { current with sync := sync }
  | .query =>
      if current.sync.phase = .waiting then
        { sync := sync
          updated := []
          skipped := current.skipped ++ current.updated.filter fun groupId =>
            !current.returns groupId }
      else { current with sync := sync }
  | _ => { current with sync := sync }

/-- Every update that a query ran after was returned by it, and a query that ran now would return
the other ones. -/
structure Returned (current : SyncRun Thread) : Prop where
  skipped : current.skipped = []
  next : ∀ groupId ∈ current.updated, current.returns groupId = true

/-- The last sync time does not go past an update that was made since the query, and no update
writes a time before the last sync time. -/
def Spared (current : SyncRun Thread) : Event Thread → Prop
  | .advance => ∀ changed now, current.sync.phase = .timed changed now →
      ∀ groupId ∈ current.updated, ∃ row ∈ current.sync.groups,
        row.id = groupId ∧ row.status = 0 ∧ now ≤ row.lastChated
  | .update thread => ∀ groupId now, current.sync.writing thread = some (groupId, now) →
      Active current.sync.groups groupId → current.sync.lastUpdateGroup ≤ now
  | _ => True

/-! ### One step -/

section Steps

variable {current : SyncRun Thread} {groupId : Id}

omit [DecidableEq Thread] in
theorem returns_iff : current.returns groupId = true ↔ ∃ row ∈ current.sync.groups,
    row.id = groupId ∧ row.status = 0 ∧ current.sync.lastUpdateGroup ≤ row.lastChated := by
  unfold returns Sync.select selected
  simp only [List.any_eq_true, List.mem_filter, Bool.and_eq_true, beq_iff_eq, decide_eq_true_eq,
    ge_iff_le]
  constructor
  · rintro ⟨row, ⟨member, active, late⟩, same⟩
    exact ⟨row, member, same, active, late⟩
  · rintro ⟨row, member, same, active, late⟩
    exact ⟨row, ⟨member, active, late⟩, same⟩

omit [DecidableEq Thread] in
/-- A step that changes neither the rows nor the last sync time. -/
theorem Returned.frame (returned : Returned current) {after : SyncRun Thread}
    (groups : after.sync.groups = current.sync.groups)
    (lastUpdateGroup : after.sync.lastUpdateGroup = current.sync.lastUpdateGroup)
    (updated : after.updated = current.updated) (skipped : after.skipped = current.skipped) :
    Returned after where
  skipped := skipped.trans returned.skipped
  next := by
    intro groupId member
    rw [updated] at member
    rw [returns_iff, groups, lastUpdateGroup]
    exact returns_iff.mp (returned.next groupId member)

theorem returned_query (returned : Returned current) : Returned (current.step .query) := by
  by_cases waiting : current.sync.phase = .waiting
  · have stepped : current.step .query =
        { sync := current.sync.step .query
          updated := []
          skipped := current.skipped ++ current.updated.filter fun groupId =>
            !current.returns groupId } := if_pos waiting
    have none : current.updated.filter (fun groupId => !current.returns groupId) = [] := by
      rw [List.filter_eq_nil_iff]
      intro groupId member
      rw [returned.next groupId member]
      decide
    rw [stepped, none, returned.skipped]
    exact ⟨rfl, fun groupId member => absurd member List.not_mem_nil⟩
  · have stepped : current.step .query = { current with sync := current.sync.step .query } :=
      if_neg waiting
    have same : current.sync.step .query = current.sync := by
      show (match current.sync.phase with | .waiting => _ | _ => current.sync) = current.sync
      split
      · rename_i there
        exact absurd there waiting
      · rfl
    rw [stepped, same]
    exact returned

theorem step_advance {changed : ChangedGroup} {now : Nat}
    (timed : current.sync.phase = .timed changed now) :
    current.step .advance =
      { current with
        sync := { current.sync with lastUpdateGroup := now, phase := .publishing changed } } := by
  show { current with sync := current.sync.step .advance } = _
  simp only [Sync.step, timed]

theorem step_advance_idle (idle : ∀ changed now, current.sync.phase ≠ .timed changed now) :
    current.step .advance = current := by
  have same : current.sync.step .advance = current.sync := by
    show (match current.sync.phase with | .timed changed now => _ | _ => current.sync) = current.sync
    split
    · rename_i changed now there
      exact absurd there (idle changed now)
    · rfl
  show { current with sync := current.sync.step .advance } = current
  rw [same]

theorem advance_returned_iff (returned : Returned current) :
    Returned (current.step .advance) ↔ current.Spared .advance := by
  by_cases timed : ∃ changed now, current.sync.phase = .timed changed now
  · obtain ⟨changed, now, timed⟩ := timed
    rw [step_advance timed]
    constructor
    · intro after changed' now' there groupId member
      obtain ⟨_, rfl⟩ := Phase.timed.inj (timed.symm.trans there)
      exact returns_iff.mp (after.next groupId member)
    · intro spared
      refine ⟨returned.skipped, fun groupId member => returns_iff.mpr ?_⟩
      exact spared changed now timed groupId member
  · have idle : ∀ changed now, current.sync.phase ≠ .timed changed now :=
      fun changed now there => timed ⟨changed, now, there⟩
    rw [step_advance_idle idle]
    exact iff_of_true returned fun changed now there => absurd there (idle changed now)

/-- An update writes its time to the rows of its group, and to no others. -/
theorem exists_setLastChated {groups : List ChatRow} {written now last : Nat} :
    (∃ row ∈ groups.map (setLastChated written now),
      row.id = groupId ∧ row.status = 0 ∧ last ≤ row.lastChated) ↔
      if groupId = written then Active groups written ∧ last ≤ now
      else ∃ row ∈ groups, row.id = groupId ∧ row.status = 0 ∧ last ≤ row.lastChated := by
  simp only [List.mem_map, exists_exists_and_eq_and, setLastChated, Active]
  split
  · rename_i same
    subst same
    constructor
    · rintro ⟨row, member, named, active, late⟩
      by_cases own : row.id = groupId
      · rw [if_pos own] at named active late
        exact ⟨⟨row, member, own, active⟩, late⟩
      · rw [if_neg own] at named
        exact absurd named own
    · rintro ⟨⟨row, member, own, active⟩, late⟩
      refine ⟨row, member, ?_⟩
      rw [if_pos own]
      exact ⟨own, active, late⟩
  · rename_i other
    have untouched : ∀ row : ChatRow, row.id = groupId → row.id ≠ written :=
      fun row named same => other (named.symm.trans same)
    constructor
    · rintro ⟨row, member, named, active, late⟩
      by_cases own : row.id = written
      · rw [if_pos own] at named
        exact absurd own (untouched row named)
      · rw [if_neg own] at named active late
        exact ⟨row, member, named, active, late⟩
    · rintro ⟨row, member, named, active, late⟩
      refine ⟨row, member, ?_⟩
      rw [if_neg (untouched row named)]
      exact ⟨named, active, late⟩

/-- The sync thread and the writers after an update of a group that may be active. -/
def written (current : SyncRun Thread) (thread : Thread) (groupId : Id) (now : Nat) :
    SyncRun Thread where
  sync :=
    { current.sync with
      groups := current.sync.groups.map (setLastChated groupId now)
      writing := Function.update current.sync.writing thread none }
  updated :=
    if Active current.sync.groups groupId then groupId :: current.updated else current.updated
  skipped := current.skipped

theorem step_update {thread : Thread} {now : Nat}
    (writing : current.sync.writing thread = some (groupId, now)) :
    current.step (.update thread) = current.written thread groupId now := by
  simp only [step, Sync.step, written, writing]
  split
  · rfl
  · rfl

theorem step_update_idle {thread : Thread} (idle : current.sync.writing thread = none) :
    current.step (.update thread) = current := by
  simp only [step, Sync.step, idle]

theorem written_returned_iff (returned : Returned current) (thread : Thread) (now : Nat) :
    Returned (current.written thread groupId now) ↔
      (Active current.sync.groups groupId → current.sync.lastUpdateGroup ≤ now) := by
  have returns : ∀ other, (current.written thread groupId now).returns other = true ↔
      if other = groupId then
        Active current.sync.groups groupId ∧ current.sync.lastUpdateGroup ≤ now
      else current.returns other = true := by
    intro other
    rw [returns_iff, returns_iff]
    exact exists_setLastChated
  have own : (current.written thread groupId now).returns groupId = true ↔
      Active current.sync.groups groupId ∧ current.sync.lastUpdateGroup ≤ now := by
    rw [returns groupId, if_pos rfl]
  constructor
  · intro after active
    have listed : groupId ∈ (current.written thread groupId now).updated := by
      show groupId ∈ if _ then _ else _
      rw [if_pos active]
      exact List.mem_cons_self
    exact (own.mp (after.next groupId listed)).2
  · intro late
    refine ⟨returned.skipped, fun other listed => ?_⟩
    by_cases same : other = groupId
    · rw [same] at listed ⊢
      refine own.mpr ?_
      by_cases active : Active current.sync.groups groupId
      · exact ⟨active, late active⟩
      · have before : groupId ∈ current.updated := by
          have there : groupId ∈ if Active current.sync.groups groupId then
            groupId :: current.updated else current.updated := listed
          rwa [if_neg active] at there
        obtain ⟨row, member, named, isActive, _⟩ := returns_iff.mp (returned.next groupId before)
        exact absurd ⟨row, member, named, isActive⟩ active
    · rw [returns other, if_neg same]
      apply returned.next other
      have there : other ∈ if Active current.sync.groups groupId then
        groupId :: current.updated else current.updated := listed
      split at there
      · exact (List.mem_cons.mp there).resolve_left same
      · exact there

theorem update_returned_iff (returned : Returned current) (thread : Thread) :
    Returned (current.step (.update thread)) ↔ current.Spared (.update thread) := by
  cases writing : current.sync.writing thread with
  | none =>
      rw [step_update_idle writing]
      refine iff_of_true returned fun groupId now there => ?_
      rw [writing] at there
      cases there
  | some target =>
      obtain ⟨groupId, now⟩ := target
      rw [step_update writing, written_returned_iff returned thread now]
      constructor
      · intro late groupId' now' there
        obtain ⟨rfl, rfl⟩ := Prod.mk.inj (Option.some.inj (writing.symm.trans there))
        exact late
      · exact fun spared => spared groupId now writing

/-- Only an update writes rows, and only the advance of a round sets the last sync time. -/
theorem step_keeps (sync : Sync Thread) {event : Event Thread}
    (notUpdate : ∀ thread, event ≠ .update thread) (notAdvance : event ≠ .advance) :
    (sync.step event).groups = sync.groups ∧
      (sync.step event).lastUpdateGroup = sync.lastUpdateGroup := by
  cases event with
  | tick seconds => exact ⟨rfl, rfl⟩
  | update thread => exact absurd rfl (notUpdate thread)
  | advance => exact absurd rfl notAdvance
  | readTime _ _ | query | readClock | publish =>
      simp only [Sync.step]
      split
      · exact ⟨rfl, rfl⟩
      · exact ⟨rfl, rfl⟩

/-- A step that neither writes a row nor sets the last sync time, and is no query. -/
theorem returned_silent (returned : Returned current) {event : Event Thread}
    (silent : current.step event = { current with sync := current.sync.step event })
    (notUpdate : ∀ thread, event ≠ .update thread) (notAdvance : event ≠ .advance) :
    Returned (current.step event) := by
  obtain ⟨groups, lastUpdateGroup⟩ := step_keeps current.sync notUpdate notAdvance
  rw [silent]
  exact returned.frame groups lastUpdateGroup rfl rfl

theorem step_returned_iff (returned : Returned current) (event : Event Thread) :
    Returned (current.step event) ↔ current.Spared event := by
  cases event with
  | update thread => exact update_returned_iff returned thread
  | query => exact iff_of_true (returned_query returned) trivial
  | advance => exact advance_returned_iff returned
  | tick _ | readTime _ _ | readClock | publish =>
      apply iff_of_true _ trivial
      apply returned_silent returned rfl
      · exact fun _ same => nomatch same
      · exact fun same => nomatch same

end Steps

/-! ### Whole runs -/

omit [DecidableEq Thread] in
theorem returned_start (groups : List ChatRow) (clock : Nat) (stored : Bool) :
    Returned (start groups clock stored : SyncRun Thread) where
  skipped := rfl
  next _ member := absurd member List.not_mem_nil

/-- In every interleaving every update is returned by the first query behind it, exactly if no
round advances past an update that was made since its query, and none is written behind. -/
theorem updates_returned_iff_spared (groups : List ChatRow) (clock : Nat) (stored : Bool)
    (events : List (Event Thread)) :
    Lib.Always step Returned (start groups clock stored) events ↔
      Lib.Meets step Spared (start groups clock stored) events :=
  Lib.always_iff_meets (fun _ event returned _ => step_returned_iff returned event)
    (fun _ event returned _ spared => (step_returned_iff returned event).mpr spared)
    (fun _ returned => returned) events (returned_start groups clock stored)
    (Lib.meets_true _ events _)

/-- Group 1 is updated behind a query, and the clock goes on before the round reads it. -/
def updateBehindQuery : List (Event Unit) :=
  [.query, .readTime () 1, .update (), .tick 1, .readClock, .advance, .publish, .query]

/-- The update of group 1 is skipped. -/
theorem update_behind_query_skipped :
    ¬Lib.Always step Returned (start [⟨1, 0, 5⟩] 10 true) updateBehindQuery := by
  intro always
  have returned : Returned (Lib.run step (start [⟨1, 0, 5⟩] 10 true) updateBehindQuery) :=
    always.2.2.2.2.2.2.2.2
  have skipped := returned.skipped
  revert skipped
  decide

end SyncRun

end GroupSync

end AChat.DbProxy
