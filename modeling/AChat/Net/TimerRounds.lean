import Mathlib.Data.List.Nodup
import AChat.Lib.Reach
import AChat.Net.TimerQueue

/-!
Contract: which timers one call of `doTimer` runs and removes.

The scan stops at the first timer that is not due. It runs what is due exactly when, in
the order of the set, no timer that is due and not cancelled comes after one that is not
due. Once a timer has run, the set keeps it under an old expiration, and the order may
fail.
-/

namespace AChat.Net

open Lib

inductive TimerEvent where
  | addTimer (pointer : TimerPtr) (timer : Timer)
  | removeTimer (pointer : TimerPtr)
  | cancel (pointer : TimerPtr) (off : Bool)
  | doTimer (now : Int)
deriving DecidableEq, Repr

namespace TimerQueue

def step (queue : TimerQueue) : TimerEvent → TimerQueue
  | .addTimer pointer timer => queue.addTimerInLoop pointer timer
  | .removeTimer pointer => queue.removeTimerInLoop pointer
  | .cancel pointer off => queue.cancelTimerInLoop pointer off
  | .doTimer now => (queue.doTimer now).1

/-- A timer is made at an address that no timer of the set has. -/
def Allocates (queue : TimerQueue) : TimerEvent → Prop
  | .addTimer pointer _ => ∀ entry ∈ queue.timers.entries, entry.timer ≠ pointer
  | .removeTimer _ | .cancel _ _ | .doTimer _ => True

instance (queue : TimerQueue) (event : TimerEvent) : Decidable (queue.Allocates event) := by
  cases event <;> unfold Allocates <;> infer_instance

/-- A queue after any calls. -/
abbrev Reached (heap : TimerPtr → Timer) (queue : TimerQueue) : Prop :=
  Reach step Allocates (new heap) queue

/-! ### What a call has to do -/

def Due (queue : TimerQueue) (now : Int) (entry : Entry) : Prop :=
  (queue.heap entry.timer).expiration ≤ now

instance (queue : TimerQueue) (now : Int) (entry : Entry) : Decidable (queue.Due now entry) :=
  inferInstanceAs (Decidable (_ ≤ _))

/-- The call runs every timer that is due and not cancelled once, runs no timer that is
not due, and removes the timers whose repeat count it takes to zero, and no timer with
another count. -/
structure RunsDue (queue : TimerQueue) (now : Int) : Prop where
  once : ∀ entry ∈ queue.timers.entries, (queue.heap entry.timer).canceled = false →
    queue.Due now entry → (queue.doTimer now).2.count entry.timer = 1
  notEarly : ∀ pointer ∈ (queue.doTimer now).2, (queue.heap pointer).expiration ≤ now
  removed : ∀ entry ∈ queue.timers.entries, entry ∉ (queue.doTimer now).1.timers.entries →
    ((queue.doTimer now).1.heap entry.timer).repeatCount = 0
  spent : ∀ entry ∈ queue.timers.entries, (queue.heap entry.timer).repeatCount ≠ 0 →
    ((queue.doTimer now).1.heap entry.timer).repeatCount = 0 →
    entry ∉ (queue.doTimer now).1.timers.entries

/-- In the order of the set, no timer that is due and not cancelled comes after one that is
not due. -/
def DueFirst (queue : TimerQueue) (now : Int) : Prop :=
  ∀ earlier ∈ queue.timers.entries, ∀ later ∈ queue.timers.entries, earlier < later →
    queue.Due now later → (queue.heap later.timer).canceled = false → queue.Due now earlier

instance (queue : TimerQueue) (now : Int) : Decidable (queue.DueFirst now) :=
  inferInstanceAs (Decidable (∀ earlier ∈ queue.timers.entries, _))

/-! ### The scan -/

/-- The entries the scan comes to. -/
def visited (queue : TimerQueue) (now : Int) : List Entry :=
  queue.timers.entries.takeWhile fun entry => queue.Due now entry

/-- In an ordered list, `takeWhile` takes what has nothing in front of it that stops it. -/
theorem mem_takeWhile_iff {entries : List Entry} (ordered : entries.Pairwise (· < ·))
    (accept : Entry → Bool) (entry : Entry) :
    entry ∈ entries.takeWhile accept ↔
      entry ∈ entries ∧ accept entry = true ∧
        ∀ other ∈ entries, other < entry → accept other = true := by
  induction entries with
  | nil => simp
  | cons head rest inductionHypothesis =>
      obtain ⟨least, restOrdered⟩ := List.pairwise_cons.mp ordered
      have restCase := inductionHypothesis restOrdered
      by_cases accepted : accept head = true
      · rw [List.takeWhile_cons_of_pos accepted, List.mem_cons, restCase]
        constructor
        · rintro (rfl | ⟨member, taken, front⟩)
          · refine ⟨List.mem_cons_self, accepted, ?_⟩
            intro other later before
            rcases List.mem_cons.mp later with rfl | inRest
            · exact accepted
            · exact absurd before (least other inRest).asymm
          · refine ⟨List.mem_cons_of_mem _ member, taken, ?_⟩
            intro other later before
            rcases List.mem_cons.mp later with rfl | inRest
            · exact accepted
            · exact front other inRest before
        · rintro ⟨member, taken, front⟩
          rcases List.mem_cons.mp member with rfl | inRest
          · exact .inl rfl
          · exact .inr ⟨inRest, taken, fun other later before =>
              front other (List.mem_cons_of_mem _ later) before⟩
      · rw [List.takeWhile_cons_of_neg accepted]
        constructor
        · intro member
          cases member
        · rintro ⟨member, taken, front⟩
          rcases List.mem_cons.mp member with rfl | inRest
          · exact absurd taken accepted
          · exact absurd (front head List.mem_cons_self (least entry inRest)) accepted

/-- The scan in one go: it runs the entries it comes to, each as it was at the start. The
timers are apart, so that running one does not touch another. -/
theorem doTimerFrom_eq (now : Int) (before : TimerPtr → Timer) (entries : List Entry)
    (apart : (entries.map Entry.timer).Nodup) (heap : TimerPtr → Timer)
    (same : ∀ entry ∈ entries, heap entry.timer = before entry.timer) :
    let reached := entries.takeWhile fun entry => (before entry.timer).expiration ≤ now
    doTimerFrom now heap entries =
      { kept :=
          (reached.filter fun entry => (before entry.timer).run.2.repeatCount ≠ 0) ++
            entries.dropWhile fun entry => (before entry.timer).expiration ≤ now
        heap := fun pointer =>
          if pointer ∈ reached.map Entry.timer then (before pointer).run.2 else heap pointer
        ran := (reached.filter fun entry => !(before entry.timer).canceled).map Entry.timer } := by
  induction entries generalizing heap with
  | nil => simp [doTimerFrom]
  | cons entry rest inductionHypothesis =>
      rw [List.map_cons, List.nodup_cons] at apart
      have here : heap entry.timer = before entry.timer := same entry List.mem_cons_self
      have other : ∀ later ∈ rest, later.timer ≠ entry.timer := by
        intro later member equal
        exact apart.1 (List.mem_map.mpr ⟨later, member, equal⟩)
      have after := inductionHypothesis apart.2
        (Function.update heap entry.timer (before entry.timer).run.2) fun later member => by
          rw [Function.update_of_ne (other later member)]
          exact same later (List.mem_cons_of_mem _ member)
      simp only at after ⊢
      unfold doTimerFrom
      simp only [here, after]
      by_cases due : (before entry.timer).expiration ≤ now
      · rw [if_pos due, List.takeWhile_cons_of_pos (by simpa using due),
          List.dropWhile_cons_of_pos (by simpa using due)]
        congr 1
        · by_cases spent : (before entry.timer).run.2.repeatCount = 0
          · simp [spent]
          · simp [spent]
        · funext pointer
          by_cases own : pointer = entry.timer
          · subst own
            have absent : entry.timer ∉
                (rest.takeWhile fun later =>
                  decide ((before later.timer).expiration ≤ now)).map Entry.timer := by
              intro member
              obtain ⟨later, taken, equal⟩ := List.mem_map.mp member
              exact other later ((List.takeWhile_sublist _).subset taken) equal
            rw [if_neg absent]
            simp
          · simp [own]
        · by_cases canceled : (before entry.timer).canceled = true
          · simp [canceled]
          · simp [canceled]
      · rw [if_neg due, List.takeWhile_cons_of_neg (by simpa using due),
          List.dropWhile_cons_of_neg (by simpa using due)]
        simp

/-! ### Runs -/

/-- No two entries have the same timer. -/
def Apart (queue : TimerQueue) : Prop :=
  (queue.timers.entries.map Entry.timer).Nodup

theorem Apart.addTimerInLoop {queue : TimerQueue} (apart : queue.Apart) {pointer : TimerPtr}
    (fresh : ∀ entry ∈ queue.timers.entries, entry.timer ≠ pointer) (timer : Timer) :
    (queue.addTimerInLoop pointer timer).Apart := by
  have absent : (⟨timer.expiration, pointer⟩ : Entry) ∉ queue.timers.entries :=
    fun present => fresh _ present rfl
  have added := (TimerSet.insert_perm absent).map Entry.timer
  refine added.nodup_iff.mpr (List.nodup_cons.mpr ⟨?_, apart⟩)
  intro member
  obtain ⟨entry, present, same⟩ := List.mem_map.mp member
  exact fresh entry present same

theorem Apart.cancelTimerInLoop {queue : TimerQueue} (apart : queue.Apart)
    (pointer : TimerPtr) (off : Bool) : (queue.cancelTimerInLoop pointer off).Apart := by
  unfold TimerQueue.cancelTimerInLoop
  split
  · exact apart
  · exact apart

theorem apart_step (queue : TimerQueue) (event : TimerEvent) (apart : queue.Apart)
    (allocates : queue.Allocates event) : (queue.step event).Apart := by
  cases event with
  | addTimer pointer timer => exact apart.addTimerInLoop allocates timer
  | removeTimer pointer => exact apart.sublist (List.eraseP_sublist.map _)
  | cancel pointer off => exact apart.cancelTimerInLoop pointer off
  | doTimer now => exact apart.sublist ((doTimerFrom_sublist now queue.heap _).map _)

theorem Reached.apart {heap : TimerPtr → Timer} {queue : TimerQueue}
    (reached : Reached heap queue) : queue.Apart := by
  have empty : (new heap).Apart := List.nodup_nil
  exact reached.invariant Apart empty apart_step

section Call

variable {queue : TimerQueue} {now : Int}

theorem mem_visited (entry : Entry) :
    entry ∈ queue.visited now ↔
      entry ∈ queue.timers.entries ∧ queue.Due now entry ∧
        ∀ other ∈ queue.timers.entries, other < entry → queue.Due now other := by
  unfold visited
  rw [mem_takeWhile_iff queue.timers.ordered]
  simp only [decide_eq_true_eq]

/-- Two entries of the set with the same timer are one. -/
theorem Apart.entry_eq (apart : queue.Apart) {left right : Entry}
    (leftMember : left ∈ queue.timers.entries) (rightMember : right ∈ queue.timers.entries)
    (same : left.timer = right.timer) : left = right :=
  List.inj_on_of_nodup_map apart leftMember rightMember same

/-- What a call does, in terms of the entries the scan comes to. -/
theorem Apart.doTimer_eq (apart : queue.Apart) :
    (queue.doTimer now).2 =
        ((queue.visited now).filter fun entry => !(queue.heap entry.timer).canceled).map
          Entry.timer ∧
      (queue.doTimer now).1.timers.entries =
        ((queue.visited now).filter fun entry =>
            (queue.heap entry.timer).run.2.repeatCount ≠ 0) ++
          queue.timers.entries.dropWhile (fun entry => queue.Due now entry) ∧
      ∀ pointer, (queue.doTimer now).1.heap pointer =
        if pointer ∈ (queue.visited now).map Entry.timer then (queue.heap pointer).run.2
        else queue.heap pointer := by
  have scan := doTimerFrom_eq now queue.heap queue.timers.entries apart queue.heap fun _ _ => rfl
  simp only at scan
  refine ⟨?_, ?_, ?_⟩
  · unfold doTimer
    simp only [scan]
    rfl
  · unfold doTimer TimerSet.restrict
    simp only [scan]
    rfl
  · intro pointer
    unfold doTimer
    simp only [scan]
    rfl

/-- The timers that run are those the scan comes to, less the cancelled ones. -/
theorem Apart.mem_ran (apart : queue.Apart) (pointer : TimerPtr) :
    pointer ∈ (queue.doTimer now).2 ↔
      ∃ entry ∈ queue.visited now,
        (queue.heap entry.timer).canceled = false ∧ entry.timer = pointer := by
  rw [apart.doTimer_eq.1]
  simp [and_assoc]

theorem Apart.ran_nodup (apart : queue.Apart) : (queue.doTimer now).2.Nodup := by
  rw [apart.doTimer_eq.1]
  have sublist := (List.filter_sublist (p := fun entry =>
    !(queue.heap entry.timer).canceled)).trans (List.takeWhile_sublist (l :=
      queue.timers.entries) fun entry => decide (queue.Due now entry))
  exact apart.sublist (sublist.map _)

/-- An entry stays unless the scan comes to it and takes its repeat count to zero. -/
theorem Apart.stays_iff (apart : queue.Apart) {entry : Entry}
    (member : entry ∈ queue.timers.entries) :
    entry ∈ (queue.doTimer now).1.timers.entries ↔
      (entry ∈ queue.visited now → (queue.heap entry.timer).run.2.repeatCount ≠ 0) := by
  have parts := List.takeWhile_append_dropWhile (p := fun entry =>
    decide (queue.Due now entry)) (l := queue.timers.entries)
  have distinct : queue.timers.entries.Nodup := apart.of_map
  rw [← parts, List.nodup_append] at distinct
  rw [← parts, List.mem_append] at member
  rw [apart.doTimer_eq.2.1, List.mem_append, List.mem_filter, decide_eq_true_eq]
  constructor
  · rintro (⟨_, counts⟩ | behind) reached
    · exact counts
    · exact absurd rfl (distinct.2.2 _ reached _ behind)
  · intro counts
    rcases member with reached | behind
    · exact .inl ⟨reached, counts reached⟩
    · exact .inr behind

theorem Apart.heap_visited (apart : queue.Apart) {entry : Entry}
    (reached : entry ∈ queue.visited now) :
    (queue.doTimer now).1.heap entry.timer = (queue.heap entry.timer).run.2 := by
  rw [apart.doTimer_eq.2.2, if_pos (List.mem_map_of_mem reached)]

theorem Apart.heap_behind (apart : queue.Apart) {entry : Entry}
    (member : entry ∈ queue.timers.entries) (behind : entry ∉ queue.visited now) :
    (queue.doTimer now).1.heap entry.timer = queue.heap entry.timer := by
  rw [apart.doTimer_eq.2.2, if_neg]
  intro reached
  obtain ⟨other, taken, same⟩ := List.mem_map.mp reached
  exact behind (apart.entry_eq ((mem_visited other).mp taken).1 member same ▸ taken)

/-- The call does what it has to exactly when what is due comes first in the set. -/
theorem Apart.runsDue_iff (apart : queue.Apart) : queue.RunsDue now ↔ queue.DueFirst now := by
  constructor
  · intro runs earlier earlierMember later laterMember before due live
    have counted := runs.once later laterMember live due
    have ran : later.timer ∈ (queue.doTimer now).2 :=
      List.count_pos_iff.mp (counted ▸ Nat.one_pos)
    obtain ⟨entry, reached, _, same⟩ := (apart.mem_ran _).mp ran
    have visitedEntry := (mem_visited entry).mp reached
    rw [apart.entry_eq visitedEntry.1 laterMember same] at visitedEntry
    exact visitedEntry.2.2 earlier earlierMember before
  · intro dueFirst
    refine ⟨?_, ?_, ?_, ?_⟩
    · intro entry member live due
      have reached : entry ∈ queue.visited now :=
        (mem_visited entry).mpr ⟨member, due, fun other otherMember before =>
          dueFirst other otherMember entry member before due live⟩
      exact List.count_eq_one_of_mem apart.ran_nodup
        ((apart.mem_ran _).mpr ⟨entry, reached, live, rfl⟩)
    · intro pointer ran
      obtain ⟨entry, reached, _, rfl⟩ := (apart.mem_ran pointer).mp ran
      exact ((mem_visited entry).mp reached).2.1
    · intro entry member gone
      rw [apart.stays_iff member] at gone
      push Not at gone
      rw [apart.heap_visited gone.1]
      exact gone.2
    · intro entry member counts zero stays
      by_cases reached : entry ∈ queue.visited now
      · rw [apart.heap_visited reached] at zero
        exact (apart.stays_iff member).mp stays reached zero
      · rw [apart.heap_behind member reached] at zero
        exact counts zero

end Call

/-- In every state of every run, a call runs and removes what it has to exactly when what
is due comes first in the set. -/
theorem doTimer_runsDue_iff {heap : TimerPtr → Timer} {queue : TimerQueue}
    (reached : Reached heap queue) (now : Int) : queue.RunsDue now ↔ queue.DueFirst now :=
  reached.apart.runsDue_iff

/-! ### A timer that is skipped -/

/-- No timer is made yet. -/
def noTimers : TimerPtr → Timer :=
  fun _ => ⟨0, 0, -1, false⟩

/-- One timer for every hundred ticks, from 1 on, one for every tick, from 2 on, and a call
at 1. -/
def twoTimers : List TimerEvent :=
  [.addTimer 1 ⟨1, 100, -1, false⟩, .addTimer 2 ⟨2, 1, -1, false⟩, .doTimer 1]

theorem reached_twoTimers : Reached noTimers (Lib.run step (new noTimers) twoTimers) :=
  Lib.reach_run twoTimers (by decide)

theorem doTimer_runsDue_hundred :
    (Lib.run step (new noTimers) twoTimers).RunsDue 101 ↔
      (Lib.run step (new noTimers) twoTimers).DueFirst 101 :=
  doTimer_runsDue_iff reached_twoTimers 101

/-- The call at 2 stops at the first timer, which is not due before 101, and does not run
the second, which is due. -/
theorem due_timer_skipped :
    Reached noTimers (Lib.run step (new noTimers) twoTimers) ∧
      ¬(Lib.run step (new noTimers) twoTimers).RunsDue 2 := by
  refine ⟨reached_twoTimers, fun runs => ?_⟩
  have counted := runs.once ⟨2, 2⟩ (by decide) rfl (by decide)
  exact absurd counted (by decide)

end TimerQueue

end AChat.Net
