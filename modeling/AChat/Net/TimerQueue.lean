import Mathlib.Data.List.Sort
import Mathlib.Data.Prod.Lex
import Mathlib.Logic.Function.Basic

/-!
Owns the timers of an event loop: a timer and its run, the set that orders the timers,
and the operations of the queue, of which `doTimer` runs what is due.

The set orders an entry by the expiration that its timer had when it was added. Running
a timer changes the expiration of the timer, not the entry. All calls are in the loop
thread, and a callback adds and removes no timers.
-/

namespace AChat.Net

/-- The address of a `Timer`. -/
abbrev TimerPtr := Nat

structure Timer where
  expiration : Int
  interval : Int
  /-- How often it still runs. -1 is for ever. -/
  repeatCount : Int
  canceled : Bool
deriving DecidableEq, Repr

namespace Timer

/-- The next expiration. -/
def advance (timer : Timer) : Timer :=
  { timer with expiration := timer.expiration + timer.interval }

/-- `run`, and whether the callback was called. -/
def run (timer : Timer) : Bool × Timer :=
  if timer.canceled then (false, timer)
  else if timer.repeatCount ≠ -1 then
    let counted := { timer with repeatCount := timer.repeatCount - 1 }
    if counted.repeatCount = 0 then (true, counted) else (true, counted.advance)
  else (true, timer.advance)

def cancel (timer : Timer) (off : Bool) : Timer :=
  { timer with canceled := off }

/-- The callback is called unless the timer is cancelled. -/
@[simp]
theorem run_called (timer : Timer) : timer.run.1 = !timer.canceled := by
  unfold run
  split
  · rename_i canceled
    simp [canceled]
  · rename_i live
    simp only
    split
    · split <;> simp [live]
    · simp [live]

end Timer

/-! ### The set -/

/-- `std::pair<Timestamp, Timer*>`. -/
structure Entry where
  when : Int
  timer : TimerPtr
deriving DecidableEq, Repr

namespace Entry

/-- The order of pairs. -/
def key (entry : Entry) : Lex (Int × TimerPtr) :=
  toLex (entry.when, entry.timer)

theorem key_injective : Function.Injective key := by
  intro left right same
  have parts := Prod.mk.inj (toLex.injective same)
  cases left
  cases right
  simp_all

instance instLinearOrder : LinearOrder Entry :=
  LinearOrder.lift' key key_injective

end Entry

/-- `std::set<Entry>`. -/
structure TimerSet where
  entries : List Entry
  ordered : entries.Pairwise (· < ·)
deriving DecidableEq

namespace TimerSet

def empty : TimerSet :=
  ⟨[], .nil⟩

theorem pairwise_orderedInsert {entry : Entry} {entries : List Entry}
    (ordered : entries.Pairwise (· < ·)) (absent : entry ∉ entries) :
    (entries.orderedInsert (· ≤ ·) entry).Pairwise (· < ·) := by
  induction entries with
  | nil => exact List.pairwise_singleton _ _
  | cons head rest inductionHypothesis =>
      obtain ⟨least, restOrdered⟩ := List.pairwise_cons.mp ordered
      obtain ⟨different, restAbsent⟩ := List.ne_and_not_mem_of_not_mem_cons absent
      rw [List.orderedInsert_cons]
      split
      · rename_i below
        have before : entry < head := lt_of_le_of_ne below different
        refine List.pairwise_cons.mpr ⟨?_, ordered⟩
        intro other member
        rcases List.mem_cons.mp member with rfl | later
        · exact before
        · exact before.trans (least other later)
      · rename_i above
        refine List.pairwise_cons.mpr ⟨?_, inductionHypothesis restOrdered restAbsent⟩
        intro other member
        rcases (List.mem_orderedInsert _).mp member with rfl | later
        · exact not_le.mp above
        · exact least other later

/-- `insert`: an entry that is there is not put a second time. -/
def insert (set : TimerSet) (entry : Entry) : TimerSet :=
  if absent : entry ∉ set.entries then
    ⟨set.entries.orderedInsert (· ≤ ·) entry, pairwise_orderedInsert set.ordered absent⟩
  else set

/-- The set with only those entries of it that are in a sublist. -/
def restrict (set : TimerSet) (entries : List Entry) (part : entries.Sublist set.entries) :
    TimerSet :=
  ⟨entries, set.ordered.sublist part⟩

theorem insert_perm {set : TimerSet} {entry : Entry} (absent : entry ∉ set.entries) :
    (set.insert entry).entries.Perm (entry :: set.entries) := by
  unfold insert
  rw [dif_pos absent]
  exact List.perm_orderedInsert _ entry set.entries

end TimerSet

/-! ### The queue -/

structure TimerQueue where
  timers : TimerSet
  /-- The timer objects. -/
  heap : TimerPtr → Timer

/-- What the loop of `doTimer` leaves in the set and in the timers, and which callbacks it
called, in order. -/
structure Scan where
  kept : List Entry
  heap : TimerPtr → Timer
  ran : List TimerPtr

namespace TimerQueue

/-- The loop of `doTimer`, from an iterator on. -/
def doTimerFrom (now : Int) : (TimerPtr → Timer) → List Entry → Scan
  | heap, [] => ⟨[], heap, []⟩
  | heap, entry :: rest =>
      if (heap entry.timer).expiration ≤ now then
        let called := (heap entry.timer).run
        let later := doTimerFrom now (Function.update heap entry.timer called.2) rest
        { kept := if called.2.repeatCount = 0 then later.kept else entry :: later.kept
          heap := later.heap
          ran := if called.1 then entry.timer :: later.ran else later.ran }
      else ⟨entry :: rest, heap, []⟩

/-- Nothing is added to the set. -/
theorem doTimerFrom_sublist (now : Int) (heap : TimerPtr → Timer) (entries : List Entry) :
    (doTimerFrom now heap entries).kept.Sublist entries := by
  induction entries generalizing heap with
  | nil => exact .slnil
  | cons entry rest inductionHypothesis =>
      unfold doTimerFrom
      split
      · simp only
        split
        · exact (inductionHypothesis _).cons _
        · exact (inductionHypothesis _).cons_cons _
      · exact .refl _

/-- `doTimer` at a time: the queue it leaves and the callbacks it called. -/
def doTimer (queue : TimerQueue) (now : Int) : TimerQueue × List TimerPtr :=
  let scan := doTimerFrom now queue.heap queue.timers.entries
  (⟨queue.timers.restrict scan.kept (doTimerFrom_sublist now queue.heap _), scan.heap⟩, scan.ran)

/-- `addTimerInLoop` of a timer that was made at an address. -/
def addTimerInLoop (queue : TimerQueue) (pointer : TimerPtr) (timer : Timer) : TimerQueue where
  timers := queue.timers.insert ⟨timer.expiration, pointer⟩
  heap := Function.update queue.heap pointer timer

/-- `removeTimerInLoop`: the first entry with the timer. -/
def removeTimerInLoop (queue : TimerQueue) (pointer : TimerPtr) : TimerQueue :=
  { queue with
    timers := queue.timers.restrict
      (queue.timers.entries.eraseP fun entry => entry.timer = pointer)
      List.eraseP_sublist }

/-- `cancelTimerInLoop`. -/
def cancelTimerInLoop (queue : TimerQueue) (pointer : TimerPtr) (off : Bool) : TimerQueue :=
  if ∃ entry ∈ queue.timers.entries, entry.timer = pointer then
    { queue with
      heap := Function.update queue.heap pointer ((queue.heap pointer).cancel off) }
  else queue

/-- The constructor. -/
def new (heap : TimerPtr → Timer) : TimerQueue :=
  ⟨.empty, heap⟩

end TimerQueue

end AChat.Net
