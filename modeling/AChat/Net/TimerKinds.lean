import Mathlib.Data.List.Induction
import Mathlib.Tactic.Ring
import AChat.Net.TimerRounds

/-!
Contract: what the timers of the event loop do, by the call that made them.

`runAt` and `runAfter` ask for one run and `runEvery` for any number, but `addTimer` of the
queue has no parameter for the repeat count. Every timer made through the event loop
repeats for ever, and one with the interval 0 runs in every round from its time on.
A `Timer` with a repeat count of its own runs exactly so often as long as no round finds
it due behind a timer that is not.
-/

namespace AChat.Net

open Lib

/-- The constructor. -/
def Timer.new (time interval : Int) (repeatCount : Int := -1) : Timer :=
  ⟨time, interval, repeatCount, false⟩

namespace TimerQueue

/-- `addTimer`. Its last parameter is commented out in the source: what the callers pass
for it is not used. -/
def addTimer (queue : TimerQueue) (pointer : TimerPtr) (time interval : Int)
    (_repeatCount : Int) : TimerQueue :=
  queue.addTimerInLoop pointer (.new time interval)

end TimerQueue

namespace EventLoop

def runAt (timerQueue : TimerQueue) (pointer : TimerPtr) (time : Int) : TimerQueue :=
  timerQueue.addTimer pointer time 0 1

def runAfter (timerQueue : TimerQueue) (pointer : TimerPtr) (now delay : Int) : TimerQueue :=
  runAt timerQueue pointer (now + delay)

def runEvery (timerQueue : TimerQueue) (pointer : TimerPtr) (now interval : Int) :
    TimerQueue :=
  timerQueue.addTimer pointer (now + interval) interval (-1)

end EventLoop

/-- What is left of a timer after so many runs, as long as it has not had its last one. -/
def Timer.after (timer : Timer) (runs : Nat) : Timer :=
  { timer with
    expiration := timer.expiration + runs * timer.interval
    repeatCount := if timer.repeatCount = -1 then -1 else timer.repeatCount - runs }

/-- The timer is to run again after so many runs. -/
def Timer.Goes (timer : Timer) (runs : Nat) : Prop :=
  timer.repeatCount = -1 ∨ (runs : Int) < timer.repeatCount

theorem Timer.run_after {timer : Timer} {runs : Nat} (live : timer.canceled = false)
    (goes : timer.Goes runs) :
    ((timer.after runs).run.2.repeatCount ≠ 0 ↔ timer.Goes (runs + 1)) ∧
      (timer.Goes (runs + 1) → (timer.after runs).run.2 = timer.after (runs + 1)) := by
  have next : timer.expiration + runs * timer.interval + timer.interval =
      timer.expiration + (runs + 1 : Nat) * timer.interval := by
    push_cast
    ring
  unfold Timer.Goes at goes ⊢
  unfold Timer.run Timer.after Timer.advance
  by_cases forever : timer.repeatCount = -1
  · simp [live, forever, next]
  · have counted : (runs : Int) < timer.repeatCount := goes.resolve_left forever
    have positive : timer.repeatCount - runs ≠ -1 := by omega
    by_cases last : timer.repeatCount - runs - 1 = 0
    · simp [live, forever, positive, last]
      omega
    · simp [live, forever, positive, last, next]
      omega

/-- How a timer is made. -/
inductive TimerKind where
  | runAt (time : Int)
  | runAfter (now delay : Int)
  | runEvery (now interval : Int)
  /-- A `Timer` with a repeat count, put into the queue. -/
  | counted (time interval : Int) (repeatCount : Nat)
deriving DecidableEq, Repr

namespace TimerKind

/-- Delays and intervals are positive, and so are repeat counts. -/
def Positive : TimerKind → Prop
  | .runAt _ => True
  | .runAfter _ delay => 0 < delay
  | .runEvery _ interval => 0 < interval
  | .counted _ interval repeatCount => 0 < interval ∧ 0 < repeatCount

/-- The timer as it is made. -/
def timer : TimerKind → Timer
  | .runAt time => .new time 0
  | .runAfter now delay => .new (now + delay) 0
  | .runEvery now interval => .new (now + interval) interval
  | .counted time interval repeatCount => .new time interval repeatCount

/-- The queue with the timer. -/
def make (kind : TimerKind) (queue : TimerQueue) (pointer : TimerPtr) : TimerQueue :=
  match kind with
  | .runAt time => EventLoop.runAt queue pointer time
  | .runAfter now delay => EventLoop.runAfter queue pointer now delay
  | .runEvery now interval => EventLoop.runEvery queue pointer now interval
  | .counted time interval repeatCount =>
      queue.addTimerInLoop pointer (.new time interval repeatCount)

theorem make_eq (kind : TimerKind) (queue : TimerQueue) (pointer : TimerPtr) :
    kind.make queue pointer = queue.addTimerInLoop pointer kind.timer := by
  cases kind <;> rfl

/-- When a timer is to run that is asked to run once. -/
def oneShot : TimerKind → Option Int
  | .runAt time => some time
  | .runAfter now delay => some (now + delay)
  | .runEvery _ _ | .counted _ _ _ => none

end TimerKind

/-! ### A timer that is to run so many times -/

section Counted

/-- The runs that rounds at these times owe a timer that is to run so many times: a round
owes one when it comes at or after the timer's time, which every run moves by the
interval. -/
def countedRuns (time interval : Int) (repeatCount : Nat) (rounds : List Int) : List Int :=
  rounds.foldl (fun ran now =>
    if ran.length < repeatCount ∧ time + ran.length * interval ≤ now then ran ++ [now]
    else ran) []

variable {time interval : Int} {repeatCount : Nat}

theorem countedRuns_append (rounds : List Int) (now : Int) :
    countedRuns time interval repeatCount (rounds ++ [now]) =
      if (countedRuns time interval repeatCount rounds).length < repeatCount ∧
          time + (countedRuns time interval repeatCount rounds).length * interval ≤ now then
        countedRuns time interval repeatCount rounds ++ [now]
      else countedRuns time interval repeatCount rounds := by
  unfold countedRuns
  rw [List.foldl_append]
  rfl

theorem length_countedRuns_le (rounds : List Int) :
    (countedRuns time interval repeatCount rounds).length ≤ repeatCount := by
  induction rounds using List.reverseRecOn with
  | nil => exact Nat.zero_le _
  | append_singleton rounds now inductionHypothesis =>
      rw [countedRuns_append]
      split
      · rename_i owed
        rw [List.length_append, List.length_singleton]
        exact owed.1
      · exact inductionHypothesis

/-- A round that comes when the last run is due owes a run as long as one is left. -/
theorem le_length_countedRuns (positive : 0 < interval) (rounds : List Int) :
    min repeatCount (rounds.countP (time + (repeatCount - 1) * interval ≤ ·)) ≤
      (countedRuns time interval repeatCount rounds).length := by
  induction rounds using List.reverseRecOn with
  | nil => simp
  | append_singleton rounds now inductionHypothesis =>
      rw [List.countP_append, List.countP_singleton, countedRuns_append]
      by_cases owed : (countedRuns time interval repeatCount rounds).length < repeatCount ∧
          time + (countedRuns time interval repeatCount rounds).length * interval ≤ now
      · rw [if_pos owed, List.length_append, List.length_singleton]
        split <;> omega
      · rw [if_neg owed]
        split
        · rename_i late
          have late := of_decide_eq_true late
          -- The round is late enough for any run that is left, so that none is.
          have none : ¬(countedRuns time interval repeatCount rounds).length < repeatCount := by
            intro left
            refine owed ⟨left, ?_⟩
            have before : ((countedRuns time interval repeatCount rounds).length : Int) ≤
                repeatCount - 1 := by omega
            have moved := Int.mul_le_mul_of_nonneg_right before positive.le
            omega
          omega
        · omega

/-- With enough rounds when the last run is due, the timer is owed all its runs. -/
theorem length_countedRuns (positive : 0 < interval) {rounds : List Int}
    (enough : repeatCount ≤ rounds.countP (time + (repeatCount - 1) * interval ≤ ·)) :
    (countedRuns time interval repeatCount rounds).length = repeatCount := by
  have least := @le_length_countedRuns time interval repeatCount positive rounds
  have most := @length_countedRuns_le time interval repeatCount rounds
  omega

end Counted

/-! ### A timer that is watched -/

/-- A queue and, since the timer was made, the times of the rounds and the times of those
rounds that ran it, in order. -/
structure Watch where
  queue : TimerQueue
  rounds : List Int
  ran : List Int

namespace Watch

section Watched

variable (pointer : TimerPtr)

def step (watch : Watch) (event : TimerEvent) : Watch :=
  match event with
  | .doTimer now =>
      { queue := watch.queue.step event
        rounds := watch.rounds ++ [now]
        ran := watch.ran ++
          List.replicate ((watch.queue.doTimer now).2.count pointer) now }
  | .addTimer _ _ | .removeTimer _ | .cancel _ _ =>
      { watch with queue := watch.queue.step event }

/-- The rounds come at times that do not decrease, and the other calls are about other
timers. -/
def Others (watch : Watch) : TimerEvent → Prop
  | .doTimer now => ∀ earlier ∈ watch.rounds, earlier ≤ now
  | .addTimer other timer => other ≠ pointer ∧ watch.queue.Allocates (.addTimer other timer)
  | .removeTimer other | .cancel other _ => other ≠ pointer

instance (watch : Watch) : (event : TimerEvent) → Decidable (watch.Others pointer event)
  | .doTimer now => inferInstanceAs (Decidable (∀ earlier ∈ watch.rounds, earlier ≤ now))
  | .addTimer other timer =>
      inferInstanceAs
        (Decidable (other ≠ pointer ∧ watch.queue.Allocates (.addTimer other timer)))
  | .removeTimer other => inferInstanceAs (Decidable (other ≠ pointer))
  | .cancel other _ => inferInstanceAs (Decidable (other ≠ pointer))

/-- The timer is in the queue. -/
def Pending (watch : Watch) : Prop :=
  ∃ entry ∈ watch.queue.timers.entries, entry.timer = pointer

instance (watch : Watch) : Decidable (watch.Pending pointer) :=
  inferInstanceAs (Decidable (∃ entry ∈ watch.queue.timers.entries, _))

/-- The timer has run once, in the first round at or after a time, and is then out of the
queue. -/
def RunsOnce (time : Int) (watch : Watch) : Prop :=
  watch.ran = (watch.rounds.find? (time ≤ ·)).toList ∧
    (watch.Pending pointer ↔ ∀ now ∈ watch.rounds, now < time)

/-- By any time, the timer has run at most as often as it was to run, and it is in the
queue. -/
def RunsEvery (time interval : Int) (watch : Watch) : Prop :=
  (∀ now, (watch.ran.countP (· ≤ now) : Int) ≤ max 0 (1 + (now - time) / interval)) ∧
    watch.Pending pointer

/-- The timer has run in the rounds that owed it a run and in no other, at most so many
times in all and exactly so many once enough rounds have come when its last run is due. It
leaves the queue with the last of them. -/
structure RunsTimes (time interval : Int) (repeatCount : Nat) (watch : Watch) : Prop where
  scheduled : watch.ran = countedRuns time interval repeatCount watch.rounds
  atMost : watch.ran.length ≤ repeatCount
  exactly :
    repeatCount ≤ watch.rounds.countP (time + (repeatCount - 1) * interval ≤ ·) →
      watch.ran.length = repeatCount
  leaves : watch.Pending pointer ↔ watch.ran.length < repeatCount

/-- The timer does what it was made for. -/
def KeepsKind (kind : TimerKind) (watch : Watch) : Prop :=
  match kind with
  | .runAt time => watch.RunsOnce pointer time
  | .runAfter now delay => watch.RunsOnce pointer (now + delay)
  | .runEvery now interval => watch.RunsEvery pointer (now + interval) interval
  | .counted time interval repeatCount => watch.RunsTimes pointer time interval repeatCount

/-- In the order of the set, the timer is not due behind one that is not. -/
def NoneInFront (watch : Watch) (now : Int) : Prop :=
  ∀ entry ∈ watch.queue.timers.entries, entry.timer = pointer → watch.queue.Due now entry →
    ∀ other ∈ watch.queue.timers.entries, other < entry → watch.queue.Due now other

/-- No round comes at or after the time of a timer that is to run once, and none finds a
timer that is to run so many times due behind one that is not. -/
def Suits (kind : TimerKind) (watch : Watch) : TimerEvent → Prop
  | .doTimer now =>
      match kind with
      | .runAt time => now < time
      | .runAfter start delay => now < start + delay
      | .runEvery _ _ => True
      | .counted _ _ _ => watch.NoneInFront pointer now
  | .addTimer _ _ | .removeTimer _ | .cancel _ _ => True

/-- The timer is just made. -/
def start (queue : TimerQueue) (kind : TimerKind) : Watch :=
  ⟨kind.make queue pointer, [], []⟩

end Watched

/-! ### A round -/

/-- What one round does to the timer: it runs it, does not come to it because of a timer
that is not due, or does not find it in the queue. -/
inductive RoundCase (pointer : TimerPtr) (watch : Watch) (now : Int) (next : Watch) : Prop where
  | runs (pending : watch.Pending pointer)
      (due : (watch.queue.heap pointer).expiration ≤ now)
      (clear : watch.NoneInFront pointer now)
      (ran : next.ran = watch.ran ++ [now])
      (timer : next.queue.heap pointer = (watch.queue.heap pointer).run.2)
      (stays : next.Pending pointer ↔ (watch.queue.heap pointer).run.2.repeatCount ≠ 0)
  | waits (pending : watch.Pending pointer)
      (held : (watch.queue.heap pointer).expiration ≤ now → ¬watch.NoneInFront pointer now)
      (ran : next.ran = watch.ran)
      (timer : next.queue.heap pointer = watch.queue.heap pointer)
      (stays : next.Pending pointer)
  | gone (absent : ¬watch.Pending pointer) (ran : next.ran = watch.ran)
      (stays : ¬next.Pending pointer)

section Round

variable {pointer : TimerPtr} {watch : Watch}

theorem ran_step_of_mem {now : Int} (apart : watch.queue.Apart)
    (called : pointer ∈ (watch.queue.doTimer now).2) :
    (watch.step pointer (.doTimer now)).ran = watch.ran ++ [now] := by
  show watch.ran ++ List.replicate _ now = _
  rw [List.count_eq_one_of_mem apart.ran_nodup called, List.replicate_one]

theorem ran_step_of_not_mem {now : Int} (idle : pointer ∉ (watch.queue.doTimer now).2) :
    (watch.step pointer (.doTimer now)).ran = watch.ran := by
  show watch.ran ++ List.replicate _ now = _
  rw [List.count_eq_zero_of_not_mem idle, List.replicate_zero, List.append_nil]

/-- A round adds no entries. -/
theorem mem_entries_of_step {now : Int} {entry : Entry}
    (member : entry ∈ (watch.step pointer (.doTimer now)).queue.timers.entries) :
    entry ∈ watch.queue.timers.entries :=
  (TimerQueue.doTimerFrom_sublist now watch.queue.heap _).subset member

/-- Of the timer there is one entry, which is still in the queue or not. -/
theorem pending_step_iff (now : Int) (apart : watch.queue.Apart) {entry : Entry}
    (member : entry ∈ watch.queue.timers.entries) (own : entry.timer = pointer) :
    (watch.step pointer (.doTimer now)).Pending pointer ↔
      entry ∈ (watch.queue.doTimer now).1.timers.entries := by
  constructor
  · intro stays
    obtain ⟨other, there, same⟩ := stays
    have one := apart.entry_eq (mem_entries_of_step there) member (same.trans own.symm)
    exact one ▸ there
  · intro there
    exact ⟨entry, there, own⟩

theorem round_cases (apart : watch.queue.Apart)
    (live : watch.Pending pointer → (watch.queue.heap pointer).canceled = false) (now : Int) :
    RoundCase pointer watch now (watch.step pointer (.doTimer now)) := by
  by_cases pending : watch.Pending pointer
  · obtain ⟨entry, member, own⟩ := pending
    have pending : watch.Pending pointer := ⟨entry, member, own⟩
    have stays := (pending_step_iff now apart member own).trans (apart.stays_iff member)
    by_cases reached : entry ∈ watch.queue.visited now
    · obtain ⟨_, due, front⟩ := (TimerQueue.mem_visited entry).mp reached
      have called : pointer ∈ (watch.queue.doTimer now).2 :=
        (apart.mem_ran pointer).mpr ⟨entry, reached, own ▸ live pending, own⟩
      have clear : watch.NoneInFront pointer now := by
        intro same there equal _
        rw [apart.entry_eq there member (equal.trans own.symm)]
        exact front
      subst own
      exact .runs pending due clear (ran_step_of_mem apart called) (apart.heap_visited reached)
        (stays.trans (imp_iff_right reached))
    · have idle : pointer ∉ (watch.queue.doTimer now).2 := by
        intro called
        obtain ⟨other, otherReached, _, same⟩ := (apart.mem_ran pointer).mp called
        have one := apart.entry_eq ((TimerQueue.mem_visited other).mp otherReached).1 member
          (same.trans own.symm)
        exact reached (one ▸ otherReached)
      subst own
      have held : (watch.queue.heap entry.timer).expiration ≤ now →
          ¬watch.NoneInFront entry.timer now := by
        intro due clear
        exact reached ((TimerQueue.mem_visited entry).mpr
          ⟨member, due, clear entry member rfl due⟩)
      exact .waits pending held (ran_step_of_not_mem idle) (apart.heap_behind member reached)
        (stays.mpr fun visited => absurd visited reached)
  · have idle : pointer ∉ (watch.queue.doTimer now).2 := by
      intro called
      obtain ⟨entry, reached, _, same⟩ := (apart.mem_ran pointer).mp called
      exact pending ⟨entry, ((TimerQueue.mem_visited entry).mp reached).1, same⟩
    refine .gone pending (ran_step_of_not_mem idle) ?_
    intro stays
    obtain ⟨entry, there, same⟩ := stays
    exact pending ⟨entry, mem_entries_of_step there, same⟩

end Round

/-! ### A run -/

/-- What holds of the timer in every state: where it is in its schedule. -/
structure Tracks (made : Timer) (pointer : TimerPtr) (watch : Watch) : Prop where
  apart : watch.queue.Apart
  pending : watch.Pending pointer ↔ made.Goes watch.ran.length
  timer : watch.Pending pointer → watch.queue.heap pointer = made.after watch.ran.length
  atMost : made.repeatCount = -1 ∨ (watch.ran.length : Int) ≤ made.repeatCount
  paced : 0 < made.interval → ∀ now,
    (watch.ran.countP (· ≤ now) : Int) ≤ max 0 (1 + (now - made.expiration) / made.interval)

section Run

variable {pointer : TimerPtr} {watch : Watch}

/-- One more run at its time keeps the pace. -/
theorem paced_append {made : Timer} {ran : List Int} (positive : 0 < made.interval)
    (paced : ∀ now, (ran.countP (· ≤ now) : Int) ≤
      max 0 (1 + (now - made.expiration) / made.interval))
    {time : Int} (due : made.expiration + ran.length * made.interval ≤ time) (now : Int) :
    ((ran ++ [time]).countP (· ≤ now) : Int) ≤
      max 0 (1 + (now - made.expiration) / made.interval) := by
  rw [List.countP_append, List.countP_singleton]
  by_cases reached : time ≤ now
  · have bound : (ran.length : Int) ≤ (now - made.expiration) / made.interval :=
      Int.le_ediv_of_mul_le positive (by omega)
    have counted : ran.countP (· ≤ now) ≤ ran.length := List.countP_le_length
    simp only [reached, decide_true, if_true]
    omega
  · have before := paced now
    simpa [reached] using before

theorem Tracks.live {made : Timer} (live : made.canceled = false)
    (tracks : Tracks made pointer watch) (pending : watch.Pending pointer) :
    (watch.queue.heap pointer).canceled = false := by
  rw [tracks.timer pending]
  exact live

theorem tracks_round {made : Timer} (live : made.canceled = false)
    (tracks : Tracks made pointer watch) (now : Int) :
    Tracks made pointer (watch.step pointer (.doTimer now)) := by
  have apart : (watch.step pointer (.doTimer now)).queue.Apart :=
    TimerQueue.apart_step _ (.doTimer now) tracks.apart trivial
  cases round_cases tracks.apart (tracks.live live) now with
  | runs pending due _ ran timer stays =>
      have goes := tracks.pending.mp pending
      have after := Timer.run_after live goes
      rw [tracks.timer pending] at due timer stays
      have length : (watch.step pointer (.doTimer now)).ran.length = watch.ran.length + 1 := by
        rw [ran, List.length_append, List.length_singleton]
      refine ⟨apart, ?_, ?_, ?_, ?_⟩
      · rw [length]
        exact stays.trans after.1
      · intro still
        rw [length, timer]
        exact after.2 (after.1.mp (stays.mp still))
      · rw [length]
        unfold Timer.Goes at goes
        omega
      · intro positive
        rw [ran]
        exact paced_append positive (tracks.paced positive) due
  | waits pending _ ran timer stays =>
      refine ⟨apart, ?_, ?_, ran ▸ tracks.atMost, ran ▸ tracks.paced⟩
      · rw [ran]
        exact iff_of_true stays (tracks.pending.mp pending)
      · intro _
        rw [ran, timer]
        exact tracks.timer pending
  | gone absent ran stays =>
      refine ⟨apart, ?_, fun still => absurd still stays, ran ▸ tracks.atMost,
        ran ▸ tracks.paced⟩
      rw [ran]
      exact (iff_of_false stays absent).trans tracks.pending

/-- A call about another timer leaves this one alone. -/
theorem step_other {event : TimerEvent} (others : watch.Others pointer event)
    (call : ∀ now, event ≠ .doTimer now) :
    ((watch.step pointer event).Pending pointer ↔ watch.Pending pointer) ∧
      (watch.step pointer event).queue.heap pointer = watch.queue.heap pointer ∧
      (watch.step pointer event).ran = watch.ran ∧
      (watch.step pointer event).rounds = watch.rounds := by
  cases event with
  | doTimer now => exact absurd rfl (call now)
  | addTimer other timer =>
      have absent : (⟨timer.expiration, other⟩ : Entry) ∉ watch.queue.timers.entries :=
        fun present => others.2 _ present rfl
      refine ⟨?_, Function.update_of_ne others.1.symm _ _, rfl, rfl⟩
      show (∃ entry ∈ (watch.queue.timers.insert _).entries, _) ↔ _
      simp only [(TimerSet.insert_perm absent).mem_iff, List.mem_cons]
      constructor
      · intro stays
        obtain ⟨entry, rfl | there, own⟩ := stays
        · exact absurd own others.1
        · exact ⟨entry, there, own⟩
      · intro pending
        obtain ⟨entry, there, own⟩ := pending
        exact ⟨entry, .inr there, own⟩
  | removeTimer other =>
      refine ⟨?_, rfl, rfl, rfl⟩
      constructor
      · intro stays
        obtain ⟨entry, there, own⟩ := stays
        exact ⟨entry, List.eraseP_subset there, own⟩
      · intro pending
        obtain ⟨entry, there, own⟩ := pending
        have different : entry.timer ≠ other := fun same => others (same.symm.trans own)
        exact ⟨entry, (List.mem_eraseP_of_neg (by simpa using different)).mpr there, own⟩
  | cancel other off =>
      show (Watch.Pending pointer ⟨watch.queue.cancelTimerInLoop other off, _, _⟩ ↔ _) ∧
        (watch.queue.cancelTimerInLoop other off).heap pointer = _ ∧ _
      unfold TimerQueue.cancelTimerInLoop
      split
      · exact ⟨.rfl, Function.update_of_ne (Ne.symm others) _ _, rfl, rfl⟩
      · exact ⟨.rfl, rfl, rfl, rfl⟩

theorem tracks_step {made : Timer} (live : made.canceled = false)
    (tracks : Tracks made pointer watch) {event : TimerEvent}
    (others : watch.Others pointer event) : Tracks made pointer (watch.step pointer event) := by
  by_cases call : ∀ now, event ≠ .doTimer now
  · obtain ⟨pending, timer, ran, _⟩ := step_other others call
    have apart : (watch.step pointer event).queue.Apart := by
      cases event with
      | doTimer now => exact absurd rfl (call now)
      | addTimer other timer => exact TimerQueue.apart_step _ _ tracks.apart others.2
      | removeTimer other => exact TimerQueue.apart_step _ (.removeTimer other) tracks.apart trivial
      | cancel other off => exact TimerQueue.apart_step _ (.cancel other off) tracks.apart trivial
    refine ⟨apart, ?_, ?_, ran ▸ tracks.atMost, ran ▸ tracks.paced⟩
    · rw [ran]
      exact pending.trans tracks.pending
    · intro still
      rw [ran, timer]
      exact tracks.timer (pending.mp still)
  · push Not at call
    obtain ⟨now, rfl⟩ := call
    exact tracks_round live tracks now

end Run

section Kinds

variable {pointer : TimerPtr} {kind : TimerKind}

theorem Suits.early {watch : Watch} {now : Int}
    (suits : watch.Suits pointer kind (.doTimer now)) {time : Int}
    (once : time ∈ kind.oneShot) : now < time := by
  cases kind with
  | runAt due =>
      cases once
      exact suits
  | runAfter start delay =>
      cases once
      exact suits
  | runEvery _ _ => cases once
  | counted _ _ _ => cases once

/-- The timer is in its schedule. No round has come in the time of one that is to run once,
and one that is to run so many times has had the runs it was owed. -/
structure InStep (kind : TimerKind) (pointer : TimerPtr) (watch : Watch) : Prop where
  tracks : Tracks kind.timer pointer watch
  early : ∀ time ∈ kind.oneShot, watch.ran = [] ∧ ∀ now ∈ watch.rounds, now < time
  scheduled : ∀ time interval repeatCount, kind = .counted time interval repeatCount →
    watch.ran = countedRuns time interval repeatCount watch.rounds

theorem start_inStep {queue : TimerQueue} (apart : queue.Apart) (positive : kind.Positive)
    (fresh : ∀ entry ∈ queue.timers.entries, entry.timer ≠ pointer) :
    InStep kind pointer (start pointer queue kind) := by
  unfold start
  rw [kind.make_eq]
  have goes : kind.timer.Goes 0 := by
    cases kind with
    | runAt time => exact .inl rfl
    | runAfter now delay => exact .inl rfl
    | runEvery now interval => exact .inl rfl
    | counted time interval repeatCount =>
        refine .inr ?_
        have count := positive.2
        simp only [TimerKind.timer, Timer.new]
        omega
  have absent : (⟨kind.timer.expiration, pointer⟩ : Entry) ∉ queue.timers.entries :=
    fun present => fresh _ present rfl
  refine ⟨⟨apart.addTimerInLoop fresh _, ?_, ?_, ?_, ?_⟩, fun _ _ => ⟨rfl, nofun⟩,
    fun _ _ _ _ => rfl⟩
  · refine iff_of_true ⟨⟨kind.timer.expiration, pointer⟩, ?_, rfl⟩ goes
    exact (TimerSet.insert_perm absent).mem_iff.mpr List.mem_cons_self
  · intro _
    show Function.update queue.heap pointer kind.timer pointer = kind.timer.after 0
    rw [Function.update_self]
    unfold Timer.after
    split
    · rename_i forever
      simp [← forever]
    · simp
  · unfold Timer.Goes at goes
    simp only [List.length_nil]
    omega
  · intro _ now
    simp

section Counted

variable {time interval : Int} {repeatCount : Nat} {watch : Watch}

theorem Tracks.pending_iff
    (tracks : Tracks (TimerKind.counted time interval repeatCount).timer pointer watch) :
    watch.Pending pointer ↔ watch.ran.length < repeatCount := by
  refine tracks.pending.trans ?_
  unfold Timer.Goes
  show ((repeatCount : Int) = -1 ∨ (watch.ran.length : Int) < repeatCount) ↔ _
  omega

theorem Tracks.expiration_eq
    (tracks : Tracks (TimerKind.counted time interval repeatCount).timer pointer watch)
    (pending : watch.Pending pointer) :
    (watch.queue.heap pointer).expiration = time + watch.ran.length * interval := by
  rw [tracks.timer pending]
  rfl

/-- A round keeps to the runs that are owed exactly when no timer in front that is not due
stops it. -/
theorem Tracks.scheduled_step_iff
    (tracks : Tracks (TimerKind.counted time interval repeatCount).timer pointer watch)
    (scheduled : watch.ran = countedRuns time interval repeatCount watch.rounds) (now : Int) :
    (watch.step pointer (.doTimer now)).ran =
        countedRuns time interval repeatCount (watch.rounds ++ [now]) ↔
      watch.NoneInFront pointer now := by
  rw [countedRuns_append, ← scheduled]
  cases round_cases tracks.apart (tracks.live rfl) now with
  | runs pending due clear ran _ _ =>
      have owed : watch.ran.length < repeatCount ∧
          time + watch.ran.length * interval ≤ now :=
        ⟨tracks.pending_iff.mp pending, tracks.expiration_eq pending ▸ due⟩
      rw [if_pos owed]
      exact iff_of_true ran clear
  | waits pending held ran _ _ =>
      by_cases due : (watch.queue.heap pointer).expiration ≤ now
      · have owed : watch.ran.length < repeatCount ∧
            time + watch.ran.length * interval ≤ now :=
          ⟨tracks.pending_iff.mp pending, tracks.expiration_eq pending ▸ due⟩
        rw [if_pos owed, ran]
        exact iff_of_false (by simp) (held due)
      · have early : ¬time + watch.ran.length * interval ≤ now :=
          tracks.expiration_eq pending ▸ due
        rw [if_neg fun owed => early owed.2]
        refine iff_of_true ran ?_
        intro entry _ own late
        exact absurd (own ▸ late) due
  | gone absent ran _ =>
      rw [if_neg fun owed => absent (tracks.pending_iff.mpr owed.1)]
      exact iff_of_true ran fun entry there own => absurd ⟨entry, there, own⟩ absent

end Counted

theorem InStep.step {watch : Watch} (inStep : InStep kind pointer watch) {event : TimerEvent}
    (others : watch.Others pointer event) (suits : watch.Suits pointer kind event) :
    InStep kind pointer (watch.step pointer event) := by
  have live : kind.timer.canceled = false := by cases kind <;> rfl
  have tracks := tracks_step live inStep.tracks others
  by_cases call : ∀ now, event ≠ .doTimer now
  · obtain ⟨_, _, ran, rounds⟩ := step_other others call
    refine ⟨tracks, ?_, ?_⟩
    · rw [ran, rounds]
      exact inStep.early
    · rw [ran, rounds]
      exact inStep.scheduled
  · push Not at call
    obtain ⟨now, rfl⟩ := call
    refine ⟨tracks, ?_, ?_⟩
    · intro time once
      obtain ⟨none, before⟩ := inStep.early time once
      have early := suits.early once
      have rounds : ∀ other ∈ watch.rounds ++ [now], other < time := by
        intro other member
        simp only [List.mem_append, List.mem_singleton] at member
        obtain there | rfl := member
        · exact before other there
        · exact early
      refine ⟨?_, rounds⟩
      cases round_cases inStep.tracks.apart (inStep.tracks.live live) now with
      | runs pending due _ _ _ _ =>
          rw [inStep.tracks.timer pending, none] at due
          have expiration : (kind.timer.after 0).expiration = time := by
            cases kind with
            | runAt at_ => simp_all [TimerKind.oneShot, TimerKind.timer, Timer.after, Timer.new]
            | runAfter start delay =>
                simp_all [TimerKind.oneShot, TimerKind.timer, Timer.after, Timer.new]
            | runEvery start interval => cases once
            | counted at_ interval count => cases once
          have late : time ≤ now := expiration ▸ due
          exact absurd early (not_lt.mpr late)
      | waits _ _ ran _ _ => rw [ran, none]
      | gone _ ran _ => rw [ran, none]
    · intro time interval repeatCount counted
      subst counted
      exact (inStep.tracks.scheduled_step_iff (inStep.scheduled _ _ _ rfl) now).mpr suits

theorem InStep.runsOnce {watch : Watch} (inStep : InStep kind pointer watch) {time : Int}
    (once : kind.oneShot = some time) (forever : kind.timer.repeatCount = -1) :
    watch.RunsOnce pointer time := by
  obtain ⟨none, before⟩ := inStep.early time once
  have notFound : watch.rounds.find? (time ≤ ·) = .none := by
    simpa using before
  refine ⟨?_, iff_of_true (inStep.tracks.pending.mpr (.inl forever)) before⟩
  rw [none, notFound]
  rfl

theorem InStep.runsTimes {watch : Watch} {time interval : Int} {repeatCount : Nat}
    (positive : 0 < interval)
    (inStep : InStep (.counted time interval repeatCount) pointer watch) :
    watch.RunsTimes pointer time interval repeatCount := by
  have scheduled := inStep.scheduled time interval repeatCount rfl
  refine ⟨scheduled, ?_, ?_, inStep.tracks.pending_iff⟩
  · rw [scheduled]
    exact length_countedRuns_le watch.rounds
  · intro enough
    rw [scheduled]
    exact length_countedRuns positive enough

theorem InStep.keepsKind {watch : Watch} (inStep : InStep kind pointer watch)
    (positive : kind.Positive) : watch.KeepsKind pointer kind := by
  cases kind with
  | runAt time => exact inStep.runsOnce rfl rfl
  | runAfter now delay => exact inStep.runsOnce rfl rfl
  | runEvery now interval =>
      exact ⟨inStep.tracks.paced positive, inStep.tracks.pending.mpr (.inl rfl)⟩
  | counted time interval repeatCount => exact inStep.runsTimes positive.1

/-- A timer is never out of the queue that repeats for ever, so that a round at or after its
time breaks the promise that it runs once. -/
theorem early_of_runsOnce {watch : Watch} (inStep : InStep kind pointer watch) {now : Int}
    (others : watch.Others pointer (.doTimer now)) {time : Int}
    (forever : kind.timer.repeatCount = -1) (live : kind.timer.canceled = false)
    (runsOnce : (watch.step pointer (.doTimer now)).RunsOnce pointer time) : now < time := by
  have tracks := tracks_step live inStep.tracks others
  have before := runsOnce.2.mp (tracks.pending.mpr (.inl forever))
  exact before now (List.mem_append_right _ List.mem_cons_self)

theorem InStep.keepsKind_step_iff {watch : Watch} (inStep : InStep kind pointer watch)
    (positive : kind.Positive) {event : TimerEvent} (others : watch.Others pointer event) :
    (watch.step pointer event).KeepsKind pointer kind ↔ watch.Suits pointer kind event := by
  constructor
  · intro keeps
    cases event with
    | doTimer now =>
        cases kind with
        | runAt due => exact early_of_runsOnce inStep others rfl rfl keeps
        | runAfter start delay => exact early_of_runsOnce inStep others rfl rfl keeps
        | runEvery _ _ => trivial
        | counted time interval repeatCount =>
            have before := inStep.scheduled time interval repeatCount rfl
            exact (inStep.tracks.scheduled_step_iff before now).mp keeps.scheduled
    | addTimer _ _ => trivial
    | removeTimer _ => trivial
    | cancel _ _ => trivial
  · intro suits
    exact (inStep.step others suits).keepsKind positive

end Kinds

/-- In a queue with any other timers, a timer does what it was made for in every state of a
run exactly when no round comes at or after the time of one that is to run once, and none
finds one that is to run so many times due behind a timer that is not. -/
theorem always_keepsKind_iff {heap : TimerPtr → Timer} {queue : TimerQueue}
    (reached : TimerQueue.Reached heap queue) {pointer : TimerPtr}
    (fresh : ∀ entry ∈ queue.timers.entries, entry.timer ≠ pointer) {kind : TimerKind}
    (positive : kind.Positive) (events : List TimerEvent)
    (others : Meets (step pointer) (Others pointer) (start pointer queue kind) events) :
    Always (step pointer) (KeepsKind pointer kind) (start pointer queue kind) events ↔
      Meets (step pointer) (Suits pointer kind) (start pointer queue kind) events :=
  always_iff_meets (fun _ _ inStep other => inStep.keepsKind_step_iff positive other)
    (fun _ _ inStep other suits => inStep.step other suits)
    (fun _ inStep => inStep.keepsKind positive) events
    (start_inStep reached.apart positive fresh) others

/-- A timer for two runs from the time 5 on, with another that is made after it. -/
theorem always_keepsKind_two :
    Always (step 1) (KeepsKind 1 (.counted 5 10 2))
        (start 1 (.new TimerQueue.noTimers) (.counted 5 10 2))
        [.doTimer 3, .doTimer 7, .addTimer 2 ⟨9, 40, -1, false⟩, .doTimer 12, .doTimer 16] ↔
      Meets (step 1) (Suits 1 (.counted 5 10 2))
        (start 1 (.new TimerQueue.noTimers) (.counted 5 10 2))
        [.doTimer 3, .doTimer 7, .addTimer 2 ⟨9, 40, -1, false⟩, .doTimer 12, .doTimer 16] :=
  always_keepsKind_iff .start nofun
    (show (TimerKind.counted 5 10 2).Positive from ⟨by decide, by decide⟩) _ (by decide)

/-- Behind a timer for every hundred ticks that has run at 1, one for three runs from 2 on
is due in both rounds and has no run. -/
example :
    let behind := start 2 (Lib.run TimerQueue.step (.new TimerQueue.noTimers)
      [.addTimer 1 ⟨1, 100, -1, false⟩, .doTimer 1]) (.counted 2 1 3)
    (run (step 2) behind [.doTimer 2, .doTimer 9]).ran = [] ∧
      countedRuns 2 1 3 [2, 9] = [2, 9] := by
  decide

/-- A timer of `runAt` for the time 5, with rounds at 5 and at 6: both run it, and it stays
in the queue. -/
theorem runAt_runs_twice :
    (run (step 1) (start 1 (.new TimerQueue.noTimers) (.runAt 5))
        [.doTimer 5, .doTimer 6]).ran = [5, 6] ∧
      (run (step 1) (start 1 (.new TimerQueue.noTimers) (.runAt 5))
        [.doTimer 5, .doTimer 6]).Pending 1 ∧
      ¬Always (step 1) (KeepsKind 1 (.runAt 5)) (start 1 (.new TimerQueue.noTimers) (.runAt 5))
        [.doTimer 5, .doTimer 6] := by
  refine ⟨by decide, by decide, ?_⟩
  intro always
  have last := always.2.2.1
  exact absurd last (by decide)

end Watch

end AChat.Net
