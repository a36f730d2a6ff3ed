import Mathlib.Logic.Function.Basic
import AChat.Lib.Reach

/-!
Contract: the functors of an event loop, queued by its own thread and by any other.

A step is what one thread does between two things that another thread can see. In
`queueInLoop` the push under the mutex and the wake-up behind it are two steps. The code that
the loop calls (timers, channels, functors, the frame functor) is arbitrary: it queues what it
likes, and so does the code before `loop` and behind it.

Owns: the pending functors, the wake-up descriptor, and where the loop thread is.

Does not own: timers, the channels other than the one of the wake-up descriptor, and functors
that throw.
-/

namespace AChat.Net

open AChat.Lib

inductive Thread where
  | loop
  | other (number : Nat)
deriving DecidableEq, Repr

/-- A call of `queueInLoop`: the functor, who called, whether a queued functor was running then,
and the place of the call among all calls. -/
structure QueuedCall where
  functor : Nat
  caller : Thread
  whileRunning : Bool
  number : Nat
deriving DecidableEq, Repr

/-- Where the loop thread is. `handling` has the wake-up channel among the active ones or not,
`calling` and `running` have the functors that were swapped out and not called. -/
inductive LoopPlace where
  | outside
  | top
  | timers
  | polling
  | handling (wakeActive : Bool)
  | swapping
  | calling (rest : List QueuedCall)
  | running (functor : QueuedCall) (rest : List QueuedCall)
  | frame
deriving DecidableEq, Repr

namespace LoopPlace

/-- Code of the user runs. -/
@[simp]
def userCode : LoopPlace → Bool
  | outside => true
  | timers => true
  | handling _ => true
  | running _ _ => true
  | frame => true
  | _ => false

/-- Swapped out and not called. -/
@[simp]
def taken : LoopPlace → List QueuedCall
  | calling rest => rest
  | running _ rest => rest
  | _ => []

@[simp]
def isRunning : LoopPlace → Bool
  | running _ _ => true
  | _ => false

/-- Between the two writes of `callingPendingFunctors`. -/
@[simp]
def inFunctors : LoopPlace → Bool
  | swapping => true
  | calling _ => true
  | running _ _ => true
  | _ => false

/-- The next swap has a poll before it. -/
@[simp]
def beforePoll : LoopPlace → Bool
  | handling _ => false
  | swapping => false
  | _ => true

/-- Behind the swap of this turn. -/
@[simp]
def swapped : LoopPlace → Bool
  | calling _ => true
  | running _ _ => true
  | frame => true
  | _ => false

end LoopPlace

/-- `EventLoop`, with the counter of its eventfd. `queueing` has, for a thread between the push
and the wake-up, the number of its call. `queued` are all calls and `ran` the functors that were
called, in order; `turns` counts the turns of the loop that are over. -/
structure EventLoop where
  quit : Bool
  callingPendingFunctors : Bool
  pendingFunctors : List QueuedCall
  wakeupFd : Nat
  place : LoopPlace
  queueing : Thread → Option Nat
  queued : List QueuedCall
  ran : List QueuedCall
  turns : Nat

/-- What a thread does. `next` is the loop thread's own next step, with the answer of
`epoll_wait` about the wake-up channel. -/
inductive LoopEvent where
  | runInLoop (caller : Thread) (functor : Nat)
  | queueInLoop (caller : Thread) (functor : Nat)
  | queueEnd (caller : Thread)
  | quit (caller : Thread)
  | wakeup (caller : Thread)
  | next (wakeActive : Bool)
deriving DecidableEq, Repr

namespace EventLoop

/-! ### `EventLoop.cpp` -/

/-- After the constructor. -/
def start : EventLoop where
  quit := false
  callingPendingFunctors := false
  pendingFunctors := []
  wakeupFd := 0
  place := .outside
  queueing := fun _ => none
  queued := []
  ran := []
  turns := 0

def isInLoopThread (caller : Thread) : Bool :=
  decide (caller = .loop)

/-- The largest value that an eventfd holds. -/
def eventfdMax : Nat := 0xFFFFFFFFFFFFFFFE

/-- `wakeup`: a write of one. A full counter does not change, and the write fails. -/
def wakeup (loop : EventLoop) : EventLoop :=
  { loop with wakeupFd := if loop.wakeupFd < eventfdMax then loop.wakeupFd + 1 else loop.wakeupFd }

/-- `handleRead`: the read takes the whole counter. -/
def handleRead (loop : EventLoop) : EventLoop :=
  { loop with wakeupFd := 0 }

/-- `queueInLoop`, under the mutex. -/
def queueInLoop (loop : EventLoop) (caller : Thread) (functor : Nat) : EventLoop :=
  let call : QueuedCall :=
    { functor := functor
      caller := caller
      whileRunning := decide (caller = .loop) && loop.place.isRunning
      number := loop.queued.length }
  { loop with
    pendingFunctors := loop.pendingFunctors ++ [call]
    queued := loop.queued ++ [call]
    queueing := Function.update loop.queueing caller (some loop.queued.length) }

/-- `queueInLoop`, behind the mutex. -/
def queueEnd (loop : EventLoop) (caller : Thread) : EventLoop :=
  let returned := { loop with queueing := Function.update loop.queueing caller none }
  if !isInLoopThread caller || loop.callingPendingFunctors then returned.wakeup else returned

/-- `runInLoop`. What `cb()` does on the loop thread is further steps of that thread. -/
def runInLoop (loop : EventLoop) (caller : Thread) (functor : Nat) : EventLoop :=
  if isInLoopThread caller then loop else loop.queueInLoop caller functor

/-- The next step of the loop thread in `loop` and `doPendingFunctors`. -/
def next (loop : EventLoop) (wakeActive : Bool) : EventLoop :=
  match loop.place with
  | .outside => { loop with quit := false, place := .top }
  | .top => { loop with place := if loop.quit then .outside else .timers }
  | .timers => { loop with place := .polling }
  | .polling => { loop with place := .handling wakeActive }
  | .handling true => { loop.handleRead with place := .handling false }
  | .handling false => { loop with callingPendingFunctors := true, place := .swapping }
  | .swapping => { loop with pendingFunctors := [], place := .calling loop.pendingFunctors }
  | .calling [] => { loop with callingPendingFunctors := false, place := .frame }
  | .calling (functor :: rest) =>
      { loop with ran := loop.ran ++ [functor], place := .running functor rest }
  | .running _ rest => { loop with place := .calling rest }
  | .frame => { loop with place := .top, turns := loop.turns + 1 }

/-- A thread can call: it is in no call, and the loop thread is in code of the user. -/
def Calls (loop : EventLoop) (caller : Thread) : Prop :=
  loop.queueing caller = none ∧ (caller = .loop → loop.place.userCode = true)

/-- What can happen. The wake-up channel is only reported when its descriptor can be read, and need
not be then: `kReadEvent` is 0, so that it is registered for no event. -/
def Enabled (loop : EventLoop) : LoopEvent → Prop
  | .runInLoop caller _ => loop.Calls caller
  | .queueInLoop caller _ => loop.Calls caller
  | .queueEnd caller => loop.queueing caller ≠ none
  | .quit caller => loop.Calls caller
  | .wakeup caller => loop.Calls caller
  | .next wakeActive =>
      loop.queueing .loop = none ∧
        (loop.place = .polling → wakeActive = true → 0 < loop.wakeupFd)

instance (loop : EventLoop) (caller : Thread) : Decidable (loop.Calls caller) :=
  inferInstanceAs (Decidable (_ ∧ _))

instance : ∀ loop event, Decidable (Enabled loop event)
  | loop, .runInLoop caller _ => inferInstanceAs (Decidable (loop.Calls caller))
  | loop, .queueInLoop caller _ => inferInstanceAs (Decidable (loop.Calls caller))
  | loop, .queueEnd caller => inferInstanceAs (Decidable (loop.queueing caller ≠ none))
  | loop, .quit caller => inferInstanceAs (Decidable (loop.Calls caller))
  | loop, .wakeup caller => inferInstanceAs (Decidable (loop.Calls caller))
  | _, .next _ => inferInstanceAs (Decidable (_ ∧ _))

def step (loop : EventLoop) : LoopEvent → EventLoop
  | .runInLoop caller functor => loop.runInLoop caller functor
  | .queueInLoop caller functor => loop.queueInLoop caller functor
  | .queueEnd caller => loop.queueEnd caller
  | .quit _ => { loop with quit := true }
  | .wakeup _ => loop.wakeup
  | .next wakeActive => loop.next wakeActive

/-! ### Exactly once, in order -/

/-- What ran, what was swapped out and what is pending are the calls, in order, and the flag says
where the loop thread is. -/
structure InOrder (loop : EventLoop) : Prop where
  order : loop.ran ++ loop.place.taken ++ loop.pendingFunctors = loop.queued
  flag : loop.callingPendingFunctors = loop.place.inFunctors

theorem inOrder_start : start.InOrder :=
  ⟨rfl, rfl⟩

theorem InOrder.queueInLoop {loop : EventLoop} (inOrder : loop.InOrder) (caller : Thread)
    (functor : Nat) : (loop.queueInLoop caller functor).InOrder := by
  constructor
  · simp only [EventLoop.queueInLoop]
    rw [← List.append_assoc, inOrder.order]
  · exact inOrder.flag

theorem InOrder.wakeup {loop : EventLoop} (inOrder : loop.InOrder) : loop.wakeup.InOrder :=
  ⟨inOrder.order, inOrder.flag⟩

theorem InOrder.queueEnd {loop : EventLoop} (inOrder : loop.InOrder) (caller : Thread) :
    (loop.queueEnd caller).InOrder := by
  unfold EventLoop.queueEnd
  split
  · exact ⟨inOrder.order, inOrder.flag⟩
  · exact ⟨inOrder.order, inOrder.flag⟩

theorem InOrder.next {loop : EventLoop} (inOrder : loop.InOrder) (wakeActive : Bool) :
    (loop.next wakeActive).InOrder := by
  obtain ⟨order, flag⟩ := inOrder
  cases place : loop.place with
  | top =>
      simp only [place, LoopPlace.taken, LoopPlace.inFunctors, List.append_nil] at order flag
      cases quitting : loop.quit <;> constructor <;>
        simp [EventLoop.next, place, quitting, order, flag]
  | handling active =>
      simp only [place, LoopPlace.taken, LoopPlace.inFunctors, List.append_nil] at order flag
      cases active <;> constructor <;>
        simp [EventLoop.next, place, EventLoop.handleRead, order, flag]
  | calling rest =>
      simp only [place, LoopPlace.taken, LoopPlace.inFunctors, List.append_assoc] at order flag
      cases rest <;> constructor <;> simp [EventLoop.next, place, ← order, flag]
  | running functor rest =>
      simp only [place, LoopPlace.taken, LoopPlace.inFunctors, List.append_assoc] at order flag
      constructor <;> simp [EventLoop.next, place, order, flag]
  | _ =>
      simp only [place, LoopPlace.taken, LoopPlace.inFunctors, List.append_nil] at order flag
      constructor <;> simp [EventLoop.next, place, order, flag]

theorem InOrder.step {loop : EventLoop} (inOrder : loop.InOrder) (event : LoopEvent) :
    (loop.step event).InOrder := by
  cases event with
  | runInLoop caller functor =>
      simp only [EventLoop.step, EventLoop.runInLoop]
      split
      · exact inOrder
      · exact inOrder.queueInLoop caller functor
  | queueInLoop caller functor => exact inOrder.queueInLoop caller functor
  | queueEnd caller => exact inOrder.queueEnd caller
  | quit caller => exact ⟨inOrder.order, inOrder.flag⟩
  | wakeup caller => exact inOrder.wakeup
  | next wakeActive => exact inOrder.next wakeActive

/-! ### The wake-up -/

/-- A call from another thread, or from a functor that a queued call runs. -/
def NeedsWake (call : QueuedCall) : Prop :=
  call.caller ≠ .loop ∨ call.whileRunning = true

/-- Before the poll of a turn the wake-up descriptor can be read if a call is pending that needs
it, unless its caller is still on the way to the write. -/
structure Awake (loop : EventLoop) : Prop where
  numbered : ∀ call ∈ loop.pendingFunctors, call.number < loop.queued.length
  whileRunning : ∀ call ∈ loop.pendingFunctors, loop.queueing .loop = some call.number →
    call.caller = .loop → call.whileRunning = loop.place.isRunning
  readable : loop.place.beforePoll = true → ∀ call ∈ loop.pendingFunctors, NeedsWake call →
    loop.queueing call.caller ≠ some call.number → 0 < loop.wakeupFd

theorem awake_start : start.Awake := by
  constructor <;> simp [start]

theorem wakeup_readable (loop : EventLoop) : 0 < loop.wakeup.wakeupFd := by
  unfold wakeup eventfdMax
  simp only
  by_cases full : loop.wakeupFd < 0xFFFFFFFFFFFFFFFE
  · rw [if_pos full]
    omega
  · rw [if_neg full]
    omega

theorem Awake.wakeup {loop : EventLoop} (awake : loop.Awake) : loop.wakeup.Awake :=
  ⟨awake.numbered, awake.whileRunning, fun _ _ _ _ _ => loop.wakeup_readable⟩

theorem Awake.queueInLoop {loop : EventLoop} (awake : loop.Awake) {caller : Thread}
    (functor : Nat) (idle : loop.queueing caller = none) :
    (loop.queueInLoop caller functor).Awake := by
  obtain ⟨numbered, whileRunning, readable⟩ := awake
  constructor
  · intro call among
    simp only [EventLoop.queueInLoop, List.length_append, List.length_singleton]
    rcases List.mem_append.mp among with earlier | last
    · have below := numbered call earlier
      omega
    · rw [List.mem_singleton.mp last]
      simp only
      omega
  · intro call among inCall byLoop
    rcases List.mem_append.mp among with earlier | last
    · have below := numbered call earlier
      have other : caller ≠ .loop := by
        rintro rfl
        simp only [EventLoop.queueInLoop, Function.update_self, Option.some.injEq] at inCall
        omega
      simp only [EventLoop.queueInLoop, Function.update_of_ne other.symm] at inCall
      exact whileRunning call earlier inCall byLoop
    · rw [List.mem_singleton.mp last] at byLoop ⊢
      simp only at byLoop
      simp [EventLoop.queueInLoop, byLoop]
  · intro before call among needs returned
    rcases List.mem_append.mp among with earlier | last
    · apply readable before call earlier needs
      intro inCall
      have other : call.caller ≠ caller := by
        intro same
        rw [same, idle] at inCall
        exact nomatch inCall
      simp only [EventLoop.queueInLoop, Function.update_of_ne other] at returned
      exact returned inCall
    · -- The caller of the new call is still on the way to the write.
      rw [List.mem_singleton.mp last] at returned
      simp [EventLoop.queueInLoop] at returned

theorem Awake.queueEnd {loop : EventLoop} (awake : loop.Awake) (inOrder : loop.InOrder)
    (caller : Thread) : (loop.queueEnd caller).Awake := by
  obtain ⟨numbered, whileRunning, readable⟩ := awake
  have still : ∀ call ∈ loop.pendingFunctors,
      Function.update loop.queueing caller none .loop = some call.number →
      call.caller = .loop → call.whileRunning = loop.place.isRunning := by
    intro call among inCall byLoop
    have other : Thread.loop ≠ caller := by
      rintro rfl
      rw [Function.update_self] at inCall
      exact nomatch inCall
    rw [Function.update_of_ne other] at inCall
    exact whileRunning call among inCall byLoop
  unfold EventLoop.queueEnd
  by_cases writes : (!isInLoopThread caller || loop.callingPendingFunctors) = true
  · rw [if_pos writes]
    exact ⟨numbered, still, fun _ _ _ _ _ => wakeup_readable _⟩
  · rw [if_neg writes]
    refine ⟨numbered, still, ?_⟩
    intro before call among needs returned
    simp only [Bool.or_eq_true, not_or, Bool.not_eq_true, Bool.not_eq_false', isInLoopThread,
      decide_eq_true_eq] at writes
    obtain ⟨byLoop, idle⟩ := writes
    apply readable before call among needs
    intro inCall
    by_cases other : call.caller = caller
    · -- The loop thread ends a call that it made while no functor was running.
      have loops : call.caller = .loop := other.trans byLoop
      rw [loops] at inCall
      have running := whileRunning call among inCall loops
      rw [needs.resolve_left (not_not_intro loops)] at running
      have inFunctors : loop.place.inFunctors = true := by
        cases place : loop.place with
        | running functor rest => rfl
        | _ => simp [place] at running
      rw [inOrder.flag, inFunctors] at idle
      exact nomatch idle
    · simp only [Function.update_of_ne other] at returned
      exact returned inCall

/-- A step that leaves the calls and the descriptor alone. -/
theorem Awake.moves {loop after : EventLoop} (awake : loop.Awake)
    (idle : loop.queueing .loop = none) (pending : after.pendingFunctors = loop.pendingFunctors)
    (queued : after.queued = loop.queued) (queueing : after.queueing = loop.queueing)
    (wakeupFd : after.wakeupFd = loop.wakeupFd)
    (before : after.place.beforePoll = true → loop.place.beforePoll = true) : after.Awake := by
  constructor
  · rw [pending, queued]
    exact awake.numbered
  · intro call _ inCall
    rw [queueing, idle] at inCall
    exact nomatch inCall
  · rw [pending, queueing, wakeupFd]
    exact fun here => awake.readable (before here)

theorem Awake.next {loop : EventLoop} (awake : loop.Awake) (wakeActive : Bool)
    (idle : loop.queueing .loop = none) : (loop.next wakeActive).Awake := by
  cases place : loop.place with
  | handling active =>
      cases active with
      | true =>
          -- The counter is taken, and everything that is pending is swapped out in this turn.
          simp only [EventLoop.next, place, EventLoop.handleRead]
          refine ⟨awake.numbered, ?_, fun before => absurd before (by simp)⟩
          intro call _ inCall
          simp only [idle] at inCall
          exact nomatch inCall
      | false =>
          simp only [EventLoop.next, place]
          exact awake.moves idle rfl rfl rfl rfl (by simp)
  | swapping =>
      simp only [EventLoop.next, place]
      constructor <;> simp
  | calling rest =>
      cases rest <;> simp only [EventLoop.next, place] <;>
        exact awake.moves idle rfl rfl rfl rfl (by simp [place])
  | _ =>
      simp only [EventLoop.next, place]
      exact awake.moves idle rfl rfl rfl rfl (by simp [place])

theorem Awake.step {loop : EventLoop} (awake : loop.Awake) (inOrder : loop.InOrder)
    {event : LoopEvent} (enabled : loop.Enabled event) : (loop.step event).Awake := by
  cases event with
  | runInLoop caller functor =>
      simp only [EventLoop.step, EventLoop.runInLoop]
      split
      · exact awake
      · exact awake.queueInLoop functor enabled.1
  | queueInLoop caller functor => exact awake.queueInLoop functor enabled.1
  | queueEnd caller => exact awake.queueEnd inOrder caller
  | quit caller => exact ⟨awake.numbered, awake.whileRunning, awake.readable⟩
  | wakeup caller => exact awake.wakeup
  | next wakeActive => exact awake.next wakeActive enabled.1

/-! ### The next turn -/

/-- The first `count` calls, all of them made before `turns` turns were over: they are swapped out
in the turn behind that one at the latest, and have run when it is over. -/
structure RunBy (count turns : Nat) (loop : EventLoop) : Prop where
  known : count ≤ loop.queued.length
  later : turns ≤ loop.turns
  swapped : loop.turns = turns + 1 → loop.place.swapped = true →
    count ≤ loop.ran.length + loop.place.taken.length
  ran : turns + 2 ≤ loop.turns → count ≤ loop.ran.length

theorem RunBy.queueInLoop {count turns : Nat} {loop : EventLoop} (runBy : RunBy count turns loop)
    (caller : Thread) (functor : Nat) : RunBy count turns (loop.queueInLoop caller functor) := by
  have grown : loop.queued.length ≤ (loop.queueInLoop caller functor).queued.length := by
    simp [EventLoop.queueInLoop]
  exact ⟨Nat.le_trans runBy.known grown, runBy.later, runBy.swapped, runBy.ran⟩

theorem RunBy.next {count turns : Nat} {loop : EventLoop} (runBy : RunBy count turns loop)
    (inOrder : loop.InOrder) (wakeActive : Bool) : RunBy count turns (loop.next wakeActive) := by
  obtain ⟨known, later, swapped, ran⟩ := runBy
  cases place : loop.place with
  | swapping =>
      have order := congrArg List.length inOrder.order
      simp only [place, LoopPlace.taken, List.append_nil, List.length_append] at order
      simp only [EventLoop.next, place]
      exact ⟨known, later, fun _ _ => by simp only [LoopPlace.taken]; omega, ran⟩
  | calling rest =>
      simp only [place, LoopPlace.swapped, LoopPlace.taken] at swapped
      cases rest with
      | nil =>
          simp only [EventLoop.next, place]
          exact ⟨known, later, fun here _ => swapped here trivial, ran⟩
      | cons functor rest =>
          simp only [EventLoop.next, place]
          constructor
          · exact known
          · exact later
          · intro here _
            have held := swapped here trivial
            simp only [List.length_cons] at held
            simp only [LoopPlace.taken, List.length_append, List.length_singleton]
            omega
          · intro ended
            have held := ran ended
            simp only [List.length_append, List.length_singleton]
            omega
  | running functor rest =>
      simp only [place, LoopPlace.swapped, LoopPlace.taken] at swapped
      simp only [EventLoop.next, place]
      exact ⟨known, later, fun here _ => swapped here trivial, ran⟩
  | frame =>
      -- The turn ends: what it had swapped out has run.
      simp only [place, LoopPlace.swapped, LoopPlace.taken, List.length_nil] at swapped
      simp only [EventLoop.next, place]
      constructor
      · exact known
      · simp only
        omega
      · intro _ inside
        simp at inside
      · intro ended
        simp only at ended
        by_cases here : loop.turns = turns + 1
        · exact swapped here trivial
        · exact ran (by omega)
  | handling active =>
      cases active <;> simp only [EventLoop.next, place, EventLoop.handleRead] <;>
        exact ⟨known, later, by simp, ran⟩
  | top =>
      simp only [EventLoop.next, place]
      exact ⟨known, later, fun _ inside => by cases quitting : loop.quit <;> simp [quitting] at inside,
        ran⟩
  | _ =>
      simp only [EventLoop.next, place]
      exact ⟨known, later, by simp, ran⟩

theorem RunBy.step {count turns : Nat} {loop : EventLoop} (runBy : RunBy count turns loop)
    (inOrder : loop.InOrder) (event : LoopEvent) : RunBy count turns (loop.step event) := by
  cases event with
  | runInLoop caller functor =>
      simp only [EventLoop.step, EventLoop.runInLoop]
      split
      · exact runBy
      · exact runBy.queueInLoop caller functor
  | queueInLoop caller functor => exact runBy.queueInLoop caller functor
  | queueEnd caller =>
      simp only [EventLoop.step, EventLoop.queueEnd]
      split <;> exact ⟨runBy.known, runBy.later, runBy.swapped, runBy.ran⟩
  | quit caller => exact ⟨runBy.known, runBy.later, runBy.swapped, runBy.ran⟩
  | wakeup caller => exact ⟨runBy.known, runBy.later, runBy.swapped, runBy.ran⟩
  | next wakeActive => exact runBy.next inOrder wakeActive

/-! ### Runs -/

/-- The calls only grow. -/
theorem queued_step (loop : EventLoop) (event : LoopEvent) :
    loop.queued <+: (loop.step event).queued := by
  cases event with
  | runInLoop caller functor =>
      simp only [step, runInLoop]
      split
      · exact List.prefix_rfl
      · exact List.prefix_append _ _
  | queueInLoop caller functor => exact List.prefix_append _ _
  | queueEnd caller =>
      simp only [step, queueEnd]
      split <;> exact List.prefix_rfl
  | quit caller => exact List.prefix_rfl
  | wakeup caller => exact List.prefix_rfl
  | next wakeActive =>
      have same : (loop.next wakeActive).queued = loop.queued := by
        unfold next
        split <;> rfl
      exact ⟨[], (List.append_nil _).trans same.symm⟩

theorem queued_run (events : List LoopEvent) (loop : EventLoop) :
    loop.queued <+: (run step loop events).queued := by
  induction events generalizing loop with
  | nil => exact List.prefix_rfl
  | cons event rest inductionHypothesis =>
      exact (queued_step loop event).trans (inductionHypothesis _)

/-- What holds of the calls and the wake-up in every reached state. -/
theorem reached {loop : EventLoop} (reach : Reach step Enabled start loop) :
    loop.InOrder ∧ loop.Awake := by
  refine reach.invariant (fun loop => loop.InOrder ∧ loop.Awake)
    ⟨inOrder_start, awake_start⟩ ?_
  intro loop event ⟨inOrder, awake⟩ enabled
  exact ⟨inOrder.step event, awake.step inOrder enabled⟩

theorem runBy_run {count turns : Nat} (events : List LoopEvent) (loop : EventLoop)
    (inOrder : loop.InOrder) (runBy : RunBy count turns loop) :
    RunBy count turns (run step loop events) := by
  induction events generalizing loop with
  | nil => exact runBy
  | cons event rest inductionHypothesis =>
      exact inductionHypothesis _ (inOrder.step event) (runBy.step inOrder event)

/-- Another thread queues a functor before the loop is entered. -/
def queuedBefore : List LoopEvent :=
  [.queueInLoop (.other 1) 7, .queueEnd (.other 1)]

/-- Two turns of the loop, whose polls report nothing; the functor queues one more while it runs. -/
def twoTurns : List LoopEvent :=
  List.replicate 7 (.next false) ++ [.queueInLoop .loop 8, .queueEnd .loop] ++
    List.replicate 12 (.next false)

example : (run step start (queuedBefore ++ twoTurns)).ran.map QueuedCall.functor = [7, 8] := by
  decide

end EventLoop

end AChat.Net
