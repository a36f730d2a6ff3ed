import AChat.Net.Connector
import AChat.Net.TimerKinds

/-!
Contract: when a connector's retries run.

The delay is kept in milliseconds and doubles up to its limit. It reaches the timer queue
through `EventLoop::runAfter`, whose parameter counts microseconds, as a number of seconds.

Owns: the failures since the construction or the last restart, and the time that the timer of a
retry is given.
-/

namespace AChat.Net

open Lib

/-- A connector with the number of attempts that failed since it was constructed or restarted. -/
structure Attempts where
  connector : Connector
  failures : Nat

namespace Attempts

def start : Attempts where
  connector := .new
  failures := 0

/-- The failures that the event finds: a restart forgets them. -/
def earlier (attempts : Attempts) : ConnectorEvent → Nat
  | .restart _ => 0
  | _ => attempts.failures

instance (connector : Connector) :
    (event : ConnectorEvent) → Decidable (connector.EndsAttempt event)
  | .functor _ =>
      inferInstanceAs (Decidable (connector.pendingFunctors.head? = some .stopInLoop))
  | .writable _ _ | .error => .isTrue trivial
  | .start _ _ | .stop | .goesDown | .restart _ | .retryTimer _ _ _ => .isFalse id

instance (connector : Connector) (event : ConnectorEvent) : Decidable (connector.Fails event) :=
  inferInstanceAs (Decidable (_ ∧ _))

def step (attempts : Attempts) (event : ConnectorEvent) : Attempts where
  connector := attempts.connector.step event
  failures :=
    attempts.earlier event + if attempts.connector.Fails event then 1 else 0

/-- The milliseconds that the schedule asks for after so many earlier failures. -/
def scheduleMs (failures : Nat) : Nat :=
  min (500 * 2 ^ failures) 30000

/-- The failure plans one more retry, whose timer runs as many milliseconds later as the schedule
asks for. The clock and the timers count microseconds. -/
def OnSchedule (attempts : Attempts) (event : ConnectorEvent) : Prop :=
  ∃ delay : Nat, (attempts.connector.step event).timers
      = attempts.connector.timersLeft event ++ [delay] ∧
    ∀ now : Int, (TimerKind.runAfter now delay).timer.expiration
      = now + 1000 * scheduleMs (attempts.earlier event)

/-! ### The delay variable -/

theorem scheduleMs_zero : scheduleMs 0 = Connector.kInitRetryDelayMs := by
  decide

theorem scheduleMs_succ (failures : Nat) :
    scheduleMs (failures + 1) = min (scheduleMs failures * 2) Connector.kMaxRetryDelayMs := by
  unfold scheduleMs Connector.kMaxRetryDelayMs
  rw [Nat.pow_succ]
  omega

/-- Doubling stays far inside an `int`. -/
theorem scheduleMs_bounds (failures : Nat) :
    500 ≤ scheduleMs failures ∧ scheduleMs failures * 2 < 2147483648 := by
  have positive : 0 < 2 ^ failures := Nat.two_pow_pos failures
  unfold scheduleMs
  omega

/-- The variable is what the schedule asks for, whatever happens. -/
theorem retryDelayMs_step {attempts : Attempts}
    (kept : attempts.connector.retryDelayMs = scheduleMs attempts.failures)
    (event : ConnectorEvent) :
    attempts.connector.delayFor event = scheduleMs (attempts.earlier event) ∧
      (attempts.step event).connector.retryDelayMs
        = scheduleMs (attempts.step event).failures := by
  have found : attempts.connector.delayFor event = scheduleMs (attempts.earlier event) := by
    cases event with
    | restart errno => exact scheduleMs_zero.symm
    | _ => exact kept
  have plans := attempts.connector.step_plans event
  refine ⟨found, ?_⟩
  by_cases fails : attempts.connector.Fails event
  · have delay := (plans.planned fails).2
    simp only [step, if_pos fails]
    rw [delay, found, scheduleMs_succ]
  · have delay := (plans.unplanned fails).2
    simp only [step, if_neg fails]
    rw [delay, found, Nat.add_zero]

theorem retryDelayMs_run (events : List ConnectorEvent) (attempts : Attempts)
    (kept : attempts.connector.retryDelayMs = scheduleMs attempts.failures) :
    (run step attempts events).connector.retryDelayMs
      = scheduleMs (run step attempts events).failures := by
  induction events generalizing attempts with
  | nil => exact kept
  | cons event rest inductionHypothesis =>
      exact inductionHypothesis _ (retryDelayMs_step kept event).2

/-! ### The timers -/

/-- The timer of a retry runs this many microseconds after the failure. -/
theorem step_timers {attempts : Attempts}
    (kept : attempts.connector.retryDelayMs = scheduleMs attempts.failures)
    {event : ConnectorEvent} (fails : attempts.connector.Fails event) :
    (attempts.connector.step event).timers
      = attempts.connector.timersLeft event ++ [scheduleMs (attempts.earlier event) / 1000] := by
  have planned := ((attempts.connector.step_plans event).planned fails).1
  rw [planned, (retryDelayMs_step kept event).1]

theorem not_onSchedule {attempts : Attempts}
    (kept : attempts.connector.retryDelayMs = scheduleMs attempts.failures)
    {event : ConnectorEvent} (fails : attempts.connector.Fails event) :
    ¬ attempts.OnSchedule event := by
  rintro ⟨delay, timers, expires⟩
  rw [step_timers kept fails] at timers
  have passed : scheduleMs (attempts.earlier event) / 1000 = delay := by
    simpa using timers
  have asked : (delay : Int) = 1000 * scheduleMs (attempts.earlier event) := by
    simpa [TimerKind.timer, Timer.new] using expires 0
  have bounds := scheduleMs_bounds (attempts.earlier event)
  omega

/-- Attempts that fail one after the other, each made by the timer of the one before. -/
def failing (failures : Nat) : List ConnectorEvent :=
  .start true .ECONNREFUSED :: List.replicate failures (.retryTimer 0 true .ECONNREFUSED)

/-- A connector that is to connect, between two attempts. -/
structure Idle (connector : Connector) : Prop where
  connected : connector.connected = true
  state : connector.state = .kDisconnected

theorem idle_retryTimer {connector : Connector} (idle : Idle connector) :
    Idle (connector.step (.retryTimer 0 true .ECONNREFUSED)) := by
  constructor <;>
    simp [Connector.step, Connector.startInLoop, Connector.connect, Connector.retry,
      Connector.createOrDie, Connector.close, idle.connected, idle.state]

theorem idle_fails {connector : Connector} (idle : Idle connector) :
    connector.Fails (.retryTimer 0 true .ECONNREFUSED) :=
  ⟨⟨idle.state, idle.connected, rfl⟩, nofun⟩

/-- Any number of failures is reached, and the next one can follow. -/
theorem failing_failures (failures : Nat) :
    (run step start (failing failures)).failures = failures + 1 ∧
      (run step start (failing failures)).connector.Fails (.retryTimer 0 true .ECONNREFUSED) := by
  have all : ∀ count (attempts : Attempts), Idle attempts.connector →
      Idle (run step attempts
        (List.replicate count (.retryTimer 0 true .ECONNREFUSED))).connector ∧
      (run step attempts (List.replicate count (.retryTimer 0 true .ECONNREFUSED))).failures
        = attempts.failures + count := by
    intro count
    induction count with
    | zero => exact fun attempts idle => ⟨idle, rfl⟩
    | succ count inductionHypothesis =>
        intro attempts idle
        obtain ⟨later, counted⟩ := inductionHypothesis
          (attempts.step (.retryTimer 0 true .ECONNREFUSED)) (idle_retryTimer idle)
        refine ⟨later, counted.trans ?_⟩
        simp only [step, if_pos (idle_fails idle), earlier]
        omega
  have first : Idle (start.step (.start true .ECONNREFUSED)).connector := by
    constructor <;> decide
  have counted : (start.step (.start true .ECONNREFUSED)).failures = 1 := by decide
  obtain ⟨idle, failed⟩ := all failures _ first
  refine ⟨?_, idle_fails idle⟩
  rw [counted] at failed
  exact failed.trans (Nat.add_comm _ _)

/-- After every number of earlier failures the delay variable is the milliseconds of the
schedule, far from overflow, and no failure is retried on schedule. -/
theorem retry_missesSchedule (failures : Nat) :
    (∃ events event, (run step start events).earlier event = failures ∧
      (run step start events).connector.Fails event) ∧
    ∀ events event, (run step start events).earlier event = failures →
      (run step start events).connector.Fails event →
      (run step start events).connector.delayFor event = scheduleMs failures ∧
      scheduleMs failures * 2 < 2147483648 ∧
      ¬ (run step start events).OnSchedule event := by
  constructor
  · cases failures with
    | zero => exact ⟨[], .start true .ECONNREFUSED, rfl, by decide⟩
    | succ failures =>
        obtain ⟨counted, fails⟩ := failing_failures failures
        exact ⟨failing failures, .retryTimer 0 true .ECONNREFUSED, counted, fails⟩
  · rintro events event rfl fails
    have kept := retryDelayMs_run events start rfl
    exact ⟨(retryDelayMs_step kept event).1, (scheduleMs_bounds _).2, not_onSchedule kept fails⟩

/-- The first retry of a refused connection is due at once, not half a second later. -/
theorem retry_atOnce :
    (start.connector.step (.start true .ECONNREFUSED)).timers = [0] ∧
      ¬ start.OnSchedule (.start true .ECONNREFUSED) :=
  ⟨by decide, not_onSchedule rfl (by decide)⟩

end Attempts

end AChat.Net
