import Mathlib.Data.List.Basic

/-!
Owns the law of a retry schedule over a trace.

A trace lists, newest first, the ticks of a clock with whether an attempt was made at the tick,
the failures and the successes. A schedule gives each number of consecutive failures the ticks
until the next attempt. `KeepsSchedule` is the law. `Settled` and `Waiting` are the two shapes of
a trace that keeps it: every failure has had its next attempt, or the last one waits for it.
-/

namespace AChat.Lib.BackOff

inductive Happening where
  | tick (attempted : Bool)
  | failure
  | success
deriving DecidableEq, Repr

/-- Consecutive failures since the last success. -/
def streak : List Happening → Nat
  | [] => 0
  | .tick _ :: earlier => streak earlier
  | .failure :: earlier => streak earlier + 1
  | .success :: _ => 0

/-- What came after a failure has its first attempt at the tick of number `ticks`, or has fewer
ticks and no attempt. -/
def Answered (ticks : Nat) (later : List Happening) : Prop :=
  (.tick true ∉ later → later.count (.tick false) < ticks) ∧
    ∀ after between, later = after ++ .tick true :: between → .tick true ∉ between →
      between.count (.tick false) + 1 = ticks

section Schedule

variable (delay : Nat → Nat)

/-- The `k`-th consecutive failure is followed by an attempt after exactly `delay k` ticks. -/
def KeepsSchedule (trace : List Happening) : Prop :=
  ∀ later earlier, trace = later ++ .failure :: earlier →
    Answered (delay (streak earlier + 1)) later

/-- Every failure has had its next attempt, in time. -/
def Settled (trace : List Happening) : Prop :=
  ∀ later earlier, trace = later ++ .failure :: earlier →
    .tick true ∈ later ∧ Answered (delay (streak earlier + 1)) later

/-- Only ticks, that many of them, have come after the last failure. -/
inductive Waiting : Nat → List Happening → Prop where
  | failure {trace : List Happening} : Settled delay trace → Waiting 0 (.failure :: trace)
  | tick {ticks : Nat} {trace : List Happening} :
      Waiting ticks trace → Waiting (ticks + 1) (.tick false :: trace)

end Schedule

section Rules

variable {delay : Nat → Nat} {ticks : Nat} {trace : List Happening}

@[simp] theorem streak_tick (attempted : Bool) (trace : List Happening) :
    streak (.tick attempted :: trace) = streak trace := rfl

/-- Once the attempt was made, nothing that happens changes when it was. -/
theorem Answered.cons {later : List Happening} (answered : Answered ticks later)
    (attempted : .tick true ∈ later) (happening : Happening) :
    Answered ticks (happening :: later) := by
  constructor
  · intro absent
    exact absurd (List.mem_cons_of_mem _ attempted) absent
  · intro after between split first
    cases after with
    | nil =>
        obtain ⟨_, rest⟩ := List.cons.inj split
        exact absurd (rest ▸ attempted) first
    | cons newest after =>
        obtain ⟨_, rest⟩ := List.cons.inj split
        exact answered.2 after between rest first

theorem settled_nil : Settled delay [] := by
  intro later earlier split
  simp at split

theorem Settled.cons (settled : Settled delay trace) {happening : Happening}
    (other : happening ≠ .failure) : Settled delay (happening :: trace) := by
  intro later earlier split
  cases later with
  | nil =>
      exact absurd (List.cons.inj split).1 other
  | cons newest later =>
      obtain ⟨_, rest⟩ := List.cons.inj split
      obtain ⟨attempted, answered⟩ := settled later earlier rest
      exact ⟨List.mem_cons_of_mem _ attempted, answered.cons attempted newest⟩

theorem Settled.keepsSchedule (settled : Settled delay trace) : KeepsSchedule delay trace :=
  fun later earlier split => (settled later earlier split).2

/-- A failure of a waiting trace is the last one, with nothing but the ticks after it, or has had
its attempt. -/
theorem Waiting.split (waiting : Waiting delay ticks trace) {later earlier : List Happening}
    (split : trace = later ++ .failure :: earlier) :
    (later = List.replicate ticks (.tick false) ∧ streak trace = streak earlier + 1) ∨
      (.tick true ∈ later ∧ Answered (delay (streak earlier + 1)) later) := by
  induction waiting generalizing later with
  | failure settled =>
      cases later with
      | nil =>
          obtain ⟨_, rfl⟩ := List.cons.inj split
          exact .inl ⟨rfl, rfl⟩
      | cons newest later =>
          obtain ⟨_, rest⟩ := List.cons.inj split
          obtain ⟨attempted, answered⟩ := settled later earlier rest
          exact .inr ⟨List.mem_cons_of_mem _ attempted, answered.cons attempted newest⟩
  | tick waiting inductionHypothesis =>
      cases later with
      | nil => simp at split
      | cons newest later =>
          obtain ⟨rfl, rest⟩ := List.cons.inj split
          rcases inductionHypothesis rest with ⟨only, failures⟩ | ⟨attempted, answered⟩
          · rw [only, List.replicate_succ]
            exact .inl ⟨rfl, failures⟩
          · exact .inr ⟨List.mem_cons_of_mem _ attempted, answered.cons attempted _⟩

/-- The last failure of a waiting trace. -/
theorem Waiting.last (waiting : Waiting delay ticks trace) :
    ∃ earlier, trace = List.replicate ticks (.tick false) ++ .failure :: earlier ∧
      streak trace = streak earlier + 1 := by
  induction waiting with
  | failure settled => exact ⟨_, rfl, rfl⟩
  | tick waiting inductionHypothesis =>
      obtain ⟨earlier, trace_eq, failures⟩ := inductionHypothesis
      exact ⟨earlier, by rw [trace_eq, List.replicate_succ, List.cons_append], failures⟩

theorem tick_true_not_mem_replicate (ticks : Nat) :
    Happening.tick true ∉ List.replicate ticks (.tick false) := by
  simp [List.mem_replicate]

theorem answered_replicate {wait : Nat} :
    Answered wait (List.replicate ticks (.tick false)) ↔ ticks < wait := by
  constructor
  · intro answered
    simpa using answered.1 (tick_true_not_mem_replicate ticks)
  · intro early
    constructor
    · intro _
      simpa using early
    · intro after between split first
      have attempted : Happening.tick true ∈ List.replicate ticks (.tick false) := by
        rw [split]
        simp
      exact absurd attempted (tick_true_not_mem_replicate ticks)

/-- A trace that waits keeps the schedule as long as the attempt is not overdue. -/
theorem Waiting.keepsSchedule_iff (waiting : Waiting delay ticks trace) :
    KeepsSchedule delay trace ↔ ticks < delay (streak trace) := by
  constructor
  · intro keeps
    obtain ⟨earlier, trace_eq, failures⟩ := waiting.last
    rw [failures]
    exact answered_replicate.mp (keeps _ earlier trace_eq)
  · intro early later earlier split
    rcases waiting.split split with ⟨only, failures⟩ | ⟨_, answered⟩
    · rw [only, ← failures]
      exact answered_replicate.mpr early
    · exact answered

/-- The attempt at the right tick settles the trace. -/
theorem Waiting.attempt (waiting : Waiting delay ticks trace)
    (due : ticks + 1 = delay (streak trace)) : Settled delay (.tick true :: trace) := by
  intro later earlier split
  cases later with
  | nil => simp at split
  | cons newest later =>
      obtain ⟨rfl, rest⟩ := List.cons.inj split
      rcases waiting.split rest with ⟨only, failures⟩ | ⟨attempted, answered⟩
      · rw [only, ← failures]
        refine ⟨List.mem_cons_self, fun absent => absurd List.mem_cons_self absent, ?_⟩
        intro after between same first
        cases after with
        | nil =>
            obtain ⟨_, rfl⟩ := List.cons.inj same
            simpa using due
        | cons other after =>
            obtain ⟨_, ticksOnly⟩ := List.cons.inj same
            have attempted : Happening.tick true ∈ List.replicate ticks (.tick false) := by
              rw [ticksOnly]
              simp
            exact absurd attempted (tick_true_not_mem_replicate ticks)
      · exact ⟨List.mem_cons_self, answered.cons attempted _⟩

end Rules

end AChat.Lib.BackOff
