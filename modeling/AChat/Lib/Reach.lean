import Mathlib.Data.List.Basic

/-!
Owns reachability of a deterministic system under a condition on its steps.

A system is a step function `step : State → Event → State`. A condition
`cond : State → Event → Prop` is read in the state before the step. `Reach`
collects the states of all runs whose steps all meet the condition, `Meets`
says that one given run does, and `Always` that a property holds in every state
of one given run. The rules relate the three: an invariant is proved from its
step lemma once, and a property whose step lemma is an equivalence turns into an
equivalence between `Always` and `Meets`.
-/

namespace AChat.Lib

universe u v

variable {State : Type u} {Event : Type v}

/-- States reached from `start` by steps that all meet `cond`. -/
inductive Reach (step : State → Event → State) (cond : State → Event → Prop) (start : State) :
    State → Prop where
  | start : Reach step cond start start
  | step {state : State} {event : Event} :
      Reach step cond start state → cond state event → Reach step cond start (step state event)

/-- Every step of the run `events` from a state meets `cond`. -/
def Meets (step : State → Event → State) (cond : State → Event → Prop) : State → List Event → Prop
  | _, [] => True
  | state, event :: rest => cond state event ∧ Meets step cond (step state event) rest

/-- The final state of a run. -/
def run (step : State → Event → State) : State → List Event → State
  | state, [] => state
  | state, event :: rest => run step (step state event) rest

/-- `property` holds in every state of a run, its first and last included. -/
def Always (step : State → Event → State) (property : State → Prop) : State → List Event → Prop
  | state, [] => property state
  | state, event :: rest => property state ∧ Always step property (step state event) rest

section Rules

variable {step : State → Event → State} {cond : State → Event → Prop} {start : State}

instance Meets.instDecidable [∀ state event, Decidable (cond state event)] :
    ∀ state events, Decidable (Meets step cond state events)
  | _, [] => inferInstanceAs (Decidable True)
  | state, event :: rest =>
      have : Decidable (Meets step cond (step state event) rest) :=
        Meets.instDecidable (step state event) rest
      inferInstanceAs (Decidable (_ ∧ _))

/-- What every step meets, every run meets. -/
theorem meets_of_forall (met : ∀ state event, cond state event) (events : List Event)
    (state : State) : Meets step cond state events := by
  induction events generalizing state with
  | nil => trivial
  | cons event rest inductionHypothesis => exact ⟨met state event, inductionHypothesis _⟩

/-- Nothing is asked of the steps. -/
theorem meets_true (step : State → Event → State) (events : List Event) (state : State) :
    Meets step (fun _ _ => True) state events :=
  meets_of_forall (fun _ _ => trivial) events state

theorem meets_replicate {event : Event} (met : ∀ state, cond state event) (count : Nat)
    (state : State) : Meets step cond state (List.replicate count event) := by
  induction count generalizing state with
  | zero => trivial
  | succ count inductionHypothesis => exact ⟨met state, inductionHypothesis _⟩

theorem run_append (events later : List Event) (state : State) :
    run step state (events ++ later) = run step (run step state events) later := by
  induction events generalizing state with
  | nil => rfl
  | cons event rest inductionHypothesis => exact inductionHypothesis _

theorem meets_append {condition : State → Event → Prop} (events later : List Event)
    (state : State) :
    Meets step condition state (events ++ later) ↔
      Meets step condition state events ∧ Meets step condition (run step state events) later := by
  induction events generalizing state with
  | nil => exact (and_iff_right trivial).symm
  | cons event rest inductionHypothesis =>
      exact (and_congr_right fun _ => inductionHypothesis _).trans and_assoc.symm

/-- The invariance rule. -/
theorem Reach.invariant (property : State → Prop) (initial : property start)
    (preserved : ∀ state event, property state → cond state event → property (step state event))
    {state : State} (reach : Reach step cond start state) : property state := by
  induction reach with
  | start => exact initial
  | step _ met inductionHypothesis => exact preserved _ _ inductionHypothesis met

theorem Reach.run_append {state : State} (reach : Reach step cond start state)
    (events : List Event) (meets : Meets step cond state events) :
    Reach step cond start (run step state events) := by
  induction events generalizing state with
  | nil => exact reach
  | cons event rest inductionHypothesis =>
      exact inductionHypothesis (.step reach meets.1) meets.2

/-- A run whose steps meet the condition ends in a reached state. -/
theorem reach_run (events : List Event) (meets : Meets step cond start events) :
    Reach step cond start (run step start events) :=
  Reach.start.run_append events meets

theorem Always.head {property : State → Prop} {state : State} {events : List Event}
    (always : Always step property state events) : property state := by
  cases events with
  | nil => exact always
  | cons event rest => exact always.1

theorem Always.last {property : State → Prop} {events : List Event} {state : State}
    (always : Always step property state events) : property (run step state events) := by
  induction events generalizing state with
  | nil => exact always
  | cons event rest inductionHypothesis => exact inductionHypothesis always.2

/-- What an invariant implies holds all along a run. -/
theorem Meets.always {invariant property : State → Prop}
    (kept : ∀ state event, invariant state → cond state event → invariant (step state event))
    (implied : ∀ state, invariant state → property state) {events : List Event} {state : State}
    (meets : Meets step cond state events) (initial : invariant state) :
    Always step property state events := by
  induction events generalizing state with
  | nil => exact implied state initial
  | cons event rest inductionHypothesis =>
      exact ⟨implied state initial, inductionHypothesis meets.2 (kept _ _ initial meets.1)⟩

/-- A property that a step keeps exactly when the step meets `cond` holds all
along a run exactly when all steps of the run meet `cond`. `guard` is what the
environment promises of every step, and the step lemma may use an invariant of
the runs that keep the property. -/
theorem always_iff_meets {invariant property : State → Prop} {guard : State → Event → Prop}
    (exact_step : ∀ state event, invariant state → guard state event →
      (property (step state event) ↔ cond state event))
    (kept : ∀ state event, invariant state → guard state event → cond state event →
      invariant (step state event))
    (implied : ∀ state, invariant state → property state)
    (events : List Event) {state : State} (initial : invariant state)
    (guarded : Meets step guard state events) :
    Always step property state events ↔ Meets step cond state events := by
  induction events generalizing state with
  | nil => exact ⟨fun _ => trivial, fun _ => implied state initial⟩
  | cons event rest inductionHypothesis =>
      have here := exact_step state event initial guarded.1
      constructor
      · intro always
        have met := here.mp always.2.head
        have after := kept state event initial guarded.1 met
        exact ⟨met, (inductionHypothesis after guarded.2).mp always.2⟩
      · intro meets
        have after := kept state event initial guarded.1 meets.1
        exact ⟨implied state initial, (inductionHypothesis after guarded.2).mpr meets.2⟩

end Rules

end AChat.Lib
