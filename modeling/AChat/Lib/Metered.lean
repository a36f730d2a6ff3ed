import AChat.Lib.Reach

/-!
Owns quotas that are renewed, of a system whose steps spend something.

A meter never shows less than what was spent since it was renewed, and never more than the limit.
So a run spends at most the limit for each time that the meter is renewed, and once more.
-/

namespace AChat.Lib

universe u v

variable {State : Type u} {Event : Type v}

/-- What the steps of a run spend. -/
def spentBy (step : State → Event → State) (spent : State → Event → Nat) :
    State → List Event → Nat
  | _, [] => 0
  | state, event :: rest => spent state event + spentBy step spent (step state event) rest

/-- The meter stays within the limit, an event spends no more than the meter goes up by, and an
event that renews the meter spends nothing. -/
structure Metered (step : State → Event → State) (cond : State → Event → Prop)
    (spent : State → Event → Nat) (renews : Event → Bool) (meter : State → Nat) (limit : Nat) :
    Prop where
  within : ∀ {state event}, cond state event → meter state ≤ limit →
    meter (step state event) ≤ limit
  counts : ∀ {state event}, cond state event → meter state ≤ limit → renews event = false →
    meter state + spent state event ≤ meter (step state event)
  renewed : ∀ {state event}, cond state event → renews event = true → spent state event = 0

namespace Metered

variable {step : State → Event → State} {cond : State → Event → Prop}
  {spent : State → Event → Nat} {renews : Event → Bool} {meter : State → Nat} {limit : Nat}

theorem spentBy_le (metered : Metered step cond spent renews meter limit) {events : List Event}
    {state : State} (met : Meets step cond state events) (within : meter state ≤ limit) :
    meter state + spentBy step spent state events ≤ limit * (events.countP renews + 1) := by
  induction events generalizing state with
  | nil =>
      rw [spentBy, List.countP_nil]
      omega
  | cons event rest inductionHypothesis =>
      have later := inductionHypothesis met.2 (metered.within met.1 within)
      rw [spentBy]
      cases renewed : renews event with
      | false =>
          have counted := metered.counts met.1 within renewed
          rw [List.countP_cons_of_neg (ne_true_of_eq_false renewed)]
          omega
      | true =>
          rw [metered.renewed met.1 renewed, List.countP_cons_of_pos renewed]
          calc
            meter state + (0 + spentBy step spent (step state event) rest)
                ≤ limit + limit * (rest.countP renews + 1) := by omega
            _ = limit * (rest.countP renews + 1) + limit := Nat.add_comm _ _
            _ = limit * (rest.countP renews + 1 + 1) := (Nat.mul_succ _ _).symm

end Metered

end AChat.Lib
