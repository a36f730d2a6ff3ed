import Mathlib.Data.Nat.Find

/-!
Owns loops that are left from inside: what it means that a loop is left with a result, the
rule for a loop that is never left, loops that search a stream of tries, and loops that come
with a measure, which have a result from every state.
-/

namespace AChat.Lib

/-- What one turn of a loop ends in. -/
inductive Turn (State Result : Type) where
  | again (state : State)
  | leave (result : Result)
deriving DecidableEq, Repr

variable {State Result : Type}

/-- The loop is left with this result. -/
inductive Leaves (turn : State → Turn State Result) : State → Result → Prop where
  | leave {state : State} {result : Result} :
      turn state = .leave result → Leaves turn state result
  | again {state next : State} {result : Result} :
      turn state = .again next → Leaves turn next result → Leaves turn state result

section Rules

variable {turn : State → Turn State Result} {state : State} {result : Result}

/-- A loop has at most one result. -/
theorem Leaves.unique {other : Result} (first : Leaves turn state result)
    (second : Leaves turn state other) : result = other := by
  induction first with
  | leave left =>
      cases second with
      | leave also => exact Turn.leave.inj (left.symm.trans also)
      | again also _ => cases left.symm.trans also
  | again goes _ inductionHypothesis =>
      cases second with
      | leave also => cases goes.symm.trans also
      | again also rest =>
          cases goes.symm.trans also
          exact inductionHypothesis rest

/-- A loop that goes on under an invariant is never left. -/
theorem not_leaves {invariant : State → Prop}
    (stays : ∀ state, invariant state → ∃ next, turn state = .again next ∧ invariant next)
    (initial : invariant state) : ¬Leaves turn state result := by
  intro left
  induction left with
  | leave leaves =>
      obtain ⟨next, goes, _⟩ := stays _ initial
      cases goes.symm.trans leaves
  | again goes _ inductionHypothesis =>
      obtain ⟨next, also, kept⟩ := stays _ initial
      cases goes.symm.trans also
      exact inductionHypothesis kept

end Rules

/-! ### Loops that search -/

/-- One try: it gives a result, or the next one is made. -/
def seek (test : Nat → Option Result) (trial : Nat) : Turn Nat Result :=
  match test trial with
  | some result => .leave result
  | none => .again (trial + 1)

section Search

variable {test : Nat → Option Result} {result : Result}

/-- The try that ends a search: the first that is not passed over. -/
def EndsSearch (test : Nat → Option Result) (start last : Nat) : Prop :=
  start ≤ last ∧ test last ≠ none ∧ ∀ earlier, start ≤ earlier → earlier < last →
    test earlier = none

/-- A search gives the result of the try that ends it. -/
theorem leaves_seek_iff {start : Nat} :
    Leaves (seek test) start result ↔
      ∃ last, EndsSearch test start last ∧ test last = some result := by
  constructor
  · intro left
    induction left with
    | @leave trial result leaves =>
        unfold seek at leaves
        split at leaves
        · rename_i found
          cases leaves
          exact ⟨trial, ⟨Nat.le_refl _, by simp [found], fun earlier after before => by omega⟩, found⟩
        · cases leaves
    | @again trial next result goes _ inductionHypothesis =>
        unfold seek at goes
        split at goes
        · cases goes
        · rename_i passed
          cases goes
          obtain ⟨last, ⟨later, hit, first⟩, found⟩ := inductionHypothesis
          refine ⟨last, ⟨by omega, hit, fun earlier after before => ?_⟩, found⟩
          rcases Nat.eq_or_lt_of_le after with rfl | further
          · exact passed
          · exact first earlier further before
  · rintro ⟨last, ⟨after, _, first⟩, found⟩
    -- Induction on the tries that are passed over.
    induction distance : last - start generalizing start with
    | zero =>
        have here : start = last := by omega
        exact .leave (by rw [here, seek, found])
    | succ distance inductionHypothesis =>
        have passed : test start = none := first start (Nat.le_refl _) (by omega)
        exact .again (by rw [seek, passed]) (inductionHypothesis (by omega)
          (fun earlier later before => first earlier (by omega) before) (by omega))

/-- A search in which some try gives a result ends. -/
theorem exists_endsSearch {start trial : Nat} (after : start ≤ trial) (hit : test trial ≠ none) :
    ∃ last, EndsSearch test start last := by
  classical
  have hits : ∃ trial, start ≤ trial ∧ test trial ≠ none := ⟨trial, after, hit⟩
  obtain ⟨later, found⟩ := Nat.find_spec hits
  refine ⟨Nat.find hits, later, found, ?_⟩
  intro earlier notBefore before
  by_contra also
  exact Nat.find_min hits before ⟨notBefore, also⟩

end Search

/-! ### Loops with a measure -/

/-- The result within this many turns. -/
def turns (turn : State → Turn State Result) : Nat → State → Option Result
  | 0, _ => none
  | count + 1, state =>
      match turn state with
      | .leave result => some result
      | .again next => turns turn count next

theorem leaves_of_turns {turn : State → Turn State Result} {result : Result} (count : Nat)
    {state : State} (within : turns turn count state = some result) :
    Leaves turn state result := by
  induction count generalizing state with
  | zero => cases within
  | succ count inductionHypothesis =>
      rw [turns] at within
      split at within
      · rename_i leaves
        cases within
        exact .leave leaves
      · rename_i goes
        exact .again goes (inductionHypothesis within)

/-- A loop whose measure falls with every turn. -/
structure Loop (State Result : Type) where
  turn : State → Turn State Result
  measure : State → Nat
  decreases : ∀ state next, turn state = .again next → measure next < measure state

namespace Loop

variable (loop : Loop State Result)

theorem turns_isSome (count : Nat) {state : State} (enough : loop.measure state < count) :
    (turns loop.turn count state).isSome = true := by
  induction count generalizing state with
  | zero => omega
  | succ count inductionHypothesis =>
      rw [turns]
      split
      · rfl
      · rename_i next goes
        have falls := loop.decreases state next goes
        exact inductionHypothesis (by omega)

/-- The result of the loop. -/
def result (state : State) : Result :=
  (turns loop.turn (loop.measure state + 1) state).get
    (loop.turns_isSome _ (Nat.lt_succ_self _))

/-- The loop is left from every state. -/
theorem leaves (state : State) : Leaves loop.turn state (loop.result state) :=
  leaves_of_turns (loop.measure state + 1) (Option.some_get _).symm

end Loop

end AChat.Lib
