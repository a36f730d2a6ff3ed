import AChat.Lib.Prog

/-!
Owns the paths through a program whose operations may be answered in more than one way: what
they return and leave in the store, how they go through a sequence, and what every one of
their steps keeps to.
-/

namespace AChat.Lib

namespace Prog

variable {Op : Type} {Reply : Op → Type} {Store α β : Type}
  (acts : Store → (op : Op) → Reply op → Store → Prop)

/-- A path through the program, from a store to a result and the store that it leaves. -/
def Runs : Prog Op Reply α → Store → α → Store → Prop
  | .done value, store, result, later => result = value ∧ later = store
  | .call op next, store, result, later =>
      ∃ reply between, acts store op reply between ∧ (next reply).Runs between result later

variable {acts}

theorem runs_perform_bind {op : Op} {next : Reply op → Prog Op Reply α} {store later : Store}
    {result : α} :
    (perform op >>= next).Runs acts store result later ↔
      ∃ reply between, acts store op reply between ∧ (next reply).Runs acts between result later :=
  Iff.rfl

theorem runs_bind {prog : Prog Op Reply α} {next : α → Prog Op Reply β} {store later : Store}
    {result : β} :
    (prog >>= next).Runs acts store result later ↔
      ∃ value between, prog.Runs acts store value between ∧
        (next value).Runs acts between result later := by
  induction prog generalizing store with
  | done value =>
      constructor
      · exact fun rest => ⟨value, store, ⟨rfl, rfl⟩, rest⟩
      · rintro ⟨_, _, ⟨rfl, rfl⟩, rest⟩
        exact rest
  | call op continuation inductionHypothesis =>
      constructor
      · rintro ⟨reply, middle, acted, rest⟩
        obtain ⟨value, between, first, second⟩ := (inductionHypothesis reply).mp rest
        exact ⟨value, between, ⟨reply, middle, acted, first⟩, second⟩
      · rintro ⟨value, between, ⟨reply, middle, acted, first⟩, second⟩
        exact ⟨reply, middle, acted,
          (inductionHypothesis reply).mpr ⟨value, between, first, second⟩⟩

/-- What every operation keeps to, every path keeps to. -/
theorem Runs.keeps (relation : Store → Store → Prop) (refl : ∀ store, relation store store)
    (trans : ∀ {first second third}, relation first second → relation second third →
      relation first third)
    (step : ∀ {store op reply later}, acts store op reply later → relation store later)
    {prog : Prog Op Reply α} {store later : Store} {result : α}
    (runs : prog.Runs acts store result later) : relation store later := by
  induction prog generalizing store with
  | done value =>
      obtain ⟨_, rfl⟩ := runs
      exact refl _
  | call op next inductionHypothesis =>
      obtain ⟨reply, between, acted, rest⟩ := runs
      exact trans (step acted) (inductionHypothesis reply rest)

end Prog

end AChat.Lib
