import AChat.Lib.Stdio

/-!
Owns the discipline of handles, read off the log of what was done with them: which
handles are open, that at most one is at a time, and that only open ones are used.

`Tracks log current next` says that a log keeps the discipline, that `current` is
the open handle and that handles from `next` on are fresh.
-/

namespace AChat.Lib

/-- The handle was opened and not closed. -/
def IsOpen (log : List FileOp) (fp : Nat) : Prop :=
  .opened fp ∈ log ∧ .closed fp ∉ log

/-- At no time two handles are open. -/
def OneAtATime (log : List FileOp) : Prop :=
  ∀ before, before <+: log → ∀ left right, IsOpen before left → IsOpen before right → left = right

/-- A handle is open when it is used, and when it is closed. -/
def UsesOpen (log : List FileOp) : Prop :=
  ∀ before fp, before ++ [.used fp] <+: log ∨ before ++ [.closed fp] <+: log → IsOpen before fp

/-- Every handle that was opened was closed exactly once. -/
def ClosedOnce (log : List FileOp) : Prop :=
  ∀ fp, .opened fp ∈ log → log.count (.closed fp) = 1

structure Tracks (log : List FileOp) (current : Option Nat) (next : Nat) : Prop where
  isOpen : ∀ fp, IsOpen log fp ↔ current = some fp
  fresh : ∀ fp, .opened fp ∈ log ∨ .closed fp ∈ log → fp < next
  oneAtATime : OneAtATime log
  usesOpen : UsesOpen log
  closedOnce : ∀ fp, .opened fp ∈ log → current ≠ some fp → log.count (.closed fp) = 1

namespace Tracks

variable {log : List FileOp} {current : Option Nat} {next fp : Nat}

theorem nil : Tracks [] none 0 where
  isOpen := by simp [IsOpen]
  fresh := by simp
  oneAtATime := by
    intro before isPrefix left _ isOpen
    rw [List.prefix_nil.mp isPrefix] at isOpen
    cases isOpen.1
  usesOpen := by
    intro before fp isPrefix
    simp at isPrefix
  closedOnce := by simp

/-- A longer log has at most one handle open at a time if it has so at its end. -/
theorem oneAtATime_concat {op : FileOp} (oneAtATime : OneAtATime log)
    (last : ∀ left right, IsOpen (log ++ [op]) left → IsOpen (log ++ [op]) right → left = right) :
    OneAtATime (log ++ [op]) := by
  intro before isPrefix
  cases List.prefix_concat_iff.mp isPrefix with
  | inl whole =>
      rw [whole]
      exact last
  | inr part => exact oneAtATime before part

/-- A longer log uses open handles only if its last operation does. -/
theorem usesOpen_concat {op : FileOp} (usesOpen : UsesOpen log)
    (last : ∀ fp, op = .used fp ∨ op = .closed fp → IsOpen log fp) : UsesOpen (log ++ [op]) := by
  intro before fp isPrefix
  cases isPrefix with
  | inl used =>
      cases List.prefix_concat_iff.mp used with
      | inl whole =>
          obtain ⟨same, lastOp⟩ := List.append_inj' whole rfl
          rw [same]
          exact last fp (Or.inl (List.cons.inj lastOp).1.symm)
      | inr part => exact usesOpen before fp (Or.inl part)
  | inr closed =>
      cases List.prefix_concat_iff.mp closed with
      | inl whole =>
          obtain ⟨same, lastOp⟩ := List.append_inj' whole rfl
          rw [same]
          exact last fp (Or.inr (List.cons.inj lastOp).1.symm)
      | inr part => exact usesOpen before fp (Or.inr part)

theorem opened (tracks : Tracks log none next) :
    Tracks (log ++ [.opened next]) (some next) (next + 1) := by
  have unknown : ∀ fp, .opened fp ∈ log ∨ .closed fp ∈ log → fp ≠ next :=
    fun fp known => Nat.ne_of_lt (tracks.fresh fp known)
  have isOpen : ∀ fp, IsOpen (log ++ [.opened next]) fp ↔ some next = some fp := by
    intro fp
    have before := tracks.isOpen fp
    have after := unknown fp
    unfold IsOpen at before ⊢
    simp only [List.mem_append, List.mem_singleton, FileOp.opened.injEq, reduceCtorEq, or_false,
      Option.some.injEq] at before ⊢
    grind
  refine ⟨isOpen, ?_, oneAtATime_concat tracks.oneAtATime ?_,
    usesOpen_concat tracks.usesOpen (by simp), ?_⟩
  · intro fp known
    have before := tracks.fresh fp
    simp only [List.mem_append, List.mem_singleton, FileOp.opened.injEq, reduceCtorEq,
      or_false] at known
    grind
  · intro left right leftOpen rightOpen
    exact Option.some.inj (((isOpen left).mp leftOpen).symm.trans ((isOpen right).mp rightOpen))
  · intro fp known current
    have before := tracks.closedOnce fp
    simp only [List.mem_append, List.mem_singleton, FileOp.opened.injEq] at known
    simp only [List.count_append, List.count_singleton]
    grind

theorem used (tracks : Tracks log (some fp) next) : Tracks (log ++ [.used fp]) (some fp) next := by
  have isOpen : ∀ other, IsOpen (log ++ [.used fp]) other ↔ IsOpen log other := by
    intro other
    simp [IsOpen]
  refine ⟨fun other => (isOpen other).trans (tracks.isOpen other), ?_,
    oneAtATime_concat tracks.oneAtATime ?_, usesOpen_concat tracks.usesOpen ?_, ?_⟩
  · intro other known
    exact tracks.fresh other (by simpa using known)
  · intro left right leftOpen rightOpen
    exact tracks.oneAtATime log (List.prefix_refl log) left right ((isOpen left).mp leftOpen)
      ((isOpen right).mp rightOpen)
  · intro other last
    apply (tracks.isOpen other).mpr
    cases last with
    | inl used => rw [FileOp.used.inj used]
    | inr closed => cases closed
  · intro other known current
    have before := tracks.closedOnce other (by simpa using known) current
    simpa [List.count_append, List.count_singleton] using before

theorem uses (tracks : Tracks log (some fp) next) (count : Nat) :
    Tracks (log ++ List.replicate count (.used fp)) (some fp) next := by
  induction count with
  | zero => simpa using tracks
  | succ count inductionHypothesis =>
      rw [List.replicate_succ', ← List.append_assoc]
      exact inductionHypothesis.used

theorem closed (tracks : Tracks log (some fp) next) : Tracks (log ++ [.closed fp]) none next := by
  have current : IsOpen log fp := (tracks.isOpen fp).mpr rfl
  have isOpen : ∀ other, ¬IsOpen (log ++ [.closed fp]) other := by
    intro other after
    have before := tracks.isOpen other
    unfold IsOpen at before after
    simp only [List.mem_append, List.mem_singleton, reduceCtorEq, or_false,
      FileOp.closed.injEq, Option.some.injEq] at before after
    grind
  refine ⟨?_, ?_, oneAtATime_concat tracks.oneAtATime ?_, usesOpen_concat tracks.usesOpen ?_, ?_⟩
  · intro other
    simp [isOpen other]
  · intro other known
    have before := tracks.fresh other
    have known' := tracks.fresh fp (Or.inl current.1)
    simp only [List.mem_append, List.mem_singleton, FileOp.closed.injEq, reduceCtorEq,
      or_false] at known
    grind
  · intro left _ leftOpen
    exact absurd leftOpen (isOpen left)
  · intro other last
    cases last with
    | inl used => cases used
    | inr closed =>
        rw [← FileOp.closed.inj closed]
        exact current
  · intro other known _
    have opened : FileOp.opened other ∈ log := by simpa using known
    rw [List.count_append, List.count_singleton]
    by_cases same : fp = other
    · rw [← same, List.count_eq_zero.mpr current.2]
      simp
    · have before := tracks.closedOnce other opened (by simpa using same)
      simpa [same] using before

/-- Opening a second handle breaks the discipline, whatever follows. -/
theorem not_oneAtATime (tracks : Tracks log (some fp) next) (rest : List FileOp) :
    ¬OneAtATime (log ++ [.opened next] ++ rest) := by
  intro oneAtATime
  have current := (tracks.isOpen fp).mpr rfl
  have known := tracks.fresh fp (Or.inl current.1)
  have unknown : FileOp.closed next ∉ log :=
    fun closed => Nat.lt_irrefl next (tracks.fresh next (Or.inr closed))
  have same := oneAtATime (log ++ [.opened next]) (List.prefix_append _ rest) fp next
    ⟨by simp [current.1], by simp [current.2]⟩ ⟨by simp, by simp [unknown]⟩
  omega

end Tracks

end AChat.Lib
