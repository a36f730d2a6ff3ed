import AChat.Lib.Stdio

/-!
Owns the frame rule of C streams: a call on one stream leaves every other stream as it is, and
a `FILE` pointer that was not given out yet is on nothing.
-/

namespace AChat.Lib.Stdio

universe u

variable {File : Type u}

/-- Nothing but this stream was worked on. -/
structure Touches (fp : Nat) (before after : Stdio File) : Prop where
  nextFp : after.nextFp = before.nextFp
  others : ∀ other, other ≠ fp → after.streams other = before.streams other
  absent : before.streams fp = none → after.streams fp = none

/-- The pointers that will be given out are on nothing. -/
def Fresh (stdio : Stdio File) : Prop :=
  ∀ fp, stdio.nextFp ≤ fp → stdio.streams fp = none

namespace Touches

variable {fp : Nat} {before middle after : Stdio File}

theorem trans (first : Touches fp before middle) (second : Touches fp middle after) :
    Touches fp before after where
  nextFp := second.nextFp.trans first.nextFp
  others other apart := (second.others other apart).trans (first.others other apart)
  absent closed := second.absent (first.absent closed)

theorem uses (fp : Nat) (stdio : Stdio File) : Touches fp stdio (stdio.uses fp) :=
  ⟨rfl, fun _ _ => rfl, fun closed => closed⟩

theorem moves (fp pos : Nat) (stdio : Stdio File) : Touches fp stdio (stdio.moves fp pos) where
  nextFp := rfl
  others _ apart := Function.update_of_ne apart ..
  absent closed := by simp [Stdio.moves, closed]

theorem close (fp : Nat) (stdio : Stdio File) : Touches fp stdio (stdio.close fp) where
  nextFp := rfl
  others _ apart := Function.update_of_ne apart ..
  absent _ := Function.update_self ..

theorem seekSet (fp : Nat) (stdio : Stdio File) (offset : Int) (succeeds : Bool) :
    Touches fp stdio (stdio.seekSet fp offset succeeds).2 := by
  unfold Stdio.seekSet
  split
  · exact (uses fp stdio).trans (moves fp _ _)
  · exact uses fp stdio

theorem seekEnd (fp : Nat) (stdio : Stdio File) (succeeds : Bool) :
    Touches fp stdio (stdio.seekEnd fp succeeds).2 := by
  unfold Stdio.seekEnd
  split
  · exact (uses fp stdio).trans (moves fp _ _)
  · exact uses fp stdio

theorem read (fp : Nat) (stdio : Stdio File) (size : Nat) (limit : Option Nat) :
    Touches fp stdio (stdio.read fp size limit).2 := by
  unfold Stdio.read
  split
  · exact (uses fp stdio).trans (moves fp _ _)
  · exact uses fp stdio

theorem write [DecidableEq File] (fp : Nat) (stdio : Stdio File) (data : Bytes)
    (limit : Option Nat) : Touches fp stdio (stdio.write fp data limit).2 := by
  unfold Stdio.write
  split
  · have moved : ∀ pos, Touches fp stdio ((stdio.uses fp).moves fp pos) :=
      fun pos => (uses fp stdio).trans (moves fp pos _)
    exact ⟨rfl, (moved _).others, (moved _).absent⟩
  · exact uses fp stdio

theorem fresh (touches : Touches fp before after) (fresh : before.Fresh) : after.Fresh := by
  intro other later
  rw [touches.nextFp] at later
  have closed := fresh other later
  by_cases same : other = fp
  · subst same
    exact touches.absent closed
  · rw [touches.others other same]
    exact closed

end Touches

theorem Fresh.opens {stdio : Stdio File} (fresh : stdio.Fresh) (stream : Stream File) :
    (stdio.opens stream).Fresh := by
  intro fp later
  simp only [Stdio.opens] at later ⊢
  rw [Function.update_of_ne (by omega)]
  exact fresh fp (by omega)

theorem opens_streams (stdio : Stdio File) (stream : Stream File) {fp : Nat}
    (given : fp < stdio.nextFp) : (stdio.opens stream).streams fp = stdio.streams fp :=
  Function.update_of_ne (by omega) ..

end AChat.Lib.Stdio
