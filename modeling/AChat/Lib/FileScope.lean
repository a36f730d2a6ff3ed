import AChat.Lib.Stdio

/-!
Owns the files that a program touches through its streams: as long as it opens only files of a
set, all its streams are on files of the set and all other files stay as they were.
-/

namespace AChat.Lib.Stdio

variable {File : Type}

/-- All streams are on files of the set, and all other files are as they were. -/
structure Within (files : File → Prop) (disk : File → Option Bytes) (stdio : Stdio File) :
    Prop where
  outside : ∀ file, ¬files file → stdio.disk file = disk file
  streams : ∀ fp stream, stdio.streams fp = some stream → files stream.file

namespace Within

variable {files : File → Prop} {disk : File → Option Bytes} {stdio after : Stdio File}

/-- The same streams, and the same disk outside the set. -/
theorem congr (within : Within files disk stdio)
    (same : ∀ fp, (after.streams fp).map Stream.file = (stdio.streams fp).map Stream.file)
    (kept : ∀ file, ¬files file → after.disk file = stdio.disk file) :
    Within files disk after := by
  refine ⟨fun file other => (kept file other).trans (within.outside file other), ?_⟩
  intro fp stream found
  have file := same fp
  rw [found, Option.map_some] at file
  obtain ⟨before, there, onFile⟩ := Option.map_eq_some_iff.mp file.symm
  exact onFile ▸ within.streams fp before there

theorem uses (within : Within files disk stdio) (fp : Nat) : Within files disk (stdio.uses fp) :=
  within.congr (fun _ => rfl) fun _ _ => rfl

theorem moves (within : Within files disk stdio) (fp pos : Nat) :
    Within files disk (stdio.moves fp pos) :=
  within.congr (UsesOnly.moves fp pos stdio).files fun _ _ => rfl

theorem seekSet (within : Within files disk stdio) (fp : Nat) (offset : Int) (succeeds : Bool) :
    Within files disk (stdio.seekSet fp offset succeeds).2 := by
  unfold Stdio.seekSet
  split
  · exact (within.uses fp).moves fp _
  · exact within.uses fp

theorem flush (within : Within files disk stdio) (fp : Nat) (succeeds : Bool) :
    Within files disk (stdio.flush fp succeeds).2 :=
  within.uses fp

theorem seekEnd (within : Within files disk stdio) (fp : Nat) (succeeds : Bool) :
    Within files disk (stdio.seekEnd fp succeeds).2 := by
  unfold Stdio.seekEnd
  split
  · exact (within.uses fp).moves fp _
  · exact within.uses fp

theorem tell (within : Within files disk stdio) (fp : Nat) (succeeds : Bool) :
    Within files disk (stdio.tell fp succeeds).2 :=
  within.uses fp

theorem read (within : Within files disk stdio) (fp size : Nat) (limit : Option Nat) :
    Within files disk (stdio.read fp size limit).2 := by
  unfold Stdio.read
  split
  · exact (within.uses fp).moves fp _
  · exact within.uses fp

theorem close (within : Within files disk stdio) (fp : Nat) :
    Within files disk (stdio.close fp) := by
  refine ⟨within.outside, fun other stream found => ?_⟩
  by_cases same : other = fp
  · simp only [Stdio.close, same, Function.update_self] at found
    cases found
  · simp only [Stdio.close, Function.update_of_ne same] at found
    exact within.streams other stream found

/-- A stream that is opened on a file of the set. -/
theorem opens (within : Within files disk stdio) {stream : Stream File}
    (inSet : files stream.file) : Within files disk (stdio.opens stream) := by
  refine ⟨within.outside, fun other opened found => ?_⟩
  by_cases same : other = stdio.nextFp
  · simp only [Stdio.opens, same, Function.update_self, Option.some.injEq] at found
    exact found ▸ inSet
  · simp only [Stdio.opens, Function.update_of_ne same] at found
    exact within.streams other opened found

theorem openUpdate (within : Within files disk stdio) {file : File} (inSet : files file)
    (succeeds : Bool) : Within files disk (stdio.openUpdate file succeeds).2 := by
  unfold Stdio.openUpdate
  split
  · exact within.opens inSet
  · exact within

variable [DecidableEq File]

/-- The content of a file of the set changes. -/
theorem setContent (within : Within files disk stdio) {file : File} (inSet : files file)
    (content : Option Bytes) :
    Within files disk { stdio with disk := Function.update stdio.disk file content } := by
  refine within.congr (fun _ => rfl) fun other outside => Function.update_of_ne ?_ _ _
  rintro rfl
  exact outside inSet

theorem openWrite (within : Within files disk stdio) {file : File} (inSet : files file)
    (succeeds : Bool) : Within files disk (stdio.openWrite file succeeds).2 := by
  unfold Stdio.openWrite
  split
  · exact (within.setContent inSet (some [])).opens inSet
  · exact within

theorem write (within : Within files disk stdio) (fp : Nat) (data : Bytes) (limit : Option Nat) :
    Within files disk (stdio.write fp data limit).2 := by
  unfold Stdio.write
  split
  · rename_i stream found
    exact ((within.uses fp).moves fp _).setContent (within.streams fp stream found) _
  · exact within.uses fp

end Within

end AChat.Lib.Stdio
