import AChat.Net.StreamReaderBounds

/-!
Contract: where a read that fails leaves the cursor.

The readers of a string, and the reader of an integer of 8 bytes, which goes through a
string, move the cursor behind the length before they look whether the string is there. A
string that is cut off moves the cursor. Every other failure leaves it where it was.
-/

namespace AChat.Net

open Lib

namespace BinaryStreamReader

/-- The next bytes are a length that is accepted and less than as many bytes. -/
def CutAt (reader : BinaryStreamReader) (accepts : Nat → Bool) : Prop :=
  ∃ head rest fieldlen, Ended head ∧ head.length ≤ 5 ∧ read7BitEncoded head = .ok fieldlen ∧
    reader.data.drop reader.cur = head ++ rest ∧ accepts fieldlen = true ∧
    rest.length < fieldlen

namespace ReadOp

/-- A string that the call takes for one it has room for is cut off. -/
def Cut (reader : BinaryStreamReader) : ReadOp → Prop
  | .readCString strlen => reader.CutAt fun fieldlen => decide (fieldlen ≤ strlen)
  | .readString maxlen | .readCCString maxlen =>
      reader.CutAt fun fieldlen => decide (maxlen = 0 ∨ fieldlen ≤ maxlen)
  | .readInt64 _ => reader.CutAt fun fieldlen => decide (fieldlen ≤ 128)
  | .readInt32 | .readShort | .readChar | .readLength | .readLengthWithoutOffset
  | .readAll _ | .isEnd => False

end ReadOp

/-- A failure leaves the cursor where it was. -/
def FailsInPlace {α : Type} (reader : BinaryStreamReader)
    (result : Checked (Option α × BinaryStreamReader)) : Prop :=
  ∀ moved, result = .ok (none, moved) → moved.cur = reader.cur

/-- `FailsInPlace` for a call of any kind. -/
def Atomic (reader : BinaryStreamReader) (op : ReadOp) : Prop :=
  ∀ moved, op.call reader = .ok (false, moved) → moved.cur = reader.cur

section Calls

variable {reader : BinaryStreamReader}

/-- A length is read or the call faults. -/
theorem readLengthWithoutOffset_cases (reader : BinaryStreamReader) :
    (∃ head rest fieldlen, Ended head ∧ head.length ≤ 5 ∧
        read7BitEncoded head = .ok fieldlen ∧ reader.At (head ++ rest) ∧
        reader.readLengthWithoutOffset = .ok (some (head.length, fieldlen))) ∨
      ∃ fault, reader.readLengthWithoutOffset = .error fault := by
  by_cases inside : reader.cur ≤ reader.len
  · by_cases ends : reader.LengthEnds
    · exact .inl (ends.read inside)
    · exact .inr (readLengthWithoutOffset_error inside ends)
  · have nothing : reader.data[reader.cur]? = none :=
      List.getElem?_eq_none (Nat.le_of_not_le inside)
    refine .inr ⟨.buffer reader.cur, ?_⟩
    unfold readLengthWithoutOffset copyPrefix byteAt
    rw [nothing]
    rfl

/-- The cursor behind a length is where the string starts. A string that is cut off ends
behind the buffer. -/
theorem At.cut_iff {head rest : Bytes} {fieldlen : Nat} (here : reader.At (head ++ rest)) :
    rest.length < fieldlen ↔ reader.cur + head.length + fieldlen > reader.len := by
  have all := congrArg List.length here.2
  have inside := here.1
  unfold len at inside ⊢
  rw [List.length_drop, List.length_append] at all
  omega

theorem readField_refused {accepts : Nat → Bool} {headlen fieldlen : Nat}
    (length : reader.readLengthWithoutOffset = .ok (some (headlen, fieldlen)))
    (refused : accepts fieldlen = false) : reader.readField accepts = .ok (none, reader) := by
  unfold readField
  rw [length]
  show (if accepts fieldlen = false then _ else _) = _
  rw [if_pos refused]
  rfl

/-- The failure that moves the cursor. -/
theorem readField_cut {accepts : Nat → Bool} {headlen fieldlen : Nat}
    (length : reader.readLengthWithoutOffset = .ok (some (headlen, fieldlen)))
    (accepted : accepts fieldlen = true)
    (outside : reader.cur + headlen + fieldlen > reader.len) :
    reader.readField accepts = .ok (none, reader.skip headlen) := by
  unfold readField
  rw [length]
  show (if accepts fieldlen = false then _
    else if reader.cur + headlen + fieldlen > reader.len then _ else _) = _
  rw [accepted, if_neg (by decide), if_pos outside]
  rfl

/-- A field is given up in place unless it is cut off. -/
theorem failsInPlace_readField (accepts : Nat → Bool) :
    reader.FailsInPlace (reader.readField accepts) ↔ ¬reader.CutAt accepts := by
  constructor
  · intro inPlace cut
    obtain ⟨head, rest, fieldlen, ended, short, decoded, unread, accepted, less⟩ := cut
    obtain ⟨front, last, rfl, _, _⟩ := ended
    have inside : reader.cur ≤ reader.len := by
      have all := congrArg List.length unread
      unfold len
      simp only [List.length_drop, List.length_append, List.length_singleton] at all
      omega
    have here : reader.At (front ++ [last] ++ rest) := ⟨inside, unread⟩
    have length := here.readLengthWithoutOffset ⟨front, last, rfl, ‹_›, ‹_›⟩ short decoded
    have moved := inPlace _ (readField_cut length accepted (here.cut_iff.mp less))
    unfold skip at moved
    simp only [List.length_append, List.length_singleton] at moved
    omega
  · intro whole moved failed
    rcases readLengthWithoutOffset_cases reader with
      ⟨head, rest, fieldlen, ended, short, decoded, here, length⟩ | ⟨fault, faulted⟩
    · by_cases accepted : accepts fieldlen = true
      · by_cases outside : reader.cur + head.length + fieldlen > reader.len
        · exact absurd ⟨head, rest, fieldlen, ended, short, decoded, here.2, accepted,
            here.cut_iff.mpr outside⟩ whole
        · rw [readField_eq length accepted (Nat.not_lt.mp outside)] at failed
          cases failed
      · rw [readField_refused length (Bool.eq_false_iff.mpr accepted)] at failed
        cases failed
        rfl
    · unfold readField at failed
      rw [faulted] at failed
      cases failed

/-- Failures of calls for different values are the same failure. -/
theorem ok_none_iff {α β : Type} {behind moved : BinaryStreamReader} :
    (.ok (none, behind) : Checked (Option α × BinaryStreamReader)) = .ok (none, moved) ↔
      (.ok (none, behind) : Checked (Option β × BinaryStreamReader)) = .ok (none, moved) := by
  simp

/-- A string that is copied out fails where its field fails. -/
theorem readCopied_none_iff (accepts : Nat → Bool) (moved : BinaryStreamReader) :
    reader.readCopied accepts = .ok (none, moved) ↔
      reader.readField accepts = .ok (none, moved) := by
  unfold readCopied
  rcases reader.readField accepts with fault | ⟨_ | fieldlen, behind⟩
  · exact iff_of_false nofun nofun
  · exact ok_none_iff
  · refine iff_of_false ?_ nofun
    show ¬(do
      let str ← behind.copy behind.cur fieldlen
      return (some str, behind.skip fieldlen)) = _
    cases behind.copy behind.cur fieldlen with
    | error fault => exact nofun
    | ok str => exact nofun

theorem readCCString_none_iff (maxlen : Nat) (moved : BinaryStreamReader) :
    reader.readCCString maxlen = .ok (none, moved) ↔
      reader.readField (fun fieldlen => decide (maxlen = 0 ∨ fieldlen ≤ maxlen)) =
        .ok (none, moved) := by
  unfold readCCString
  rcases reader.readField _ with fault | ⟨_ | fieldlen, behind⟩
  · exact iff_of_false nofun nofun
  · exact ok_none_iff
  · exact iff_of_false nofun nofun

theorem readInt64_none_iff (int64str : Vector UInt8 128) (moved : BinaryStreamReader) :
    reader.readInt64 int64str = .ok (none, moved) ↔
      reader.readCString 128 = .ok (none, moved) := by
  unfold readInt64
  rcases reader.readCString 128 with fault | ⟨_ | str, behind⟩
  · exact iff_of_false nofun nofun
  · exact ok_none_iff
  · refine iff_of_false ?_ nofun
    show ¬(do
      let value ← atoll (str ++ int64str.toList.drop str.length)
      return (some value, behind)) = _
    cases atoll (str ++ int64str.toList.drop str.length) with
    | error fault => exact nofun
    | ok value => exact nofun

theorem failsInPlace_readCopied (accepts : Nat → Bool) :
    reader.FailsInPlace (reader.readCopied accepts) ↔ ¬reader.CutAt accepts := by
  unfold FailsInPlace
  simp only [readCopied_none_iff]
  exact failsInPlace_readField accepts

theorem length_of_copy {position count : Nat} {bytes : Bytes}
    (copied : reader.copy position count = .ok bytes) : bytes.length = count := by
  induction count generalizing position bytes with
  | zero =>
      cases copied
      rfl
  | succ count inductionHypothesis =>
      rw [copy] at copied
      cases first : reader.byteAt position with
      | error fault =>
          rw [first] at copied
          cases copied
      | ok byte =>
          cases later : reader.copy (position + 1) count with
          | error fault =>
              rw [first, later] at copied
              cases copied
          | ok rest =>
              rw [first, later] at copied
              cases copied
              rw [List.length_cons, inductionHypothesis later]

/-- A value of a fixed size has this size. -/
theorem length_of_readFixed {valueSize : Nat} {bytes : Bytes} {moved : BinaryStreamReader}
    (read : reader.readFixed valueSize = .ok (some bytes, moved)) :
    bytes.length = valueSize := by
  unfold readFixed at read
  split at read
  · cases read
  · cases copied : reader.copy reader.cur valueSize with
    | error fault =>
        rw [copied] at read
        cases read
    | ok value =>
        rw [copied] at read
        cases read
        exact length_of_copy copied

theorem failsInPlace_readFixed (valueSize : Nat) :
    reader.FailsInPlace (reader.readFixed valueSize) := by
  intro moved failed
  unfold readFixed at failed
  split at failed
  · cases failed
    rfl
  · revert failed
    cases reader.copy reader.cur valueSize with
    | error fault => exact nofun
    | ok bytes => exact nofun

theorem failsInPlace_readLength : reader.FailsInPlace reader.readLength := by
  intro moved failed
  unfold readLength at failed
  rcases readLengthWithoutOffset_cases reader with
    ⟨head, rest, fieldlen, _, _, _, _, length⟩ | ⟨fault, faulted⟩
  · rw [length] at failed
    cases failed
  · rw [faulted] at failed
    cases failed

/-! ### Calls -/

theorem returned_eq_iff {α : Type} {result : Checked (Option α × BinaryStreamReader)}
    {moved : BinaryStreamReader} :
    returned result = .ok (false, moved) ↔ result = .ok (none, moved) := by
  rcases result with fault | ⟨_ | value, behind⟩
  · exact iff_of_false nofun nofun
  · constructor
    · intro same
      cases same
      rfl
    · intro same
      cases same
      rfl
  · exact iff_of_false nofun nofun

theorem atomic_of_returned {α : Type} {op : ReadOp}
    {result : Checked (Option α × BinaryStreamReader)} (call : op.call reader = returned result) :
    reader.Atomic op ↔ reader.FailsInPlace result := by
  unfold Atomic FailsInPlace
  simp only [call, returned_eq_iff]

/-- What is computed from a value does not matter. -/
theorem FailsInPlace.bind {α β : Type} {result : Checked (Option α × BinaryStreamReader)}
    (inPlace : reader.FailsInPlace result) (compute : Option α → Option β)
    (some : ∀ value moved, result = .ok (.some value, moved) → compute (.some value) ≠ none) :
    reader.FailsInPlace (do
      let (value, moved) ← result
      return (compute value, moved)) := by
  intro moved failed
  rcases result with fault | ⟨_ | value, behind⟩
  · cases failed
  · refine inPlace moved ?_
    have same : (compute none, behind) = (none, moved) := Except.ok.inj failed
    rw [(Prod.mk.inj same).2]
  · have same : (compute (.some value), behind) = (none, moved) := Except.ok.inj failed
    exact absurd (Prod.mk.inj same).1 (some value behind rfl)

/-- A call that does not move the cursor. -/
theorem stays_map {α : Type} (result : Checked α) (success : α → Bool)
    (moved : BinaryStreamReader)
    (failed : (result.map fun value => (success value, reader)) = .ok (false, moved)) :
    moved.cur = reader.cur := by
  cases result with
  | error fault => cases failed
  | ok value =>
      have same : (success value, reader) = (false, moved) := Except.ok.inj failed
      rw [(Prod.mk.inj same).2]

end Calls

end BinaryStreamReader

end AChat.Net
