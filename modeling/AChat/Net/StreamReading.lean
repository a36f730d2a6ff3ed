import AChat.Net.ProtocolStream

/-!
Contract: what the stream reader does where the bytes it needs are there.

`At` says which bytes are unread. A reader that finds its bytes takes them away whole,
and stands behind them.
-/

namespace AChat.Net

open Lib

namespace BinaryStreamReader

variable {reader : BinaryStreamReader}

/-! ### Reading what is there -/

/-- The next unread bytes are these. -/
def At (reader : BinaryStreamReader) (unread : Bytes) : Prop :=
  reader.cur ≤ reader.len ∧ reader.data.drop reader.cur = unread

/-- The reader, further on. -/
def skip (reader : BinaryStreamReader) (count : Nat) : BinaryStreamReader :=
  { reader with cur := reader.cur + count }

theorem At.fits {bytes rest : Bytes} (unread : reader.At (bytes ++ rest)) :
    reader.cur + bytes.length ≤ reader.len := by
  have length := congrArg List.length unread.2
  rw [List.length_drop, List.length_append] at length
  have inside := unread.1
  unfold len at inside ⊢
  omega

theorem At.skip {bytes rest : Bytes} (unread : reader.At (bytes ++ rest)) :
    (reader.skip bytes.length).At rest := by
  refine ⟨unread.fits, ?_⟩
  change reader.data.drop (reader.cur + bytes.length) = rest
  rw [← List.drop_drop, unread.2, List.drop_left]

/-- The cursor is at the end exactly when nothing is unread. -/
theorem At.isEnd {rest : Bytes} (unread : reader.At rest) :
    reader.isEnd = .ok (decide (rest = [])) := by
  unfold BinaryStreamReader.isEnd
  rw [if_pos unread.1]
  congr 1
  have length := congrArg List.length unread.2
  have inside := unread.1
  unfold len at inside ⊢
  rw [List.length_drop] at length
  by_cases ended : reader.cur = reader.data.length
  · have none : rest = [] := List.length_eq_zero_iff.mp (by omega)
    simp [ended, none]
  · have some : rest ≠ [] := by
      rintro rfl
      rw [List.length_nil] at length
      omega
    simp [ended, some]

theorem byteAt_of_drop {position : Nat} {byte : UInt8} {rest : Bytes}
    (unread : reader.data.drop position = byte :: rest) : reader.byteAt position = .ok byte := by
  have found : reader.data[position]? = some byte := by
    rw [← List.head?_drop, unread]
    rfl
  unfold byteAt
  rw [found]

theorem drop_succ_of_drop {position : Nat} {byte : UInt8} {rest : Bytes}
    (unread : reader.data.drop position = byte :: rest) :
    reader.data.drop (position + 1) = rest := by
  rw [← List.drop_drop, unread]
  rfl

/-- Bytes that are there are copied. -/
theorem copy_of_drop {bytes rest : Bytes} {position : Nat}
    (unread : reader.data.drop position = bytes ++ rest) :
    reader.copy position bytes.length = .ok bytes := by
  induction bytes generalizing position with
  | nil => rfl
  | cons byte bytes inductionHypothesis =>
      rw [List.length_cons, copy, byteAt_of_drop unread,
        inductionHypothesis (drop_succ_of_drop unread)]
      rfl

/-- Bytes that end within the count are copied up to their end. -/
theorem copyPrefix_of_drop {head rest : Bytes} {temp count : Nat} (ended : Ended head)
    (unread : reader.data.drop temp = head ++ rest) (short : head.length ≤ count) :
    reader.copyPrefix temp count = .ok head := by
  obtain ⟨front, last, rfl, continued, ends⟩ := ended
  induction front generalizing temp count with
  | nil =>
      obtain ⟨less, rfl⟩ : ∃ less, count = less + 1 := ⟨count - 1, by
        rw [List.nil_append, List.length_singleton] at short
        omega⟩
      rw [copyPrefix, byteAt_of_drop unread]
      change (if continues last = true then _ else _) = _
      rw [ends]
      rfl
  | cons byte front inductionHypothesis =>
      rw [List.cons_append, List.length_cons] at short
      obtain ⟨less, rfl⟩ : ∃ less, count = less + 1 := ⟨count - 1, by omega⟩
      have later : reader.copyPrefix (temp + 1) less = .ok (front ++ [last]) :=
        inductionHypothesis (drop_succ_of_drop unread) (Nat.le_of_succ_le_succ short)
          (fun other member => continued other (List.mem_cons_of_mem _ member))
      rw [List.cons_append, copyPrefix, byteAt_of_drop unread]
      change (if continues byte = true then _ else _) = _
      rw [continued byte List.mem_cons_self, if_pos rfl, later]
      rfl

/-- A length that ends within five bytes is read. -/
theorem At.readLengthWithoutOffset {head rest : Bytes} {value : Nat} (ended : Ended head)
    (short : head.length ≤ 5) (decoded : read7BitEncoded head = .ok value)
    (unread : reader.At (head ++ rest)) :
    reader.readLengthWithoutOffset = .ok (some (head.length, value)) := by
  unfold BinaryStreamReader.readLengthWithoutOffset
  rw [copyPrefix_of_drop ended unread.2 short]
  change (if reader.cur + head.length > reader.len then _ else _) = _
  rw [if_neg (Nat.not_lt.mpr unread.fits), decoded]
  rfl

/-- A field that is accepted and there. -/
theorem readField_eq {accepts : Nat → Bool} {headlen fieldlen : Nat}
    (length : reader.readLengthWithoutOffset = .ok (some (headlen, fieldlen)))
    (accepted : accepts fieldlen = true) (fits : reader.cur + headlen + fieldlen ≤ reader.len) :
    reader.readField accepts = .ok (some fieldlen, reader.skip headlen) := by
  unfold readField
  rw [length]
  change (if accepts fieldlen = false then _
    else if reader.cur + headlen + fieldlen > reader.len then _ else _) = _
  rw [accepted, if_neg (by decide), if_neg (Nat.not_lt.mpr fits)]
  rfl

theorem readCopied_eq {accepts : Nat → Bool} {fieldlen : Nat} {moved : BinaryStreamReader}
    {str : Bytes} (field : reader.readField accepts = .ok (some fieldlen, moved))
    (copied : moved.copy moved.cur fieldlen = .ok str) :
    reader.readCopied accepts = .ok (some str, moved.skip fieldlen) := by
  unfold readCopied
  rw [field]
  change (do
    let str ← moved.copy moved.cur fieldlen
    return (some str, moved.skip fieldlen)) = _
  rw [copied]
  rfl

/-- A string that is accepted and there is read. -/
theorem At.readCopied {head str rest : Bytes} (ended : Ended head) (short : head.length ≤ 5)
    (decoded : read7BitEncoded head = .ok str.length)
    {accepts : Nat → Bool} (accepted : accepts str.length = true)
    (unread : reader.At (head ++ str ++ rest)) :
    reader.readCopied accepts = .ok (some str, reader.skip (head ++ str).length) := by
  rw [List.append_assoc] at unread
  have field := unread.skip
  have found := readField_eq (unread.readLengthWithoutOffset ended short decoded) accepted
    field.fits
  have place : (reader.skip head.length).skip str.length = reader.skip (head ++ str).length := by
    unfold BinaryStreamReader.skip
    rw [List.length_append, Nat.add_assoc]
  exact place ▸ readCopied_eq found (copy_of_drop field.2)

theorem At.readFixed {bytes rest : Bytes} (unread : reader.At (bytes ++ rest)) :
    reader.readFixed bytes.length = .ok (some bytes, reader.skip bytes.length) := by
  unfold BinaryStreamReader.readFixed
  rw [if_neg (Nat.not_lt.mpr unread.fits), copy_of_drop unread.2]
  rfl

theorem At.readInt32 {i : BitVec 32} {rest : Bytes}
    (unread : reader.At (bigEndian 4 i.toNat ++ rest)) :
    reader.readInt32 = .ok (some i, reader.skip 4) := by
  have fixed := unread.readFixed
  rw [length_bigEndian] at fixed
  unfold BinaryStreamReader.readInt32
  rw [fixed]
  change Except.ok (some (BitVec.ofNat 32 (ofBigEndian (bigEndian 4 i.toNat))), _) = _
  rw [@ofBigEndian_bigEndian_toNat 4 i]

theorem At.readShort {i : BitVec 16} {rest : Bytes}
    (unread : reader.At (bigEndian 2 i.toNat ++ rest)) :
    reader.readShort = .ok (some i, reader.skip 2) := by
  have fixed := unread.readFixed
  rw [length_bigEndian] at fixed
  unfold BinaryStreamReader.readShort
  rw [fixed]
  change Except.ok (some (BitVec.ofNat 16 (ofBigEndian (bigEndian 2 i.toNat))), _) = _
  rw [@ofBigEndian_bigEndian_toNat 2 i]

theorem At.readChar {c : UInt8} {rest : Bytes} (unread : reader.At ([c] ++ rest)) :
    reader.readChar = .ok (some c, reader.skip 1) := by
  have fixed : reader.readFixed 1 = .ok (some [c], reader.skip 1) := unread.readFixed
  unfold BinaryStreamReader.readChar
  rw [fixed]
  rfl

end BinaryStreamReader

end AChat.Net
