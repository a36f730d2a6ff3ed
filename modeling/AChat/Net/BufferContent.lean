import AChat.Net.Buffer

/-!
Contract: what each operation of a buffer does to the bytes that can be read.

Owns: the content of a buffer, its well-formedness, and one lemma for each operation. An
operation that makes room needs that the sum of the indices and the request stays in
`size_t`.
-/

namespace AChat.Net

open Lib

namespace Buffer

/-- The bytes that can be read. -/
def content (buf : Buffer) : Bytes :=
  buf.peek buf.readableBytes

/-- The bytes of the writable space. -/
def spare (buf : Buffer) : Bytes :=
  buf.buffer.drop buf.writerIndex

/-- The indices are in order, and the array has room for the cheap prepend and is not over
the size of a vector. -/
structure WellFormed (buf : Buffer) : Prop where
  reader : buf.readerIndex ≤ buf.writerIndex
  writer : buf.writerIndex ≤ buf.buffer.length
  least : kCheapPrepend ≤ buf.buffer.length
  most : buf.buffer.length ≤ vectorMaxSize

theorem wellFormed_new {initialSize : Nat} (fits : kCheapPrepend + initialSize ≤ vectorMaxSize) :
    (new initialSize).WellFormed := by
  have length : (new initialSize).buffer.length = kCheapPrepend + initialSize :=
    List.length_replicate
  refine ⟨Nat.le_refl _, ?_, ?_, ?_⟩
  · exact length ▸ Nat.le_add_right _ _
  · exact length ▸ Nat.le_add_right _ _
  · exact length ▸ fits

variable {buf : Buffer}

theorem content_of_readable_zero (none : buf.readableBytes = 0) : buf.content = [] := by
  unfold content peek
  rw [none, List.take_zero]

theorem content_new (initialSize : Nat) : (new initialSize).content = [] :=
  content_of_readable_zero (Nat.sub_self kCheapPrepend)

theorem WellFormed.length_content (wellFormed : buf.WellFormed) :
    buf.content.length = buf.readableBytes := by
  have writer := wellFormed.writer
  unfold content peek readableBytes
  rw [List.length_take, List.length_drop]
  omega

theorem length_spare (buf : Buffer) : buf.spare.length = buf.writableBytes :=
  List.length_drop

theorem peek_eq {len : Nat} (enough : len ≤ buf.readableBytes) :
    buf.peek len = buf.content.take len := by
  unfold content peek
  rw [List.take_take, Nat.min_eq_left enough]

/-! ### Retrieving -/

theorem content_retrieveAll (buf : Buffer) : buf.retrieveAll.content = [] :=
  content_of_readable_zero (Nat.sub_self kCheapPrepend)

theorem WellFormed.retrieveAll (wellFormed : buf.WellFormed) : buf.retrieveAll.WellFormed :=
  ⟨Nat.le_refl _, wellFormed.least, wellFormed.least, wellFormed.most⟩

/-- What is there is retrieved from the front. -/
theorem WellFormed.retrieve (wellFormed : buf.WellFormed) {len : Nat}
    (enough : len ≤ buf.readableBytes) :
    (buf.retrieve len).1 = true ∧ (buf.retrieve len).2.WellFormed ∧
      (buf.retrieve len).2.content = buf.content.drop len := by
  have reader := wellFormed.reader
  have length := wellFormed.length_content
  unfold Buffer.retrieve
  rw [if_neg (Nat.not_lt.mpr enough)]
  split
  · rename_i less
    unfold readableBytes at less
    refine ⟨rfl, ⟨?_, wellFormed.writer, wellFormed.least, wellFormed.most⟩, ?_⟩
    · simp only
      omega
    · unfold content peek readableBytes
      simp only
      rw [← List.drop_drop, List.drop_take, Nat.sub_add_eq]
  · have all : buf.content.length ≤ len := by omega
    exact ⟨rfl, wellFormed.retrieveAll,
      (content_retrieveAll buf).trans (List.drop_eq_nil_of_le all).symm⟩

theorem retrieve_short {len : Nat} (short : buf.readableBytes < len) :
    buf.retrieve len = (false, buf) :=
  if_pos short

theorem WellFormed.unwrite (wellFormed : buf.WellFormed) {len : Nat}
    (enough : len ≤ buf.readableBytes) :
    (buf.unwrite len).1 = true ∧ (buf.unwrite len).2.WellFormed ∧
      (buf.unwrite len).2.content = buf.content.take (buf.content.length - len) := by
  have reader := wellFormed.reader
  have writer := wellFormed.writer
  have length := wellFormed.length_content
  unfold Buffer.unwrite
  rw [if_neg (Nat.not_lt.mpr enough), length]
  unfold readableBytes at enough
  refine ⟨rfl, ⟨?_, ?_, wellFormed.least, wellFormed.most⟩, ?_⟩
  · simp only
    omega
  · simp only
    omega
  · unfold content peek readableBytes
    simp only
    rw [List.take_take]
    congr 1
    omega

/-! ### Writing -/

theorem WellFormed.hasWritten (wellFormed : buf.WellFormed) {len : Nat}
    (enough : len ≤ buf.writableBytes) :
    (buf.hasWritten len).1 = true ∧ (buf.hasWritten len).2.WellFormed ∧
      (buf.hasWritten len).2.content = buf.content ++ buf.spare.take len := by
  have reader := wellFormed.reader
  have writer := wellFormed.writer
  unfold Buffer.hasWritten
  rw [if_neg (Nat.not_lt.mpr enough)]
  unfold writableBytes at enough
  refine ⟨rfl, ⟨?_, ?_, wellFormed.least, wellFormed.most⟩, ?_⟩
  · simp only
    omega
  · simp only
    omega
  · have split : buf.writerIndex + len - buf.readerIndex =
        (buf.writerIndex - buf.readerIndex) + len := by omega
    have spareAt : buf.readerIndex + (buf.writerIndex - buf.readerIndex) = buf.writerIndex := by
      omega
    unfold content peek readableBytes spare
    simp only
    rw [split, List.take_add, List.drop_drop, spareAt]

/-- What is copied into the writable space and counted as written is appended. -/
theorem WellFormed.copied (wellFormed : buf.WellFormed) {data : Bytes}
    (enough : data.length ≤ buf.writableBytes) :
    let copied := { buf with buffer := copyTo buf.buffer buf.writerIndex data }
    (copied.hasWritten data.length).2.WellFormed ∧
      (copied.hasWritten data.length).2.content = buf.content ++ data ∧
      (copied.hasWritten data.length).2.writableBytes = buf.writableBytes - data.length := by
  intro copied
  have writer := wellFormed.writer
  have room := enough
  unfold writableBytes at room
  have front : (buf.buffer.take buf.writerIndex).length = buf.writerIndex := by
    rw [List.length_take]
    omega
  have length : copied.buffer.length = buf.buffer.length := by
    change (copyTo buf.buffer buf.writerIndex data).length = _
    unfold copyTo
    rw [List.length_append, List.length_append, front, List.length_drop]
    omega
  have copiedFormed : copied.WellFormed :=
    ⟨wellFormed.reader, length ▸ writer, length ▸ wellFormed.least, length ▸ wellFormed.most⟩
  have same : copied.content = buf.content := by
    change ((copyTo buf.buffer buf.writerIndex data).drop buf.readerIndex).take
      (buf.writerIndex - buf.readerIndex) = _
    unfold copyTo content peek readableBytes
    rw [← List.drop_take, ← List.drop_take, List.append_assoc, List.take_append, front,
      Nat.sub_self, List.take_zero, List.append_nil, List.take_take, Nat.min_self]
  have written : copied.spare = data ++ buf.buffer.drop (buf.writerIndex + data.length) := by
    change (copyTo buf.buffer buf.writerIndex data).drop buf.writerIndex = _
    unfold copyTo
    rw [List.append_assoc, List.drop_append, front, Nat.sub_self, List.drop_zero,
      List.drop_eq_nil_of_le (Nat.le_of_eq front), List.nil_append]
  have copiedEnough : data.length ≤ copied.writableBytes := by
    unfold writableBytes
    rw [length]
    exact room
  have result := copiedFormed.hasWritten copiedEnough
  refine ⟨result.2.1, ?_, ?_⟩
  · rw [result.2.2, same, written, List.take_left]
  · unfold Buffer.hasWritten
    rw [if_neg (Nat.not_lt.mpr copiedEnough)]
    unfold writableBytes
    simp only
    rw [length]
    change buf.buffer.length - (buf.writerIndex + data.length) = _
    omega

theorem WellFormed.prepend (wellFormed : buf.WellFormed) {data : Bytes}
    (enough : data.length ≤ buf.prependableBytes) :
    (buf.prepend data).1 = true ∧ (buf.prepend data).2.WellFormed ∧
      (buf.prepend data).2.content = data ++ buf.content := by
  have reader := wellFormed.reader
  have writer := wellFormed.writer
  unfold Buffer.prepend
  rw [if_neg (Nat.not_lt.mpr enough)]
  unfold prependableBytes at enough
  have front : (buf.buffer.take (buf.readerIndex - data.length)).length =
      buf.readerIndex - data.length := by
    rw [List.length_take]
    omega
  have after : buf.readerIndex - data.length + data.length = buf.readerIndex := by omega
  have length : (copyTo buf.buffer (buf.readerIndex - data.length) data).length =
      buf.buffer.length := by
    unfold copyTo
    rw [List.length_append, List.length_append, front, List.length_drop]
    omega
  refine ⟨rfl, ⟨?_, ?_, ?_, ?_⟩, ?_⟩
  · simp only
    omega
  · exact length ▸ writer
  · exact length ▸ wellFormed.least
  · exact length ▸ wellFormed.most
  · have split : buf.writerIndex - (buf.readerIndex - data.length) =
        data.length + (buf.writerIndex - buf.readerIndex) := by omega
    unfold content peek readableBytes copyTo
    simp only
    rw [List.append_assoc, List.drop_append, front, Nat.sub_self, List.drop_zero,
      List.drop_eq_nil_of_le (Nat.le_of_eq front), List.nil_append, split, List.take_add,
      List.take_left, List.drop_left, after]

/-! ### Making room -/

/-- The request and the indices add up inside `size_t`. -/
def Fits (buf : Buffer) (len : Nat) : Prop :=
  len + max buf.writerIndex kCheapPrepend < sizeLimit

instance (buf : Buffer) (len : Nat) : Decidable (buf.Fits len) :=
  inferInstanceAs (Decidable (_ < _))

/-- The buffer is as good as before, and there is room for the request. -/
structure HasRoom (before after : Buffer) (len : Nat) : Prop where
  wellFormed : after.WellFormed
  content : after.content = before.content
  room : len ≤ after.writableBytes

/-- The array grows at its end. -/
theorem WellFormed.resized (wellFormed : buf.WellFormed) {len : Nat} {allocates : Bool}
    (short : buf.writableBytes < len) {bytes : Bytes}
    (grown : resize buf.buffer (buf.writerIndex + len) allocates = some bytes) :
    HasRoom buf { buf with buffer := bytes } len := by
  have reader := wellFormed.reader
  have writer := wellFormed.writer
  have least := wellFormed.least
  have beyond : ¬buf.writerIndex + len ≤ buf.buffer.length := by
    unfold writableBytes at short
    omega
  unfold resize at grown
  rw [if_neg beyond] at grown
  split at grown
  · rename_i allowed
    cases grown
    have length : (buf.buffer ++
        List.replicate (buf.writerIndex + len - buf.buffer.length) (0 : UInt8)).length =
          buf.writerIndex + len := by
      rw [List.length_append, List.length_replicate]
      omega
    refine ⟨⟨reader, ?_, ?_, ?_⟩, ?_, ?_⟩
    · exact Nat.le_trans (Nat.le_add_right _ _) (Nat.le_of_eq length.symm)
    · rw [length]
      omega
    · exact Nat.le_trans (Nat.le_of_eq length) allowed.1
    · unfold content peek readableBytes
      simp only
      rw [← List.drop_take, ← List.drop_take, List.take_append_of_le_length writer]
    · unfold writableBytes
      rw [length]
      exact Nat.le_of_eq (Nat.add_sub_cancel_left _ _).symm
  · cases grown

/-- The content moves to the front. -/
theorem WellFormed.compacted (wellFormed : buf.WellFormed) {len : Nat}
    (front : kCheapPrepend < buf.readerIndex)
    (enough : len + kCheapPrepend ≤ buf.writableBytes + buf.prependableBytes) :
    HasRoom buf
      { buffer := copyTo buf.buffer kCheapPrepend (buf.peek buf.readableBytes)
        readerIndex := kCheapPrepend
        writerIndex := kCheapPrepend + buf.readableBytes } len := by
  have reader := wellFormed.reader
  have writer := wellFormed.writer
  have contentLength := wellFormed.length_content
  unfold writableBytes prependableBytes at enough
  unfold readableBytes at contentLength
  have before : (buf.buffer.take kCheapPrepend).length = kCheapPrepend := by
    rw [List.length_take]
    exact Nat.min_eq_left wellFormed.least
  have length : (copyTo buf.buffer kCheapPrepend buf.content).length = buf.buffer.length := by
    unfold copyTo
    rw [List.length_append, List.length_append, before, List.length_drop]
    omega
  refine ⟨⟨Nat.le_add_right _ _, ?_, ?_, ?_⟩, ?_, ?_⟩
  · change kCheapPrepend + buf.readableBytes ≤ (copyTo buf.buffer kCheapPrepend buf.content).length
    rw [length]
    unfold readableBytes
    omega
  · exact length.symm ▸ wellFormed.least
  · exact length.symm ▸ wellFormed.most
  · change ((copyTo buf.buffer kCheapPrepend buf.content).drop kCheapPrepend).take
      (kCheapPrepend + buf.readableBytes - kCheapPrepend) = buf.content
    unfold copyTo
    rw [Nat.add_sub_cancel_left, List.append_assoc, List.drop_append, before, Nat.sub_self,
      List.drop_zero, List.drop_eq_nil_of_le (Nat.le_of_eq before), List.nil_append,
      ← wellFormed.length_content, List.take_left]
  · change len ≤ (copyTo buf.buffer kCheapPrepend buf.content).length -
      (kCheapPrepend + buf.readableBytes)
    rw [length]
    unfold readableBytes
    omega

/-- Room is made, or the array cannot grow. -/
theorem WellFormed.ensureWritableBytes (wellFormed : buf.WellFormed) {len : Nat}
    {allocates : Bool} (fits : buf.Fits len) {after : Buffer}
    (ensured : buf.ensureWritableBytes len allocates = some after) : HasRoom buf after len := by
  unfold Fits at fits
  unfold Buffer.ensureWritableBytes at ensured
  split at ensured
  · rename_i short
    have noWrap : (len + kCheapPrepend) % sizeLimit = len + kCheapPrepend :=
      Nat.mod_eq_of_lt (by omega)
    have noIndexWrap : (buf.writerIndex + len) % sizeLimit = buf.writerIndex + len :=
      Nat.mod_eq_of_lt (by omega)
    unfold makeSpace at ensured
    rw [noWrap, noIndexWrap] at ensured
    split at ensured
    · obtain ⟨bytes, grown, rfl⟩ := Option.map_eq_some_iff.mp ensured
      exact wellFormed.resized short grown
    · rename_i enough
      split at ensured
      · -- With nothing in front to give away, the room was there.
        rename_i front
        unfold prependableBytes at enough
        omega
      · rename_i front
        cases ensured
        exact wellFormed.compacted (by omega) (by omega)
  · rename_i enough
    cases ensured
    exact ⟨wellFormed, rfl, Nat.not_lt.mp enough⟩

/-- A request that does not fit is granted all the same, without the room or with an index
outside the array. -/
theorem WellFormed.ensureWritableBytes_wraps (wellFormed : buf.WellFormed) {len : Nat}
    {allocates : Bool} (sized : len < sizeLimit) (wraps : ¬buf.Fits len) :
    ∃ after, buf.ensureWritableBytes len allocates = some after ∧
      (after.WellFormed → after.writableBytes < len) := by
  have reader := wellFormed.reader
  have writer := wellFormed.writer
  have least := wellFormed.least
  have most := wellFormed.most
  unfold Fits at wraps
  have cheap : kCheapPrepend = 8 := rfl
  have limit : sizeLimit = 18446744073709551616 := rfl
  have vector : vectorMaxSize = 9223372036854775807 := rfl
  have short : buf.writableBytes < len := by
    unfold writableBytes
    omega
  unfold Buffer.ensureWritableBytes
  rw [if_pos short]
  unfold makeSpace
  split
  · rename_i less
    unfold writableBytes prependableBytes at less
    have wrapped : sizeLimit ≤ buf.writerIndex + len := by
      by_contra below
      have small : (len + kCheapPrepend) % sizeLimit = len + kCheapPrepend - sizeLimit := by
        rw [Nat.mod_eq_sub_mod (by omega), Nat.mod_eq_of_lt (by omega)]
      omega
    have index : (buf.writerIndex + len) % sizeLimit = buf.writerIndex + len - sizeLimit := by
      rw [Nat.mod_eq_sub_mod wrapped, Nat.mod_eq_of_lt (by omega)]
    obtain ⟨cut, atCut⟩ : ∃ cut, buf.writerIndex + len - sizeLimit = cut := ⟨_, rfl⟩
    have below : cut < buf.writerIndex := by omega
    unfold resize
    rw [index, atCut, if_pos (by omega)]
    refine ⟨_, rfl, fun formed => ?_⟩
    have outside := Nat.le_trans formed.writer (List.length_take_le cut buf.buffer)
    exact absurd outside (Nat.not_le.mpr below)
  · split
    · exact ⟨buf, rfl, fun _ => short⟩
    · rename_i front
      have moved : 0 + kCheapPrepend ≤ buf.writableBytes + buf.prependableBytes := by
        unfold prependableBytes
        omega
      have room := (wellFormed.compacted (Nat.not_le.mp front) moved).wellFormed
      refine ⟨_, rfl, fun _ => ?_⟩
      have size : (copyTo buf.buffer kCheapPrepend (buf.peek buf.readableBytes)).length ≤
          vectorMaxSize := room.most
      unfold writableBytes
      simp only
      omega

end Buffer

end AChat.Net
