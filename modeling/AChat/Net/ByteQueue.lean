import AChat.Lib.Reach
import AChat.Net.BufferContent

/-!
Contract: a buffer is a byte queue.

Every operation does to the bytes that can be read what it does to a queue of bytes, an
operation that reports failure changes nothing, and room that was asked for is there. The
one exception is a request for room whose size wraps in `size_t`.

Owns: the operations on queues, the refinement for one operation, and the runs over any
number of buffers.
-/

namespace AChat.Net

open Lib

namespace Buffer

/-! ### Queues of bytes -/

/-- The operation on a queue: the bytes it leaves, and what it returns. The buffer gives the
room in front of the queue and the bytes that are in the room behind it. -/
def Op.onQueue (queue : Bytes) (prependable : Nat) (spare : Bytes) : Op → Bytes × Result
  | .append data => (queue ++ data, .void)
  | .prepend data =>
      if data.length ≤ prependable then (data ++ queue, .flag true) else (queue, .flag false)
  | .appendInt width value => (queue ++ hostToNetwork width value, .void)
  | .prependInt width value =>
      if width.size ≤ prependable then (hostToNetwork width value ++ queue, .void)
      else (queue, .void)
  | .readInt width =>
      if width.size ≤ queue.length then
        (queue.drop width.size, .int width (networkToHost width (queue.take width.size)))
      else (queue, .int width (-1))
  | .peekInt width =>
      if width.size ≤ queue.length then
        (queue, .int width (networkToHost width (queue.take width.size)))
      else (queue, .int width (-1))
  | .retrieveInt width =>
      if width.size ≤ queue.length then (queue.drop width.size, .void) else (queue, .void)
  | .retrieve len =>
      if len ≤ queue.length then (queue.drop len, .flag true) else (queue, .flag false)
  | .retrieveUntil distance =>
      if 0 ≤ distance ∧ distance ≤ queue.length then
        (queue.drop distance.toNat, .flag true)
      else (queue, .flag false)
  | .retrieveAsString len =>
      if len ≤ queue.length then (queue.drop len, .text (queue.take len)) else (queue, .text [])
  | .retrieveAllAsString => ([], .text queue)
  | .retrieveAll => ([], .void)
  | .ensureWritableBytes _ => (queue, .flag true)
  | .hasWritten len =>
      if len ≤ spare.length then (queue ++ spare.take len, .flag true) else (queue, .flag false)
  | .unwrite len =>
      if len ≤ queue.length then (queue.take (queue.length - len), .flag true)
      else (queue, .flag false)
  | .shrink _ => (queue, .void)

/-- What the queue is after an operation on the buffer, and what the operation returns. -/
def queueStep (buf : Buffer) (op : Op) : Bytes × Result :=
  op.onQueue buf.content buf.prependableBytes buf.spare

/-- How much room an operation asks for. -/
def Op.request : Op → Nat
  | .ensureWritableBytes len => len
  | .shrink reserve => reserve
  | _ => 0

/-! ### What an operation has to do -/

/-- The operation leaves the indices in order, acts as on a queue, changes nothing when it
fails, and leaves the room that was asked for. -/
structure ActsOnQueue (buf : Buffer) (allocates : Bool) (op : Op) : Prop where
  wellFormed : (buf.apply allocates op).1.WellFormed
  acts : (buf.apply allocates op).2 ≠ .threw →
    ((buf.apply allocates op).1.content, (buf.apply allocates op).2) = buf.queueStep op
  failure : (buf.apply allocates op).2 = .threw ∨ (buf.apply allocates op).2 = .flag false →
    (buf.apply allocates op).1 = buf
  room : (buf.apply allocates op).2 ≠ .threw →
    op.request ≤ (buf.apply allocates op).1.writableBytes

/-- The size that an operation asks for does not wrap. -/
def RoomFits (buf : Buffer) (allocates : Bool) : Op → Prop
  | .ensureWritableBytes len => buf.Fits len
  | .shrink reserve =>
      allocates = true → buf.readableBytes + reserve + kCheapPrepend < sizeLimit
  | _ => True

instance (buf : Buffer) (allocates : Bool) (op : Op) : Decidable (buf.RoomFits allocates op) := by
  cases op <;> unfold RoomFits <;> infer_instance

/-- The readable size stays below `2 ^ 31`, and what is asked for is a `size_t`. -/
def Sized (buf : Buffer) (op : Op) : Prop :=
  (buf.queueStep op).1.length < 2 ^ 31 ∧ op.request < sizeLimit

instance (buf : Buffer) (op : Op) : Decidable (buf.Sized op) :=
  inferInstanceAs (Decidable (_ ∧ _))

variable {buf : Buffer} {allocates : Bool}

/-! ### Appending -/

theorem WellFormed.fits_of_small (wellFormed : buf.WellFormed) {len : Nat} (small : len < 2 ^ 31) :
    buf.Fits len := by
  have writer := wellFormed.writer
  have most := wellFormed.most
  have cheap : kCheapPrepend = 8 := rfl
  have limit : sizeLimit = 2 ^ 64 := rfl
  have vector : vectorMaxSize = 2 ^ 63 - 1 := rfl
  unfold Fits
  omega

theorem WellFormed.append (wellFormed : buf.WellFormed) {data : Bytes}
    (small : data.length < 2 ^ 31) {after : Buffer}
    (appended : buf.append data allocates = some after) :
    after.WellFormed ∧ after.content = buf.content ++ data := by
  obtain ⟨ensured, made, rfl⟩ := Option.map_eq_some_iff.mp appended
  have room := wellFormed.ensureWritableBytes (wellFormed.fits_of_small small) made
  have copied := room.wellFormed.copied room.room
  exact ⟨copied.1, copied.2.1.trans (congrArg (· ++ data) room.content)⟩

/-- With the room there, appending does not throw. -/
theorem WellFormed.append_room (wellFormed : buf.WellFormed) (allocates : Bool) {data : Bytes}
    (enough : data.length ≤ buf.writableBytes) :
    ∃ after, buf.append data allocates = some after ∧ after.WellFormed ∧
      after.content = buf.content ++ data ∧
      after.writableBytes = buf.writableBytes - data.length := by
  have copied := wellFormed.copied enough
  refine ⟨_, ?_, copied⟩
  unfold Buffer.append Buffer.ensureWritableBytes
  rw [if_neg (Nat.not_lt.mpr enough)]
  rfl

theorem WellFormed.toStringPiece (wellFormed : buf.WellFormed)
    (small : buf.content.length < 2 ^ 31) : buf.toStringPiece = some buf.content := by
  rw [wellFormed.length_content] at small
  have noWrap : buf.readableBytes % 2 ^ 32 = buf.readableBytes := Nat.mod_eq_of_lt (by omega)
  unfold Buffer.toStringPiece
  rw [noWrap, if_pos small]
  rfl

/-! ### Shrinking -/

theorem wellFormed_initial : (new kInitialSize).WellFormed :=
  wellFormed_new (by decide)

/-- The new buffer has the content, and the reserve when the request did not wrap. -/
theorem WellFormed.shrink (wellFormed : buf.WellFormed) (small : buf.content.length < 2 ^ 31)
    {reserve : Nat} (fits : buf.RoomFits allocates (.shrink reserve)) {after : Buffer}
    (shrunk : buf.shrink reserve allocates = some after) :
    after.WellFormed ∧ after.content = buf.content ∧ reserve ≤ after.writableBytes := by
  unfold Buffer.shrink at shrunk
  split at shrunk
  · rename_i granted
    have noWrap := fits granted
    have sum : (buf.readableBytes + reserve) % sizeLimit = buf.readableBytes + reserve :=
      Nat.mod_eq_of_lt (by omega)
    rw [sum, wellFormed.toStringPiece small] at shrunk
    obtain ⟨other, made, appended⟩ := Option.bind_eq_some_iff.mp shrunk
    have initialFits : (new kInitialSize).Fits (buf.readableBytes + reserve) := noWrap
    have room := wellFormed_initial.ensureWritableBytes initialFits made
    have enough : buf.content.length ≤ other.writableBytes := by
      have requested := room.room
      rw [wellFormed.length_content]
      omega
    obtain ⟨last, lastAppended, formed, content, writable⟩ :=
      room.wellFormed.append_room allocates enough
    cases lastAppended.symm.trans appended
    refine ⟨formed, ?_, ?_⟩
    · rw [content, room.content, content_new, List.nil_append]
    · have requested := room.room
      rw [writable, wellFormed.length_content]
      omega
  · cases shrunk

/-! ### One operation -/

/-- An operation that asks for no room and succeeds. -/
theorem ActsOnQueue.of_success {op : Op} {after : Buffer} (result : Result)
    (succeeds : result ≠ .threw ∧ result ≠ .flag false)
    (applied : buf.apply allocates op = (after, result)) (none : op.request = 0)
    (wellFormed : after.WellFormed) (same : buf.queueStep op = (after.content, result)) :
    ActsOnQueue buf allocates op := by
  refine ⟨?_, ?_, ?_, ?_⟩
  · rw [applied]
    exact wellFormed
  · rw [applied]
    exact fun _ => same.symm
  · rw [applied]
    rintro (threw | failed)
    · exact absurd threw succeeds.1
    · exact absurd failed succeeds.2
  · exact fun _ => none ▸ Nat.zero_le _

/-- An operation that leaves the buffer. -/
theorem ActsOnQueue.of_unchanged {op : Op} (result : Result)
    (applied : buf.apply allocates op = (buf, result)) (none : op.request = 0)
    (wellFormed : buf.WellFormed) (same : buf.queueStep op = (buf.content, result)) :
    ActsOnQueue buf allocates op := by
  refine ⟨?_, ?_, ?_, ?_⟩
  · rw [applied]
    exact wellFormed
  · rw [applied]
    exact fun _ => same.symm
  · exact fun _ => congrArg Prod.fst applied
  · exact fun _ => none ▸ Nat.zero_le _

/-- An operation that may throw acts when what it makes does. -/
theorem ActsOnQueue.of_orThrow {op : Op} {made : Option Buffer} {result : Result}
    (wellFormed : buf.WellFormed) (applied : buf.apply allocates op = buf.orThrow made result)
    (succeeds : result ≠ .threw ∧ result ≠ .flag false)
    (acts : ∀ after, made = some after →
      after.WellFormed ∧ buf.queueStep op = (after.content, result) ∧
        op.request ≤ after.writableBytes) : ActsOnQueue buf allocates op := by
  unfold orThrow at applied
  cases made with
  | none =>
      have threw : buf.apply allocates op = (buf, .threw) := applied
      refine ⟨?_, ?_, ?_, ?_⟩
      · rw [threw]
        exact wellFormed
      · exact fun returned => absurd (congrArg Prod.snd threw) returned
      · exact fun _ => congrArg Prod.fst threw
      · exact fun returned => absurd (congrArg Prod.snd threw) returned
  | some after =>
      have done : buf.apply allocates op = (after, result) := applied
      obtain ⟨formed, same, room⟩ := acts after rfl
      refine ⟨?_, ?_, ?_, ?_⟩
      · rw [done]
        exact formed
      · rw [done]
        exact fun _ => same.symm
      · rw [done]
        rintro (threw | failed)
        · exact absurd threw succeeds.1
        · exact absurd failed succeeds.2
      · rw [done]
        exact fun _ => room

section Operations

variable (wellFormed : buf.WellFormed) (allocates : Bool)

include wellFormed

theorem acts_prepend (data : Bytes) : ActsOnQueue buf allocates (.prepend data) := by
  by_cases enough : data.length ≤ buf.prependableBytes
  · obtain ⟨done, formed, content⟩ := wellFormed.prepend enough
    refine .of_success (.flag true) ⟨nofun, nofun⟩ (by rw [apply, done]) rfl formed ?_
    rw [content]
    exact if_pos enough
  · have short : buf.prepend data = (false, buf) := if_pos (Nat.not_le.mp enough)
    exact .of_unchanged (.flag false) (by rw [apply, short]) rfl wellFormed (if_neg enough)

theorem acts_prependInt (width : IntWidth) (value : width.Value) :
    ActsOnQueue buf allocates (.prependInt width value) := by
  have size : (hostToNetwork width value).length = width.size := length_bigEndian _ _
  by_cases enough : width.size ≤ buf.prependableBytes
  · obtain ⟨_, formed, content⟩ := wellFormed.prepend (Nat.le_trans (Nat.le_of_eq size) enough)
    refine .of_success .void ⟨nofun, nofun⟩ rfl rfl formed ?_
    change _ = ((buf.prepend (hostToNetwork width value)).2.content, Result.void)
    rw [content]
    exact if_pos enough
  · have short : buf.prepend (hostToNetwork width value) = (false, buf) :=
      if_pos (Nat.lt_of_lt_of_le (Nat.not_le.mp enough) (Nat.le_of_eq size.symm))
    have same : buf.prependInt width value = buf := congrArg Prod.snd short
    exact .of_unchanged .void (by rw [apply, same]) rfl wellFormed (if_neg enough)

theorem acts_retrieve (len : Nat) : ActsOnQueue buf allocates (.retrieve len) := by
  have length := wellFormed.length_content
  by_cases enough : len ≤ buf.readableBytes
  · obtain ⟨done, formed, content⟩ := wellFormed.retrieve enough
    refine .of_success (.flag true) ⟨nofun, nofun⟩ (by rw [apply, done]) rfl formed ?_
    rw [content]
    exact if_pos (length.symm ▸ enough)
  · have short := retrieve_short (Nat.not_le.mp enough)
    refine .of_unchanged (.flag false) (by rw [apply, short]) rfl wellFormed ?_
    exact if_neg (length.symm ▸ enough)

theorem acts_retrieveUntil (distance : Int) :
    ActsOnQueue buf allocates (.retrieveUntil distance) := by
  have length := wellFormed.length_content
  by_cases inside : 0 ≤ distance ∧ distance ≤ buf.readableBytes
  · have enough : distance.toNat ≤ buf.readableBytes := by omega
    obtain ⟨_, formed, content⟩ := wellFormed.retrieve enough
    have done : buf.retrieveUntil distance = (true, (buf.retrieve distance.toNat).2) :=
      (if_neg (by omega)).trans (if_neg (by omega))
    refine .of_success (.flag true) ⟨nofun, nofun⟩ (by rw [apply, done]) rfl formed ?_
    rw [content]
    exact if_pos (length.symm ▸ inside)
  · have short : buf.retrieveUntil distance = (false, buf) := by
      unfold retrieveUntil
      split
      · rfl
      · exact if_pos (by omega)
    refine .of_unchanged (.flag false) (by rw [apply, short]) rfl wellFormed ?_
    exact if_neg (length.symm ▸ inside)

theorem acts_retrieveInt (width : IntWidth) : ActsOnQueue buf allocates (.retrieveInt width) := by
  have length := wellFormed.length_content
  by_cases enough : width.size ≤ buf.readableBytes
  · obtain ⟨_, formed, content⟩ := wellFormed.retrieve enough
    refine .of_success .void ⟨nofun, nofun⟩ rfl rfl formed ?_
    change _ = ((buf.retrieve width.size).2.content, Result.void)
    rw [content]
    exact if_pos (length.symm ▸ enough)
  · have same : buf.retrieveInt width = buf :=
      congrArg Prod.snd (retrieve_short (Nat.not_le.mp enough))
    refine .of_unchanged .void (by rw [apply, same]) rfl wellFormed ?_
    exact if_neg (length.symm ▸ enough)

/-- An integer that is there is read from the front of the queue. -/
theorem peekInt_eq (width : IntWidth) : buf.peekInt width =
    if width.size ≤ buf.content.length then networkToHost width (buf.content.take width.size)
    else -1 := by
  unfold peekInt
  rw [wellFormed.length_content]
  by_cases enough : width.size ≤ buf.readableBytes
  · rw [if_neg (Nat.not_lt.mpr enough), if_pos enough, peek_eq enough]
  · rw [if_pos (Nat.not_le.mp enough), if_neg enough]

theorem acts_peekInt (width : IntWidth) : ActsOnQueue buf allocates (.peekInt width) := by
  have value := peekInt_eq wellFormed width
  by_cases enough : width.size ≤ buf.content.length
  · rw [if_pos enough] at value
    exact .of_unchanged (.int width _) (by rw [apply, value]) rfl wellFormed (if_pos enough)
  · rw [if_neg enough] at value
    exact .of_unchanged (.int width _) (by rw [apply, value]) rfl wellFormed (if_neg enough)

theorem acts_readInt (width : IntWidth) : ActsOnQueue buf allocates (.readInt width) := by
  have length := wellFormed.length_content
  have value := peekInt_eq wellFormed width
  by_cases enough : width.size ≤ buf.content.length
  · obtain ⟨_, formed, content⟩ := wellFormed.retrieve (length ▸ enough)
    rw [if_pos enough] at value
    refine .of_success (.int width (networkToHost width (buf.content.take width.size)))
      ⟨nofun, nofun⟩ (by rw [apply, readInt, value]; rfl) rfl formed ?_
    rw [content]
    exact if_pos enough
  · have same : buf.retrieveInt width = buf :=
      congrArg Prod.snd (retrieve_short (length ▸ Nat.not_le.mp enough))
    rw [if_neg enough] at value
    refine .of_unchanged (.int width _) (by rw [apply, readInt, value, same]) rfl wellFormed ?_
    exact if_neg enough

theorem acts_retrieveAsString (len : Nat) :
    ActsOnQueue buf allocates (.retrieveAsString len) := by
  have length := wellFormed.length_content
  by_cases enough : len ≤ buf.readableBytes
  · obtain ⟨_, formed, content⟩ := wellFormed.retrieve enough
    have done : buf.retrieveAsString len = (buf.content.take len, (buf.retrieve len).2) := by
      rw [← peek_eq enough]
      exact if_neg (Nat.not_lt.mpr enough)
    refine .of_success (.text _) ⟨nofun, nofun⟩ (by rw [apply, done]) rfl formed ?_
    rw [content]
    exact if_pos (length.symm ▸ enough)
  · have done : buf.retrieveAsString len = ([], buf) := if_pos (Nat.not_le.mp enough)
    refine .of_unchanged (.text []) (by rw [apply, done]) rfl wellFormed ?_
    exact if_neg (length.symm ▸ enough)

theorem acts_retrieveAllAsString : ActsOnQueue buf allocates .retrieveAllAsString := by
  obtain ⟨_, formed, content⟩ := wellFormed.retrieve (Nat.le_refl buf.readableBytes)
  have done : buf.retrieveAllAsString = (buf.content, (buf.retrieve buf.readableBytes).2) :=
    if_neg (Nat.lt_irrefl _)
  refine .of_success (.text _) ⟨nofun, nofun⟩ (by rw [apply, done]) rfl formed ?_
  rw [content, List.drop_eq_nil_of_le (Nat.le_of_eq wellFormed.length_content)]
  rfl

theorem acts_retrieveAll : ActsOnQueue buf allocates .retrieveAll := by
  refine .of_success .void ⟨nofun, nofun⟩ rfl rfl wellFormed.retrieveAll ?_
  rw [content_retrieveAll]
  rfl

theorem acts_hasWritten (len : Nat) : ActsOnQueue buf allocates (.hasWritten len) := by
  have length := length_spare buf
  by_cases enough : len ≤ buf.writableBytes
  · obtain ⟨done, formed, content⟩ := wellFormed.hasWritten enough
    refine .of_success (.flag true) ⟨nofun, nofun⟩ (by rw [apply, done]) rfl formed ?_
    rw [content]
    exact if_pos (length.symm ▸ enough)
  · have short : buf.hasWritten len = (false, buf) := if_pos (Nat.not_le.mp enough)
    refine .of_unchanged (.flag false) (by rw [apply, short]) rfl wellFormed ?_
    exact if_neg (length.symm ▸ enough)

theorem acts_unwrite (len : Nat) : ActsOnQueue buf allocates (.unwrite len) := by
  have length := wellFormed.length_content
  by_cases enough : len ≤ buf.readableBytes
  · obtain ⟨done, formed, content⟩ := wellFormed.unwrite enough
    refine .of_success (.flag true) ⟨nofun, nofun⟩ (by rw [apply, done]) rfl formed ?_
    rw [content]
    exact if_pos (length.symm ▸ enough)
  · have short : buf.unwrite len = (false, buf) := if_pos (Nat.not_le.mp enough)
    refine .of_unchanged (.flag false) (by rw [apply, short]) rfl wellFormed ?_
    exact if_neg (length.symm ▸ enough)

theorem acts_append {data : Bytes} (small : data.length < 2 ^ 31) :
    ActsOnQueue buf allocates (.append data) := by
  refine .of_orThrow wellFormed rfl ⟨nofun, nofun⟩ fun after appended => ?_
  obtain ⟨formed, content⟩ := wellFormed.append small appended
  exact ⟨formed, content.symm ▸ rfl, Nat.zero_le _⟩

theorem acts_appendInt (width : IntWidth) (value : width.Value) :
    ActsOnQueue buf allocates (.appendInt width value) := by
  have small : (hostToNetwork width value).length < 2 ^ 31 := by
    rw [hostToNetwork, length_bigEndian]
    cases width <;> decide
  refine .of_orThrow wellFormed rfl ⟨nofun, nofun⟩ fun after appended => ?_
  obtain ⟨formed, content⟩ := wellFormed.append small appended
  exact ⟨formed, content.symm ▸ rfl, Nat.zero_le _⟩

theorem acts_ensureWritableBytes {len : Nat} (fits : buf.Fits len) :
    ActsOnQueue buf allocates (.ensureWritableBytes len) := by
  refine .of_orThrow wellFormed rfl ⟨nofun, nofun⟩ fun after ensured => ?_
  have room := wellFormed.ensureWritableBytes fits ensured
  exact ⟨room.wellFormed, room.content.symm ▸ rfl, room.room⟩

theorem acts_shrink (small : buf.content.length < 2 ^ 31) {reserve : Nat}
    (fits : buf.RoomFits allocates (.shrink reserve)) :
    ActsOnQueue buf allocates (.shrink reserve) := by
  refine .of_orThrow wellFormed rfl ⟨nofun, nofun⟩ fun after shrunk => ?_
  obtain ⟨formed, content, room⟩ := wellFormed.shrink small fits shrunk
  exact ⟨formed, content.symm ▸ rfl, room⟩

/-- An operation whose request fits acts as on a queue. -/
theorem WellFormed.actsOnQueue {op : Op} (sized : buf.Sized op)
    (fits : buf.RoomFits allocates op) : ActsOnQueue buf allocates op := by
  cases op with
  | append data =>
      refine acts_append wellFormed allocates ?_
      have total : (buf.content ++ data).length < 2 ^ 31 := sized.1
      rw [List.length_append] at total
      omega
  | prepend data => exact acts_prepend wellFormed allocates data
  | appendInt width value => exact acts_appendInt wellFormed allocates width value
  | prependInt width value => exact acts_prependInt wellFormed allocates width value
  | readInt width => exact acts_readInt wellFormed allocates width
  | peekInt width => exact acts_peekInt wellFormed allocates width
  | retrieveInt width => exact acts_retrieveInt wellFormed allocates width
  | retrieve len => exact acts_retrieve wellFormed allocates len
  | retrieveUntil distance => exact acts_retrieveUntil wellFormed allocates distance
  | retrieveAsString len => exact acts_retrieveAsString wellFormed allocates len
  | retrieveAllAsString => exact acts_retrieveAllAsString wellFormed allocates
  | retrieveAll => exact acts_retrieveAll wellFormed allocates
  | ensureWritableBytes len => exact acts_ensureWritableBytes wellFormed allocates fits
  | hasWritten len => exact acts_hasWritten wellFormed allocates len
  | unwrite len => exact acts_unwrite wellFormed allocates len
  | shrink reserve => exact acts_shrink wellFormed allocates sized.1 fits

/-! ### Requests that wrap -/

theorem not_acts_ensureWritableBytes {len : Nat} (sized : len < sizeLimit)
    (wraps : ¬buf.Fits len) : ¬ActsOnQueue buf allocates (.ensureWritableBytes len) := by
  obtain ⟨after, ensured, outside⟩ :
      ∃ after, buf.ensureWritableBytes len allocates = some after ∧
        (after.WellFormed → after.writableBytes < len) :=
    wellFormed.ensureWritableBytes_wraps sized wraps
  have done : buf.apply allocates (.ensureWritableBytes len) = (after, .flag true) := by
    rw [apply, ensured]
    rfl
  intro acts
  have formed := acts.wellFormed
  have room := acts.room
  rw [done] at formed room
  exact Nat.not_le.mpr (outside formed) (room nofun)

end Operations

/-- With memory, a request within the size of a vector is met. -/
theorem ensureWritableBytes_granted {len : Nat}
    (inside : buf.writerIndex + len ≤ vectorMaxSize) :
    ∃ after, buf.ensureWritableBytes len true = some after := by
  have limit : sizeLimit = 2 ^ 64 := rfl
  have vector : vectorMaxSize = 2 ^ 63 - 1 := rfl
  have noIndexWrap : (buf.writerIndex + len) % sizeLimit = buf.writerIndex + len :=
    Nat.mod_eq_of_lt (by omega)
  unfold Buffer.ensureWritableBytes makeSpace resize
  rw [noIndexWrap]
  split
  · split
    · split
      · exact ⟨_, rfl⟩
      · rw [if_pos ⟨inside, rfl⟩]
        exact ⟨_, rfl⟩
    · split <;> exact ⟨_, rfl⟩
  · exact ⟨_, rfl⟩

/-- A new buffer that makes room keeps its writer index. -/
theorem ensureWritableBytes_new_writerIndex {initialSize len : Nat} {after : Buffer}
    (ensured : (new initialSize).ensureWritableBytes len allocates = some after) :
    after.writerIndex = kCheapPrepend := by
  unfold Buffer.ensureWritableBytes makeSpace at ensured
  split at ensured
  · split at ensured
    · obtain ⟨_, _, rfl⟩ := Option.map_eq_some_iff.mp ensured
      rfl
    · split at ensured
      · cases ensured
        rfl
      · rename_i front
        exact absurd (Nat.le_refl kCheapPrepend) front
  · cases ensured
    rfl

/-- With memory, `shrink` does not throw, whatever reserve is asked for past the range. -/
theorem WellFormed.shrink_wraps (wellFormed : buf.WellFormed)
    (small : buf.content.length < 2 ^ 31) {reserve : Nat} (sized : reserve < sizeLimit)
    (wraps : sizeLimit ≤ buf.readableBytes + reserve + kCheapPrepend) :
    ∃ after, buf.shrink reserve true = some after := by
  have readable := wellFormed.length_content
  have cheap : kCheapPrepend = 8 := rfl
  have limit : sizeLimit = 2 ^ 64 := rfl
  have vector : vectorMaxSize = 2 ^ 63 - 1 := rfl
  have ensured : ∃ other, (new kInitialSize).ensureWritableBytes
      ((buf.readableBytes + reserve) % sizeLimit) true = some other := by
    by_cases sum : buf.readableBytes + reserve < sizeLimit
    · rw [Nat.mod_eq_of_lt sum]
      have noFit : ¬(new kInitialSize).Fits (buf.readableBytes + reserve) := by
        change ¬(buf.readableBytes + reserve + kCheapPrepend < sizeLimit)
        omega
      obtain ⟨other, made, _⟩ := wellFormed_initial.ensureWritableBytes_wraps sum noFit
      exact ⟨other, made⟩
    · rw [Nat.mod_eq_sub_mod (Nat.not_lt.mp sum), Nat.mod_eq_of_lt (by omega)]
      refine ensureWritableBytes_granted ?_
      change kCheapPrepend + (buf.readableBytes + reserve - sizeLimit) ≤ vectorMaxSize
      omega
  obtain ⟨other, made⟩ := ensured
  have index := ensureWritableBytes_new_writerIndex made
  obtain ⟨last, room⟩ : ∃ last, other.ensureWritableBytes buf.content.length true = some last :=
    ensureWritableBytes_granted (by omega)
  unfold Buffer.shrink
  rw [if_pos rfl, made, wellFormed.toStringPiece small]
  change ∃ after, other.append buf.content true = some after
  unfold Buffer.append
  rw [room]
  exact ⟨_, rfl⟩

theorem not_acts_shrink (wellFormed : buf.WellFormed) (small : buf.content.length < 2 ^ 31)
    {reserve : Nat} (sized : reserve < sizeLimit)
    (wraps : ¬buf.RoomFits allocates (.shrink reserve)) :
    ¬ActsOnQueue buf allocates (.shrink reserve) := by
  have readable := wellFormed.length_content
  have cheap : kCheapPrepend = 8 := rfl
  have limit : sizeLimit = 2 ^ 64 := rfl
  have vector : vectorMaxSize = 2 ^ 63 - 1 := rfl
  unfold RoomFits at wraps
  push Not at wraps
  obtain ⟨granted, beyond⟩ := wraps
  subst granted
  obtain ⟨after, shrunk⟩ := wellFormed.shrink_wraps small sized (by omega)
  have done : buf.apply true (.shrink reserve) = (after, .void) := by
    rw [apply, shrunk]
    rfl
  intro acts
  have formed := acts.wellFormed
  have room := acts.room
  rw [done] at formed room
  have most := formed.most
  have asked : reserve ≤ after.writableBytes := room nofun
  unfold writableBytes at asked
  simp only at most
  omega

/-- An operation acts as on a queue exactly when the size it asks for does not wrap. -/
theorem WellFormed.actsOnQueue_iff (wellFormed : buf.WellFormed) {op : Op}
    (sized : buf.Sized op) : ActsOnQueue buf allocates op ↔ buf.RoomFits allocates op := by
  refine ⟨fun acts => ?_, wellFormed.actsOnQueue allocates sized⟩
  by_contra wraps
  cases op with
  | ensureWritableBytes len =>
      exact not_acts_ensureWritableBytes wellFormed allocates sized.2 wraps acts
  | shrink reserve => exact not_acts_shrink wellFormed sized.1 sized.2 wraps acts
  | _ => exact wraps trivial

/-- An integer that was appended to an empty buffer is read back. -/
theorem WellFormed.readInt_appendInt (wellFormed : buf.WellFormed) (empty : buf.content = [])
    {width : IntWidth} {value : width.Value} {after : Buffer}
    (appended : buf.appendInt width value allocates = some after) :
    (after.readInt width).1 = value := by
  have size : (hostToNetwork width value).length = width.size := length_bigEndian _ _
  have small : (hostToNetwork width value).length < 2 ^ 31 := by
    rw [size]
    cases width <;> decide
  obtain ⟨formed, content⟩ := wellFormed.append small appended
  rw [empty, List.nil_append] at content
  change after.peekInt width = value
  rw [peekInt_eq formed, content, if_pos (Nat.le_of_eq size.symm), ← size, List.take_length]
  exact ofBigEndian_bigEndian_toNat value

/-! ### Runs -/

/-- `swap`. -/
def swap (left right : Buffer) : Buffer × Buffer :=
  (⟨right.buffer, right.readerIndex, right.writerIndex⟩,
    ⟨left.buffer, left.readerIndex, left.writerIndex⟩)

end Buffer

/-- A call on one buffer, or a swap of two. -/
inductive BufferEvent where
  | operate (target : Nat) (op : Buffer.Op) (allocates : Bool)
  | swap (left right : Nat)
deriving DecidableEq, Repr

namespace BufferEvent

open Buffer

def step (buffers : Nat → Buffer) : BufferEvent → Nat → Buffer
  | .operate target op allocates =>
      Function.update buffers target ((buffers target).apply allocates op).1
  | .swap left right =>
      let swapped := (buffers left).swap (buffers right)
      Function.update (Function.update buffers left swapped.1) right swapped.2

/-- The call acts as on a queue. A swap exchanges the two queues. -/
def Acts (buffers : Nat → Buffer) : BufferEvent → Prop
  | .operate target op allocates => ActsOnQueue (buffers target) allocates op
  | .swap left right =>
      (step buffers (.swap left right) left).content = (buffers right).content ∧
        (step buffers (.swap left right) right).content = (buffers left).content

def Sized (buffers : Nat → Buffer) : BufferEvent → Prop
  | .operate target op _ => (buffers target).Sized op
  | .swap _ _ => True

def RoomFits (buffers : Nat → Buffer) : BufferEvent → Prop
  | .operate target op allocates => (buffers target).RoomFits allocates op
  | .swap _ _ => True

theorem wellFormed_step (buffers : Nat → Buffer) (event : BufferEvent)
    (wellFormed : ∀ index, (buffers index).WellFormed)
    (met : Sized buffers event ∧ RoomFits buffers event) :
    ∀ index, (step buffers event index).WellFormed := by
  intro index
  cases event with
  | operate target op allocates =>
      change (Function.update buffers target _ index).WellFormed
      by_cases own : index = target
      · subst own
        rw [Function.update_self]
        exact ((wellFormed index).actsOnQueue allocates met.1 met.2).wellFormed
      · rw [Function.update_of_ne own]
        exact wellFormed index
  | swap left right =>
      change (Function.update (Function.update buffers left _) right _ index).WellFormed
      by_cases isRight : index = right
      · subst isRight
        rw [Function.update_self]
        exact wellFormed left
      · rw [Function.update_of_ne isRight]
        by_cases isLeft : index = left
        · subst isLeft
          rw [Function.update_self]
          exact wellFormed right
        · rw [Function.update_of_ne isLeft]
          exact wellFormed index

theorem acts_swap (buffers : Nat → Buffer) (left right : Nat) :
    Acts buffers (.swap left right) := by
  refine ⟨?_, ?_⟩
  · change (Function.update (Function.update buffers left _) right _ left).content = _
    by_cases same : left = right
    · subst same
      rw [Function.update_self]
      rfl
    · rw [Function.update_of_ne same, Function.update_self]
      rfl
  · change (Function.update (Function.update buffers left _) right _ right).content = _
    rw [Function.update_self]
    rfl

/-- In every state of every run whose requests for room do not wrap, the indices of every
buffer are in order, a call acts as on a queue exactly when its request does not wrap, and
an integer is read back from an empty buffer that it was appended to. -/
theorem buffers_refine_queues {sizes : Nat → Nat}
    (initial : ∀ index, kCheapPrepend + sizes index ≤ vectorMaxSize) {buffers : Nat → Buffer}
    (reach : Reach step (fun buffers event => Sized buffers event ∧ RoomFits buffers event)
      (fun index => new (sizes index)) buffers) :
    (∀ index, (buffers index).WellFormed) ∧
      (∀ event, Sized buffers event → (Acts buffers event ↔ RoomFits buffers event)) ∧
      ∀ index allocates width (value : IntWidth.Value width) after,
        (buffers index).content = [] →
        (buffers index).appendInt width value allocates = some after →
        (after.readInt width).1 = value := by
  have wellFormed : ∀ index, (buffers index).WellFormed :=
    reach.invariant (fun buffers => ∀ index, (buffers index).WellFormed)
      (fun index => wellFormed_new (initial index)) wellFormed_step
  refine ⟨wellFormed, ?_, ?_⟩
  · intro event sized
    cases event with
    | operate target op allocates => exact (wellFormed target).actsOnQueue_iff sized
    | swap left right => exact iff_of_true (acts_swap buffers left right) trivial
  · intro index allocates width value after empty appended
    exact (wellFormed index).readInt_appendInt empty appended

theorem new_buffer_acts :
    Acts (fun _ => new 8) (.operate 0 (.append [1, 2, 3]) true) :=
  ((@buffers_refine_queues (fun _ => 8) (fun _ => by decide) _ .start).2.1
    (.operate 0 (.append [1, 2, 3]) true) ⟨by decide, by decide⟩).mpr trivial

/-- A request for all of `size_t` is granted and makes no room. -/
theorem granted_without_room :
    Sized (fun _ => new kInitialSize) (.operate 0 (.ensureWritableBytes (2 ^ 64 - 1)) true) ∧
      ¬Acts (fun _ => new kInitialSize)
        (.operate 0 (.ensureWritableBytes (2 ^ 64 - 1)) true) := by
  have sized : (new kInitialSize).Sized (.ensureWritableBytes (2 ^ 64 - 1)) := by
    refine ⟨?_, by decide⟩
    change (new kInitialSize).content.length < 2 ^ 31
    rw [content_new]
    decide
  refine ⟨sized, fun acts => ?_⟩
  have fits := (wellFormed_initial.actsOnQueue_iff sized).mp acts
  revert fits
  decide

end BufferEvent

end AChat.Net
