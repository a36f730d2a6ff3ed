import AChat.Net.ByteQueue

/-!
Contract: when a buffer has what was read from a descriptor.

The bytes are read into an array on the stack. When they fit into the writable space, the
write index moves over it and they are not copied. Otherwise the whole space is taken for
written, and as many bytes as do not fit are appended, from the start of the array.
-/

namespace AChat.Net

open Lib

/-- The size of the array on the stack. -/
def extrabufSize : Nat := 65536

/-- What `sockets::read` gives: bytes, as many as the array has room for at most, or a
result that is not positive. -/
inductive SocketRead where
  | received (bytes : Bytes) (positive : 0 < bytes.length) (fits : bytes.length ≤ extrabufSize)
  | failed (n : Int) (notPositive : n ≤ 0)

namespace SocketRead

/-- The result of the call. -/
def n : SocketRead → Int
  | .received bytes _ _ => bytes.length
  | .failed n _ => n

/-- What the call writes to the array. -/
def bytes : SocketRead → Bytes
  | .received bytes _ _ => bytes
  | .failed _ _ => []

end SocketRead

/-- What `readFd` returns, and what it leaves. -/
structure ReadFd where
  n : Int
  savedErrno : Int
  buffer : Buffer
deriving DecidableEq, Repr

namespace Buffer

/-- `readFd`. It throws when the array of the buffer cannot grow. -/
def readFd (buf : Buffer) (read : SocketRead) (errno savedErrno : Int) (allocates : Bool) :
    Option ReadFd :=
  let writable := buf.writableBytes
  if read.n ≤ 0 then some ⟨read.n, errno, buf⟩
  else if read.n.toNat ≤ writable then
    some ⟨read.n, savedErrno, { buf with writerIndex := buf.writerIndex + read.n.toNat }⟩
  else
    let full := { buf with writerIndex := buf.buffer.length }
    (full.append (read.bytes.take (read.n.toNat - writable)) allocates).map fun appended =>
      ⟨read.n, savedErrno, appended⟩

/-- What was read is behind what could be read before, and a read that failed changed
nothing. -/
def AppendsRead (buf after : Buffer) : SocketRead → Prop
  | .received bytes _ _ => after.content = buf.content ++ bytes
  | .failed _ _ => after = buf

/-- The writable space holds what was read, as far as it goes, and the rest of what was read
is what its first bytes are. -/
def HoldsAlready (buf : Buffer) : SocketRead → Prop
  | .received bytes _ _ =>
      buf.spare.take bytes.length ++ bytes.take (bytes.length - buf.writableBytes) = bytes
  | .failed _ _ => True

instance (buf after : Buffer) (read : SocketRead) : Decidable (buf.AppendsRead after read) :=
  match read with
  | .received bytes _ _ => inferInstanceAs (Decidable (after.content = buf.content ++ bytes))
  | .failed _ _ => inferInstanceAs (Decidable (after = buf))

instance (buf : Buffer) (read : SocketRead) : Decidable (buf.HoldsAlready read) :=
  match read with
  | .received _ _ _ => inferInstanceAs (Decidable (_ = _))
  | .failed _ _ => inferInstanceAs (Decidable True)

variable {buf : Buffer}

/-- The write index behind the whole space. -/
theorem WellFormed.full (wellFormed : buf.WellFormed) :
    ({ buf with writerIndex := buf.buffer.length } : Buffer).WellFormed ∧
      ({ buf with writerIndex := buf.buffer.length } : Buffer).content =
        buf.content ++ buf.spare := by
  have writer := wellFormed.writer
  have written := wellFormed.hasWritten (Nat.le_refl buf.writableBytes)
  have whole : (buf.hasWritten buf.writableBytes).2 =
      { buf with writerIndex := buf.buffer.length } := by
    unfold Buffer.hasWritten
    rw [if_neg (Nat.lt_irrefl _)]
    unfold writableBytes
    simp only
    congr 1
    omega
  rw [whole] at written
  refine ⟨written.2.1, ?_⟩
  rw [written.2.2, ← length_spare, List.take_length]

/-- What can be read after a call that returns. -/
theorem WellFormed.readFd (wellFormed : buf.WellFormed) {bytes : Bytes}
    {positive : 0 < bytes.length} {fits : bytes.length ≤ extrabufSize}
    {errno savedErrno : Int} {allocates : Bool} {result : ReadFd}
    (returned : buf.readFd (.received bytes positive fits) errno savedErrno allocates =
      some result) :
    result.n = bytes.length ∧ result.buffer.WellFormed ∧
      result.buffer.content = buf.content ++
        (buf.spare.take bytes.length ++ bytes.take (bytes.length - buf.writableBytes)) := by
  unfold Buffer.readFd SocketRead.n SocketRead.bytes at returned
  simp only [Int.toNat_natCast] at returned
  rw [if_neg (by omega)] at returned
  split at returned
  · rename_i enough
    cases returned
    have written := wellFormed.hasWritten enough
    unfold Buffer.hasWritten at written
    rw [if_neg (Nat.not_lt.mpr enough)] at written
    refine ⟨rfl, written.2.1, ?_⟩
    rw [written.2.2, Nat.sub_eq_zero_of_le enough, List.take_zero, List.append_nil]
  · rename_i short
    obtain ⟨appended, made, rfl⟩ := Option.map_eq_some_iff.mp returned
    have small : (bytes.take (bytes.length - buf.writableBytes)).length < 2 ^ 31 := by
      have array : extrabufSize = 65536 := rfl
      rw [List.length_take]
      omega
    have full := wellFormed.full
    have grown := full.1.append small made
    have all : buf.spare.take bytes.length = buf.spare := by
      apply List.take_of_length_le
      rw [length_spare]
      omega
    refine ⟨rfl, grown.1, ?_⟩
    rw [grown.2, full.2, all, List.append_assoc]

/-- A call that returns appends what was read, exactly when the writable space held it
before. -/
theorem appendsRead_iff (wellFormed : buf.WellFormed) {read : SocketRead}
    {errno savedErrno : Int} {allocates : Bool} {result : ReadFd}
    (returned : buf.readFd read errno savedErrno allocates = some result) :
    (result.n = read.n ∧ buf.AppendsRead result.buffer read) ↔ buf.HoldsAlready read := by
  cases read with
  | received bytes positive fits =>
      obtain ⟨count, _, content⟩ := wellFormed.readFd returned
      show result.n = bytes.length ∧ result.buffer.content = buf.content ++ bytes ↔ _
      rw [content, List.append_right_inj]
      exact and_iff_right count
  | failed n notPositive =>
      have same : buf.readFd (.failed n notPositive) errno savedErrno allocates =
          some ⟨n, errno, buf⟩ := if_pos notPositive
      cases same.symm.trans returned
      exact iff_of_true ⟨rfl, rfl⟩ trivial

/-- A buffer of 8 bytes, without writable space. -/
def fullBuffer : Buffer :=
  new 0

/-- One byte. -/
def oneByte : SocketRead :=
  .received [65] (by decide) (by decide)

/-- A buffer without writable space gets what was read. -/
theorem appendsRead_full :
    (fullBuffer.readFd oneByte 0 0 true = some ⟨1, 0, ⟨fullBuffer.buffer ++ [65], 8, 9⟩⟩) ∧
      ((1 : Int) = oneByte.n ∧
        fullBuffer.AppendsRead ⟨fullBuffer.buffer ++ [65], 8, 9⟩ oneByte) := by
  have returned : fullBuffer.readFd oneByte 0 0 true =
      some ⟨1, 0, ⟨fullBuffer.buffer ++ [65], 8, 9⟩⟩ := by decide
  exact ⟨returned, (appendsRead_iff (wellFormed_new (by decide)) returned).mpr (by decide)⟩

/-- Into a new buffer with room for 4 bytes, the byte is counted and not copied. -/
theorem readFd_loses_byte :
    (new 4).readFd oneByte 0 0 true = some ⟨1, 0, { new 4 with writerIndex := 9 }⟩ ∧
      ({ new 4 with writerIndex := 9 } : Buffer).content = [0] ∧
      ¬(new 4).AppendsRead { new 4 with writerIndex := 9 } oneByte := by
  decide

end Buffer

end AChat.Net
