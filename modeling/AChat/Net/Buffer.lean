import AChat.Lib.ByteOrder

/-!
Owns the buffer of a connection: an array that grows, and the two indices that bound what
can be read.

Sizes are `size_t`, whose sums wrap. An array that grows may fail to, which throws and
changes nothing: there is no memory, which is an input of the operation, or the size is
out of the range of a vector. A pointer into the buffer is its distance from `peek`.
-/

namespace AChat.Net

open Lib

/-! ### Integers -/

inductive IntWidth where
  | int8
  | int16
  | int32
  | int64
deriving DecidableEq, Repr

/-- `sizeof`. -/
def IntWidth.size : IntWidth → Nat
  | .int8 => 1
  | .int16 => 2
  | .int32 => 4
  | .int64 => 8

/-- `int8_t` to `int64_t`. -/
abbrev IntWidth.Value (width : IntWidth) : Type :=
  BitVec (8 * width.size)

/-- The bytes of an integer in network order. -/
def hostToNetwork (width : IntWidth) (value : width.Value) : Bytes :=
  bigEndian width.size value.toNat

def networkToHost (width : IntWidth) (bytes : Bytes) : width.Value :=
  BitVec.ofNat _ (ofBigEndian bytes)

/-! ### The array -/

/-- The values of `size_t` are below this. -/
def sizeLimit : Nat :=
  2 ^ 64

/-- `std::vector<char>::max_size`. -/
def vectorMaxSize : Nat :=
  2 ^ 63 - 1

/-- `std::vector::resize`. It throws when the array cannot grow. -/
def resize (bytes : Bytes) (size : Nat) (allocates : Bool) : Option Bytes :=
  if size ≤ bytes.length then some (bytes.take size)
  else if size ≤ vectorMaxSize ∧ allocates = true then
    some (bytes ++ List.replicate (size - bytes.length) 0)
  else none

/-- `std::copy` to a position. -/
def copyTo (bytes : Bytes) (position : Nat) (data : Bytes) : Bytes :=
  bytes.take position ++ data ++ bytes.drop (position + data.length)

/-! ### The buffer -/

def kCheapPrepend : Nat := 8

def kInitialSize : Nat := 1024

structure Buffer where
  buffer : Bytes
  readerIndex : Nat
  writerIndex : Nat
deriving DecidableEq, Repr

namespace Buffer

/-- The constructor. -/
def new (initialSize : Nat) : Buffer where
  buffer := List.replicate (kCheapPrepend + initialSize) 0
  readerIndex := kCheapPrepend
  writerIndex := kCheapPrepend

def readableBytes (buf : Buffer) : Nat :=
  buf.writerIndex - buf.readerIndex

def writableBytes (buf : Buffer) : Nat :=
  buf.buffer.length - buf.writerIndex

def prependableBytes (buf : Buffer) : Nat :=
  buf.readerIndex

/-- The first `len` bytes from `peek` on. -/
def peek (buf : Buffer) (len : Nat) : Bytes :=
  (buf.buffer.drop buf.readerIndex).take len

/-! ### Retrieving -/

def retrieveAll (buf : Buffer) : Buffer :=
  { buf with readerIndex := kCheapPrepend, writerIndex := kCheapPrepend }

def retrieve (buf : Buffer) (len : Nat) : Bool × Buffer :=
  if len > buf.readableBytes then (false, buf)
  else if len < buf.readableBytes then
    (true, { buf with readerIndex := buf.readerIndex + len })
  else (true, buf.retrieveAll)

/-- `retrieveUntil`, with the distance of the end from `peek`. -/
def retrieveUntil (buf : Buffer) (distance : Int) : Bool × Buffer :=
  if 0 > distance then (false, buf)
  else if distance > buf.readableBytes then (false, buf)
  else (true, (buf.retrieve distance.toNat).2)

def retrieveInt (buf : Buffer) (width : IntWidth) : Buffer :=
  (buf.retrieve width.size).2

def retrieveInt64 (buf : Buffer) : Buffer := buf.retrieveInt .int64
def retrieveInt32 (buf : Buffer) : Buffer := buf.retrieveInt .int32
def retrieveInt16 (buf : Buffer) : Buffer := buf.retrieveInt .int16
def retrieveInt8 (buf : Buffer) : Buffer := buf.retrieveInt .int8

def retrieveAsString (buf : Buffer) (len : Nat) : Bytes × Buffer :=
  if len > buf.readableBytes then ([], buf)
  else (buf.peek len, (buf.retrieve len).2)

def retrieveAllAsString (buf : Buffer) : Bytes × Buffer :=
  buf.retrieveAsString buf.readableBytes

/-- `toStringPiece`. The size goes through `int`, and a string of a negative size throws. -/
def toStringPiece (buf : Buffer) : Option Bytes :=
  if buf.readableBytes % 2 ^ 32 < 2 ^ 31 then some (buf.peek (buf.readableBytes % 2 ^ 32))
  else none

/-! ### Making room -/

def makeSpace (buf : Buffer) (len : Nat) (allocates : Bool) : Option Buffer :=
  if buf.writableBytes + buf.prependableBytes < (len + kCheapPrepend) % sizeLimit then
    (resize buf.buffer ((buf.writerIndex + len) % sizeLimit) allocates).map fun bytes =>
      { buf with buffer := bytes }
  else if kCheapPrepend ≥ buf.readerIndex then some buf
  else
    some
      { buffer := copyTo buf.buffer kCheapPrepend (buf.peek buf.readableBytes)
        readerIndex := kCheapPrepend
        writerIndex := kCheapPrepend + buf.readableBytes }

/-- `ensureWritableBytes`, which returns true unless it throws. -/
def ensureWritableBytes (buf : Buffer) (len : Nat) (allocates : Bool) : Option Buffer :=
  if buf.writableBytes < len then buf.makeSpace len allocates else some buf

def hasWritten (buf : Buffer) (len : Nat) : Bool × Buffer :=
  if len > buf.writableBytes then (false, buf)
  else (true, { buf with writerIndex := buf.writerIndex + len })

def unwrite (buf : Buffer) (len : Nat) : Bool × Buffer :=
  if len > buf.readableBytes then (false, buf)
  else (true, { buf with writerIndex := buf.writerIndex - len })

/-! ### Appending and prepending -/

def append (buf : Buffer) (data : Bytes) (allocates : Bool) : Option Buffer :=
  (buf.ensureWritableBytes data.length allocates).map fun ensured =>
    let copied := { ensured with buffer := copyTo ensured.buffer ensured.writerIndex data }
    (copied.hasWritten data.length).2

def prepend (buf : Buffer) (data : Bytes) : Bool × Buffer :=
  if data.length > buf.prependableBytes then (false, buf)
  else
    (true,
      { buf with
        buffer := copyTo buf.buffer (buf.readerIndex - data.length) data
        readerIndex := buf.readerIndex - data.length })

/-- `shrink`: the other buffer that it makes is swapped in. -/
def shrink (buf : Buffer) (reserve : Nat) (allocates : Bool) : Option Buffer :=
  if allocates = true then
    ((new kInitialSize).ensureWritableBytes ((buf.readableBytes + reserve) % sizeLimit)
        allocates).bind fun other =>
      buf.toStringPiece.bind fun text => other.append text allocates
  else none

/-! ### Integers in network order -/

def appendInt (buf : Buffer) (width : IntWidth) (value : width.Value) (allocates : Bool) :
    Option Buffer :=
  buf.append (hostToNetwork width value) allocates

def appendInt64 (buf : Buffer) (x : BitVec 64) := buf.appendInt .int64 x
def appendInt32 (buf : Buffer) (x : BitVec 32) := buf.appendInt .int32 x
def appendInt16 (buf : Buffer) (x : BitVec 16) := buf.appendInt .int16 x
def appendInt8 (buf : Buffer) (x : BitVec 8) := buf.appendInt .int8 x

/-- `peekInt`. It returns -1 when there are not enough bytes. -/
def peekInt (buf : Buffer) (width : IntWidth) : width.Value :=
  if buf.readableBytes < width.size then -1
  else networkToHost width (buf.peek width.size)

def peekInt64 (buf : Buffer) : BitVec 64 := buf.peekInt .int64
def peekInt32 (buf : Buffer) : BitVec 32 := buf.peekInt .int32
def peekInt16 (buf : Buffer) : BitVec 16 := buf.peekInt .int16
def peekInt8 (buf : Buffer) : BitVec 8 := buf.peekInt .int8

def readInt (buf : Buffer) (width : IntWidth) : width.Value × Buffer :=
  (buf.peekInt width, buf.retrieveInt width)

def readInt64 (buf : Buffer) : BitVec 64 × Buffer := buf.readInt .int64
def readInt32 (buf : Buffer) : BitVec 32 × Buffer := buf.readInt .int32
def readInt16 (buf : Buffer) : BitVec 16 × Buffer := buf.readInt .int16
def readInt8 (buf : Buffer) : BitVec 8 × Buffer := buf.readInt .int8

/-- `prependInt`. Whether there was room is not told. -/
def prependInt (buf : Buffer) (width : IntWidth) (value : width.Value) : Buffer :=
  (buf.prepend (hostToNetwork width value)).2

def prependInt64 (buf : Buffer) (x : BitVec 64) : Buffer := buf.prependInt .int64 x
def prependInt32 (buf : Buffer) (x : BitVec 32) : Buffer := buf.prependInt .int32 x
def prependInt16 (buf : Buffer) (x : BitVec 16) : Buffer := buf.prependInt .int16 x
def prependInt8 (buf : Buffer) (x : BitVec 8) : Buffer := buf.prependInt .int8 x

/-! ### Operations -/

/-- The operations on one buffer. -/
inductive Op where
  | append (data : Bytes)
  | prepend (data : Bytes)
  | appendInt (width : IntWidth) (value : width.Value)
  | prependInt (width : IntWidth) (value : width.Value)
  | readInt (width : IntWidth)
  | peekInt (width : IntWidth)
  | retrieveInt (width : IntWidth)
  | retrieve (len : Nat)
  | retrieveUntil (distance : Int)
  | retrieveAsString (len : Nat)
  | retrieveAllAsString
  | retrieveAll
  | ensureWritableBytes (len : Nat)
  | hasWritten (len : Nat)
  | unwrite (len : Nat)
  | shrink (reserve : Nat)
deriving DecidableEq, Repr

/-- What an operation returns. `threw` is an exception. -/
inductive Result where
  | void
  | flag (value : Bool)
  | text (value : Bytes)
  | int (width : IntWidth) (value : width.Value)
  | threw
deriving DecidableEq, Repr

/-- An operation that may throw, which leaves the buffer. -/
def orThrow (buf : Buffer) (made : Option Buffer) (result : Result) : Buffer × Result :=
  match made with
  | some after => (after, result)
  | none => (buf, .threw)

def apply (buf : Buffer) (allocates : Bool) : Op → Buffer × Result
  | .append data => buf.orThrow (buf.append data allocates) .void
  | .prepend data => ((buf.prepend data).2, .flag (buf.prepend data).1)
  | .appendInt width value => buf.orThrow (buf.appendInt width value allocates) .void
  | .prependInt width value => (buf.prependInt width value, .void)
  | .readInt width => ((buf.readInt width).2, .int width (buf.readInt width).1)
  | .peekInt width => (buf, .int width (buf.peekInt width))
  | .retrieveInt width => (buf.retrieveInt width, .void)
  | .retrieve len => ((buf.retrieve len).2, .flag (buf.retrieve len).1)
  | .retrieveUntil distance =>
      ((buf.retrieveUntil distance).2, .flag (buf.retrieveUntil distance).1)
  | .retrieveAsString len => ((buf.retrieveAsString len).2, .text (buf.retrieveAsString len).1)
  | .retrieveAllAsString => (buf.retrieveAllAsString.2, .text buf.retrieveAllAsString.1)
  | .retrieveAll => (buf.retrieveAll, .void)
  | .ensureWritableBytes len =>
      buf.orThrow (buf.ensureWritableBytes len allocates) (.flag true)
  | .hasWritten len => ((buf.hasWritten len).2, .flag (buf.hasWritten len).1)
  | .unwrite len => ((buf.unwrite len).2, .flag (buf.unwrite len).1)
  | .shrink reserve => buf.orThrow (buf.shrink reserve allocates) .void

end Buffer

end AChat.Net
