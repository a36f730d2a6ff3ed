import AChat.Lib.ByteOrder
import AChat.Lib.Varint

/-!
Owns the stream codec: the writer, which fills a string, and the reader, which walks over
a buffer.

Every read of the reader is checked: reading a byte outside the buffer, or outside a
local array, is a fault, and nothing is said of what comes after it. What a local array
holds before it is written is an input.
-/

namespace AChat.Net

open Lib

/-! ### Constants -/

def binaryPacklenLen2 : Nat := 4

def checksumLen : Nat := 2

/-- How many bytes stand before the first field. -/
def headerLen : Nat :=
  binaryPacklenLen2 + checksumLen

/-! ### Seven-bit integers -/

/-- `write7BitEncoded`, for an integer of 8 bytes. -/
def write7BitEncoded (value : Nat) : Bytes :=
  write7Bit 10 value

/-- `write7BitEncoded`, for an integer of 4 bytes. -/
def write7BitEncoded32 (value : Nat) : Bytes :=
  write7Bit 5 value

/-! ### Writing -/

/-- `BinaryStreamWriter`, by the string it writes to. -/
structure BinaryStreamWriter where
  data : Bytes
deriving DecidableEq, Repr

namespace BinaryStreamWriter

/-- The constructor, with what the array of the header holds. -/
def new (str : Vector UInt8 headerLen) : BinaryStreamWriter :=
  ⟨str.toList⟩

def append (writer : BinaryStreamWriter) (bytes : Bytes) : BinaryStreamWriter :=
  ⟨writer.data ++ bytes⟩

def writeCString (writer : BinaryStreamWriter) (str : Bytes) : BinaryStreamWriter :=
  (writer.append (write7BitEncoded str.length)).append str

def writeString (writer : BinaryStreamWriter) (str : Bytes) : BinaryStreamWriter :=
  writer.writeCString str

def writeInt32 (writer : BinaryStreamWriter) (i : BitVec 32) : BinaryStreamWriter :=
  writer.append (bigEndian 4 i.toNat)

def writeShort (writer : BinaryStreamWriter) (i : BitVec 16) : BinaryStreamWriter :=
  writer.append (bigEndian 2 i.toNat)

def writeChar (writer : BinaryStreamWriter) (c : UInt8) : BinaryStreamWriter :=
  writer.append [c]

/-- `Flush`: the length of the data goes into its first bytes, as an `unsigned int`. -/
def flush (writer : BinaryStreamWriter) : BinaryStreamWriter :=
  ⟨bigEndian 4 writer.data.length ++ writer.data.drop 4⟩

end BinaryStreamWriter

/-! ### Reading -/

/-- A read that must not happen. -/
inductive Fault where
  /-- Outside the buffer. -/
  | buffer (position : Nat)
  /-- Past a local array. -/
  | localArray
  /-- An assertion that does not hold. -/
  | assertion
deriving DecidableEq, Repr

/-- What a call gives, unless it faults. -/
abbrev Checked (α : Type) := Except Fault α

/-- `BinaryStreamReader`. The cursor is its distance from the start of the buffer. -/
structure BinaryStreamReader where
  data : Bytes
  cur : Nat
deriving DecidableEq, Repr

/-- `read7BitEncoded`, over an array that holds these bytes. -/
def read7BitEncoded (buf : Bytes) : Checked Nat :=
  match read7Bit (2 ^ 32) 0 0 buf with
  | some value => .ok value
  | none => .error .localArray

/-- `read7BitEncoded`, for an integer of 8 bytes. -/
def read7BitEncoded64 (buf : Bytes) : Checked Nat :=
  match read7Bit (2 ^ 64) 0 0 buf with
  | some value => .ok value
  | none => .error .localArray

namespace BinaryStreamReader

/-- The constructor. -/
def new (data : Bytes) : BinaryStreamReader :=
  ⟨data, headerLen⟩

def len (reader : BinaryStreamReader) : Nat :=
  reader.data.length

/-- A byte of the buffer. -/
def byteAt (reader : BinaryStreamReader) (position : Nat) : Checked UInt8 :=
  match reader.data[position]? with
  | some byte => .ok byte
  | none => .error (.buffer position)

/-- `memcpy` of bytes of the buffer. -/
def copy (reader : BinaryStreamReader) (position : Nat) : Nat → Checked Bytes
  | 0 => .ok []
  | count + 1 => do
      let byte ← reader.byteAt position
      let rest ← reader.copy (position + 1) count
      return byte :: rest

/-- The loop of `ReadLengthWithoutOffset`: bytes up to one that does not continue, and at
most this many. -/
def copyPrefix (reader : BinaryStreamReader) (temp : Nat) : Nat → Checked Bytes
  | 0 => .ok []
  | count + 1 => do
      let byte ← reader.byteAt temp
      if continues byte then
        let rest ← reader.copyPrefix (temp + 1) count
        return byte :: rest
      else return [byte]

/-- `ReadLengthWithoutOffset`: how long the length is, and the length. -/
def readLengthWithoutOffset (reader : BinaryStreamReader) : Checked (Option (Nat × Nat)) := do
  let buf ← reader.copyPrefix reader.cur 5
  if reader.cur + buf.length > reader.len then return none
  let value ← read7BitEncoded buf
  return some (buf.length, value)

def readLength (reader : BinaryStreamReader) : Checked (Option Nat × BinaryStreamReader) := do
  match ← reader.readLengthWithoutOffset with
  | none => return (none, reader)
  | some (headlen, outlen) => return (some outlen, { reader with cur := reader.cur + headlen })

/-- What the readers of a string share: the place and the length of the field, if it is
accepted and there. The cursor then is at the field. -/
def readField (reader : BinaryStreamReader) (accepts : Nat → Bool) :
    Checked (Option Nat × BinaryStreamReader) := do
  match ← reader.readLengthWithoutOffset with
  | none => return (none, reader)
  | some (headlen, fieldlen) =>
      if accepts fieldlen = false then return (none, reader)
      let moved := { reader with cur := reader.cur + headlen }
      if moved.cur + fieldlen > reader.len then return (none, moved)
      return (some fieldlen, moved)

/-- A string that is copied out. -/
def readCopied (reader : BinaryStreamReader) (accepts : Nat → Bool) :
    Checked (Option Bytes × BinaryStreamReader) := do
  match ← reader.readField accepts with
  | (none, moved) => return (none, moved)
  | (some fieldlen, moved) =>
      let str ← moved.copy moved.cur fieldlen
      return (some str, { moved with cur := moved.cur + fieldlen })

def readCString (reader : BinaryStreamReader) (strlen : Nat) :
    Checked (Option Bytes × BinaryStreamReader) :=
  reader.readCopied fun fieldlen => decide (fieldlen ≤ strlen)

def readString (reader : BinaryStreamReader) (maxlen : Nat) :
    Checked (Option Bytes × BinaryStreamReader) :=
  reader.readCopied fun fieldlen => decide (maxlen = 0 ∨ fieldlen ≤ maxlen)

/-- `ReadCCString`, which gives the place of the string and its length. -/
def readCCString (reader : BinaryStreamReader) (maxlen : Nat) :
    Checked (Option (Nat × Nat) × BinaryStreamReader) := do
  match ← reader.readField fun fieldlen => decide (maxlen = 0 ∨ fieldlen ≤ maxlen) with
  | (none, moved) => return (none, moved)
  | (some fieldlen, moved) =>
      return (some (moved.cur, fieldlen), { moved with cur := moved.cur + fieldlen })

/-- What the readers of a value of a fixed size share. -/
def readFixed (reader : BinaryStreamReader) (valueSize : Nat) :
    Checked (Option Bytes × BinaryStreamReader) := do
  if reader.cur + valueSize > reader.len then return (none, reader)
  let bytes ← reader.copy reader.cur valueSize
  return (some bytes, { reader with cur := reader.cur + valueSize })

def readInt32 (reader : BinaryStreamReader) :
    Checked (Option (BitVec 32) × BinaryStreamReader) := do
  let (bytes, moved) ← reader.readFixed 4
  return (bytes.map fun bytes => BitVec.ofNat 32 (ofBigEndian bytes), moved)

def readShort (reader : BinaryStreamReader) :
    Checked (Option (BitVec 16) × BinaryStreamReader) := do
  let (bytes, moved) ← reader.readFixed 2
  return (bytes.map fun bytes => BitVec.ofNat 16 (ofBigEndian bytes), moved)

def readChar (reader : BinaryStreamReader) : Checked (Option UInt8 × BinaryStreamReader) := do
  let (bytes, moved) ← reader.readFixed 1
  return (bytes.bind List.head?, moved)

/-! ### Decimal integers -/

/-- `isspace`. -/
def isSpace (byte : UInt8) : Bool :=
  byte == 32 || (9 ≤ byte && byte ≤ 13)

def isDigit (byte : UInt8) : Bool :=
  48 ≤ byte && byte ≤ 57

/-- What `atoll` reads after white space and a sign. -/
def atollDigits (text : Bytes) : Bool × Bytes :=
  match text.dropWhile isSpace with
  | 45 :: rest => (true, rest)
  | 43 :: rest => (false, rest)
  | rest => (false, rest)

/-- There is a byte at which `atoll` stops. -/
def AtollStops (text : Bytes) : Prop :=
  ∃ byte ∈ (atollDigits text).2, isDigit byte = false

instance (text : Bytes) : Decidable (AtollStops text) :=
  inferInstanceAs (Decidable (∃ byte ∈ _, _))

/-- The nearest integer of 8 bytes. -/
def clampInt64 (value : Int) : Int :=
  max (-2 ^ 63) (min value (2 ^ 63 - 1))

/-- `atoll` over an array that holds this text. -/
def atoll (text : Bytes) : Checked Int :=
  if AtollStops text then
    let magnitude := ((atollDigits text).2.takeWhile isDigit).foldl
      (fun (value : Nat) byte => value * 10 + (byte.toNat - 48)) 0
    .ok (clampInt64 (if (atollDigits text).1 then -magnitude else magnitude))
  else .error .localArray

/-- `ReadInt64`, with what its array of 128 bytes holds before. -/
def readInt64 (reader : BinaryStreamReader) (int64str : Vector UInt8 128) :
    Checked (Option Int × BinaryStreamReader) := do
  match ← reader.readCString 128 with
  | (none, moved) => return (none, moved)
  | (some str, moved) =>
      let value ← atoll (str ++ int64str.toList.drop str.length)
      return (some value, moved)

/-! ### The end -/

def isEnd (reader : BinaryStreamReader) : Checked Bool :=
  if reader.cur ≤ reader.len then .ok (reader.cur == reader.len) else .error .assertion

/-- `ReadAll`. -/
def readAll (reader : BinaryStreamReader) (iLen : Nat) : Checked Bytes :=
  reader.copy 0 (min iLen reader.len)

end BinaryStreamReader

end AChat.Net
