import AChat.Net.StreamReading

/-!
Contract: what the stream writer writes, the stream reader reads.

The unread bytes of the reader start with the encoding of the next field, which the
reader takes away whole. A read fails on no field that is there, the last one included.
-/

namespace AChat.Net

open Lib

/-! ### Fields -/

inductive FieldType where
  | int32
  | short
  | char
  | string
deriving DecidableEq, Repr

/-- A field and its value. -/
inductive Field where
  | int32 (i : BitVec 32)
  | short (i : BitVec 16)
  | char (c : UInt8)
  | string (str : Bytes)
deriving DecidableEq, Repr

namespace Field

def type : Field → FieldType
  | .int32 _ => .int32
  | .short _ => .short
  | .char _ => .char
  | .string _ => .string

/-- The bytes of a field in the stream. -/
def encoded : Field → Bytes
  | .int32 i => bigEndian 4 i.toNat
  | .short i => bigEndian 2 i.toNat
  | .char c => [c]
  | .string str => write7BitEncoded str.length ++ str

def write (writer : BinaryStreamWriter) : Field → BinaryStreamWriter
  | .int32 i => writer.writeInt32 i
  | .short i => writer.writeShort i
  | .char c => writer.writeChar c
  | .string str => writer.writeString str

/-- Reads a field of a type. A string may have any length. -/
def read (reader : BinaryStreamReader) : FieldType → Checked (Option Field × BinaryStreamReader)
  | .int32 => do
      let (i, moved) ← reader.readInt32
      return (i.map .int32, moved)
  | .short => do
      let (i, moved) ← reader.readShort
      return (i.map .short, moved)
  | .char => do
      let (c, moved) ← reader.readChar
      return (c.map .char, moved)
  | .string => do
      let (str, moved) ← reader.readString 0
      return (str.map .string, moved)

/-- Reads fields in order. -/
def readAll (reader : BinaryStreamReader) :
    List FieldType → Checked (List (Option Field) × BinaryStreamReader)
  | [] => .ok ([], reader)
  | type :: types => do
      let (field, moved) ← read reader type
      let (fields, last) ← readAll moved types
      return (field :: fields, last)

/-- Every field takes a byte. -/
theorem encoded_ne_nil (field : Field) : field.encoded ≠ [] := by
  intro empty
  have none := congrArg List.length empty
  cases field with
  | int32 i =>
      rw [encoded, length_bigEndian] at none
      cases none
  | short i =>
      rw [encoded, length_bigEndian] at none
      cases none
  | char c => cases none
  | string str =>
      rw [encoded, List.length_append, write7BitEncoded, write7Bit] at none
      split at none
      · rw [List.length_cons, List.length_nil] at none
        omega
      · rw [List.length_singleton, List.length_nil] at none
        omega

/-- Only no fields take no bytes. -/
theorem flatMap_encoded_eq_nil (fields : List Field) :
    fields.flatMap encoded = [] ↔ fields = [] := by
  constructor
  · intro empty
    cases fields with
    | nil => rfl
    | cons field rest =>
        exact absurd (List.append_eq_nil_iff.mp empty).1 (encoded_ne_nil field)
  · rintro rfl
    rfl

theorem write_data (writer : BinaryStreamWriter) (field : Field) :
    (write writer field).data = writer.data ++ field.encoded := by
  cases field with
  | int32 i => rfl
  | short i => rfl
  | char c => rfl
  | string str => exact List.append_assoc _ _ _

theorem writes_data (fields : List Field) (writer : BinaryStreamWriter) :
    (fields.foldl write writer).data = writer.data ++ fields.flatMap encoded := by
  induction fields generalizing writer with
  | nil => exact (List.append_nil _).symm
  | cons field rest inductionHypothesis =>
      rw [List.foldl_cons, inductionHypothesis, write_data, List.flatMap_cons, List.append_assoc]

end Field

/-! ### The encoding of a length -/

theorem ended_write7BitEncoded {value : Nat} (fits : value < 2 ^ 32) :
    Ended (write7BitEncoded value) :=
  ended_write7Bit 10 value (Nat.lt_trans fits (by decide)) (by decide)

theorem length_write7BitEncoded_le {value : Nat} (fits : value < 2 ^ 32) :
    (write7BitEncoded value).length ≤ 5 :=
  length_write7Bit_le (Nat.lt_trans fits (by decide)) (by decide)

theorem read7BitEncoded_write7BitEncoded {value : Nat} (fits : value < 2 ^ 32) :
    read7BitEncoded (write7BitEncoded value) = .ok value := by
  have decoded := @read7Bit_write7Bit (2 ^ 32) 10 value 0 0 (Nat.lt_trans fits (by decide))
    (by decide) []
  rw [List.append_nil, Nat.zero_add, Nat.pow_zero, Nat.mul_one, Nat.mod_eq_of_lt fits] at decoded
  unfold read7BitEncoded write7BitEncoded
  rw [decoded]

theorem BinaryStreamReader.At.readString {reader : BinaryStreamReader} {str rest : Bytes}
    (fits : str.length < 2 ^ 32)
    (unread : reader.At (write7BitEncoded str.length ++ str ++ rest)) :
    reader.readString 0 =
      .ok (some str, reader.skip (write7BitEncoded str.length ++ str).length) :=
  unread.readCopied (ended_write7BitEncoded fits) (length_write7BitEncoded_le fits)
    (read7BitEncoded_write7BitEncoded fits) (decide_eq_true (.inl rfl))

/-! ### The round trip -/

namespace Field

open BinaryStreamReader

variable {reader : BinaryStreamReader}

/-- A field that is there is read, and the reader stands behind it. -/
theorem read_encoded (field : Field) {rest : Bytes} (fits : field.encoded.length < 2 ^ 32)
    (unread : reader.At (field.encoded ++ rest)) :
    read reader field.type = .ok (some field, reader.skip field.encoded.length) := by
  cases field with
  | int32 i =>
      have value := unread.readInt32
      unfold type read
      rw [value, encoded, length_bigEndian]
      rfl
  | short i =>
      have value := unread.readShort
      unfold type read
      rw [value, encoded, length_bigEndian]
      rfl
  | char c =>
      have value := unread.readChar
      unfold type read
      rw [value]
      rfl
  | string str =>
      have strFits : str.length < 2 ^ 32 := by
        rw [encoded, List.length_append] at fits
        omega
      have value := unread.readString strFits
      unfold type read
      rw [value]
      rfl

/-- Fields that are there are read in order, and the reader stands behind the last. -/
theorem readAll_encoded (fields : List Field) {rest : Bytes}
    (fits : (fields.flatMap encoded).length < 2 ^ 32)
    (unread : reader.At (fields.flatMap encoded ++ rest)) :
    ∃ last, readAll reader (fields.map type) = .ok (fields.map some, last) ∧ last.At rest := by
  induction fields generalizing reader with
  | nil => exact ⟨reader, rfl, unread⟩
  | cons field fields inductionHypothesis =>
      rw [List.flatMap_cons, List.length_append] at fits
      rw [List.flatMap_cons, List.append_assoc] at unread
      have head := read_encoded field (by omega) unread
      obtain ⟨last, tail, behind⟩ := inductionHypothesis (by omega) unread.skip
      refine ⟨last, ?_, behind⟩
      rw [List.map_cons, readAll, head]
      change (do
        let (fields, last) ← readAll (reader.skip field.encoded.length) (fields.map type)
        return (some field :: fields, last)) = _
      rw [tail]
      rfl

end Field

namespace BinaryStreamWriter

/-- The buffer of these fields: the array of the header holds anything before. -/
def written (str : Vector UInt8 headerLen) (fields : List Field) : BinaryStreamWriter :=
  (fields.foldl Field.write (new str)).flush

/-- Before the size is put in, the array of the header stands before the fields. -/
theorem unflushed_data (str : Vector UInt8 headerLen) (fields : List Field) :
    (fields.foldl Field.write (new str)).data = str.toList ++ fields.flatMap Field.encoded :=
  Field.writes_data fields (new str)

/-- After the header stand the fields. -/
theorem written_drop (str : Vector UInt8 headerLen) (fields : List Field) :
    (written str fields).data.drop headerLen = fields.flatMap Field.encoded := by
  have header : str.toList.length = 6 := str.length_toList
  have first : (bigEndian 4 (fields.foldl Field.write (new str)).data.length).length = 4 :=
    length_bigEndian _ _
  unfold written flush
  rw [List.drop_append, first, List.drop_drop, List.drop_eq_nil_of_le
    (Nat.le_trans (Nat.le_of_eq first) (by decide)), List.nil_append, unflushed_data]
  exact List.drop_left' header

/-- Putting the size in does not change it. -/
theorem length_written (str : Vector UInt8 headerLen) (fields : List Field) :
    (written str fields).data.length = (fields.foldl Field.write (new str)).data.length ∧
      headerLen ≤ (written str fields).data.length := by
  have header : str.toList.length = 6 := str.length_toList
  have six : headerLen = 6 := rfl
  unfold written flush
  rw [List.length_append, length_bigEndian, List.length_drop, unflushed_data, List.length_append]
  omega

/-- What is written is read by the same types: any number of fields from the first on has
the same values, the end is reached with the last and not before, and the buffer starts
with its size. -/
theorem written_read (str : Vector UInt8 headerLen) (fields : List Field)
    (fits : (written str fields).data.length < 2 ^ 32) :
    ofBigEndian ((written str fields).data.take binaryPacklenLen2) =
        (written str fields).data.length ∧
      ∀ before after, before ++ after = fields →
        ∃ reader, Field.readAll (.new (written str fields).data) (before.map Field.type) =
            .ok (before.map some, reader) ∧
          reader.isEnd = .ok (decide (after = [])) := by
  have length := (length_written str fields).1
  have drops := written_drop str fields
  refine ⟨?_, ?_⟩
  · have size : ofBigEndian ((written str fields).data.take 4) =
        (fields.foldl Field.write (new str)).data.length % 256 ^ 4 := by
      unfold written flush
      rw [List.take_left' (length_bigEndian 4 _), ofBigEndian_bigEndian]
    rw [length] at fits
    exact size.trans ((Nat.mod_eq_of_lt fits).trans length.symm)
  · rintro before after rfl
    have sizes := congrArg List.length drops
    rw [List.length_drop, List.flatMap_append, List.length_append] at sizes
    have start : (BinaryStreamReader.new (written str (before ++ after)).data).At
        (before.flatMap Field.encoded ++ after.flatMap Field.encoded) :=
      ⟨(length_written str _).2, by rw [← List.flatMap_append]; exact drops⟩
    obtain ⟨reader, values, behind⟩ := Field.readAll_encoded before (by omega) start
    refine ⟨reader, values, behind.isEnd.trans ?_⟩
    congr 1
    exact decide_eq_decide.mpr (Field.flatMap_encoded_eq_nil after)

theorem written_read_string :
    ∃ reader, Field.readAll
          (.new (written (.replicate 6 0) [.string [104, 105], .int32 7]).data)
          [.string, .int32] = .ok ([some (.string [104, 105]), some (.int32 7)], reader) ∧
        reader.isEnd = .ok true :=
  (written_read (.replicate 6 0) [.string [104, 105], .int32 7] (by decide)).2
    [.string [104, 105], .int32 7] [] rfl

end BinaryStreamWriter

end AChat.Net
