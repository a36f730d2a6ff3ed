import AChat.Base.PduLength

/-!
Contract: which calls of setters survive the round trip of a PDU.

A setter changes the bytes and not the header beside them, from which the getters read and
from which `SetPBMsg` writes all header bytes anew. So the header keeps its defaults, and a
field that was set differs from it.
-/

namespace AChat.Base

open Lib

inductive HeaderField where
  | version
  | flag
  | serviceId
  | commandId
  | seqNum
deriving DecidableEq, Repr

namespace PduHeader

def get (header : PduHeader) : HeaderField → BitVec 16
  | .version => header.version
  | .flag => header.flag
  | .serviceId => header.serviceId
  | .commandId => header.commandId
  | .seqNum => header.seqNum

def set (header : PduHeader) (value : BitVec 16) : HeaderField → PduHeader
  | .version => { header with version := value }
  | .flag => { header with flag := value }
  | .serviceId => { header with serviceId := value }
  | .commandId => { header with commandId := value }
  | .seqNum => { header with seqNum := value }

theorem get_set (header : PduHeader) (value : BitVec 16) (field other : HeaderField) :
    (header.set value field).get other = if field = other then value else header.get other := by
  cases field <;> cases other <;> rfl

/-- The bytes of a header. -/
def bytes (header : PduHeader) : Bytes :=
  bigEndian 4 header.length.toNat ++ bigEndian 2 header.version.toNat ++
    bigEndian 2 header.flag.toNat ++ bigEndian 2 header.serviceId.toNat ++
    bigEndian 2 header.commandId.toNat ++ bigEndian 2 header.seqNum.toNat ++
    bigEndian 2 header.reversed.toNat

@[simp]
theorem length_bytes (header : PduHeader) : header.bytes.length = imPduHeaderLen := by
  unfold bytes
  simp only [List.length_append, length_bigEndian]
  rfl

theorem length_bytes_append (header : PduHeader) (body : Bytes) :
    (header.bytes ++ body).length = imPduHeaderLen + body.length := by
  rw [List.length_append, length_bytes]

/-- The bytes of a header start with its length. -/
theorem take_bytes_append (header : PduHeader) (body : Bytes) :
    (header.bytes ++ body).take 4 = bigEndian 4 header.length.toNat := by
  unfold bytes
  simp only [List.append_assoc]
  exact List.take_left' (length_bigEndian 4 _)

/-- What is written for a header, field after field. -/
def pieces (header : PduHeader) : List Bytes :=
  [bigEndian 4 header.length.toNat, bigEndian 2 header.version.toNat,
    bigEndian 2 header.flag.toNat, bigEndian 2 header.serviceId.toNat,
    bigEndian 2 header.commandId.toNat, bigEndian 2 header.seqNum.toNat,
    bigEndian 2 header.reversed.toNat]

theorem flatten_pieces (header : PduHeader) : header.pieces.flatten = header.bytes := by
  simp only [pieces, bytes, List.flatten_cons, List.flatten_nil, List.append_assoc,
    List.append_nil]

end PduHeader

namespace ImPdu

variable {stream : CByteStream}

/-! ### Calls -/

inductive PduCall where
  | set (field : HeaderField) (value : BitVec 16)
  | setPBMsg (fresh : Vector UInt8 imPduHeaderLen) (msg : MessageLite)

def call (stream : CByteStream) (pdu : ImPdu) : PduCall → ImPdu
  | .set .version value => pdu.setVersion stream value
  | .set .flag value => pdu.setFlag stream value
  | .set .serviceId value => pdu.setServiceId stream value
  | .set .commandId value => pdu.setCommandId stream value
  | .set .seqNum value => pdu.setSeqNum stream value
  | .setPBMsg fresh msg => pdu.setPBMsg stream fresh msg

def get (pdu : ImPdu) : HeaderField → BitVec 16
  | .version => pdu.getVersion
  | .flag => pdu.getFlag
  | .serviceId => pdu.getServiceId
  | .commandId => pdu.getCommandId
  | .seqNum => pdu.getSeqNum

theorem get_eq (pdu : ImPdu) (field : HeaderField) : pdu.get field = pdu.pduHeader.get field := by
  cases field <;> rfl

/-- The last values that were set, after a call. -/
def setBy (values : HeaderField → BitVec 16) : PduCall → HeaderField → BitVec 16
  | .set field value, other => if field = other then value else values other
  | .setPBMsg _ _, other => values other

/-- The last message, after a call. -/
def msgBy (msg : Option MessageLite) : PduCall → Option MessageLite
  | .set _ _ => msg
  | .setPBMsg _ last => some last

/-- The last value that is set for each field, or its default. -/
def lastValue (calls : List PduCall) : HeaderField → BitVec 16 :=
  calls.foldl setBy new.get

/-- The last message that is set. -/
def lastMsg (calls : List PduCall) : Option MessageLite :=
  calls.foldl msgBy none

/-- The bytes decode to these values and this message, and the getters return these values. -/
structure RoundTrips (stream : CByteStream) (pdu : ImPdu) (values : HeaderField → BitVec 16)
    (msg : MessageLite) : Prop where
  decodes : ∃ decoded, readPdu stream pdu.buf pdu.buf.length = .ok (some decoded) ∧
    (∀ field, decoded.get field = values field) ∧
    decoded.pduHeader.length.toNat = imPduHeaderLen + msg.data.length ∧
    decoded.getBodyData.take decoded.getBodyLength.toNat = msg.data
  getters : ∀ field, pdu.get field = values field

/-! ### Patching -/

/-- A patch replaces what stands at its position. -/
theorem patch_append {pdu : ImPdu} {front rest bytes : Bytes} (buf : pdu.buf = front ++ rest)
    (fits : bytes.length ≤ rest.length) :
    pdu.patch front.length bytes =
      { pdu with buf := front ++ bytes ++ rest.drop bytes.length } := by
  have behind : (front ++ rest).drop (front.length + bytes.length) = rest.drop bytes.length := by
    rw [← List.drop_drop, List.drop_left]
  have whole : (front ++ bytes ++ rest.drop bytes.length).length = (front ++ rest).length := by
    simp only [List.length_append, List.length_drop]
    omega
  unfold patch
  rw [buf, List.take_left, behind, List.take_of_length_le (Nat.le_of_eq whole)]

/-- A patch of nothing changes nothing. -/
theorem patch_nil {pdu : ImPdu} (empty : pdu.buf = []) (position : Nat) (bytes : Bytes) :
    pdu.patch position bytes = pdu := by
  unfold patch
  rw [empty, List.length_nil, List.take_zero, ← empty]

/-- Patches, one behind the other. -/
def patchAll : ImPdu → Nat → List Bytes → ImPdu
  | pdu, _, [] => pdu
  | pdu, position, piece :: pieces =>
      patchAll (pdu.patch position piece) (position + piece.length) pieces

theorem patchAll_append (pieces : List Bytes) {pdu : ImPdu} {front rest : Bytes}
    (buf : pdu.buf = front ++ rest) (fits : pieces.flatten.length ≤ rest.length) :
    patchAll pdu front.length pieces =
      { pdu with buf := front ++ pieces.flatten ++ rest.drop pieces.flatten.length } := by
  induction pieces generalizing pdu front rest with
  | nil =>
      rw [patchAll, List.flatten_nil, List.length_nil, List.append_nil, List.drop_zero, ← buf]
  | cons piece pieces inductionHypothesis =>
      rw [List.flatten_cons, List.length_append] at fits
      have patched := @patch_append pdu front rest piece buf (by omega)
      have later := @inductionHypothesis { pdu with buf := front ++ piece ++ rest.drop piece.length }
        (front ++ piece) (rest.drop piece.length) rfl (by rw [List.length_drop]; omega)
      rw [List.length_append] at later
      rw [patchAll, patched, later, List.flatten_cons, List.length_append, List.append_assoc front,
        List.drop_drop]

/-- The header is written over the first bytes. -/
theorem writeHeader_eq (integers : stream.BigEndian) {pdu : ImPdu} {fresh body : Bytes}
    (buf : pdu.buf = fresh ++ body) (room : fresh.length = imPduHeaderLen) :
    pdu.writeHeader stream =
      { pdu with buf := { pdu.pduHeader with length := pdu.getLength }.bytes ++ body } := by
  have pieces : pdu.writeHeader stream =
      patchAll pdu 0 { pdu.pduHeader with length := pdu.getLength }.pieces := by
    simp only [PduHeader.pieces, patchAll, length_bigEndian, writeHeader, integers.writeInt32,
      integers.writeUint16]
  have enough : { pdu.pduHeader with length := pdu.getLength }.pieces.flatten.length ≤
      pdu.buf.length := by
    rw [PduHeader.flatten_pieces, PduHeader.length_bytes, buf, List.length_append]
    omega
  have written := patchAll_append _ (List.nil_append pdu.buf).symm enough
  rw [List.length_nil, ← pieces, PduHeader.flatten_pieces, PduHeader.length_bytes,
    List.nil_append, buf] at written
  rw [written, List.drop_left' room]

/-! ### Fields -/

/-- Where a field stands. -/
def HeaderField.position : HeaderField → Nat
  | .version => 4
  | .flag => 6
  | .serviceId => 8
  | .commandId => 10
  | .seqNum => 12

/-- A field stands at its place, between bytes that do not depend on it. -/
theorem bytes_set (header : PduHeader) (field : HeaderField) :
    ∃ front back, front.length = HeaderField.position field ∧
      ∀ value, (header.set value field).bytes = front ++ (bigEndian 2 value.toNat ++ back) := by
  cases field with
  | version =>
      refine ⟨bigEndian 4 header.length.toNat,
        bigEndian 2 header.flag.toNat ++ bigEndian 2 header.serviceId.toNat ++
        bigEndian 2 header.commandId.toNat ++ bigEndian 2 header.seqNum.toNat ++
        bigEndian 2 header.reversed.toNat, ?_, ?_⟩
      · exact length_bigEndian 4 _
      · intro value
        simp only [PduHeader.set, PduHeader.bytes, List.append_assoc]
  | flag =>
      refine ⟨bigEndian 4 header.length.toNat ++ bigEndian 2 header.version.toNat,
        bigEndian 2 header.serviceId.toNat ++ bigEndian 2 header.commandId.toNat ++
        bigEndian 2 header.seqNum.toNat ++ bigEndian 2 header.reversed.toNat, ?_, ?_⟩
      · simp only [List.length_append, length_bigEndian]
        rfl
      · intro value
        simp only [PduHeader.set, PduHeader.bytes, List.append_assoc]
  | serviceId =>
      refine ⟨bigEndian 4 header.length.toNat ++ bigEndian 2 header.version.toNat ++
        bigEndian 2 header.flag.toNat,
        bigEndian 2 header.commandId.toNat ++ bigEndian 2 header.seqNum.toNat ++
        bigEndian 2 header.reversed.toNat, ?_, ?_⟩
      · simp only [List.length_append, length_bigEndian]
        rfl
      · intro value
        simp only [PduHeader.set, PduHeader.bytes, List.append_assoc]
  | commandId =>
      refine ⟨bigEndian 4 header.length.toNat ++ bigEndian 2 header.version.toNat ++
        bigEndian 2 header.flag.toNat ++ bigEndian 2 header.serviceId.toNat,
        bigEndian 2 header.seqNum.toNat ++ bigEndian 2 header.reversed.toNat, ?_, ?_⟩
      · simp only [List.length_append, length_bigEndian]
        rfl
      · intro value
        simp only [PduHeader.set, PduHeader.bytes, List.append_assoc]
  | seqNum =>
      refine ⟨bigEndian 4 header.length.toNat ++ bigEndian 2 header.version.toNat ++
        bigEndian 2 header.flag.toNat ++ bigEndian 2 header.serviceId.toNat ++
        bigEndian 2 header.commandId.toNat,
        bigEndian 2 header.reversed.toNat, ?_, ?_⟩
      · simp only [List.length_append, length_bigEndian]
        rfl
      · intro value
        simp only [PduHeader.set, PduHeader.bytes, List.append_assoc]

theorem set_get (header : PduHeader) (field : HeaderField) :
    header.set (header.get field) field = header := by
  cases field <;> rfl

/-- The setters patch, each at the place of its field. -/
theorem call_eq (stream : CByteStream) (pdu : ImPdu) (field : HeaderField) (value : BitVec 16) :
    call stream pdu (.set field value) =
      pdu.patch (HeaderField.position field) (stream.writeUint16 value) := by
  cases field <;> rfl

/-- A setter replaces the bytes of its field. -/
theorem call_set (integers : stream.BigEndian) {pdu : ImPdu} {header : PduHeader} {body : Bytes}
    (buf : pdu.buf = header.bytes ++ body) (field : HeaderField) (value : BitVec 16) :
    call stream pdu (.set field value) =
      { pdu with buf := (header.set value field).bytes ++ body } := by
  obtain ⟨front, back, place, split⟩ := bytes_set header field
  have two : (stream.writeUint16 value).length = 2 := by
    rw [integers.writeUint16, length_bigEndian]
  have before : pdu.buf = front ++ (bigEndian 2 (header.get field).toNat ++ (back ++ body)) := by
    rw [buf, ← set_get header field, split, set_get, List.append_assoc, List.append_assoc]
  have patched := patch_append before
    (by rw [two, List.length_append, length_bigEndian]; omega)
  rw [call_eq, ← place, patched, two, List.drop_left' (length_bigEndian 2 _),
    integers.writeUint16, split]
  simp only [List.append_assoc]

/-- A setter has nothing to change before there are bytes. -/
theorem call_set_nil {pdu : ImPdu} (empty : pdu.buf = []) (field : HeaderField)
    (value : BitVec 16) : call stream pdu (.set field value) = pdu := by
  rw [call_eq, patch_nil empty]

/-! ### Decoding -/

theorem next16_eq (integers : stream.BigEndian) {bytes front back : Bytes} {value : BitVec 16}
    (split : bytes = front ++ (bigEndian 2 value.toNat ++ back)) :
    stream.next16 bytes front.length = (value, front.length + 2) := by
  have inside : front.length + 2 ≤ bytes.length := by
    rw [split, List.length_append, List.length_append, length_bigEndian]
    omega
  have word : (bytes.drop front.length).take 2 = bigEndian 2 value.toNat := by
    rw [split, List.drop_left, List.take_left' (length_bigEndian 2 _)]
  rw [integers.next16 bytes front.length inside, word, @ofBigEndian_bigEndian_toNat 2 value]

/-- A field is read at its place. -/
theorem next16_field (integers : stream.BigEndian) (header : PduHeader) (body : Bytes)
    (field : HeaderField) :
    stream.next16 (header.bytes ++ body) (HeaderField.position field) =
      (header.get field, HeaderField.position field + 2) := by
  obtain ⟨front, back, place, split⟩ := bytes_set header field
  have whole : header.bytes ++ body =
      front ++ (bigEndian 2 (header.get field).toNat ++ (back ++ body)) := by
    have here := split (header.get field)
    rw [set_get] at here
    rw [here, List.append_assoc, List.append_assoc]
  rw [← place]
  exact next16_eq integers whole

/-- A header is read as it was written. -/
theorem readPduHeader_bytes (integers : stream.BigEndian) (pdu : ImPdu) (header : PduHeader)
    (body : Bytes) :
    pdu.readPduHeader stream (header.bytes ++ body) imPduHeaderLen =
      { pdu with pduHeader := header } := by
  have size := header.length_bytes_append body
  have sixteen : imPduHeaderLen = 16 := rfl
  have length : stream.next32 (header.bytes ++ body) 0 = (header.length, 4) := by
    rw [integers.next32 _ 0 (by omega), List.drop_zero, header.take_bytes_append,
      @ofBigEndian_bigEndian_toNat 4 header.length]
  have version : stream.next16 (header.bytes ++ body) 4 = (header.version, 6) :=
    next16_field integers header body .version
  have flag : stream.next16 (header.bytes ++ body) 6 = (header.flag, 8) :=
    next16_field integers header body .flag
  have serviceId : stream.next16 (header.bytes ++ body) 8 = (header.serviceId, 10) :=
    next16_field integers header body .serviceId
  have commandId : stream.next16 (header.bytes ++ body) 10 = (header.commandId, 12) :=
    next16_field integers header body .commandId
  have seqNum : stream.next16 (header.bytes ++ body) 12 = (header.seqNum, 14) :=
    next16_field integers header body .seqNum
  have reversed : stream.next16 (header.bytes ++ body) 14 = (header.reversed, 16) := by
    have front : (bigEndian 4 header.length.toNat ++ bigEndian 2 header.version.toNat ++
        bigEndian 2 header.flag.toNat ++ bigEndian 2 header.serviceId.toNat ++
        bigEndian 2 header.commandId.toNat ++ bigEndian 2 header.seqNum.toNat).length = 14 := by
      simp only [List.length_append, length_bigEndian]
    have word := @next16_eq stream integers (header.bytes ++ body) _ body header.reversed
      (List.append_assoc _ _ _)
    rwa [front] at word
  unfold readPduHeader
  rw [if_pos (Nat.le_refl _)]
  simp only [length, version, flag, serviceId, commandId, seqNum, reversed]

/-- Bytes that start with a header whose length is theirs are a PDU. -/
theorem readPdu_bytes (integers : stream.BigEndian) {header : PduHeader} {body : Bytes}
    (length : header.length.toNat = imPduHeaderLen + body.length) :
    readPdu stream (header.bytes ++ body) (header.bytes ++ body).length =
      .ok (some ⟨header.bytes ++ body, header⟩) := by
  have size := header.length_bytes_append body
  have sixteen : imPduHeaderLen = 16 := rfl
  have field : lengthField (header.bytes ++ body) = header.length.toNat := by
    have small : header.length.toNat < 256 ^ 4 := header.length.isLt
    unfold lengthField
    rw [header.take_bytes_append, ofBigEndian_bigEndian, Nat.mod_eq_of_lt small]
  have available : isPduAvailable stream (header.bytes ++ body) (header.bytes ++ body).length =
      .ok (some header.length) := by
    refine (isPduAvailable_some integers).mpr ⟨?_, ?_, ?_, field.symm⟩
    · omega
    · omega
    · omega
  have whole : (header.bytes ++ body).take header.length.toNat = header.bytes ++ body :=
    List.take_of_length_le (by omega)
  rw [readPdu_of_available available, whole, readPduHeader_bytes integers]
  rfl

/-! ### Runs -/

theorem setPBMsg_eq (integers : stream.BigEndian) (pdu : ImPdu)
    (fresh : Vector UInt8 imPduHeaderLen) (msg : MessageLite) :
    pdu.setPBMsg stream fresh msg =
      { pdu with
        buf := { pdu.pduHeader with
          length := BitVec.ofNat 32 (imPduHeaderLen + msg.data.length) }.bytes ++ msg.data } := by
  have room : fresh.toList.length = imPduHeaderLen := fresh.length_toList
  have written : ((({ pdu with buf := [] } : ImPdu).write fresh.toList).write msg.data).buf =
      fresh.toList ++ msg.data := rfl
  have size : ((({ pdu with buf := [] } : ImPdu).write fresh.toList).write msg.data).getLength =
      BitVec.ofNat 32 (imPduHeaderLen + msg.data.length) := by
    unfold getLength
    rw [written, List.length_append, room]
  unfold setPBMsg
  rw [writeHeader_eq integers written room, size]
  rfl

/-- What calls leave: the header keeps its defaults, and the bytes are those of the last
message, in which every field has the last value that was set or its default. -/
structure Written (pdu : ImPdu) (values : HeaderField → BitVec 16) (msg : Option MessageLite) :
    Prop where
  header : pdu.pduHeader = new.pduHeader
  bytes : match msg with
    | none => pdu.buf = []
    | some msg => ∃ header : PduHeader, pdu.buf = header.bytes ++ msg.data ∧
        header.length.toNat = imPduHeaderLen + msg.data.length ∧
        ∀ field, header.get field = values field ∨ header.get field = new.get field

theorem Written.call {pdu : ImPdu} {values : HeaderField → BitVec 16} {msg : Option MessageLite}
    (integers : stream.BigEndian) (written : Written pdu values msg) (made : PduCall) :
    Written (call stream pdu made) (setBy values made) (msgBy msg made) := by
  cases made with
  | set field value =>
      cases msg with
      | none =>
          have empty : pdu.buf = [] := written.bytes
          rw [call_set_nil empty]
          exact ⟨written.header, empty⟩
      | some msg =>
          obtain ⟨header, buf, length, fields⟩ := written.bytes
          rw [call_set integers buf]
          refine ⟨written.header, header.set value field, rfl, ?_, ?_⟩
          · cases field <;> exact length
          · intro other
            rw [PduHeader.get_set, setBy]
            split
            · exact .inl rfl
            · exact fields other
  | setPBMsg fresh last =>
      have size := last.size
      have sixteen : imPduHeaderLen = 16 := rfl
      have set : ImPdu.call stream pdu (.setPBMsg fresh last) = _ :=
        setPBMsg_eq integers pdu fresh last
      rw [set]
      refine ⟨written.header, _, rfl, ?_, ?_⟩
      · rw [BitVec.toNat_ofNat]
        omega
      · intro field
        rw [written.header]
        exact .inr (by cases field <;> rfl)

theorem Written.calls {pdu : ImPdu} {values : HeaderField → BitVec 16} {msg : Option MessageLite}
    (integers : stream.BigEndian) (written : Written pdu values msg) (made : List PduCall) :
    Written (made.foldl (ImPdu.call stream) pdu) (made.foldl setBy values)
      (made.foldl msgBy msg) := by
  induction made generalizing pdu values msg with
  | nil => exact written
  | cons first rest inductionHypothesis =>
      rw [List.foldl_cons, List.foldl_cons, List.foldl_cons]
      exact inductionHypothesis (written.call integers first)

theorem written_new : Written new new.get none :=
  ⟨rfl, rfl⟩

/-- After calls with a last message, the PDU makes the round trip exactly when the last value
of every field is its default. -/
theorem roundTrips_iff (integers : stream.BigEndian) (calls : List PduCall) (msg : MessageLite)
    (last : lastMsg calls = some msg) :
    RoundTrips stream (calls.foldl (call stream) new) (lastValue calls) msg ↔
      ∀ field, lastValue calls field = new.get field := by
  have written : Written (calls.foldl (call stream) new) (lastValue calls) (lastMsg calls) :=
    written_new.calls integers calls
  have getters : ∀ field, (calls.foldl (call stream) new).get field = new.get field := by
    intro field
    rw [get_eq, written.header, ← get_eq]
  constructor
  · intro trips field
    rw [← trips.getters field, getters field]
  · intro defaults
    rw [last] at written
    obtain ⟨header, buf, length, fields⟩ := written.bytes
    have sixteen : imPduHeaderLen = 16 := rfl
    have small := header.length.isLt
    have size := header.length_bytes_append msg.data
    refine ⟨⟨⟨header.bytes ++ msg.data, header⟩, ?_, ?_, length, ?_⟩, ?_⟩
    · rw [buf]
      exact readPdu_bytes integers length
    · intro field
      rw [get_eq, defaults field]
      rcases fields field with value | value
      · exact value.trans (defaults field)
      · exact value
    · rw [body_eq (by rw [size]; omega) (by rw [size]; omega)]
      exact List.drop_left' (PduHeader.length_bytes header)
    · intro field
      rw [getters field, defaults field]

/-- A message of one byte. -/
def oneByte : MessageLite :=
  ⟨[1], by decide⟩

theorem roundTrips_default :
    RoundTrips .network
      ([.setPBMsg (.replicate 16 0) oneByte, .set .serviceId sidOther].foldl (call .network) new)
      (lastValue [.setPBMsg (.replicate 16 0) oneByte, .set .serviceId sidOther]) oneByte :=
  (roundTrips_iff CByteStream.bigEndian_network _ oneByte rfl).mpr
    (by intro field; cases field <;> rfl)

/-- A version that is set after the message is in the bytes and not in the getter, and one that
is set before it is in neither. -/
theorem version_lost :
    ¬RoundTrips .network
        ([.setPBMsg (.replicate 16 0) oneByte, .set .version 2].foldl (call .network) new)
        (lastValue [.setPBMsg (.replicate 16 0) oneByte, .set .version 2]) oneByte ∧
      ¬RoundTrips .network
        ([.set .version 2, .setPBMsg (.replicate 16 0) oneByte].foldl (call .network) new)
        (lastValue [.set .version 2, .setPBMsg (.replicate 16 0) oneByte]) oneByte ∧
      (readPdu .network
        ([.set .version 2, .setPBMsg (.replicate 16 0) oneByte].foldl (call .network) new).buf
        17).toOption.map (fun pdu => pdu.map getVersion) = some (some 1) := by
  refine ⟨?_, ?_, by decide⟩
  · intro trips
    exact absurd (trips.getters .version) (by decide)
  · intro trips
    exact absurd (trips.getters .version) (by decide)

end ImPdu

end AChat.Base
