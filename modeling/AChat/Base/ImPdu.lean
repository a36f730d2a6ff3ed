import AChat.Lib.ByteOrder

/-!
Owns a PDU: its bytes, the header that is kept beside them, writing and patching, and
cutting a PDU off received bytes.

The reader and writer of integers is a parameter, for which `BigEndian` says what is
relied on. A PDU has one buffer, as long as what was written to it; a patch behind its end
changes nothing of it.
-/

namespace AChat.Base

open Lib

/-! ### Constants -/

/-- `IM_PDU_HEADER_LEN`, and `sizeof(PduHeader_t)`. -/
def imPduHeaderLen : Nat := 16

def imPduVersion : BitVec 16 := 1

def sidOther : BitVec 16 := 7

/-! ### Integers in bytes -/

/-- `CByteStream`: its static members, and `>>`, which reads at a position and moves on. -/
structure CByteStream where
  readUint16 : Bytes → BitVec 16
  readUint32 : Bytes → BitVec 32
  writeUint16 : BitVec 16 → Bytes
  writeInt32 : BitVec 32 → Bytes
  next16 : Bytes → Nat → BitVec 16 × Nat
  next32 : Bytes → Nat → BitVec 32 × Nat

namespace CByteStream

/-- Integers have a fixed width and their most significant byte first. -/
structure BigEndian (stream : CByteStream) : Prop where
  readUint16 : ∀ bytes, 2 ≤ bytes.length →
    stream.readUint16 bytes = BitVec.ofNat 16 (ofBigEndian (bytes.take 2))
  readUint32 : ∀ bytes, 4 ≤ bytes.length →
    stream.readUint32 bytes = BitVec.ofNat 32 (ofBigEndian (bytes.take 4))
  writeUint16 : ∀ value, stream.writeUint16 value = bigEndian 2 value.toNat
  writeInt32 : ∀ value, stream.writeInt32 value = bigEndian 4 value.toNat
  next16 : ∀ bytes position, position + 2 ≤ bytes.length →
    stream.next16 bytes position =
      (BitVec.ofNat 16 (ofBigEndian ((bytes.drop position).take 2)), position + 2)
  next32 : ∀ bytes position, position + 4 ≤ bytes.length →
    stream.next32 bytes position =
      (BitVec.ofNat 32 (ofBigEndian ((bytes.drop position).take 4)), position + 4)

/-- Network order. -/
def network : CByteStream where
  readUint16 bytes := BitVec.ofNat 16 (ofBigEndian (bytes.take 2))
  readUint32 bytes := BitVec.ofNat 32 (ofBigEndian (bytes.take 4))
  writeUint16 value := bigEndian 2 value.toNat
  writeInt32 value := bigEndian 4 value.toNat
  next16 bytes position :=
    (BitVec.ofNat 16 (ofBigEndian ((bytes.drop position).take 2)), position + 2)
  next32 bytes position :=
    (BitVec.ofNat 32 (ofBigEndian ((bytes.drop position).take 4)), position + 4)

theorem bigEndian_network : network.BigEndian :=
  ⟨fun _ _ => rfl, fun _ _ => rfl, fun _ => rfl, fun _ => rfl, fun _ _ _ => rfl, fun _ _ _ => rfl⟩

end CByteStream

/-! ### PDUs -/

/-- `PduHeader_t`. -/
structure PduHeader where
  length : BitVec 32
  version : BitVec 16
  flag : BitVec 16
  serviceId : BitVec 16
  commandId : BitVec 16
  seqNum : BitVec 16
  reversed : BitVec 16
deriving DecidableEq, Repr

/-- What is thrown. -/
structure PduException where
  errorCode : BitVec 32
  errorMsg : String
deriving DecidableEq, Repr

/-- A message, as what it is serialized to. Its size is an `int`. -/
structure MessageLite where
  data : Bytes
  size : data.length < 2 ^ 31

structure ImPdu where
  buf : Bytes
  pduHeader : PduHeader
deriving DecidableEq, Repr

namespace ImPdu

/-- The constructor. It leaves the length out, which is written before it is read. -/
def new : ImPdu where
  buf := []
  pduHeader :=
    { length := 0
      version := imPduVersion
      flag := 0
      serviceId := sidOther
      commandId := 0
      seqNum := 0
      reversed := 0 }

def getLength (pdu : ImPdu) : BitVec 32 :=
  BitVec.ofNat 32 pdu.buf.length

/-- The bytes from the body on. -/
def getBodyData (pdu : ImPdu) : Bytes :=
  pdu.buf.drop imPduHeaderLen

def getBodyLength (pdu : ImPdu) : BitVec 32 :=
  BitVec.ofNat 32 pdu.buf.length - BitVec.ofNat 32 imPduHeaderLen

def getVersion (pdu : ImPdu) : BitVec 16 := pdu.pduHeader.version
def getFlag (pdu : ImPdu) : BitVec 16 := pdu.pduHeader.flag
def getServiceId (pdu : ImPdu) : BitVec 16 := pdu.pduHeader.serviceId
def getCommandId (pdu : ImPdu) : BitVec 16 := pdu.pduHeader.commandId
def getSeqNum (pdu : ImPdu) : BitVec 16 := pdu.pduHeader.seqNum

def write (pdu : ImPdu) (bytes : Bytes) : ImPdu :=
  { pdu with buf := pdu.buf ++ bytes }

/-- Bytes are written over the buffer at a position. -/
def patch (pdu : ImPdu) (position : Nat) (bytes : Bytes) : ImPdu :=
  { pdu with
    buf := (pdu.buf.take position ++ bytes ++
      pdu.buf.drop (position + bytes.length)).take pdu.buf.length }

section Stream

variable (stream : CByteStream)

def writeHeader (pdu : ImPdu) : ImPdu :=
  let header := pdu.pduHeader
  ((((((pdu.patch 0 (stream.writeInt32 pdu.getLength)).patch 4
    (stream.writeUint16 header.version)).patch 6
    (stream.writeUint16 header.flag)).patch 8
    (stream.writeUint16 header.serviceId)).patch 10
    (stream.writeUint16 header.commandId)).patch 12
    (stream.writeUint16 header.seqNum)).patch 14
    (stream.writeUint16 header.reversed)

def setVersion (pdu : ImPdu) (version : BitVec 16) : ImPdu :=
  pdu.patch 4 (stream.writeUint16 version)

def setFlag (pdu : ImPdu) (flag : BitVec 16) : ImPdu :=
  pdu.patch 6 (stream.writeUint16 flag)

def setServiceId (pdu : ImPdu) (serviceId : BitVec 16) : ImPdu :=
  pdu.patch 8 (stream.writeUint16 serviceId)

def setCommandId (pdu : ImPdu) (commandId : BitVec 16) : ImPdu :=
  pdu.patch 10 (stream.writeUint16 commandId)

def setSeqNum (pdu : ImPdu) (seqNum : BitVec 16) : ImPdu :=
  pdu.patch 12 (stream.writeUint16 seqNum)

/-- `SetPBMsg`: the buffer is emptied, room for the header is left, with whatever it holds, and
the data and the header are written. -/
def setPBMsg (pdu : ImPdu) (fresh : Vector UInt8 imPduHeaderLen) (msg : MessageLite) : ImPdu :=
  ((({ pdu with buf := [] } : ImPdu).write fresh.toList).write msg.data).writeHeader stream

/-! ### Received bytes -/

/-- `ReadPduHeader`. -/
def readPduHeader (pdu : ImPdu) (buf : Bytes) (len : Nat) : ImPdu :=
  if imPduHeaderLen ≤ len then
    let length := stream.next32 buf 0
    let version := stream.next16 buf length.2
    let flag := stream.next16 buf version.2
    let serviceId := stream.next16 buf flag.2
    let commandId := stream.next16 buf serviceId.2
    let seqNum := stream.next16 buf commandId.2
    let reversed := stream.next16 buf seqNum.2
    { pdu with
      pduHeader :=
        { length := length.1
          version := version.1
          flag := flag.1
          serviceId := serviceId.1
          commandId := commandId.1
          seqNum := seqNum.1
          reversed := reversed.1 } }
  else pdu

/-- `IsPduAvailable`, for the bytes from `buf` on: the length of the PDU, if there is one. -/
def isPduAvailable (buf : Bytes) (len : Nat) : Except PduException (Option (BitVec 32)) :=
  if len < imPduHeaderLen then .ok none
  else
    let pduLen := stream.readUint32 buf
    if pduLen.toNat > len then .ok none
    else if 0 = pduLen then .error ⟨1, "pdu_len is 0"⟩
    else .ok (some pduLen)

def readPdu (buf : Bytes) (len : Nat) : Except PduException (Option ImPdu) := do
  match ← isPduAvailable stream buf len with
  | none => return none
  | some pduLen =>
      return some ((new.write (buf.take pduLen.toNat)).readPduHeader stream buf imPduHeaderLen)

end Stream

end ImPdu

/-! ### What is there -/

/-- The length that received bytes start with. -/
def lengthField (buf : Bytes) : Nat :=
  ofBigEndian (buf.take 4)

theorem lengthField_lt (buf : Bytes) : lengthField buf < 2 ^ 32 := by
  have range := ofBigEndian_lt (buf.take 4)
  have four : (buf.take 4).length ≤ 4 := List.length_take_le 4 buf
  have power : 256 ^ (buf.take 4).length ≤ 256 ^ 4 := Nat.pow_le_pow_right (by decide) four
  unfold lengthField
  omega

namespace ImPdu

variable {stream : CByteStream}

/-- What `IsPduAvailable` says of the length that the bytes start with. -/
theorem isPduAvailable_eq (integers : stream.BigEndian) (buf : Bytes) :
    isPduAvailable stream buf buf.length =
      if buf.length < imPduHeaderLen ∨ lengthField buf > buf.length then .ok none
      else if lengthField buf = 0 then .error ⟨1, "pdu_len is 0"⟩
      else .ok (some (BitVec.ofNat 32 (lengthField buf))) := by
  have header : imPduHeaderLen = 16 := rfl
  unfold isPduAvailable
  by_cases short : buf.length < imPduHeaderLen
  · rw [if_pos short, if_pos (.inl short)]
  · have value : stream.readUint32 buf = BitVec.ofNat 32 (lengthField buf) :=
      integers.readUint32 buf (by omega)
    have range := lengthField_lt buf
    have number : (BitVec.ofNat 32 (lengthField buf)).toNat = lengthField buf := by
      rw [BitVec.toNat_ofNat, Nat.mod_eq_of_lt range]
    rw [if_neg short]
    simp only [value, number]
    by_cases long : lengthField buf > buf.length
    · rw [if_pos long, if_pos (.inr long)]
    · rw [if_neg long, if_neg (not_or.mpr ⟨short, long⟩)]
      by_cases zero : lengthField buf = 0
      · rw [zero]
        rfl
      · have positive : ¬(0 = BitVec.ofNat 32 (lengthField buf)) := by
          intro same
          rw [← same] at number
          exact zero number.symm
        rw [if_neg positive, if_neg zero]

theorem isPduAvailable_some (integers : stream.BigEndian) {buf : Bytes} {pduLen : BitVec 32} :
    isPduAvailable stream buf buf.length = .ok (some pduLen) ↔
      imPduHeaderLen ≤ buf.length ∧ pduLen.toNat ≤ buf.length ∧ 0 < pduLen.toNat ∧
        pduLen.toNat = lengthField buf := by
  have range := lengthField_lt buf
  have number : (BitVec.ofNat 32 (lengthField buf)).toNat = lengthField buf := by
    rw [BitVec.toNat_ofNat, Nat.mod_eq_of_lt range]
  rw [isPduAvailable_eq integers]
  split
  · refine iff_of_false nofun ?_
    omega
  · split
    · refine iff_of_false nofun ?_
      omega
    · constructor
      · intro same
        cases same
        omega
      · rintro ⟨_, _, _, same⟩
        congr 2
        apply BitVec.eq_of_toNat_eq
        omega

/-- What `ReadPdu` makes of bytes that are there. -/
theorem readPdu_of_available {buf : Bytes} {pduLen : BitVec 32}
    (available : isPduAvailable stream buf buf.length = .ok (some pduLen)) :
    readPdu stream buf buf.length =
      .ok (some ((new.write (buf.take pduLen.toNat)).readPduHeader stream buf
        imPduHeaderLen)) := by
  unfold readPdu
  rw [available]
  rfl

/-- Reading the header leaves the bytes. -/
theorem readPduHeader_buf (pdu : ImPdu) (buf : Bytes) (len : Nat) :
    (pdu.readPduHeader stream buf len).buf = pdu.buf := by
  unfold readPduHeader
  split
  · rfl
  · rfl

end ImPdu

end AChat.Base
