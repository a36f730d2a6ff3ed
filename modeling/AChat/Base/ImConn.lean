import AChat.Base.PduLength
import AChat.Lib.Framing

/-!
Contract: how `onRead` of a connection cuts the received bytes into PDUs.

Every PDU that is there is handed to `HandlePdu` once and in order, and is taken out of
the buffer. What is not yet complete stays.

Owns: the loop of `onRead`, and the framing that it follows.
-/

namespace AChat.Base

open Lib

/-- A connection: what its handler works on, what was handed to it, and how often `OnClose` was
called. -/
structure ImConn (Server : Type) where
  server : Server
  handled : List ImPdu
  closes : Nat

namespace ImPdu

variable {stream : CByteStream}

/-- What is cut off is a positive number of bytes that are there. -/
theorem getLength_of_readPdu {buf : Bytes} {pdu : ImPdu}
    (read : readPdu stream buf buf.length = .ok (some pdu)) :
    0 < pdu.getLength.toNat ∧ pdu.getLength.toNat ≤ buf.length := by
  unfold readPdu at read
  cases available : isPduAvailable stream buf buf.length with
  | error thrown =>
      rw [available] at read
      cases read
  | ok found =>
      rw [available] at read
      cases found with
      | none => cases read
      | some pduLen =>
          cases read
          unfold isPduAvailable at available
          split at available
          · cases available
          · simp only at available
            split at available
            · cases available
            · rename_i whole
              split at available
              · cases available
              · rename_i positive
                cases available
                have taken : (buf.take (stream.readUint32 buf).toNat).length =
                    (stream.readUint32 buf).toNat := List.length_take_of_le (by omega)
                have length : ((new.write (buf.take (stream.readUint32 buf).toNat)).readPduHeader
                    stream buf imPduHeaderLen).getLength = stream.readUint32 buf := by
                  unfold getLength
                  rw [readPduHeader_buf]
                  change BitVec.ofNat 32 (buf.take _).length = _
                  rw [taken, BitVec.ofNat_toNat, BitVec.setWidth_eq]
                have nonzero : (stream.readUint32 buf).toNat ≠ 0 := fun zero =>
                  positive (BitVec.eq_of_toNat_eq zero.symm)
                rw [length]
                omega

end ImPdu

namespace ImConn

variable {Server : Type} (stream : CByteStream)

def onClose (conn : ImConn Server) : ImConn Server :=
  { conn with closes := conn.closes + 1 }

/-- The PDU goes to `HandlePdu`. -/
def deliver (handlePdu : Server → ImPdu → Server) (conn : ImConn Server) (pdu : ImPdu) :
    ImConn Server :=
  { conn with server := handlePdu conn.server pdu, handled := conn.handled ++ [pdu] }

/-- One turn of the loop of `onRead`, with the bytes in `inBuf`. A handler that throws ends the
loop. -/
def onReadTurn (handlePdu : Server → ImPdu → Except PduException Server)
    (reading : ImConn Server × Bytes) : Turn (ImConn Server × Bytes) (ImConn Server × Bytes) :=
  match ImPdu.readPdu stream reading.2 reading.2.length with
  | .error _ => .leave (reading.1.onClose, reading.2)
  | .ok none => .leave reading
  | .ok (some pdu) =>
      match handlePdu reading.1.server pdu with
      | .error _ =>
          .leave ({ reading.1 with handled := reading.1.handled ++ [pdu] }.onClose, reading.2)
      | .ok server =>
          .again
            ({ reading.1 with server := server, handled := reading.1.handled ++ [pdu] },
              reading.2.drop pdu.getLength.toNat)

def onReadLoop (handlePdu : Server → ImPdu → Except PduException Server) :
    Loop (ImConn Server × Bytes) (ImConn Server × Bytes) where
  turn := onReadTurn stream handlePdu
  measure := fun reading => reading.2.length
  decreases := by
    intro reading next goes
    unfold onReadTurn at goes
    split at goes
    · cases goes
    · cases goes
    · rename_i pdu read
      have length := ImPdu.getLength_of_readPdu read
      split at goes
      · cases goes
      · cases goes
        rw [List.length_drop]
        omega

def onRead (handlePdu : Server → ImPdu → Except PduException Server)
    (reading : ImConn Server × Bytes) : ImConn Server × Bytes :=
  (onReadLoop stream handlePdu).result reading

/-- A read event: bytes are put into `inBuf`, and `onRead` is called. -/
def readEvent (handlePdu : Server → ImPdu → Except PduException Server)
    (reading : ImConn Server × Bytes) (arrived : Bytes) : ImConn Server × Bytes :=
  onRead stream handlePdu (reading.1, reading.2 ++ arrived)

/-- Read events from an empty buffer on. -/
def readEvents (handlePdu : Server → ImPdu → Except PduException Server) (server : Server)
    (chunks : List Bytes) : ImConn Server × Bytes :=
  chunks.foldl (readEvent stream handlePdu) (⟨server, [], 0⟩, [])

end ImConn

namespace ImPdu

variable {stream : CByteStream}

/-! ### The framing -/

/-- What stands at the front of the received bytes. -/
def front (stream : CByteStream) (buf : Bytes) : Front UInt8 ImPdu :=
  match readPdu stream buf buf.length with
  | .error _ => .illegal
  | .ok none => .more
  | .ok (some pdu) => .frame pdu (buf.drop pdu.getLength.toNat)

/-- The PDU at the front of these bytes. -/
def first (stream : CByteStream) (buf : Bytes) : ImPdu :=
  (new.write (buf.take (lengthField buf))).readPduHeader stream buf imPduHeaderLen

theorem first_buf (buf : Bytes) : (first stream buf).buf = buf.take (lengthField buf) :=
  readPduHeader_buf _ _ _

/-- The length that the bytes start with decides what stands at the front. -/
theorem front_eq (integers : stream.BigEndian) (buf : Bytes) :
    front stream buf =
      if buf.length < imPduHeaderLen ∨ lengthField buf > buf.length then .more
      else if lengthField buf = 0 then .illegal
      else .frame (first stream buf) (buf.drop (lengthField buf)) := by
  have range := lengthField_lt buf
  have number : (BitVec.ofNat 32 (lengthField buf)).toNat = lengthField buf := by
    rw [BitVec.toNat_ofNat, Nat.mod_eq_of_lt range]
  have available := isPduAvailable_eq integers buf
  unfold front
  split at available
  · rename_i missing
    rw [if_pos missing]
    unfold readPdu
    rw [available]
    rfl
  · rename_i there
    rw [if_neg there]
    split at available
    · rename_i zero
      rw [if_pos zero]
      unfold readPdu
      rw [available]
      rfl
    · rename_i positive
      have taken : (buf.take (lengthField buf)).length = lengthField buf :=
        List.length_take_of_le (by omega)
      have length : (first stream buf).getLength.toNat = lengthField buf := by
        unfold getLength
        rw [first_buf, taken, number]
      rw [if_neg positive, readPdu_of_available available, number]
      change Front.frame (first stream buf) (buf.drop (first stream buf).getLength.toNat) = _
      rw [length]

theorem lengthField_append {buf : Bytes} (long : imPduHeaderLen ≤ buf.length) (later : Bytes) :
    lengthField (buf ++ later) = lengthField buf := by
  have sixteen : imPduHeaderLen = 16 := rfl
  unfold lengthField
  rw [List.take_append_of_le_length (by omega)]

/-- Bytes inside stay where they are when more bytes come. -/
theorem take_drop_append {buf : Bytes} {position count : Nat}
    (inside : position + count ≤ buf.length) (later : Bytes) :
    ((buf ++ later).drop position).take count = (buf.drop position).take count := by
  rw [List.drop_append_of_le_length (by omega),
    List.take_append_of_le_length (by rw [List.length_drop]; omega)]

theorem next16_append (integers : stream.BigEndian) {buf : Bytes} {position : Nat}
    (inside : position + 2 ≤ buf.length) (later : Bytes) :
    stream.next16 (buf ++ later) position = stream.next16 buf position := by
  rw [integers.next16 buf position inside, ← take_drop_append inside later,
    integers.next16 (buf ++ later) position (by rw [List.length_append]; omega)]

theorem next32_append (integers : stream.BigEndian) {buf : Bytes} {position : Nat}
    (inside : position + 4 ≤ buf.length) (later : Bytes) :
    stream.next32 (buf ++ later) position = stream.next32 buf position := by
  rw [integers.next32 buf position inside, ← take_drop_append inside later,
    integers.next32 (buf ++ later) position (by rw [List.length_append]; omega)]

/-- A PDU that is there stays when more bytes come. -/
theorem there_append {buf : Bytes}
    (there : ¬(buf.length < imPduHeaderLen ∨ lengthField buf > buf.length)) (later : Bytes) :
    ¬((buf ++ later).length < imPduHeaderLen ∨ lengthField buf > (buf ++ later).length) := by
  rw [List.length_append]
  omega

/-- Only the header is read. -/
theorem readPduHeader_append (integers : stream.BigEndian) (pdu : ImPdu) {buf : Bytes}
    (long : imPduHeaderLen ≤ buf.length) (later : Bytes) :
    pdu.readPduHeader stream (buf ++ later) imPduHeaderLen =
      pdu.readPduHeader stream buf imPduHeaderLen := by
  have sixteen : imPduHeaderLen = 16 := rfl
  have word : ∀ position, position + 2 ≤ 16 →
      stream.next16 (buf ++ later) position = stream.next16 buf position := by
    intro position inside
    exact next16_append integers (by omega) later
  have moves : ∀ position, position + 2 ≤ 16 →
      (stream.next16 buf position).2 = position + 2 := by
    intro position inside
    rw [integers.next16 buf position (by omega)]
  have size : stream.next32 (buf ++ later) 0 = stream.next32 buf 0 :=
    next32_append integers (by omega) later
  have behind : (stream.next32 buf 0).2 = 4 := by
    rw [integers.next32 buf 0 (by omega)]
  unfold readPduHeader
  simp only [size, behind, word 4 (by decide), moves 4 (by decide),
    word 6 (by decide), moves 6 (by decide), word 8 (by decide), moves 8 (by decide),
    word 10 (by decide), moves 10 (by decide), word 12 (by decide), moves 12 (by decide),
    word 14 (by decide)]

/-- The PDUs of a stream. -/
def pdus (integers : stream.BigEndian) : Framing UInt8 ImPdu where
  front := front stream
  consumes := by
    intro buf pdu rest found
    rw [front_eq integers] at found
    split at found
    · cases found
    · split at found
      · cases found
      · cases found
        rw [List.length_drop]
        omega
  frame_append := by
    intro buf pdu rest found later
    rw [front_eq integers] at found ⊢
    split at found
    · cases found
    · rename_i there
      have long : imPduHeaderLen ≤ buf.length := by omega
      split at found
      · cases found
      · rename_i positive
        cases found
        have whole : (buf ++ later).take (lengthField buf) = buf.take (lengthField buf) :=
          List.take_append_of_le_length (by omega)
        have same : first stream (buf ++ later) = first stream buf := by
          unfold first
          rw [lengthField_append long, whole, readPduHeader_append integers _ long]
        rw [lengthField_append long, if_neg (there_append there later), if_neg positive, same,
          List.drop_append_of_le_length (by omega)]
  illegal_append := by
    intro buf illegal later
    rw [front_eq integers] at illegal ⊢
    split at illegal
    · cases illegal
    · rename_i there
      have long : imPduHeaderLen ≤ buf.length := by omega
      split at illegal
      · rename_i zero
        rw [lengthField_append long, if_neg (there_append there later), if_pos zero]
      · cases illegal

theorem pdus_front (integers : stream.BigEndian) : (pdus integers).front = front stream :=
  rfl

end ImPdu

/-! ### Reading -/

/-- The bytes of one PDU. -/
def WellFormedPdu (pdu : Bytes) : Prop :=
  imPduHeaderLen ≤ pdu.length ∧ lengthField pdu = pdu.length

/-- A PDU of which something is missing, its header or what is behind it. -/
def IncompletePdu (tail : Bytes) : Prop :=
  tail.length < imPduHeaderLen ∨ tail.length < lengthField tail

namespace ImConn

variable {Server : Type} {stream : CByteStream}

def receiver (integers : stream.BigEndian) (handlePdu : Server → ImPdu → Server) :
    Receiver UInt8 ImPdu (ImConn Server) :=
  ⟨ImPdu.pdus integers, deliver handlePdu, onClose⟩

/-- With a handler that does not throw, the loop of `onRead` follows the framing. -/
theorem onReadTurn_eq (integers : stream.BigEndian) (handlePdu : Server → ImPdu → Server) :
    onReadTurn stream (fun server pdu => .ok (handlePdu server pdu)) =
      (receiver integers handlePdu).turn := by
  funext reading
  unfold onReadTurn Receiver.turn receiver
  rw [ImPdu.pdus_front]
  unfold ImPdu.front
  cases ImPdu.readPdu stream reading.2 reading.2.length with
  | error _ => rfl
  | ok found =>
      cases found with
      | none => rfl
      | some pdu => rfl

theorem readEvent_eq (integers : stream.BigEndian) (handlePdu : Server → ImPdu → Server) :
    readEvent stream (fun server pdu => .ok (handlePdu server pdu)) =
      (receiver integers handlePdu).arrive := by
  funext reading arrived
  have left : Leaves (onReadTurn stream fun server pdu => .ok (handlePdu server pdu))
      (reading.1, reading.2 ++ arrived)
      (readEvent stream (fun server pdu => .ok (handlePdu server pdu)) reading arrived) :=
    (onReadLoop stream fun server pdu => .ok (handlePdu server pdu)).leaves
      (reading.1, reading.2 ++ arrived)
  rw [onReadTurn_eq integers] at left
  exact left.unique ((receiver integers handlePdu).leaves_turn _ _)

theorem first_of_wellFormed {pdu : Bytes} (wellFormed : WellFormedPdu pdu) :
    (ImPdu.first stream pdu).buf = pdu := by
  rw [ImPdu.first_buf, wellFormed.2, List.take_length]

/-- A PDU that is well formed stands at the front of what it starts. -/
theorem front_of_wellFormed (integers : stream.BigEndian) {pdu : Bytes}
    (wellFormed : WellFormedPdu pdu) (later : Bytes) :
    ImPdu.front stream (pdu ++ later) = .frame (ImPdu.first stream pdu) later := by
  have sixteen : imPduHeaderLen = 16 := rfl
  obtain ⟨long, length⟩ := wellFormed
  have here : ImPdu.front stream pdu = .frame (ImPdu.first stream pdu) [] := by
    rw [ImPdu.front_eq integers, if_neg (by omega), if_neg (by omega), length, List.drop_length]
  exact (ImPdu.pdus integers).frame_append here later

theorem front_of_incomplete (integers : stream.BigEndian) {tail : Bytes}
    (incomplete : IncompletePdu tail) : ImPdu.front stream tail = .more := by
  rw [ImPdu.front_eq integers]
  exact if_pos incomplete

theorem handled_foldl (handlePdu : Server → ImPdu → Server) (received : List ImPdu)
    (conn : ImConn Server) :
    (received.foldl (deliver handlePdu) conn).handled = conn.handled ++ received := by
  induction received generalizing conn with
  | nil => exact (List.append_nil _).symm
  | cons pdu rest inductionHypothesis =>
      rw [List.foldl_cons, inductionHypothesis]
      exact List.append_assoc _ _ _

/-- However a stream of PDUs is cut into read events, each PDU is handled once, in order, with
its bytes, and what is not complete stays in the buffer. -/
theorem handled_readEvents (integers : stream.BigEndian) (handlePdu : Server → ImPdu → Server)
    (server : Server) {chunks pdus : List Bytes} {tail : Bytes}
    (wellFormed : ∀ pdu ∈ pdus, WellFormedPdu pdu) (incomplete : IncompletePdu tail)
    (whole : chunks.flatten = pdus.flatten ++ tail) :
    (readEvents stream (fun server pdu => .ok (handlePdu server pdu)) server
        chunks).1.handled.map ImPdu.buf = pdus ∧
      (readEvents stream (fun server pdu => .ok (handlePdu server pdu)) server chunks).2 =
        tail := by
  have nothing : (ImPdu.pdus integers).Stops [] := by
    intro pdu rest found
    exact absurd ((ImPdu.pdus integers).consumes found) (Nat.not_lt_zero _)
  have stops : (ImPdu.pdus integers).Stops tail := by
    intro pdu rest found
    rw [ImPdu.pdus_front, front_of_incomplete integers incomplete] at found
    cases found
  have bytes : (pdus.map (ImPdu.first stream)).map ImPdu.buf = pdus := by
    rw [List.map_map]
    exact (List.map_congr_left fun pdu member =>
      first_of_wellFormed (wellFormed pdu member)).trans (List.map_id pdus)
  have decodes : ∀ pdu ∈ pdus.map (ImPdu.first stream), ∀ later,
      (ImPdu.pdus integers).front (pdu.buf ++ later) = .frame pdu later := by
    intro pdu member later
    obtain ⟨received, inPdus, rfl⟩ := List.mem_map.mp member
    rw [ImPdu.pdus_front, first_of_wellFormed (wellFormed received inPdus)]
    exact front_of_wellFormed integers (wellFormed received inPdus) later
  have cut := (ImPdu.pdus integers).cut_of_encoded _ decodes stops
  have sent : (pdus.map (ImPdu.first stream)).flatMap ImPdu.buf = pdus.flatten := by
    rw [List.flatMap_def, bytes]
  rw [sent] at cut
  unfold readEvents
  rw [readEvent_eq integers]
  refine ⟨?_, ?_⟩
  · have unseen : ∀ conn : ImConn Server,
        ((receiver integers handlePdu).reject conn).handled = conn.handled := fun _ => rfl
    rw [(receiver integers handlePdu).view_arrivals unseen chunks nothing, List.nil_append]
    have all : (receiver integers handlePdu).delivered ⟨server, [], 0⟩ chunks.flatten =
        (pdus.map (ImPdu.first stream)).foldl (deliver handlePdu) ⟨server, [], 0⟩ := by
      unfold Receiver.delivered receiver
      simp only
      rw [whole, cut.1]
    rw [all, handled_foldl, List.nil_append, bytes]
  · rw [(receiver integers handlePdu).rest_arrivals chunks nothing, List.nil_append, whole]
    exact cut.2

end ImConn

end AChat.Base
