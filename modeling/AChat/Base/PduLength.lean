import AChat.Base.ImPdu

/-!
Contract: for which received bytes the length of an accepted PDU is sane.

Nothing compares the length with the size of the header. A length of 1 to 15 is accepted,
and the length of the body, which is what is left of it without the header, wraps.
-/

namespace AChat.Base

open Lib

namespace ImPdu

variable {stream : CByteStream}

/-- An accepted PDU has a header, is all there, and has as its body what stands behind the
header. -/
def SaneLength (stream : CByteStream) (buf : Bytes) : Prop :=
  ∀ pduLen, isPduAvailable stream buf buf.length = .ok (some pduLen) →
    imPduHeaderLen ≤ pduLen.toNat ∧ pduLen.toNat ≤ buf.length ∧
      ∃ pdu, readPdu stream buf buf.length = .ok (some pdu) ∧
        pdu.getBodyLength.toNat + imPduHeaderLen = pduLen.toNat ∧
        pdu.getBodyData.take pdu.getBodyLength.toNat =
          (buf.take pduLen.toNat).drop imPduHeaderLen

theorem getBodyLength_of_le {pdu : ImPdu} (header : imPduHeaderLen ≤ pdu.buf.length)
    (fits : pdu.buf.length < 2 ^ 32) :
    pdu.getBodyLength.toNat + imPduHeaderLen = pdu.buf.length := by
  have sixteen : imPduHeaderLen = 16 := rfl
  unfold getBodyLength
  rw [BitVec.toNat_sub, BitVec.toNat_ofNat, BitVec.toNat_ofNat, Nat.mod_eq_of_lt fits]
  omega

/-- With a header, the body is what stands behind it. -/
theorem body_eq {pdu : ImPdu} (header : imPduHeaderLen ≤ pdu.buf.length)
    (fits : pdu.buf.length < 2 ^ 32) :
    pdu.getBodyData.take pdu.getBodyLength.toNat = pdu.buf.drop imPduHeaderLen := by
  have length := getBodyLength_of_le header fits
  apply List.take_of_length_le
  unfold getBodyData
  rw [List.length_drop]
  omega

/-- The lengths of accepted PDUs are sane exactly when there is no header, or its length is not
one of 1 to 15. -/
theorem saneLength_iff (integers : stream.BigEndian) (buf : Bytes) :
    SaneLength stream buf ↔
      buf.length < imPduHeaderLen ∨ ¬(1 ≤ lengthField buf ∧ lengthField buf < imPduHeaderLen) := by
  have range := lengthField_lt buf
  constructor
  · intro sane
    by_contra bad
    rw [not_or, not_not] at bad
    obtain ⟨long, positive, small⟩ := bad
    have number : (BitVec.ofNat 32 (lengthField buf)).toNat = lengthField buf := by
      rw [BitVec.toNat_ofNat, Nat.mod_eq_of_lt range]
    have available : isPduAvailable stream buf buf.length =
        .ok (some (BitVec.ofNat 32 (lengthField buf))) := by
      refine (isPduAvailable_some integers).mpr ⟨?_, ?_, ?_, number⟩
      · omega
      · omega
      · omega
    have header := (sane _ available).1
    omega
  · intro good pduLen available
    obtain ⟨long, whole, positive, same⟩ := (isPduAvailable_some integers).mp available
    have header : imPduHeaderLen ≤ pduLen.toNat := by
      rcases good with short | sane
      · omega
      · omega
    have length : (buf.take pduLen.toNat).length = pduLen.toNat := List.length_take_of_le whole
    have bytes : ((new.write (buf.take pduLen.toNat)).readPduHeader stream buf
        imPduHeaderLen).buf = buf.take pduLen.toNat := readPduHeader_buf _ _ _
    refine ⟨header, whole, _, readPdu_of_available available, ?_, ?_⟩
    · rw [getBodyLength_of_le (by rw [bytes]; omega) (by rw [bytes]; omega), bytes, length]
    · rw [body_eq (by rw [bytes]; omega) (by rw [bytes]; omega), bytes]

theorem saneLength_header_only :
    SaneLength .network [0, 0, 0, 16, 0, 0, 0, 0, 0, 0, 0, 0, 0, 0, 0, 0] :=
  (saneLength_iff CByteStream.bigEndian_network _).mpr (.inr (by decide))

/-- The length 1 is accepted, and the body counts as `2 ^ 32 - 15` bytes long. -/
theorem length_one_accepted :
    ¬SaneLength .network [0, 0, 0, 1, 0, 0, 0, 0, 0, 0, 0, 0, 0, 0, 0, 0] ∧
      (readPdu .network [0, 0, 0, 1, 0, 0, 0, 0, 0, 0, 0, 0, 0, 0, 0, 0] 16).toOption.map
        (fun pdu => pdu.map fun pdu => pdu.getBodyLength.toNat) = some (some (2 ^ 32 - 15)) := by
  refine ⟨?_, by decide⟩
  intro sane
  exact absurd (sane 1 (by decide)).1 (by decide)

end ImPdu

end AChat.Base
