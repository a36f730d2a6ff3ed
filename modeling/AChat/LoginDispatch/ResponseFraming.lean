import AChat.Lib.MessageHead
import AChat.LoginDispatch.LeastLoaded

/-!
Contract: the framing of the HTTP answers of the dispatcher.

A response is read as a client reads it: the head ends at the first blank line, and the
content length says how many bytes of body follow.

Owns: when the bytes that are sent are a whole response with the whole JSON text.

Does not own: the jsoncpp writer, which is a parameter.
-/

namespace AChat.LoginDispatch

open AChat.Lib

/-- A whole HTTP response: its content length is the size of the body, which is this text. -/
def WellFramed (sent text : Bytes) : Prop :=
  ∃ fields body,
    splitHead sent = some (headOf (utf8 "HTTP/1.1 200 OK" :: fields), body) ∧
    (∀ line ∈ fields, Line line) ∧
    utf8 "Content-Length:" ++ decimal body.length ∈ fields ∧ body = text

/-- The fields of a response with a content of this length. -/
def responseFields (length : Nat) : List Bytes :=
  [utf8 "Connection:close", utf8 "Content-Length:" ++ decimalInt (BitVec.ofNat 32 length).toInt,
    utf8 "Content-Type:text/html;charset=utf-8"]

theorem decimalInt_plain (value : Int) : 13 ∉ decimalInt value := by
  have digits : 13 ∉ decimal value.natAbs := by
    intro member
    obtain ⟨digit, small, is⟩ := digit_of_mem_decimal member
    have number := congrArg UInt8.toNat is
    rw [toNat_digitByte small] at number
    change 13 = 48 + digit at number
    omega
  unfold decimalInt
  split
  · intro member
    rcases List.mem_cons.mp member with minus | later
    · exact absurd minus (by decide)
    · exact digits later
  · exact digits

theorem lines_proper (length : Nat) :
    ∀ line ∈ utf8 "HTTP/1.1 200 OK" :: responseFields length, Line line := by
  have fixed : Line (utf8 "HTTP/1.1 200 OK") ∧ Line (utf8 "Connection:close") ∧
      13 ∉ utf8 "Content-Length:" ∧ utf8 "Content-Length:" ≠ [] ∧
      Line (utf8 "Content-Type:text/html;charset=utf-8") := by
    decide +kernel
  obtain ⟨status, connection, plain, occupied, contentType⟩ := fixed
  intro line among
  simp only [responseFields, List.mem_cons, List.not_mem_nil, or_false] at among
  rcases among with rfl | rfl | rfl | rfl
  · exact status
  · exact connection
  · refine ⟨?_, fun empty => occupied (List.append_eq_nil_iff.mp empty).1⟩
    intro member
    rcases List.mem_append.mp member with name | number
    · exact plain name
    · exact decimalInt_plain _ number
  · exact contentType

/-- The format string, line by line. -/
theorem httpResponseHtml_eq (length : Nat) (content : Bytes) :
    httpResponseHtml length content
      = headOf (utf8 "HTTP/1.1 200 OK" :: responseFields length) ++ blankLine ++ content := by
  have front : utf8 "HTTP/1.1 200 OK\r\nConnection:close\r\nContent-Length:"
      = utf8 "HTTP/1.1 200 OK" ++ 13 :: 10 :: (utf8 "Connection:close" ++ 13 :: 10 ::
        utf8 "Content-Length:") := by
    decide +kernel
  have behind : utf8 "\r\nContent-Type:text/html;charset=utf-8\r\n\r\n"
      = 13 :: 10 :: utf8 "Content-Type:text/html;charset=utf-8" ++ blankLine := by
    decide +kernel
  unfold httpResponseHtml responseFields
  rw [front, behind]
  simp [headOf]

theorem splitHead_response (length : Nat) (content : Bytes) :
    splitHead (httpResponseHtml length content)
      = some (headOf (utf8 "HTTP/1.1 200 OK" :: responseFields length), content) := by
  rw [httpResponseHtml_eq]
  exact splitHead_headOf (List.cons_ne_nil _ _) (lines_proper length) content

theorem cStr_isStart (text : Bytes) : cStr text <+: text :=
  List.takeWhile_prefix _

section Response

variable {toStyledString : JsonObject → Bytes} {value : JsonObject}

/-- A framed answer was not cut. -/
theorem whole_of_wellFramed
    (framed : WellFramed (httpSend toStyledString value).sent (toStyledString value)) :
    (httpSend toStyledString value).sent = wholeResponse toStyledString value := by
  obtain ⟨fields, body, split, _, _, rfl⟩ := framed
  -- What is sent is the start of the formatted response.
  have sentPrefix : (httpSend toStyledString value).sent <+:
      httpResponseHtml (toStyledString value).length (cStr (toStyledString value)) :=
    (cStr_isStart _).trans (List.take_prefix _ _)
  obtain ⟨more, whole⟩ := sentPrefix
  have further := splitHead_append split more
  rw [whole, splitHead_response, Option.some.injEq, Prod.mk.injEq] at further
  have content : cStr (toStyledString value) = toStyledString value ++ more := further.2
  have shorter := (cStr_isStart (toStyledString value)).length_le
  rw [content, List.length_append] at shorter
  have nothing : more = [] := List.eq_nil_of_length_eq_zero (by omega)
  rw [nothing, List.append_nil] at whole content
  rw [whole, content]
  rfl

/-- An answer that fits is framed. -/
theorem wellFramed_of_fits (fits : FitsArray toStyledString value) :
    WellFramed (httpSend toStyledString value).sent (toStyledString value) := by
  have size : httpResponseHtmlMax = 1024 := rfl
  have whole := (httpSend_whole_iff value).mpr fits
  have length : (toStyledString value).length < 2147483648 := by
    have short := fits.1
    rw [wholeResponse, httpResponseHtml_eq, List.length_append] at short
    omega
  have number : decimalInt (BitVec.ofNat 32 (toStyledString value).length).toInt
      = decimal (toStyledString value).length := by
    have positive : (BitVec.ofNat 32 (toStyledString value).length).toInt
        = ((toStyledString value).length : Int) := by
      rw [BitVec.toInt_eq_toNat_of_lt, BitVec.toNat_ofNat]
      · omega
      · rw [BitVec.toNat_ofNat]
        omega
    rw [positive]
    rfl
  refine ⟨responseFields (toStyledString value).length, toStyledString value, ?_, ?_, ?_, rfl⟩
  · rw [whole]
    exact splitHead_response _ _
  · exact fun line among => lines_proper _ line (List.mem_cons_of_mem _ among)
  · rw [← number]
    exact List.mem_cons_of_mem _ List.mem_cons_self

end Response

/-- On every table and configuration, the answer of the HTTP handler is a whole response with the
whole JSON text exactly when the response with the answer that the table asks for fits into the
array. -/
theorem wellFramed_iff (config : Config) (dispatcher : Dispatcher) (peerIp : String)
    (toStyledString : JsonObject → Bytes) :
    WellFramed (HttpConn.handleMsgServRequest toStyledString config dispatcher peerIp).sent
        (toStyledString
          (HttpConn.handleMsgServRequest toStyledString config dispatcher peerIp).value) ↔
      ∀ value, Due config peerIp dispatcher.servers value → FitsArray toStyledString value := by
  obtain ⟨due, dueHolds, sends⟩ := http_due config dispatcher peerIp toStyledString
  rw [sends]
  constructor
  · intro framed value valueDue
    rw [valueDue.unique dueHolds]
    exact (httpSend_whole_iff due).mp (whole_of_wellFramed framed)
  · intro fits
    exact wellFramed_of_fits (fits due dueHolds)

/-- The discovery address has 907 characters. -/
def longDiscovery : Config :=
  ⟨"http://127.0.0.1:8600/", "http://" ++ String.ofList (List.replicate 900 'd')⟩

/-- The answer to a client ends in the middle of the discovery address. -/
theorem wellFramed_longDiscovery :
    ¬ WellFramed
      (HttpConn.handleMsgServRequest styledAnswer longDiscovery oneServer "192.168.0.7").sent
      (styledAnswer
        (HttpConn.handleMsgServRequest styledAnswer longDiscovery oneServer "192.168.0.7").value) := by
  obtain ⟨due, _, sends⟩ := http_due longDiscovery oneServer "192.168.0.7" styledAnswer
  have lengths :
      (HttpConn.handleMsgServRequest styledAnswer longDiscovery oneServer
        "192.168.0.7").sent.length = 1023 ∧
      (wholeResponse styledAnswer (HttpConn.handleMsgServRequest styledAnswer longDiscovery
        oneServer "192.168.0.7").value).length ≠ 1023 := by
    decide +kernel
  intro framed
  rw [sends] at framed lengths
  have whole := congrArg List.length (whole_of_wellFramed framed)
  rw [lengths.1] at whole
  exact lengths.2 whole.symm

end AChat.LoginDispatch
