import AChat.Base.ImConn
import AChat.DbProxy.ProxyConn
import AChat.Net.BufferContent

/-!
Contract: what `onRead` of a proxy connection does with the bytes it is called for.

It looks for PDUs in the memory of the buffer object itself and not in the bytes that can
be read, takes nothing out of the buffer, and has no way out of its loop but an exception
or a null pointer. So it returns from no read event, while the loop of `ImConn::onRead`
serves the same stream.

What memory holds from the address of the buffer object on is a parameter.
-/

namespace AChat.DbProxy

open Lib Net Base

/-- The input buffer, what the handlers work on, and the bytes that were handed to
`HandlePduBuf`. -/
structure ProxyReading (Server : Type) where
  inputBuffer : Buffer
  server : Server
  handed : List Bytes

/-- How `onRead` ends other than by returning. -/
inductive ReadFailure where
  | thrown (exception : PduException)
  | nullPointer
deriving DecidableEq, Repr

namespace ProxyReading

variable {Server : Type} (stream : CByteStream) (object : Buffer → Server → Bytes)
  (getHandler : BitVec 16 → Option (Server → Base.ImPdu → Server))

/-- `HandlePduBuf`. It follows the pointer that `ReadPdu` returns. -/
def handlePduBuf (server : Server) (pduBuf : Bytes) (pduLen : Nat) :
    Except ReadFailure Server :=
  match Base.ImPdu.readPdu stream pduBuf pduLen with
  | .error exception => .error (.thrown exception)
  | .ok none => .error .nullPointer
  | .ok (some pdu) =>
      if pdu.getCommandId.toNat = cidOtherHeartbeat then .ok server
      else
        match getHandler pdu.getCommandId with
        | some handler => .ok (handler server pdu)
        | none => .ok server

/-- One turn of the two loops of `onRead`: the inner one goes on while a PDU is available, and
the outer one starts it again when none is. -/
def onReadTurn (reading : ProxyReading Server) :
    Turn (ProxyReading Server) (Except ReadFailure (ProxyReading Server)) :=
  let memory := object reading.inputBuffer reading.server
  match Base.ImPdu.isPduAvailable stream memory
    (reading.inputBuffer.writableBytes % 2 ^ 32) with
  | .error exception => .leave (.error (.thrown exception))
  | .ok none => .again reading
  | .ok (some pduLen) =>
      match handlePduBuf stream getHandler reading.server memory pduLen.toNat with
      | .error failure => .leave (.error failure)
      | .ok server =>
          .again
            { reading with
              server := server
              handed := reading.handed ++ [memory.take pduLen.toNat] }

/-- Read events: each puts its bytes into the buffer, and `onRead` returns. -/
inductive Returns : ProxyReading Server → List Bytes → ProxyReading Server → Prop where
  | nil (reading : ProxyReading Server) : Returns reading [] reading
  | read {reading next last : ProxyReading Server} {arrived : Bytes} {later : List Bytes}
      {buffer : Buffer} :
      reading.inputBuffer.append arrived true = some buffer →
      Leaves (onReadTurn stream object getHandler) { reading with inputBuffer := buffer }
        (.ok next) →
      Returns next later last → Returns reading (arrived :: later) last

/-- The constructors. -/
def new (server : Server) : ProxyReading Server :=
  ⟨.new kInitialSize, server, []⟩

/-- What is asked of read events: `onRead` returns from all of them, has handed over these PDUs,
once and in order, has left this tail, and has done what the loop of `ImConn::onRead` does. -/
def Receives (server : Server) (handlePdu : Server → Base.ImPdu → Server)
    (chunks pdus : List Bytes) (tail : Bytes) : Prop :=
  ∃ last, Returns stream object getHandler (new server) chunks last ∧ last.handed = pdus ∧
    last.inputBuffer.content = tail ∧
    (ImConn.readEvents stream (fun server pdu => .ok (handlePdu server pdu)) server
      chunks).1.handled.map Base.ImPdu.buf = last.handed ∧
    (ImConn.readEvents stream (fun server pdu => .ok (handlePdu server pdu)) server chunks).2 =
      last.inputBuffer.content

/-! ### The loop -/

variable {stream object getHandler}

/-- The loop is left with a failure or not at all. -/
theorem failure_of_leaves {reading : ProxyReading Server}
    {result : Except ReadFailure (ProxyReading Server)}
    (left : Leaves (onReadTurn stream object getHandler) reading result) :
    ∃ failure, result = .error failure := by
  induction left with
  | leave leaves =>
      unfold onReadTurn at leaves
      simp only at leaves
      split at leaves
      · cases leaves
        exact ⟨_, rfl⟩
      · cases leaves
      · split at leaves
        · cases leaves
          exact ⟨_, rfl⟩
        · cases leaves
  | again _ _ inductionHypothesis => exact inductionHypothesis

/-- Where no PDU is available the loop is never left. -/
theorem not_leaves_of_none {reading : ProxyReading Server}
    {result : Except ReadFailure (ProxyReading Server)}
    (none : Base.ImPdu.isPduAvailable stream (object reading.inputBuffer reading.server)
      (reading.inputBuffer.writableBytes % 2 ^ 32) = .ok none) :
    ¬Leaves (onReadTurn stream object getHandler) reading result := by
  apply @not_leaves _ _ _ _ _ fun other => other = reading
  · rintro other rfl
    refine ⟨other, ?_, rfl⟩
    unfold onReadTurn
    simp only
    rw [none]
  · rfl

/-- There is no return from a read event. -/
theorem not_returns_read {reading last : ProxyReading Server} {arrived : Bytes}
    {later : List Bytes} :
    ¬Returns stream object getHandler reading (arrived :: later) last := by
  intro returns
  cases returns with
  | read _ left _ =>
      obtain ⟨failure, same⟩ := failure_of_leaves left
      cases same

/-- Of a stream of PDUs that is cut into read events, the PDUs are received exactly when there
is no read event. -/
theorem receives_iff (integers : stream.BigEndian) (server : Server)
    (handlePdu : Server → Base.ImPdu → Server) {chunks pdus : List Bytes} {tail : Bytes}
    (wellFormed : ∀ pdu ∈ pdus, WellFormedPdu pdu) (incomplete : IncompletePdu tail)
    (whole : chunks.flatten = pdus.flatten ++ tail) :
    Receives stream object getHandler server handlePdu chunks pdus tail ↔ chunks = [] := by
  constructor
  · rintro ⟨last, returns, _⟩
    cases chunks with
    | nil => rfl
    | cons arrived later => exact absurd returns not_returns_read
  · rintro rfl
    -- Without a read event nothing was sent, and the constructors leave nothing.
    have served := ImConn.handled_readEvents integers handlePdu server wellFormed incomplete whole
    have empty := Buffer.content_new kInitialSize
    exact ⟨new server, .nil _, served.1, empty.trans served.2, rfl, empty.symm⟩

/-- A PDU that is a header only. -/
def headerOnly : Bytes :=
  [0, 0, 0, 16, 0, 1, 0, 0, 0, 7, 0, 0, 0, 0, 0, 0]

theorem receives_header_only :
    Receives .network (fun _ _ => []) (fun _ => none) () (fun _ _ => ()) [headerOnly] [headerOnly]
        [] ↔
      [headerOnly] = [] :=
  receives_iff CByteStream.bigEndian_network () (fun _ _ => ())
    (by
      intro pdu member
      rw [List.mem_singleton.mp member]
      exact ⟨by decide, by decide⟩)
    (.inl (by decide)) rfl

/-- Whatever memory holds and whatever the handlers are, one PDU in one read event is not
received. The loop of `ImConn::onRead` handles it. -/
theorem header_only_not_received :
    WellFormedPdu headerOnly ∧
      (¬∃ (object : Buffer → Unit → Bytes)
          (getHandler : BitVec 16 → Option (Unit → Base.ImPdu → Unit)),
        Receives .network object getHandler () (fun _ _ => ()) [headerOnly] [headerOnly] []) ∧
      (ImConn.readEvents .network (fun _ _ => .ok ()) () [headerOnly]).1.handled.map
        Base.ImPdu.buf = [headerOnly] := by
  refine ⟨⟨by decide, by decide⟩, ?_, by decide⟩
  rintro ⟨object, getHandler, last, returns, _⟩
  exact not_returns_read returns

end ProxyReading

end AChat.DbProxy
