import AChat.Base.ImConn
import AChat.Base.ImConnOutput

/-!
Contract: the two ends of a connection between servers, over any order of sends, write events
and arrivals.

The socket between them keeps the order of the bytes and loses none. What the sending end
gives it is decided by the loop of `Send`, and the receiving end cuts what arrives into PDUs.
The socket stands in the place of `TcpConnection::send` and of whatever is to put the bytes
that arrive into `inBuf`, which none of the sources does.

Owns:
- the steps of a link and its runs;
- that the PDUs handled are the first ones sent, in order, each with its bytes, and that what
  is missing of the next ones is in the buffer and under way.

Does not own: sends of which the socket does not take all of the data, and handlers that throw.
-/

namespace AChat.Base

open Lib ImConnOutput ImConnEvent

/-- A link: the sending end, how many of the bytes taken by its socket have arrived, and the
receiving end. -/
structure ImLink (Server : Type) where
  output : ImConnOutput
  arrived : Nat
  reading : ImConn Server × Bytes

inductive ImLinkEvent where
  | send (pdu : Bytes) (rooms : Nat → Int)
  | writable (rooms : Nat → Int) (beyond : Nat → Nat → UInt8)
  | arrive (count : Nat)

namespace ImLinkEvent

/-- The PDUs that were passed to `Send`. -/
def sent : List ImLinkEvent → List Bytes
  | [] => []
  | .send pdu _ :: events => pdu :: sent events
  | _ :: events => sent events

/-- A whole PDU is sent, and the socket takes it. -/
def Regular : ImLinkEvent → Prop
  | .send pdu rooms => WellFormedPdu pdu ∧ TakesAll pdu rooms
  | _ => True

end ImLinkEvent

namespace ImLink

variable {Server : Type} (stream : CByteStream) (handlePdu : Server → ImPdu → Server)

def new (server : Server) : ImLink Server :=
  ⟨ImConnOutput.new, 0, ⟨server, [], 0⟩, []⟩

/-- Taken by the socket of one end, not yet read at the other. -/
def underWay (link : ImLink Server) : Bytes :=
  link.output.accepted.drop link.arrived

/-- What a step leaves behind: `Send` and `onWrite` at one end, and at the other a read event
with some of the bytes under way. -/
inductive Step : ImLink Server → ImLinkEvent → ImLink Server → Prop where
  | send {link : ImLink Server} {pdu : Bytes} {rooms : Nat → Int} {after : ImConnOutput} :
      link.output.Sends pdu rooms after →
      Step link (.send pdu rooms) { link with output := after }
  | writable {link : ImLink Server} {rooms : Nat → Int} {beyond : Nat → Nat → UInt8} :
      Step link (.writable rooms beyond)
        { link with output := link.output.onWrite rooms beyond }
  | arrive {link : ImLink Server} {count : Nat} :
      count ≤ link.underWay.length →
      Step link (.arrive count)
        { link with
          arrived := link.arrived + count
          reading := ImConn.readEvent stream (fun server pdu => .ok (handlePdu server pdu))
            link.reading (link.underWay.take count) }

inductive Runs : ImLink Server → List ImLinkEvent → ImLink Server → Prop where
  | nil {link : ImLink Server} : Runs link [] link
  | cons {link between after : ImLink Server} {event : ImLinkEvent} {events : List ImLinkEvent} :
      Step stream handlePdu link event between → Runs between events after →
      Runs link (event :: events) after

variable {stream handlePdu}

/-! ### The invariant -/

/-- The sending end keeps nothing back, and the receiving end has read, in some pieces, the
bytes that have arrived. -/
structure Carries (stream : CByteStream) (handlePdu : Server → ImPdu → Server) (server : Server)
    (link : ImLink Server) (sent : List Bytes) : Prop where
  idle : Idle link.output sent.flatten
  inside : link.arrived ≤ link.output.accepted.length
  read : ∃ chunks : List Bytes, chunks.flatten = link.output.accepted.take link.arrived ∧
    link.reading
      = ImConn.readEvents stream (fun server pdu => .ok (handlePdu server pdu)) server chunks

theorem carries_new (server : Server) : Carries stream handlePdu server (new server) [] where
  idle := ⟨rfl, rfl, rfl, rfl⟩
  inside := Nat.le_refl 0
  read := ⟨[], rfl, rfl⟩

/-- On an idle connection a send that the socket takes leaves only one state behind. -/
theorem idle_of_sends {output after : ImConnOutput} {sent pdu : Bytes} {rooms : Nat → Int}
    (idle : Idle output sent) (takes : TakesAll pdu rooms) (sends : output.Sends pdu rooms after) :
    Idle after (sent ++ pdu) := by
  obtain ⟨other, otherSends, otherIdle⟩ := idle.of_takesAll takes
  obtain ⟨last, left, rfl⟩ := idle.sends.mp sends
  obtain ⟨otherLast, otherLeft, rfl⟩ := idle.sends.mp otherSends
  cases left.unique otherLeft
  exact otherIdle

theorem Carries.step {server : Server} {link after : ImLink Server} {sent : List Bytes}
    {event : ImLinkEvent} (carries : Carries stream handlePdu server link sent)
    (regular : event.Regular) (step : Step stream handlePdu link event after) :
    Carries stream handlePdu server after (sent ++ ImLinkEvent.sent [event]) := by
  have idle := carries.idle
  have inside := carries.inside
  cases step with
  | @send pdu rooms output sends =>
      have next := idle_of_sends idle regular.2 sends
      have grown : output.accepted = link.output.accepted ++ pdu := by
        rw [next.accepted, idle.accepted]
      refine ⟨?_, ?_, ?_⟩
      · rw [List.flatten_append]
        simpa [ImLinkEvent.sent] using next
      · change link.arrived ≤ output.accepted.length
        rw [grown, List.length_append]
        omega
      · obtain ⟨chunks, pieces, reading⟩ := carries.read
        refine ⟨chunks, ?_, reading⟩
        change _ = output.accepted.take link.arrived
        rw [grown, List.take_append_of_le_length inside]
        exact pieces
  | writable =>
      rw [idle.onWrite]
      simpa [ImLinkEvent.sent] using carries
  | @arrive count few =>
      obtain ⟨chunks, pieces, reading⟩ := carries.read
      unfold underWay at few
      rw [List.length_drop] at few
      refine ⟨?_, ?_, ?_⟩
      · simpa [ImLinkEvent.sent] using idle
      · change link.arrived + count ≤ link.output.accepted.length
        omega
      · refine ⟨chunks ++ [link.underWay.take count], ?_, ?_⟩
        · change _ = link.output.accepted.take (link.arrived + count)
          rw [List.flatten_append, pieces, List.flatten_singleton, List.take_add]
          rfl
        · rw [ImConn.readEvents, List.foldl_append, ← ImConn.readEvents, ← reading]
          rfl

theorem Carries.runs {server : Server} {link after : ImLink Server} {sent : List Bytes}
    {events : List ImLinkEvent} (carries : Carries stream handlePdu server link sent)
    (regular : ∀ event ∈ events, event.Regular) (runs : Runs stream handlePdu link events after) :
    Carries stream handlePdu server after (sent ++ ImLinkEvent.sent events) := by
  induction runs generalizing sent with
  | nil => simpa [ImLinkEvent.sent] using carries
  | @cons link between after event events step rest inductionHypothesis =>
      have first := carries.step (regular event List.mem_cons_self) step
      have later := inductionHypothesis first
        fun other member => regular other (List.mem_cons_of_mem _ member)
      have split : ImLinkEvent.sent (event :: events)
          = ImLinkEvent.sent [event] ++ ImLinkEvent.sent events := by
        cases event <;> rfl
      rw [split, ← List.append_assoc]
      exact later

/-! ### What has been handled -/

theorem wellFormed_of_regular {events : List ImLinkEvent}
    (regular : ∀ event ∈ events, event.Regular) :
    ∀ pdu ∈ ImLinkEvent.sent events, WellFormedPdu pdu := by
  induction events with
  | nil => exact fun _ member => absurd member List.not_mem_nil
  | cons event events inductionHypothesis =>
      have others := inductionHypothesis fun other member =>
        regular other (List.mem_cons_of_mem _ member)
      cases event with
      | send first rooms =>
          intro pdu member
          obtain rfl | later := List.mem_cons.mp member
          · exact (regular _ List.mem_cons_self).1
          · exact others pdu later
      | writable rooms beyond => exact others
      | arrive count => exact others

/-- PDUs as they are cut out of their own bytes. -/
theorem map_first_buf {pdus : List Bytes} (wellFormed : ∀ pdu ∈ pdus, WellFormedPdu pdu) :
    (pdus.map (ImPdu.first stream)).map ImPdu.buf = pdus := by
  rw [List.map_map]
  exact (List.map_congr_left fun pdu member =>
    ImConn.first_of_wellFormed (wellFormed pdu member)).trans (List.map_id pdus)

theorem decodes_first (integers : stream.BigEndian) {pdus : List Bytes}
    (wellFormed : ∀ pdu ∈ pdus, WellFormedPdu pdu) :
    ∀ pdu ∈ pdus.map (ImPdu.first stream), ∀ later,
      (ImPdu.pdus integers).front (pdu.buf ++ later) = .frame pdu later := by
  intro pdu member later
  obtain ⟨bytes, inside, rfl⟩ := List.mem_map.mp member
  rw [ImPdu.pdus_front, ImConn.first_of_wellFormed (wellFormed bytes inside)]
  exact ImConn.front_of_wellFormed integers (wellFormed bytes inside) later

theorem server_foldl (received : List ImPdu) (conn : ImConn Server) :
    (received.foldl (ImConn.deliver handlePdu) conn).server
      = received.foldl handlePdu conn.server := by
  induction received generalizing conn with
  | nil => rfl
  | cons pdu received inductionHypothesis => exact inductionHypothesis _

/-- What the receiving end has done with the bytes it has read. -/
theorem readEvents_view (integers : stream.BigEndian) (server : Server) (chunks : List Bytes) :
    let reading := ImConn.readEvents stream (fun server pdu => .ok (handlePdu server pdu)) server
      chunks
    reading.1.handled = (ImPdu.pdus integers).frames chunks.flatten ∧
      reading.1.server = reading.1.handled.foldl handlePdu server ∧
      reading.2 = (ImPdu.pdus integers).rest chunks.flatten := by
  have nothing : (ImPdu.pdus integers).Stops [] := by
    intro pdu rest found
    exact absurd ((ImPdu.pdus integers).consumes found) (Nat.not_lt_zero _)
  let receiver := ImConn.receiver integers handlePdu
  have seen := @Receiver.view_arrivals _ _ _ receiver (Server × List ImPdu)
    (fun conn => (conn.server, conn.handled)) (fun _ => rfl) chunks ⟨server, [], 0⟩ [] nothing
  have left := @Receiver.rest_arrivals _ _ _ receiver chunks ⟨server, [], 0⟩ [] nothing
  rw [List.nil_append] at seen left
  have handled : ((receiver.delivered ⟨server, [], 0⟩ chunks.flatten).handled)
      = (ImPdu.pdus integers).frames chunks.flatten :=
    (ImConn.handled_foldl handlePdu _ _).trans (List.nil_append _)
  have served : ((receiver.delivered ⟨server, [], 0⟩ chunks.flatten).server)
      = ((ImPdu.pdus integers).frames chunks.flatten).foldl handlePdu server :=
    server_foldl _ _
  unfold ImConn.readEvents
  rw [ImConn.readEvent_eq integers]
  have first := (congrArg Prod.snd seen).trans handled
  have second := (congrArg Prod.fst seen).trans served
  refine ⟨first, ?_, left⟩
  rw [show (chunks.foldl receiver.arrive (⟨server, [], 0⟩, [])).1.handled = _ from first]
  exact second

/-- In every order of sends, write events and arrivals, the PDUs handled are the first ones
sent, each once and with its bytes; those that follow are in the buffer of the receiving end and
under way, and when nothing is under way all have been handled. -/
theorem handled_in_order (integers : stream.BigEndian) (server : Server)
    {events : List ImLinkEvent} {link : ImLink Server}
    (regular : ∀ event ∈ events, event.Regular)
    (runs : Runs stream handlePdu (new server) events link) :
    ∃ count ≤ (ImLinkEvent.sent events).length,
      link.reading.1.handled.map ImPdu.buf = (ImLinkEvent.sent events).take count ∧
      link.reading.1.server = link.reading.1.handled.foldl handlePdu server ∧
      link.reading.2 ++ link.underWay = ((ImLinkEvent.sent events).drop count).flatten ∧
      (link.underWay = [] → count = (ImLinkEvent.sent events).length) := by
  have carries := (carries_new server).runs regular runs
  rw [List.nil_append] at carries
  have wellFormed := wellFormed_of_regular regular
  obtain ⟨chunks, pieces, reading⟩ := carries.read
  obtain ⟨handled, served, left⟩ := @readEvents_view _ _ handlePdu integers server chunks
  rw [← reading, pieces] at handled left
  rw [← reading] at served
  have bytes := @map_first_buf stream _ wellFormed
  have whole : link.output.accepted.take link.arrived ++ link.underWay
      = ((ImLinkEvent.sent events).map (ImPdu.first stream)).flatMap ImPdu.buf := by
    rw [List.flatMap_def, bytes, ← carries.idle.accepted]
    exact List.take_append_drop _ _
  obtain ⟨count, inside, cut, behind, all⟩ :=
    (ImPdu.pdus integers).cut_of_part _ (decodes_first integers wellFormed) whole
  rw [List.length_map] at inside all
  rw [List.flatMap_def, List.map_drop, bytes] at behind
  refine ⟨count, inside, ?_, served, ?_, all⟩
  · rw [handled, cut, List.map_take, bytes]
  · rw [left]
    exact behind

/-- A header with nothing behind it. -/
def heartbeat : Bytes :=
  [0, 0, 0, 16, 0, 0, 0, 0, 0, 7, 0, 1, 0, 0, 0, 0]

theorem wellFormed_heartbeat : WellFormedPdu heartbeat := by
  refine ⟨by decide, by decide⟩

/-- The socket takes it in one write. -/
theorem takesAll_heartbeat : TakesAll heartbeat fun _ => 16 := by
  refine ⟨1, fun _ _ => Int.natCast_nonneg 16, ?_⟩
  rw [Finset.sum_range_one]
  decide

/-- Two of them, the first of which arrives in two parts, the second of these together with
the other PDU. -/
def twoHeartbeats : List ImLinkEvent :=
  [.send heartbeat fun _ => 16, .arrive 10, .send heartbeat fun _ => 16, .arrive 22]

theorem regular_twoHeartbeats : ∀ event ∈ twoHeartbeats, event.Regular := by
  have taken : (ImLinkEvent.send heartbeat fun _ => 16).Regular :=
    ⟨wellFormed_heartbeat, takesAll_heartbeat⟩
  simp only [twoHeartbeats, List.forall_mem_cons]
  exact ⟨taken, trivial, taken, trivial, nofun⟩

theorem handled_in_order_twoHeartbeats :
    ∃ link : ImLink Unit,
      Runs CByteStream.network (fun _ _ => ()) (new ()) twoHeartbeats link ∧
      link.reading.1.handled.map ImPdu.buf = [heartbeat, heartbeat] ∧ link.reading.2 = [] := by
  have start := @carries_new _ CByteStream.network (fun _ _ => ()) ()
  obtain ⟨first, firstSends, firstIdle⟩ :=
    start.idle.of_takesAll takesAll_heartbeat
  obtain ⟨second, secondSends, secondIdle⟩ := firstIdle.of_takesAll takesAll_heartbeat
  have firstTaken : first.accepted.length = 16 := congrArg List.length firstIdle.accepted
  have secondTaken : second.accepted.length = 32 := congrArg List.length secondIdle.accepted
  obtain ⟨link, runs, output, arrived⟩ : ∃ link : ImLink Unit,
      Runs CByteStream.network (fun _ _ => ()) (new ()) twoHeartbeats link ∧
        link.output = second ∧ link.arrived = 32 := by
    have some : 10 ≤ ({ new () with output := first } : ImLink Unit).underWay.length := by
      simp [underWay, new, firstTaken]
    refine ⟨_, .cons (.send firstSends) (.cons (.arrive some) (.cons (.send secondSends)
      (.cons (.arrive ?_) .nil))), rfl, rfl⟩
    simp [underWay, new, secondTaken]
  obtain ⟨count, _, handled, _, left, all⟩ :=
    handled_in_order CByteStream.bigEndian_network () regular_twoHeartbeats runs
  have nothing : link.underWay = [] := by
    unfold underWay
    rw [output, arrived, List.drop_eq_nil_iff, secondTaken]
  have both : count = 2 := all nothing
  subst both
  exact ⟨link, runs, handled, (List.append_eq_nil_iff.mp left).1⟩

end ImLink

end AChat.Base
