import Mathlib.Data.List.Induction
import AChat.Lib.Reach

/-!
Contract: what becomes of the responses that handlers queue.

A `ProxyConn` starts with the connection id 0, and nothing puts one into
`uuid_conn_map`. So no response finds its connection.

Owns: the connections of the proxy server, the list of responses, and the runs of
requests, handlers and the loop that sends.
-/

namespace AChat.DbProxy

open Lib

abbrev Uuid := BitVec 32

/-- Address of a `ProxyConn`. -/
abbrev ProxyPtr := Nat

def cidOtherHeartbeat : Nat := 1793

structure ImPdu where
  commandId : Nat
  body : List UInt8
deriving DecidableEq, Repr

structure ProxyConn where
  connId : Uuid
deriving DecidableEq, Repr

/-- The constructor. -/
def ProxyConn.new : ProxyConn :=
  ⟨0⟩

structure ResponsePdu where
  connUuid : Uuid
  pdu : Option ImPdu
deriving DecidableEq, Repr

/-- The connections, and what is shared by them. -/
structure ProxyServer where
  conns : ProxyPtr → Option ProxyConn
  uuidConnMap : Uuid → Option ProxyPtr
  responsePduList : List ResponsePdu

/-- A response sent on a connection. -/
abbrev Delivery := ProxyPtr × ImPdu

namespace ProxyServer

def empty : ProxyServer :=
  ⟨fun _ => none, fun _ => none, []⟩

/-- `onConnected`. -/
def onConnected (server : ProxyServer) (conn : ProxyPtr) : ProxyServer :=
  { server with conns := Function.update server.conns conn (some .new) }

def getProxyConnByUuid (server : ProxyServer) (uuid : Uuid) : Option ProxyPtr :=
  server.uuidConnMap uuid

/-- `HandlePduBuf`: the connection id that is passed to the handler of the command. -/
def handlePduBuf (hasHandler : Nat → Bool) (conn : ProxyConn) (pdu : ImPdu) : Option Uuid :=
  if pdu.commandId = cidOtherHeartbeat then none
  else if hasHandler pdu.commandId then some conn.connId
  else none

def addResponsePdu (server : ProxyServer) (connUuid : Uuid) (pdu : Option ImPdu) : ProxyServer :=
  { server with responsePduList := server.responsePduList ++ [⟨connUuid, pdu⟩] }

/-- What is sent for one response. -/
def sendResponse (server : ProxyServer) (response : ResponsePdu) : List Delivery :=
  match server.getProxyConnByUuid response.connUuid, response.pdu with
  | some conn, some pdu => [(conn, pdu)]
  | _, _ => []

/-- One turn of the loop of `SendResponsePduList`. -/
def sendNextResponse (server : ProxyServer) : ProxyServer × List Delivery :=
  match server.responsePduList with
  | [] => (server, [])
  | response :: rest =>
      ({ server with responsePduList := rest }, server.sendResponse response)

end ProxyServer

/-! ### The specification -/

/-- What was taken from the list and what was sent: every response on the connection of its
request, once and in order, except those of connections that have closed. -/
inductive Routed (closed : ProxyPtr → Prop) : List Delivery → List Delivery → Prop where
  | nil : Routed closed [] []
  | sent {taken sent : List Delivery} (response : Delivery) : Routed closed taken sent →
      Routed closed (taken ++ [response]) (sent ++ [response])
  | dropped {taken sent : List Delivery} {response : Delivery} : closed response.1 →
      Routed closed taken sent → Routed closed (taken ++ [response]) sent

/-- Where nothing was sent, all connections have closed. -/
theorem routed_nil_iff {closed : ProxyPtr → Prop} {taken : List Delivery} :
    Routed closed taken [] ↔ ∀ response ∈ taken, closed response.1 := by
  constructor
  · intro routed
    generalize none : ([] : List Delivery) = sent at routed
    induction routed with
    | nil => exact nofun
    | sent response _ _ => exact absurd none.symm (List.append_ne_nil_of_right_ne_nil _ nofun)
    | dropped gone _ inductionHypothesis =>
        intro response member
        rw [List.mem_append, List.mem_singleton] at member
        cases member with
        | inl earlier => exact inductionHypothesis none response earlier
        | inr last => exact last ▸ gone
  · intro gone
    induction taken using List.reverseRecOn with
    | nil => exact .nil
    | append_singleton earlier last inductionHypothesis =>
        apply Routed.dropped (gone last (List.mem_append_right _ (List.mem_singleton_self last)))
        apply inductionHypothesis
        exact fun response member => gone response (List.mem_append_left _ member)

/-! ### Runs -/

inductive RoutingEvent where
  | onConnected (conn : ProxyPtr)
  | request (conn : ProxyPtr) (pdu : ImPdu)
  /-- A handler that was called queues a response. -/
  | addResponse (call : Nat) (pdu : ImPdu)
  | close (conn : ProxyPtr)
  | sendNext
deriving DecidableEq, Repr

/-- The server, the connections that have closed, and the calls of handlers with the
connection of the request and the id that they were given. `queued` has the connection for
every response in the list. -/
structure RoutingRun where
  server : ProxyServer
  closed : List ProxyPtr
  calls : List (ProxyPtr × Uuid)
  queued : List Delivery
  taken : List Delivery
  sent : List Delivery

namespace RoutingRun

def start : RoutingRun :=
  ⟨.empty, [], [], [], [], []⟩

/-- A request is read only on a connection that is there, and is open. -/
def step (hasHandler : Nat → Bool) (current : RoutingRun) : RoutingEvent → RoutingRun
  | .onConnected conn =>
      match current.server.conns conn with
      | some _ => current
      | none => { current with server := current.server.onConnected conn }
  | .request conn pdu =>
      match current.server.conns conn with
      | none => current
      | some proxy =>
          if conn ∈ current.closed then current
          else
            match ProxyServer.handlePduBuf hasHandler proxy pdu with
            | none => current
            | some connId => { current with calls := current.calls ++ [(conn, connId)] }
  | .addResponse call pdu =>
      match current.calls[call]? with
      | none => current
      | some (conn, connId) =>
          { current with
            server := current.server.addResponsePdu connId (some pdu)
            queued := current.queued ++ [(conn, pdu)] }
  | .close conn =>
      match current.server.conns conn with
      | none => current
      | some _ => { current with closed := conn :: current.closed }
  | .sendNext =>
      let result := current.server.sendNextResponse
      { current with
        server := result.1
        queued := current.queued.tail
        taken := current.taken ++ current.queued.head?.toList
        sent := current.sent ++ result.2 }

/-- Every response that was taken from the list was sent on the connection of its request,
unless that connection has closed. -/
def RoutedOnce (current : RoutingRun) : Prop :=
  Routed (· ∈ current.closed) current.taken current.sent

/-- The response that is taken from the list is one for a connection that has closed. -/
def TakesFromClosed (current : RoutingRun) : RoutingEvent → Prop
  | .sendNext => ∀ response, current.queued.head? = some response → response.1 ∈ current.closed
  | _ => True

/-! ### The invariant -/

/-- The map is empty, `queued` is in step with the list, and the requests of all responses
that were taken came on connections that have closed. -/
structure Unrouted (current : RoutingRun) : Prop where
  uuidConnMap : ∀ uuid, current.server.uuidConnMap uuid = none
  queued : current.server.responsePduList.map ResponsePdu.pdu =
    current.queued.map fun response => some response.2
  sent : current.sent = []
  taken : ∀ response ∈ current.taken, response.1 ∈ current.closed

variable {current : RoutingRun} {hasHandler : Nat → Bool}

theorem unrouted_start : Unrouted start :=
  ⟨fun _ => rfl, rfl, rfl, nofun⟩

theorem Unrouted.routedOnce (unrouted : Unrouted current) : RoutedOnce current := by
  unfold RoutedOnce
  rw [unrouted.sent]
  exact routed_nil_iff.mpr unrouted.taken

/-- A response whose connection is looked up in an empty map is dropped. -/
theorem Unrouted.sendNextResponse (unrouted : Unrouted current) :
    current.server.sendNextResponse =
      ({ current.server with responsePduList := current.server.responsePduList.tail }, []) := by
  unfold ProxyServer.sendNextResponse
  cases list : current.server.responsePduList with
  | nil =>
      have same : { current.server with responsePduList := [] } = current.server := by
        rw [← list]
      rw [List.tail_nil, same]
  | cons response rest =>
      simp only [ProxyServer.sendResponse, ProxyServer.getProxyConnByUuid, unrouted.uuidConnMap,
        List.tail_cons]

theorem Unrouted.step_sendNext (unrouted : Unrouted current) (hasHandler : Nat → Bool) :
    (current.step hasHandler .sendNext).sent = [] ∧
      (current.step hasHandler .sendNext).taken =
        current.taken ++ current.queued.head?.toList := by
  simp only [RoutingRun.step, unrouted.sendNextResponse, unrouted.sent, List.append_nil, and_self]

theorem Unrouted.step (unrouted : Unrouted current) {event : RoutingEvent}
    (takes : current.TakesFromClosed event) : Unrouted (current.step hasHandler event) := by
  cases event with
  | onConnected conn =>
      simp only [RoutingRun.step]
      split
      · exact unrouted
      · exact ⟨unrouted.uuidConnMap, unrouted.queued, unrouted.sent, unrouted.taken⟩
  | request conn pdu =>
      simp only [RoutingRun.step]
      split
      · exact unrouted
      · split
        · exact unrouted
        · split
          · exact unrouted
          · exact ⟨unrouted.uuidConnMap, unrouted.queued, unrouted.sent, unrouted.taken⟩
  | addResponse call pdu =>
      simp only [RoutingRun.step]
      split
      · exact unrouted
      · refine ⟨unrouted.uuidConnMap, ?_, unrouted.sent, unrouted.taken⟩
        simp only [ProxyServer.addResponsePdu, List.map_append, unrouted.queued]
        rfl
  | close conn =>
      simp only [RoutingRun.step]
      split
      · exact unrouted
      · refine ⟨unrouted.uuidConnMap, unrouted.queued, unrouted.sent, ?_⟩
        exact fun response member => List.mem_cons_of_mem conn (unrouted.taken response member)
  | sendNext =>
      have after := unrouted.step_sendNext hasHandler
      refine ⟨?_, ?_, after.1, ?_⟩
      · simp only [RoutingRun.step, unrouted.sendNextResponse]
        exact unrouted.uuidConnMap
      · simp only [RoutingRun.step, unrouted.sendNextResponse, List.map_tail, unrouted.queued]
      · rw [after.2]
        intro response member
        rw [List.mem_append, Option.mem_toList] at member
        cases member with
        | inl earlier => exact unrouted.taken response earlier
        | inr first => exact takes response first

/-- No response is sent, so that those of open connections are lost. -/
theorem step_routedOnce_iff (unrouted : Unrouted current) (event : RoutingEvent) :
    RoutedOnce (current.step hasHandler event) ↔ current.TakesFromClosed event := by
  constructor
  · intro routed
    cases event with
    | onConnected conn => trivial
    | request conn pdu => trivial
    | addResponse call pdu => trivial
    | close conn => trivial
    | sendNext =>
        intro response first
        have after := unrouted.step_sendNext hasHandler
        unfold RoutedOnce at routed
        rw [after.1, after.2, routed_nil_iff] at routed
        apply routed response
        rw [first]
        exact List.mem_append_right _ (List.mem_singleton_self response)
  · exact fun takes => (unrouted.step takes).routedOnce

theorem routedOnce_iff_takesFromClosed (hasHandler : Nat → Bool) (events : List RoutingEvent) :
    Always (step hasHandler) RoutedOnce start events ↔
      Meets (step hasHandler) TakesFromClosed start events :=
  always_iff_meets (fun _ event unrouted _ => step_routedOnce_iff unrouted event)
    (fun _ _ unrouted _ takes => unrouted.step takes) (fun _ unrouted => unrouted.routedOnce)
    events unrouted_start (meets_true (step hasHandler) events start)

/-- One request, and its response while the connection is open. -/
theorem not_routedOnce_one_request :
    ¬Always (step fun _ => true) RoutedOnce start
      [.onConnected 0, .request 0 ⟨777, []⟩, .addResponse 0 ⟨778, []⟩, .sendNext] := by
  intro always
  have routed := always.2.2.2.2
  have closed := routed_nil_iff.mp routed (0, ⟨778, []⟩) (by decide)
  exact absurd closed (by decide)

end RoutingRun

end AChat.DbProxy
