import AChat.Lib.CString
import AChat.Lib.Decimal
import AChat.LoginDispatch.OnlineTotal

/-!
Contract: which message server the dispatcher gives to a client.

The handler for clients and the handler of HTTP requests choose the same server: the first
in the order of the handles that is not full and has the least connections. The answer of
the HTTP handler goes through an array of 1024 bytes, and is cut off when it is longer.

Owns: the scan, the two handlers and their answers. What writes a JSON object as text is a
parameter.
-/

namespace AChat.LoginDispatch

open Std Lib

/-! ### The scan -/

/-- The records, in the order of the handles. -/
def Dispatcher.servers (dispatcher : Dispatcher) : List MsgServInfo :=
  dispatcher.msgServInfo.toList.map Prod.snd

/-- The loop of both handlers, with the record found so far and its count. -/
def scanFrom (itMinConn : Option MsgServInfo) (minUserCnt : BitVec 32) :
    List MsgServInfo → Option MsgServInfo
  | [] => itMinConn
  | info :: rest =>
      if info.curConnCnt < info.maxConnCnt ∧ info.curConnCnt < minUserCnt then
        scanFrom (some info) info.curConnCnt rest
      else scanFrom itMinConn minUserCnt rest

def itMinConn (servers : List MsgServInfo) : Option MsgServInfo :=
  scanFrom none (-1) servers

/-! ### The handler for clients -/

def sidLogin : Nat := 1
def cidLoginResMsgserver : Nat := 258

def refuseReasonNone : Nat := 0
def refuseReasonNoMsgServer : Nat := 1
def refuseReasonMsgServerFull : Nat := 2

/-- `IM::Login::IMMsgServRsp` -/
structure IMMsgServRsp where
  resultCode : Nat
  priorIp : Option String
  backipIp : Option String
  port : Option (BitVec 32)
deriving DecidableEq, Repr

/-- What the handler does to the connection. -/
inductive LoginOut where
  | sendPdu (serviceId commandId seqNum : Nat) (rsp : IMMsgServRsp)
  | close
deriving DecidableEq, Repr

/-- The answer, after which the connection is closed. -/
def answer (seqNum : Nat) (rsp : IMMsgServRsp) : List LoginOut :=
  [.sendPdu sidLogin cidLoginResMsgserver seqNum rsp, .close]

/-- `LoginConn::_HandleMsgServRequest` -/
def LoginConn.handleMsgServRequest (dispatcher : Dispatcher) (seqNum : Nat) : List LoginOut :=
  if dispatcher.servers.length = 0 then
    answer seqNum ⟨refuseReasonNoMsgServer, none, none, none⟩
  else
    match itMinConn dispatcher.servers with
    | none => answer seqNum ⟨refuseReasonMsgServerFull, none, none, none⟩
    | some info =>
        answer seqNum
          ⟨refuseReasonNone, some info.ipAddr1, some info.ipAddr2, some (info.port.setWidth 32)⟩

/-! ### The handler of HTTP requests -/

inductive JsonValue where
  | int (value : Int)
  | string (value : String)
deriving DecidableEq, Repr

/-- `Json::Value`, an object: its members in the order in which they were set. -/
abbrev JsonObject := List (String × JsonValue)

def utf8 (text : String) : Bytes :=
  text.toUTF8.data.toList

def httpResponseHtmlMax : Nat := 1024

/-- `HTTP_RESPONSE_HTML`, with the length, which is printed as an `int`, and the content. -/
def httpResponseHtml (length : Nat) (content : Bytes) : Bytes :=
  utf8 "HTTP/1.1 200 OK\r\nConnection:close\r\nContent-Length:" ++
    decimalInt (BitVec.ofNat 32 length).toInt ++
    utf8 "\r\nContent-Type:text/html;charset=utf-8\r\n\r\n" ++ content

/-- The C string at the start of a text. -/
def cStr (text : Bytes) : Bytes :=
  text.takeWhile (· != 0)

/-- `snprintf`. The last byte of the array is the terminator. -/
def snprintf (size : Nat) (text : Bytes) : Bytes :=
  text.take (size - 1)

/-- `IpParser::isTelcome`: an address of four parts. -/
def isTelcome (ip : String) : Bool :=
  ip.toList.count '.' + 1 == 4

/-- The answer of the handler, and the bytes of it that are sent. -/
structure HttpReply where
  value : JsonObject
  sent : Bytes
deriving DecidableEq, Repr

/-- The configuration of the dispatcher. -/
structure Config where
  strMsfsUrl : String
  strDiscovery : String
deriving DecidableEq, Repr

/-- The answer without a server. -/
def noServerValue : JsonObject :=
  [("code", .int 1), ("msg", .string "没有msg_server")]

/-- The answer when every server is full. -/
def fullValue : JsonObject :=
  [("code", .int 2), ("msg", .string "负载过高")]

/-- What both branches for the network of the client set. -/
def addressMembers (config : Config) (priorIp backupIp : String) : JsonObject :=
  [("priorIP", .string priorIp), ("backupIP", .string backupIp),
    ("msfsPrior", .string config.strMsfsUrl), ("msfsBackup", .string config.strMsfsUrl)]

/-- The answer with a server. The address of the other network comes first for a client that
is not in the network of the first. -/
def serverValue (config : Config) (peerIp : String) (info : MsgServInfo) : JsonObject :=
  let opening : JsonObject := [("code", .int 0), ("msg", .string "")]
  let addresses : JsonObject :=
    if isTelcome peerIp then addressMembers config info.ipAddr1 info.ipAddr2
    else addressMembers config info.ipAddr2 info.ipAddr1
  let closing : JsonObject :=
    [("discovery", .string config.strDiscovery), ("port", .string (toString info.port.toNat))]
  opening ++ addresses ++ closing

section Http

variable (toStyledString : JsonObject → Bytes)

/-- How every path of the handler sends an object. -/
def httpSend (value : JsonObject) : HttpReply :=
  let strContent := toStyledString value
  ⟨value, cStr (snprintf httpResponseHtmlMax
    (httpResponseHtml strContent.length (cStr strContent)))⟩

/-- `HttpConn::_HandleMsgServRequest` -/
def HttpConn.handleMsgServRequest (config : Config) (dispatcher : Dispatcher)
    (peerIp : String) : HttpReply :=
  if dispatcher.servers.length ≤ 0 then httpSend toStyledString noServerValue
  else
    match itMinConn dispatcher.servers with
    | none => httpSend toStyledString fullValue
    | some info => httpSend toStyledString (serverValue config peerIp info)

end Http

/-! ### What the handlers have to do -/

/-- No more connections are allowed. -/
def MsgServInfo.Full (info : MsgServInfo) : Prop :=
  info.maxConnCnt ≤ info.curConnCnt

instance (info : MsgServInfo) : Decidable info.Full :=
  inferInstanceAs (Decidable (_ ≤ _))

/-- One of the servers, not full, with the least connections of those that are not full. -/
structure LeastLoaded (servers : List MsgServInfo) (info : MsgServInfo) : Prop where
  member : info ∈ servers
  free : ¬info.Full
  least : ∀ other ∈ servers, ¬other.Full → info.curConnCnt ≤ other.curConnCnt

/-- The first of the least loaded servers. -/
def FirstLeast (servers : List MsgServInfo) (info : MsgServInfo) : Prop :=
  ∃ front back, servers = front ++ info :: back ∧ ¬info.Full ∧
    (∀ other ∈ front, ¬other.Full → info.curConnCnt < other.curConnCnt) ∧
    ∀ other ∈ back, ¬other.Full → info.curConnCnt ≤ other.curConnCnt

def IMMsgServRsp.Refuses (rsp : IMMsgServRsp) : Prop :=
  rsp.resultCode ≠ refuseReasonNone

/-- The answer has the addresses and the port of a server. -/
def IMMsgServRsp.Names (rsp : IMMsgServRsp) (info : MsgServInfo) : Prop :=
  rsp.resultCode = refuseReasonNone ∧ rsp.priorIp = some info.ipAddr1 ∧
    rsp.backipIp = some info.ipAddr2 ∧ rsp.port = some (info.port.setWidth 32)

instance (rsp : IMMsgServRsp) : Decidable rsp.Refuses :=
  inferInstanceAs (Decidable (_ ≠ _))

def JsonObject.Refuses (object : JsonObject) : Prop :=
  object.lookup "code" ≠ some (.int 0)

instance (object : JsonObject) : Decidable object.Refuses :=
  inferInstanceAs (Decidable (_ ≠ _))

/-- `Names` for an object. The addresses are in one order or the other. -/
def JsonObject.Names (object : JsonObject) (info : MsgServInfo) : Prop :=
  object.lookup "code" = some (.int 0) ∧
    object.lookup "port" = some (.string (toString info.port.toNat)) ∧
    ((object.lookup "priorIP" = some (.string info.ipAddr1) ∧
        object.lookup "backupIP" = some (.string info.ipAddr2)) ∨
      (object.lookup "priorIP" = some (.string info.ipAddr2) ∧
        object.lookup "backupIP" = some (.string info.ipAddr1)))

/-- The response that has the whole text of an object. -/
def wholeResponse (toStyledString : JsonObject → Bytes) (value : JsonObject) : Bytes :=
  httpResponseHtml (toStyledString value).length (toStyledString value)

/-- Both handlers refuse exactly when every server is full, and otherwise answer with the
same least loaded server. The HTTP response has the whole answer. -/
structure Agrees (toStyledString : JsonObject → Bytes) (servers : List MsgServInfo)
    (outs : List LoginOut) (reply : HttpReply) : Prop where
  answers : ∃ seqNum rsp, outs = answer seqNum rsp ∧
    (rsp.Refuses ↔ ∀ info ∈ servers, info.Full) ∧
    (reply.value.Refuses ↔ ∀ info ∈ servers, info.Full) ∧
    (¬(∀ info ∈ servers, info.Full) →
      ∃ info, LeastLoaded servers info ∧ rsp.Names info ∧ reply.value.Names info)
  whole : reply.sent = wholeResponse toStyledString reply.value

/-- The answer that the table asks for. -/
inductive Due (config : Config) (peerIp : String) (servers : List MsgServInfo) :
    JsonObject → Prop where
  | noServer (empty : servers = []) : Due config peerIp servers noServerValue
  | full (some : servers ≠ []) (all : ∀ info ∈ servers, info.Full) :
      Due config peerIp servers fullValue
  | server (info : MsgServInfo) (first : FirstLeast servers info) :
      Due config peerIp servers (serverValue config peerIp info)

/-- The response fits into the array, as a C string. -/
def FitsArray (toStyledString : JsonObject → Bytes) (value : JsonObject) : Prop :=
  (wholeResponse toStyledString value).length < httpResponseHtmlMax ∧
    0 ∉ wholeResponse toStyledString value

instance (toStyledString : JsonObject → Bytes) (value : JsonObject) :
    Decidable (FitsArray toStyledString value) :=
  inferInstanceAs (Decidable (_ ∧ _))

/-! ### The scan -/

/-- What the scan knows of the records it has seen: the first least loaded one and its count,
or that all are full. -/
def Scanned (seen : List MsgServInfo) (found : Option MsgServInfo) (minUserCnt : BitVec 32) :
    Prop :=
  match found with
  | none => minUserCnt = -1 ∧ ∀ info ∈ seen, info.Full
  | some info => minUserCnt = info.curConnCnt ∧ FirstLeast seen info

/-- A record that is not better than what was found is passed over. -/
theorem FirstLeast.passes {seen : List MsgServInfo} {found info : MsgServInfo}
    (first : FirstLeast seen found) (noBetter : ¬info.Full → found.curConnCnt ≤ info.curConnCnt) :
    FirstLeast (seen ++ [info]) found := by
  obtain ⟨front, back, rfl, free, before, after⟩ := first
  refine ⟨front, back ++ [info], by simp, free, before, ?_⟩
  intro other member notFull
  rcases List.mem_append.mp member with inBack | last
  · exact after other inBack notFull
  · rw [List.mem_singleton.mp last] at notFull ⊢
    exact noBetter notFull

/-- A record that is better than all before is taken. -/
theorem firstLeast_snoc {seen : List MsgServInfo} {info : MsgServInfo} (free : ¬info.Full)
    (better : ∀ other ∈ seen, ¬other.Full → info.curConnCnt < other.curConnCnt) :
    FirstLeast (seen ++ [info]) info :=
  ⟨seen, [], rfl, free, better, nofun⟩

theorem FirstLeast.leastLoaded {servers : List MsgServInfo} {info : MsgServInfo}
    (first : FirstLeast servers info) : LeastLoaded servers info := by
  obtain ⟨front, back, rfl, free, before, after⟩ := first
  refine ⟨List.mem_append_right _ List.mem_cons_self, free, ?_⟩
  intro other member notFull
  rcases List.mem_append.mp member with inFront | later
  · exact BitVec.le_of_lt (before other inFront notFull)
  · rcases List.mem_cons.mp later with rfl | inBack
    · exact BitVec.le_refl _
    · exact after other inBack notFull

/-- Every record keeps what the scan knows. -/
theorem scanned_scanFrom (rest seen : List MsgServInfo) (found : Option MsgServInfo)
    (minUserCnt : BitVec 32) (scanned : Scanned seen found minUserCnt) :
    ∃ least, Scanned (seen ++ rest) (scanFrom found minUserCnt rest) least := by
  induction rest generalizing seen found minUserCnt with
  | nil => exact ⟨minUserCnt, by rw [List.append_nil]; exact scanned⟩
  | cons info rest inductionHypothesis =>
      have shape : seen ++ info :: rest = (seen ++ [info]) ++ rest := by simp
      rw [shape, scanFrom]
      split
      · rename_i taken
        have free : ¬info.Full := BitVec.not_le.mpr taken.1
        refine inductionHypothesis _ _ _ ⟨rfl, firstLeast_snoc free ?_⟩
        intro other member notFull
        cases found with
        | none => exact absurd (scanned.2 other member) notFull
        | some best =>
            have least := scanned.2.leastLoaded.least other member notFull
            have below := taken.2
            rw [scanned.1] at below
            exact Nat.lt_of_lt_of_le below least
      · rename_i passed
        refine inductionHypothesis _ _ _ ?_
        cases found with
        | none =>
            refine ⟨scanned.1, ?_⟩
            intro other member
            rcases List.mem_append.mp member with before | last
            · exact scanned.2 other before
            · -- Nothing is below the start value but a count at its limit.
              rw [List.mem_singleton.mp last]
              have start := scanned.1
              unfold MsgServInfo.Full
              bv_omega
        | some best =>
            refine ⟨scanned.1, scanned.2.passes ?_⟩
            intro notFull
            have start := scanned.1
            unfold MsgServInfo.Full at notFull
            bv_omega

theorem itMinConn_none {servers : List MsgServInfo} (none : itMinConn servers = none) :
    ∀ info ∈ servers, info.Full := by
  obtain ⟨least, scanned⟩ := scanned_scanFrom servers [] .none (-1) ⟨rfl, nofun⟩
  unfold itMinConn at none
  rw [none] at scanned
  exact scanned.2

theorem itMinConn_some {servers : List MsgServInfo} {info : MsgServInfo}
    (some : itMinConn servers = some info) : FirstLeast servers info := by
  obtain ⟨least, scanned⟩ := scanned_scanFrom servers [] .none (-1) ⟨rfl, nofun⟩
  unfold itMinConn at some
  rw [some] at scanned
  exact scanned.2

/-- A server that stands in front of a least loaded one is not a first one. -/
theorem FirstLeast.eq_of_prefix {front middle back rest : List MsgServInfo}
    {info other : MsgServInfo} (shape : info :: rest = middle ++ other :: back)
    (leastInfo : LeastLoaded (front ++ info :: rest) info) (free : ¬other.Full)
    (before : ∀ earlier ∈ front ++ middle, ¬earlier.Full →
      other.curConnCnt < earlier.curConnCnt) : info = other := by
  cases middle with
  | nil => exact (List.cons.inj shape).1
  | cons head tail =>
      obtain ⟨same, rest⟩ := List.cons.inj shape
      have less := before info (by simp [same]) leastInfo.free
      have least := leastInfo.least other (by simp [rest]) free
      exact absurd less (BitVec.not_lt.mpr least)

/-- There is one first least loaded server. -/
theorem FirstLeast.unique {servers : List MsgServInfo} {left right : MsgServInfo}
    (leftFirst : FirstLeast servers left) (rightFirst : FirstLeast servers right) :
    left = right := by
  have leftLeast := leftFirst.leastLoaded
  have rightLeast := rightFirst.leastLoaded
  obtain ⟨front, back, rfl, leftFree, leftBefore, _⟩ := leftFirst
  obtain ⟨otherFront, otherBack, same, rightFree, rightBefore, _⟩ := rightFirst
  rcases List.append_eq_append_iff.mp same with ⟨middle, rfl, shape⟩ | ⟨middle, rfl, shape⟩
  · exact FirstLeast.eq_of_prefix shape leftLeast rightFree rightBefore
  · rw [same] at rightLeast
    exact (FirstLeast.eq_of_prefix shape rightLeast leftFree leftBefore).symm

/-- The table asks for one answer. -/
theorem Due.unique {config : Config} {peerIp : String} {servers : List MsgServInfo}
    {left right : JsonObject} (leftDue : Due config peerIp servers left)
    (rightDue : Due config peerIp servers right) : left = right := by
  have noServer (empty : servers = []) (info : MsgServInfo) (first : FirstLeast servers info) :
      False := by
    have member := first.leastLoaded.member
    rw [empty] at member
    cases member
  have notFull (all : ∀ info ∈ servers, info.Full) (info : MsgServInfo)
      (first : FirstLeast servers info) : False :=
    first.leastLoaded.free (all info first.leastLoaded.member)
  cases leftDue with
  | noServer empty =>
      cases rightDue with
      | noServer _ => rfl
      | full some _ => exact absurd empty some
      | server info first => exact (noServer empty info first).elim
  | full some all =>
      cases rightDue with
      | noServer empty => exact absurd empty some
      | full _ _ => rfl
      | server info first => exact (notFull all info first).elim
  | server info first =>
      cases rightDue with
      | noServer empty => exact (noServer empty info first).elim
      | full _ all => exact (notFull all info first).elim
      | server other otherFirst => rw [first.unique otherFirst]

/-! ### The response -/

section Response

variable {toStyledString : JsonObject → Bytes}

theorem cStr_eq_of_not_mem {text : Bytes} (noZero : 0 ∉ text) : cStr text = text :=
  takeWhile_bne_eq noZero

/-- The whole response is sent exactly when it fits into the array. -/
theorem httpSend_whole_iff (value : JsonObject) :
    (httpSend toStyledString value).sent = wholeResponse toStyledString value ↔
      FitsArray toStyledString value := by
  have size : httpResponseHtmlMax = 1024 := rfl
  constructor
  · intro whole
    refine ⟨?_, ?_⟩
    · have cut : (httpSend toStyledString value).sent.length ≤ httpResponseHtmlMax - 1 :=
        ((List.takeWhile_sublist _).length_le).trans (List.length_take_le _ _)
      rw [whole] at cut
      omega
    · intro zero
      rw [← whole] at zero
      exact not_mem_takeWhile_bne 0 _ zero
  · intro fits
    have content : 0 ∉ toStyledString value := fun zero =>
      fits.2 (List.mem_append_right _ zero)
    have array : snprintf httpResponseHtmlMax (wholeResponse toStyledString value) =
        wholeResponse toStyledString value :=
      List.take_of_length_le (by have short := fits.1; omega)
    show cStr (snprintf httpResponseHtmlMax
      (httpResponseHtml (toStyledString value).length (cStr (toStyledString value)))) = _
    rw [cStr_eq_of_not_mem content]
    show cStr (snprintf httpResponseHtmlMax (wholeResponse toStyledString value)) = _
    rw [array, cStr_eq_of_not_mem fits.2]

end Response

/-! ### The handlers -/

section Handlers

variable (config : Config) (dispatcher : Dispatcher) (peerIp : String) (seqNum : Nat)
  (toStyledString : JsonObject → Bytes)

/-- The HTTP handler sends the answer that the table asks for. -/
theorem http_due :
    ∃ value, Due config peerIp dispatcher.servers value ∧
      HttpConn.handleMsgServRequest toStyledString config dispatcher peerIp =
        httpSend toStyledString value := by
  unfold HttpConn.handleMsgServRequest
  split
  · rename_i none
    have empty : dispatcher.servers = [] := List.eq_nil_of_length_eq_zero (by omega)
    exact ⟨_, .noServer empty, rfl⟩
  · rename_i some
    have servers : dispatcher.servers ≠ [] := by
      intro empty
      rw [empty] at some
      exact some (Nat.le_refl 0)
    split
    · rename_i none
      exact ⟨_, .full servers (itMinConn_none none), rfl⟩
    · rename_i info found
      exact ⟨_, .server info (itMinConn_some found), rfl⟩

theorem serverValue_names (info : MsgServInfo) :
    JsonObject.Names (serverValue config peerIp info) info := by
  unfold serverValue
  simp only
  split
  · exact ⟨rfl, rfl, .inl ⟨rfl, rfl⟩⟩
  · exact ⟨rfl, rfl, .inr ⟨rfl, rfl⟩⟩

/-- What the two handlers answer, however the text of it is sent. -/
theorem handlers_answer :
    ∃ rsp, LoginConn.handleMsgServRequest dispatcher seqNum = answer seqNum rsp ∧
      (rsp.Refuses ↔ ∀ info ∈ dispatcher.servers, info.Full) ∧
      ((HttpConn.handleMsgServRequest toStyledString config dispatcher peerIp).value.Refuses ↔
        ∀ info ∈ dispatcher.servers, info.Full) ∧
      (¬(∀ info ∈ dispatcher.servers, info.Full) →
        ∃ info, LeastLoaded dispatcher.servers info ∧ rsp.Names info ∧
          (HttpConn.handleMsgServRequest toStyledString config dispatcher peerIp).value.Names
            info) := by
  unfold LoginConn.handleMsgServRequest HttpConn.handleMsgServRequest
  by_cases none : dispatcher.servers.length = 0
  · have all : ∀ info ∈ dispatcher.servers, info.Full := by
      rw [List.eq_nil_of_length_eq_zero none]
      exact nofun
    rw [if_pos none, if_pos (Nat.le_of_eq none)]
    have refuses : noServerValue.Refuses := by decide
    exact ⟨_, rfl, iff_of_true (by decide) all, iff_of_true refuses all,
      fun some => absurd all some⟩
  · rw [if_neg none, if_neg (by omega)]
    cases found : itMinConn dispatcher.servers with
    | none =>
        have all := itMinConn_none found
        have refuses : fullValue.Refuses := by decide
        exact ⟨_, rfl, iff_of_true (by decide) all, iff_of_true refuses all,
          fun some => absurd all some⟩
    | some info =>
        have least := (itMinConn_some found).leastLoaded
        have free : ¬∀ info ∈ dispatcher.servers, info.Full :=
          fun all => least.free (all info least.member)
        refine ⟨_, rfl, iff_of_false (fun refuses => refuses rfl) free,
          iff_of_false (fun refuses => refuses rfl) free, fun _ => ?_⟩
        exact ⟨info, least, ⟨rfl, rfl, rfl, rfl⟩, serverValue_names config peerIp info⟩

/-- For every table, the handlers agree exactly when the response with the answer that the
table asks for fits into the array. -/
theorem agrees_iff :
    Agrees toStyledString dispatcher.servers (LoginConn.handleMsgServRequest dispatcher seqNum)
        (HttpConn.handleMsgServRequest toStyledString config dispatcher peerIp) ↔
      ∀ value, Due config peerIp dispatcher.servers value → FitsArray toStyledString value := by
  obtain ⟨due, dueHolds, sends⟩ := http_due config dispatcher peerIp toStyledString
  constructor
  · intro agrees value valueDue
    have whole := agrees.whole
    rw [sends] at whole
    rw [valueDue.unique dueHolds]
    exact (httpSend_whole_iff due).mp whole
  · intro fits
    obtain ⟨rsp, answers, rest⟩ :=
      handlers_answer config dispatcher peerIp seqNum toStyledString
    refine ⟨⟨seqNum, rsp, answers, rest⟩, ?_⟩
    rw [sends]
    exact (httpSend_whole_iff due).mpr (fits due dueHolds)

end Handlers

/-! ### A response that is cut off -/

/-- The names of all members of the answers, in their order. -/
def memberNames : List String :=
  ["backupIP", "code", "discovery", "msfsBackup", "msfsPrior", "msg", "port", "priorIP"]

def styledMember (name : String) (value : JsonValue) : Bytes :=
  utf8 "\t\"" ++ utf8 name ++ utf8 "\" : " ++
    match value with
    | .int value => decimalInt value
    | .string value => utf8 "\"" ++ utf8 value ++ utf8 "\""

/-- `toStyledString` of an answer without characters to escape. -/
def styledAnswer (object : JsonObject) : Bytes :=
  utf8 "\x7b\n" ++
    (List.intersperse (utf8 ",\n") (memberNames.filterMap fun name =>
      (object.lookup name).map (styledMember name))).flatten ++
    utf8 "\n\x7d\n"

/-- One server with one connection of a hundred. -/
def oneServer : Dispatcher :=
  Dispatcher.new.handleMsgServInfo 1 ⟨"10.0.0.1", "10.0.0.2", 8000, 100, 1, "msg-1"⟩

/-- The address of the file server has 607 characters. -/
def longUrl : Config :=
  ⟨"http://" ++ String.ofList (List.replicate 600 'a'), "http://127.0.0.1/api/discovery"⟩

/-- Both handlers choose the server, but of the HTTP response only 1023 bytes are sent. -/
theorem http_response_cut :
    (HttpConn.handleMsgServRequest styledAnswer longUrl oneServer "192.168.0.7").sent.length =
        1023 ∧
      (wholeResponse styledAnswer (HttpConn.handleMsgServRequest styledAnswer longUrl oneServer
        "192.168.0.7").value).length = 1496 ∧
      ¬Agrees styledAnswer oneServer.servers (LoginConn.handleMsgServRequest oneServer 7)
        (HttpConn.handleMsgServRequest styledAnswer longUrl oneServer "192.168.0.7") := by
  have lengths :
      (HttpConn.handleMsgServRequest styledAnswer longUrl oneServer "192.168.0.7").sent.length =
          1023 ∧
        (wholeResponse styledAnswer (HttpConn.handleMsgServRequest styledAnswer longUrl oneServer
          "192.168.0.7").value).length = 1496 := by
    decide +kernel
  refine ⟨lengths.1, lengths.2, ?_⟩
  intro agrees
  have same := congrArg List.length agrees.whole
  rw [lengths.1, lengths.2] at same
  exact absurd same (by decide)

end AChat.LoginDispatch
