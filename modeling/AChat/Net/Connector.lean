import AChat.Lib.Reach
import AChat.Net.Channel

/-!
Contract: what becomes of the sockets, the channel and the retry timers of a connector.

The loop runs one queued functor at a time, in their order, with anything in between, and
`start` and `stop` may come from another thread. What the kernel answers is an input, and so is
whether the timer queue removes a timer that has expired. A socket's number is the count of the
sockets created before it. The poller's part of a channel is its owner's, in `Net.Channel`.

Owns: the connector with the records of its sockets, and its life cycle.
-/

namespace AChat.Net

open Lib

/-! ### `Connector.cpp` -/

/-- What `sockets::connect` leaves in `errno`, or 0. -/
inductive Errno where
  | success
  | EINPROGRESS
  | EINTR
  | EISCONN
  | EAGAIN
  | EADDRINUSE
  | EADDRNOTAVAIL
  | ECONNREFUSED
  | ENETUNREACH
  | EACCES
  | EPERM
  | EAFNOSUPPORT
  | EALREADY
  | EBADF
  | EFAULT
  | ENOTSOCK
  | other (code : Int)
deriving DecidableEq, Repr

/-- The errors after which `connect` tries again. -/
def Errno.retried : Errno → Bool
  | .EAGAIN | .EADDRINUSE | .EADDRNOTAVAIL | .ECONNREFUSED | .ENETUNREACH => true
  | _ => false

inductive States where
  | kDisconnected
  | kConnecting
  | kConnected
deriving DecidableEq, Repr

inductive LoopFunctor where
  | startInLoop
  | stopInLoop
  | resetChannel
deriving DecidableEq, Repr

/-- `pendingFunctors` and `timers` are what the loop holds for the connector, the timers with
their delays in seconds. The fields from `sockets` on are records: the sockets created, closed
and handed over, the connections handed over that have gone down, the calls of `restart`, and
the counts of the sockets created and handed over at a `stop` that no `start` has followed. -/
structure Connector where
  connected : Bool
  state : States
  channel : Option Channel
  retryDelayMs : Nat
  pendingFunctors : List LoopFunctor
  timers : List Nat
  sockets : List Int
  closed : List Int
  handed : List Int
  gone : Nat
  restarted : Nat
  stopped : Option (Nat × Nat)
deriving DecidableEq, Repr

namespace Connector

def kMaxRetryDelayMs : Nat := 30 * 1000

def kInitRetryDelayMs : Nat := 500

/-- The constructor. -/
def new : Connector where
  connected := false
  state := .kDisconnected
  channel := none
  retryDelayMs := kInitRetryDelayMs
  pendingFunctors := []
  timers := []
  sockets := []
  closed := []
  handed := []
  gone := 0
  restarted := 0
  stopped := none

/-- The number of the next socket. -/
def nextSocket (connector : Connector) : Int :=
  connector.sockets.length

def createOrDie (connector : Connector) : Connector :=
  { connector with sockets := connector.sockets ++ [connector.nextSocket] }

def close (connector : Connector) (sockfd : Int) : Connector :=
  { connector with closed := connector.closed ++ [sockfd] }

def newConnectionCallback (connector : Connector) (sockfd : Int) : Connector :=
  { connector with handed := connector.handed ++ [sockfd] }

def queueInLoop (connector : Connector) (functor : LoopFunctor) : Connector :=
  { connector with pendingFunctors := connector.pendingFunctors ++ [functor] }

/-- The delay is cut to whole seconds when it is passed to `runAfter`. -/
def retry (connector : Connector) (sockfd : Int) : Connector :=
  let disconnected := { connector.close sockfd with state := .kDisconnected }
  if connector.connected then
    { disconnected with
      timers := connector.timers ++ [connector.retryDelayMs / 1000]
      retryDelayMs := min (connector.retryDelayMs * 2) kMaxRetryDelayMs }
  else disconnected

def connecting (connector : Connector) (sockfd : Int) : Connector :=
  { connector with
    state := .kConnecting
    channel := some { Channel.new sockfd with events := kNoneEvent ||| kWriteEvent } }

def connect (connector : Connector) (errno : Errno) : Connector :=
  let sockfd := connector.nextSocket
  let created := connector.createOrDie
  match errno with
  | .success | .EINPROGRESS | .EINTR | .EISCONN => created.connecting sockfd
  | .EAGAIN | .EADDRINUSE | .EADDRNOTAVAIL | .ECONNREFUSED | .ENETUNREACH =>
      created.retry sockfd
  | .EACCES | .EPERM | .EAFNOSUPPORT | .EALREADY | .EBADF | .EFAULT | .ENOTSOCK =>
      created.close sockfd
  | .other _ => created.close sockfd

def startInLoop (connector : Connector) (errno : Errno) : Connector :=
  if connector.state ≠ .kDisconnected then connector
  else if connector.connected then connector.connect errno
  else connector

/-- The socket of the channel, which is disabled and left to be destroyed later. There is none
behind a null pointer. -/
def removeAndResetChannel (connector : Connector) : Option (Int × Connector) :=
  match connector.channel with
  | none => none
  | some channel =>
      some (channel.fd,
        { connector with
          channel := some { channel with events := kNoneEvent } }.queueInLoop .resetChannel)

def resetChannel (connector : Connector) : Connector :=
  { connector with channel := none }

def stopInLoop (connector : Connector) : Connector :=
  if connector.state = .kConnecting then
    let disconnected := { connector with state := .kDisconnected }
    match disconnected.removeAndResetChannel with
    | none => disconnected
    | some (sockfd, removed) => removed.retry sockfd
  else connector

def handleWrite (connector : Connector) (error : Int) (selfConnect : Bool) : Connector :=
  if connector.state = .kConnecting then
    match connector.removeAndResetChannel with
    | none => connector
    | some (sockfd, removed) =>
        if error ≠ 0 then removed.retry sockfd
        else if selfConnect then removed.retry sockfd
        else
          let now := { removed with state := .kConnected }
          if removed.connected then now.newConnectionCallback sockfd else now.close sockfd
  else connector

def handleError (connector : Connector) : Connector :=
  if connector.state = .kConnecting then
    match connector.removeAndResetChannel with
    | none => connector
    | some (sockfd, removed) => removed.retry sockfd
  else connector

def start (connector : Connector) (inLoop : Bool) (errno : Errno) : Connector :=
  let on := { connector with connected := true, stopped := none }
  if inLoop then on.startInLoop errno else on.queueInLoop .startInLoop

def stop (connector : Connector) : Connector :=
  { connector with
    connected := false
    stopped := some (connector.sockets.length, connector.handed.length) }.queueInLoop .stopInLoop

/-- What `restart` sets. -/
def reset (connector : Connector) : Connector :=
  { connector with
    state := .kDisconnected
    retryDelayMs := kInitRetryDelayMs
    connected := true
    restarted := connector.restarted + 1 }

def restart (connector : Connector) (errno : Errno) : Connector :=
  connector.reset.startInLoop errno

end Connector

/-- What happens to a connector. `errno` is of the `connect` that the event makes, if any. -/
inductive ConnectorEvent where
  | start (inLoop : Bool) (errno : Errno)
  | stop
  | goesDown
  | restart (errno : Errno)
  | retryTimer (index : Nat) (removed : Bool) (errno : Errno)
  | functor (errno : Errno)
  | writable (error : Int) (selfConnect : Bool)
  | error
deriving DecidableEq, Repr

namespace Connector

def runFunctor (connector : Connector) (errno : Errno) : LoopFunctor → Connector
  | .startInLoop => connector.startInLoop errno
  | .stopInLoop => connector.stopInLoop
  | .resetChannel => connector.resetChannel

/-- The timers that are in the queue when an event is handled. -/
def timersLeft (connector : Connector) : ConnectorEvent → List Nat
  | .retryTimer index true _ => connector.timers.eraseIdx index
  | _ => connector.timers

/-- A channel that was destroyed tells of no event. -/
def step (connector : Connector) (event : ConnectorEvent) : Connector :=
  match event with
  | .start inLoop errno => connector.start inLoop errno
  | .stop => connector.stop
  | .goesDown => { connector with gone := connector.gone + 1 }
  | .restart errno => connector.restart errno
  | .retryTimer _ _ errno =>
      { connector with timers := connector.timersLeft event }.startInLoop errno
  | .functor errno =>
      match connector.pendingFunctors with
      | [] => connector
      | functor :: later =>
          { connector with pendingFunctors := later }.runFunctor errno functor
  | .writable error selfConnect =>
      if connector.channel.isSome then connector.handleWrite error selfConnect else connector
  | .error => if connector.channel.isSome then connector.handleError else connector

/-! ### The life cycle -/

/-- `restart` is called once for a connection that was handed over and has gone down. -/
def Promised (connector : Connector) : ConnectorEvent → Prop
  | .goesDown => connector.gone < connector.handed.length
  | .restart _ => connector.restarted < connector.gone
  | _ => True

/-- The sockets that are neither closed nor handed over. -/
def unsettled (connector : Connector) : List Int :=
  connector.sockets.filter (· ∉ connector.closed ++ connector.handed)

/-- No socket is closed or handed over twice, or both. At most one is being connected, and its
channel is there. At most one retry is pending. Nothing was created or handed over since a `stop`
that no `start` has followed. -/
structure LifeCycle (connector : Connector) : Prop where
  once : (connector.closed ++ connector.handed).Nodup
  created : connector.closed ++ connector.handed ⊆ connector.sockets
  settled : connector.state ≠ .kConnecting → connector.unsettled = []
  oneConnecting : connector.unsettled.length ≤ 1
  hasChannel : ∀ sockfd ∈ connector.unsettled, connector.channel.map (·.fd) = some sockfd
  oneRetry : connector.timers.length ≤ 1
  stopped : ∀ mark, connector.stopped = some mark →
    connector.sockets.length = mark.1 ∧ connector.handed.length = mark.2

/-- The event makes the connector close a socket and plan to try again. -/
def Retries (connector : Connector) : ConnectorEvent → Prop
  | .start inLoop errno =>
      inLoop = true ∧ connector.state = .kDisconnected ∧ errno.retried = true
  | .restart errno => errno.retried = true
  | .retryTimer _ _ errno =>
      connector.state = .kDisconnected ∧ connector.connected = true ∧ errno.retried = true
  | .functor errno =>
      connector.connected = true ∧
        (connector.pendingFunctors.head? = some .startInLoop ∧
            connector.state = .kDisconnected ∧ errno.retried = true ∨
          connector.pendingFunctors.head? = some .stopInLoop ∧ connector.state = .kConnecting)
  | .writable error selfConnect =>
      connector.connected = true ∧ connector.state = .kConnecting ∧
        (error ≠ 0 ∨ selfConnect = true)
  | .error => connector.connected = true ∧ connector.state = .kConnecting
  | _ => False

/-- No retry is planned while an earlier one is pending, the channel of an earlier attempt is
not destroyed during the next one, and nothing is restarted that was stopped. -/
structure Undisturbed (connector : Connector) (event : ConnectorEvent) : Prop where
  oneRetry : connector.Retries event → connector.timersLeft event = []
  noReset : ∀ errno, event = .functor errno →
    connector.pendingFunctors.head? = some .resetChannel → connector.state ≠ .kConnecting
  notStopped : ∀ errno, event = .restart errno → connector.stopped = none

/-! ### The records -/

/-- The socket of the attempt that is going on. -/
def current (connector : Connector) : List Int :=
  if connector.state = .kConnecting then (connector.channel.map (·.fd)).toList else []

/-- Every socket is closed, handed over, or of the attempt that is going on. -/
structure Books (connector : Connector) : Prop where
  accounts :
    (connector.closed ++ connector.handed ++ connector.current).Perm connector.sockets
  distinct : connector.sockets.Nodup
  numbered : ∀ sockfd ∈ connector.sockets, sockfd < connector.nextSocket
  hasChannel : connector.state = .kConnecting → connector.channel.isSome
  stopped : ∀ mark, connector.stopped = some mark → connector.connected = false ∧
    mark = (connector.sockets.length, connector.handed.length)
  answered : connector.restarted ≤ connector.gone ∧ connector.gone ≤ connector.handed.length
  oneUp : connector.handed.length ≤ connector.restarted + 1
  isUp : connector.restarted < connector.handed.length → connector.state = .kConnected

theorem books_new : Books new := by
  constructor <;> simp [new, current]

section Books

variable {connector : Connector}

theorem Books.socketsPerm (books : Books connector) {current : List Int}
    (is : connector.current = current) :
    (connector.closed ++ connector.handed ++ current).Perm connector.sockets :=
  is ▸ books.accounts

theorem Books.nodup (books : Books connector) :
    (connector.closed ++ connector.handed ++ connector.current).Nodup :=
  books.accounts.nodup_iff.mpr books.distinct

/-- What is neither closed nor handed over is of the attempt that is going on. -/
theorem Books.unsettled_perm (books : Books connector) :
    connector.unsettled.Perm connector.current := by
  have apart := (List.nodup_append.mp books.nodup).2.2
  have inCurrent : (connector.closed ++ connector.handed ++ connector.current).filter
      (· ∉ connector.closed ++ connector.handed) = connector.current := by
    have ended : (connector.closed ++ connector.handed).filter
        (· ∉ connector.closed ++ connector.handed) = [] := by
      rw [List.filter_eq_nil_iff]
      intro sockfd mem
      simp only [decide_eq_true_eq, not_not]
      exact mem
    rw [List.filter_append, ended, List.nil_append, List.filter_eq_self]
    intro sockfd mem
    have open_ : sockfd ∉ connector.closed ++ connector.handed :=
      fun ended => apart sockfd ended sockfd mem rfl
    exact decide_eq_true open_
  exact inCurrent ▸ (books.accounts.filter _).symm

theorem Books.lifeCycle (books : Books connector) (oneRetry : connector.timers.length ≤ 1) :
    LifeCycle connector := by
  have unsettled := books.unsettled_perm
  constructor
  · exact (List.nodup_append.mp books.nodup).1
  · intro sockfd mem
    exact books.accounts.mem_iff.mp (List.mem_append_left _ mem)
  · intro idle
    rw [current, if_neg idle] at unsettled
    exact unsettled.eq_nil
  · rw [unsettled.length_eq, current]
    split
    · cases connector.channel <;> simp
    · simp
  · intro sockfd mem
    have here := unsettled.mem_iff.mp mem
    rw [current] at here
    split at here
    · simpa using here
    · cases here
  · exact oneRetry
  · intro mark at_
    rw [(books.stopped mark at_).2]
    exact ⟨rfl, rfl⟩

/-- The loop's part of the state is not in the books. -/
theorem Books.replan (books : Books connector) (functors : List LoopFunctor) (timers : List Nat)
    (retryDelayMs : Nat) :
    Books { connector with
      pendingFunctors := functors, timers := timers, retryDelayMs := retryDelayMs } :=
  ⟨books.accounts, books.distinct, books.numbered, books.hasChannel, books.stopped,
    books.answered, books.oneUp, books.isUp⟩

theorem Books.noneUp (books : Books connector) (notUp : connector.state ≠ .kConnected) :
    connector.handed.length = connector.restarted := by
  have answered := books.answered
  have up := mt books.isUp notUp
  omega

/-- A socket was created and not yet given to anyone. -/
structure InHand (connector : Connector) (sockfd : Int) : Prop where
  accounts : (connector.closed ++ connector.handed ++ [sockfd]).Perm connector.sockets
  distinct : connector.sockets.Nodup
  numbered : ∀ sockfd ∈ connector.sockets, sockfd < connector.nextSocket
  stopped : ∀ mark, connector.stopped = some mark → connector.connected = false ∧
    mark = (connector.sockets.length, connector.handed.length)
  answered : connector.restarted ≤ connector.gone ∧ connector.gone ≤ connector.handed.length
  noneUp : connector.handed.length = connector.restarted

variable {sockfd : Int}

theorem perm_close (closed handed : List Int) (sockfd : Int) :
    (closed ++ [sockfd] ++ handed ++ []).Perm (closed ++ handed ++ [sockfd]) := by
  rw [List.append_nil, List.append_assoc, List.append_assoc]
  exact List.Perm.append_left closed List.perm_append_comm

theorem InHand.close (inHand : InHand connector sockfd) (state : States)
    (idle : state ≠ .kConnecting) : Books { connector.close sockfd with state := state } where
  accounts := by
    rw [current, if_neg idle]
    exact (perm_close _ _ _).trans inHand.accounts
  distinct := inHand.distinct
  numbered := inHand.numbered
  hasChannel busy := absurd busy idle
  stopped := inHand.stopped
  answered := inHand.answered
  oneUp := Nat.le_succ_of_le (Nat.le_of_eq inHand.noneUp)
  isUp up := absurd inHand.noneUp (Nat.ne_of_gt up)

theorem InHand.retry (inHand : InHand connector sockfd) : Books (connector.retry sockfd) := by
  have closed := inHand.close .kDisconnected (by decide)
  unfold Connector.retry
  split
  · exact closed.replan _ _ _
  · exact closed

theorem InHand.connecting (inHand : InHand connector sockfd) :
    Books (connector.connecting sockfd) where
  accounts := inHand.accounts
  distinct := inHand.distinct
  numbered := inHand.numbered
  hasChannel _ := rfl
  stopped := inHand.stopped
  answered := inHand.answered
  oneUp := Nat.le_succ_of_le (Nat.le_of_eq inHand.noneUp)
  isUp up := absurd inHand.noneUp (Nat.ne_of_gt up)

theorem InHand.handOver (inHand : InHand connector sockfd) (on : connector.connected = true) :
    Books ({ connector with state := .kConnected }.newConnectionCallback sockfd) where
  accounts := by
    have handed : (connector.closed ++ (connector.handed ++ [sockfd]) ++ []).Perm
        connector.sockets := by
      rw [List.append_nil, ← List.append_assoc]
      exact inHand.accounts
    exact handed
  distinct := inHand.distinct
  numbered := inHand.numbered
  hasChannel busy := by cases busy
  stopped mark at_ := by
    have off := (inHand.stopped mark at_).1
    exact absurd (on.symm.trans off) (by decide)
  answered := by
    have answered := inHand.answered
    simp only [newConnectionCallback, List.length_append]
    omega
  oneUp := by
    have noneUp := inHand.noneUp
    simp only [newConnectionCallback, List.length_append, List.length_singleton]
    omega
  isUp _ := rfl

theorem Books.create (books : Books connector) (idle : connector.state = .kDisconnected)
    (on : connector.connected = true) : InHand connector.createOrDie connector.nextSocket where
  accounts := by
    have nothing : connector.current = [] := by
      rw [current, idle]
      rfl
    have before := books.socketsPerm nothing
    rw [List.append_nil] at before
    exact before.append_right _
  distinct := by
    refine List.nodup_append.mpr ⟨books.distinct, by simp, ?_⟩
    intro old mem new is
    rw [List.mem_singleton.mp is]
    exact Int.ne_of_lt (books.numbered old mem)
  numbered sockfd mem := by
    have next : connector.createOrDie.nextSocket = connector.nextSocket + 1 := by
      simp [nextSocket, createOrDie]
    rw [next]
    rcases List.mem_append.mp mem with old | new
    · have before := books.numbered sockfd old
      omega
    · rw [List.mem_singleton.mp new]
      omega
  stopped mark at_ := by
    have off := (books.stopped mark at_).1
    exact absurd (on.symm.trans off) (by decide)
  answered := books.answered
  noneUp := books.noneUp (by rw [idle]; decide)

theorem connect_cases (connector : Connector) (errno : Errno) :
    (errno.retried = false ∧ connector.connect errno =
      connector.createOrDie.connecting connector.nextSocket) ∨
    (errno.retried = true ∧ connector.connect errno =
      connector.createOrDie.retry connector.nextSocket) ∨
    (errno.retried = false ∧ connector.connect errno =
      connector.createOrDie.close connector.nextSocket) := by
  cases errno <;> simp [connect, Errno.retried]

theorem Books.startInLoop (books : Books connector) (errno : Errno) :
    Books (connector.startInLoop errno) := by
  unfold Connector.startInLoop
  split
  · exact books
  · rename_i notIdle
    have idle : connector.state = .kDisconnected := not_not.mp notIdle
    split
    · rename_i on
      have inHand := books.create idle on
      rcases connector.connect_cases errno with ⟨_, result⟩ | ⟨_, result⟩ | ⟨_, result⟩
      · exact result ▸ inHand.connecting
      · exact result ▸ inHand.retry
      · have kept : connector.createOrDie.state ≠ .kConnecting := by
          simp [createOrDie, idle]
        exact result ▸ inHand.close _ kept
    · exact books

/-- What `removeAndResetChannel` gives is the socket of the attempt. -/
theorem Books.remove (books : Books connector) (busy : connector.state = .kConnecting) :
    ∃ sockfd removed, connector.removeAndResetChannel = some (sockfd, removed) ∧
      InHand removed sockfd ∧ removed.connected = connector.connected ∧
      removed.timers = connector.timers := by
  obtain ⟨channel, is⟩ := Option.isSome_iff_exists.mp (books.hasChannel busy)
  have removed : connector.removeAndResetChannel = some (channel.fd,
      { connector with
        channel := some { channel with events := kNoneEvent } }.queueInLoop .resetChannel) := by
    simp only [removeAndResetChannel, is]
  refine ⟨channel.fd, _, removed, ?_, rfl, rfl⟩
  have one : connector.current = [channel.fd] := by
    rw [current, if_pos busy, is]
    rfl
  have noneUp := books.noneUp (by rw [busy]; decide)
  exact ⟨books.socketsPerm one, books.distinct, books.numbered, books.stopped, books.answered,
    noneUp⟩

/-- The end of an attempt that fails, as `stopInLoop` and `handleError` make it. -/
theorem Books.leave (books : Books connector) (busy : connector.state = .kConnecting) :
    ∃ sockfd removed, InHand removed sockfd ∧ removed.connected = connector.connected ∧
      removed.timers = connector.timers ∧ connector.stopInLoop = removed.retry sockfd ∧
      connector.handleError = removed.retry sockfd ∧
      ∀ error selfConnect, (error ≠ 0 ∨ selfConnect = true) →
        connector.handleWrite error selfConnect = removed.retry sockfd := by
  obtain ⟨sockfd, removed, found, inHand, same, timers⟩ := books.remove busy
  refine ⟨sockfd, removed, inHand, same, timers, ?_, ?_, ?_⟩
  · obtain ⟨channel, is⟩ := Option.isSome_iff_exists.mp (books.hasChannel busy)
    simp only [removeAndResetChannel, is, Option.some.injEq, Prod.mk.injEq] at found
    obtain ⟨rfl, rfl⟩ := found
    simp only [stopInLoop, if_pos busy, removeAndResetChannel, is]
    rfl
  · simp only [handleError, if_pos busy, found]
  · intro error selfConnect failed
    simp only [handleWrite, if_pos busy, found]
    rcases failed with wrong | self
    · rw [if_pos wrong]
    · rw [if_pos self, ite_self]

theorem Books.stopInLoop (books : Books connector) : Books connector.stopInLoop := by
  by_cases busy : connector.state = .kConnecting
  · obtain ⟨sockfd, removed, inHand, _, _, result, _⟩ := books.leave busy
    exact result ▸ inHand.retry
  · rw [Connector.stopInLoop, if_neg busy]
    exact books

theorem Books.handleError (books : Books connector) : Books connector.handleError := by
  by_cases busy : connector.state = .kConnecting
  · obtain ⟨sockfd, removed, inHand, _, _, _, result, _⟩ := books.leave busy
    exact result ▸ inHand.retry
  · rw [Connector.handleError, if_neg busy]
    exact books

theorem Books.handleWrite (books : Books connector) (error : Int) (selfConnect : Bool) :
    Books (connector.handleWrite error selfConnect) := by
  by_cases busy : connector.state = .kConnecting
  · by_cases failed : error ≠ 0 ∨ selfConnect = true
    · obtain ⟨sockfd, removed, inHand, _, _, _, _, result⟩ := books.leave busy
      exact result error selfConnect failed ▸ inHand.retry
    · obtain ⟨right, other⟩ := not_or.mp failed
      obtain ⟨sockfd, removed, found, inHand, _⟩ := books.remove busy
      simp only [Connector.handleWrite, if_pos busy, found, if_neg right, if_neg other]
      split
      · rename_i on
        exact inHand.handOver on
      · exact inHand.close .kConnected (by decide)
  · rw [Connector.handleWrite, if_neg busy]
    exact books

theorem Books.start (books : Books connector) (inLoop : Bool) (errno : Errno) :
    Books (connector.start inLoop errno) := by
  have on : Books { connector with connected := true, stopped := none } :=
    ⟨books.accounts, books.distinct, books.numbered, books.hasChannel, (fun _ at_ => nomatch at_),
      books.answered, books.oneUp, books.isUp⟩
  unfold Connector.start
  split
  · exact on.startInLoop errno
  · exact on.replan _ _ _

theorem Books.stop (books : Books connector) : Books connector.stop where
  accounts := books.accounts
  distinct := books.distinct
  numbered := books.numbered
  hasChannel := books.hasChannel
  stopped _ at_ := ⟨rfl, (Option.some.inj at_).symm⟩
  answered := books.answered
  oneUp := books.oneUp
  isUp := books.isUp

/-- The connection that has gone down is the last one that was handed over. -/
theorem Books.restart (books : Books connector) (promised : connector.restarted < connector.gone)
    (notStopped : connector.stopped = none) (errno : Errno) :
    Books (connector.restart errno) := by
  have answered := books.answered
  have oneUp := books.oneUp
  have up := books.isUp (by omega)
  have nothing : connector.current = [] := by
    rw [current, up]
    rfl
  have again : Books connector.reset :=
    { accounts := books.socketsPerm nothing
      distinct := books.distinct
      numbered := books.numbered
      hasChannel := fun busy => nomatch busy
      stopped := fun mark at_ => absurd (notStopped.symm.trans at_) (by simp)
      answered := by
        simp only [reset]
        omega
      oneUp := by
        simp only [reset]
        omega
      isUp := fun later => by
        simp only [reset] at later
        omega }
  exact again.startInLoop errno

theorem Books.resetChannel (books : Books connector) (idle : connector.state ≠ .kConnecting) :
    Books connector.resetChannel where
  accounts := by
    have nothing : connector.resetChannel.current = [] := if_neg idle
    have before : connector.current = [] := if_neg idle
    rw [nothing]
    exact books.socketsPerm before
  distinct := books.distinct
  numbered := books.numbered
  hasChannel busy := absurd busy idle
  stopped := books.stopped
  answered := books.answered
  oneUp := books.oneUp
  isUp := books.isUp

theorem Books.step (books : Books connector) {event : ConnectorEvent}
    (promised : connector.Promised event) (undisturbed : connector.Undisturbed event) :
    Books (connector.step event) := by
  cases event with
  | start inLoop errno => exact books.start inLoop errno
  | stop => exact books.stop
  | goesDown =>
      have down : connector.gone < connector.handed.length := promised
      have answered := books.answered
      exact ⟨books.accounts, books.distinct, books.numbered, books.hasChannel, books.stopped,
        ⟨by simp only [Connector.step]; omega, by simp only [Connector.step]; omega⟩,
        books.oneUp, books.isUp⟩
  | restart errno => exact books.restart promised (undisturbed.notStopped errno rfl) errno
  | retryTimer index removed errno =>
      exact (books.replan _ (connector.timersLeft (.retryTimer index removed errno)) _).startInLoop
        errno
  | functor errno =>
      simp only [Connector.step]
      split
      · exact books
      · rename_i functor later queue
        have taken := books.replan later connector.timers connector.retryDelayMs
        cases functor with
        | startInLoop => exact taken.startInLoop errno
        | stopInLoop => exact taken.stopInLoop
        | resetChannel =>
            exact taken.resetChannel (undisturbed.noReset errno rfl (by rw [queue]; rfl))
  | writable error selfConnect =>
      simp only [Connector.step]
      split
      · exact books.handleWrite error selfConnect
      · exact books
  | error =>
      simp only [Connector.step]
      split
      · exact books.handleError
      · exact books

end Books

/-! ### The retry timers -/

section Timers

variable {connector : Connector}

instance (connector : Connector) (event : ConnectorEvent) : Decidable (connector.Retries event) := by
  cases event <;> unfold Retries <;> infer_instance

/-- `removeAndResetChannel` has a channel to remove. -/
def EndsAttempt (connector : Connector) : ConnectorEvent → Prop
  | .functor _ => connector.pendingFunctors.head? = some .stopInLoop
  | .writable _ _ => True
  | .error => True
  | _ => False

/-- The event makes `retry` run on a connector that is to connect: an attempt failed. -/
def Fails (connector : Connector) (event : ConnectorEvent) : Prop :=
  connector.Retries event ∧ (connector.EndsAttempt event → connector.channel.isSome = true)

/-- The delay that the event finds. -/
def delayFor (connector : Connector) : ConnectorEvent → Nat
  | .restart _ => kInitRetryDelayMs
  | _ => connector.retryDelayMs

/-- From these timers and this delay a failure plans one more retry and doubles the delay, and
nothing else does either. -/
structure Plans (timers : List Nat) (delay : Nat) (fails : Prop) (after : Connector) : Prop where
  planned : fails → after.timers = timers ++ [delay / 1000] ∧
    after.retryDelayMs = min (delay * 2) kMaxRetryDelayMs
  unplanned : ¬ fails → after.timers = timers ∧ after.retryDelayMs = delay

theorem Plans.congr {timers : List Nat} {delay : Nat} {fails fails' : Prop} {after : Connector}
    (plans : Plans timers delay fails after) (same : fails' ↔ fails) :
    Plans timers delay fails' after :=
  ⟨fun holds => plans.planned (same.mp holds), fun not => plans.unplanned (mt same.mpr not)⟩

theorem plans_none {timers : List Nat} {delay : Nat} {fails : Prop} {after : Connector}
    (not : ¬ fails) (kept : after.timers = timers ∧ after.retryDelayMs = delay) :
    Plans timers delay fails after :=
  ⟨fun holds => absurd holds not, fun _ => kept⟩

theorem retry_plans (connector : Connector) (sockfd : Int) :
    Plans connector.timers connector.retryDelayMs (connector.connected = true)
      (connector.retry sockfd) := by
  unfold retry
  constructor
  · intro on
    rw [if_pos on]
    exact ⟨rfl, rfl⟩
  · intro off
    rw [if_neg off]
    exact ⟨rfl, rfl⟩

theorem startInLoop_plans (connector : Connector) (errno : Errno) :
    Plans connector.timers connector.retryDelayMs
      (connector.state = .kDisconnected ∧ connector.connected = true ∧ errno.retried = true)
      (connector.startInLoop errno) := by
  unfold startInLoop
  by_cases idle : connector.state = .kDisconnected
  · rw [if_neg (not_not_intro idle)]
    by_cases on : connector.connected = true
    · rw [if_pos on]
      rcases connector.connect_cases errno with ⟨retried, result⟩ | ⟨retried, result⟩ |
        ⟨retried, result⟩
      · rw [result]
        exact plans_none (by simp [retried]) ⟨rfl, rfl⟩
      · rw [result]
        exact (connector.createOrDie.retry_plans _).congr (by simp [createOrDie, idle, on, retried])
      · rw [result]
        exact plans_none (by simp [retried]) ⟨rfl, rfl⟩
    · rw [if_neg on]
      exact plans_none (fun all => on all.2.1) ⟨rfl, rfl⟩
  · rw [if_pos idle]
    exact plans_none (fun all => idle all.1) ⟨rfl, rfl⟩

/-- What `removeAndResetChannel` leaves of the timers. -/
theorem removeAndResetChannel_cases (connector : Connector) :
    (connector.channel = none ∧ connector.removeAndResetChannel = none) ∨
      ∃ sockfd removed, connector.channel.isSome = true ∧
        connector.removeAndResetChannel = some (sockfd, removed) ∧
        removed.timers = connector.timers ∧ removed.retryDelayMs = connector.retryDelayMs ∧
        removed.connected = connector.connected := by
  unfold removeAndResetChannel
  cases connector.channel with
  | none => exact .inl ⟨rfl, rfl⟩
  | some held => exact .inr ⟨_, _, rfl, rfl, rfl, rfl, rfl⟩

/-- A retry plans as it would have on the connector whose channel was removed. -/
theorem retry_plans_removed {connector removed : Connector} (sockfd : Int)
    (timers : removed.timers = connector.timers)
    (delay : removed.retryDelayMs = connector.retryDelayMs)
    (connected : removed.connected = connector.connected) :
    Plans connector.timers connector.retryDelayMs (connector.connected = true)
      (removed.retry sockfd) := by
  have plans := removed.retry_plans sockfd
  rwa [timers, delay, connected] at plans

theorem stopInLoop_plans (connector : Connector) :
    Plans connector.timers connector.retryDelayMs
      ((connector.connected = true ∧ connector.state = .kConnecting) ∧
        connector.channel.isSome = true) connector.stopInLoop := by
  unfold stopInLoop
  by_cases busy : connector.state = .kConnecting
  · rw [if_pos busy]
    rcases removeAndResetChannel_cases { connector with state := .kDisconnected } with
      ⟨absent, found⟩ | ⟨sockfd, removed, held, found, timers, delay, connected⟩
    · simp only [found]
      exact plans_none (by simp [show connector.channel = none from absent]) ⟨rfl, rfl⟩
    · simp only [found]
      have plans : Plans connector.timers connector.retryDelayMs (connector.connected = true)
          (removed.retry sockfd) := retry_plans_removed sockfd timers delay connected
      exact plans.congr (by simp [busy, show connector.channel.isSome = true from held])
  · rw [if_neg busy]
    exact plans_none (fun all => busy all.1.2) ⟨rfl, rfl⟩

theorem handleError_plans (connector : Connector) :
    Plans connector.timers connector.retryDelayMs
      ((connector.connected = true ∧ connector.state = .kConnecting) ∧
        connector.channel.isSome = true) connector.handleError := by
  unfold handleError
  by_cases busy : connector.state = .kConnecting
  · rw [if_pos busy]
    rcases connector.removeAndResetChannel_cases with
      ⟨absent, found⟩ | ⟨sockfd, removed, held, found, timers, delay, connected⟩
    · rw [found]
      exact plans_none (by simp [absent]) ⟨rfl, rfl⟩
    · rw [found]
      have plans := retry_plans_removed sockfd timers delay connected
      exact plans.congr (by simp [busy, held])
  · rw [if_neg busy]
    exact plans_none (fun all => busy all.1.2) ⟨rfl, rfl⟩

theorem handleWrite_plans (connector : Connector) (error : Int) (selfConnect : Bool) :
    Plans connector.timers connector.retryDelayMs
      ((connector.connected = true ∧ connector.state = .kConnecting ∧
        (error ≠ 0 ∨ selfConnect = true)) ∧ connector.channel.isSome = true)
      (connector.handleWrite error selfConnect) := by
  unfold handleWrite
  by_cases busy : connector.state = .kConnecting
  · rw [if_pos busy]
    rcases connector.removeAndResetChannel_cases with
      ⟨absent, found⟩ | ⟨sockfd, removed, held, found, timers, delay, connected⟩
    · rw [found]
      exact plans_none (by simp [absent]) ⟨rfl, rfl⟩
    · rw [found]
      have plans := retry_plans_removed sockfd timers delay connected
      simp only
      by_cases wrong : error ≠ 0
      · rw [if_pos wrong]
        exact plans.congr (by simp [busy, held, wrong])
      · rw [if_neg wrong]
        cases selfConnect with
        | true => exact plans.congr (by simp [busy, held])
        | false =>
            apply plans_none (by simp [wrong])
            rw [if_neg Bool.false_ne_true]
            split
            · exact ⟨timers, delay⟩
            · exact ⟨timers, delay⟩
  · rw [if_neg busy]
    exact plans_none (fun all => busy all.1.2.1) ⟨rfl, rfl⟩

/-- What a step plans. -/
theorem step_plans (connector : Connector) (event : ConnectorEvent) :
    Plans (connector.timersLeft event) (connector.delayFor event) (connector.Fails event)
      (connector.step event) := by
  cases event with
  | start inLoop errno =>
      cases inLoop with
      | false => exact plans_none (by simp [Fails, Retries]) ⟨rfl, rfl⟩
      | true =>
          exact (startInLoop_plans { connector with connected := true, stopped := none }
            errno).congr (by simp [Fails, Retries, EndsAttempt])
  | stop => exact plans_none (by simp [Fails, Retries]) ⟨rfl, rfl⟩
  | goesDown => exact plans_none (by simp [Fails, Retries]) ⟨rfl, rfl⟩
  | restart errno =>
      exact (connector.reset.startInLoop_plans errno).congr
        (by simp [Fails, Retries, EndsAttempt, reset])
  | retryTimer index removed errno =>
      exact (startInLoop_plans { connector with
        timers := connector.timersLeft (.retryTimer index removed errno) } errno).congr
        (by simp [Fails, Retries, EndsAttempt])
  | functor errno =>
      cases queue : connector.pendingFunctors with
      | nil =>
          simp only [step, queue]
          exact plans_none (by simp [Fails, Retries, queue]) ⟨rfl, rfl⟩
      | cons functor later =>
          simp only [step, queue]
          cases functor with
          | startInLoop =>
              exact (startInLoop_plans { connector with pendingFunctors := later } errno).congr
                (by simp [Fails, Retries, EndsAttempt, queue, and_left_comm])
          | stopInLoop =>
              exact (stopInLoop_plans { connector with pendingFunctors := later }).congr
                (by simp [Fails, Retries, EndsAttempt, queue])
          | resetChannel => exact plans_none (by simp [Fails, Retries, queue]) ⟨rfl, rfl⟩
  | writable error selfConnect =>
      simp only [step]
      split
      · exact (connector.handleWrite_plans error selfConnect).congr
          (by simp [Fails, Retries, EndsAttempt])
      · rename_i gone
        exact plans_none (fun all => gone (all.2 trivial)) ⟨rfl, rfl⟩
  | error =>
      simp only [step]
      split
      · exact connector.handleError_plans.congr (by simp [Fails, Retries, EndsAttempt])
      · rename_i gone
        exact plans_none (fun all => gone (all.2 trivial)) ⟨rfl, rfl⟩

/-- While the books are kept, the channel of an attempt is there. -/
theorem Books.fails_iff (books : Books connector) (event : ConnectorEvent) :
    connector.Fails event ↔ connector.Retries event := by
  refine and_iff_left_of_imp fun retries ends => books.hasChannel ?_
  cases event with
  | functor errno =>
      have first : connector.pendingFunctors.head? = some .stopInLoop := ends
      rcases retries.2 with ⟨other, _⟩ | ⟨_, busy⟩
      · rw [first] at other
        exact nomatch other
      · exact busy
  | writable error selfConnect => exact retries.2.1
  | error => exact retries.2
  | _ => exact ends.elim

/-- A step adds a timer exactly when it plans a retry. -/
theorem Books.step_timers (books : Books connector) (event : ConnectorEvent) :
    (connector.step event).timers.length =
      (connector.timersLeft event).length + if connector.Retries event then 1 else 0 := by
  have plans := (connector.step_plans event).congr (books.fails_iff event).symm
  by_cases retries : connector.Retries event
  · rw [(plans.planned retries).1, if_pos retries, List.length_append, List.length_singleton]
  · rw [(plans.unplanned retries).1, if_neg retries, Nat.add_zero]

end Timers

/-! ### Runs -/

section Runs

variable {connector : Connector}

/-- The invariant of the undisturbed runs. -/
structure Sound (connector : Connector) : Prop where
  books : Books connector
  oneRetry : connector.timers.length ≤ 1

theorem Sound.lifeCycle (sound : Sound connector) : LifeCycle connector :=
  sound.books.lifeCycle sound.oneRetry

theorem timersLeft_length_le (connector : Connector) (event : ConnectorEvent) :
    (connector.timersLeft event).length ≤ connector.timers.length := by
  unfold timersLeft
  split
  · exact List.length_eraseIdx_le _ _
  · exact Nat.le_refl _

theorem Sound.step (sound : Sound connector) {event : ConnectorEvent}
    (promised : connector.Promised event) (undisturbed : connector.Undisturbed event) :
    Sound (connector.step event) := by
  refine ⟨sound.books.step promised undisturbed, ?_⟩
  have left := timersLeft_length_le connector event
  have before := sound.oneRetry
  rw [sound.books.step_timers event]
  split
  · rename_i retries
    rw [undisturbed.oneRetry retries]
    exact Nat.le_refl 1
  · omega

theorem retry_keeps (connector : Connector) (sockfd : Int) :
    (connector.retry sockfd).sockets = connector.sockets ∧
      (connector.retry sockfd).stopped = connector.stopped := by
  unfold retry
  split
  · exact ⟨rfl, rfl⟩
  · exact ⟨rfl, rfl⟩

theorem connect_creates (connector : Connector) (errno : Errno) :
    (connector.connect errno).sockets.length = connector.sockets.length + 1 ∧
      (connector.connect errno).stopped = connector.stopped := by
  rcases connector.connect_cases errno with ⟨_, result⟩ | ⟨_, result⟩ | ⟨_, result⟩
  · simp [result, connecting, createOrDie]
  · simp [result, retry_keeps, createOrDie]
  · simp [result, close, createOrDie]

/-- A step that is disturbed leaves the life cycle. -/
theorem Sound.undisturbed (sound : Sound connector) {event : ConnectorEvent}
    (after : LifeCycle (connector.step event)) : connector.Undisturbed event where
  oneRetry retries := by
    have timers := sound.books.step_timers event
    have one := after.oneRetry
    rw [if_pos retries] at timers
    exact List.length_eq_zero_iff.mp (by omega)
  noReset errno is first busy := by
    subst is
    obtain ⟨later, queue⟩ := List.head?_eq_some_iff.mp first
    obtain ⟨channel, held⟩ := Option.isSome_iff_exists.mp (sound.books.hasChannel busy)
    have destroyed : connector.step (.functor errno) =
        { connector with pendingFunctors := later, channel := none } := by
      simp only [Connector.step, queue]
      rfl
    have there : channel.fd ∈ connector.unsettled := by
      rw [sound.books.unsettled_perm.mem_iff, current, if_pos busy, held]
      exact List.mem_singleton_self _
    rw [destroyed] at after
    exact nomatch after.hasChannel channel.fd there
  notStopped errno is := by
    subst is
    by_contra still
    obtain ⟨mark, stopped⟩ := Option.ne_none_iff_exists'.mp still
    have before := (sound.books.stopped mark stopped).2
    have restarted : connector.step (.restart errno) = connector.reset.connect errno := rfl
    rw [restarted] at after
    have created := connector.reset.connect_creates errno
    have same := (after.stopped mark (created.2.trans stopped)).1
    rw [created.1, before] at same
    exact absurd same (Nat.succ_ne_self _)

/-- A run of a connector keeps the life cycle all along exactly when no step disturbs it. -/
theorem lifeCycle_iff (events : List ConnectorEvent)
    (promised : Meets step Promised new events) :
    Always step LifeCycle new events ↔ Meets step Undisturbed new events :=
  always_iff_meets
    (fun _ _ (sound : Sound _) kept =>
      ⟨sound.undisturbed, fun calm => (sound.step kept calm).lifeCycle⟩)
    (fun _ _ sound kept calm => sound.step kept calm)
    (fun _ sound => sound.lifeCycle)
    events ⟨books_new, Nat.zero_le 1⟩ promised

instance (connector : Connector) (event : ConnectorEvent) :
    Decidable (connector.Promised event) := by
  cases event <;> unfold Promised <;> infer_instance

/-- A connection that goes down and is restarted. -/
theorem lifeCycle_iff_restarted :
    Always step LifeCycle new
        [.start true .EINPROGRESS, .writable 0 false, .goesDown, .restart .EINPROGRESS] ↔
      Meets step Undisturbed new
        [.start true .EINPROGRESS, .writable 0 false, .goesDown, .restart .EINPROGRESS] :=
  lifeCycle_iff _ (by decide)

/-- A stop leaves the pending retry, and the next start plans another. -/
theorem stop_leaves_retry :
    ¬ Always step LifeCycle new
      [.start true .ECONNREFUSED, .stop, .functor .success, .start true .ECONNREFUSED] := by
  intro always
  exact absurd always.last.oneRetry (by decide)

end Runs

end Connector

end AChat.Net
