import AChat.DbProxy.ConnPool

/-!
Contract: when the workers that send group messages block each other.

A worker takes a second connection of the master pool in `updateGroupChat`, while it holds
the one of `sendMessage`. As many workers as there are connections, each with its first one,
wait for each other for ever. While fewer hold a first connection, one of them gets its
second, or somebody gives one back.

Owns: the workers on one pool, and their runs.
-/

namespace AChat.DbProxy

open Lib ConnPool

namespace PoolDeadlock

/-! ### The workers -/

/-- A call of a worker on the master pool. A release gives back the connection that was taken
last. -/
inductive Call where
  | getDBConn
  | relDBConn
deriving DecidableEq, Repr

/-- `GroupModel::updateGroupChat` -/
def updateGroupChat : List Call :=
  [.getDBConn, .relDBConn]

/-- `GroupMessageModel::sendMessage`, for a sender who is in the group or not. The counters use
other pools. -/
def sendMessage (isInGroup : Bool) : List Call :=
  if isInGroup then [.getDBConn] ++ updateGroupChat ++ [.relDBConn] else []

/-- The pool, what each worker has still to do, and the connections it holds, the last one
first. -/
structure Workers (Thread Conn : Type) where
  pool : Pool Thread Conn
  todo : Thread → List Call
  stack : Thread → List Conn

variable {Thread Conn : Type} [DecidableEq Thread] [DecidableEq Conn]

namespace Workers

/-- The workers and the messages each of them sends. -/
def start (free : List Conn) (messages : Thread → List Bool) : Workers Thread Conn where
  pool := .start free PoolKind.dbPool.minConnCnt
  todo := fun thread => (messages thread).flatMap sendMessage
  stack := fun _ => []

def withPool (workers : Workers Thread Conn) (pool : Pool Thread Conn) : Workers Thread Conn :=
  { workers with pool := pool }

/-- A call has returned. -/
def returned (workers : Workers Thread Conn) (thread : Thread) (pool : Pool Thread Conn)
    (stack : List Conn) : Workers Thread Conn where
  pool := pool
  todo := Function.update workers.todo thread (workers.todo thread).tail
  stack := Function.update workers.stack thread stack

/-- A step of a worker. Connects succeed. -/
def step (maxConnCnt : Nat) (workers : Workers Thread Conn) (event : Thread × Action Conn) :
    Workers Thread Conn :=
  let thread := event.1
  let pool := workers.pool
  match event.2 with
  | .get =>
      if (workers.todo thread).head? = some .getDBConn then
        workers.withPool (pool.step maxConnCnt (thread, .get))
      else workers
  | .rel conn =>
      if (workers.todo thread).head? = some .relDBConn ∧
          (workers.stack thread).head? = some conn then
        workers.withPool (pool.step maxConnCnt (thread, .rel conn))
      else workers
  | .connected _ => workers.withPool (pool.step maxConnCnt (thread, .connected true))
  | .look address =>
      let after := pool.step maxConnCnt (thread, .look address)
      match pool.phase thread, pool.freeList with
      | .checking, conn :: _ => workers.returned thread after (conn :: workers.stack thread)
      | _, _ => workers.withPool after
  | .file =>
      let after := pool.step maxConnCnt (thread, .file)
      match pool.phase thread with
      | .filing _ => workers.returned thread after (workers.stack thread).tail
      | _ => workers
  | .lock => workers.withPool (pool.step maxConnCnt (thread, .lock))
  | .wake => workers.withPool (pool.step maxConnCnt (thread, .wake))

/-- All connections are held by workers that wait for another one, and everybody who has not
finished waits. -/
structure Deadlocked (maxConnCnt : Nat) (workers : Workers Thread Conn) : Prop where
  held : workers.pool.lent.length = maxConnCnt
  holdersWait : ∀ thread conn, (thread, conn) ∈ workers.pool.lent →
    workers.pool.phase thread = .waiting
  unfinishedWait : ∀ thread, workers.todo thread ≠ [] → workers.pool.phase thread = .waiting

/-- The worker holds its first connection and has not got its second. -/
def wantsSecond (workers : Workers Thread Conn) (thread : Thread) : Bool :=
  !(workers.stack thread).isEmpty && (workers.todo thread).head? == some .getDBConn

/-- How many connections are held by workers that have not got their second. -/
def firsts (workers : Workers Thread Conn) : Nat :=
  (workers.pool.lent.filter fun entry => workers.wantsSecond entry.1).length

/-- The worker gets its first connection in this step. -/
def GetsFirst (workers : Workers Thread Conn) (event : Thread × Action Conn) : Prop :=
  match event.2 with
  | .look _ => workers.pool.phase event.1 = .checking ∧ workers.pool.freeList ≠ [] ∧
      workers.stack event.1 = []
  | _ => False

/-- A new connection gets the address of no other. -/
def Fresh (workers : Workers Thread Conn) (event : Thread × Action Conn) : Prop :=
  match event.2 with
  | .look address => address ∉ workers.pool.freeList ∧ address ∉ workers.pool.lent.map Prod.snd
  | _ => True

/-- A first connection is handed out only while, with it, fewer than all connections are first
ones whose holder wants a second. -/
structure Spared (maxConnCnt : Nat) (workers : Workers Thread Conn)
    (event : Thread × Action Conn) : Prop where
  fresh : workers.Fresh event
  room : workers.GetsFirst event → workers.firsts + 1 < maxConnCnt

instance GetsFirst.instDecidable (workers : Workers Thread Conn)
    (event : Thread × Action Conn) : Decidable (workers.GetsFirst event) :=
  match event with
  | (thread, .look _) => inferInstanceAs (Decidable (workers.pool.phase thread = .checking ∧
      workers.pool.freeList ≠ [] ∧ workers.stack thread = []))
  | (_, .get) | (_, .lock) | (_, .connected _) | (_, .wake) | (_, .rel _) | (_, .file) =>
      inferInstanceAs (Decidable False)

instance Fresh.instDecidable (workers : Workers Thread Conn) (event : Thread × Action Conn) :
    Decidable (workers.Fresh event) :=
  match event with
  | (_, .look address) => inferInstanceAs (Decidable (address ∉ workers.pool.freeList ∧
      address ∉ workers.pool.lent.map Prod.snd))
  | (_, .get) | (_, .lock) | (_, .connected _) | (_, .wake) | (_, .rel _) | (_, .file) =>
      inferInstanceAs (Decidable True)

instance Spared.instDecidable (maxConnCnt : Nat) (workers : Workers Thread Conn)
    (event : Thread × Action Conn) : Decidable (workers.Spared maxConnCnt event) :=
  decidable_of_iff
    (workers.Fresh event ∧ (workers.GetsFirst event → workers.firsts + 1 < maxConnCnt))
    ⟨fun spared => ⟨spared.1, spared.2⟩, fun spared => ⟨spared.fresh, spared.room⟩⟩

/-! ### The invariant -/

/-- What is left to do between two messages. -/
def Between (todo : List Call) : Prop :=
  ∃ messages : List Bool, todo = messages.flatMap sendMessage

/-- How far a worker is with a message, by the connections it holds. -/
inductive Stage : List Conn → List Call → Prop where
  | between {todo : List Call} : Between todo → Stage [] todo
  | first {conn : Conn} {rest : List Call} : Between rest →
      Stage [conn] (.getDBConn :: .relDBConn :: .relDBConn :: rest)
  | second {conn other : Conn} {rest : List Call} : Between rest →
      Stage [conn, other] (.relDBConn :: .relDBConn :: rest)
  | last {conn : Conn} {rest : List Call} : Between rest → Stage [conn] (.relDBConn :: rest)

/-- The call that a worker is in is the next one it has to do. -/
def InCall (phase : Phase Conn) (todo : List Call) (stack : List Conn) : Prop :=
  match phase with
  | .outside => True
  | .refused => False
  | .entering | .checking | .waiting | .woken | .connecting _ => todo.head? = some .getDBConn
  | .returning conn | .filing conn => todo.head? = some .relDBConn ∧ stack.head? = some conn

structure Ordered (maxConnCnt : Nat) (workers : Workers Thread Conn) : Prop where
  pool : workers.pool.Sound maxConnCnt
  holds : ∀ thread conn, (thread, conn) ∈ workers.pool.lent ↔ conn ∈ workers.stack thread
  once : ∀ thread, (workers.stack thread).Nodup
  stage : ∀ thread, Stage (workers.stack thread) (workers.todo thread)
  inCall : ∀ thread,
    InCall (workers.pool.phase thread) (workers.todo thread) (workers.stack thread)

section Stages

variable {conn : Conn} {stack : List Conn} {call : Call} {todo : List Call}

theorem between_cases (between : Between (call :: todo)) :
    call = .getDBConn ∧ ∃ rest, todo = .getDBConn :: .relDBConn :: .relDBConn :: rest ∧
      Between rest := by
  obtain ⟨messages, same⟩ := between
  induction messages with
  | nil => cases same
  | cons message messages inductionHypothesis =>
      cases message with
      | false => exact inductionHypothesis same
      | true =>
          cases same
          exact ⟨rfl, _, rfl, messages, rfl⟩

omit [DecidableEq Conn] in
/-- A call of `getDBConn` that returns. -/
theorem Stage.push (stage : Stage stack todo) (next : todo.head? = some .getDBConn)
    (conn : Conn) : Stage (conn :: stack) todo.tail := by
  cases stage with
  | between between =>
      cases todo with
      | nil => cases next
      | cons call todo =>
          obtain ⟨_, rest, rfl, betweenRest⟩ := between_cases between
          exact .first betweenRest
  | first betweenRest => exact .second betweenRest
  | second _ => cases next
  | last _ => cases next

omit [DecidableEq Conn] in
/-- A call of `relDBConn` that returns. -/
theorem Stage.pop (stage : Stage stack todo) (next : todo.head? = some .relDBConn) :
    Stage stack.tail todo.tail := by
  cases stage with
  | between between =>
      cases todo with
      | nil => cases next
      | cons call todo =>
          obtain ⟨rfl, _⟩ := between_cases between
          cases next
  | first _ => cases next
  | second betweenRest => exact .last betweenRest
  | last betweenRest => exact .between betweenRest

omit [DecidableEq Conn] in
/-- After its second connection a worker wants no other one. -/
theorem Stage.push_wants (stage : Stage stack todo) (next : todo.head? = some .getDBConn)
    (holds : stack ≠ []) : (todo.tail.head? == some Call.getDBConn) = false := by
  cases stage with
  | between _ => exact absurd rfl holds
  | first _ => rfl
  | second _ => cases next
  | last _ => cases next

omit [DecidableEq Conn] in
/-- After a release a worker wants no second connection. -/
theorem Stage.pop_wants (stage : Stage stack todo) (next : todo.head? = some .relDBConn) :
    (!stack.tail.isEmpty && todo.tail.head? == some Call.getDBConn) = false := by
  cases stage with
  | between between =>
      cases todo with
      | nil => cases next
      | cons call todo =>
          obtain ⟨rfl, _⟩ := between_cases between
          cases next
  | first _ => cases next
  | second _ => rfl
  | last _ => rfl

end Stages

section Steps

variable {maxConnCnt : Nat} {workers : Workers Thread Conn} {thread : Thread}
  {action : Action Conn}

/-- The step hands nothing out and takes nothing back, and a call that begins with it is the next
one the worker has to do. -/
def Quiet (workers : Workers Thread Conn) (thread : Thread) : Action Conn → Prop
  | .get => (workers.todo thread).head? = some .getDBConn
  | .rel conn =>
      (workers.todo thread).head? = some .relDBConn ∧ (workers.stack thread).head? = some conn
  | .connected succeeds => succeeds = true
  | .look _ => ∀ conn rest, workers.pool.phase thread = .checking →
      workers.pool.freeList = conn :: rest → False
  | .file => ∀ conn, workers.pool.phase thread ≠ .filing conn
  | .lock | .wake => True

theorem quiet_move {after : Pool Thread Conn} (quiet : workers.Quiet thread action)
    (move : Pool.Move maxConnCnt workers.pool thread action after)
    (call : InCall (workers.pool.phase thread) (workers.todo thread) (workers.stack thread)) :
    after.lent = workers.pool.lent ∧
      InCall (after.phase thread) (workers.todo thread) (workers.stack thread) := by
  have own : ∀ phase, InCall phase (workers.todo thread) (workers.stack thread) →
      InCall (Function.update workers.pool.phase thread phase thread) (workers.todo thread)
        (workers.stack thread) := by
    intro phase inCall
    rw [Function.update_self]
    exact inCall
  cases move with
  | none => exact ⟨rfl, call⟩
  | enter _ => exact ⟨rfl, own .entering quiet⟩
  | lock phase _ =>
      rcases phase with phase | phase
      · rw [phase] at call
        exact ⟨rfl, own .checking call⟩
      · rw [phase] at call
        exact ⟨rfl, own .checking call⟩
  | lockRel conn returning _ =>
      rw [returning] at call
      exact ⟨rfl, own (.filing conn) call⟩
  | pop _ conn rest checking free => exact (quiet conn rest checking free).elim
  | wait _ checking _ _ =>
      rw [checking] at call
      exact ⟨rfl, own .waiting call⟩
  | make address checking _ _ =>
      rw [checking] at call
      exact ⟨rfl, own (.connecting address) call⟩
  | grow _ connecting =>
      rw [connecting] at call
      exact ⟨rfl, own .checking call⟩
  | refuse _ _ => cases quiet
  | wake waiting =>
      rw [waiting] at call
      exact ⟨rfl, own .woken call⟩
  | rel conn _ => exact ⟨rfl, own (.returning conn) quiet⟩
  | file conn filing => exact absurd filing (quiet conn)

theorem Ordered.quiet (ordered : Ordered maxConnCnt workers)
    (admissible : workers.pool.Admissible (thread, action))
    (quiet : workers.Quiet thread action) :
    Ordered maxConnCnt (workers.withPool (workers.pool.step maxConnCnt (thread, action))) := by
  obtain ⟨lent, own⟩ := quiet_move quiet
    (Pool.step_move maxConnCnt workers.pool thread action) (ordered.inCall thread)
  refine ⟨ordered.pool.step admissible, ?_, ordered.once, ordered.stage, ?_⟩
  · intro other conn
    show (other, conn) ∈ (workers.pool.step maxConnCnt (thread, action)).lent ↔ _
    rw [lent]
    exact ordered.holds other conn
  · intro other
    by_cases same : other = thread
    · exact same ▸ own
    · show InCall ((workers.pool.step maxConnCnt (thread, action)).phase other) _ _
      rw [Pool.phase_step_of_ne same]
      exact ordered.inCall other

/-- A step of the pool with which a call returns. -/
theorem Ordered.returned (ordered : Ordered maxConnCnt workers)
    (admissible : workers.pool.Admissible (thread, action)) {stack : List Conn}
    (outside : (workers.pool.step maxConnCnt (thread, action)).phase thread = .outside)
    (holds : ∀ other conn,
      (other, conn) ∈ (workers.pool.step maxConnCnt (thread, action)).lent ↔
        conn ∈ Function.update workers.stack thread stack other)
    (once : stack.Nodup) (stage : Stage stack (workers.todo thread).tail) :
    Ordered maxConnCnt
      (workers.returned thread (workers.pool.step maxConnCnt (thread, action)) stack) where
  pool := ordered.pool.step admissible
  holds := holds
  once := by
    intro other
    show (Function.update workers.stack thread stack other).Nodup
    by_cases same : other = thread
    · rw [same, Function.update_self]
      exact once
    · rw [Function.update_of_ne same]
      exact ordered.once other
  stage := by
    intro other
    show Stage (Function.update workers.stack thread stack other)
      (Function.update workers.todo thread _ other)
    by_cases same : other = thread
    · rw [same, Function.update_self, Function.update_self]
      exact stage
    · rw [Function.update_of_ne same, Function.update_of_ne same]
      exact ordered.stage other
  inCall := by
    intro other
    show InCall ((workers.pool.step maxConnCnt (thread, action)).phase other)
      (Function.update workers.todo thread _ other)
      (Function.update workers.stack thread stack other)
    by_cases same : other = thread
    · rw [same, outside]
      trivial
    · rw [Pool.phase_step_of_ne same, Function.update_of_ne same, Function.update_of_ne same]
      exact ordered.inCall other

theorem Ordered.look (ordered : Ordered maxConnCnt workers) {address : Conn}
    (admissible : workers.pool.Admissible (thread, .look address)) :
    Ordered maxConnCnt (workers.step maxConnCnt (thread, .look address)) := by
  have call := ordered.inCall thread
  unfold step
  simp only
  split
  · rename_i conn rest checking free
    have next : (workers.todo thread).head? = some .getDBConn := by
      rw [checking] at call
      exact call
    have fresh : conn ∉ workers.stack thread := by
      intro held
      have lent := (ordered.holds thread conn).mpr held
      have distinct := ordered.pool.distinct
      rw [free] at distinct
      exact (List.nodup_cons.mp distinct).1
        (List.mem_append_right rest (List.mem_map_of_mem lent))
    have after := @Pool.step_look_of_free _ _ _ _ maxConnCnt _ _ checking _ _ free address
    refine ordered.returned admissible ?_ ?_ (List.nodup_cons.mpr ⟨fresh, ordered.once thread⟩)
      ((ordered.stage thread).push next conn)
    · rw [after]
      exact Function.update_self ..
    · intro other otherConn
      rw [after]
      show (other, otherConn) ∈ (thread, conn) :: workers.pool.lent ↔ _
      rw [List.mem_cons, ordered.holds]
      by_cases same : other = thread
      · rw [same, Function.update_self, List.mem_cons, Prod.mk.injEq]
        exact or_congr_left (and_iff_right rfl)
      · rw [Function.update_of_ne same]
        exact or_iff_right fun equal => same (congrArg Prod.fst equal)
  · rename_i notPopping
    exact ordered.quiet admissible notPopping

theorem Ordered.file (ordered : Ordered maxConnCnt workers) :
    Ordered maxConnCnt (workers.step maxConnCnt (thread, .file)) := by
  have call := ordered.inCall thread
  unfold step
  simp only
  split
  · rename_i conn filing
    rw [filing] at call
    have after := @Pool.step_file _ _ _ _ maxConnCnt workers.pool thread conn filing
    have held : conn :: (workers.stack thread).tail = workers.stack thread :=
      List.cons_head?_tail call.2
    have once := ordered.once thread
    rw [← held, List.nodup_cons] at once
    refine ordered.returned (show workers.pool.Admissible (thread, .file) from trivial) ?_ ?_
      once.2 ((ordered.stage thread).pop call.1)
    · rw [after]
      exact Function.update_self ..
    · intro other otherConn
      rw [after]
      show (other, otherConn) ∈ workers.pool.lent.erase (thread, conn) ↔ _
      have distinct : workers.pool.lent.Nodup :=
        (List.nodup_append.mp ordered.pool.distinct).2.1.of_map _
      rw [distinct.mem_erase_iff, ordered.holds]
      by_cases same : other = thread
      · rw [same, Function.update_self, ← held, List.mem_cons]
        constructor
        · intro found
          rcases found.2 with rfl | there
          · exact absurd rfl found.1
          · exact there
        · intro there
          refine ⟨fun equal => once.1 ?_, .inr there⟩
          exact (Prod.mk.inj equal).2 ▸ there
      · rw [Function.update_of_ne same]
        exact and_iff_right fun equal => same (congrArg Prod.fst equal)
  · exact ordered

theorem Ordered.step (ordered : Ordered maxConnCnt workers) {event : Thread × Action Conn}
    (fresh : workers.Fresh event) : Ordered maxConnCnt (workers.step maxConnCnt event) := by
  obtain ⟨thread, action⟩ := event
  cases action with
  | get =>
      unfold Workers.step
      simp only
      split
      · rename_i next
        exact ordered.quiet trivial next
      · exact ordered
  | lock => exact ordered.quiet trivial trivial
  | look address => exact ordered.look fresh
  | connected succeeds => exact ordered.quiet trivial rfl
  | wake => exact ordered.quiet trivial trivial
  | rel conn =>
      unfold Workers.step
      simp only
      split
      · rename_i next
        exact ordered.quiet ((ordered.holds thread conn).mpr (List.mem_of_head? next.2)) next
      · exact ordered
  | file => exact ordered.file

/-! ### First connections -/

omit [DecidableEq Conn] in
/-- When a call returns to a worker that then wants no second connection, no more are first
connections than before. -/
theorem firsts_returned_le {after : Pool Thread Conn} {stack : List Conn}
    (wantsNone : (!stack.isEmpty && (workers.todo thread).tail.head? == some Call.getDBConn) = false)
    {rest : List (Thread × Conn)} (sublist : rest.Sublist workers.pool.lent)
    (lent : after.lent = rest ∨ ∃ conn, after.lent = (thread, conn) :: rest) :
    (workers.returned thread after stack).firsts ≤ workers.firsts := by
  have own : (workers.returned thread after stack).wantsSecond thread = false := by
    unfold wantsSecond Workers.returned
    simp only [Function.update_self]
    exact wantsNone
  have others : ∀ entry : Thread × Conn,
      (workers.returned thread after stack).wantsSecond entry.1 = true →
        workers.wantsSecond entry.1 = true := by
    intro entry wants
    have different : entry.1 ≠ thread := by
      intro same
      rw [same, own] at wants
      cases wants
    unfold wantsSecond Workers.returned at wants
    simp only [Function.update_of_ne different] at wants
    exact wants
  have kept : (rest.filter fun entry =>
      (workers.returned thread after stack).wantsSecond entry.1).length ≤ workers.firsts :=
    ((sublist.filter _).trans (List.monotone_filter_right _ others)).length_le
  unfold firsts
  show (after.lent.filter _).length ≤ _
  rcases lent with lent | ⟨conn, lent⟩
  · rw [lent]
    exact kept
  · rw [lent, List.filter_cons_of_neg (by rw [own]; exact Bool.false_ne_true)]
    exact kept

omit [DecidableEq Conn] in
/-- A first connection counts once. -/
theorem firsts_returned_first {after : Pool Thread Conn} {conn : Conn}
    (ordered : Ordered maxConnCnt workers) (none : workers.stack thread = [])
    (lent : after.lent = (thread, conn) :: workers.pool.lent) :
    (workers.returned thread after [conn]).firsts ≤ workers.firsts + 1 := by
  have others : workers.pool.lent.filter (fun entry =>
      (workers.returned thread after [conn]).wantsSecond entry.1) =
      workers.pool.lent.filter fun entry => workers.wantsSecond entry.1 := by
    apply List.filter_congr
    intro entry member
    have different : entry.1 ≠ thread := by
      intro same
      have held := (ordered.holds entry.1 entry.2).mp member
      rw [same, none] at held
      cases held
    unfold wantsSecond Workers.returned
    simp only [Function.update_of_ne different]
  unfold firsts
  show (after.lent.filter _).length ≤ _
  rw [lent]
  rw [List.filter_cons]
  split
  · exact Nat.le_of_eq (by rw [others, List.length_cons])
  · rw [others]
    omega

/-- Only a step that hands out a first connection adds to the first connections. -/
theorem Ordered.firsts_step (ordered : Ordered maxConnCnt workers)
    {event : Thread × Action Conn} (spared : workers.Spared maxConnCnt event)
    (few : workers.firsts < maxConnCnt) :
    (workers.step maxConnCnt event).firsts < maxConnCnt := by
  obtain ⟨thread, action⟩ := event
  have call := ordered.inCall thread
  have quiet : ∀ action, workers.Quiet thread action →
      (workers.withPool (workers.pool.step maxConnCnt (thread, action))).firsts < maxConnCnt := by
    intro action quiet
    obtain ⟨lent, _⟩ := quiet_move quiet
      (Pool.step_move maxConnCnt workers.pool thread action) call
    unfold firsts at few ⊢
    show ((workers.pool.step maxConnCnt (thread, action)).lent.filter _).length < _
    rw [lent]
    exact few
  unfold Workers.step
  cases action with
  | get =>
      simp only
      split
      · rename_i next
        exact quiet .get next
      · exact few
  | rel conn =>
      simp only
      split
      · rename_i next
        exact quiet (.rel conn) next
      · exact few
  | lock => exact quiet .lock trivial
  | connected succeeds => exact quiet (.connected true) rfl
  | wake => exact quiet .wake trivial
  | look address =>
      simp only
      split
      · rename_i conn rest checking free
        rw [checking] at call
        have lent : (workers.pool.step maxConnCnt (thread, .look address)).lent =
            (thread, conn) :: workers.pool.lent := by
          rw [Pool.step_look_of_free checking free]
        by_cases none : workers.stack thread = []
        · have room := spared.room ⟨checking, by rw [free]; exact List.cons_ne_nil _ _, none⟩
          have counted := firsts_returned_first ordered none lent
          rw [none]
          omega
        · have wantsNone := (ordered.stage thread).push_wants call none
          refine Nat.lt_of_le_of_lt (firsts_returned_le ?_ (List.Sublist.refl _)
            (.inr ⟨conn, lent⟩)) few
          rw [wantsNone, Bool.and_false]
      · rename_i notPopping
        exact quiet (.look address) notPopping
  | file =>
      simp only
      split
      · rename_i conn filing
        rw [filing] at call
        have lent : (workers.pool.step maxConnCnt (thread, .file)).lent =
            workers.pool.lent.erase (thread, conn) := by
          rw [Pool.step_file conn filing]
          rfl
        exact Nat.lt_of_le_of_lt (firsts_returned_le ((ordered.stage thread).pop_wants call.1)
          List.erase_sublist (.inl lent)) few
      · exact few

/-- As many first connections as there are connections: nobody ever gets a second one, and
nobody gives one back. -/
theorem Ordered.stuck_step (ordered : Ordered maxConnCnt workers) (two : 2 ≤ maxConnCnt)
    {event : Thread × Action Conn} (all : workers.firsts = maxConnCnt) :
    (workers.step maxConnCnt event).firsts = maxConnCnt := by
  have count := ordered.pool.count
  have bounded := ordered.pool.bounded
  have atMost : workers.firsts ≤ workers.pool.lent.length := List.length_filter_le ..
  rw [Int.max_eq_right (by omega)] at bounded
  have noneFree : workers.pool.freeList = [] := List.length_eq_zero_iff.mp (by omega)
  have same : workers.firsts = workers.pool.lent.length := by omega
  have allWant : ∀ entry ∈ workers.pool.lent, workers.wantsSecond entry.1 = true :=
    List.length_filter_eq_length_iff.mp same
  obtain ⟨thread, action⟩ := event
  have call := ordered.inCall thread
  have quiet : ∀ action, workers.Quiet thread action →
      (workers.withPool (workers.pool.step maxConnCnt (thread, action))).firsts = maxConnCnt := by
    intro action quiet
    obtain ⟨lent, _⟩ := quiet_move quiet
      (Pool.step_move maxConnCnt workers.pool thread action) call
    unfold firsts at all ⊢
    show ((workers.pool.step maxConnCnt (thread, action)).lent.filter _).length = _
    rw [lent]
    exact all
  unfold Workers.step
  cases action with
  | get =>
      simp only
      split
      · rename_i next
        exact quiet .get next
      · exact all
  | rel conn =>
      simp only
      split
      · rename_i next
        exact quiet (.rel conn) next
      · exact all
  | lock => exact quiet .lock trivial
  | connected succeeds => exact quiet (.connected true) rfl
  | wake => exact quiet .wake trivial
  | look address =>
      simp only
      split
      · rename_i free
        cases noneFree.symm.trans free
      · rename_i notPopping
        exact quiet (.look address) notPopping
  | file =>
      simp only
      split
      · rename_i conn filing
        have wants := allWant _ (ordered.pool.returning thread conn (.inr filing))
        rw [filing] at call
        unfold wantsSecond at wants
        rw [call.1, Bool.and_eq_true] at wants
        cases wants.2
      · exact all

end Steps

end Workers

open Workers

/-! ### Runs -/

section Runs

variable {maxConnCnt : Nat} {address : Nat → Conn} {connects : Nat → Bool} {free : List Conn}
  {workers later : Workers Thread Conn}

omit [DecidableEq Thread] [DecidableEq Conn] in
theorem ordered_start (made : PoolKind.dbPool.init address connects = some free)
    (different : ∀ first < PoolKind.dbPool.minConnCnt, ∀ second < PoolKind.dbPool.minConnCnt,
      address first = address second → first = second) (messages : Thread → List Bool) :
    Ordered maxConnCnt (start free messages) where
  pool := sound_start maxConnCnt made different
  holds := fun _ _ => iff_of_false List.not_mem_nil List.not_mem_nil
  once := fun _ => List.nodup_nil
  stage := fun thread => .between ⟨messages thread, rfl⟩
  inCall := fun _ => trivial

/-- A state in which all connections are first connections is never left. -/
theorem stuck_of_reach (two : 2 ≤ maxConnCnt) (ordered : Ordered maxConnCnt workers)
    (all : workers.firsts = maxConnCnt)
    (reach : Reach (step maxConnCnt) Fresh workers later) : later.firsts = maxConnCnt := by
  have kept := reach.invariant (fun state => Ordered maxConnCnt state ∧ state.firsts = maxConnCnt)
    ⟨ordered, all⟩ fun _ _ before fresh => ⟨before.1.step fresh, before.1.stuck_step two before.2⟩
  exact kept.2

end Runs

/-- While first connections are handed out only as long as one connection is left, the workers
do not block each other. -/
theorem not_deadlocked_of_spared (maxConnCnt : Nat) (two : 2 ≤ maxConnCnt)
    (address : Nat → Conn) (connects : Nat → Bool) {free : List Conn}
    (made : PoolKind.dbPool.init address connects = some free)
    (different : ∀ first < PoolKind.dbPool.minConnCnt, ∀ second < PoolKind.dbPool.minConnCnt,
      address first = address second → first = second)
    (messages : Thread → List Bool) {workers : Workers Thread Conn}
    (reach : Reach (step maxConnCnt) (Spared maxConnCnt) (start free messages) workers) :
    ¬workers.Deadlocked maxConnCnt := by
  have none : (start free messages : Workers Thread Conn).firsts = 0 := rfl
  obtain ⟨ordered, few⟩ := reach.invariant
    (fun state => Ordered maxConnCnt state ∧ state.firsts < maxConnCnt)
    ⟨ordered_start made different messages, by omega⟩
    fun _ _ before spared => ⟨before.1.step spared.fresh, before.1.firsts_step spared before.2⟩
  intro deadlocked
  have allWant : ∀ entry ∈ workers.pool.lent, workers.wantsSecond entry.1 = true := by
    intro entry member
    have held := (ordered.holds entry.1 entry.2).mp member
    have call := ordered.inCall entry.1
    rw [deadlocked.holdersWait entry.1 entry.2 member] at call
    unfold wantsSecond
    rw [Bool.and_eq_true]
    refine ⟨?_, beq_iff_eq.mpr call⟩
    rw [Bool.not_eq_true', List.isEmpty_eq_false_iff]
    exact List.ne_nil_of_mem held
  unfold firsts at few
  rw [List.filter_eq_self.mpr allWant, deadlocked.held] at few
  exact Nat.lt_irrefl _ few

/-! ### Two workers -/

/-- One message each, of a member of the group. -/
def twoWorkers : Workers Bool Nat :=
  start [0, 1] fun _ => [true]

/-- One worker after the other. -/
def inTurn : List (Bool × Action Nat) :=
  [(true, .get), (true, .lock), (true, .look 9), (true, .get), (true, .lock), (true, .look 9),
    (false, .get), (false, .lock), (false, .look 9), (true, .rel 1), (true, .lock)]

theorem not_deadlocked_inTurn : ¬(run (step 2) twoWorkers inTurn).Deadlocked 2 :=
  not_deadlocked_of_spared 2 (Nat.le_refl 2) id (fun _ => true) rfl (by decide) (fun _ => [true])
    (reach_run inTurn (by decide))

/-- Each worker gets its first connection before the other one gets its second. -/
def atOnce : List (Bool × Action Nat) :=
  [(true, .get), (true, .lock), (true, .look 9), (false, .get), (false, .lock), (false, .look 9),
    (true, .get), (true, .lock), (true, .look 9), (false, .get), (false, .lock), (false, .look 9)]

/-- Two workers on a pool of two connections block each other. -/
theorem deadlocked_atOnce :
    ∃ workers, Reach (step 2) Fresh twoWorkers workers ∧ workers.Deadlocked 2 := by
  refine ⟨run (step 2) twoWorkers atOnce, reach_run atOnce (by decide), ?_, ?_, ?_⟩
  · decide
  · have wait : ∀ thread, (run (step 2) twoWorkers atOnce).pool.phase thread = .waiting := by decide
    exact fun thread _ _ => wait thread
  · decide

end PoolDeadlock

end AChat.DbProxy
