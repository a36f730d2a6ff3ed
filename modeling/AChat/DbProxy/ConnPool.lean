import AChat.Lib.Reach
import Mathlib.Data.List.Nodup
import Mathlib.Logic.Function.Basic

/-!
Contract: the connection pools of the DB proxy lend no connection twice and stay bounded.

What a thread does with a pool happens under the mutex: the free list and the count change
only in steps of the thread that has it, and a connection that could not be made leaves both
as they are.

Owns: the pool and its calls, step by step, for any number of threads, and the invariant of
its reachable states.
-/

namespace AChat.DbProxy

open Lib

namespace ConnPool

/-! ### The calls -/

/-- Where a thread is in the calls of a pool. -/
inductive Phase (Conn : Type) where
  /-- In no call. -/
  | outside
  /-- In no call, the last one having returned no connection. -/
  | refused
  /-- `get`, before the mutex. -/
  | entering
  /-- `get` at the head of its loop, with the mutex. -/
  | checking
  /-- `get` in `wait`, without the mutex. -/
  | waiting
  /-- `get` behind `wait`, before the mutex. -/
  | woken
  /-- `get` in the `init` of a new connection, with the mutex. -/
  | connecting (conn : Conn)
  /-- `rel`, before the mutex. -/
  | returning (conn : Conn)
  /-- `rel`, with the mutex. -/
  | filing (conn : Conn)
deriving DecidableEq, Repr

/-- In no call. -/
def Phase.idle {Conn : Type} : Phase Conn → Bool
  | .outside | .refused => true
  | _ => false

/-- With the mutex. -/
def Phase.inside {Conn : Type} : Phase Conn → Bool
  | .checking | .connecting _ | .filing _ => true
  | _ => false

/-- What a thread does next. -/
inductive Action (Conn : Type) where
  | get
  | lock
  /-- The head of the loop, where a new connection would get this address. -/
  | look (address : Conn)
  /-- The end of an `init`. -/
  | connected (succeeds : Bool)
  /-- A notification, or none. -/
  | wake
  | rel (conn : Conn)
  | file
deriving DecidableEq, Repr

/-- A pool, with who has which connection and where each thread is. -/
structure Pool (Thread Conn : Type) where
  freeList : List Conn
  curConnCnt : Nat
  lent : List (Thread × Conn)
  mutex : Option Thread
  phase : Thread → Phase Conn

variable {Thread Conn : Type} [DecidableEq Thread] [DecidableEq Conn]

namespace Pool

def setPhase (pool : Pool Thread Conn) (thread : Thread) (phase : Phase Conn) :
    Pool Thread Conn :=
  { pool with phase := Function.update pool.phase thread phase }

/-- The mutex is taken if it is free. -/
def takeMutex (pool : Pool Thread Conn) (thread : Thread) (phase : Phase Conn) :
    Pool Thread Conn :=
  match pool.mutex with
  | some _ => pool
  | none => { pool.setPhase thread phase with mutex := some thread }

/-- The mutex is given back. -/
def leaveMutex (pool : Pool Thread Conn) (thread : Thread) (phase : Phase Conn) :
    Pool Thread Conn :=
  { pool.setPhase thread phase with mutex := none }

/-- The head of the loop of `get`. -/
def look (pool : Pool Thread Conn) (maxConnCnt : Int) (thread : Thread) (address : Conn) :
    Pool Thread Conn :=
  match pool.freeList with
  | conn :: rest =>
      { pool.leaveMutex thread .outside with
        freeList := rest, lent := (thread, conn) :: pool.lent }
  | [] =>
      if (pool.curConnCnt : Int) ≥ maxConnCnt then pool.leaveMutex thread .waiting
      else pool.setPhase thread (.connecting address)

/-- The end of an `init`. A connection that failed is deleted. -/
def connected (pool : Pool Thread Conn) (thread : Thread) (conn : Conn) (succeeds : Bool) :
    Pool Thread Conn :=
  if succeeds then
    { pool.setPhase thread .checking with
      freeList := pool.freeList ++ [conn], curConnCnt := pool.curConnCnt + 1 }
  else pool.leaveMutex thread .refused

/-- A connection that is free already is not filed again. -/
def file (pool : Pool Thread Conn) (thread : Thread) (conn : Conn) : Pool Thread Conn :=
  { pool.leaveMutex thread .outside with
    freeList := if conn ∈ pool.freeList then pool.freeList else pool.freeList ++ [conn]
    lent := pool.lent.erase (thread, conn) }

/-- A step of a thread. What it cannot do where it is changes nothing. -/
def step (maxConnCnt : Int) (pool : Pool Thread Conn) (event : Thread × Action Conn) :
    Pool Thread Conn :=
  let thread := event.1
  match event.2, pool.phase thread with
  | .get, .outside | .get, .refused => pool.setPhase thread .entering
  | .lock, .entering | .lock, .woken => pool.takeMutex thread .checking
  | .lock, .returning conn => pool.takeMutex thread (.filing conn)
  | .look address, .checking => pool.look maxConnCnt thread address
  | .connected succeeds, .connecting conn => pool.connected thread conn succeeds
  | .wake, .waiting => pool.setPhase thread .woken
  | .rel conn, .outside | .rel conn, .refused => pool.setPhase thread (.returning conn)
  | .file, .filing conn => pool.file thread conn
  | _, _ => pool

/-- A thread gives back what it holds, and a new connection gets the address of no other. -/
def Admissible (pool : Pool Thread Conn) (event : Thread × Action Conn) : Prop :=
  match event.2 with
  | .look address => address ∉ pool.freeList ∧ address ∉ pool.lent.map Prod.snd
  | .rel conn => (event.1, conn) ∈ pool.lent
  | _ => True

instance Admissible.instDecidable (pool : Pool Thread Conn) (event : Thread × Action Conn) :
    Decidable (pool.Admissible event) :=
  match event with
  | (_, .look address) =>
      inferInstanceAs (Decidable (address ∉ pool.freeList ∧ address ∉ pool.lent.map Prod.snd))
  | (thread, .rel conn) => inferInstanceAs (Decidable ((thread, conn) ∈ pool.lent))
  | (_, .get) | (_, .lock) | (_, .connected _) | (_, .wake) | (_, .file) =>
      inferInstanceAs (Decidable True)

/-- A pool of these connections, before any call. -/
def start (free : List Conn) (curConnCnt : Nat) : Pool Thread Conn where
  freeList := free
  curConnCnt := curConnCnt
  lent := []
  mutex := none
  phase := fun _ => .outside

end Pool

/-- The loop of `init`: the connections that it makes, or none when one of them fails. -/
def initLoop (address : Nat → Conn) (connects : Nat → Bool) : Nat → Option (List Conn)
  | 0 => some []
  | count + 1 =>
      match initLoop address connects count with
      | none => none
      | some free => if connects count then some (free ++ [address count]) else none

end ConnPool

/-! ### The two pools -/

inductive PoolKind where
  | cachePool
  | dbPool
deriving DecidableEq, Repr

def minCacheConnCnt : Nat := 2
def minDbConnCnt : Nat := 2

namespace PoolKind

variable {Conn : Type}

/-- `curConnCnt` in the constructor. -/
def minConnCnt : PoolKind → Nat
  | .cachePool => minCacheConnCnt
  | .dbPool => minDbConnCnt

/-- `CachePool::init` or `DBPool::init`. -/
def init (kind : PoolKind) (address : Nat → Conn) (connects : Nat → Bool) : Option (List Conn) :=
  ConnPool.initLoop address connects kind.minConnCnt

end PoolKind

namespace ConnPool

variable {Thread Conn : Type} [DecidableEq Thread] [DecidableEq Conn]

/-! ### Runs -/

/-- A pool, and which threads have changed it since their last call of `get` began. -/
structure PoolRun (Thread Conn : Type) where
  pool : Pool Thread Conn
  changed : Thread → Bool

namespace PoolRun

def start (free : List Conn) (curConnCnt : Nat) : PoolRun Thread Conn :=
  ⟨.start free curConnCnt, fun _ => false⟩

/-- What there is to change in a pool. -/
def content (pool : Pool Thread Conn) : List Conn × Nat × List (Thread × Conn) :=
  (pool.freeList, pool.curConnCnt, pool.lent)

def step (maxConnCnt : Int) (run : PoolRun Thread Conn) (event : Thread × Action Conn) :
    PoolRun Thread Conn :=
  let after := run.pool.step maxConnCnt event
  let begins := decide (event.2 = .get) && (run.pool.phase event.1).idle
  let before := !begins && run.changed event.1
  { pool := after
    changed := Function.update run.changed event.1
      (before || decide (content after ≠ content run.pool)) }

def Admissible (run : PoolRun Thread Conn) (event : Thread × Action Conn) : Prop :=
  run.pool.Admissible event

instance Admissible.instDecidable (run : PoolRun Thread Conn) (event : Thread × Action Conn) :
    Decidable (run.Admissible event) :=
  Pool.Admissible.instDecidable run.pool event

/-- No connection is lent twice, or lent and free, or free twice; the count is right and bounded;
and a thread that was refused a connection has changed nothing. -/
structure WellLent (maxConnCnt : Int) (run : PoolRun Thread Conn) : Prop where
  lentOnce : (run.pool.lent.map Prod.snd).Nodup
  notFree : ∀ thread conn, (thread, conn) ∈ run.pool.lent → conn ∉ run.pool.freeList
  freeOnce : run.pool.freeList.Nodup
  count : run.pool.freeList.length + run.pool.lent.length = run.pool.curConnCnt
  bounded : (run.pool.curConnCnt : Int) ≤ max 2 maxConnCnt
  refused : ∀ thread, run.pool.phase thread = .refused → run.changed thread = false

end PoolRun

/-! ### One step -/

namespace Pool

variable {maxConnCnt : Int} {pool after : Pool Thread Conn} {thread : Thread}
  {action : Action Conn}

/-- The steps that do something. -/
inductive Move (maxConnCnt : Int) (pool : Pool Thread Conn) (thread : Thread) :
    Action Conn → Pool Thread Conn → Prop where
  | none (action : Action Conn) : Move maxConnCnt pool thread action pool
  | enter : (pool.phase thread).idle = true →
      Move maxConnCnt pool thread .get (pool.setPhase thread .entering)
  | lock : pool.phase thread = .entering ∨ pool.phase thread = .woken → pool.mutex = Option.none →
      Move maxConnCnt pool thread .lock
        { pool.setPhase thread .checking with mutex := some thread }
  | lockRel (conn : Conn) : pool.phase thread = .returning conn → pool.mutex = Option.none →
      Move maxConnCnt pool thread .lock
        { pool.setPhase thread (.filing conn) with mutex := some thread }
  | pop (address conn : Conn) (rest : List Conn) : pool.phase thread = .checking →
      pool.freeList = conn :: rest →
      Move maxConnCnt pool thread (.look address)
        { pool.leaveMutex thread .outside with
          freeList := rest, lent := (thread, conn) :: pool.lent }
  | wait (address : Conn) : pool.phase thread = .checking → pool.freeList = [] →
      (pool.curConnCnt : Int) ≥ maxConnCnt →
      Move maxConnCnt pool thread (.look address) (pool.leaveMutex thread .waiting)
  | make (address : Conn) : pool.phase thread = .checking → pool.freeList = [] →
      (pool.curConnCnt : Int) < maxConnCnt →
      Move maxConnCnt pool thread (.look address) (pool.setPhase thread (.connecting address))
  | grow (conn : Conn) : pool.phase thread = .connecting conn →
      Move maxConnCnt pool thread (.connected true)
        { pool.setPhase thread .checking with
          freeList := pool.freeList ++ [conn], curConnCnt := pool.curConnCnt + 1 }
  | refuse (conn : Conn) : pool.phase thread = .connecting conn →
      Move maxConnCnt pool thread (.connected false) (pool.leaveMutex thread .refused)
  | wake : pool.phase thread = .waiting →
      Move maxConnCnt pool thread .wake (pool.setPhase thread .woken)
  | rel (conn : Conn) : (pool.phase thread).idle = true →
      Move maxConnCnt pool thread (.rel conn) (pool.setPhase thread (.returning conn))
  | file (conn : Conn) : pool.phase thread = .filing conn →
      Move maxConnCnt pool thread .file (pool.file thread conn)

theorem look_move (phase : pool.phase thread = .checking) (address : Conn) :
    Move maxConnCnt pool thread (.look address) (pool.look maxConnCnt thread address) := by
  unfold look
  split
  · rename_i conn rest free
    exact .pop address conn rest phase free
  · rename_i free
    split
    · rename_i full
      exact .wait address phase free full
    · rename_i room
      exact .make address phase free (Int.not_le.mp room)

theorem connected_move {conn : Conn} (phase : pool.phase thread = .connecting conn)
    (succeeds : Bool) :
    Move maxConnCnt pool thread (.connected succeeds) (pool.connected thread conn succeeds) := by
  cases succeeds with
  | true => exact .grow conn phase
  | false => exact .refuse conn phase

omit [DecidableEq Thread] [DecidableEq Conn] in
theorem idle_of_outside (phase : pool.phase thread = .outside ∨ pool.phase thread = .refused) :
    (pool.phase thread).idle = true := by
  rcases phase with phase | phase
  · rw [phase]
    rfl
  · rw [phase]
    rfl

theorem step_move (maxConnCnt : Int) (pool : Pool Thread Conn) (thread : Thread)
    (action : Action Conn) :
    Move maxConnCnt pool thread action (pool.step maxConnCnt (thread, action)) := by
  unfold step
  simp only
  split
  · rename_i phase
    exact .enter (idle_of_outside (.inl phase))
  · rename_i phase
    exact .enter (idle_of_outside (.inr phase))
  · rename_i phase
    unfold takeMutex
    split
    · exact .none _
    · rename_i free
      exact .lock (.inl phase) free
  · rename_i phase
    unfold takeMutex
    split
    · exact .none _
    · rename_i free
      exact .lock (.inr phase) free
  · rename_i conn phase
    unfold takeMutex
    split
    · exact .none _
    · rename_i free
      exact .lockRel conn phase free
  · rename_i address phase
    exact look_move phase address
  · rename_i succeeds conn phase
    exact connected_move phase succeeds
  · rename_i phase
    exact .wake phase
  · rename_i conn phase
    exact .rel conn (idle_of_outside (.inl phase))
  · rename_i conn phase
    exact .rel conn (idle_of_outside (.inr phase))
  · rename_i conn phase
    exact .file conn phase
  · exact .none _

/-- The head of the loop with a free connection. -/
theorem step_look_of_free (phase : pool.phase thread = .checking) {conn : Conn}
    {rest : List Conn} (free : pool.freeList = conn :: rest) (address : Conn) :
    pool.step maxConnCnt (thread, .look address) =
      { pool.leaveMutex thread .outside with
        freeList := rest, lent := (thread, conn) :: pool.lent } := by
  simp only [step, phase, look, free]

theorem step_file (conn : Conn) (phase : pool.phase thread = .filing conn) :
    pool.step maxConnCnt (thread, .file) = pool.file thread conn := by
  simp only [step, phase]

/-! ### The invariant -/

/-- Everything that the steps of a pool keep. -/
structure Sound (maxConnCnt : Int) (pool : Pool Thread Conn) : Prop where
  distinct : (pool.freeList ++ pool.lent.map Prod.snd).Nodup
  count : pool.freeList.length + pool.lent.length = pool.curConnCnt
  bounded : (pool.curConnCnt : Int) ≤ max 2 maxConnCnt
  mutex : ∀ thread, (pool.phase thread).inside = true → pool.mutex = some thread
  connecting : ∀ thread conn, pool.phase thread = .connecting conn →
    pool.freeList = [] ∧ (pool.curConnCnt : Int) < maxConnCnt ∧ conn ∉ pool.lent.map Prod.snd
  returning : ∀ thread conn, pool.phase thread = .returning conn ∨ pool.phase thread = .filing conn →
    (thread, conn) ∈ pool.lent

omit [DecidableEq Thread] [DecidableEq Conn] in
/-- A thread that has the mutex is the only one inside. -/
theorem Sound.alone (sound : Sound maxConnCnt pool) (inside : (pool.phase thread).inside = true)
    {other : Thread} (otherInside : (pool.phase other).inside = true) : other = thread :=
  Option.some.inj ((sound.mutex other otherInside).symm.trans (sound.mutex thread inside))

/-- What the thread of a step leaves behind, for the contents as for the phases. -/
structure Stepped (maxConnCnt : Int) (pool : Pool Thread Conn) (thread : Thread)
    (after : Pool Thread Conn) (phase : Phase Conn) : Prop where
  phases : after.phase = Function.update pool.phase thread phase
  distinct : (after.freeList ++ after.lent.map Prod.snd).Nodup
  count : after.freeList.length + after.lent.length = after.curConnCnt
  bounded : (after.curConnCnt : Int) ≤ max 2 maxConnCnt
  inside : phase.inside = true → after.mutex = some thread
  othersInside : ∀ other, other ≠ thread → (pool.phase other).inside = true →
    after.mutex = some other
  connecting : ∀ conn, phase = .connecting conn →
    after.freeList = [] ∧ (after.curConnCnt : Int) < maxConnCnt ∧ conn ∉ after.lent.map Prod.snd
  othersConnecting : ∀ other, other ≠ thread → ∀ conn, pool.phase other = .connecting conn →
    after.freeList = [] ∧ (after.curConnCnt : Int) < maxConnCnt ∧ conn ∉ after.lent.map Prod.snd
  returning : ∀ conn, phase = .returning conn ∨ phase = .filing conn → (thread, conn) ∈ after.lent
  othersHold : ∀ other, other ≠ thread → ∀ conn, (other, conn) ∈ pool.lent →
    (other, conn) ∈ after.lent

omit [DecidableEq Conn] in
theorem Stepped.sound {phase : Phase Conn}
    (stepped : Stepped maxConnCnt pool thread after phase) (sound : Sound maxConnCnt pool) :
    Sound maxConnCnt after where
  distinct := stepped.distinct
  count := stepped.count
  bounded := stepped.bounded
  mutex := by
    intro other inside
    rw [stepped.phases] at inside
    by_cases same : other = thread
    · subst same
      rw [Function.update_self] at inside
      exact stepped.inside inside
    · rw [Function.update_of_ne same] at inside
      exact stepped.othersInside other same inside
  connecting := by
    intro other conn connecting
    rw [stepped.phases] at connecting
    by_cases same : other = thread
    · subst same
      rw [Function.update_self] at connecting
      exact stepped.connecting conn connecting
    · rw [Function.update_of_ne same] at connecting
      exact stepped.othersConnecting other same conn connecting
  returning := by
    intro other conn returning
    rw [stepped.phases] at returning
    by_cases same : other = thread
    · subst same
      rw [Function.update_self] at returning
      exact stepped.returning conn returning
    · rw [Function.update_of_ne same] at returning
      exact stepped.othersHold other same conn (sound.returning other conn returning)

omit [DecidableEq Conn] in
/-- A step that leaves the contents as they are. -/
theorem Sound.sameContent (sound : Sound maxConnCnt pool) {phase : Phase Conn}
    {mutex : Option Thread} (inside : phase.inside = true → mutex = some thread)
    (others : ∀ other, other ≠ thread → (pool.phase other).inside = true → mutex = some other)
    (connecting : ∀ conn, phase = .connecting conn →
      pool.freeList = [] ∧ (pool.curConnCnt : Int) < maxConnCnt ∧ conn ∉ pool.lent.map Prod.snd)
    (returning : ∀ conn, phase = .returning conn ∨ phase = .filing conn →
      (thread, conn) ∈ pool.lent) :
    Sound maxConnCnt { pool.setPhase thread phase with mutex := mutex } := by
  have stepped : Stepped maxConnCnt pool thread
      { pool.setPhase thread phase with mutex := mutex } phase :=
    { phases := rfl
      distinct := sound.distinct
      count := sound.count
      bounded := sound.bounded
      inside := inside
      othersInside := others
      connecting := connecting
      othersConnecting := fun other _ conn there => sound.connecting other conn there
      returning := returning
      othersHold := fun _ _ _ there => there }
  exact stepped.sound sound

omit [DecidableEq Thread] [DecidableEq Conn] in
/-- While the mutex is free, no thread is inside. -/
theorem Sound.noneInside (sound : Sound maxConnCnt pool) (free : pool.mutex = none)
    {other : Thread} (inside : (pool.phase other).inside = true) : False := by
  have has := sound.mutex other inside
  rw [free] at has
  cases has

omit [DecidableEq Conn] in
/-- A step from one phase outside of the mutex to another. -/
theorem Sound.setPhase (sound : Sound maxConnCnt pool) {phase : Phase Conn}
    (outside : phase.inside = false)
    (returning : ∀ conn, phase = .returning conn → (thread, conn) ∈ pool.lent) :
    Sound maxConnCnt (pool.setPhase thread phase) := by
  have noConnecting : ∀ conn, phase ≠ .connecting conn := by
    intro conn same
    rw [same] at outside
    cases outside
  have noFiling : ∀ conn, phase ≠ .filing conn := by
    intro conn same
    rw [same] at outside
    cases outside
  refine sound.sameContent (fun inside => ?_) (fun other _ inside => sound.mutex other inside)
    (fun conn same => absurd same (noConnecting conn)) ?_
  · rw [outside] at inside
    cases inside
  · intro conn same
    rcases same with same | same
    · exact returning conn same
    · exact absurd same (noFiling conn)

omit [DecidableEq Conn] in
theorem Sound.takeMutex (sound : Sound maxConnCnt pool) (free : pool.mutex = none)
    {phase : Phase Conn} (noConnecting : ∀ conn, phase ≠ .connecting conn)
    (returning : ∀ conn, phase = .returning conn ∨ phase = .filing conn →
      (thread, conn) ∈ pool.lent) :
    Sound maxConnCnt { pool.setPhase thread phase with mutex := some thread } :=
  sound.sameContent (fun _ => rfl) (fun _ _ inside => (sound.noneInside free inside).elim)
    (fun conn same => absurd same (noConnecting conn)) returning

omit [DecidableEq Conn] in
theorem Sound.leaveMutex (sound : Sound maxConnCnt pool)
    (inside : (pool.phase thread).inside = true) {phase : Phase Conn}
    (outside : phase = .outside ∨ phase = .refused ∨ phase = .waiting) :
    Sound maxConnCnt (pool.leaveMutex thread phase) := by
  refine sound.sameContent ?_ ?_ ?_ ?_
  · rcases outside with rfl | rfl | rfl <;> exact fun inside => nomatch inside
  · exact fun other different otherInside => absurd (sound.alone inside otherInside) different
  · rcases outside with rfl | rfl | rfl <;> exact fun _ same => nomatch same
  · rcases outside with rfl | rfl | rfl <;> exact fun _ same => nomatch same

omit [DecidableEq Conn] in
/-- A thread that has the mutex changes the contents. -/
theorem Sound.changeContent (sound : Sound maxConnCnt pool)
    (inside : (pool.phase thread).inside = true) {phase : Phase Conn}
    (phases : after.phase = Function.update pool.phase thread phase)
    (distinct : (after.freeList ++ after.lent.map Prod.snd).Nodup)
    (count : after.freeList.length + after.lent.length = after.curConnCnt)
    (bounded : (after.curConnCnt : Int) ≤ max 2 maxConnCnt)
    (kept : phase = .checking ∧ after.mutex = pool.mutex ∨ phase = .outside)
    (othersHold : ∀ other, other ≠ thread → ∀ conn, (other, conn) ∈ pool.lent →
      (other, conn) ∈ after.lent) : Sound maxConnCnt after := by
  have stepped : Stepped maxConnCnt pool thread after phase :=
    { phases := phases
      distinct := distinct
      count := count
      bounded := bounded
      inside := by
        rcases kept with ⟨rfl, same⟩ | rfl
        · exact fun _ => same.trans (sound.mutex thread inside)
        · exact fun inside => nomatch inside
      othersInside := fun other different otherInside =>
        absurd (sound.alone inside otherInside) different
      connecting := by
        rcases kept with ⟨rfl, _⟩ | rfl
        · exact fun _ same => nomatch same
        · exact fun _ same => nomatch same
      othersConnecting := by
        intro other different conn there
        have otherInside : (pool.phase other).inside = true := by
          rw [there]
          rfl
        exact absurd (sound.alone inside otherInside) different
      returning := by
        rcases kept with ⟨rfl, _⟩ | rfl
        · exact fun _ same => nomatch same
        · exact fun _ same => nomatch same
      othersHold := othersHold }
  exact stepped.sound sound

omit [DecidableEq Conn] in
theorem Sound.pop (sound : Sound maxConnCnt pool) (phase : pool.phase thread = .checking)
    {conn : Conn} {rest : List Conn} (free : pool.freeList = conn :: rest) :
    Sound maxConnCnt { pool.leaveMutex thread .outside with
      freeList := rest, lent := (thread, conn) :: pool.lent } := by
  have distinct := sound.distinct
  have count := sound.count
  rw [free] at distinct count
  refine sound.changeContent (by rw [phase]; rfl) rfl ?_ ?_ sound.bounded (.inr rfl)
    fun _ _ _ there => List.mem_cons_of_mem _ there
  · exact (List.perm_middle.nodup_iff).mpr distinct
  · simp only [List.length_cons] at count ⊢
    exact (by omega : rest.length + (pool.lent.length + 1) = pool.curConnCnt)

omit [DecidableEq Conn] in
theorem Sound.grow (sound : Sound maxConnCnt pool) {conn : Conn}
    (phase : pool.phase thread = .connecting conn) :
    Sound maxConnCnt { pool.setPhase thread .checking with
      freeList := pool.freeList ++ [conn], curConnCnt := pool.curConnCnt + 1 } := by
  obtain ⟨empty, room, fresh⟩ := sound.connecting thread conn phase
  have distinct := sound.distinct
  have count := sound.count
  rw [empty] at distinct count
  refine sound.changeContent (by rw [phase]; rfl) rfl ?_ ?_ ?_ (.inl ⟨rfl, rfl⟩)
    fun _ _ _ there => there
  · rw [empty]
    exact List.nodup_cons.mpr ⟨fresh, distinct⟩
  · rw [empty]
    exact (by simp at count ⊢; omega : 1 + pool.lent.length = pool.curConnCnt + 1)
  · exact (by omega : ((pool.curConnCnt + 1 : Nat) : Int) ≤ max 2 maxConnCnt)

theorem Sound.file (sound : Sound maxConnCnt pool) {conn : Conn}
    (phase : pool.phase thread = .filing conn) : Sound maxConnCnt (pool.file thread conn) := by
  have held := sound.returning thread conn (.inr phase)
  have lent : conn ∈ pool.lent.map Prod.snd := List.mem_map_of_mem held
  have notFree : conn ∉ pool.freeList := fun free =>
    (List.disjoint_of_nodup_append sound.distinct) free lent
  have split : pool.lent.Perm ((thread, conn) :: pool.lent.erase (thread, conn)) :=
    List.perm_cons_erase held
  have distinct := sound.distinct
  have count := sound.count
  unfold Pool.file
  rw [if_neg notFree]
  refine sound.changeContent (by rw [phase]; rfl) rfl ?_ ?_ sound.bounded (.inr rfl) ?_
  · have same : (pool.freeList ++ pool.lent.map Prod.snd).Perm
        ((pool.freeList ++ [conn]) ++ (pool.lent.erase (thread, conn)).map Prod.snd) := by
      rw [List.append_assoc]
      exact List.Perm.append_left _ (split.map Prod.snd)
    exact same.nodup_iff.mp distinct
  · have length := split.length_eq
    simp only [List.length_append, List.length_cons, List.length_nil] at length ⊢
    exact (by omega : pool.freeList.length + (0 + 1) + (pool.lent.erase (thread, conn)).length =
      pool.curConnCnt)
  · intro other different otherConn there
    exact (List.mem_erase_of_ne fun same => different (congrArg Prod.fst same)).mpr there

/-- Every admissible step keeps the invariant. -/
theorem Sound.step (sound : Sound maxConnCnt pool) {event : Thread × Action Conn}
    (admissible : pool.Admissible event) : Sound maxConnCnt (pool.step maxConnCnt event) := by
  obtain ⟨thread, action⟩ := event
  have move := step_move maxConnCnt pool thread action
  generalize pool.step maxConnCnt (thread, action) = after at move ⊢
  cases move with
  | none => exact sound
  | enter idle => exact sound.setPhase rfl fun _ same => nomatch same
  | lock _ free =>
      refine sound.takeMutex free (fun _ same => nomatch same) ?_
      intro conn same
      rcases same with same | same <;> exact nomatch same
  | lockRel conn phase free =>
      refine sound.takeMutex free (fun _ same => nomatch same) ?_
      intro other same
      rcases same with same | same
      · exact nomatch same
      · cases same
        exact sound.returning thread conn (.inl phase)
  | pop address conn rest phase free => exact sound.pop phase free
  | wait address phase free full =>
      exact sound.leaveMutex (by rw [phase]; rfl) (.inr (.inr rfl))
  | make address phase free room =>
      refine sound.sameContent (fun _ => ?_) (fun other _ inside => sound.mutex other inside) ?_ ?_
      · exact sound.mutex thread (by rw [phase]; rfl)
      · intro conn same
        cases same
        exact ⟨free, room, admissible.2⟩
      · intro conn same
        rcases same with same | same <;> exact nomatch same
  | grow conn phase => exact sound.grow phase
  | refuse conn phase => exact sound.leaveMutex (by rw [phase]; rfl) (.inr (.inl rfl))
  | wake phase => exact sound.setPhase rfl fun _ same => nomatch same
  | rel conn idle =>
      refine sound.setPhase rfl ?_
      intro other same
      cases same
      exact admissible
  | file conn phase => exact sound.file phase

/-- The contents change only in steps of a thread that has the mutex. -/
theorem freeList_of_outside {event : Thread × Action Conn}
    (outside : (pool.phase event.1).inside = false) :
    (pool.step maxConnCnt event).freeList = pool.freeList := by
  obtain ⟨thread, action⟩ := event
  have move := step_move maxConnCnt pool thread action
  generalize pool.step maxConnCnt (thread, action) = after at move ⊢
  cases move with
  | pop _ _ _ phase _ =>
      rw [phase] at outside
      cases outside
  | grow _ phase =>
      rw [phase] at outside
      cases outside
  | file _ phase =>
      rw [phase] at outside
      cases outside
  | _ => rfl

theorem phase_step_of_ne {event : Thread × Action Conn} {other : Thread}
    (different : other ≠ event.1) :
    (pool.step maxConnCnt event).phase other = pool.phase other := by
  obtain ⟨thread, action⟩ := event
  have move := step_move maxConnCnt pool thread action
  generalize pool.step maxConnCnt (thread, action) = after at move ⊢
  cases move with
  | none => rfl
  | _ => exact Function.update_of_ne different ..

end Pool

namespace PoolRun

variable {maxConnCnt : Int} {run : PoolRun Thread Conn}

/-- In these phases of a call of `get`, and after it returned none, the thread has changed
nothing. -/
def unchanging : Phase Conn → Bool
  | .entering | .waiting | .woken | .connecting _ | .refused => true
  | _ => false

/-- What holds of a thread and what it has changed, given the free list. -/
structure Tracked (phase : Phase Conn) (changed : Bool) (freeList : List Conn) : Prop where
  unchanged : unchanging phase = true → changed = false
  grown : phase = .checking → changed = true → freeList ≠ []

omit [DecidableEq Conn] in
theorem Tracked.of_false {phase : Phase Conn} {freeList : List Conn} :
    Tracked phase false freeList :=
  ⟨fun _ => rfl, fun _ changed => nomatch changed⟩

omit [DecidableEq Conn] in
theorem Tracked.of_eq {phase next : Phase Conn} {changed : Bool} {freeList : List Conn}
    (is : phase = next) (other : unchanging next = false) (notChecking : next ≠ .checking) :
    Tracked phase changed freeList := by
  subst is
  refine ⟨fun unchanging => ?_, fun checking => absurd checking notChecking⟩
  rw [other] at unchanging
  cases unchanging

structure Sound (maxConnCnt : Int) (run : PoolRun Thread Conn) : Prop where
  pool : run.pool.Sound maxConnCnt
  tracked : ∀ thread, Tracked (run.pool.phase thread) (run.changed thread) run.pool.freeList

/-- What the thread of a step has changed by then. -/
theorem Tracked.step (tracked : ∀ thread, Tracked (run.pool.phase thread) (run.changed thread)
      run.pool.freeList) (event : Thread × Action Conn) :
    Tracked ((run.step maxConnCnt event).pool.phase event.1)
      ((run.step maxConnCnt event).changed event.1) (run.step maxConnCnt event).pool.freeList := by
  obtain ⟨thread, action⟩ := event
  have before := tracked thread
  have move := Pool.step_move maxConnCnt run.pool thread action
  show Tracked ((run.pool.step maxConnCnt (thread, action)).phase thread)
    (Function.update run.changed thread _ thread) _
  rw [Function.update_self]
  show Tracked _ ((!(decide (action = .get) && (run.pool.phase thread).idle) &&
    run.changed thread) || decide (content (run.pool.step maxConnCnt (thread, action)) ≠
      content run.pool)) (run.pool.step maxConnCnt (thread, action)).freeList
  generalize run.pool.step maxConnCnt (thread, action) = after at move ⊢
  have kept : content after = content run.pool → ∀ earlier : Bool,
      (earlier || decide (content after ≠ content run.pool)) = earlier := by
    intro same earlier
    rw [decide_eq_false (not_not.mpr same), Bool.or_false]
  -- Nothing was changed by the thread before, and nothing is changed by this step.
  have still : content after = content run.pool → run.changed thread = false →
      Tracked (after.phase thread)
        ((!(decide (action = .get) && (run.pool.phase thread).idle) && run.changed thread) ||
          decide (content after ≠ content run.pool)) after.freeList := by
    intro same unchanged
    rw [kept same, unchanged, Bool.and_false]
    exact .of_false
  have nothing : run.pool.phase thread = .checking → run.pool.freeList = [] →
      run.changed thread = false :=
    fun phase empty => Bool.eq_false_iff.mpr fun changed => before.grown phase changed empty
  cases move with
  | none =>
      rw [kept rfl]
      refine ⟨fun unchanging => ?_, fun phase changed => ?_⟩
      · rw [before.unchanged unchanging, Bool.and_false]
      · exact before.grown phase (Bool.and_eq_true_iff.mp changed).2
  | enter idle =>
      rw [kept rfl, idle]
      exact .of_false
  | lock phase _ =>
      refine still rfl ?_
      rcases phase with phase | phase <;> exact before.unchanged (by rw [phase]; rfl)
  | wait address phase empty _ => exact still rfl (nothing phase empty)
  | make address phase empty _ => exact still rfl (nothing phase empty)
  | refuse conn phase => exact still rfl (before.unchanged (by rw [phase]; rfl))
  | wake phase => exact still rfl (before.unchanged (by rw [phase]; rfl))
  | grow conn _ =>
      rw [show ({ run.pool.setPhase thread .checking with
        freeList := run.pool.freeList ++ [conn],
        curConnCnt := run.pool.curConnCnt + 1 } : Pool Thread Conn).phase thread = .checking from
          Function.update_self ..]
      exact ⟨fun unchanging => (nomatch unchanging), fun _ _ => List.concat_ne_nil _ _⟩
  | lockRel conn _ _ => exact .of_eq (Function.update_self ..) rfl (by simp)
  | rel conn _ => exact .of_eq (Function.update_self ..) rfl (by simp)
  | pop address conn rest _ _ => exact .of_eq (Function.update_self ..) rfl (by simp)
  | file conn _ => exact .of_eq (Function.update_self ..) rfl (by simp)

theorem Sound.step (sound : Sound maxConnCnt run) {event : Thread × Action Conn}
    (admissible : run.Admissible event) : Sound maxConnCnt (run.step maxConnCnt event) where
  pool := sound.pool.step admissible
  tracked := by
    intro other
    by_cases same : other = event.1
    · subst same
      exact Tracked.step sound.tracked event
    · have before := sound.tracked other
      have phase : (run.step maxConnCnt event).pool.phase other = run.pool.phase other :=
        Pool.phase_step_of_ne same
      have changed : (run.step maxConnCnt event).changed other = run.changed other :=
        Function.update_of_ne same ..
      rw [phase, changed]
      refine ⟨before.unchanged, fun checking grown => ?_⟩
      -- the free list is kept, since the other thread is the one with the mutex
      have inside : (run.pool.phase other).inside = true := by
        rw [checking]
        rfl
      have outside : (run.pool.phase event.1).inside = false :=
        Bool.eq_false_iff.mpr fun also => same (sound.pool.alone also inside)
      have kept : (run.step maxConnCnt event).pool.freeList = run.pool.freeList :=
        Pool.freeList_of_outside outside
      rw [kept]
      exact before.grown checking grown

omit [DecidableEq Thread] [DecidableEq Conn] in
theorem Sound.wellLent (sound : Sound maxConnCnt run) : WellLent maxConnCnt run where
  lentOnce := (List.nodup_append.mp sound.pool.distinct).2.1
  notFree := fun _ _ lent free =>
    List.disjoint_of_nodup_append sound.pool.distinct free (List.mem_map_of_mem lent)
  freeOnce := (List.nodup_append.mp sound.pool.distinct).1
  count := sound.pool.count
  bounded := sound.pool.bounded
  refused := by
    intro thread refused
    refine (sound.tracked thread).unchanged ?_
    rw [refused]
    rfl

end PoolRun

/-! ### Reachable states -/

omit [DecidableEq Conn] in
/-- `init` makes as many connections as it is to, at different addresses. -/
theorem initLoop_spec {address : Nat → Conn} {connects : Nat → Bool} {count : Nat}
    {free : List Conn} (made : initLoop address connects count = some free) :
    free = (List.range count).map address := by
  induction count generalizing free with
  | zero =>
      cases made
      rfl
  | succ count inductionHypothesis =>
      unfold initLoop at made
      split at made
      · cases made
      · rename_i before madeBefore
        split at made
        · cases made
          rw [inductionHypothesis madeBefore, List.range_succ, List.map_append]
          rfl
        · cases made

omit [DecidableEq Thread] [DecidableEq Conn] in
/-- After a successful `init` at different addresses the invariant holds. -/
theorem sound_start {kind : PoolKind} (maxConnCnt : Int) {address : Nat → Conn}
    {connects : Nat → Bool} {free : List Conn} (made : kind.init address connects = some free)
    (different : ∀ first < kind.minConnCnt, ∀ second < kind.minConnCnt,
      address first = address second → first = second) :
    Pool.Sound maxConnCnt (.start free kind.minConnCnt : Pool Thread Conn) := by
  have connections := initLoop_spec made
  have distinct : free.Nodup := by
    rw [connections]
    refine List.Nodup.map_on ?_ List.nodup_range
    intro first firstIn second secondIn same
    exact different first (List.mem_range.mp firstIn) second (List.mem_range.mp secondIn) same
  have length : free.length = kind.minConnCnt := by
    rw [connections, List.length_map, List.length_range]
  have two : kind.minConnCnt = 2 := by cases kind <;> rfl
  exact
    { distinct := by
        show (free ++ []).Nodup
        rwa [List.append_nil]
      count := length
      bounded := by
        show ((kind.minConnCnt : Nat) : Int) ≤ _
        omega
      mutex := fun _ inside => nomatch inside
      connecting := fun _ _ same => nomatch same
      returning := fun _ _ same => by rcases same with same | same <;> cases same }

/-- In every state that the threads reach after a successful `init`, the pool is well lent. -/
theorem wellLent_of_reach (kind : PoolKind) (maxConnCnt : Int) (address : Nat → Conn)
    (connects : Nat → Bool) {free : List Conn} (made : kind.init address connects = some free)
    (different : ∀ first < kind.minConnCnt, ∀ second < kind.minConnCnt,
      address first = address second → first = second)
    {run : PoolRun Thread Conn}
    (reach : Reach (PoolRun.step maxConnCnt) PoolRun.Admissible
      (.start free kind.minConnCnt) run) :
    run.WellLent maxConnCnt := by
  have initial : PoolRun.Sound maxConnCnt (.start free kind.minConnCnt : PoolRun Thread Conn) :=
    ⟨sound_start maxConnCnt made different, fun _ => .of_false⟩
  exact (reach.invariant (PoolRun.Sound maxConnCnt) initial
    fun _ _ sound admissible => sound.step admissible).wellLent

/-- One thread gets both connections, and a third one cannot be made; it gives the first one
back. -/
def refusal : List (Bool × Action Nat) :=
  [(true, .get), (true, .lock), (true, .look 9), (true, .get), (true, .lock), (true, .look 9),
    (true, .get), (true, .lock), (false, .get), (true, .look 2), (true, .connected false),
    (true, .rel 0), (false, .lock), (true, .lock), (false, .look 2), (false, .connected true),
    (false, .look 9), (true, .lock), (true, .file)]

theorem wellLent_refusal :
    PoolRun.WellLent 3 (run (PoolRun.step 3) (.start [0, 1] 2) refusal) :=
  wellLent_of_reach .dbPool 3 id (fun _ => true) rfl (by decide) (reach_run refusal (by decide))

end ConnPool

end AChat.DbProxy
