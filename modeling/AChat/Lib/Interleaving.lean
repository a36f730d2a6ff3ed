import AChat.Lib.Prog
import AChat.Lib.Reach

/-!
Contract: rely and guarantee for programs that share a store.

Threads run programs whose operations are atomic, in any order, and new threads
start at any time. `Ensures` is about one thread alone: what it knows of the store
survives what it relies on the others for, and its own operations keep the
invariant and what the others rely on. `Sound.run` puts the threads together.

The answer to an operation is proposed by the environment, and the store may put
what it holds in its place.
-/

namespace AChat.Lib

structure Thread (Task Op : Type) (Reply : Op → Type) (α : Type) where
  task : Task
  prog : Prog Op Reply α

structure Pool (Store Task Op : Type) (Reply : Op → Type) (α : Type) where
  store : Store
  threads : List (Thread Task Op Reply α)

inductive PoolEvent (Task Op : Type) (Reply : Op → Type) where
  | spawn (task : Task)
  | advance (index : Nat) (answers : (op : Op) → Reply op)

/-- What an operation of a thread returns and does. -/
abbrev Effect (Store Op : Type) (Reply : Op → Type) :=
  Nat → Store → (op : Op) → Reply op → Reply op × Store

variable {Store Task Op : Type} {Reply : Op → Type} {α β : Type}

/-! ### Runs -/

namespace Pool

variable (body : Task → Prog Op Reply α) (effect : Effect Store Op Reply)

/-- A thread that has finished takes no more steps. -/
def step (pool : Pool Store Task Op Reply α) :
    PoolEvent Task Op Reply → Pool Store Task Op Reply α
  | .spawn task => { pool with threads := pool.threads ++ [⟨task, body task⟩] }
  | .advance index answers =>
      match pool.threads[index]? with
      | some ⟨task, .call op next⟩ =>
          let result := effect index pool.store op (answers op)
          ⟨result.2, pool.threads.set index ⟨task, next result.1⟩⟩
      | _ => pool

/-- The operation that is executed, if one is, is allowed in this state. -/
def Permits (allowed : Store → (op : Op) → Reply op → Prop) (pool : Pool Store Task Op Reply α) :
    PoolEvent Task Op Reply → Prop
  | .spawn _ => True
  | .advance index answers =>
      match pool.threads[index]? with
      | some ⟨_, .call op _⟩ => allowed pool.store op (answers op)
      | _ => True

instance (allowed : Store → (op : Op) → Reply op → Prop)
    [∀ store op answer, Decidable (allowed store op answer)] (pool : Pool Store Task Op Reply α)
    (event : PoolEvent Task Op Reply) : Decidable (pool.Permits allowed event) :=
  match event with
  | .spawn _ => inferInstanceAs (Decidable True)
  | .advance index answers =>
      match found : pool.threads[index]? with
      | some ⟨_, .call op _⟩ =>
          decidable_of_iff (allowed pool.store op (answers op)) (by rw [Permits, found])
      | some ⟨_, .done _⟩ => decidable_of_iff True (by rw [Permits, found])
      | none => decidable_of_iff True (by rw [Permits, found])

/-- Where every operation is allowed, every event is. -/
theorem permits_of_forall {allowed : Store → (op : Op) → Reply op → Prop}
    (all : ∀ store op answer, allowed store op answer) (pool : Pool Store Task Op Reply α)
    (event : PoolEvent Task Op Reply) : pool.Permits allowed event := by
  cases event with
  | spawn task => trivial
  | advance index answers =>
      simp only [Permits]
      split
      · exact all _ _ _
      · trivial

def Finished (pool : Pool Store Task Op Reply α) (index : Nat) (task : Task) (value : α) : Prop :=
  pool.threads[index]? = some ⟨task, .done value⟩

variable {body effect}

theorem step_store {relation : Store → Store → Prop} (refl : ∀ store, relation store store)
    (acts : ∀ thread store op answer, relation store (effect thread store op answer).2)
    (pool : Pool Store Task Op Reply α) (event : PoolEvent Task Op Reply) :
    relation pool.store (step body effect pool event).store := by
  cases event with
  | spawn task => exact refl pool.store
  | advance index answers =>
      simp only [step]
      split
      · exact acts _ _ _ _
      · exact refl pool.store

/-- A relation that every operation keeps to is kept to by runs. -/
theorem run_store {relation : Store → Store → Prop} (refl : ∀ store, relation store store)
    (trans : ∀ {first second third}, relation first second → relation second third →
      relation first third)
    (acts : ∀ thread store op answer, relation store (effect thread store op answer).2)
    (events : List (PoolEvent Task Op Reply)) (pool : Pool Store Task Op Reply α) :
    relation pool.store (run (step body effect) pool events).store := by
  induction events generalizing pool with
  | nil => exact refl pool.store
  | cons event rest inductionHypothesis =>
      exact trans (step_store refl acts pool event) (inductionHypothesis _)

end Pool

/-! ### One thread -/

/-- The rules of a store: which steps are taken, what holds of it, and what a thread relies on
when the others act. -/
structure Protocol (Store Op : Type) (Reply : Op → Type) where
  effect : Effect Store Op Reply
  allowed : Store → (op : Op) → Reply op → Prop
  inv : Store → Prop
  rely : Nat → Store → Store → Prop
  rely_refl : ∀ thread store, rely thread store store

namespace Protocol

variable (protocol : Protocol Store Op Reply) (thread : Nat)

def Stable (know : Store → Prop) : Prop :=
  ∀ store later, protocol.inv store → protocol.inv later → protocol.rely thread store later →
    know store → know later

/-- A step of a thread keeps the invariant and what the others rely on. -/
def Guarantees (store later : Store) : Prop :=
  protocol.inv later ∧ ∀ other, other ≠ thread → protocol.rely other store later

def Ensures (know : Store → Prop) (prog : Prog Op Reply α) (post : α → Store → Prop) : Prop :=
  protocol.Stable thread know ∧
    match prog with
    | .done value => ∀ store, protocol.inv store → know store → post value store
    | .call op next =>
        ∀ store answer, protocol.inv store → know store → protocol.allowed store op answer →
          protocol.Guarantees thread store (protocol.effect thread store op answer).2 ∧
            ∃ after : Store → Prop, after (protocol.effect thread store op answer).2 ∧
              Ensures after (next (protocol.effect thread store op answer).1) post

variable {protocol thread}

section Rules

variable {know stronger : Store → Prop} {post : α → Store → Prop}

theorem Stable.and (left : protocol.Stable thread know) (right : protocol.Stable thread stronger) :
    protocol.Stable thread fun store => know store ∧ stronger store := by
  intro store later before after relies known
  exact ⟨left store later before after relies known.1,
    right store later before after relies known.2⟩

theorem Stable.or (left : protocol.Stable thread know) (right : protocol.Stable thread stronger) :
    protocol.Stable thread fun store => know store ∨ stronger store := by
  intro store later before after relies known
  exact known.imp (left store later before after relies) (right store later before after relies)

theorem Stable.const (fact : Prop) : protocol.Stable thread fun _ => fact :=
  fun _ _ _ _ _ => id

theorem Stable.all {ι : Sort*} {knows : ι → Store → Prop}
    (stable : ∀ index, protocol.Stable thread (knows index)) :
    protocol.Stable thread fun store => ∀ index, knows index store :=
  fun store later before after relies known index =>
    stable index store later before after relies (known index)

theorem Ensures.stable {prog : Prog Op Reply α}
    (ensures : protocol.Ensures thread know prog post) : protocol.Stable thread know := by
  rw [Ensures.eq_def] at ensures
  exact ensures.1

theorem Ensures.done {value : α} (stable : protocol.Stable thread know)
    (implies : ∀ store, protocol.inv store → know store → post value store) :
    protocol.Ensures thread know (.done value) post := by
  rw [Ensures]
  exact ⟨stable, implies⟩

theorem Ensures.strengthen {prog : Prog Op Reply α}
    (ensures : protocol.Ensures thread know prog post)
    (stable : protocol.Stable thread stronger)
    (implies : ∀ store, protocol.inv store → stronger store → know store) :
    protocol.Ensures thread stronger prog post := by
  cases prog with
  | done value =>
      rw [Ensures] at ensures ⊢
      exact ⟨stable, fun store holds known => ensures.2 store holds (implies store holds known)⟩
  | call op next =>
      rw [Ensures] at ensures ⊢
      exact ⟨stable, fun store answer holds known =>
        ensures.2 store answer holds (implies store holds known)⟩

/-- The rule for one operation. -/
theorem Ensures.perform {op : Op} {after : Reply op → Store → Prop}
    (stable : protocol.Stable thread know)
    (stableAfter : ∀ reply, protocol.Stable thread (after reply))
    (acts : ∀ store answer, protocol.inv store → know store → protocol.allowed store op answer →
      protocol.Guarantees thread store (protocol.effect thread store op answer).2 ∧
        after (protocol.effect thread store op answer).1
          (protocol.effect thread store op answer).2) :
    protocol.Ensures thread know (Prog.perform op) after := by
  rw [Prog.perform, Ensures]
  refine ⟨stable, ?_⟩
  intro store answer holds known allowed
  have acted := acts store answer holds known allowed
  exact ⟨acted.1, _, acted.2, Ensures.done (stableAfter _) fun _ _ => id⟩

theorem Ensures.bind {mid : α → Store → Prop} {post : β → Store → Prop}
    {prog : Prog Op Reply α} {next : α → Prog Op Reply β}
    (first : protocol.Ensures thread know prog mid)
    (rest : ∀ value, protocol.Ensures thread (mid value) (next value) post) :
    protocol.Ensures thread know (prog >>= next) post := by
  induction prog generalizing know with
  | done value =>
      rw [Ensures] at first
      exact (rest value).strengthen first.1 first.2
  | call op continuation inductionHypothesis =>
      rw [Ensures] at first
      rw [Prog.call_bind, Ensures]
      refine ⟨first.1, ?_⟩
      intro store answer holds known allowed
      obtain ⟨guarantees, after, reached, later⟩ := first.2 store answer holds known allowed
      exact ⟨guarantees, after, reached, inductionHypothesis _ later⟩

theorem Ensures.weaken {weaker : α → Store → Prop} {prog : Prog Op Reply α}
    (ensures : protocol.Ensures thread know prog post)
    (implies : ∀ value store, protocol.inv store → post value store → weaker value store) :
    protocol.Ensures thread know prog weaker := by
  induction prog generalizing know with
  | done value =>
      rw [Ensures] at ensures ⊢
      exact ⟨ensures.1, fun store holds known =>
        implies value store holds (ensures.2 store holds known)⟩
  | call op next inductionHypothesis =>
      rw [Ensures] at ensures ⊢
      refine ⟨ensures.1, ?_⟩
      intro store answer holds known allowed
      obtain ⟨guarantees, after, reached, later⟩ := ensures.2 store answer holds known allowed
      exact ⟨guarantees, after, reached, inductionHypothesis _ later⟩

/-- The operation only reads. -/
def Quiet (protocol : Protocol Store Op Reply) (op : Op) : Prop :=
  ∀ thread store answer, (protocol.effect thread store op answer).2 = store

/-- A program that only reads keeps what is known. -/
theorem Ensures.quiet {prog : Prog Op Reply α} (quiet : prog.Issues protocol.Quiet)
    (stable : protocol.Stable thread know) :
    protocol.Ensures thread know prog fun _ => know := by
  induction prog with
  | done value => exact Ensures.done stable fun _ _ => id
  | call op next inductionHypothesis =>
      rw [Ensures]
      refine ⟨stable, ?_⟩
      intro store answer holds known _
      rw [quiet.1 thread store answer]
      exact ⟨⟨holds, fun other _ => protocol.rely_refl other store⟩, know, known,
        inductionHypothesis _ (quiet.2 _)⟩

/-- A program that issues operations of one kind, each of which keeps to the rules. -/
theorem Ensures.issues {kind : Op → Prop} {prog : Prog Op Reply α} (issues : prog.Issues kind)
    (keeps : ∀ store op answer, kind op → protocol.inv store → protocol.allowed store op answer →
      protocol.Guarantees thread store (protocol.effect thread store op answer).2) :
    protocol.Ensures thread (fun _ => True) prog fun _ _ => True := by
  induction prog with
  | done value => exact Ensures.done (Stable.const True) fun _ _ => id
  | call op next inductionHypothesis =>
      rw [Ensures]
      refine ⟨Stable.const True, ?_⟩
      intro store answer holds _ allowed
      exact ⟨keeps store op answer issues.1 holds allowed, _, trivial,
        inductionHypothesis _ (issues.2 _)⟩

end Rules

/-! ### All threads -/

/-- The invariant holds, and every thread knows enough for the rest of its program. -/
def Sound (protocol : Protocol Store Op Reply) (post : Nat → Task → α → Store → Prop)
    (pool : Pool Store Task Op Reply α) : Prop :=
  protocol.inv pool.store ∧
    ∀ index running, pool.threads[index]? = some running →
      ∃ know : Store → Prop, know pool.store ∧
        protocol.Ensures index know running.prog (post index running.task)

section Soundness

variable {body : Task → Prog Op Reply α} {post : Nat → Task → α → Store → Prop}
  {pool : Pool Store Task Op Reply α}

theorem Sound.empty {store : Store} (holds : protocol.inv store) :
    protocol.Sound post (⟨store, []⟩ : Pool Store Task Op Reply α) :=
  ⟨holds, fun _ _ found => by simp at found⟩

theorem Sound.spawn (sound : protocol.Sound post pool)
    (starts : ∀ index task,
      protocol.Ensures index (fun _ => True) (body task) (post index task)) (task : Task) :
    protocol.Sound post (pool.step body protocol.effect (.spawn task)) := by
  refine ⟨sound.1, ?_⟩
  intro index running found
  rw [Pool.step, List.getElem?_append] at found
  split at found
  · exact sound.2 index running found
  · have last := List.getElem?_eq_some_iff.mp found
    obtain ⟨_, rfl⟩ := last
    exact ⟨_, trivial, by simpa using starts index task⟩

theorem Sound.advance (sound : protocol.Sound post pool) (index : Nat)
    (answers : (op : Op) → Reply op)
    (permitted : pool.Permits protocol.allowed (.advance index answers)) :
    protocol.Sound post (pool.step body protocol.effect (.advance index answers)) := by
  simp only [Pool.step]
  split
  · rename_i task op next found
    obtain ⟨know, known, ensures⟩ := sound.2 index _ found
    rw [Ensures] at ensures
    simp only [Pool.Permits, found] at permitted
    obtain ⟨guarantees, after, reached, later⟩ :=
      ensures.2 pool.store (answers op) sound.1 known permitted
    refine ⟨guarantees.1, ?_⟩
    intro other running there
    by_cases same : index = other
    · subst same
      have inside := (List.getElem?_eq_some_iff.mp found).1
      rw [List.getElem?_set_self inside] at there
      cases there
      exact ⟨after, reached, later⟩
    · rw [List.getElem?_set_ne same] at there
      obtain ⟨knowOther, knownOther, ensuresOther⟩ := sound.2 other running there
      have stable := ensuresOther.stable
      have relies := guarantees.2 other fun equal => same equal.symm
      exact ⟨knowOther, stable _ _ sound.1 guarantees.1 relies knownOther, ensuresOther⟩
  · exact sound

theorem Sound.run (starts : ∀ index task,
      protocol.Ensures index (fun _ => True) (body task) (post index task))
    (events : List (PoolEvent Task Op Reply)) (sound : protocol.Sound post pool)
    (permitted : Meets (Pool.step body protocol.effect) (Pool.Permits protocol.allowed) pool
      events) :
    protocol.Sound post (run (Pool.step body protocol.effect) pool events) := by
  induction events generalizing pool with
  | nil => exact sound
  | cons event rest inductionHypothesis =>
      cases event with
      | spawn task => exact inductionHypothesis (sound.spawn starts task) permitted.2
      | advance index answers =>
          exact inductionHypothesis (sound.advance index answers permitted.1) permitted.2

theorem Sound.finished (sound : protocol.Sound post pool) {index : Nat} {task : Task} {value : α}
    (finished : pool.Finished index task value) : post index task value pool.store := by
  obtain ⟨know, known, ensures⟩ := sound.2 index _ finished
  rw [Ensures] at ensures
  exact ensures.2 pool.store sound.1 known

end Soundness

end Protocol

end AChat.Lib
