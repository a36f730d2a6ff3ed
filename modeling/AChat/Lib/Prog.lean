import Mathlib.Logic.Basic

/-!
Owns programs that issue atomic operations and go on with the replies: their
sequencing, what they return and issue when the reply to every operation is given,
and what they do to a store that is theirs alone.

Does not own how programs interleave on a store that they share.
-/

namespace AChat.Lib

inductive Prog (Op : Type) (Reply : Op → Type) (α : Type) where
  | done (value : α)
  | call (op : Op) (next : Reply op → Prog Op Reply α)

namespace Prog

variable {Op : Type} {Reply : Op → Type} {α β : Type}

/-! ### Sequencing -/

def bind : Prog Op Reply α → (α → Prog Op Reply β) → Prog Op Reply β
  | .done value, next => next value
  | .call op rest, next => .call op fun reply => (rest reply).bind next

instance : Monad (Prog Op Reply) where
  pure := .done
  bind := bind

def perform (op : Op) : Prog Op Reply (Reply op) :=
  .call op .done

@[simp] theorem pure_eq_done (value : α) : (Pure.pure value : Prog Op Reply α) = .done value :=
  rfl

@[simp] theorem done_bind (value : α) (next : α → Prog Op Reply β) :
    (.done value : Prog Op Reply α) >>= next = next value :=
  rfl

@[simp] theorem call_bind (op : Op) (rest : Reply op → Prog Op Reply α)
    (next : α → Prog Op Reply β) :
    (.call op rest : Prog Op Reply α) >>= next = .call op fun reply => rest reply >>= next :=
  rfl

@[simp] theorem perform_bind (op : Op) (next : Reply op → Prog Op Reply β) :
    perform op >>= next = .call op next :=
  rfl

/-! ### Given replies -/

section Replies

variable (reply : (op : Op) → Reply op)

def eval : Prog Op Reply α → α
  | .done value => value
  | .call op next => (next (reply op)).eval

/-- The operations that are issued, in order. -/
def issued : Prog Op Reply α → List Op
  | .done _ => []
  | .call op next => op :: (next (reply op)).issued

@[simp] theorem eval_done (value : α) : (.done value : Prog Op Reply α).eval reply = value :=
  rfl

@[simp] theorem eval_call (op : Op) (next : Reply op → Prog Op Reply α) :
    (Prog.call op next).eval reply = (next (reply op)).eval reply :=
  rfl

@[simp] theorem eval_perform (op : Op) : (perform op).eval reply = reply op :=
  rfl

@[simp] theorem eval_bind (prog : Prog Op Reply α) (next : α → Prog Op Reply β) :
    (prog >>= next).eval reply = (next (prog.eval reply)).eval reply := by
  induction prog with
  | done value => rfl
  | call op rest inductionHypothesis => exact inductionHypothesis (reply op)

theorem eval_foldlM (items : List β) (each : α → β → Prog Op Reply α) (start : α) :
    (items.foldlM each start).eval reply =
      items.foldl (fun state item => (each state item).eval reply) start := by
  induction items generalizing start with
  | nil => rfl
  | cons item rest inductionHypothesis =>
      rw [List.foldlM_cons, eval_bind, inductionHypothesis]
      rfl

@[simp] theorem issued_done (value : α) : (.done value : Prog Op Reply α).issued reply = [] :=
  rfl

@[simp] theorem issued_call (op : Op) (next : Reply op → Prog Op Reply α) :
    (Prog.call op next).issued reply = op :: (next (reply op)).issued reply :=
  rfl

@[simp] theorem issued_perform (op : Op) : (perform op).issued reply = [op] :=
  rfl

@[simp] theorem issued_bind (prog : Prog Op Reply α) (next : α → Prog Op Reply β) :
    (prog >>= next).issued reply =
      prog.issued reply ++ (next (prog.eval reply)).issued reply := by
  induction prog with
  | done value => rfl
  | call op rest inductionHypothesis =>
      exact congrArg (op :: ·) (inductionHypothesis (reply op))

end Replies

/-! ### On a store -/

section Stores

variable {Store : Type} (effect : Store → (op : Op) → Reply op → Reply op × Store)
  (answers : (op : Op) → Reply op)

/-- Runs to the end. The answer to an operation is proposed, and the store may put another one in
its place. -/
def exec : Prog Op Reply α → Store → α × Store
  | .done value, store => (value, store)
  | .call op next, store =>
      let result := effect store op (answers op)
      (next result.1).exec result.2

@[simp] theorem exec_done (value : α) (store : Store) :
    (.done value : Prog Op Reply α).exec effect answers store = (value, store) :=
  rfl

@[simp] theorem exec_call (op : Op) (next : Reply op → Prog Op Reply α) (store : Store) :
    (Prog.call op next).exec effect answers store =
      (next (effect store op (answers op)).1).exec effect answers
        (effect store op (answers op)).2 :=
  rfl

@[simp] theorem exec_perform (op : Op) (store : Store) :
    (perform op : Prog Op Reply (Reply op)).exec effect answers store =
      effect store op (answers op) :=
  rfl

@[simp] theorem exec_bind (prog : Prog Op Reply α) (next : α → Prog Op Reply β) (store : Store) :
    (prog >>= next).exec effect answers store =
      (next (prog.exec effect answers store).1).exec effect answers
        (prog.exec effect answers store).2 := by
  induction prog generalizing store with
  | done value => rfl
  | call op rest inductionHypothesis => exact inductionHypothesis _ _

end Stores

/-! ### What may be issued -/

/-- Whatever the replies are, only operations of one kind are issued. -/
def Issues (kind : Op → Prop) : Prog Op Reply α → Prop
  | .done _ => True
  | .call op next => kind op ∧ ∀ reply, (next reply).Issues kind

variable {kind : Op → Prop}

theorem Issues.perform {op : Op} (known : kind op) :
    (Prog.perform op : Prog Op Reply (Reply op)).Issues kind :=
  ⟨known, fun _ => trivial⟩

theorem Issues.bind {prog : Prog Op Reply α} {next : α → Prog Op Reply β}
    (first : prog.Issues kind) (rest : ∀ value, (next value).Issues kind) :
    (prog >>= next).Issues kind := by
  induction prog with
  | done value => exact rest value
  | call op continuation inductionHypothesis =>
      exact ⟨first.1, fun reply => inductionHypothesis reply (first.2 reply)⟩

theorem Issues.mono {prog : Prog Op Reply α} {weaker : Op → Prop} (issues : prog.Issues kind)
    (implies : ∀ op, kind op → weaker op) : prog.Issues weaker := by
  induction prog with
  | done value => trivial
  | call op next inductionHypothesis =>
      exact ⟨implies op issues.1, fun reply => inductionHypothesis reply (issues.2 reply)⟩

/-- What every operation of the kind keeps to, the whole program keeps to. -/
theorem Issues.exec {Store : Type} {effect : Store → (op : Op) → Reply op → Reply op × Store}
    {relation : Store → Store → Prop} {prog : Prog Op Reply α} (issues : prog.Issues kind)
    (refl : ∀ store, relation store store)
    (trans : ∀ {first second third}, relation first second → relation second third →
      relation first third)
    (acts : ∀ op answer store, kind op → relation store (effect store op answer).2)
    (answers : (op : Op) → Reply op) (store : Store) :
    relation store (prog.exec effect answers store).2 := by
  induction prog generalizing store with
  | done value => exact refl store
  | call op next inductionHypothesis =>
      exact trans (acts op _ store issues.1) (inductionHypothesis _ (issues.2 _) _)

/-- A program whose operations are replied to as they are answered leaves the store alone. -/
theorem Issues.exec_eq {Store : Type} {effect : Store → (op : Op) → Reply op → Reply op × Store}
    {prog : Prog Op Reply α}
    (issues : prog.Issues fun op => ∀ store answer, effect store op answer = (answer, store))
    (answers : (op : Op) → Reply op) (store : Store) :
    prog.exec effect answers store = (prog.eval answers, store) := by
  induction prog with
  | done value => rfl
  | call op next inductionHypothesis =>
      rw [exec_call, issues.1 store (answers op)]
      exact inductionHypothesis (answers op) (issues.2 (answers op))

theorem Issues.of_mem {prog : Prog Op Reply α} (issues : prog.Issues kind)
    {reply : (op : Op) → Reply op} {op : Op} (member : op ∈ prog.issued reply) : kind op := by
  induction prog with
  | done value => cases member
  | call first next inductionHypothesis =>
      cases List.mem_cons.mp member with
      | inl same => exact same ▸ issues.1
      | inr later => exact inductionHypothesis (reply first) (issues.2 _) later

end Prog

end AChat.Lib
