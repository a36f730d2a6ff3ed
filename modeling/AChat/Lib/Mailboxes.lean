import Mathlib.Data.List.Basic
import Mathlib.Logic.Function.Basic

/-!
Owns queues of tasks, one at each place, and the part of them that is about one owner.

The tasks of one owner are again queues, which only change when a task of the owner is posted or
taken. What is known of one owner therefore survives everything that is done for the others.
-/

namespace AChat.Lib

universe u v w

variable {Place : Type u} {Task : Type v} {Owner : Type w}

/-- What waits at each place, the next one first. -/
abbrev Mailboxes (Place : Type u) (Task : Type v) : Type max u v :=
  Place → List Task

namespace Mailboxes

def empty : Mailboxes Place Task :=
  fun _ => []

section Places

variable [DecidableEq Place]

/-- Nothing waits anywhere but at one place. -/
def only (place : Place) (tasks : List Task) : Mailboxes Place Task :=
  Function.update empty place tasks

def post (boxes : Mailboxes Place Task) (place : Place) (task : Task) : Mailboxes Place Task :=
  Function.update boxes place (boxes place ++ [task])

/-- The next task at a place is taken. -/
def take (boxes : Mailboxes Place Task) (place : Place) : Mailboxes Place Task :=
  Function.update boxes place (boxes place).tail

@[simp] theorem only_self (place : Place) (tasks : List Task) : only place tasks place = tasks :=
  Function.update_self ..

theorem only_other {place other : Place} (different : other ≠ place) (tasks : List Task) :
    only place tasks other = [] :=
  Function.update_of_ne different ..

@[simp] theorem only_nil (place : Place) : (only place [] : Mailboxes Place Task) = empty :=
  Function.update_eq_self place empty

@[simp] theorem post_only (place : Place) (tasks : List Task) (task : Task) :
    (only place tasks).post place task = only place (tasks ++ [task]) := by
  rw [post, only_self, only, Function.update_idem, only]

@[simp] theorem take_only (place : Place) (task : Task) (rest : List Task) :
    (only place (task :: rest)).take place = only place rest := by
  rw [take, only_self, only, Function.update_idem, List.tail_cons, only]

theorem post_empty (place : Place) (task : Task) : empty.post place task = only place [task] :=
  rfl

/-- A task is taken from where another one was not posted. -/
theorem take_post (boxes : Mailboxes Place Task) {first second : Place}
    (different : first ≠ second) (task : Task) :
    (boxes.post first task).take second = (boxes.take second).post first task := by
  unfold post take
  rw [Function.update_of_ne different.symm, Function.update_of_ne different,
    Function.update_comm different]

/-- A task is taken that was posted where nothing waited. -/
theorem take_post_self (boxes : Mailboxes Place Task) {place : Place} (none : boxes place = [])
    (task : Task) : (boxes.post place task).take place = boxes := by
  unfold post take
  rw [Function.update_self, none, Function.update_idem, List.nil_append, List.tail_cons, ← none,
    Function.update_eq_self]

end Places

/-! ### The tasks of one owner -/

section Owners

variable [DecidableEq Owner] (owner : Task → Owner)

def about (boxes : Mailboxes Place Task) (who : Owner) : Mailboxes Place Task :=
  fun place => (boxes place).filter fun task => owner task = who

variable {owner} {boxes : Mailboxes Place Task} {who : Owner} {place : Place} {task : Task}

@[simp] theorem about_empty : (empty : Mailboxes Place Task).about owner who = empty :=
  rfl

theorem about_of_next {rest : List Task} (next : boxes place = task :: rest)
    (own : owner task = who) :
    ∃ others, boxes.about owner who place = task :: others := by
  refine ⟨rest.filter fun task => owner task = who, ?_⟩
  unfold about
  rw [next, List.filter_cons_of_pos (by simpa using own)]

variable [DecidableEq Place]

theorem about_post_own (own : owner task = who) :
    (boxes.post place task).about owner who = (boxes.about owner who).post place task := by
  funext other
  unfold about post
  by_cases same : other = place
  · subst same
    rw [Function.update_self, Function.update_self, List.filter_append,
      List.filter_cons_of_pos (by simpa using own), List.filter_nil]
  · rw [Function.update_of_ne same, Function.update_of_ne same]

theorem about_post_other (other : owner task ≠ who) :
    (boxes.post place task).about owner who = boxes.about owner who := by
  funext spot
  unfold about post
  by_cases same : spot = place
  · subst same
    rw [Function.update_self, List.filter_append,
      List.filter_cons_of_neg (by simpa using other), List.filter_nil, List.append_nil]
  · rw [Function.update_of_ne same]

theorem about_take_own {rest : List Task} (next : boxes place = task :: rest)
    (own : owner task = who) :
    (boxes.take place).about owner who = (boxes.about owner who).take place := by
  funext other
  unfold about take
  by_cases same : other = place
  · subst same
    rw [Function.update_self, Function.update_self, next, List.tail_cons]
    beta_reduce
    rw [next, List.filter_cons_of_pos (by simpa using own), List.tail_cons]
  · rw [Function.update_of_ne same, Function.update_of_ne same]

theorem about_take_other {rest : List Task} (next : boxes place = task :: rest)
    (other : owner task ≠ who) :
    (boxes.take place).about owner who = boxes.about owner who := by
  funext spot
  unfold about take
  by_cases same : spot = place
  · subst same
    rw [Function.update_self, next, List.filter_cons_of_neg (by simpa using other),
      List.tail_cons]
  · rw [Function.update_of_ne same]

end Owners

end Mailboxes

end AChat.Lib
