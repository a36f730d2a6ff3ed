import Mathlib.Data.Nat.Basic
import AChat.DbProxy.MessageStore

/-!
Contract: one active relation for two users, whatever threads ask for it.

The select that finds no row and the statement that inserts one are separate, and
nothing keeps another call from inserting one in between. Calls that do not come
between agree on the first row of the pair: it is the one that is activated, and
rows are only added behind it.

Owns: runs of `getRelationId` for two users, the condition under which their
relation is unique, and a run in which it is not.
-/

namespace AChat.DbProxy

open Lib (Prog Pool PoolEvent Thread Meets run)

namespace RelationUniqueness

/-! ### Runs -/

/-- Who asks for the relation. -/
inductive Caller where
  | first
  | second
deriving DecidableEq, Repr

abbrev RelationThread := Thread Caller MessageOp MessageOp.Reply Id
abbrev RelationPool := Pool MessageStore Caller MessageOp MessageOp.Reply Id
abbrev RelationEvent := PoolEvent Caller MessageOp MessageOp.Reply

def body (userAId userBId : Id) : Caller → MessageProg Id
  | .first => RelationModel.getRelationId userAId userBId true
  | .second => RelationModel.getRelationId userBId userAId true

def effect : Lib.Effect MessageStore MessageOp MessageOp.Reply :=
  fun _ store op answer => store.apply op answer

def step (userAId userBId : Id) : RelationPool → RelationEvent → RelationPool :=
  Pool.step (body userAId userBId) effect

/-- The rows of two users, of any status. -/
def allRows (userAId userBId : Id) (store : MessageStore) : List Id :=
  store.relations.select (min userAId userBId) (max userAId userBId) true

/-- The active rows of two users. -/
def activeRows (userAId userBId : Id) (store : MessageStore) : List Id :=
  store.relations.select (min userAId userBId) (max userAId userBId) false

/-! ### The condition -/

/-- The call has looked for a row on the master, and inserts one next. -/
def aboutToInsert (running : RelationThread) : Bool :=
  match running.prog with
  | .call (.insertRelation _ _) _ => true
  | _ => false

def inserts : (op : MessageOp) → op.Reply → Bool
  | .insertRelation _ _, .ok _ => true
  | _, _ => false

def masterSelectFails : (op : MessageOp) → op.Reply → Bool
  | .selectRelation _ _ true, .failed => true
  | _, _ => false

/-- The select on the master does not fail, and a row is inserted only while no other call stands
between its select on the master and its insert. -/
def Undisturbed (pool : RelationPool) : RelationEvent → Prop
  | .spawn _ => True
  | .advance index answers =>
      match pool.threads[index]? with
      | some ⟨_, .call op _⟩ =>
          masterSelectFails op (answers op) = false ∧
            (inserts op (answers op) = true →
              ∀ other ∈ pool.threads.eraseIdx index, aboutToInsert other = false)
      | _ => True

/-- No row but the first one is active. -/
def FirstActive (userAId userBId : Id) (store : MessageStore) : Prop :=
  ∀ relationId ∈ activeRows userAId userBId store,
    (allRows userAId userBId store).head? = some relationId

variable {userAId userBId : Id} {store later : MessageStore}

theorem FirstActive.equal (first : FirstActive userAId userBId store) {relationId other : Id}
    (active : relationId ∈ activeRows userAId userBId store)
    (otherActive : other ∈ activeRows userAId userBId store) : relationId = other :=
  Option.some.inj ((first relationId active).symm.trans (first other otherActive))

theorem FirstActive.length_le (first : FirstActive userAId userBId store) :
    (activeRows userAId userBId store).length ≤ 1 :=
  (RelationTable.oneRow_iff_length _ _ _ _).mp fun _ active _ otherActive =>
    first.equal active otherActive

/-! ### What a statement changes -/

/-- Rows are added behind the others, and active rows stay active. -/
structure Grows (userAId userBId : Id) (store later : MessageStore) : Prop where
  rows : allRows userAId userBId store <+: allRows userAId userBId later
  active : ∀ relationId ∈ activeRows userAId userBId store,
    relationId ∈ activeRows userAId userBId later

theorem Grows.head (grows : Grows userAId userBId store later) {relationId : Id}
    (head : (allRows userAId userBId store).head? = some relationId) :
    (allRows userAId userBId later).head? = some relationId := by
  obtain ⟨added, appended⟩ := grows.rows
  rw [← appended, List.head?_append, head]
  rfl

theorem apply_grows (store : MessageStore) (op : MessageOp) (answer : op.Reply) :
    Grows userAId userBId store (store.apply op answer).2 := by
  have same : Grows userAId userBId store store := ⟨List.prefix_refl _, fun _ => id⟩
  unfold MessageStore.apply
  split
  · exact same
  · refine ⟨?_, fun relationId active => ?_⟩
    · simp [allRows, RelationTable.select_activate]
    · exact (RelationTable.mem_select_activate _ _ _ _ _ _).mpr (.inl active)
  · refine ⟨?_, fun relationId active => ?_⟩
    · simp [allRows, RelationTable.select_insert]
    · exact (RelationTable.mem_select_insert _ _ _ _ _ _ _).mpr (.inl active)
  · exact ⟨same.rows, same.active⟩
  · exact ⟨same.rows, same.active⟩
  · exact ⟨same.rows, same.active⟩
  · exact same

theorem allRows_apply {op : MessageOp} {answer : op.Reply} (quiet : inserts op answer = false)
    (store : MessageStore) :
    allRows userAId userBId (store.apply op answer).2 = allRows userAId userBId store := by
  unfold MessageStore.apply
  split
  · rfl
  · exact RelationTable.select_activate _ _ _ _
  · cases quiet
  · rfl
  · rfl
  · rfl
  · rfl

/-! ### The stages of a call -/

/-- Where a call stands. -/
inductive Stage where
  | look
  | lookOnMaster
  | insert
  | activate (relationId : Id)
  | reset (relationId : Id)
  | finish (relationId : Id)

/-- `getRelationId` for users who have ids. -/
def lookForRow (smallId bigId : Id) (add : Bool) : MessageProg Id := do
  match ← issue (.selectRelation smallId bigId false) with
  | .noConnection => return invalidValue
  | .failed => if add then RelationModel.addRelation smallId bigId else return invalidValue
  | .ok rows =>
      if lastId rows = invalidValue ∧ add = true then RelationModel.addRelation smallId bigId
      else return lastId rows

/-- `addRelation` when it found no row. -/
def insertRow (smallId bigId : Id) : MessageProg Id := do
  match ← issue (.insertRelation smallId bigId) with
  | .ok relationId =>
      if relationId ≠ invalidValue then
        let _ ← resetMsgId relationId
        return relationId
      else return relationId
  | _ => return invalidValue

/-- `addRelation` when it found a row. -/
def activateRow (relationId : Id) : MessageProg Id := do
  match ← issue (.activateRelation relationId) with
  | .ok _ => return relationId
  | _ => return invalidValue

namespace Stage

/-- The rest of the program. -/
def prog (userAId userBId : Id) : Stage → MessageProg Id
  | .look => lookForRow (min userAId userBId) (max userAId userBId) true
  | .lookOnMaster => RelationModel.addRelation (min userAId userBId) (max userAId userBId)
  | .insert => insertRow (min userAId userBId) (max userAId userBId)
  | .activate relationId => activateRow relationId
  | .reset relationId => do
      let _ ← resetMsgId relationId
      return relationId
  | .finish relationId => return relationId

/-- What a call knows of the rows there. -/
def Knows (userAId userBId : Id) (store : MessageStore) : Stage → Prop
  | .look | .lookOnMaster => True
  | .insert => allRows userAId userBId store = []
  | .activate relationId => (allRows userAId userBId store).head? = some relationId
  | .reset relationId => relationId ∈ activeRows userAId userBId store
  | .finish relationId =>
      relationId = invalidValue ∨ relationId ∈ activeRows userAId userBId store

variable {stage : Stage}

/-- Other calls leave a call what it knows, unless they insert a row before it does. -/
theorem Knows.grow (knows : stage.Knows userAId userBId store)
    (grows : Grows userAId userBId store later)
    (same : stage = .insert → allRows userAId userBId later = allRows userAId userBId store) :
    stage.Knows userAId userBId later := by
  cases stage with
  | look => trivial
  | lookOnMaster => trivial
  | insert => exact (same rfl).trans knows
  | activate relationId => exact grows.head knows
  | reset relationId => exact grows.active relationId knows
  | finish relationId => exact knows.imp_right (grows.active relationId)

/-- The first row of the pair, which is active. -/
theorem insert_firstActive (none : allRows userAId userBId store = [])
    (first : FirstActive userAId userBId store) :
    FirstActive userAId userBId
      { store with
        relations := store.relations.insert (min userAId userBId) (max userAId userBId) } := by
  intro relationId active
  have rows : (store.relations.insert (min userAId userBId) (max userAId userBId)).select
      (min userAId userBId) (max userAId userBId) true = [store.relations.nextKey] := by
    rw [RelationTable.select_insert, if_pos ⟨rfl, rfl⟩]
    exact congrArg (· ++ _) none
  show (RelationTable.select _ _ _ true).head? = _
  rw [rows]
  rcases (RelationTable.mem_select_insert _ _ _ _ _ _ _).mp active with before | ⟨_, _, rfl⟩
  · have head := first relationId before
    rw [none] at head
    cases head
  · rfl

theorem activate_firstActive {relationId : Id}
    (head : (allRows userAId userBId store).head? = some relationId)
    (first : FirstActive userAId userBId store) :
    FirstActive userAId userBId
      { store with relations := store.relations.activate relationId } := by
  intro other active
  show (RelationTable.select _ _ _ true).head? = _
  rw [RelationTable.select_activate]
  rcases (RelationTable.mem_select_activate _ _ _ _ _ _).mp active with before | ⟨rfl, _⟩
  · exact first other before
  · exact head

/-- One statement of a call, and what the call knows after it. -/
theorem advance {op : MessageOp} {next : op.Reply → MessageProg Id}
    (stands : stage.prog userAId userBId = .call op next)
    (knows : stage.Knows userAId userBId store) (first : FirstActive userAId userBId store)
    (answer : op.Reply) (answered : masterSelectFails op answer = false) :
    FirstActive userAId userBId (store.apply op answer).2 ∧
      ∃ after : Stage, next (store.apply op answer).1 = after.prog userAId userBId ∧
        after.Knows userAId userBId (store.apply op answer).2 := by
  cases stage with
  | look =>
      cases stands
      cases answer with
      | noConnection => exact ⟨first, .finish invalidValue, rfl, .inl rfl⟩
      | failed => exact ⟨first, .lookOnMaster, rfl, trivial⟩
      | ok proposed =>
          by_cases none : lastId (activeRows userAId userBId store) = invalidValue
          · exact ⟨first, .lookOnMaster, if_pos ⟨none, rfl⟩, trivial⟩
          · refine ⟨first, .finish (lastId (activeRows userAId userBId store)),
              if_neg fun both => none both.1, .inr ?_⟩
            unfold lastId at none ⊢
            cases last : (activeRows userAId userBId store).getLast? with
            | none => rw [last] at none; exact absurd rfl none
            | some relationId => exact List.mem_of_getLast? last
  | lookOnMaster =>
      cases stands
      cases answer with
      | noConnection => exact ⟨first, .finish invalidValue, rfl, .inl rfl⟩
      | failed => cases answered
      | ok proposed =>
          cases found : allRows userAId userBId store with
          | nil =>
              refine ⟨first, .insert, ?_, found⟩
              change (Prog.done (Answer.ok (allRows userAId userBId store))).bind _ = _
              rw [found]
              rfl
          | cons relationId rest =>
              refine ⟨first, .activate relationId, ?_, congrArg List.head? found⟩
              change (Prog.done (Answer.ok (allRows userAId userBId store))).bind _ = _
              rw [found]
              rfl
  | insert =>
      cases stands
      cases answer with
      | noConnection => exact ⟨first, .finish invalidValue, rfl, .inl rfl⟩
      | failed => exact ⟨first, .finish invalidValue, rfl, .inl rfl⟩
      | ok proposed =>
          refine ⟨insert_firstActive knows first, ?_⟩
          have active : store.relations.nextKey ∈ activeRows userAId userBId
              (store.apply (.insertRelation (min userAId userBId) (max userAId userBId))
                (.ok proposed)).2 :=
            (RelationTable.mem_select_insert _ _ _ _ _ _ _).mpr (.inr ⟨rfl, rfl, rfl⟩)
          by_cases valid : store.relations.nextKey ≠ invalidValue
          · exact ⟨.reset store.relations.nextKey, if_pos valid, active⟩
          · exact ⟨.finish store.relations.nextKey, if_neg valid, .inr active⟩
  | activate relationId =>
      cases stands
      cases answer with
      | noConnection => exact ⟨first, .finish invalidValue, rfl, .inl rfl⟩
      | failed => exact ⟨first, .finish invalidValue, rfl, .inl rfl⟩
      | ok done =>
          refine ⟨activate_firstActive knows first, .finish relationId, rfl, .inr ?_⟩
          exact (RelationTable.mem_select_activate _ _ _ _ _ _).mpr
            (.inr ⟨rfl, List.mem_of_mem_head? knows⟩)
  | reset relationId =>
      cases stands
      cases answer with
      | noConnection | failed | ok reply => exact ⟨first, .finish relationId, rfl, .inr knows⟩
  | finish relationId => cases stands

theorem of_body (userAId userBId : Id) (caller : Caller) :
    ∃ stage : Stage, body userAId userBId caller = stage.prog userAId userBId ∧
      ∀ store, stage.Knows userAId userBId store := by
  have asked : ∀ first second : Id, min first second = min userAId userBId →
      max first second = max userAId userBId →
      ∃ stage : Stage, RelationModel.getRelationId first second true =
        stage.prog userAId userBId ∧ ∀ store, stage.Knows userAId userBId store := by
    intro first second small big
    unfold RelationModel.getRelationId
    split
    · exact ⟨.finish invalidValue, rfl, fun _ => .inl rfl⟩
    · dsimp only
      rw [small, big]
      exact ⟨.look, rfl, fun _ => trivial⟩
  cases caller with
  | first => exact asked userAId userBId rfl rfl
  | second => exact asked userBId userAId (min_comm _ _) (max_comm _ _)

theorem ne_insert {running : RelationThread}
    (stands : running.prog = stage.prog userAId userBId)
    (elsewhere : aboutToInsert running = false) : stage ≠ .insert := by
  rintro rfl
  rw [aboutToInsert, stands] at elsewhere
  cases elsewhere

/-- A call returns an active row, if it returns one. -/
theorem active_of_finished {relationId : Id}
    (stands : Prog.done relationId = stage.prog userAId userBId)
    (knows : stage.Knows userAId userBId store) :
    relationId = invalidValue ∨ relationId ∈ activeRows userAId userBId store := by
  cases stage with
  | finish returned =>
      cases stands
      exact knows
  | look | lookOnMaster | insert | activate | reset => cases stands

end Stage

/-! ### All calls -/

/-- The first row alone is active, and every call stands at a stage whose facts hold. -/
structure Sound (userAId userBId : Id) (pool : RelationPool) : Prop where
  first : FirstActive userAId userBId pool.store
  stands : ∀ (index : Nat) (running : RelationThread), pool.threads[index]? = some running →
    ∃ stage : Stage, running.prog = stage.prog userAId userBId ∧
      stage.Knows userAId userBId pool.store

theorem Sound.step {pool : RelationPool} {event : RelationEvent}
    (sound : Sound userAId userBId pool) (undisturbed : Undisturbed pool event) :
    Sound userAId userBId (RelationUniqueness.step userAId userBId pool event) := by
  cases event with
  | spawn caller =>
      refine ⟨sound.first, ?_⟩
      intro index running found
      rw [RelationUniqueness.step, Pool.step, List.getElem?_append] at found
      split at found
      · exact sound.stands index running found
      · obtain ⟨_, rfl⟩ := List.getElem?_eq_some_iff.mp found
        obtain ⟨stage, same, knows⟩ := Stage.of_body userAId userBId caller
        exact ⟨stage, by simpa using same, knows _⟩
  | advance index answers =>
      unfold RelationUniqueness.step Pool.step
      simp only
      split
      · rename_i task op next found
        simp only [Undisturbed, found] at undisturbed
        obtain ⟨answered, alone⟩ := undisturbed
        obtain ⟨stage, same, knows⟩ := sound.stands index _ found
        obtain ⟨first, after, goesOn, knowsAfter⟩ :=
          Stage.advance same.symm knows sound.first (answers op) answered
        refine ⟨first, ?_⟩
        intro other running there
        by_cases own : index = other
        · subst own
          have inside := (List.getElem?_eq_some_iff.mp found).1
          rw [List.getElem?_set_self inside] at there
          cases there
          exact ⟨after, goesOn, knowsAfter⟩
        · rw [List.getElem?_set_ne own] at there
          obtain ⟨otherStage, otherSame, otherKnows⟩ := sound.stands other running there
          refine ⟨otherStage, otherSame, otherKnows.grow (apply_grows _ _ _) fun waits => ?_⟩
          -- A call that is about to insert has kept all others from inserting.
          apply allRows_apply
          by_contra added
          have member : running ∈ pool.threads.eraseIdx index :=
            List.mem_eraseIdx_iff_getElem?.mpr ⟨other, Ne.symm own, there⟩
          exact Stage.ne_insert otherSame (alone (by simpa using added) running member) waits
      · exact sound

/-- In every run of undisturbed calls there is one active row at most, and the calls that succeed
return the same id. -/
theorem relation_unique (userAId userBId : Id) (start : MessageStore)
    (first : FirstActive userAId userBId start) (events : List RelationEvent)
    (undisturbed : Meets (step userAId userBId) Undisturbed ⟨start, []⟩ events) :
    let last := run (step userAId userBId) ⟨start, []⟩ events
    (activeRows userAId userBId last.store).length ≤ 1 ∧
      ∀ index other caller otherCaller relationId otherId,
        last.Finished index caller relationId → last.Finished other otherCaller otherId →
        relationId ≠ invalidValue → otherId ≠ invalidValue → relationId = otherId := by
  have sound : Sound userAId userBId (run (step userAId userBId) ⟨start, []⟩ events) :=
    (Lib.reach_run events undisturbed).invariant (Sound userAId userBId)
      ⟨first, fun _ _ found => by simp at found⟩ fun _ _ holds met => holds.step met
  refine ⟨sound.first.length_le, ?_⟩
  intro index other caller otherCaller relationId otherId finished otherFinished valid otherValid
  have returned : ∀ index caller value, Pool.Finished (run (step userAId userBId) ⟨start, []⟩
      events) index caller value → value ≠ invalidValue →
        value ∈ activeRows userAId userBId (run (step userAId userBId) ⟨start, []⟩ events).store :=
    fun index caller value finished valid => by
      obtain ⟨stage, same, knows⟩ := sound.stands index _ finished
      exact (Stage.active_of_finished same knows).resolve_left valid
  exact sound.first.equal (returned index caller relationId finished valid)
    (returned other otherCaller otherId otherFinished otherValid)

/-- No select can be read. -/
def unreadable : (op : MessageOp) → op.Reply
  | .selectRelation _ _ _ => .failed
  | op => succeeding op

/-- Two calls at once: the second one looks on the master after the row of the first one is in. A
third call cannot read the slave, and finds the row on the master. -/
def oneInsertsAlone : List RelationEvent :=
  [.spawn .first, .spawn .second, .advance 0 succeeding, .advance 1 succeeding,
    .advance 0 succeeding, .advance 0 succeeding, .advance 1 succeeding, .spawn .first,
    .advance 2 unreadable, .advance 1 succeeding, .advance 0 succeeding,
    .advance 2 succeeding, .advance 2 succeeding]

theorem relation_unique_oneInsertsAlone :
    let last := run (step 1 2) ⟨.empty, []⟩ oneInsertsAlone
    last.Finished 0 .first 1 ∧ last.Finished 1 .second 1 ∧ last.Finished 2 .first 1 ∧
    (activeRows 1 2 last.store).length ≤ 1 ∧
      ∀ index other caller otherCaller relationId otherId,
        last.Finished index caller relationId → last.Finished other otherCaller otherId →
        relationId ≠ invalidValue → otherId ≠ invalidValue → relationId = otherId := by
  refine ⟨rfl, rfl, rfl, relation_unique 1 2 .empty nofun oneInsertsAlone ?_⟩
  exact ⟨trivial, trivial, ⟨rfl, nofun⟩, ⟨rfl, nofun⟩, ⟨rfl, nofun⟩, ⟨rfl, fun _ => by decide⟩,
    ⟨rfl, nofun⟩, trivial, ⟨rfl, nofun⟩, ⟨rfl, nofun⟩, ⟨rfl, nofun⟩, ⟨rfl, nofun⟩,
    ⟨rfl, nofun⟩, trivial⟩

/-! ### Two first calls -/

/-- Both threads look for a row before one of them inserts it. -/
def bothLookFirst : List RelationEvent :=
  [.spawn .first, .spawn .second, .advance 0 succeeding, .advance 1 succeeding,
    .advance 0 succeeding, .advance 1 succeeding, .advance 0 succeeding, .advance 1 succeeding,
    .advance 0 succeeding, .advance 1 succeeding]

theorem two_active_relations :
    let last := run (step 1 2) ⟨.empty, []⟩ bothLookFirst
    activeRows 1 2 last.store = [1, 2] ∧ last.Finished 0 .first 1 ∧ last.Finished 1 .second 2 :=
  ⟨rfl, rfl, rfl⟩

end RelationUniqueness

end AChat.DbProxy
