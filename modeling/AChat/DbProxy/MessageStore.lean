import AChat.DbProxy.MessageService
import AChat.Lib.AutoTable
import AChat.Lib.Interleaving

/-!
Owns the tables and counters that worker threads share when they send messages to
single users: the relation table, the message id counters and the message rows,
with what each operation reads and changes there.

An operation that succeeds is answered from the tables; whether it does is proposed
by the environment. Sessions, audio and unread counters are answered by the
environment alone.
-/

namespace AChat.DbProxy

open Lib (AutoTable Prog Protocol)

/-! ### Relations -/

/-- A row of `IMRelationShip`. -/
structure RelationRow where
  id : Id
  smallId : Id
  bigId : Id
  status : Nat
deriving DecidableEq, Repr

/-- `IMRelationShip`. -/
abbrev RelationTable := AutoTable RelationRow fun row => row.id

namespace RelationTable

def ofPair (smallId bigId : Id) (isAll : Bool) (row : RelationRow) : Bool :=
  row.smallId == smallId && row.bigId == bigId && (isAll || row.status == 0)

/-- `select id .. where smallId = .. and bigId = ..`, without or with `and status = 0`. -/
def select (table : RelationTable) (smallId bigId : Id) (isAll : Bool) : List Id :=
  (table.rows.filter (ofPair smallId bigId isAll)).map fun row => row.id

def activateRow (relationId : Id) (row : RelationRow) : RelationRow :=
  if row.id = relationId then { row with status := 0 } else row

@[simp] theorem activateRow_id (relationId : Id) (row : RelationRow) :
    (activateRow relationId row).id = row.id := by
  unfold activateRow
  split <;> rfl

@[simp] theorem activateRow_smallId (relationId : Id) (row : RelationRow) :
    (activateRow relationId row).smallId = row.smallId := by
  unfold activateRow
  split <;> rfl

@[simp] theorem activateRow_bigId (relationId : Id) (row : RelationRow) :
    (activateRow relationId row).bigId = row.bigId := by
  unfold activateRow
  split <;> rfl

def activate (table : RelationTable) (relationId : Id) : RelationTable :=
  table.update (activateRow relationId) (activateRow_id relationId)

def insert (table : RelationTable) (smallId bigId : Id) : RelationTable :=
  AutoTable.insert table (fun relationId => ⟨relationId, smallId, bigId, 0⟩) fun _ => rfl

theorem mem_select (table : RelationTable) (smallId bigId relationId : Id) (isAll : Bool) :
    relationId ∈ table.select smallId bigId isAll ↔
      ∃ row ∈ table.rows, row.smallId = smallId ∧ row.bigId = bigId ∧
        (isAll = true ∨ row.status = 0) ∧ row.id = relationId := by
  simp [select, ofPair, and_assoc]

theorem select_nodup (table : RelationTable) (smallId bigId : Id) (isAll : Bool) :
    (table.select smallId bigId isAll).Nodup :=
  table.distinct.sublist (List.filter_sublist.map _)

theorem mem_select_insert (table : RelationTable) (smallId bigId relationId : Id) (isAll : Bool)
    (newSmallId newBigId : Id) :
    relationId ∈ (table.insert newSmallId newBigId).select smallId bigId isAll ↔
      relationId ∈ table.select smallId bigId isAll ∨
        newSmallId = smallId ∧ newBigId = bigId ∧ relationId = table.nextKey := by
  simp only [mem_select, insert, AutoTable.mem_insert]
  constructor
  · intro found
    obtain ⟨row, there | rfl, small, big, active, rfl⟩ := found
    · exact .inl ⟨row, there, small, big, active, rfl⟩
    · exact .inr ⟨small, big, rfl⟩
  · intro found
    cases found with
    | inl before =>
        obtain ⟨row, there, rest⟩ := before
        exact ⟨row, .inl there, rest⟩
    | inr new => exact ⟨_, .inr rfl, new.1, new.2.1, .inr rfl, new.2.2.symm⟩

theorem mem_select_activate (table : RelationTable) (smallId bigId relationId active : Id)
    (isAll : Bool) :
    relationId ∈ (table.activate active).select smallId bigId isAll ↔
      relationId ∈ table.select smallId bigId isAll ∨
        relationId = active ∧ relationId ∈ table.select smallId bigId true := by
  simp only [mem_select, activate, AutoTable.mem_update]
  constructor
  · intro found
    obtain ⟨row, ⟨before, there, rfl⟩, small, big, wanted, rfl⟩ := found
    rw [activateRow_smallId] at small
    rw [activateRow_bigId] at big
    rw [activateRow_id]
    by_cases same : before.id = active
    · exact .inr ⟨same, before, there, small, big, .inl trivial, rfl⟩
    · rw [activateRow, if_neg same] at wanted
      exact .inl ⟨before, there, small, big, wanted, rfl⟩
  · intro found
    cases found with
    | inl kept =>
        obtain ⟨row, there, small, big, wanted, rfl⟩ := kept
        refine ⟨_, ⟨row, there, rfl⟩, by simpa, by simpa, ?_, by simp⟩
        unfold activateRow
        split
        · exact .inr rfl
        · exact wanted
    | inr activated =>
        obtain ⟨rfl, row, there, small, big, _, rfl⟩ := activated
        refine ⟨_, ⟨row, there, rfl⟩, by simpa, by simpa, ?_, by simp⟩
        rw [activateRow, if_pos rfl]
        exact .inr rfl

/-- A new row comes last. -/
theorem select_insert (table : RelationTable) (smallId bigId newSmallId newBigId : Id)
    (isAll : Bool) :
    (table.insert newSmallId newBigId).select smallId bigId isAll =
      table.select smallId bigId isAll ++
        if newSmallId = smallId ∧ newBigId = bigId then [table.nextKey] else [] := by
  simp only [select, insert, AutoTable.insert, List.filter_append, List.map_append]
  congr 1
  by_cases same : newSmallId = smallId ∧ newBigId = bigId
  · simp [ofPair, same]
  · rw [if_neg same]
    have other : ofPair smallId bigId isAll ⟨table.nextKey, newSmallId, newBigId, 0⟩ = false := by
      simpa [ofPair] using fun small big => absurd ⟨small, big⟩ same
    simp [other]

/-- No row is moved by being activated. -/
theorem select_activate (table : RelationTable) (smallId bigId relationId : Id) :
    (table.activate relationId).select smallId bigId true = table.select smallId bigId true := by
  have kept : ofPair smallId bigId true ∘ activateRow relationId = ofPair smallId bigId true := by
    funext row
    simp [ofPair]
  simp only [select, activate, AutoTable.update, List.filter_map, List.map_map, kept]
  exact List.map_congr_left fun row _ => activateRow_id relationId row

/-- The pair has one row at most, among all or among the active ones. -/
def OneRow (table : RelationTable) (smallId bigId : Id) (isAll : Bool) : Prop :=
  ∀ relationId ∈ table.select smallId bigId isAll,
    ∀ other ∈ table.select smallId bigId isAll, relationId = other

theorem oneRow_iff_length (table : RelationTable) (smallId bigId : Id) (isAll : Bool) :
    table.OneRow smallId bigId isAll ↔ (table.select smallId bigId isAll).length ≤ 1 := by
  have nodup := table.select_nodup smallId bigId isAll
  unfold OneRow
  generalize table.select smallId bigId isAll = ids at nodup
  cases ids with
  | nil => simp
  | cons first rest =>
      cases rest with
      | nil => simp
      | cons second others =>
          constructor
          · intro oneRow
            have equal := oneRow first (by simp) second (by simp)
            simp [equal] at nodup
          · intro short
            simp at short

/-- A row is the only one of its pair when the pair had none. -/
theorem oneRow_insert {table : RelationTable} {smallId bigId newSmallId newBigId : Id}
    {isAll : Bool} (oneRow : table.OneRow smallId bigId isAll)
    (none : table.select newSmallId newBigId isAll = []) :
    (table.insert newSmallId newBigId).OneRow smallId bigId isAll := by
  intro relationId found other otherFound
  rw [mem_select_insert] at found otherFound
  cases found with
  | inl before =>
      cases otherFound with
      | inl otherBefore => exact oneRow relationId before other otherBefore
      | inr new =>
          rw [← new.1, ← new.2.1, none] at before
          cases before
  | inr new =>
      cases otherFound with
      | inl otherBefore =>
          rw [← new.1, ← new.2.1, none] at otherBefore
          cases otherBefore
      | inr otherNew => exact new.2.2.trans otherNew.2.2.symm

end RelationTable

/-! ### The store -/

structure MessageStore where
  relations : RelationTable
  /-- `msg_id_` of each relation. -/
  counters : Id → Option Nat
  messages : List MessageRow

namespace MessageStore

def empty : MessageStore where
  relations := AutoTable.empty
  counters _ := none
  messages := []

def setCounter (store : MessageStore) (relateId : Id) (count : Nat) : MessageStore :=
  { store with counters := Function.update store.counters relateId (some count) }

/-- `INCRBY` counts from 0 when there is no value. -/
def nextCount (store : MessageStore) (relateId : Id) : Nat :=
  (store.counters relateId).getD 0 + 1

/-- What an operation answers and does, when this answer is proposed. -/
def apply (store : MessageStore) : (op : MessageOp) → op.Reply → op.Reply × MessageStore
  | .selectRelation smallId bigId isAll, .ok _ =>
      (.ok (store.relations.select smallId bigId isAll), store)
  | .activateRelation relationId, .ok _ =>
      (.ok (), { store with relations := store.relations.activate relationId })
  | .insertRelation smallId bigId, .ok _ =>
      (.ok store.relations.nextKey,
        { store with relations := store.relations.insert smallId bigId })
  | .setMsgId relateId, .ok _ => (.ok "OK", store.setCounter relateId 0)
  | .incrMsgId (.relation relateId), .ok _ =>
      (.ok (store.nextCount relateId), store.setCounter relateId (store.nextCount relateId))
  | .insertMessage row, .ok _ => (.ok (), { store with messages := store.messages ++ [row] })
  | _, answer => (answer, store)

end MessageStore

/-- The operations that change the tables. -/
def SharedOp : MessageOp → Prop
  | .activateRelation _ | .insertRelation _ _ | .setMsgId _ | .incrMsgId (.relation _)
  | .insertMessage _ => True
  | _ => False

theorem apply_unshared {op : MessageOp} (unshared : ¬SharedOp op) (store : MessageStore)
    (answer : op.Reply) : (store.apply op answer).2 = store := by
  unfold MessageStore.apply
  split <;> first | rfl | exact absurd trivial unshared

end AChat.DbProxy
