import Mathlib.Data.List.Nodup

/-!
Owns tables whose key counts up by itself: no key is given twice, and the rows can
be changed only in their other columns.
-/

namespace AChat.Lib

structure AutoTable (Row : Type) (key : Row → Nat) where
  rows : List Row
  nextKey : Nat
  positive : 0 < nextKey
  fresh : ∀ row ∈ rows, key row < nextKey
  distinct : (rows.map key).Nodup

namespace AutoTable

variable {Row : Type} {key : Row → Nat}

def empty : AutoTable Row key where
  rows := []
  nextKey := 1
  positive := Nat.one_pos
  fresh := by simp
  distinct := by simp

def insert (table : AutoTable Row key) (make : Nat → Row) (keyed : ∀ next, key (make next) = next) :
    AutoTable Row key where
  rows := table.rows ++ [make table.nextKey]
  nextKey := table.nextKey + 1
  positive := Nat.succ_pos _
  fresh := by
    intro row member
    cases List.mem_append.mp member with
    | inl there => exact Nat.lt_succ_of_lt (table.fresh row there)
    | inr new =>
        rw [List.mem_singleton.mp new, keyed]
        exact Nat.lt_succ_self _
  distinct := by
    rw [List.map_append, List.map_singleton, keyed]
    apply List.Nodup.append table.distinct (List.nodup_singleton _)
    intro used there new
    obtain ⟨row, member, same⟩ := List.mem_map.mp there
    have below := table.fresh row member
    rw [List.mem_singleton.mp new] at same
    exact absurd same (Nat.ne_of_lt below)

def update (table : AutoTable Row key) (change : Row → Row)
    (keeps : ∀ row, key (change row) = key row) : AutoTable Row key where
  rows := table.rows.map change
  nextKey := table.nextKey
  positive := table.positive
  fresh := by
    intro row member
    obtain ⟨before, there, rfl⟩ := List.mem_map.mp member
    rw [keeps]
    exact table.fresh before there
  distinct := by
    rw [List.map_map]
    exact (List.map_congr_left fun row _ => keeps row) ▸ table.distinct

theorem mem_insert (table : AutoTable Row key) {make : Nat → Row}
    {keyed : ∀ next, key (make next) = next} {row : Row} :
    row ∈ (table.insert make keyed).rows ↔ row ∈ table.rows ∨ row = make table.nextKey :=
  List.mem_append.trans (or_congr_right List.mem_singleton)

theorem mem_update (table : AutoTable Row key) {change : Row → Row}
    {keeps : ∀ row, key (change row) = key row} {row : Row} :
    row ∈ (table.update change keeps).rows ↔ ∃ before ∈ table.rows, change before = row :=
  List.mem_map

end AutoTable

end AChat.Lib
