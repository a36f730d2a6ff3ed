import Mathlib.Algebra.BigOperators.Group.List.Basic
import Mathlib.Algebra.Ring.Nat

/-!
Owns sums over the entries of a `Std.TreeMap`, and the lookup lemmas of maps
and sets stated with equality of keys instead of the comparison. A sum changes
by one summand when one entry is inserted, erased or reweighted.
-/

namespace AChat.Lib

open Std

universe u v

variable {α : Type u} {β : Type v} {cmp : α → α → Ordering}
variable [TransCmp cmp] [LawfulEqCmp cmp]

/-! ### Lookups -/

theorem getElem?_insert_ite [DecidableEq α] (map : TreeMap α β cmp) (key probe : α) (value : β) :
    (map.insert key value)[probe]? = if key = probe then some value else map[probe]? := by
  rw [TreeMap.getElem?_insert]
  simp only [LawfulEqCmp.compare_eq_iff_eq]

theorem getElem?_erase_ite [DecidableEq α] (map : TreeMap α β cmp) (key probe : α) :
    (map.erase key)[probe]? = if key = probe then none else map[probe]? := by
  rw [TreeMap.getElem?_erase]
  simp only [LawfulEqCmp.compare_eq_iff_eq]

omit [LawfulEqCmp cmp] in
theorem isEmpty_iff_getElem? (map : TreeMap α β cmp) :
    map.isEmpty = true ↔ ∀ key : α, map[key]? = none := by
  rw [TreeMap.isEmpty_iff_forall_not_mem]
  refine forall_congr' fun key => ?_
  rw [TreeMap.mem_iff_isSome_getElem?, Bool.not_eq_true, Option.isSome_eq_false_iff,
    Option.isNone_iff_eq_none]

theorem treeSet_mem_insert (set : TreeSet α cmp) (key probe : α) :
    probe ∈ set.insert key ↔ key = probe ∨ probe ∈ set := by
  rw [TreeSet.mem_insert, LawfulEqCmp.compare_eq_iff_eq]

theorem treeSet_mem_erase (set : TreeSet α cmp) (key probe : α) :
    probe ∈ set.erase key ↔ key ≠ probe ∧ probe ∈ set := by
  rw [TreeSet.mem_erase, ne_eq, LawfulEqCmp.compare_eq_iff_eq]

omit [TransCmp cmp] [LawfulEqCmp cmp] in
theorem find?_of_ordered {keys : List α} (ordered : keys.Pairwise fun a b => cmp a b = .lt)
    {holds : α → Bool} {key : α} (member : key ∈ keys) (own : holds key = true)
    (first : ∀ other ∈ keys, holds other = true → cmp other key ≠ .lt) :
    keys.find? holds = some key := by
  induction keys with
  | nil => cases member
  | cons head rest inductionHypothesis =>
      obtain ⟨below, orderedRest⟩ := List.pairwise_cons.mp ordered
      rcases List.mem_cons.mp member with rfl | later
      · rw [List.find?_cons_of_pos own]
      · have skipped : ¬holds head = true :=
          fun held => first head List.mem_cons_self held (below key later)
        rw [List.find?_cons_of_neg skipped]
        exact inductionHypothesis orderedRest later
          fun other among => first other (List.mem_cons_of_mem head among)

/-- A search in the order of a set finds the first key that qualifies. -/
theorem treeSet_find?_toList {set : TreeSet α cmp} {holds : α → Bool} {key : α}
    (member : key ∈ set) (own : holds key = true)
    (first : ∀ other ∈ set, holds other = true → cmp other key ≠ .lt) :
    set.toList.find? holds = some key :=
  find?_of_ordered TreeSet.ordered_toList (TreeSet.mem_toList.mpr member) own
    fun other among => first other (TreeSet.mem_toList.mp among)

/-! ### Sums -/

/-- The sum of `weight` over the entries of a map. -/
def mapSum (weight : α → β → Nat) (map : TreeMap α β cmp) : Nat :=
  (map.toList.map fun entry => weight entry.1 entry.2).sum

omit [LawfulEqCmp cmp] in
theorem toList_nodup (map : TreeMap α β cmp) : map.toList.Nodup := by
  refine TreeMap.distinct_keys_toList.imp fun {first second} different equal => different ?_
  rw [equal]
  exact ReflCmp.compare_self

/-- Maps with the same lookups have the same sums. -/
theorem mapSum_congr_getElem? (weight : α → β → Nat) {left right : TreeMap α β cmp}
    (agree : ∀ key : α, left[key]? = right[key]?) : mapSum weight left = mapSum weight right := by
  have permutation : left.toList.Perm right.toList := by
    rw [List.perm_ext_iff_of_nodup (toList_nodup left) (toList_nodup right)]
    intro entry
    rw [← Prod.eta entry, TreeMap.mem_toList_iff_getElem?_eq_some,
      TreeMap.mem_toList_iff_getElem?_eq_some, agree]
  exact (permutation.map _).sum_eq

theorem mapSum_congr {first second : α → β → Nat} {map : TreeMap α β cmp}
    (agree : ∀ key value, map[key]? = some value → first key value = second key value) :
    mapSum first map = mapSum second map := by
  unfold mapSum
  congr 1
  refine List.map_congr_left fun entry member => ?_
  exact agree entry.1 entry.2 (TreeMap.mem_toList_iff_getElem?_eq_some.mp member)

theorem mapSum_of_isEmpty (weight : α → β → Nat) {map : TreeMap α β cmp}
    (empty : map.isEmpty = true) : mapSum weight map = 0 := by
  have none : ∀ key : α, map[key]? = (∅ : TreeMap α β cmp)[key]? := by
    intro key
    rw [(isEmpty_iff_getElem? map).mp empty key]
    simp
  rw [mapSum_congr_getElem? weight none]
  rfl

section Entries

variable [DecidableEq α]

/-- A fresh entry adds its weight. -/
theorem mapSum_insert_of_none (weight : α → β → Nat) {map : TreeMap α β cmp} {key : α}
    (value : β) (fresh : map[key]? = none) :
    mapSum weight (map.insert key value) = mapSum weight map + weight key value := by
  have permutation := TreeMap.toList_insert_perm (t := map) (k := key) (v := value)
  have keepAll : map.toList.filter (fun entry => !(key == entry.1)) = map.toList := by
    rw [List.filter_eq_self]
    intro entry member
    have found : map[entry.1]? = some entry.2 :=
      TreeMap.mem_toList_iff_getElem?_eq_some.mp member
    have different : key ≠ entry.1 := by
      intro equal
      rw [← equal, fresh] at found
      cases found
    simpa using different
  have total := (permutation.map fun entry => weight entry.1 entry.2).sum_eq
  simp only [decide_not, Bool.decide_eq_true, keepAll, List.map_cons, List.sum_cons] at total
  unfold mapSum
  omega

/-- Erasing an entry takes its weight away. -/
theorem mapSum_erase_of_some (weight : α → β → Nat) {map : TreeMap α β cmp} {key : α} {value : β}
    (found : map[key]? = some value) :
    mapSum weight (map.erase key) + weight key value = mapSum weight map := by
  have absent : (map.erase key)[key]? = none := by simp
  rw [← mapSum_insert_of_none weight value absent]
  refine mapSum_congr_getElem? weight fun probe => ?_
  by_cases same : key = probe
  · subst same
    simp [found]
  · simp [getElem?_insert_ite, getElem?_erase_ite, same]

/-- Replacing an entry exchanges its weight. -/
theorem mapSum_insert_of_some (weight : α → β → Nat) {map : TreeMap α β cmp} {key : α}
    {value : β} (other : β) (found : map[key]? = some value) :
    mapSum weight (map.insert key other) + weight key value =
      mapSum weight map + weight key other := by
  have absent : (map.erase key)[key]? = none := by simp
  have inserted := mapSum_insert_of_none weight other absent
  have erased := mapSum_erase_of_some weight found
  have same : mapSum weight ((map.erase key).insert key other) =
      mapSum weight (map.insert key other) := by
    refine mapSum_congr_getElem? weight fun probe => ?_
    rw [getElem?_insert_ite, getElem?_insert_ite, getElem?_erase_ite]
    split <;> rfl
  omega

theorem mapSum_erase_of_none (weight : α → β → Nat) {map : TreeMap α β cmp} {key : α}
    (absent : map[key]? = none) : mapSum weight (map.erase key) = mapSum weight map := by
  refine mapSum_congr_getElem? weight fun probe => ?_
  by_cases same : key = probe
  · subst same
    simp [absent]
  · simp [getElem?_erase_ite, same]

/-- Reweighting one entry changes the sum by the difference of its weights. -/
theorem mapSum_reweight (before after : α → β → Nat) {map : TreeMap α β cmp} {key : α} {value : β}
    (found : map[key]? = some value)
    (agree : ∀ other otherValue, map[other]? = some otherValue → other ≠ key →
      after other otherValue = before other otherValue) :
    mapSum after map + before key value = mapSum before map + after key value := by
  have rest : mapSum after (map.erase key) = mapSum before (map.erase key) := by
    apply mapSum_congr
    intro other otherValue member
    rw [getElem?_erase_ite] at member
    split at member
    · cases member
    · rename_i different
      exact agree other otherValue member (Ne.symm different)
  have afterSum := mapSum_erase_of_some after found
  have beforeSum := mapSum_erase_of_some before found
  omega

end Entries

end AChat.Lib
