import Mathlib.Data.List.Sort
import Mathlib.Data.List.TakeWhile

/-!
Owns pages of a list that is sorted from the greatest key down: what lies at or below a cursor,
cut off after a number of items.

A page that starts below the last item of another one goes on with what a longer page would have
had. The sort comes out as the reversed list where the items are given from the least up.
-/

namespace AChat.Lib

universe u

variable {α : Type u}

/-! ### Sorting -/

/-- Items that come in the opposite order are reversed by the sort. -/
theorem insertionSort_eq_reverse {relation : α → α → Prop} [DecidableRel relation] {items : List α}
    (opposite : items.Pairwise fun first second => ¬relation first second) :
    items.insertionSort relation = items.reverse := by
  induction items with
  | nil => rfl
  | cons item rest inductionHypothesis =>
      have later := (List.pairwise_cons.mp opposite).1
      rw [List.insertionSort_cons, inductionHypothesis opposite.of_cons, List.reverse_cons,
        List.orderedInsert_eq_take_drop]
      have all : ∀ other ∈ rest.reverse, decide ¬relation item other := by
        intro other member
        exact decide_eq_true (later other (List.mem_reverse.mp member))
      rw [List.takeWhile_eq_self_iff.mpr all, List.dropWhile_eq_nil_iff.mpr all]

/-- A relation of the items and the order of their numbers. -/
theorem pairwise_zipIdx {relation : α → α → Prop} {items : List α} (holds : items.Pairwise relation)
    (start : Nat) :
    (items.zipIdx start).Pairwise fun first second =>
      relation first.1 second.1 ∧ first.2 < second.2 := by
  induction holds generalizing start with
  | nil => exact .nil
  | @cons item rest before _ inductionHypothesis =>
      refine .cons ?_ (inductionHypothesis (start + 1))
      intro numbered member
      have bounds := List.mem_zipIdx member
      exact ⟨before _ (List.fst_mem_of_mem_zipIdx member), bounds.1⟩

theorem map_fst_filter_zipIdx (keeps : α → Bool) (items : List α) (start : Nat) :
    ((items.zipIdx start).filter fun numbered => keeps numbered.1).map Prod.fst =
      items.filter keeps := by
  have mapped := List.filter_map (p := keeps) (f := Prod.fst) (l := items.zipIdx start)
  rw [List.zipIdx_map_fst] at mapped
  exact mapped.symm

/-! ### Pages -/

/-- The first `count` items whose keys are kept. -/
def page (key : α → Nat) (items : List α) (keeps : Nat → Bool) (count : Nat) : List α :=
  (items.filter fun item => keeps (key item)).take count

section Pages

variable {key : α → Nat} {items : List α} {keeps : Nat → Bool} {count : Nat}

/-- What lies below an item of a sorted list comes after it. -/
theorem filter_below {front rest : List α} {item : α}
    (descending : (front ++ item :: rest).Pairwise fun first second => key second < key first) :
    (front ++ item :: rest).filter (fun other => key other < key item) = rest := by
  obtain ⟨_, fromItem, across⟩ := List.pairwise_append.mp descending
  have above : front.filter (fun other => key other < key item) = [] := by
    apply List.filter_eq_nil_iff.mpr
    intro other member
    have higher := across other member item List.mem_cons_self
    simp only [decide_eq_true_eq]
    omega
  have below : rest.filter (fun other => key other < key item) = rest := by
    apply List.filter_eq_self.mpr
    intro other member
    exact decide_eq_true (List.rel_of_pairwise_cons fromItem member)
  rw [List.filter_append, above, List.nil_append,
    List.filter_cons_of_neg (by simp only [decide_eq_true_eq, lt_irrefl, not_false_iff]), below]

/-- A longer page goes on below the last item of the shorter one. -/
theorem page_append (descending : items.Pairwise fun first second => key second < key first)
    (closed : ∀ {low high}, low ≤ high → keeps high = true → keeps low = true) {oldest : α}
    (last : (page key items keeps count).getLast? = some oldest) (more : Nat) :
    page key items keeps (count + more) =
      page key items keeps count ++ page key items (fun other => other < key oldest) more := by
  have visible : (items.filter fun item => keeps (key item)).Pairwise
      fun first second => key second < key first := descending.filter _
  obtain ⟨front, whole⟩ := List.getLast?_eq_some_iff.mp last
  rw [page] at whole
  have member : oldest ∈ items.filter fun item => keeps (key item) := by
    apply List.mem_of_mem_take
    rw [whole]
    exact List.mem_concat_self
  have inside : keeps (key oldest) = true := (List.mem_filter.mp member).2
  have parts : (items.filter fun item => keeps (key item)) =
      front ++ oldest :: (items.filter fun item => keeps (key item)).drop count := by
    conv_lhs => rw [← List.take_append_drop count (items.filter fun item => keeps (key item))]
    rw [whole, List.append_assoc]
    rfl
  have rest : items.filter (fun item => key item < key oldest) =
      (items.filter fun item => keeps (key item)).drop count := by
    have narrower : items.filter (fun item => key item < key oldest) =
        (items.filter fun item => keeps (key item)).filter
          (fun item => key item < key oldest) := by
      rw [List.filter_filter]
      apply List.filter_congr
      intro item _
      by_cases below : key item < key oldest
      · simp [below, closed below.le inside]
      · simp [below]
    rw [narrower]
    rw [parts] at visible
    conv_lhs => rw [parts]
    exact filter_below visible
  unfold page
  rw [List.take_add, rest]

/-- Items are found by the keys of some of them, in the order of all. -/
theorem filter_keys {part : List α} (sublist : part.Sublist items)
    (distinct : items.Pairwise fun first second => key second ≠ key first) :
    items.filter (fun item => (part.map key).contains (key item)) = part := by
  induction sublist with
  | slnil => rfl
  | @cons part rest item sub inductionHypothesis =>
      obtain ⟨apart, later⟩ := List.pairwise_cons.mp distinct
      have absent : (part.map key).contains (key item) = false := by
        apply Bool.eq_false_iff.mpr
        intro found
        obtain ⟨other, member, same⟩ := List.mem_map.mp (List.contains_iff_mem.mp found)
        exact apart other (sub.subset member) same
      rw [List.filter_cons, if_neg (ne_true_of_eq_false absent), inductionHypothesis later]
  | @cons_cons part rest item sub inductionHypothesis =>
      obtain ⟨apart, later⟩ := List.pairwise_cons.mp distinct
      have unchanged : rest.filter (fun other => ((item :: part).map key).contains (key other)) =
          rest.filter fun other => (part.map key).contains (key other) := by
        apply List.filter_congr
        intro other member
        rw [List.map_cons, List.contains_cons, beq_eq_false_iff_ne.mpr (apart other member),
          Bool.false_or]
      have present : ((item :: part).map key).contains (key item) = true :=
        List.contains_iff_mem.mpr List.mem_cons_self
      rw [List.filter_cons, if_pos present, unchanged, inductionHypothesis later]

/-- The items of a page are found by their keys. -/
theorem page_keys (descending : items.Pairwise fun first second => key second < key first)
    {limit : Nat} (fits : count ≤ limit) :
    page key items ((page key items keeps count).map key).contains limit =
      page key items keeps count := by
  have sub : (page key items keeps count).Sublist items :=
    (List.take_sublist count _).trans List.filter_sublist
  have found := filter_keys sub (descending.imp Nat.ne_of_lt)
  have short : (page key items keeps count).length ≤ limit :=
    (List.length_take_le count _).trans fits
  conv_lhs => rw [page, found]
  exact List.take_of_length_le short

end Pages

end AChat.Lib
