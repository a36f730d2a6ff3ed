import Mathlib.Data.List.Basic
import AChat.Lib.CString

/-!
Contract: the items of `CStrExplode` beside the pieces between the separators.

One pass counts the separators, and there is an item for each and one more. The other pass ends an
item at a separator that is not its first character; a separator in that place becomes part of the
item. An item that no piece is left for stays as `new` made it.

Owns: the two passes, the segments that the second one cuts, and the texts for which the items are
the pieces.
-/

namespace AChat.Base.StrExplode

open Lib

/-! ### The two passes -/

inductive Fault where
  /-- A write outside an array. -/
  | outside
  /-- An `int` that gets too large. -/
  | overflow
deriving DecidableEq, Repr

/-- The pointers of `m_item_list`. Nothing is known of one that was not written. -/
abbrev Items := List (Option Bytes)

/-- The first pass, from `m_item_cnt` on. -/
def countItems (seperator : UInt8) (itemCnt : BitVec 32) (pos : Bytes) : BitVec 32 :=
  pos.foldl (fun itemCnt c => if c = seperator then itemCnt + 1 else itemCnt) itemCnt

/-- `pos - start`, as a `uint32_t`. -/
def lenOf (start : Bytes) : Nat :=
  start.length % 2 ^ 32

/-- The copy of the characters from `start` to `pos`, in an array of `len + 1` bytes. -/
def newItem (start : Bytes) : Except Fault Bytes :=
  if (lenOf start + 1) % 2 ^ 32 = 0 then .error .outside else .ok (start.take (lenOf start))

def store (items : Items) (idx : Nat) (start : Bytes) : Except Fault Items := do
  let item ← newItem start
  if idx < items.length then return items.set idx (some item) else .error .outside

/-- The second pass: the characters from `start` to `pos`, and those from `pos` on. -/
def fill (seperator : UInt8) : Items → Nat → Bytes → Bytes → Except Fault Items
  | items, idx, start, [] => if lenOf start ≠ 0 then store items idx start else .ok items
  | items, idx, start, c :: pos =>
      if start ≠ [] ∧ c = seperator then do
        let items ← store items idx start
        if idx + 1 < 2 ^ 31 then fill seperator items (idx + 1) [] pos else .error .overflow
      else fill seperator items idx (start ++ [c]) pos

/-- `CStrExplode::CStrExplode`: the items. `GetItemCnt` is their number. -/
def new (str : CString) (seperator : UInt8) : Except Fault Items :=
  fill seperator (List.replicate (countItems seperator 1 str.bytes).toNat none) 0 [] str.bytes

/-! ### The split that is named -/

/-- The maximal pieces without a separator that are not empty. -/
def pieces (str : CString) (seperator : UInt8) : List Bytes :=
  (str.bytes.splitOn seperator).filter (· ≠ [])

/-- Every item is initialised, and the items are the pieces. -/
def Explodes (str : CString) (seperator : UInt8) : Prop :=
  new str seperator = .ok ((pieces str seperator).map some)

/-- There is a piece in front of the first separator, between any two and behind the last, none of
them too long for a `uint32_t`, and an `int` counts the separators. -/
structure Separated (str : CString) (seperator : UInt8) : Prop where
  occupied : ∀ piece ∈ str.bytes.splitOn seperator, piece ≠ []
  short : ∀ piece ∈ str.bytes.splitOn seperator, piece.length < 2 ^ 32 - 1
  few : (str.bytes.splitOn seperator).length ≤ 2 ^ 31

/-! ### Segments -/

variable {seperator : UInt8}

/-- What the second pass copies at separators, and what is left at the end. -/
def segments (seperator : UInt8) : Bytes → Bytes → List Bytes × Bytes
  | start, [] => ([], start)
  | start, c :: pos =>
      if start ≠ [] ∧ c = seperator then
        let behind := segments seperator [] pos
        (start :: behind.1, behind.2)
      else segments seperator (start ++ [c]) pos

/-- The segments, with a separator behind each but the last, are the text. -/
theorem join_segments (start pos : Bytes) :
    (segments seperator start pos).1.flatMap (· ++ [seperator]) ++
      (segments seperator start pos).2 = start ++ pos := by
  induction pos generalizing start with
  | nil => simp [segments]
  | cons c pos inductionHypothesis =>
      unfold segments
      split
      · rename_i ends
        rw [ends.2]
        simp only [List.flatMap_cons, List.append_assoc, inductionHypothesis]
        rfl
      · rw [inductionHypothesis, List.append_assoc]
        rfl

/-- A separator can only be the first character of a segment. -/
theorem tail_of_mem_segments {start pos : Bytes} (clean : seperator ∉ start.tail) :
    ∀ segment ∈ (segments seperator start pos).1 ++ [(segments seperator start pos).2],
      seperator ∉ segment.tail := by
  induction pos generalizing start with
  | nil =>
      intro segment member
      rw [segments, List.nil_append, List.mem_singleton] at member
      exact member ▸ clean
  | cons c pos inductionHypothesis =>
      unfold segments
      split
      · intro segment member
        rcases List.mem_cons.mp member with rfl | later
        · exact clean
        · exact inductionHypothesis (by simp) segment later
      · rename_i goes
        refine inductionHypothesis ?_
        cases start with
        | nil => simp
        | cons first rest =>
            rw [List.cons_append, List.tail_cons, List.mem_append, not_or]
            refine ⟨clean, fun same => goes ⟨by simp, ?_⟩⟩
            exact (List.mem_singleton.mp same).symm

/-- Segments without a separator are the pieces of the split. -/
theorem splitOn_join {front : List Bytes} {last : Bytes}
    (clean : ∀ segment ∈ front, seperator ∉ segment) (lastClean : seperator ∉ last) :
    (front.flatMap (· ++ [seperator]) ++ last).splitOn seperator = front ++ [last] := by
  induction front with
  | nil => exact List.splitOn_eq_singleton lastClean
  | cons segment front inductionHypothesis =>
      rw [List.flatMap_cons, List.append_assoc, List.append_assoc, List.singleton_append,
        List.splitOn_append_cons_self_of_not_mem (clean segment List.mem_cons_self),
        inductionHypothesis fun other member => clean other (List.mem_cons_of_mem _ member),
        List.cons_append]

/-- Where no piece of the split is empty, the segments are the pieces. -/
theorem segments_of_occupied {start pos : Bytes} (clean : seperator ∉ start)
    (occupied : ∀ piece ∈ (start ++ pos).splitOn seperator, piece ≠ []) :
    (segments seperator start pos).1 ++ [(segments seperator start pos).2] =
      (start ++ pos).splitOn seperator := by
  induction pos generalizing start with
  | nil => rw [segments, List.append_nil, List.splitOn_eq_singleton clean, List.nil_append]
  | cons c pos inductionHypothesis =>
      by_cases same : c = seperator
      · subst same
        rw [List.splitOn_append_cons_self_of_not_mem clean] at occupied ⊢
        have more : start ≠ [] := occupied start List.mem_cons_self
        rw [segments, if_pos ⟨more, rfl⟩]
        simp only [List.cons_append, List.cons.injEq, true_and]
        exact inductionHypothesis (by simp)
          fun piece member => occupied piece (List.mem_cons_of_mem _ member)
      · rw [segments, if_neg fun ends => same ends.2, inductionHypothesis]
        · rw [List.append_assoc, List.singleton_append]
        · rw [List.mem_append, not_or, List.mem_singleton]
          exact ⟨clean, Ne.symm same⟩
        · rwa [List.append_assoc, List.singleton_append]

/-! ### The count -/

theorem countItems_eq (cnt : Nat) (pos : Bytes) :
    countItems seperator (BitVec.ofNat 32 cnt) pos =
      BitVec.ofNat 32 (cnt + pos.count seperator) := by
  induction pos generalizing cnt with
  | nil => rfl
  | cons c pos inductionHypothesis =>
      rw [countItems, List.foldl_cons, ← countItems, List.count_cons]
      by_cases same : c = seperator
      · have next : BitVec.ofNat 32 cnt + 1 = BitVec.ofNat 32 (cnt + 1) := by
          apply BitVec.eq_of_toNat_eq
          simp
        rw [if_pos same, next, inductionHypothesis, same]
        simp [Nat.add_comm, Nat.add_left_comm]
      · rw [if_neg same, inductionHypothesis]
        simp [same]

/-- Segments without a separator, and a last one. -/
theorem count_join {front : List Bytes} (last : Bytes)
    (clean : ∀ segment ∈ front, seperator ∉ segment) :
    (front.flatMap (· ++ [seperator]) ++ last).count seperator =
      front.length + last.count seperator := by
  induction front with
  | nil => simp
  | cons segment front inductionHypothesis =>
      have none : segment.count seperator = 0 :=
        List.count_eq_zero.mpr (clean segment List.mem_cons_self)
      have rest := inductionHypothesis
        fun other member => clean other (List.mem_cons_of_mem _ member)
      rw [List.count_append] at rest
      rw [List.flatMap_cons, List.count_append, List.count_append, List.count_append, none,
        List.count_singleton_self, List.length_cons]
      omega

/-! ### The split -/

theorem not_mem_of_mem_splitOn {text piece : Bytes} (member : piece ∈ text.splitOn seperator) :
    seperator ∉ piece := by
  induction text generalizing piece with
  | nil =>
      rw [List.splitOn_nil, List.mem_singleton] at member
      simp [member]
  | cons c text inductionHypothesis =>
      rw [List.splitOn_cons_eq_if_modifyHead] at member
      split at member
      · rcases List.mem_cons.mp member with rfl | later
        · simp
        · exact inductionHypothesis later
      · rename_i other
        obtain ⟨head, rest, parts⟩ :=
          List.exists_cons_of_ne_nil (List.splitOn_ne_nil seperator text)
        rw [parts, List.modifyHead_cons] at member
        rcases List.mem_cons.mp member with rfl | later
        · rw [List.mem_cons, not_or]
          refine ⟨fun same => other (by simp [same]), inductionHypothesis ?_⟩
          rw [parts]
          exact List.mem_cons_self
        · refine inductionHypothesis ?_
          rw [parts]
          exact List.mem_cons_of_mem _ later

theorem length_splitOn (text : Bytes) :
    (text.splitOn seperator).length = text.count seperator + 1 := by
  induction text with
  | nil => rfl
  | cons c text inductionHypothesis =>
      rw [List.splitOn_cons_eq_if_modifyHead, List.count_cons]
      split <;> simp [inductionHypothesis]

/-! ### What the second pass fills -/

/-- What is copied of a segment. -/
def copied (segment : Bytes) : Bytes :=
  segment.take (lenOf segment)

/-- The array of a copy has room for the terminator. -/
def Sized (segment : Bytes) : Prop :=
  (lenOf segment + 1) % 2 ^ 32 ≠ 0

/-- The segments that are copied. -/
def kept (cut : List Bytes × Bytes) : List Bytes :=
  cut.1 ++ if lenOf cut.2 ≠ 0 then [cut.2] else []

/-- Items of which the first are written. -/
def written (items : List Bytes) (room : Nat) : Items :=
  items.map some ++ List.replicate room none

theorem length_written (items : List Bytes) (room : Nat) :
    (written items room).length = items.length + room := by
  simp [written]

theorem store_ok_iff {items : List Bytes} {room : Nat} {start : Bytes} {after : Items} :
    store (written items room) items.length start = .ok after ↔
      Sized start ∧ 0 < room ∧ after = written (items ++ [copied start]) (room - 1) := by
  unfold store newItem Sized
  by_cases full : (lenOf start + 1) % 2 ^ 32 = 0
  · rw [if_pos full]
    exact ⟨nofun, fun fits => absurd full fits.1⟩
  · rw [if_neg full]
    change (if items.length < _ then Except.ok _ else _) = _ ↔ _
    rw [length_written]
    cases room with
    | zero =>
        rw [if_neg (by omega)]
        exact ⟨nofun, fun fits => absurd fits.2.1 (by omega)⟩
    | succ room =>
        have set : (written items (room + 1)).set items.length (some (start.take (lenOf start))) =
            written (items ++ [copied start]) room := by
          unfold written
          rw [List.set_append_right _ _ (by simp), List.length_map, Nat.sub_self,
            List.replicate_succ, List.set_cons_zero, List.map_append]
          simp [copied]
        rw [if_pos (by omega), set, Except.ok.injEq]
        constructor
        · rintro rfl
          exact ⟨full, by omega, rfl⟩
        · rintro ⟨_, _, rfl⟩
          rfl

/-- The second pass succeeds when every copy has its array, every item its place and the index its
range, and then it has copied the segments in order. -/
theorem fill_ok_iff {items : List Bytes} {room : Nat} {start pos : Bytes} {after : Items} :
    fill seperator (written items room) items.length start pos = .ok after ↔
      (∀ segment ∈ kept (segments seperator start pos), Sized segment) ∧
        (kept (segments seperator start pos)).length ≤ room ∧
        ((segments seperator start pos).1 ≠ [] →
          items.length + (segments seperator start pos).1.length < 2 ^ 31) ∧
        after = written (items ++ (kept (segments seperator start pos)).map copied)
          (room - (kept (segments seperator start pos)).length) := by
  induction pos generalizing items room start with
  | nil =>
      unfold fill segments kept
      simp only [List.nil_append]
      by_cases empty : lenOf start = 0
      · simp [empty, eq_comm]
      · simp only [empty, ne_eq, not_false_eq_true, if_true, store_ok_iff]
        simp [Nat.succ_le_iff]
  | cons c pos inductionHypothesis =>
      unfold fill segments
      split
      · -- A separator: the segment is copied, and the pass goes on behind it.
        have next := @inductionHypothesis (items ++ [copied start]) (room - 1) []
        generalize segments seperator [] pos = behind at next ⊢
        have keeps : kept (start :: behind.1, behind.2) = start :: kept behind := rfl
        simp only [keeps, List.forall_mem_cons, List.length_cons, List.map_cons]
        rw [List.length_append, List.length_singleton, List.append_assoc, List.singleton_append]
          at next
        cases copies : store (written items room) items.length start with
        | error fault =>
            refine ⟨nofun, fun fits => ?_⟩
            have stores := (@store_ok_iff items room start _).mpr
              ⟨fits.1.1, Nat.zero_lt_of_lt fits.2.1, rfl⟩
            cases copies.symm.trans stores
        | ok filled =>
            obtain ⟨sized, positive, rfl⟩ := store_ok_iff.mp copies
            change (if items.length + 1 < 2 ^ 31 then _ else _) = _ ↔ _
            by_cases inRange : items.length + 1 < 2 ^ 31
            · rw [if_pos inRange, next]
              have left : room - 1 - (kept behind).length = room - ((kept behind).length + 1) := by
                omega
              have counted : (behind.1 ≠ [] → items.length + 1 + behind.1.length < 2 ^ 31) ↔
                  items.length + (behind.1.length + 1) < 2 ^ 31 := by
                cases front : behind.1 with
                | nil => simpa using inRange
                | cons => simp [Nat.add_assoc, Nat.add_comm 1]
              have fits : (kept behind).length ≤ room - 1 ↔ (kept behind).length + 1 ≤ room := by
                omega
              rw [counted, fits, left]
              simp [sized]
            · rw [if_neg inRange]
              refine ⟨nofun, fun fits => absurd (fits.2.2.1 (by simp)) (by omega)⟩
      · exact inductionHypothesis

/-! ### The texts that are exploded -/

theorem map_some_eq_written_iff {items filled : List Bytes} {room : Nat} :
    items.map some = written filled room ↔ items = filled ∧ room = 0 := by
  unfold written
  constructor
  · intro same
    have full : room = 0 := by
      by_contra more
      have blank : none ∈ items.map some := by
        rw [same]
        simp [more]
      simp at blank
    rw [full, List.replicate_zero, List.append_nil] at same
    exact ⟨List.map_injective_iff.mpr (Option.some_injective _) same, full⟩
  · rintro ⟨rfl, rfl⟩
    simp

theorem explodes_iff_segments (str : CString) :
    Explodes str seperator ↔
      (∀ segment ∈ kept (segments seperator [] str.bytes), Sized segment) ∧
        ((segments seperator [] str.bytes).1 ≠ [] →
          (segments seperator [] str.bytes).1.length < 2 ^ 31) ∧
        (kept (segments seperator [] str.bytes)).length =
          (1 + str.bytes.count seperator) % 2 ^ 32 ∧
        pieces str seperator = (kept (segments seperator [] str.bytes)).map copied := by
  have filled := @fill_ok_iff seperator [] (countItems seperator 1 str.bytes).toNat [] str.bytes
    ((pieces str seperator).map some)
  have count : (countItems seperator 1 str.bytes).toNat =
      (1 + str.bytes.count seperator) % 2 ^ 32 :=
    congrArg BitVec.toNat (countItems_eq 1 str.bytes)
  rw [map_some_eq_written_iff, count, List.length_nil, Nat.zero_add, List.nil_append] at filled
  unfold Explodes new
  rw [count]
  refine filled.trans ?_
  constructor
  · rintro ⟨sized, room, counted, same, full⟩
    exact ⟨sized, counted, by omega, same⟩
  · rintro ⟨sized, counted, full, same⟩
    exact ⟨sized, by omega, counted, same, by omega⟩

theorem lenOf_eq {segment : Bytes} (short : segment.length < 2 ^ 32 - 1) :
    lenOf segment = segment.length :=
  Nat.mod_eq_of_lt (by omega)

theorem copied_eq_self {segment : Bytes} (short : segment.length < 2 ^ 32 - 1) :
    copied segment = segment := by
  rw [copied, lenOf_eq short, List.take_length]

theorem Separated.explodes {str : CString} (separated : Separated str seperator) :
    Explodes str seperator := by
  have same := @segments_of_occupied seperator [] str.bytes (by simp) separated.occupied
  have length := @length_splitOn seperator str.bytes
  obtain ⟨occupied, short, few⟩ := separated
  rw [List.nil_append] at same
  rw [explodes_iff_segments]
  generalize segments seperator [] str.bytes = cut at same ⊢
  obtain ⟨front, last⟩ := cut
  simp only at same ⊢
  have lastPiece : last ∈ str.bytes.splitOn seperator := by
    rw [← same]
    exact List.mem_append_right _ (List.mem_singleton_self _)
  have keepsAll : kept (front, last) = str.bytes.splitOn seperator := by
    have more : lenOf last ≠ 0 := by
      rw [lenOf_eq (short last lastPiece), ne_eq, List.length_eq_zero_iff]
      exact occupied last lastPiece
    rw [kept, if_pos more, same]
  have size := congrArg List.length same
  rw [List.length_append, List.length_singleton] at size
  rw [keepsAll, length]
  refine ⟨fun segment member => ?_, fun _ => by omega, by omega, ?_⟩
  · have fits := short segment member
    rw [Sized, lenOf_eq fits]
    omega
  · have whole : (str.bytes.splitOn seperator).map copied =
        (str.bytes.splitOn seperator).map id :=
      List.map_congr_left fun piece member => copied_eq_self (short piece member)
    rw [whole, List.map_id, pieces, List.filter_eq_self]
    exact fun piece member => by simpa using occupied piece member

/-- A piece that a segment is copied to shows that the segment has no separator. -/
theorem not_mem_of_copied {segment : Bytes} (clean : seperator ∉ segment.tail)
    (occupied : copied segment ≠ []) (piece : seperator ∉ copied segment) :
    seperator ∉ segment := by
  cases segment with
  | nil => simp
  | cons first rest =>
      rw [List.mem_cons, not_or]
      refine ⟨fun same => piece ?_, clean⟩
      unfold copied at occupied ⊢
      cases count : lenOf (first :: rest) with
      | zero => exact absurd (by rw [count, List.take_zero]) occupied
      | succ count =>
          rw [List.take_succ_cons, same]
          exact List.mem_cons_self

/-- Pieces that are copied from the segments have no separator, and neither have the segments. -/
theorem clean_of_copied {str : CString} {front : List Bytes} {last : Bytes}
    (tails : ∀ segment ∈ front ++ [last], seperator ∉ segment.tail)
    (same : pieces str seperator = (kept (front, last)).map copied) :
    ∀ segment ∈ kept (front, last), seperator ∉ segment := by
  intro segment member
  have piece : copied segment ∈ pieces str seperator := by
    rw [same]
    exact List.mem_map_of_mem member
  obtain ⟨among, occupied⟩ := List.mem_filter.mp piece
  refine not_mem_of_copied (tails segment ?_) (by simpa using occupied)
    (not_mem_of_mem_splitOn among)
  rw [kept] at member
  rcases List.mem_append.mp member with inFront | atEnd
  · exact List.mem_append_left _ inFront
  · split at atEnd
    · exact List.mem_append_right _ atEnd
    · cases atEnd

theorem count_le_one {segment : Bytes} (clean : seperator ∉ segment.tail) :
    segment.count seperator ≤ 1 := by
  cases segment with
  | nil => simp
  | cons first rest =>
      have none : rest.count seperator = 0 := List.count_eq_zero.mpr clean
      rw [List.count_cons, none]
      split <;> omega

/-- Pieces that are all copied whole are not empty and short. -/
theorem whole_of_copied {str : CString}
    (same : pieces str seperator = (str.bytes.splitOn seperator).map copied)
    (sized : ∀ piece ∈ str.bytes.splitOn seperator, Sized piece) :
    ∀ piece ∈ str.bytes.splitOn seperator, piece ≠ [] ∧ piece.length < 2 ^ 32 - 1 := by
  have kept : ((str.bytes.splitOn seperator).filter (· ≠ [])).length =
      (str.bytes.splitOn seperator).length := by
    have lengths := congrArg List.length same
    rwa [List.length_map] at lengths
  have occupied : ∀ piece ∈ str.bytes.splitOn seperator, piece ≠ [] := by
    intro piece member
    simpa using List.length_filter_eq_length_iff.mp kept piece member
  have all : pieces str seperator = str.bytes.splitOn seperator :=
    List.filter_eq_self.mpr fun piece member => by simpa using occupied piece member
  have wholes : (str.bytes.splitOn seperator).map copied =
      (str.bytes.splitOn seperator).map id := by
    rw [List.map_id, ← same, all]
  intro piece member
  refine ⟨occupied piece member, ?_⟩
  have whole := congrArg List.length (List.map_inj_left.mp wholes piece member)
  have room := sized piece member
  rw [copied, List.length_take, id] at whole
  rw [Sized] at room
  unfold lenOf at whole room
  omega

theorem Explodes.separated {str : CString} (explodes : Explodes str seperator) :
    Separated str seperator := by
  obtain ⟨sized, counted, full, same⟩ := explodes_iff_segments str |>.mp explodes
  have join := @join_segments seperator [] str.bytes
  have tails := @tail_of_mem_segments seperator [] str.bytes (by simp)
  rw [List.nil_append] at join
  generalize segments seperator [] str.bytes = cut at sized counted full same join tails
  obtain ⟨front, last⟩ := cut
  simp only at counted join tails
  -- What is copied has no separator, so no segment that is copied begins with one.
  have clean := clean_of_copied tails same
  have frontClean : ∀ segment ∈ front, seperator ∉ segment := fun segment member =>
    clean segment (List.mem_append_left _ member)
  by_cases more : lenOf last = 0
  · -- Then there is an item that no segment is left for.
    have count := count_join last frontClean
    have atMostOne := count_le_one
      (tails last (List.mem_append_right _ (List.mem_singleton_self _)))
    rw [join] at count
    rw [kept, if_neg (not_not.mpr more), List.append_nil] at full
    change front.length = _ at full
    omega
  · have keepsAll : kept (front, last) = front ++ [last] := by rw [kept, if_pos more]
    have split := splitOn_join frontClean (clean last (by simp [keepsAll]))
    rw [join] at split
    rw [keepsAll, ← split] at same sized
    have whole := whole_of_copied same sized
    refine ⟨fun piece member => (whole piece member).1, fun piece member => (whole piece member).2,
      ?_⟩
    rw [split, List.length_append, List.length_singleton]
    by_cases none : front = []
    · simp [none]
    · have inRange := counted none
      omega

/-- The items are the pieces exactly when no piece is missing in front of, between or behind the
separators, and all sizes are in range. -/
theorem explodes_iff (str : CString) (seperator : UInt8) :
    Explodes str seperator ↔ Separated str seperator :=
  ⟨Explodes.separated, Separated.explodes⟩

/-- `,a` has the item `,a` and one that is not initialised; the empty text has one that is not. -/
theorem not_explodes_leading :
    new (.ofArray [44, 97]) 44 = .ok [some [44, 97], none] ∧ ¬Explodes (.ofArray [44, 97]) 44 ∧
      new (.ofArray []) 44 = .ok [none] ∧ ¬Explodes (.ofArray []) 44 := by
  have leading : new (.ofArray [44, 97]) 44 = .ok [some [44, 97], none] := by decide
  have empty : new (.ofArray []) 44 = .ok [none] := by decide
  refine ⟨leading, fun explodes => ?_, empty, fun explodes => ?_⟩
  · cases leading.symm.trans explodes
  · cases empty.symm.trans explodes

end AChat.Base.StrExplode
