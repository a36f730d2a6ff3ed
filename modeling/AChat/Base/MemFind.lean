import Mathlib.Data.List.Basic
import Mathlib.Data.Nat.Find
import AChat.Lib.CString

/-!
Contract: for which buffers the two directions of `memfind` find what is there.

The forward loop stops before the last position at which the pattern has room. The length of a
pattern that is given as a C string is only known behind the comparison of the lengths. Both loops
count in an `int`.

Owns: the search over a source and a pattern, the positions at which the pattern stands, and the
arguments for which both directions are right.
-/

namespace AChat.Base.MemFind

open Lib

/-! ### The search -/

inductive Fault where
  /-- A read outside an array. -/
  | outside
  /-- An `int` that gets too large. -/
  | overflow
deriving DecidableEq, Repr

/-- `strlen` over an array. -/
def strlen (array : Bytes) : Except Fault (BitVec 64) :=
  if 0 ∈ array then .ok (BitVec.ofNat 64 (CString.ofArray array).strlen) else .error .outside

/-- `0 == memcmp(src_str + i, sub_str, len)`. -/
def sameAt (src sub : Bytes) (len i : Nat) : Except Fault Bool :=
  if i + len ≤ src.length ∧ len ≤ sub.length then
    .ok ((src.drop i).take len == sub.take len)
  else .error .outside

/-- The forward loop, with the number of values of `i` that are left. -/
def forward (src sub : Bytes) (len : Nat) : Nat → Nat → Except Fault (Option Nat)
  | 0, _ => .ok none
  | left + 1, i => do
      if ← sameAt src sub len i then return some i
      else if i + 1 < 2 ^ 31 then forward src sub len left (i + 1)
      else .error .overflow

/-- The backward loop. -/
def backward (src sub : Bytes) (len : Nat) : Nat → Except Fault (Option Nat)
  | 0 => do
      if ← sameAt src sub len 0 then return some 0 else return none
  | i + 1 => do
      if ← sameAt src sub len (i + 1) then return some (i + 1) else backward src sub len i

/-- The length that the loops go by: that of the C string for the length 0. -/
def lengthOf (sub : Bytes) (subLen : BitVec 64) : Except Fault (BitVec 64) :=
  if subLen = 0 then strlen sub else .ok subLen

/-- `memfind`. A pointer into the source is its distance from the start. -/
def memfind (srcStr : Option Bytes) (srcLen : BitVec 64) (subStr : Option Bytes)
    (subLen : BitVec 64) (flag : Bool) : Except Fault (Option Nat) :=
  match srcStr, subStr with
  | some src, some sub =>
      if srcLen ≤ 0 then .ok none
      else if srcLen < subLen then .ok none
      else do
        let subLen ← lengthOf sub subLen
        if srcLen = subLen then
          if ← sameAt src sub srcLen.toNat 0 then return some 0 else return none
        else if flag then forward src sub subLen.toNat (srcLen - subLen).toNat 0
        else
          match ((srcLen - subLen).setWidth 32).toInt with
          | .ofNat i => backward src sub subLen.toNat i
          | .negSucc _ => return none
  | _, _ => .ok none

/-! ### Sources and patterns -/

/-- Bytes that a `size_t` counts. -/
structure Buffer where
  bytes : Bytes
  size : bytes.length < 2 ^ 64

/-- A pattern: bytes with their number, or a C string, for which the number 0 is passed. -/
inductive Pattern where
  | buffer (buf : Buffer) (occupied : buf.bytes ≠ [])
  | text (str : CString) (size : str.strlen < 2 ^ 64)

namespace Pattern

def bytes : Pattern → Bytes
  | .buffer buf _ => buf.bytes
  | .text str _ => str.bytes

/-- What `sub_str` points at. -/
def subStr : Pattern → Bytes
  | .buffer buf _ => buf.bytes
  | .text str _ => str.bytes ++ [0]

def subLen : Pattern → BitVec 64
  | .buffer buf _ => BitVec.ofNat 64 buf.bytes.length
  | .text _ _ => 0

def IsText : Pattern → Prop
  | .buffer _ _ => False
  | .text _ _ => True

end Pattern

def find (src : Buffer) (pattern : Pattern) (flag : Bool) : Except Fault (Option Nat) :=
  memfind (some src.bytes) (BitVec.ofNat 64 src.bytes.length) (some pattern.subStr) pattern.subLen
    flag

/-- The pattern stands at this position. -/
def Occurs (src sub : Bytes) (i : Nat) : Prop :=
  i + sub.length ≤ src.length ∧ (src.drop i).take sub.length = sub

/-- The first position with a property, nothing when there is none. -/
def IsFirst (property : Nat → Prop) : Option Nat → Prop
  | some i => property i ∧ ∀ earlier, earlier < i → ¬property earlier
  | none => ∀ i, ¬property i

/-- The last position with a property, nothing when there is none. -/
def IsLast (property : Nat → Prop) : Option Nat → Prop
  | some i => property i ∧ ∀ later, i < later → ¬property later
  | none => ∀ i, ¬property i

/-- Both directions give the occurrence that is due without a read outside, and the difference of
the lengths, where it is taken, does not wrap. -/
structure Searches (src : Buffer) (pattern : Pattern) : Prop where
  forward : ∃ result, find src pattern true = .ok result ∧
    IsFirst (Occurs src.bytes pattern.bytes) result
  backward : ∃ result, find src pattern false = .ok result ∧
    IsLast (Occurs src.bytes pattern.bytes) result
  subtraction : 0 < src.bytes.length → pattern.subLen.toNat ≤ src.bytes.length →
    pattern.bytes.length ≤ src.bytes.length

/-- The last position at which the pattern has room. -/
def lastStart (src : Buffer) (pattern : Pattern) : Nat :=
  src.bytes.length - pattern.bytes.length

/-- Something is searched, or searched for. A C string is no longer than a source that is not
empty. In a source that is longer than the pattern, an occurrence at the last position is not the
only one; where an `int` does not count the positions, one occurrence is at a position that an
`int` counts, and none behind the position that the last one becomes as an `int`. -/
structure Searchable (src : Buffer) (pattern : Pattern) : Prop where
  occupied : src.bytes = [] → pattern.bytes ≠ []
  fits : pattern.IsText → src.bytes ≠ [] → pattern.bytes.length ≤ src.bytes.length
  earlier : pattern.bytes.length < src.bytes.length →
    lastStart src pattern < 2 ^ 31 → Occurs src.bytes pattern.bytes (lastStart src pattern) →
      ∃ i, i < lastStart src pattern ∧ Occurs src.bytes pattern.bytes i
  counted : pattern.bytes.length < src.bytes.length → 2 ^ 31 ≤ lastStart src pattern →
    (∃ i, i < 2 ^ 31 ∧ Occurs src.bytes pattern.bytes i) ∧
      ∀ i, Occurs src.bytes pattern.bytes i →
        (i : Int) ≤ (BitVec.ofNat 32 (lastStart src pattern)).toInt

/-! ### The loops -/

section Loops

variable {src sub array : Bytes}

theorem sameAt_eq {i : Nat} (inside : i + sub.length ≤ src.length)
    (pattern : array.take sub.length = sub) (room : sub.length ≤ array.length) :
    sameAt src array sub.length i = .ok ((src.drop i).take sub.length == sub) := by
  rw [sameAt, if_pos ⟨inside, room⟩, pattern]

theorem occurs_iff {i : Nat} (inside : i + sub.length ≤ src.length) :
    ((src.drop i).take sub.length == sub) = true ↔ Occurs src sub i := by
  rw [beq_iff_eq, Occurs, and_iff_right inside]

/-- What the forward loop gives over the positions that are left from `i` on: the first occurrence
among them, nothing when there is none, as long as an `int` counts the positions passed. -/
def Scans (src sub : Bytes) (left i : Nat) (result : Option Nat) : Prop :=
  (∃ found, result = some found ∧ i ≤ found ∧ found < i + left ∧
    (found = i ∨ found < 2 ^ 31) ∧ Occurs src sub found ∧
    ∀ earlier, i ≤ earlier → earlier < found → ¬Occurs src sub earlier) ∨
  (result = none ∧ (left = 0 ∨ i + left < 2 ^ 31) ∧
    ∀ here, i ≤ here → here < i + left → ¬Occurs src sub here)

theorem scans_zero_iff {i : Nat} {result : Option Nat} :
    Scans src sub 0 i result ↔ result = none := by
  constructor
  · rintro (⟨_, _, _, _, _⟩ | ⟨none, _⟩)
    · omega
    · exact none
  · exact fun none => .inr ⟨none, .inl rfl, fun here after before => absurd before (by omega)⟩

/-- An occurrence ends the loop. -/
theorem scans_hit_iff {left i : Nat} {result : Option Nat} (here : Occurs src sub i) :
    Scans src sub (left + 1) i result ↔ result = some i := by
  constructor
  · rintro (⟨found, rfl, after, _, _, _, first⟩ | ⟨_, _, nowhere⟩)
    · rcases Nat.eq_or_lt_of_le after with rfl | later
      · rfl
      · exact absurd here (first i (Nat.le_refl i) later)
    · exact absurd here (nowhere i (Nat.le_refl i) (by omega))
  · exact fun same => .inl ⟨i, same, Nat.le_refl i, by omega, .inl rfl, here,
      fun earlier after before => absurd before (by omega)⟩

/-- A position without an occurrence is passed. -/
theorem scans_miss_iff {left i : Nat} {result : Option Nat} (here : ¬Occurs src sub i)
    (counts : i + 1 < 2 ^ 31) :
    Scans src sub (left + 1) i result ↔ Scans src sub left (i + 1) result := by
  have passed : ∀ other, i ≤ other → (i + 1 ≤ other → ¬Occurs src sub other) →
      ¬Occurs src sub other := by
    intro other notBefore behind
    rcases Nat.eq_or_lt_of_le notBefore with rfl | later
    · exact here
    · exact behind later
  constructor
  · rintro (⟨found, same, after, before, counted, there, first⟩ | ⟨same, counted, nowhere⟩)
    · have behind : i ≠ found := fun same => here (same ▸ there)
      exact .inl ⟨found, same, by omega, by omega, .inr (by omega), there,
        fun earlier notBefore => first earlier (by omega)⟩
    · exact .inr ⟨same, .inr (by omega),
        fun other notBefore notBehind => nowhere other (by omega) (by omega)⟩
  · rintro (⟨found, same, after, before, counted, there, first⟩ | ⟨same, counted, nowhere⟩)
    · exact .inl ⟨found, same, by omega, by omega, .inr (by omega), there,
        fun earlier notBefore notThere =>
          passed earlier notBefore fun later => first earlier later notThere⟩
    · exact .inr ⟨same, .inr (by omega), fun other notBefore notBehind =>
        passed other notBefore fun later => nowhere other later (by omega)⟩

/-- Behind the positions that an `int` counts there is no result. -/
theorem not_scans {left i : Nat} {result : Option Nat} (here : ¬Occurs src sub i)
    (full : ¬i + 1 < 2 ^ 31) : ¬Scans src sub (left + 1) i result := by
  rintro (⟨found, _, after, _, counted, there, _⟩ | ⟨_, counted, _⟩)
  · have behind : i ≠ found := fun same => here (same ▸ there)
    omega
  · omega

/-- The forward loop over positions with room. -/
theorem forward_ok_iff (pattern : array.take sub.length = sub)
    (room : sub.length ≤ array.length) {left i : Nat} (inside : i + left + sub.length ≤ src.length)
    {result : Option Nat} :
    forward src array sub.length left i = .ok result ↔ Scans src sub left i result := by
  induction left generalizing i with
  | zero => rw [forward, Except.ok.injEq, scans_zero_iff, eq_comm]
  | succ left inductionHypothesis =>
      have test := @sameAt_eq src sub array i (by omega) pattern room
      have hit := @occurs_iff src sub i (by omega)
      rw [forward, test]
      change (if _ then _ else _) = _ ↔ _
      by_cases here : Occurs src sub i
      · rw [if_pos (hit.mpr here), scans_hit_iff here]
        change Except.ok (some i) = _ ↔ _
        rw [Except.ok.injEq, eq_comm]
      · rw [if_neg fun same => here (hit.mp same)]
        by_cases counts : i + 1 < 2 ^ 31
        · rw [if_pos counts, inductionHypothesis (by omega), scans_miss_iff here counts]
        · rw [if_neg counts]
          exact ⟨nofun, fun scans => absurd scans (not_scans here counts)⟩

/-- The backward loop over positions with room finds the last one up to its start. -/
theorem backward_ok (pattern : array.take sub.length = sub) (room : sub.length ≤ array.length)
    {i : Nat} (inside : i + sub.length ≤ src.length) :
    ∃ result, backward src array sub.length i = .ok result ∧
      IsLast (fun here => here ≤ i ∧ Occurs src sub here) result := by
  induction i with
  | zero =>
      have test := @sameAt_eq src sub array 0 inside pattern room
      have hit := @occurs_iff src sub 0 inside
      rw [backward, test]
      by_cases here : Occurs src sub 0
      · refine ⟨some 0, if_pos (hit.mpr here), ⟨Nat.le_refl 0, here⟩, fun later behind also => ?_⟩
        omega
      · refine ⟨none, if_neg fun same => here (hit.mp same), ?_⟩
        rintro other ⟨first, there⟩
        exact here (Nat.le_zero.mp first ▸ there)
  | succ i inductionHypothesis =>
      have test := @sameAt_eq src sub array (i + 1) inside pattern room
      have hit := @occurs_iff src sub (i + 1) inside
      rw [backward, test]
      by_cases here : Occurs src sub (i + 1)
      · refine ⟨some (i + 1), if_pos (hit.mpr here), ⟨Nat.le_refl _, here⟩,
          fun later behind also => ?_⟩
        omega
      · obtain ⟨result, found, last⟩ := inductionHypothesis (by omega)
        refine ⟨result, (if_neg fun same => here (hit.mp same)).trans found, ?_⟩
        have same : ∀ other, (other ≤ i + 1 ∧ Occurs src sub other) ↔
            (other ≤ i ∧ Occurs src sub other) := by
          intro other
          refine ⟨fun ⟨atMost, there⟩ => ⟨?_, there⟩, fun ⟨atMost, there⟩ => ⟨by omega, there⟩⟩
          have different : other ≠ i + 1 := fun same => here (same ▸ there)
          omega
        simpa only [same] using last

end Loops

/-! ### The calls -/

section Calls

variable {src : Buffer} {pattern : Pattern}

theorem Pattern.size (pattern : Pattern) : pattern.bytes.length < 2 ^ 64 := by
  cases pattern with
  | buffer buf _ => exact buf.size
  | text _ size => exact size

theorem Pattern.take_subStr (pattern : Pattern) :
    pattern.subStr.take pattern.bytes.length = pattern.bytes := by
  cases pattern with
  | buffer buf _ => exact List.take_length
  | text str _ => exact List.take_left

theorem Pattern.length_le_subStr (pattern : Pattern) :
    pattern.bytes.length ≤ pattern.subStr.length := by
  cases pattern with
  | buffer buf _ => exact Nat.le_refl _
  | text str _ => simp [Pattern.bytes, Pattern.subStr]

theorem strlen_terminated (str : CString) :
    strlen (str.bytes ++ [0]) = .ok (BitVec.ofNat 64 str.strlen) := by
  have array : (CString.ofArray (str.bytes ++ [0])).strlen = str.strlen := by
    have nonzero := bne_of_not_mem str.noZero
    simp [CString.strlen, CString.ofArray, List.takeWhile_append_of_pos nonzero]
  rw [strlen, if_pos (by simp), array]

/-- The length of the pattern, behind the comparison of the lengths. -/
theorem Pattern.resolve (pattern : Pattern) :
    lengthOf pattern.subStr pattern.subLen = .ok (BitVec.ofNat 64 pattern.bytes.length) := by
  cases pattern with
  | buffer buf occupied =>
      have nonzero : BitVec.ofNat 64 buf.bytes.length ≠ 0 := by
        intro zero
        have length := congrArg BitVec.toNat zero
        rw [BitVec.toNat_ofNat, Nat.mod_eq_of_lt buf.size] at length
        exact occupied (List.eq_nil_of_length_eq_zero length)
      exact if_neg nonzero
  | text str _ => exact strlen_terminated str

theorem find_empty (empty : src.bytes = []) (flag : Bool) : find src pattern flag = .ok none := by
  rw [find, empty]
  rfl

theorem toNat_length (src : Buffer) :
    (BitVec.ofNat 64 src.bytes.length).toNat = src.bytes.length := by
  rw [BitVec.toNat_ofNat, Nat.mod_eq_of_lt src.size]

theorem Pattern.toNat_length (pattern : Pattern) :
    (BitVec.ofNat 64 pattern.bytes.length).toNat = pattern.bytes.length := by
  rw [BitVec.toNat_ofNat, Nat.mod_eq_of_lt pattern.size]

/-- The length that is passed is that of the pattern, or 0. -/
theorem Pattern.subLen_le (pattern : Pattern) : pattern.subLen.toNat ≤ pattern.bytes.length := by
  cases pattern with
  | buffer buf _ => exact Nat.le_of_eq (AChat.Base.MemFind.toNat_length buf)
  | text => exact Nat.zero_le _

theorem find_longer (longer : src.bytes.length < pattern.subLen.toNat) (flag : Bool) :
    find src pattern flag = .ok none := by
  have less : BitVec.ofNat 64 src.bytes.length < pattern.subLen := by
    rw [BitVec.lt_def, toNat_length]
    exact longer
  unfold find memfind
  simp only
  rw [if_pos less, ite_self]

/-- The call behind the comparison of the lengths. -/
theorem find_compared (nonempty : src.bytes ≠ []) (short : pattern.subLen.toNat ≤ src.bytes.length)
    (flag : Bool) :
    find src pattern flag =
      if src.bytes.length = pattern.bytes.length then
        (sameAt src.bytes pattern.subStr src.bytes.length 0).map
          fun same => if same then some 0 else none
      else if flag then
        forward src.bytes pattern.subStr pattern.bytes.length
          (BitVec.ofNat 64 src.bytes.length - BitVec.ofNat 64 pattern.bytes.length).toNat 0
      else
        match ((BitVec.ofNat 64 src.bytes.length -
          BitVec.ofNat 64 pattern.bytes.length).setWidth 32).toInt with
        | .ofNat i => backward src.bytes pattern.subStr pattern.bytes.length i
        | .negSucc _ => .ok none := by
  have positive : ¬BitVec.ofNat 64 src.bytes.length ≤ 0 := by
    rw [BitVec.le_def, toNat_length]
    have length := List.length_pos_iff.mpr nonempty
    simpa using nonempty
  have notLess : ¬BitVec.ofNat 64 src.bytes.length < pattern.subLen := by
    rw [BitVec.lt_def, toNat_length]
    omega
  have lengths : BitVec.ofNat 64 src.bytes.length = BitVec.ofNat 64 pattern.bytes.length ↔
      src.bytes.length = pattern.bytes.length := by
    rw [← BitVec.toNat_inj, toNat_length, pattern.toNat_length]
  unfold find memfind
  simp only
  rw [if_neg positive, if_neg notLess, pattern.resolve]
  change (if _ then _ else _) = _
  simp only [lengths, toNat_length, pattern.toNat_length]
  split
  · cases sameAt src.bytes pattern.subStr src.bytes.length 0 with
    | error fault => rfl
    | ok same => cases same <;> rfl
  · rfl

/-- The difference of the lengths, as a `size_t`. -/
theorem difference (short : pattern.bytes.length ≤ src.bytes.length) :
    BitVec.ofNat 64 src.bytes.length - BitVec.ofNat 64 pattern.bytes.length =
      BitVec.ofNat 64 (lastStart src pattern) := by
  have size := src.size
  apply BitVec.eq_of_toNat_eq
  rw [BitVec.toNat_sub, toNat_length, pattern.toNat_length, BitVec.toNat_ofNat, lastStart]
  omega

theorem toNat_lastStart (src : Buffer) (pattern : Pattern) :
    (BitVec.ofNat 64 (lastStart src pattern)).toNat = lastStart src pattern := by
  have size := src.size
  rw [BitVec.toNat_ofNat, Nat.mod_eq_of_lt]
  unfold lastStart
  omega

/-- The difference of the lengths, as an `int`. -/
theorem setWidth_lastStart (src : Buffer) (pattern : Pattern) :
    (BitVec.ofNat 64 (lastStart src pattern)).setWidth 32 =
      BitVec.ofNat 32 (lastStart src pattern) := by
  apply BitVec.eq_of_toNat_eq
  rw [BitVec.toNat_setWidth, toNat_lastStart, BitVec.toNat_ofNat]

theorem Occurs.le_lastStart {i : Nat} (there : Occurs src.bytes pattern.bytes i) :
    i ≤ lastStart src pattern := by
  have room := there.1
  unfold lastStart
  omega

end Calls

/-! ### Which calls are right -/

section Directions

variable {src : Buffer} {pattern : Pattern}

/-- The forward search is right when there is an occurrence at a position that it gets to, or none
and it gets to the end. -/
theorem forward_right_iff (short : pattern.subLen.toNat ≤ src.bytes.length)
    (shorter : pattern.bytes.length < src.bytes.length) :
    (∃ result, find src pattern true = .ok result ∧
      IsFirst (Occurs src.bytes pattern.bytes) result) ↔
      (∃ i, i < lastStart src pattern ∧ i < 2 ^ 31 ∧ Occurs src.bytes pattern.bytes i) ∨
        (lastStart src pattern < 2 ^ 31 ∧ ∀ i, ¬Occurs src.bytes pattern.bytes i) := by
  have nonempty : src.bytes ≠ [] := List.length_pos_iff.mp (by omega)
  have positive : 0 < lastStart src pattern := by
    unfold lastStart
    omega
  have result := fun found => @forward_ok_iff src.bytes pattern.bytes pattern.subStr
    pattern.take_subStr pattern.length_le_subStr (lastStart src pattern) 0
    (by unfold lastStart; omega) found
  have call : find src pattern true =
      forward src.bytes pattern.subStr pattern.bytes.length (lastStart src pattern) 0 := by
    rw [find_compared nonempty short, if_neg (by omega), if_pos rfl, difference (by omega),
      toNat_lastStart]
  simp only [call, result, Scans]
  constructor
  · rintro ⟨_, ⟨found, _, _, before, counted, there, _⟩ | ⟨rfl, counted, _⟩, first⟩
    · refine .inl ⟨found, by omega, ?_, there⟩
      rcases counted with rfl | counted
      · decide
      · exact counted
    · exact .inr ⟨by omega, first⟩
  · rintro (⟨i, before, counted, there⟩ | ⟨counted, nowhere⟩)
    · classical
      have occurs : ∃ i, Occurs src.bytes pattern.bytes i := ⟨i, there⟩
      have least := Nat.find_min' occurs there
      have first : ∀ earlier, earlier < Nat.find occurs → ¬Occurs src.bytes pattern.bytes earlier :=
        fun earlier before => Nat.find_min occurs before
      exact ⟨some (Nat.find occurs), .inl ⟨_, rfl, Nat.zero_le _, by omega, .inr (by omega),
        Nat.find_spec occurs, fun earlier _ => first earlier⟩, Nat.find_spec occurs, first⟩
    · exact ⟨none, .inr ⟨rfl, .inr (by omega), fun i _ _ => nowhere i⟩, nowhere⟩

/-- The backward search is right when no occurrence is behind the position that it begins with. -/
theorem backward_right_iff (short : pattern.subLen.toNat ≤ src.bytes.length)
    (shorter : pattern.bytes.length < src.bytes.length) :
    (∃ result, find src pattern false = .ok result ∧
      IsLast (Occurs src.bytes pattern.bytes) result) ↔
      ∀ i, Occurs src.bytes pattern.bytes i →
        (i : Int) ≤ (BitVec.ofNat 32 (lastStart src pattern)).toInt := by
  have nonempty : src.bytes ≠ [] := List.length_pos_iff.mp (by omega)
  have call := @find_compared src pattern nonempty short false
  rw [if_neg (by omega), if_neg (by decide), difference (by omega), setWidth_lastStart] at call
  have low : (BitVec.ofNat 32 (lastStart src pattern)).toInt ≤ lastStart src pattern := by
    rw [BitVec.toInt_eq_toNat_cond, BitVec.toNat_ofNat]
    split <;> omega
  rw [call]
  cases start : (BitVec.ofNat 32 (lastStart src pattern)).toInt with
  | negSucc back =>
      simp only [Except.ok.injEq, exists_eq_left']
      constructor
      · exact fun nowhere i there => absurd there (nowhere i)
      · intro nowhere i there
        have negative := nowhere i there
        omega
  | ofNat first =>
      have room : first + pattern.bytes.length ≤ src.bytes.length := by
        rw [start] at low
        have inside : first ≤ lastStart src pattern := Int.ofNat_le.mp low
        unfold lastStart at inside
        omega
      obtain ⟨result, found, last⟩ := @backward_ok src.bytes pattern.bytes pattern.subStr
        pattern.take_subStr pattern.length_le_subStr first room
      have upTo : ∀ i, (Int.ofNat i ≤ Int.ofNat first ↔ i ≤ first) := fun i => Int.ofNat_le
      simp only [found, Except.ok.injEq, exists_eq_left']
      constructor
      · intro right i there
        rw [← Int.ofNat_eq_natCast, upTo]
        by_contra behind
        cases result with
        | none => exact right i there
        | some here => exact right.2 i (by have := last.1.1; omega) there
      · intro within
        have same : ∀ i, (i ≤ first ∧ Occurs src.bytes pattern.bytes i) ↔
            Occurs src.bytes pattern.bytes i :=
          fun i => ⟨And.right, fun there => ⟨(upTo i).mp (within i there), there⟩⟩
        simpa only [same] using last

/-- A source as long as the pattern is compared whole. -/
theorem find_whole (short : pattern.subLen.toNat ≤ src.bytes.length)
    (same : src.bytes.length = pattern.bytes.length) (nonempty : src.bytes ≠ []) (flag : Bool) :
    ∃ result, find src pattern flag = .ok result ∧
      IsFirst (Occurs src.bytes pattern.bytes) result ∧
      IsLast (Occurs src.bytes pattern.bytes) result := by
  have only : ∀ i, Occurs src.bytes pattern.bytes i → i = 0 := fun i there => by
    have room := there.1
    omega
  rw [find_compared nonempty short, if_pos same, same,
    sameAt_eq (by omega) pattern.take_subStr pattern.length_le_subStr]
  have hit := @occurs_iff src.bytes pattern.bytes 0 (by omega)
  by_cases there : Occurs src.bytes pattern.bytes 0
  · refine ⟨some 0, by simp only [Except.map, hit.mpr there, if_true], ⟨there, ?_⟩, there, ?_⟩
    · exact fun earlier before => absurd before (by omega)
    · exact fun later behind also => absurd (only later also) (by omega)
  · have differs : ((src.bytes.drop 0).take pattern.bytes.length == pattern.bytes) = false :=
      Bool.eq_false_iff.mpr fun equal => there (hit.mp equal)
    have nowhere : ∀ i, ¬Occurs src.bytes pattern.bytes i := fun i also =>
      there (only i also ▸ also)
    refine ⟨none, ?_, nowhere, nowhere⟩
    simp only [Except.map, differs, Bool.false_eq_true, if_false]

end Directions

/-! ### Both directions -/

theorem searches_empty_iff {src : Buffer} {pattern : Pattern} (empty : src.bytes = []) :
    Searches src pattern ↔ pattern.bytes ≠ [] := by
  have occurs : ∀ i, Occurs src.bytes pattern.bytes i ↔ i = 0 ∧ pattern.bytes = [] := by
    intro i
    rw [Occurs, empty]
    constructor
    · rintro ⟨room, _⟩
      rw [List.length_nil] at room
      exact ⟨by omega, List.eq_nil_of_length_eq_zero (by omega)⟩
    · rintro ⟨rfl, none⟩
      simp [none]
  constructor
  · rintro ⟨⟨result, found, first⟩, _, _⟩ none
    cases (find_empty empty true).symm.trans found
    exact first 0 ((occurs 0).mpr ⟨rfl, none⟩)
  · intro occupied
    have nowhere : ∀ i, ¬Occurs src.bytes pattern.bytes i := fun i there =>
      occupied ((occurs i).mp there).2
    exact ⟨⟨none, find_empty empty true, nowhere⟩, ⟨none, find_empty empty false, nowhere⟩,
      fun some => absurd some (by simp [empty])⟩

/-- Where an `int` counts the positions, the forward loop gets to an occurrence or to the end when
an occurrence at the last position is not the only one. -/
theorem reached_iff {src : Buffer} {pattern : Pattern} (counts : lastStart src pattern < 2 ^ 31) :
    ((∃ i, i < lastStart src pattern ∧ i < 2 ^ 31 ∧ Occurs src.bytes pattern.bytes i) ∨
        (lastStart src pattern < 2 ^ 31 ∧ ∀ i, ¬Occurs src.bytes pattern.bytes i)) ↔
      (Occurs src.bytes pattern.bytes (lastStart src pattern) →
        ∃ i, i < lastStart src pattern ∧ Occurs src.bytes pattern.bytes i) := by
  constructor
  · rintro (⟨i, before, _, there⟩ | ⟨_, nowhere⟩) last
    · exact ⟨i, before, there⟩
    · exact absurd last (nowhere _)
  · intro earlier
    by_cases some : ∃ i, Occurs src.bytes pattern.bytes i
    · obtain ⟨i, there⟩ := some
      rcases Nat.lt_or_eq_of_le there.le_lastStart with before | rfl
      · exact .inl ⟨i, before, by omega, there⟩
      · obtain ⟨before, less, also⟩ := earlier there
        exact .inl ⟨before, less, by omega, also⟩
    · exact .inr ⟨counts, fun i there => some ⟨i, there⟩⟩

/-- In a source that is longer than the pattern. -/
theorem searches_longer_iff {src : Buffer} {pattern : Pattern}
    (shorter : pattern.bytes.length < src.bytes.length) :
    Searches src pattern ↔
      (lastStart src pattern < 2 ^ 31 → Occurs src.bytes pattern.bytes (lastStart src pattern) →
        ∃ i, i < lastStart src pattern ∧ Occurs src.bytes pattern.bytes i) ∧
      (2 ^ 31 ≤ lastStart src pattern →
        (∃ i, i < 2 ^ 31 ∧ Occurs src.bytes pattern.bytes i) ∧
          ∀ i, Occurs src.bytes pattern.bytes i →
            (i : Int) ≤ (BitVec.ofNat 32 (lastStart src pattern)).toInt) := by
  have short := Nat.le_trans pattern.subLen_le (Nat.le_of_lt shorter)
  have split : Searches src pattern ↔
      (∃ result, find src pattern true = .ok result ∧
        IsFirst (Occurs src.bytes pattern.bytes) result) ∧
      (∃ result, find src pattern false = .ok result ∧
        IsLast (Occurs src.bytes pattern.bytes) result) :=
    ⟨fun searches => ⟨searches.forward, searches.backward⟩,
      fun ⟨first, last⟩ => ⟨first, last, fun _ _ => by omega⟩⟩
  rw [split, forward_right_iff short shorter, backward_right_iff short shorter]
  by_cases counts : lastStart src pattern < 2 ^ 31
  · have whole : (BitVec.ofNat 32 (lastStart src pattern)).toInt = lastStart src pattern := by
      rw [BitVec.toInt_eq_toNat_cond, BitVec.toNat_ofNat]
      split <;> omega
    have reached : ∀ i, Occurs src.bytes pattern.bytes i →
        (i : Int) ≤ (BitVec.ofNat 32 (lastStart src pattern)).toInt := fun i there => by
      rw [whole]
      exact Int.ofNat_le.mpr there.le_lastStart
    rw [and_iff_left reached, imp_iff_right counts,
      and_iff_left fun many => absurd counts (Nat.not_lt.mpr many)]
    exact reached_iff counts
  · rw [and_iff_right fun few => absurd few counts, imp_iff_right (Nat.not_lt.mp counts)]
    refine and_congr_left' ⟨?_, ?_⟩
    · rintro (⟨i, _, counted, there⟩ | ⟨few, _⟩)
      · exact ⟨i, counted, there⟩
      · exact absurd few counts
    · rintro ⟨i, counted, there⟩
      exact .inl ⟨i, by omega, counted, there⟩

/-- Both directions are right exactly for the arguments that are searchable. -/
theorem searches_iff (src : Buffer) (pattern : Pattern) :
    Searches src pattern ↔ Searchable src pattern := by
  by_cases empty : src.bytes = []
  · rw [searches_empty_iff empty]
    constructor
    · intro occupied
      refine ⟨fun _ => occupied, fun _ some => absurd empty some, ?_, ?_⟩ <;>
        exact fun shorter => absurd shorter (by simp [empty])
    · exact fun searchable => searchable.occupied empty
  · have positive : 0 < src.bytes.length := List.length_pos_iff.mpr empty
    rcases Nat.lt_trichotomy pattern.bytes.length src.bytes.length with shorter | same | longer
    · rw [searches_longer_iff shorter]
      constructor
      · rintro ⟨earlier, counted⟩
        exact ⟨fun none => absurd none empty, fun _ _ => Nat.le_of_lt shorter, fun _ => earlier,
          fun _ => counted⟩
      · exact fun searchable => ⟨searchable.earlier shorter, searchable.counted shorter⟩
    · have short := Nat.le_trans pattern.subLen_le (Nat.le_of_eq same)
      obtain ⟨first, found, isFirst, _⟩ := find_whole short same.symm empty true
      obtain ⟨last, foundLast, _, isLast⟩ := find_whole short same.symm empty false
      refine iff_of_true ⟨⟨first, found, isFirst⟩, ⟨last, foundLast, isLast⟩, fun _ _ => by omega⟩
        ⟨fun none => absurd none empty, fun _ _ => by omega, ?_, ?_⟩ <;>
        exact fun shorter => absurd shorter (by omega)
    · cases pattern with
      | text str size =>
          refine iff_of_false (fun searches => ?_) fun searchable => ?_
          · exact absurd (searches.subtraction positive (Nat.zero_le _)) (by omega)
          · exact absurd (searchable.fits trivial empty) (by omega)
      | buffer buf occupied =>
          have length := toNat_length buf
          have longerArgument : src.bytes.length < (Pattern.buffer buf occupied).subLen.toNat := by
            simp only [Pattern.subLen, Pattern.bytes] at longer ⊢
            omega
          have nowhere : ∀ i, ¬Occurs src.bytes (Pattern.buffer buf occupied).bytes i :=
            fun i there => by
              have room := there.1
              omega
          refine iff_of_true ⟨⟨none, find_longer longerArgument true, nowhere⟩,
            ⟨none, find_longer longerArgument false, nowhere⟩, fun _ atMost => by omega⟩
            ⟨fun none => absurd none empty, nofun, ?_, ?_⟩ <;>
            exact fun shorter => absurd shorter (by omega)

def abBuffer : Buffer := ⟨[97, 98], by decide⟩

def bBuffer : Buffer := ⟨[98], by decide⟩

/-- `b` is not found at the end of `ab`, and a C string of three characters is compared with what
stands behind a source of two. -/
theorem not_searches_lastPosition :
    find abBuffer (.buffer bBuffer (by decide)) true = .ok none ∧
      ¬Searches abBuffer (.buffer bBuffer (by decide)) ∧
      find abBuffer (.text (.ofArray [98, 98, 98]) (by decide)) true = .error .outside ∧
      ¬Searches abBuffer (.text (.ofArray [98, 98, 98]) (by decide)) := by
  have missed : find abBuffer (.buffer bBuffer (by decide)) true = .ok none := by decide
  have outside : find abBuffer (.text (.ofArray [98, 98, 98]) (by decide)) true =
      .error .outside := by decide
  refine ⟨missed, fun searches => ?_, outside, fun searches => ?_⟩
  · obtain ⟨result, found, first⟩ := searches.forward
    cases missed.symm.trans found
    exact first 1 ⟨by decide, by decide⟩
  · obtain ⟨result, found, _⟩ := searches.forward
    cases outside.symm.trans found

end AChat.Base.MemFind
