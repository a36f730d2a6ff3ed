import Mathlib.Logic.Basic
import AChat.Lib.CString

/-!
Contract: for which identifiers `urltoid` gives back what `idtourl` was given.

The identifier is doubled in 32 bits, so that its highest bit is lost before the first digit is
written. What is written is read back, and two identifiers have one text when they differ at most
in that bit.
-/

namespace AChat.Base

open Lib

/-! ### The two functions -/

/-- The digits of base 36. -/
def digits : Vector UInt8 36 :=
  #v[48, 49, 50, 51, 52, 53, 54, 55, 56, 57, 97, 98, 99, 100, 101, 102, 103, 104, 105, 106, 107,
    108, 109, 110, 111, 112, 113, 114, 115, 116, 117, 118, 119, 120, 121, 122]

/-- The loop of `idtourl`: the distance of `ptr` from the start of `buf`, and the text at `ptr`. -/
def convert : Nat → Nat → Bytes → Nat × Bytes
  | 0, _, text => (0, text)
  | ptr + 1, value, text =>
      let written := digits[value % 36] :: text
      if 0 < ptr ∧ value / 36 ≠ 0 then convert ptr (value / 36) written else (ptr, written)

/-- `idtourl`; nothing when it writes before `buf`. The last of the 64 bytes of `buf` is the
terminator, and the version stands before the digits. -/
def idtourl (id : BitVec 32) : Option CString :=
  match convert 63 (id * 2 + 56).toNat [] with
  | (0, _) => none
  | (_ + 1, text) => some (.ofArray (49 :: text))

/-- The value of a character; some have none. -/
def urlDigit (c : UInt8) : Option Nat :=
  if 48 ≤ c ∧ c ≤ 57 then some (c.toNat - 48)
  else if 97 ≤ c ∧ c ≤ 122 then some (c.toNat - 87)
  else if 65 ≤ c ∧ c ≤ 90 then some (c.toNat - 55)
  else none

/-- One turn of the loop of `urltoid`. -/
def addDigit (number : BitVec 32) (c : UInt8) : BitVec 32 :=
  match urlDigit c with
  | some value => number * 36 + BitVec.ofNat 32 value
  | none => number

/-- The number that the digits of a text stand for. The length of the text is a `uint32_t`. -/
def numberOf (url : CString) : BitVec 32 :=
  ((url.bytes.take (url.strlen % 2 ^ 32)).drop 1).foldl addDigit 0

def urltoid (url : CString) : BitVec 32 :=
  (numberOf url - 56) >>> 1

/-! ### Digits -/

theorem urlDigit_digits (value : Nat) (below : value < 36) :
    urlDigit digits[value] = some value := by
  have all : ∀ digit, urlDigit (digits.get digit) = some digit.val := by decide
  exact all ⟨value, below⟩

theorem digits_ne_zero (value : Nat) (below : value < 36) : digits[value] ≠ 0 := by
  have all : ∀ digit, digits.get digit ≠ 0 := by decide
  exact all ⟨value, below⟩

theorem addDigit_digits (number value : Nat) (below : value < 36) :
    addDigit (BitVec.ofNat 32 number) digits[value] = BitVec.ofNat 32 (number * 36 + value) := by
  rw [addDigit, urlDigit_digits value below]
  apply BitVec.eq_of_toNat_eq
  simp

/-! ### The loop -/

/-- Reading what the loop wrote gives the number. -/
theorem foldl_convert (ptr value : Nat) (text : Bytes) (fits : value < 36 ^ ptr)
    (positive : 0 < ptr) :
    (convert ptr value text).2.foldl addDigit 0 =
      text.foldl addDigit (BitVec.ofNat 32 value) := by
  induction ptr generalizing value text with
  | zero => exact absurd positive (Nat.lt_irrefl 0)
  | succ ptr inductionHypothesis =>
      have below : value % 36 < 36 := Nat.mod_lt _ (by decide)
      have rest : value / 36 < 36 ^ ptr := by
        rw [Nat.pow_succ] at fits
        exact (Nat.div_lt_iff_lt_mul (by decide)).mpr fits
      have parts : value / 36 * 36 + value % 36 = value := by omega
      unfold convert
      simp only
      split
      · rename_i more
        rw [inductionHypothesis _ _ rest more.1, List.foldl_cons, addDigit_digits _ _ below, parts]
      · rename_i last
        have none : value / 36 = 0 := by
          by_cases room : 0 < ptr
          · exact not_ne_iff.mp fun more => last ⟨room, more⟩
          · obtain rfl : ptr = 0 := by omega
            rw [Nat.pow_zero] at rest
            omega
        have single := addDigit_digits 0 (value % 36) below
        rw [Nat.zero_mul, Nat.zero_add] at single
        rw [List.foldl_cons]
        change text.foldl addDigit (addDigit (BitVec.ofNat 32 0) _) = _
        rw [single]
        congr 2
        omega

theorem zero_not_mem_convert (ptr value : Nat) {text : Bytes} (noZero : 0 ∉ text) :
    0 ∉ (convert ptr value text).2 := by
  induction ptr generalizing value text with
  | zero => exact noZero
  | succ ptr inductionHypothesis =>
      have written : 0 ∉ digits[value % 36] :: text := by
        rw [List.mem_cons, not_or]
        exact ⟨(digits_ne_zero _ (Nat.mod_lt _ (by decide))).symm, noZero⟩
      unfold convert
      simp only
      split
      · exact inductionHypothesis _ written
      · exact written

/-- Every digit takes one byte of the array. -/
theorem convert_length (ptr value : Nat) (text : Bytes) :
    (convert ptr value text).1 + (convert ptr value text).2.length = ptr + text.length := by
  induction ptr generalizing value text with
  | zero => rfl
  | succ ptr inductionHypothesis =>
      unfold convert
      simp only
      split
      · rw [inductionHypothesis, List.length_cons]
        omega
      · rw [List.length_cons]
        omega

/-- A number of few digits leaves room. -/
theorem le_convert {ptr value width : Nat} (fits : value < 36 ^ width) (positive : 0 < width)
    (text : Bytes) : ptr ≤ (convert ptr value text).1 + width := by
  induction ptr generalizing value width text with
  | zero => exact Nat.zero_le _
  | succ ptr inductionHypothesis =>
      unfold convert
      simp only
      split
      · rename_i more
        obtain ⟨less, rfl⟩ : ∃ less, width = less + 1 := ⟨width - 1, by omega⟩
        have rest : value / 36 < 36 ^ less := by
          rw [Nat.pow_succ] at fits
          exact (Nat.div_lt_iff_lt_mul (by decide)).mpr fits
        have occupied : 0 < less := by
          rw [Nat.pos_iff_ne_zero]
          rintro rfl
          rw [Nat.pow_zero] at rest
          omega
        have room := @inductionHypothesis _ less rest occupied (digits[value % 36] :: text)
        omega
      · omega

/-- The number that is read from the text of an identifier. -/
theorem exists_idtourl (id : BitVec 32) :
    ∃ url, idtourl id = some url ∧ numberOf url = id * 2 + 56 := by
  have fits : (id * 2 + 56).toNat < 36 ^ 7 := Nat.lt_trans (id * 2 + 56).isLt (by decide)
  have room := @le_convert 63 _ 7 fits (by decide) []
  have length := convert_length 63 (id * 2 + 56).toNat []
  have noZero := @zero_not_mem_convert 63 (id * 2 + 56).toNat [] nofun
  have read := foldl_convert 63 (id * 2 + 56).toNat [] (Nat.lt_trans fits (by decide)) (by decide)
  unfold idtourl
  generalize convert 63 (id * 2 + 56).toNat [] = converted at *
  obtain ⟨ptr, text⟩ := converted
  simp only [List.length_nil, Nat.add_zero, List.foldl_nil] at room length noZero read
  obtain ⟨less, rfl⟩ : ∃ less, ptr = less + 1 := ⟨ptr - 1, by omega⟩
  have whole : 0 ∉ (49 : UInt8) :: text := by
    rw [List.mem_cons, not_or]
    exact ⟨by decide, noZero⟩
  have short : (text.length + 1) % 2 ^ 32 = text.length + 1 := Nat.mod_eq_of_lt (by omega)
  refine ⟨_, rfl, ?_⟩
  rw [CString.ofArray_eq whole, numberOf, CString.strlen, List.length_cons, short,
    List.take_of_length_le (Nat.le_of_eq List.length_cons), List.drop_one, List.tail_cons, read]
  exact BitVec.eq_of_toNat_eq (by simp)

/-! ### What is kept of an identifier -/

/-- The identifier without its highest bit. -/
theorem halve_double (id : BitVec 32) :
    (id * 2 + 56 - 56) >>> 1 = BitVec.ofNat 32 (id.toNat % 2 ^ 31) := by
  rw [BitVec.add_sub_cancel]
  apply BitVec.eq_of_toNat_eq
  have small := id.isLt
  have two : (2 : BitVec 32).toNat = 2 := rfl
  simp only [BitVec.toNat_ushiftRight, BitVec.toNat_mul, BitVec.toNat_ofNat, two,
    Nat.shiftRight_eq_div_pow]
  omega

theorem urltoid_idtourl (id : BitVec 32) :
    (idtourl id).map urltoid = some (BitVec.ofNat 32 (id.toNat % 2 ^ 31)) := by
  obtain ⟨url, written, number⟩ := exists_idtourl id
  rw [written, Option.map_some, ← halve_double, ← number]
  rfl

/-- Identifiers that differ at most in the highest bit have one text. -/
theorem idtourl_eq_iff (id other : BitVec 32) :
    idtourl id = idtourl other ↔ id.toNat % 2 ^ 31 = other.toNat % 2 ^ 31 := by
  constructor
  · intro same
    have read := congrArg (Option.map urltoid) same
    rw [urltoid_idtourl, urltoid_idtourl, Option.some.injEq] at read
    have numbers := congrArg BitVec.toNat read
    simp only [BitVec.toNat_ofNat] at numbers
    omega
  · intro same
    have doubled : id * 2 + 56 = other * 2 + 56 := by
      apply BitVec.eq_of_toNat_eq
      have two : (2 : BitVec 32).toNat = 2 := rfl
      simp only [BitVec.toNat_add, BitVec.toNat_mul, two]
      omega
    rw [idtourl, idtourl, doubled]

theorem urltoid_idtourl_iff (id : BitVec 32) :
    (idtourl id).map urltoid = some id ↔ id.toNat < 2 ^ 31 := by
  have small := id.isLt
  rw [urltoid_idtourl, Option.some.injEq, BitVec.toNat_eq, BitVec.toNat_ofNat]
  omega

/-- Both identifiers come back, and have different texts when they are different. -/
def Faithful (id other : BitVec 32) : Prop :=
  (idtourl id).map urltoid = some id ∧ (idtourl other).map urltoid = some other ∧
    (id ≠ other → idtourl id ≠ idtourl other)

/-- Two identifiers are encoded faithfully exactly when the highest bit of neither is set. -/
theorem faithful_iff (id other : BitVec 32) :
    Faithful id other ↔ id.toNat < 2 ^ 31 ∧ other.toNat < 2 ^ 31 := by
  rw [Faithful, urltoid_idtourl_iff, urltoid_idtourl_iff, Ne, Ne, idtourl_eq_iff]
  constructor
  · exact fun faithful => ⟨faithful.1, faithful.2.1⟩
  · rintro ⟨small, otherSmall⟩
    refine ⟨small, otherSmall, fun different same => different (BitVec.eq_of_toNat_eq ?_)⟩
    omega

/-- The identifiers 2^31 and 0 have one text, which is read as 0. -/
theorem not_faithful_highest :
    idtourl 0x80000000 = idtourl 0 ∧ ¬Faithful 0x80000000 0 := by
  have collide : idtourl 0x80000000 = idtourl 0 := by decide
  exact ⟨collide, fun faithful => faithful.2.2 (by decide) collide⟩

end AChat.Base
