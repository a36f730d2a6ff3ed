import Mathlib.Data.List.TakeWhile
import AChat.Lib.Stdio

/-!
Owns the strings of C, the bytes of an array before its first zero, and the part of a text in front
of the first byte of any kind.
-/

namespace AChat.Lib

/-! ### Up to a byte -/

theorem bne_of_not_mem {stop : UInt8} {text : Bytes} (absent : stop ∉ text) :
    ∀ byte ∈ text, (byte != stop) = true := by
  intro byte member
  rw [bne_iff_ne]
  rintro rfl
  exact absent member

/-- A text without the byte is taken whole. -/
theorem takeWhile_bne_eq {stop : UInt8} {text : Bytes} (absent : stop ∉ text) :
    text.takeWhile (· != stop) = text :=
  List.takeWhile_eq_self_iff.mpr (bne_of_not_mem absent)

theorem not_mem_takeWhile_bne (stop : UInt8) (text : Bytes) :
    stop ∉ text.takeWhile (· != stop) := by
  intro member
  have checked := List.mem_takeWhile_imp member
  rw [bne_self_eq_false] at checked
  cases checked

/-! ### Strings of C -/

/-- What a `char*` points at, without the terminator. -/
structure CString where
  bytes : Bytes
  noZero : 0 ∉ bytes
deriving DecidableEq

namespace CString

def strlen (str : CString) : Nat :=
  str.bytes.length

/-- The text in an array. -/
def ofArray (array : Bytes) : CString :=
  ⟨array.takeWhile (· != 0), not_mem_takeWhile_bne 0 array⟩

/-- A text without a zero is read whole. -/
theorem ofArray_eq {text : Bytes} (noZero : 0 ∉ text) : ofArray text = ⟨text, noZero⟩ := by
  simp only [ofArray, takeWhile_bne_eq noZero]

end CString

end AChat.Lib
