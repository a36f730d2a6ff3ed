import Mathlib.Data.List.TakeWhile
import Mathlib.Data.String.Basic

/-!
Owns the text of a natural number as a `String`: it starts with a digit, holds nothing else, and
can be told from what stands behind it.
-/

namespace AChat.Lib

theorem isDigit_of_mem_toString {number : Nat} {digit : Char}
    (member : digit ∈ (toString number).toList) : digit.isDigit = true := by
  rw [Nat.toString_eq_repr, Nat.toList_repr] at member
  exact Nat.isDigit_of_mem_toDigits (by decide) (by decide) member

theorem toString_injective {left right : Nat} (same : toString left = toString right) :
    left = right := by
  have digits := congrArg String.toList same
  rw [Nat.toString_eq_repr, Nat.toString_eq_repr, Nat.toList_repr, Nat.toList_repr] at digits
  have read := congrArg (Nat.ofDigitChars 10 · 0) digits
  simp only [Nat.ofDigitChars_ten_toDigits] at read
  exact read

theorem toString_ne_empty (number : Nat) : toString number ≠ "" :=
  Nat.repr_ne_empty

theorem exists_digit_toString (number : Nat) :
    ∃ digit rest, (toString number).toList = digit :: rest ∧ digit.isDigit = true := by
  cases digits : (toString number).toList with
  | nil => exact absurd (String.toList_eq_nil_iff.mp digits) (toString_ne_empty number)
  | cons digit rest =>
      exact ⟨digit, rest, rfl, isDigit_of_mem_toString (digits ▸ List.mem_cons_self)⟩

/-- A number ends where a text goes on that does not start with a digit. -/
theorem toString_append_inj {left right : Nat} {mark : Char} {leftRest rightRest : List Char}
    (apart : mark.isDigit = false)
    (same : (toString left).toList ++ mark :: leftRest =
      (toString right).toList ++ mark :: rightRest) :
    left = right ∧ leftRest = rightRest := by
  have prefixOf : ∀ (number : Nat) (rest : List Char),
      ((toString number).toList ++ mark :: rest).takeWhile Char.isDigit =
        (toString number).toList := by
    intro number rest
    rw [List.takeWhile_append_of_pos fun digit member => isDigit_of_mem_toString member,
      List.takeWhile_cons_of_neg (by simp [apart]), List.append_nil]
  have digits := prefixOf left leftRest
  rw [same, prefixOf right rightRest] at digits
  have equal : left = right := (toString_injective (String.toList_inj.mp digits)).symm
  subst equal
  exact ⟨rfl, (List.cons.inj (List.append_cancel_left same)).2⟩

end AChat.Lib
