import Mathlib.Data.List.Basic

/-!
Owns texts of words: the words between separators, and what joining words with separators and
taking them apart again gives.
-/

namespace AChat.Lib

variable {Letter : Type} [DecidableEq Letter] (separator : Letter)

/-- The words between separators. `current` is the word that is being read, `touched` when it has
begun. Separators in a row delimit no word. -/
def wordsFrom : (text current : List Letter) → (touched : Bool) → List (List Letter)
  | [], current, touched => if touched then [current] else []
  | letter :: rest, current, touched =>
      if letter = separator then
        if touched then current :: wordsFrom rest [] false else wordsFrom rest current touched
      else wordsFrom rest (current ++ [letter]) true

/-- The words, with a separator between them. -/
def joinWords : List (List Letter) → List Letter
  | [] => []
  | word :: words => word ++ words.flatMap (separator :: ·)

variable {separator}

/-- A text without separators is read into the current word. -/
theorem wordsFrom_append {word : List Letter} (proper : separator ∉ word)
    (rest current : List Letter) (touched : Bool) :
    wordsFrom separator (word ++ rest) current touched
      = wordsFrom separator rest (current ++ word) (touched || !word.isEmpty) := by
  induction word generalizing current touched with
  | nil => simp
  | cons letter word inductionHypothesis =>
      simp only [List.mem_cons, not_or] at proper
      rw [List.cons_append, wordsFrom, if_neg (fun same => proper.1 same.symm),
        inductionHypothesis proper.2]
      simp

/-- Joined words are read back. -/
theorem wordsFrom_joinWords {words : List (List Letter)}
    (proper : ∀ word ∈ words, word ≠ [] ∧ separator ∉ word) :
    wordsFrom separator (joinWords separator words) [] false = words := by
  cases words with
  | nil => rfl
  | cons word words =>
      obtain ⟨occupied, separate⟩ := proper word (by simp)
      rw [joinWords, wordsFrom_append separate, List.nil_append]
      have begun : (false || !word.isEmpty) = true := by simpa using occupied
      rw [begun]
      -- Induction on the words behind the one that is being read.
      induction words generalizing word with
      | nil => simp [wordsFrom]
      | cons next words inductionHypothesis =>
          obtain ⟨nextOccupied, nextSeparate⟩ := proper next (by simp)
          rw [List.flatMap_cons, List.cons_append, wordsFrom, if_pos rfl, if_pos rfl,
            wordsFrom_append nextSeparate, List.nil_append]
          have nextBegun : (false || !next.isEmpty) = true := by simpa using nextOccupied
          rw [nextBegun, inductionHypothesis next ?_ nextOccupied nextSeparate nextBegun]
          intro word member
          exact proper word (by simp_all)

omit [DecidableEq Letter] in
theorem mem_joinWords {words : List (List Letter)} {letter : Letter}
    (member : letter ∈ joinWords separator words) :
    letter = separator ∨ ∃ word ∈ words, letter ∈ word := by
  cases words with
  | nil => cases member
  | cons word words =>
      rcases List.mem_append.mp member with first | later
      · exact .inr ⟨word, by simp, first⟩
      · obtain ⟨other, among, inside⟩ := List.mem_flatMap.mp later
        rcases List.mem_cons.mp inside with same | inside
        · exact .inl same
        · exact .inr ⟨other, by simp [among], inside⟩

omit [DecidableEq Letter] in
theorem joinWords_ne_nil {words : List (List Letter)} (some : words ≠ [])
    (occupied : ∀ word ∈ words, word ≠ []) : joinWords separator words ≠ [] := by
  cases words with
  | nil => exact absurd rfl some
  | cons word words =>
      intro empty
      exact occupied word (by simp) (List.append_eq_nil_iff.mp empty).1

end AChat.Lib
