import Mathlib.Data.List.Basic
import AChat.Lib.Stdio

/-!
Owns: the head of a message, lines that end in CR LF with a blank line behind the last, and the
split of a text at the first blank line, as a reader of the message makes it.
-/

namespace AChat.Lib

/-- A line's end and a blank line. -/
def blankLine : Bytes :=
  [13, 10, 13, 10]

/-- Split a text at its first blank line. -/
def splitHead : Bytes → Option (Bytes × Bytes)
  | [] => none
  | byte :: rest =>
      if (byte :: rest).take 4 = blankLine then some ([], rest.drop 3)
      else (splitHead rest).map (Prod.map (byte :: ·) id)

/-- Lines, with the ends of lines between them. -/
def headOf : List Bytes → Bytes
  | [] => []
  | [line] => line
  | line :: next :: more => line ++ 13 :: 10 :: headOf (next :: more)

/-- A line of a head: it has no CR in it, and is not blank. -/
def Line (line : Bytes) : Prop :=
  13 ∉ line ∧ line ≠ []

instance (line : Bytes) : Decidable (Line line) :=
  inferInstanceAs (Decidable (_ ∧ _))

/-- What is split off are the bytes in front of a blank line. -/
theorem eq_of_splitHead {text head body : Bytes} (split : splitHead text = some (head, body)) :
    text = head ++ blankLine ++ body := by
  induction text generalizing head with
  | nil => exact nomatch split
  | cons byte rest inductionHypothesis =>
      rw [splitHead] at split
      by_cases blank : (byte :: rest).take 4 = blankLine
      · rw [if_pos blank, Option.some.injEq, Prod.mk.injEq] at split
        obtain ⟨rfl, rfl⟩ := split
        rw [List.nil_append, ← blank]
        exact (List.take_append_drop 4 (byte :: rest)).symm
      · rw [if_neg blank, Option.map_eq_some_iff] at split
        obtain ⟨⟨front, behind⟩, found, same⟩ := split
        obtain ⟨rfl, rfl⟩ := Prod.mk.inj same
        rw [inductionHypothesis found]
        rfl

/-- More text behind the body does not move the split. -/
theorem splitHead_append {text head body : Bytes} (split : splitHead text = some (head, body))
    (more : Bytes) : splitHead (text ++ more) = some (head, body ++ more) := by
  induction text generalizing head with
  | nil => exact nomatch split
  | cons byte rest inductionHypothesis =>
      have whole := congrArg List.length (eq_of_splitHead split)
      simp only [List.length_append, blankLine, List.length_cons, List.length_nil] at whole
      have start : ((byte :: rest) ++ more).take 4 = (byte :: rest).take 4 :=
        List.take_append_of_le_length (by rw [List.length_cons]; omega)
      rw [splitHead] at split
      rw [List.cons_append, splitHead, ← List.cons_append, start]
      by_cases blank : (byte :: rest).take 4 = blankLine
      · rw [if_pos blank, Option.some.injEq, Prod.mk.injEq] at split
        obtain ⟨rfl, rfl⟩ := split
        rw [if_pos blank, List.drop_append_of_le_length (by omega)]
      · rw [if_neg blank, Option.map_eq_some_iff] at split
        obtain ⟨⟨front, behind⟩, found, same⟩ := split
        obtain ⟨rfl, rfl⟩ := Prod.mk.inj same
        rw [if_neg blank, inductionHypothesis found]
        rfl

/-- A byte that is no CR is passed over. -/
theorem splitHead_cons {byte : UInt8} (plain : byte ≠ 13) (rest : Bytes) :
    splitHead (byte :: rest) = (splitHead rest).map (Prod.map (byte :: ·) id) := by
  rw [splitHead, if_neg]
  intro blank
  rw [List.take_succ_cons] at blank
  exact plain (List.cons.inj blank).1

/-- Bytes without a CR are passed over. -/
theorem splitHead_plain {line : Bytes} (plain : 13 ∉ line) (rest : Bytes) :
    splitHead (line ++ rest) = (splitHead rest).map (Prod.map (line ++ ·) id) := by
  induction line with
  | nil =>
      rw [List.nil_append]
      cases splitHead rest <;> rfl
  | cons byte line inductionHypothesis =>
      have first : byte ≠ 13 := fun same => plain (same ▸ List.mem_cons_self)
      have others : 13 ∉ line := fun among => plain (List.mem_cons_of_mem _ among)
      rw [List.cons_append, splitHead_cons first, inductionHypothesis others, Option.map_map]
      rfl

/-- The end of a line that is not followed by a blank line is passed over. -/
theorem splitHead_lineEnd {byte : UInt8} (plain : byte ≠ 13) (rest : Bytes) :
    splitHead (13 :: 10 :: byte :: rest)
      = (splitHead (byte :: rest)).map (Prod.map (13 :: 10 :: ·) id) := by
  have noBlank : ¬ (13 :: 10 :: byte :: rest).take 4 = blankLine := by
    intro blank
    simp only [List.take_succ_cons, blankLine, List.cons.injEq] at blank
    exact plain blank.2.2.1
  rw [splitHead, if_neg noBlank, splitHead_cons (by decide), Option.map_map]
  rfl

/-- A message is split behind its lines. -/
theorem splitHead_headOf {lines : List Bytes} (occupied : lines ≠ [])
    (proper : ∀ line ∈ lines, Line line) (body : Bytes) :
    splitHead (headOf lines ++ blankLine ++ body) = some (headOf lines, body) := by
  induction lines with
  | nil => exact absurd rfl occupied
  | cons line lines inductionHypothesis =>
      have here := proper line List.mem_cons_self
      cases lines with
      | nil =>
          have blank : splitHead (blankLine ++ body) = some ([], body) := by
            simp [splitHead, blankLine]
          rw [headOf, List.append_assoc, splitHead_plain here.1, blank]
          simp
      | cons next more =>
          have later := inductionHypothesis (List.cons_ne_nil _ _) fun other among =>
            proper other (List.mem_cons_of_mem _ among)
          have there := proper next (List.mem_cons_of_mem _ List.mem_cons_self)
          obtain ⟨byte, rest, first, plain⟩ :
              ∃ byte rest, headOf (next :: more) ++ blankLine ++ body = byte :: rest ∧
                byte ≠ 13 := by
            obtain ⟨byte, tail, rfl⟩ := List.exists_cons_of_ne_nil there.2
            have plain : byte ≠ 13 := fun same => there.1 (same ▸ List.mem_cons_self)
            cases more with
            | nil => exact ⟨byte, _, rfl, plain⟩
            | cons further more => exact ⟨byte, _, rfl, plain⟩
          rw [headOf, List.append_assoc, List.append_assoc, splitHead_plain here.1,
            List.cons_append, List.cons_append, ← List.append_assoc, first,
            splitHead_lineEnd plain, ← first, later]
          rfl

end AChat.Lib
