import Mathlib.Data.List.Basic
import AChat.Lib.Decimal

/-!
Contract: for which templates and values successive calls of `replace_mark` replace the marks of
the template, one after the other.

The place behind the inserted text is kept in a `uint32_t`. Behind the first 2 ^ 32 bytes the next
search begins inside the text that is already filled in, and takes a mark of a value for one of the
template.

Owns: the two overloads, the text that the calls should give, and the values for which they do.
-/

namespace AChat.Base.ReplaceMark

open Lib

/-! ### The calls -/

/-- `'?'`. -/
def mark : UInt8 := 63

/-- `'\''`. -/
def quote : UInt8 := 39

/-- `str` and `begin_pos`. -/
structure Query where
  str : Bytes
  beginPos : BitVec 32
deriving DecidableEq

/-- `str.find('?', begin_pos)`, with `none` for `npos`. -/
def find (str : Bytes) (beginPos : Nat) : Option Nat :=
  ((str.drop beginPos).findIdx? (· == mark)).map (beginPos + ·)

/-- What both overloads do with the text of the value. -/
def replaceWith (query : Query) (text : Bytes) : Query :=
  match find query.str query.beginPos.toNat with
  | none => query
  | some pos =>
      { str := query.str.take pos ++ text ++ query.str.drop (pos + 1)
        beginPos := BitVec.ofNat 32 (pos + text.length) }

/-- `replace_mark` for a string. -/
def replaceMarkString (query : Query) (newValue : Bytes) : Query :=
  replaceWith query (quote :: newValue ++ [quote])

/-- `replace_mark` for a number. -/
def replaceMarkNumber (query : Query) (newValue : BitVec 32) : Query :=
  replaceWith query (decimal newValue.toNat)

inductive Value where
  | string (newValue : Bytes)
  | number (newValue : BitVec 32)
deriving DecidableEq

def replaceMark (query : Query) : Value → Query
  | .string newValue => replaceMarkString query newValue
  | .number newValue => replaceMarkNumber query newValue

/-- Successive calls that share the position. -/
def replaceMarks (query : Query) (values : List Value) : Query :=
  values.foldl replaceMark query

/-- The statement of `AudioModel::saveAudioInfo` before it is filled in. -/
def insertAudio : Bytes :=
  "insert into IMAudio(`fromId`, `toId`, `path`, `size`, ".toUTF8.data.toList ++
    "`duration`, `created`) values(?, ?, ?, ?, ?, ?)".toUTF8.data.toList

/-- `strSql` in `AudioModel::saveAudioInfo`, behind the calls. -/
def audioSql (fromId toId : BitVec 32) (path : Bytes) (realLen costTime createTime : BitVec 32) :
    Bytes :=
  (replaceMarks ⟨insertAudio, 0⟩ [.number fromId, .number toId, .string path, .number realLen,
    .number costTime, .number createTime]).str

/-! ### The text that is named -/

/-- A string in single quotes, a number in decimal. -/
def Value.text : Value → Bytes
  | .string newValue => quote :: newValue ++ [quote]
  | .number newValue => decimal newValue.toNat

/-- The template with its marks replaced in order, as long as there are values. -/
def fill : Bytes → List Value → Bytes
  | [], _ => []
  | byte :: rest, [] => byte :: rest
  | byte :: rest, value :: later =>
      if byte = mark then value.text ++ fill rest later else byte :: fill rest (value :: later)

/-- The part of that text up to the end of the last value. -/
def front : Bytes → List Value → Bytes
  | [], _ => []
  | _ :: _, [] => []
  | byte :: rest, value :: later =>
      if byte = mark then value.text ++ front rest later else byte :: front rest (value :: later)

/-- What is filled in has no mark behind the position that a `uint32_t` keeps of its end. -/
def Clear (written : Bytes) : Prop :=
  mark ∉ written.drop (written.length % 2 ^ 32)

/-- A template and a value for each of its marks. -/
structure Filling where
  template : Bytes
  values : List Value
  each : values.length = template.count mark

/-- After each call the marks so far are replaced by their values, and nothing else is changed. -/
def Fills (filling : Filling) : Prop :=
  ∀ count ≤ filling.values.length,
    (replaceMarks ⟨filling.template, 0⟩ (filling.values.take count)).str =
      fill filling.template (filling.values.take count)

/-- What is filled in before each of the values is clear. -/
def Kept (template : Bytes) (values : List Value) : Prop :=
  ∀ count < values.length, Clear (front template (values.take count))

/-! ### One call -/

variable {query : Query} {template text before rest : Bytes} {values : List Value}

theorem replaceMark_eq (query : Query) (value : Value) :
    replaceMark query value = replaceWith query value.text := by
  cases value <;> rfl

/-- The text of a value begins with another character than the mark. -/
theorem exists_text_eq (value : Value) :
    ∃ first more, value.text = first :: more ∧ first ≠ mark := by
  cases value with
  | string newValue => exact ⟨quote, newValue ++ [quote], rfl, by decide⟩
  | number newValue =>
      cases equal : decimal newValue.toNat with
      | nil => exact absurd equal (decimal_ne_nil _)
      | cons first more =>
          have member : first ∈ decimal newValue.toNat := equal ▸ List.mem_cons_self
          obtain ⟨digit, small, isDigit⟩ := digit_of_mem_decimal member
          refine ⟨first, more, equal, ?_⟩
          rintro rfl
          have value := toNat_digitByte small
          rw [← isDigit] at value
          have question : mark.toNat = 63 := rfl
          omega

theorem find_eq_none {beginPos : Nat} (clear : mark ∉ text.drop beginPos) :
    find text beginPos = none := by
  unfold find
  rw [List.findIdx?_eq_none_iff.mpr, Option.map_none]
  intro byte member
  refine beq_eq_false_iff_ne.mpr ?_
  rintro rfl
  exact clear member

/-- The first mark from the position on is found. -/
theorem find_eq_some {beginPos : Nat} (behind : beginPos ≤ before.length)
    (clear : mark ∉ before.drop beginPos) :
    find (before ++ mark :: rest) beginPos = some before.length := by
  have skipped := Option.map_eq_none_iff.mp (find_eq_none clear)
  unfold find
  rw [List.drop_append_of_le_length behind, List.findIdx?_append, skipped, List.findIdx?_cons,
    beq_self_eq_true, if_pos rfl, List.length_drop, Option.none_or, Option.map_some,
    Option.map_some, Nat.zero_add, Nat.add_sub_cancel' behind]

/-- A call replaces the first mark from the position on. -/
theorem replaceWith_eq {beginPos : BitVec 32} (behind : beginPos.toNat ≤ before.length)
    (clear : mark ∉ before.drop beginPos.toNat) :
    replaceWith ⟨before ++ mark :: rest, beginPos⟩ text =
      ⟨before ++ text ++ rest, BitVec.ofNat 32 (before.length + text.length)⟩ := by
  unfold replaceWith
  rw [find_eq_some behind clear]
  simp

/-- The text in front of the first mark from a position on. -/
theorem exists_first_mark {position : Nat} (found : mark ∈ text.drop position) :
    ∃ before rest, text = before ++ mark :: rest ∧ position ≤ before.length ∧
      mark ∉ before.drop position := by
  obtain ⟨skipped, rest, split, clear⟩ := List.eq_append_cons_of_mem found
  have inside : position ≤ text.length := by
    by_contra outside
    rw [List.drop_eq_nil_of_le (by omega)] at found
    exact List.not_mem_nil found
  have start : (text.take position).length = position := List.length_take_of_le inside
  refine ⟨text.take position ++ skipped, rest, ?_, ?_, ?_⟩
  · rw [List.append_assoc, ← split, List.take_append_drop]
  · rw [List.length_append, start]
    exact Nat.le_add_right _ _
  · rwa [List.drop_append_of_le_length (Nat.le_of_eq start.symm),
      List.drop_eq_nil_of_le (Nat.le_of_eq start), List.nil_append]

/-- What a call can do: nothing, where no mark is left, or replace the first one. -/
theorem replaceWith_cases (query : Query) (text : Bytes) :
    replaceWith query text = query ∨
      ∃ before rest, query.str = before ++ mark :: rest ∧
        (replaceWith query text).str = before ++ text ++ rest := by
  obtain ⟨str, beginPos⟩ := query
  by_cases found : mark ∈ str.drop beginPos.toNat
  · obtain ⟨before, rest, rfl, behind, clear⟩ := exists_first_mark found
    exact .inr ⟨before, rest, rfl, congrArg Query.str (replaceWith_eq behind clear)⟩
  · refine .inl ?_
    unfold replaceWith
    rw [find_eq_none found]

/-! ### The text in pieces -/

theorem fill_nil (template : Bytes) : fill template [] = template := by
  cases template <;> rfl

theorem front_nil (template : Bytes) : front template [] = [] := by
  cases template <;> rfl

theorem front_append_mark {template : Bytes} (values : List Value)
    (fewer : values.length < template.count mark) :
    ∃ gap rest, mark ∉ gap ∧
      fill template values = front template values ++ gap ++ mark :: rest ∧
      ∀ value : Value,
        front template (values ++ [value]) = front template values ++ gap ++ value.text ∧
        fill template (values ++ [value]) = front template values ++ gap ++ value.text ++ rest := by
  induction template generalizing values with
  | nil => cases fewer
  | cons byte template inductionHypothesis =>
      by_cases isMark : byte = mark
      · subst isMark
        cases values with
        | nil =>
            refine ⟨[], template, List.not_mem_nil, rfl, fun value => ?_⟩
            simp [front, fill, front_nil, fill_nil]
        | cons first later =>
            rw [List.count_cons_self, List.length_cons] at fewer
            obtain ⟨gap, rest, clear, filled, next⟩ :=
              inductionHypothesis later (Nat.lt_of_succ_lt_succ fewer)
            refine ⟨gap, rest, clear, ?_, fun value => ?_⟩
            · simp [front, fill, filled]
            · simp [front, fill, next value]
      · rw [List.count_cons_of_ne isMark] at fewer
        obtain ⟨gap, rest, clear, filled, next⟩ := inductionHypothesis values fewer
        cases values with
        | nil =>
            rw [fill_nil, front_nil] at filled
            simp only [front_nil, List.nil_append] at next
            refine ⟨byte :: gap, rest, ?_, ?_, fun value => ?_⟩
            · exact List.not_mem_cons_of_ne_of_not_mem (Ne.symm isMark) clear
            · simpa [front, fill] using filled
            · simpa [front, fill, isMark] using next value
        | cons first later =>
            refine ⟨gap, rest, clear, ?_, fun value => ?_⟩
            · simp [front, fill, isMark, filled]
            · simpa [front, fill, isMark] using next value

/-! ### Successive calls -/

/-- Where the calls are right: the text so far, and the position of its end. -/
structure Written (template : Bytes) (values : List Value) (query : Query) : Prop where
  str : query.str = fill template values
  beginPos : query.beginPos = BitVec.ofNat 32 (front template values).length

/-- A mark of what should be filled in is replaced. -/
def Overtaken (written str : Bytes) : Prop :=
  ∃ before after other rest, written = before ++ mark :: after ∧
    str = before ++ other :: rest ∧ other ≠ mark

theorem overtaken_ne {written str : Bytes} (overtaken : Overtaken written str) (more : Bytes) :
    str ≠ written ++ more := by
  obtain ⟨before, after, other, rest, rfl, rfl, different⟩ := overtaken
  intro same
  rw [List.append_assoc] at same
  exact different (List.cons_eq_cons.mp (List.append_cancel_left same)).1

/-- A replaced mark stays replaced, or an earlier one is. -/
theorem overtaken_replaceMark {written : Bytes} (overtaken : Overtaken written query.str)
    (more : Bytes) (value : Value) : Overtaken (written ++ more) (replaceMark query value).str := by
  obtain ⟨before, after, other, rest, isWritten, isStr, different⟩ := overtaken
  have extended : written ++ more = before ++ mark :: (after ++ more) := by
    rw [isWritten, List.append_assoc, List.cons_append]
  rw [replaceMark_eq]
  rcases replaceWith_cases query value.text with unchanged | ⟨left, right, split, replaced⟩
  · rw [unchanged]
    exact ⟨before, after ++ more, other, rest, extended, isStr, different⟩
  · rw [replaced]
    rw [isStr] at split
    rcases List.append_eq_append_iff.mp split with ⟨gap, isLeft, isRight⟩ | ⟨gap, isLeft, isRight⟩
    · cases gap with
      | nil => exact absurd (List.cons_eq_cons.mp isRight).1 different
      | cons first gap =>
          obtain ⟨rfl, -⟩ := List.cons_eq_cons.mp isRight
          exact ⟨before, after ++ more, other, gap ++ value.text ++ right, extended,
            by simp [isLeft], different⟩
    · cases gap with
      | nil => exact absurd (List.cons_eq_cons.mp isRight).1.symm different
      | cons first gap =>
          obtain ⟨rfl, -⟩ := List.cons_eq_cons.mp isRight
          obtain ⟨character, text, isText, noMark⟩ := exists_text_eq value
          exact ⟨left, gap ++ mark :: (after ++ more), character, text ++ right,
            by simp [extended, isLeft], by simp [isText], noMark⟩

/-- A call behind which the text is right: the position leaves out every mark that is filled in. -/
theorem written_replaceMark (writtenNow : Written template values query)
    (fewer : values.length < template.count mark) (clear : Clear (front template values))
    (value : Value) :
    Written template (values ++ [value]) (replaceMark query value) := by
  obtain ⟨str, beginPos⟩ := query
  obtain ⟨isStr, isPos⟩ := writtenNow
  obtain ⟨gap, rest, noMark, filled, next⟩ := front_append_mark values fewer
  simp only at isStr isPos
  have position : beginPos.toNat = (front template values).length % 2 ^ 32 := by
    rw [isPos, BitVec.toNat_ofNat]
  have inside : beginPos.toNat ≤ (front template values).length :=
    position ▸ Nat.mod_le _ _
  have behind : beginPos.toNat ≤ (front template values ++ gap).length := by
    rw [List.length_append]
    omega
  have clear' : mark ∉ (front template values ++ gap).drop beginPos.toNat := by
    rw [List.drop_append_of_le_length inside, List.mem_append, position]
    exact not_or_intro clear noMark
  rw [isStr, filled, replaceMark_eq, replaceWith_eq behind clear']
  refine ⟨(next value).2.symm, ?_⟩
  have ends := (congrArg List.length (next value).1).trans List.length_append
  exact congrArg (BitVec.ofNat 32) ends.symm

/-- A call that begins in front of a mark that is filled in replaces that mark. -/
theorem overtaken_of_written (writtenNow : Written template values query)
    (fewer : values.length < template.count mark) (hidden : ¬Clear (front template values))
    (value : Value) :
    Overtaken (front template (values ++ [value])) (replaceMark query value).str := by
  obtain ⟨str, beginPos⟩ := query
  obtain ⟨isStr, isPos⟩ := writtenNow
  obtain ⟨gap, rest, -, filled, next⟩ := front_append_mark values fewer
  simp only at isStr isPos
  have position : beginPos.toNat = (front template values).length % 2 ^ 32 := by
    rw [isPos, BitVec.toNat_ofNat]
  have found : mark ∈ (front template values).drop beginPos.toNat :=
    position ▸ not_not.mp hidden
  obtain ⟨read, after, whole, behind, clear⟩ := exists_first_mark found
  have isSplit : str = read ++ mark :: (after ++ (gap ++ mark :: rest)) := by
    rw [isStr, filled, whole]
    simp
  obtain ⟨character, text, isText, noMark⟩ := exists_text_eq value
  rw [replaceMark_eq, isSplit, replaceWith_eq behind clear, (next value).1, whole]
  exact ⟨read, after ++ (gap ++ value.text), character, text ++ (after ++ (gap ++ mark :: rest)),
    by simp, by simp [isText], noMark⟩

theorem kept_append_iff (template : Bytes) (values : List Value) (value : Value) :
    Kept template (values ++ [value]) ↔ Kept template values ∧ Clear (front template values) := by
  unfold Kept
  rw [List.length_append, List.length_singleton]
  constructor
  · intro kept
    refine ⟨fun count early => ?_, ?_⟩
    · have clear := kept count (Nat.lt_succ_of_lt early)
      rwa [List.take_append_of_le_length (Nat.le_of_lt early)] at clear
    · have clear := kept values.length (Nat.lt_succ_self _)
      rwa [List.take_left] at clear
  · rintro ⟨kept, clear⟩ count early
    rcases Nat.lt_or_eq_of_le (Nat.le_of_lt_succ early) with early | rfl
    · rw [List.take_append_of_le_length (Nat.le_of_lt early)]
      exact kept count early
    · rwa [List.take_left]

/-- Behind every number of calls, the text is right where each position left out what was filled
in, and spoilt for good elsewhere. -/
theorem replaceMarks_cases (template : Bytes) (values : List Value)
    (enough : values.length ≤ template.count mark) :
    (Kept template values ∧ Written template values (replaceMarks ⟨template, 0⟩ values)) ∨
      (¬Kept template values ∧
        Overtaken (front template values) (replaceMarks ⟨template, 0⟩ values).str) := by
  induction values using List.reverseRecOn with
  | nil =>
      refine .inl ⟨nofun, (fill_nil template).symm, ?_⟩
      rw [front_nil]
      rfl
  | append_singleton values value inductionHypothesis =>
      rw [List.length_append, List.length_singleton] at enough
      have run : replaceMarks ⟨template, 0⟩ (values ++ [value]) =
          replaceMark (replaceMarks ⟨template, 0⟩ values) value := List.foldl_concat ..
      rw [run, kept_append_iff]
      rcases inductionHypothesis (Nat.le_of_succ_le enough) with ⟨kept, written⟩ | ⟨lost, spoilt⟩
      · by_cases clear : Clear (front template values)
        · exact .inl ⟨⟨kept, clear⟩, written_replaceMark written enough clear value⟩
        · exact .inr ⟨fun both => clear both.2, overtaken_of_written written enough clear value⟩
      · obtain ⟨gap, rest, -, -, next⟩ := front_append_mark values enough
        refine .inr ⟨fun both => lost both.1, ?_⟩
        rw [(next value).1, List.append_assoc]
        exact overtaken_replaceMark spoilt _ value

/-- The text that is filled in goes on behind its front. -/
theorem exists_fill_eq (template : Bytes) (values : List Value) :
    ∃ rest, fill template values = front template values ++ rest := by
  induction template generalizing values with
  | nil => exact ⟨[], by cases values <;> rfl⟩
  | cons byte template inductionHypothesis =>
      cases values with
      | nil => exact ⟨byte :: template, rfl⟩
      | cons first later =>
          by_cases isMark : byte = mark
          · obtain ⟨rest, filled⟩ := inductionHypothesis later
            exact ⟨rest, by simp [fill, front, isMark, filled]⟩
          · obtain ⟨rest, filled⟩ := inductionHypothesis (first :: later)
            exact ⟨rest, by simp [fill, front, isMark, filled]⟩

/-- The text behind the calls is right exactly when each of them left out what was filled in. -/
theorem str_replaceMarks_iff (template : Bytes) (values : List Value)
    (enough : values.length ≤ template.count mark) :
    (replaceMarks ⟨template, 0⟩ values).str = fill template values ↔ Kept template values := by
  rcases replaceMarks_cases template values enough with ⟨kept, written⟩ | ⟨lost, spoilt⟩
  · exact ⟨fun _ => kept, fun _ => written.str⟩
  · obtain ⟨rest, filled⟩ := exists_fill_eq template values
    refine ⟨fun right => ?_, fun kept => absurd kept lost⟩
    rw [filled] at right
    exact absurd right (overtaken_ne spoilt rest)

/-- The calls replace mark after mark by value after value exactly when no position that a
`uint32_t` keeps is in front of a mark that came from a value or was replaced too early. -/
theorem fills_iff (filling : Filling) : Fills filling ↔ Kept filling.template filling.values := by
  have enough : ∀ count, (filling.values.take count).length ≤ filling.template.count mark :=
    fun count => filling.each ▸ List.length_take_le' ..
  constructor
  · intro fills
    have right := fills filling.values.length (Nat.le_refl _)
    rw [List.take_length] at right
    exact (str_replaceMarks_iff _ _ (Nat.le_of_eq filling.each)).mp right
  · intro kept count inside
    refine (str_replaceMarks_iff _ _ (enough count)).mpr fun earlier early => ?_
    rw [List.take_take, Nat.min_eq_left (Nat.le_of_lt (Nat.lt_of_lt_of_le early (by simp)))]
    exact kept earlier (Nat.lt_of_lt_of_le early (List.length_take_le' ..))

example : (replaceMarks ⟨[mark, 44, mark], 0⟩ [.string [mark], .number 7]).str =
    [quote, mark, quote, 44, 55] := by decide

/-- For the template `??`, a string of 2 ^ 32 marks and the number 7, the number is written into
the string: the remembered position is 2. -/
theorem not_fills_long :
    ¬Fills ⟨[mark, mark], [.string (List.replicate (2 ^ 32) mark), .number 7], rfl⟩ := by
  intro fills
  have kept := (str_replaceMarks_iff [mark, mark] [.string _, .number 7] (Nat.le_refl 2)).mp
    (fills 2 (Nat.le_refl 2))
  have clear := kept 1 (Nat.lt_succ_self 1)
  have written : front [mark, mark] [.string (List.replicate (2 ^ 32) mark)] =
      quote :: (List.replicate (2 ^ 32) mark ++ [quote]) := List.append_nil _
  have size : (quote :: (List.replicate (2 ^ 32) mark ++ [quote])).length % 2 ^ 32 = 2 := by
    rw [List.length_cons, List.length_append, List.length_replicate]
    rfl
  have member : mark ∈ (quote :: (List.replicate (2 ^ 32) mark ++ [quote])).drop 2 := by
    rw [List.drop_succ_cons, List.drop_append_of_le_length (by rw [List.length_replicate]; decide),
      List.drop_replicate]
    exact List.mem_append_left _ (List.mem_replicate.mpr ⟨by decide, rfl⟩)
  have hidden : ¬Clear (front [mark, mark] [.string (List.replicate (2 ^ 32) mark)]) := by
    rw [written]
    unfold Clear
    rw [size]
    exact not_not.mpr member
  exact hidden clear

/-! ### Texts of ordinary length -/

theorem front_prefix_append (template : Bytes) (values more : List Value) :
    front template values <+: front template (values ++ more) := by
  induction template generalizing values with
  | nil => cases values <;> exact List.nil_prefix
  | cons byte template inductionHypothesis =>
      cases values with
      | nil => exact List.nil_prefix
      | cons first later =>
          by_cases isMark : byte = mark
          · simpa [front, isMark] using inductionHypothesis later
          · simpa [front, isMark] using inductionHypothesis (first :: later)

/-- Below 2 ^ 32 bytes every position is kept. -/
theorem kept_of_length_lt (short : (fill template values).length < 2 ^ 32) :
    Kept template values := by
  intro count _
  obtain ⟨rest, filled⟩ := exists_fill_eq template values
  have included := (front_prefix_append template (values.take count) (values.drop count)).length_le
  rw [List.take_append_drop] at included
  have below : (front template (values.take count)).length < 2 ^ 32 := by
    rw [filled, List.length_append] at short
    omega
  unfold Clear
  rw [Nat.mod_eq_of_lt below, List.drop_length]
  exact List.not_mem_nil

theorem length_fill_le (template : Bytes) (values : List Value) :
    (fill template values).length ≤
      template.length + (values.map fun value => value.text.length).sum := by
  induction template generalizing values with
  | nil => simp [fill]
  | cons byte template inductionHypothesis =>
      cases values with
      | nil => simp [fill]
      | cons first later =>
          have afterMark := inductionHypothesis later
          have afterText := inductionHypothesis (first :: later)
          simp only [fill, List.map_cons, List.sum_cons, List.length_cons] at *
          split
          · rw [List.length_append]
            omega
          · rw [List.length_cons]
            omega

theorem length_text_number_le (newValue : BitVec 32) :
    (Value.number newValue).text.length ≤ 10 := by
  rcases Nat.eq_zero_or_pos newValue.toNat with zero | positive
  · simp [Value.text, zero, decimal]
  · exact (length_decimal_le_iff positive 10).mpr (Nat.lt_trans newValue.isLt (by decide))

/-- The statement of an audio message holds its six values, whatever marks the path has, for a
path that leaves the statement below 2 ^ 32 bytes. -/
theorem audioSql_eq (fromId toId : BitVec 32) {path : Bytes}
    (realLen costTime createTime : BitVec 32) (short : path.length + 256 ≤ 2 ^ 32) :
    audioSql fromId toId path realLen costTime createTime =
      fill insertAudio [.number fromId, .number toId, .string path, .number realLen,
        .number costTime, .number createTime] := by
  have marks : insertAudio.count mark = 6 := rfl
  have size : insertAudio.length = 101 := rfl
  have quoted : (Value.string path).text.length = path.length + 2 := by
    simp [Value.text]
  have number := length_text_number_le
  have bound := length_fill_le insertAudio [.number fromId, .number toId, .string path,
    .number realLen, .number costTime, .number createTime]
  simp only [List.map_cons, List.map_nil, List.sum_cons, List.sum_nil] at bound
  have enough : 6 ≤ insertAudio.count mark := Nat.le_of_eq marks.symm
  refine (str_replaceMarks_iff insertAudio [.number fromId, .number toId, .string path,
    .number realLen, .number costTime, .number createTime] enough).mpr (kept_of_length_lt ?_)
  have := number fromId
  have := number toId
  have := number realLen
  have := number costTime
  have := number createTime
  omega

end AChat.Base.ReplaceMark
