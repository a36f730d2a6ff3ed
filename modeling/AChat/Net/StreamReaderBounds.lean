import AChat.Lib.Reach
import AChat.Net.StreamReading

/-!
Contract: which sequences of reads stay inside the buffer.

A call of the reader either faults or returns with the cursor inside the buffer, and only
succeeds on data that is there. The two places that fault are the length of a string,
whose end is searched for without looking at the end of the buffer or of the array of
five bytes, and the text of an integer of 8 bytes, whose end is searched for without
looking at the end of its array.
-/

namespace AChat.Net

open Lib

namespace BinaryStreamReader

/-! ### Data that is there -/

/-- One of the next five bytes ends a length. -/
def LengthEnds (reader : BinaryStreamReader) : Prop :=
  ∃ byte ∈ (reader.data.drop reader.cur).take 5, continues byte = false

instance (reader : BinaryStreamReader) : Decidable reader.LengthEnds :=
  inferInstanceAs (Decidable (∃ byte ∈ _, _))

/-- The next bytes are a length and a field of this length. -/
def FieldAt (reader : BinaryStreamReader) (field : Bytes) : Prop :=
  ∃ head rest, Ended head ∧ head.length ≤ 5 ∧ read7BitEncoded head = .ok field.length ∧
    reader.data.drop reader.cur = head ++ field ++ rest

/-! ### Calls -/

inductive ReadOp where
  | readCString (strlen : Nat)
  | readString (maxlen : Nat)
  | readCCString (maxlen : Nat)
  | readInt32
  | readInt64 (int64str : Vector UInt8 128)
  | readShort
  | readChar
  | readLength
  | readLengthWithoutOffset
  | readAll (iLen : Nat)
  | isEnd
deriving DecidableEq

/-- Whether a call succeeded, and the reader after it. -/
def returned {α : Type} (result : Checked (Option α × BinaryStreamReader)) :
    Checked (Bool × BinaryStreamReader) :=
  result.map fun (value, moved) => (value.isSome, moved)

namespace ReadOp

def call (reader : BinaryStreamReader) : ReadOp → Checked (Bool × BinaryStreamReader)
  | .readCString strlen => returned (reader.readCString strlen)
  | .readString maxlen => returned (reader.readString maxlen)
  | .readCCString maxlen => returned (reader.readCCString maxlen)
  | .readInt32 => returned reader.readInt32
  | .readInt64 int64str => returned (reader.readInt64 int64str)
  | .readShort => returned reader.readShort
  | .readChar => returned reader.readChar
  | .readLength => returned reader.readLength
  | .readLengthWithoutOffset =>
      reader.readLengthWithoutOffset.map fun length => (length.isSome, reader)
  | .readAll iLen => (reader.readAll iLen).map fun _ => (true, reader)
  | .isEnd => reader.isEnd.map fun ended => (ended, reader)

/-- The data that a call needs to succeed. -/
def Whole (reader : BinaryStreamReader) : ReadOp → Prop
  | .readCString _ | .readString _ | .readCCString _ | .readInt64 _ =>
      ∃ field, reader.FieldAt field
  | .readInt32 => reader.cur + 4 ≤ reader.len
  | .readShort => reader.cur + 2 ≤ reader.len
  | .readChar => reader.cur + 1 ≤ reader.len
  | .readLength | .readLengthWithoutOffset => reader.LengthEnds
  | .readAll _ | .isEnd => True

/-- The ends that a call searches for are there: that of a length among the next five
bytes, and that of the text of an integer in its array. -/
def EndsInside (reader : BinaryStreamReader) : ReadOp → Prop
  | .readCString _ | .readString _ | .readCCString _ | .readLength
  | .readLengthWithoutOffset => reader.LengthEnds
  | .readInt64 int64str =>
      reader.LengthEnds ∧ ∀ field, reader.FieldAt field → field.length ≤ 128 →
        AtollStops (field ++ int64str.toList.drop field.length)
  | .readInt32 | .readShort | .readChar | .readAll _ | .isEnd => True

end ReadOp

/-- A call returns, succeeds only on data that is there, and leaves the cursor inside. -/
def Served (whole : Prop) (result : Checked (Bool × BinaryStreamReader)) : Prop :=
  ∃ success moved, result = .ok (success, moved) ∧ (success = true → whole) ∧
    moved.cur ≤ moved.len

/-- `Served` for a call that gives a value. -/
def Returns {α : Type} (whole : Prop) (result : Checked (Option α × BinaryStreamReader)) :
    Prop :=
  ∃ value moved, result = .ok (value, moved) ∧ (value.isSome = true → whole) ∧
    moved.cur ≤ moved.len

theorem served_returned {α : Type} {whole : Prop}
    {result : Checked (Option α × BinaryStreamReader)} :
    Served whole (returned result) ↔ Returns whole result := by
  constructor
  · rintro ⟨success, moved, equal, justified, inside⟩
    cases result with
    | error fault => cases equal
    | ok value =>
        cases equal
        exact ⟨value.1, value.2, rfl, justified, inside⟩
  · rintro ⟨value, moved, rfl, justified, inside⟩
    exact ⟨value.isSome, moved, rfl, justified, inside⟩

theorem not_returns_error {α : Type} {whole : Prop} {fault : Fault} :
    ¬Returns (α := α) whole (.error fault) := by
  rintro ⟨value, moved, equal, _⟩
  cases equal

/-! ### The bytes of a length -/

variable {reader : BinaryStreamReader}

/-- Bytes that all continue are copied up to the count, or a byte outside is read. -/
theorem copyPrefix_of_continues {temp : Nat} (count : Nat)
    (continued : ∀ byte ∈ (reader.data.drop temp).take count, continues byte = true) :
    reader.copyPrefix temp count = .ok ((reader.data.drop temp).take count) ∨
      ∃ fault, reader.copyPrefix temp count = .error fault := by
  induction count generalizing temp with
  | zero => exact .inl (by rw [List.take_zero]; rfl)
  | succ count inductionHypothesis =>
      rw [copyPrefix]
      cases unread : reader.data.drop temp with
      | nil =>
          have none : reader.byteAt temp = .error (.buffer temp) := by
            unfold byteAt
            rw [List.getElem?_eq_none (List.drop_eq_nil_iff.mp unread)]
          exact .inr ⟨_, by rw [none]; rfl⟩
      | cons byte rest =>
          rw [unread, List.take_succ_cons] at continued
          have behind := drop_succ_of_drop unread
          rw [byteAt_of_drop unread, List.take_succ_cons]
          change (if continues byte = true then _ else _) = _ ∨
            ∃ fault, (if continues byte = true then _ else _) = _
          rw [if_pos (continued byte List.mem_cons_self)]
          rcases @inductionHypothesis (temp + 1) fun other member =>
            continued other (List.mem_cons_of_mem _ (behind ▸ member)) with copied | faulted
          · rw [copied, behind]
            exact .inl rfl
          · obtain ⟨fault, faulted⟩ := faulted
            rw [faulted]
            exact .inr ⟨fault, rfl⟩

/-- A length that does not end faults. -/
theorem readLengthWithoutOffset_error (inside : reader.cur ≤ reader.len)
    (endless : ¬reader.LengthEnds) :
    ∃ fault, reader.readLengthWithoutOffset = .error fault := by
  have continued : ∀ byte ∈ (reader.data.drop reader.cur).take 5, continues byte = true := by
    intro byte member
    rcases Bool.eq_false_or_eq_true (continues byte) with more | ends
    · exact more
    · exact absurd ⟨byte, member, ends⟩ endless
  unfold readLengthWithoutOffset
  rcases copyPrefix_of_continues 5 continued with copied | ⟨fault, faulted⟩
  · have fits : ¬reader.cur + ((reader.data.drop reader.cur).take 5).length > reader.len := by
      unfold len at inside ⊢
      rw [List.length_take, List.length_drop]
      omega
    have valueless := read7Bit_of_continues (2 ^ 32) 0 0 continued
    refine ⟨.localArray, ?_⟩
    rw [copied]
    change (if _ > reader.len then _ else _) = _
    rw [if_neg fits]
    unfold read7BitEncoded
    rw [valueless]
    rfl
  · rw [faulted]
    exact ⟨fault, rfl⟩

/-- A length that ends is read. -/
theorem LengthEnds.read (inside : reader.cur ≤ reader.len) (ends : reader.LengthEnds) :
    ∃ head rest value, Ended head ∧ head.length ≤ 5 ∧ read7BitEncoded head = .ok value ∧
      reader.At (head ++ rest) ∧
      reader.readLengthWithoutOffset = .ok (some (head.length, value)) := by
  obtain ⟨head, rest, unread, ended, short⟩ := exists_ended_prefix 5 ends
  obtain ⟨value, decoded⟩ := ended.read7Bit (2 ^ 32) 0 0
  have encoded : read7BitEncoded head = .ok value := by
    unfold read7BitEncoded
    rw [decoded]
  have here : reader.At (head ++ rest) := ⟨inside, unread⟩
  exact ⟨head, rest, value, ended, short, encoded, here,
    here.readLengthWithoutOffset ended short encoded⟩

/-! ### Calls that read a length -/

theorem returns_readLength (inside : reader.cur ≤ reader.len) :
    Returns reader.LengthEnds reader.readLength ↔ reader.LengthEnds := by
  constructor
  · intro returns
    by_contra endless
    obtain ⟨fault, faulted⟩ := readLengthWithoutOffset_error inside endless
    unfold readLength at returns
    rw [faulted] at returns
    exact not_returns_error returns
  · intro ends
    obtain ⟨head, rest, value, _, _, _, here, length⟩ := ends.read inside
    refine ⟨some value, reader.skip head.length, ?_, fun _ => ends, here.fits⟩
    unfold readLength
    rw [length]
    rfl

/-- A field is found, or refused with the cursor inside. -/
theorem LengthEnds.readField (inside : reader.cur ≤ reader.len) (ends : reader.LengthEnds)
    (accepts : Nat → Bool) :
    (∃ moved, reader.readField accepts = .ok (none, moved) ∧ moved.cur ≤ moved.len) ∨
      ∃ head field rest, Ended head ∧ head.length ≤ 5 ∧
        read7BitEncoded head = .ok field.length ∧ reader.At (head ++ (field ++ rest)) ∧
        accepts field.length = true ∧
        reader.readField accepts = .ok (some field.length, reader.skip head.length) := by
  obtain ⟨head, rest, value, ended, short, decoded, here, length⟩ := ends.read inside
  have behind := here.skip
  by_cases accepted : accepts value = true
  · by_cases fits : value ≤ rest.length
    · have field : (rest.take value).length = value := List.length_take_of_le fits
      have whole : reader.At (head ++ (rest.take value ++ rest.drop value)) := by
        rw [List.take_append_drop]
        exact here
      have room := whole.skip.fits
      rw [← field] at length accepted decoded
      exact .inr ⟨head, rest.take value, rest.drop value, ended, short, decoded, whole, accepted,
        readField_eq length accepted room⟩
    · have outside : reader.cur + head.length + value > reader.len := by
        have all := congrArg List.length here.2
        unfold len
        rw [List.length_drop, List.length_append] at all
        omega
      refine .inl ⟨reader.skip head.length, ?_, here.fits⟩
      unfold BinaryStreamReader.readField
      rw [length]
      change (if accepts value = false then _
        else if reader.cur + head.length + value > reader.len then _ else _) = _
      rw [accepted, if_neg (by decide), if_pos outside]
      rfl
  · have refused : accepts value = false := Bool.eq_false_iff.mpr accepted
    refine .inl ⟨reader, ?_, inside⟩
    unfold BinaryStreamReader.readField
    rw [length]
    change (if accepts value = false then _ else _) = _
    rw [if_pos refused]
    rfl

theorem readField_error (inside : reader.cur ≤ reader.len) (endless : ¬reader.LengthEnds)
    (accepts : Nat → Bool) : ∃ fault, reader.readField accepts = .error fault := by
  obtain ⟨fault, faulted⟩ := readLengthWithoutOffset_error inside endless
  unfold readField
  rw [faulted]
  exact ⟨fault, rfl⟩

/-- A string is copied out, or refused with the cursor inside. -/
theorem LengthEnds.readCopied (inside : reader.cur ≤ reader.len) (ends : reader.LengthEnds)
    (accepts : Nat → Bool) :
    (∃ moved, reader.readCopied accepts = .ok (none, moved) ∧ moved.cur ≤ moved.len) ∨
      ∃ field moved, reader.FieldAt field ∧ accepts field.length = true ∧
        reader.readCopied accepts = .ok (some field, moved) ∧ moved.cur ≤ moved.len := by
  rcases ends.readField inside accepts with ⟨moved, refused, room⟩ |
    ⟨head, field, rest, ended, short, decoded, here, accepted, _⟩
  · refine .inl ⟨moved, ?_, room⟩
    unfold BinaryStreamReader.readCopied
    rw [refused]
    rfl
  · have there : reader.At (head ++ field ++ rest) := by
      rw [List.append_assoc]
      exact here
    exact .inr ⟨field, reader.skip (head ++ field).length,
      ⟨head, rest, ended, short, decoded, there.2⟩, accepted,
      there.readCopied ended short decoded accepted, there.fits⟩

theorem readCopied_error (inside : reader.cur ≤ reader.len) (endless : ¬reader.LengthEnds)
    (accepts : Nat → Bool) : ∃ fault, reader.readCopied accepts = .error fault := by
  obtain ⟨fault, faulted⟩ := readField_error inside endless accepts
  unfold readCopied
  rw [faulted]
  exact ⟨fault, rfl⟩

theorem returns_readCopied (inside : reader.cur ≤ reader.len) (accepts : Nat → Bool) :
    Returns (∃ field, reader.FieldAt field) (reader.readCopied accepts) ↔
      reader.LengthEnds := by
  constructor
  · intro returns
    by_contra endless
    obtain ⟨fault, faulted⟩ := readCopied_error inside endless accepts
    rw [faulted] at returns
    exact not_returns_error returns
  · intro ends
    rcases ends.readCopied inside accepts with ⟨moved, refused, room⟩ |
      ⟨field, moved, there, _, copied, room⟩
    · exact ⟨none, moved, refused, nofun, room⟩
    · exact ⟨some field, moved, copied, fun _ => ⟨field, there⟩, room⟩

theorem returns_readCCString (inside : reader.cur ≤ reader.len) (maxlen : Nat) :
    Returns (∃ field, reader.FieldAt field) (reader.readCCString maxlen) ↔
      reader.LengthEnds := by
  unfold readCCString
  constructor
  · intro returns
    by_contra endless
    obtain ⟨fault, faulted⟩ := readField_error inside endless
      fun fieldlen => decide (maxlen = 0 ∨ fieldlen ≤ maxlen)
    rw [faulted] at returns
    exact not_returns_error returns
  · intro ends
    rcases ends.readField inside fun fieldlen => decide (maxlen = 0 ∨ fieldlen ≤ maxlen) with
      ⟨moved, refused, room⟩ | ⟨head, field, rest, ended, short, decoded, here, _, found⟩
    · rw [refused]
      exact ⟨none, moved, rfl, nofun, room⟩
    · have unread : reader.data.drop reader.cur = head ++ field ++ rest := by
        rw [List.append_assoc]
        exact here.2
      rw [found]
      exact ⟨some (reader.cur + head.length, field.length),
        (reader.skip head.length).skip field.length, rfl,
        fun _ => ⟨field, head, rest, ended, short, decoded, unread⟩, here.skip.fits⟩

theorem atoll_error {text : Bytes} (endless : ¬AtollStops text) :
    atoll text = .error .localArray :=
  if_neg endless

theorem AtollStops.value {text : Bytes} (stops : AtollStops text) :
    ∃ value, atoll text = .ok value :=
  ⟨_, if_pos stops⟩

theorem returns_readInt64 (inside : reader.cur ≤ reader.len) (int64str : Vector UInt8 128) :
    Returns (∃ field, reader.FieldAt field) (reader.readInt64 int64str) ↔
      reader.LengthEnds ∧ ∀ field, reader.FieldAt field → field.length ≤ 128 →
        AtollStops (field ++ int64str.toList.drop field.length) := by
  unfold readInt64 readCString
  constructor
  · intro returns
    have ends : reader.LengthEnds := by
      by_contra endless
      obtain ⟨fault, faulted⟩ := readCopied_error inside endless
        fun fieldlen => decide (fieldlen ≤ 128)
      rw [faulted] at returns
      exact not_returns_error returns
    refine ⟨ends, ?_⟩
    rintro field ⟨head, rest, ended, short, decoded, unread⟩ fits
    by_contra endless
    have there : reader.At (head ++ field ++ rest) := ⟨inside, unread⟩
    rw [there.readCopied ended short decoded (decide_eq_true fits)] at returns
    change Returns _ (atoll (field ++ int64str.toList.drop field.length) >>= _) at returns
    rw [atoll_error endless] at returns
    exact not_returns_error returns
  · rintro ⟨ends, stops⟩
    rcases ends.readCopied inside fun fieldlen => decide (fieldlen ≤ 128) with
      ⟨moved, refused, room⟩ | ⟨field, moved, there, accepted, copied, room⟩
    · rw [refused]
      exact ⟨none, moved, rfl, nofun, room⟩
    · obtain ⟨value, read⟩ := (stops field there (of_decide_eq_true accepted)).value
      rw [copied]
      change Returns _ (atoll (field ++ int64str.toList.drop field.length) >>= _)
      rw [read]
      exact ⟨some value, moved, rfl, fun _ => ⟨field, there⟩, room⟩

/-! ### Calls that read no length -/

/-- As many bytes as there are can be copied. -/
theorem copy_inside {position count : Nat} (fits : position + count ≤ reader.len) :
    reader.copy position count = .ok ((reader.data.drop position).take count) := by
  have there : reader.data.drop position =
      (reader.data.drop position).take count ++ (reader.data.drop position).drop count :=
    (List.take_append_drop count _).symm
  have whole : ((reader.data.drop position).take count).length = count := by
    unfold len at fits
    rw [List.length_take, List.length_drop]
    omega
  have copied := copy_of_drop there
  rwa [whole] at copied

/-- A value of a fixed size is read, or refused where the cursor was. -/
theorem returns_readFixed (inside : reader.cur ≤ reader.len) (valueSize : Nat) :
    Returns (reader.cur + valueSize ≤ reader.len) (reader.readFixed valueSize) := by
  unfold readFixed
  by_cases fits : reader.cur + valueSize ≤ reader.len
  · rw [if_neg (Nat.not_lt.mpr fits), copy_inside fits]
    exact ⟨_, reader.skip valueSize, rfl, fun _ => fits, fits⟩
  · rw [if_pos (Nat.not_le.mp fits)]
    exact ⟨none, reader, rfl, nofun, inside⟩

/-- What is computed from a value does not matter. -/
theorem Returns.bind {α β : Type} {whole : Prop}
    {result : Checked (Option α × BinaryStreamReader)} (returns : Returns whole result)
    (compute : Option α → Option β) (none : compute none = none) :
    Returns whole (do
      let (value, moved) ← result
      return (compute value, moved)) := by
  obtain ⟨value, moved, rfl, justified, room⟩ := returns
  refine ⟨compute value, moved, rfl, ?_, room⟩
  intro some
  apply justified
  cases value with
  | none =>
      rw [none] at some
      cases some
  | some value => rfl

/-! ### Runs -/

/-- One call returns inside the buffer exactly when the ends it searches for are there. -/
theorem served_call (inside : reader.cur ≤ reader.len) (op : ReadOp) :
    Served (op.Whole reader) (op.call reader) ↔ op.EndsInside reader := by
  cases op with
  | readCString strlen => exact served_returned.trans (returns_readCopied inside _)
  | readString maxlen => exact served_returned.trans (returns_readCopied inside _)
  | readCCString maxlen => exact served_returned.trans (returns_readCCString inside maxlen)
  | readInt64 int64str => exact served_returned.trans (returns_readInt64 inside int64str)
  | readInt32 =>
      exact iff_of_true (served_returned.mpr ((returns_readFixed inside 4).bind _ rfl)) trivial
  | readShort =>
      exact iff_of_true (served_returned.mpr ((returns_readFixed inside 2).bind _ rfl)) trivial
  | readChar =>
      have returns := (returns_readFixed inside 1).bind (fun bytes => bytes.bind List.head?) rfl
      exact iff_of_true (served_returned.mpr returns) trivial
  | readLength => exact served_returned.trans (returns_readLength inside)
  | readLengthWithoutOffset =>
      constructor
      · rintro ⟨success, moved, equal, _⟩
        by_contra endless
        obtain ⟨fault, faulted⟩ := readLengthWithoutOffset_error inside endless
        rw [ReadOp.call, faulted] at equal
        cases equal
      · intro ends
        obtain ⟨head, rest, value, _, _, _, _, length⟩ := ends.read inside
        refine ⟨true, reader, ?_, fun _ => ends, inside⟩
        rw [ReadOp.call, length]
        rfl
  | readAll iLen =>
      have copied : reader.readAll iLen = .ok _ :=
        copy_inside (by rw [Nat.zero_add]; exact Nat.min_le_right iLen reader.len)
      refine iff_of_true ⟨true, reader, ?_, fun _ => trivial, inside⟩ trivial
      rw [ReadOp.call, copied]
      rfl
  | isEnd =>
      refine iff_of_true ⟨reader.cur == reader.len, reader, ?_, fun _ => trivial, inside⟩ trivial
      rw [ReadOp.call, BinaryStreamReader.isEnd, if_pos inside]
      rfl

/-- In a run of calls, the cursor is inside the buffer before each call and at the end,
and each call returns, and succeeds only on data that is there. -/
def ReadsInside : BinaryStreamReader → List ReadOp → Prop
  | reader, [] => reader.cur ≤ reader.len
  | reader, op :: ops =>
      reader.cur ≤ reader.len ∧ ∃ success moved, op.call reader = .ok (success, moved) ∧
        (success = true → op.Whole reader) ∧ ReadsInside moved ops

/-- The reader after a call that returns. -/
def step (reader : BinaryStreamReader) (op : ReadOp) : BinaryStreamReader :=
  match op.call reader with
  | .ok (_, moved) => moved
  | .error _ => reader

theorem ReadsInside.inside {ops : List ReadOp} (reads : ReadsInside reader ops) :
    reader.cur ≤ reader.len := by
  cases ops with
  | nil => exact reads
  | cons op ops => exact reads.1

theorem readsInside_iff_meets (inside : reader.cur ≤ reader.len) (ops : List ReadOp) :
    ReadsInside reader ops ↔ Meets step (fun reader op => op.EndsInside reader) reader ops := by
  induction ops generalizing reader with
  | nil => exact ⟨fun _ => trivial, fun _ => inside⟩
  | cons op ops inductionHypothesis =>
      have here := served_call inside op
      constructor
      · rintro ⟨_, success, moved, equal, whole, rest⟩
        have next : step reader op = moved := by
          unfold step
          rw [equal]
        refine ⟨here.mp ⟨success, moved, equal, whole, rest.inside⟩, ?_⟩
        rw [next]
        exact (inductionHypothesis rest.inside).mp rest
      · rintro ⟨ends, rest⟩
        obtain ⟨success, moved, equal, whole, room⟩ := here.mpr ends
        have next : step reader op = moved := by
          unfold step
          rw [equal]
        rw [next] at rest
        exact ⟨inside, success, moved, equal, whole, (inductionHypothesis room).mpr rest⟩

/-- From the constructor on, the calls stay inside the buffer exactly when the buffer has
room for the header and no call searches for an end that is not there. -/
theorem readsInside_iff (data : Bytes) (ops : List ReadOp) :
    ReadsInside (new data) ops ↔
      headerLen ≤ data.length ∧
        Meets step (fun reader op => op.EndsInside reader) (new data) ops := by
  constructor
  · intro reads
    exact ⟨reads.inside, (readsInside_iff_meets reads.inside ops).mp reads⟩
  · rintro ⟨room, ends⟩
    exact (readsInside_iff_meets room ops).mpr ends

/-- No header; a length behind the end; a length that does not end. -/
theorem reads_outside :
    ¬ReadsInside (new []) [] ∧
      ReadOp.call (new [0, 0, 0, 0, 0, 0]) (.readString 0) = .error (.buffer 6) ∧
      ReadOp.call (new [0, 0, 0, 0, 0, 0, 128, 128, 128, 128, 128]) .readLength =
        .error .localArray ∧
      ¬ReadsInside (new [0, 0, 0, 0, 0, 0]) [.readString 0] ∧
      ¬ReadsInside (new [0, 0, 0, 0, 0, 0, 128, 128, 128, 128, 128]) [.readLength] := by
  refine ⟨?_, by decide, by decide, ?_, ?_⟩
  · intro inside
    exact absurd inside (by decide : ¬6 ≤ 0)
  · rintro ⟨_, success, moved, equal, _⟩
    cases equal
  · rintro ⟨_, success, moved, equal, _⟩
    cases equal

end BinaryStreamReader

end AChat.Net
