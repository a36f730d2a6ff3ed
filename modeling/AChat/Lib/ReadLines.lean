import Mathlib.Data.List.Basic

/-!
Owns the reading of a stream line by line into a buffer of fixed room: a line ends behind the stop
symbol, or where the buffer is full.

A stream that was written in pieces, each with the stop symbol at its end if at all, is read in as
many lines as there were pieces exactly when the pieces are the lines: where two pieces have room in
the buffer, every missing stop symbol saves a line.
-/

namespace AChat.Lib

variable {Symbol : Type} {stop : Symbol} {room : Nat} {stream piece rest : List Symbol}
  {pieces : List (List Symbol)}

/-! ### Pieces -/

/-- A piece that one line has room for, with the stop symbol at its end or nowhere. -/
structure Piece (stop : Symbol) (room : Nat) (piece : List Symbol) : Prop where
  occupied : piece ≠ []
  fits : piece.length ≤ room
  inner : stop ∉ piece.dropLast

/-- The stop symbol is the last one. -/
def EndsLine (stop : Symbol) (piece : List Symbol) : Prop :=
  piece.getLast? = some stop

/-- The symbols in front of the stop symbol at the end. -/
theorem Piece.exists_eq (isPiece : Piece stop room piece) (ends : EndsLine stop piece) :
    ∃ plain, piece = plain ++ [stop] ∧ stop ∉ plain ∧ plain.length < room := by
  obtain ⟨occupied, fits, inner⟩ := isPiece
  have whole := List.dropLast_append_getLast? stop ends
  refine ⟨piece.dropLast, whole.symm, inner, ?_⟩
  rw [List.length_dropLast]
  have := List.length_pos_iff.mpr occupied
  omega

/-- A piece without the stop symbol at its end is without it. -/
theorem Piece.not_mem (isPiece : Piece stop room piece) (unended : ¬EndsLine stop piece) :
    stop ∉ piece := by
  intro member
  have last : piece.getLast? = some (piece.getLast isPiece.occupied) :=
    List.getLast?_eq_some_getLast isPiece.occupied
  have whole := List.dropLast_append_getLast isPiece.occupied
  rw [← whole] at member
  rcases List.mem_append.mp member with inside | atEnd
  · exact isPiece.inner inside
  · rw [← List.mem_singleton.mp atEnd] at last
    exact unended last

/-- Two pieces, the first of them without a stop symbol, are one. -/
theorem Piece.append {half : Nat} {next : List Symbol} (isPiece : Piece stop half piece)
    (isNext : Piece stop half next) (unended : ¬EndsLine stop piece) :
    Piece stop (half + half) (piece ++ next) where
  occupied := List.append_ne_nil_of_left_ne_nil isPiece.occupied next
  fits := by
    rw [List.length_append]
    exact Nat.add_le_add isPiece.fits isNext.fits
  inner := by
    rw [List.dropLast_append_of_ne_nil isNext.occupied]
    exact List.not_mem_append (isPiece.not_mem unended) isNext.inner

theorem Piece.mono {less : Nat} (isPiece : Piece stop less piece) (le : less ≤ room) :
    Piece stop room piece :=
  ⟨isPiece.occupied, Nat.le_trans isPiece.fits le, isPiece.inner⟩

theorem prefix_dropLast (isPrefix : piece <+: stream) : piece.dropLast <+: stream.dropLast := by
  refine List.prefix_of_prefix_length_le ((List.dropLast_prefix piece).trans isPrefix)
    (List.dropLast_prefix stream) ?_
  rw [List.length_dropLast, List.length_dropLast]
  exact Nat.sub_le_sub_right isPrefix.length_le 1

/-- The first symbols of a piece are a piece. -/
theorem Piece.take {wide : Nat} (isPiece : Piece stop wide piece) (positive : 0 < room) :
    Piece stop room (piece.take room) where
  occupied := by
    rw [ne_eq, List.take_eq_nil_iff, not_or]
    exact ⟨Nat.ne_of_gt positive, isPiece.occupied⟩
  fits := List.length_take_le ..
  inner member := isPiece.inner ((prefix_dropLast (List.take_prefix room piece)).subset member)

/-! ### Lines -/

variable [DecidableEq Symbol]

/-- One line, and what is left behind it. -/
def readLine (stop : Symbol) : Nat → List Symbol → List Symbol × List Symbol
  | 0, stream => ([], stream)
  | _ + 1, [] => ([], [])
  | room + 1, symbol :: stream =>
      if symbol = stop then ([symbol], stream)
      else
        let read := readLine stop room stream
        (symbol :: read.1, read.2)

def readLinesWithin (stop : Symbol) (room : Nat) : Nat → List Symbol → List (List Symbol)
  | 0, _ => []
  | _ + 1, [] => []
  | count + 1, symbol :: stream =>
      let read := readLine stop room (symbol :: stream)
      read.1 :: readLinesWithin stop room count read.2

/-- The lines of a stream, in order. -/
def readLines (stop : Symbol) (room : Nat) (stream : List Symbol) : List (List Symbol) :=
  readLinesWithin stop room stream.length stream

/-! ### One line -/

@[simp] theorem readLine_nil (stop : Symbol) (room : Nat) : readLine stop room [] = ([], []) := by
  cases room <;> rfl

/-- What is left behind a line is the end of the stream. -/
theorem readLine_suffix (stop : Symbol) (room : Nat) (stream : List Symbol) :
    (readLine stop room stream).2 <:+ stream := by
  induction stream generalizing room with
  | nil => simp
  | cons symbol stream inductionHypothesis =>
      cases room with
      | zero => exact List.suffix_rfl
      | succ room =>
          rw [readLine]
          split
          · exact List.suffix_cons _ _
          · exact (inductionHypothesis room).trans (List.suffix_cons _ _)

theorem not_mem_dropLast_readLine (stop : Symbol) (room : Nat) (stream : List Symbol) :
    stop ∉ (readLine stop room stream).1.dropLast := by
  induction stream generalizing room with
  | nil => simp
  | cons symbol stream inductionHypothesis =>
      cases room with
      | zero => exact List.not_mem_nil
      | succ room =>
          rw [readLine]
          split
          · exact List.not_mem_nil
          · rename_i differs
            have later := inductionHypothesis room
            dsimp only
            generalize (readLine stop room stream).1 = line at later ⊢
            cases line with
            | nil => exact List.not_mem_nil
            | cons next line => exact List.not_mem_cons_of_ne_of_not_mem (Ne.symm differs) later

/-- A line takes something. -/
theorem length_readLine_lt (positive : 0 < room) (occupied : stream ≠ []) :
    (readLine stop room stream).2.length < stream.length := by
  cases stream with
  | nil => exact absurd rfl occupied
  | cons symbol stream =>
      cases room with
      | zero => cases positive
      | succ room =>
          rw [readLine]
          split
          · exact Nat.lt_succ_self _
          · exact Nat.lt_succ_of_le (readLine_suffix stop room stream).length_le

/-- With room for one symbol more, a line takes the same, or that symbol more. -/
theorem readLine_succ_cases (stop : Symbol) (room : Nat) (stream : List Symbol) :
    (readLine stop (room + 1) stream).2 = (readLine stop room stream).2 ∨
      ∃ symbol, (readLine stop room stream).2 =
        symbol :: (readLine stop (room + 1) stream).2 := by
  induction stream generalizing room with
  | nil => simp
  | cons symbol stream inductionHypothesis =>
      cases room with
      | zero =>
          refine .inr ⟨symbol, ?_⟩
          by_cases ends : symbol = stop <;> simp [readLine, ends]
      | succ room =>
          by_cases ends : symbol = stop
          · simp [readLine, ends]
          · have cases := inductionHypothesis room
            rw [readLine, readLine, if_neg ends, if_neg ends]
            exact cases

/-- A line goes on behind symbols that do not stop it. -/
theorem readLine_append {plain : List Symbol} (clear : stop ∉ plain)
    (fits : plain.length ≤ room) (rest : List Symbol) :
    readLine stop room (plain ++ rest) =
      (plain ++ (readLine stop (room - plain.length) rest).1,
        (readLine stop (room - plain.length) rest).2) := by
  induction plain generalizing room with
  | nil => rfl
  | cons symbol plain inductionHypothesis =>
      obtain ⟨here, later⟩ := List.ne_and_not_mem_of_not_mem_cons clear
      cases room with
      | zero => cases fits
      | succ room =>
          rw [List.cons_append, readLine, if_neg (Ne.symm here),
            inductionHypothesis later (Nat.le_of_succ_le_succ fits), List.length_cons,
            Nat.succ_sub_succ]
          rfl

/-! ### The line of a piece -/

/-- A piece that ends with the stop symbol is a line. -/
theorem Piece.readLine_eq (isPiece : Piece stop room piece) (ends : EndsLine stop piece)
    (rest : List Symbol) : readLine stop room (piece ++ rest) = (piece, rest) := by
  obtain ⟨plain, rfl, clear, fits⟩ := isPiece.exists_eq ends
  obtain ⟨left, isLeft⟩ := Nat.exists_eq_succ_of_ne_zero (Nat.sub_ne_zero_of_lt fits)
  rw [List.append_assoc, readLine_append clear (Nat.le_of_lt fits), isLeft]
  simp [readLine]

/-- A piece with nothing behind it is a line. -/
theorem Piece.readLine_eq_of_last (isPiece : Piece stop room piece) :
    readLine stop room piece = (piece, []) := by
  by_cases ends : EndsLine stop piece
  · have line := isPiece.readLine_eq ends []
    rwa [List.append_nil] at line
  · have line := readLine_append (isPiece.not_mem ends) isPiece.fits []
    simpa using line

/-- A line takes a piece at the front whole. -/
theorem Piece.readLine_suffix (isPiece : Piece stop room piece) (rest : List Symbol) :
    (readLine stop room (piece ++ rest)).2 <:+ rest := by
  by_cases ends : EndsLine stop piece
  · have left := congrArg Prod.snd (isPiece.readLine_eq ends rest)
    exact ⟨[], left⟩
  · rw [readLine_append (isPiece.not_mem ends) isPiece.fits]
    exact AChat.Lib.readLine_suffix ..

/-! ### The lines of a stream -/

@[simp] theorem readLines_nil (stop : Symbol) (room : Nat) : readLines stop room [] = [] :=
  rfl

theorem readLinesWithin_eq (positive : 0 < room) {count : Nat} (stream : List Symbol)
    (enough : stream.length ≤ count) :
    readLinesWithin stop room count stream = readLines stop room stream := by
  suffices same : ∀ (least count : Nat) (stream : List Symbol), stream.length ≤ least →
      stream.length ≤ count →
      readLinesWithin stop room least stream = readLinesWithin stop room count stream from
    (same stream.length count stream (Nat.le_refl _) enough).symm
  intro least
  induction least with
  | zero =>
      intro count stream small _
      cases List.eq_nil_of_length_eq_zero (Nat.le_zero.mp small)
      cases count <;> rfl
  | succ least inductionHypothesis =>
      intro count stream small enough
      cases stream with
      | nil => cases count <;> rfl
      | cons symbol stream =>
          cases count with
          | zero => cases enough
          | succ count =>
              have shorter := @length_readLine_lt _ stop _ _ _ positive
                (List.cons_ne_nil symbol stream)
              rw [List.length_cons] at *
              simp only [readLinesWithin]
              rw [inductionHypothesis count _ (by omega) (by omega)]

theorem readLines_eq_cons (positive : 0 < room) (occupied : stream ≠ []) :
    readLines stop room stream =
      (readLine stop room stream).1 :: readLines stop room (readLine stop room stream).2 := by
  cases stream with
  | nil => exact absurd rfl occupied
  | cons symbol stream =>
      have shorter := @length_readLine_lt _ stop _ _ _ positive (List.cons_ne_nil symbol stream)
      rw [← readLinesWithin_eq positive _ (Nat.le_of_lt_succ shorter)]
      rfl

/-- One symbol less at the front gives no more lines. -/
theorem length_readLines_le_cons (positive : 0 < room) (symbol : Symbol) (stream : List Symbol) :
    (readLines stop room stream).length ≤ (readLines stop room (symbol :: stream)).length := by
  obtain ⟨room, rfl⟩ := Nat.exists_eq_succ_of_ne_zero (Nat.ne_of_gt positive)
  induction size : stream.length using Nat.strongRecOn generalizing symbol stream with
  | ind size inductionHypothesis =>
      by_cases occupied : stream = []
      · rw [occupied, readLines_nil]
        exact Nat.zero_le _
      · rw [readLines_eq_cons positive (List.cons_ne_nil symbol stream), readLine]
        split
        · exact Nat.le_succ _
        · rw [readLines_eq_cons positive occupied, List.length_cons, List.length_cons]
          refine Nat.succ_le_succ ?_
          rcases readLine_succ_cases stop room stream with same | ⟨next, one⟩
          · exact Nat.le_of_eq (congrArg (fun left => (readLines stop _ left).length) same)
          · show _ ≤ (readLines stop _ (readLine stop room stream).2).length
            rw [one]
            exact inductionHypothesis _ (size ▸ length_readLine_lt positive occupied) next _ rfl

theorem length_readLines_le_of_suffix (positive : 0 < room) (suffix : piece <:+ stream) :
    (readLines stop room piece).length ≤ (readLines stop room stream).length := by
  obtain ⟨before, rfl⟩ := suffix
  induction before with
  | nil => exact Nat.le_refl _
  | cons symbol before inductionHypothesis =>
      exact Nat.le_trans inductionHypothesis (length_readLines_le_cons positive symbol _)

/-- A piece at the front is good for one line at most. -/
theorem Piece.length_readLines_le (isPiece : Piece stop room piece) (rest : List Symbol) :
    (readLines stop room (piece ++ rest)).length ≤ (readLines stop room rest).length + 1 := by
  have positive := Nat.lt_of_lt_of_le (List.length_pos_iff.mpr isPiece.occupied) isPiece.fits
  rw [readLines_eq_cons positive (List.append_ne_nil_of_left_ne_nil isPiece.occupied rest),
    List.length_cons]
  exact Nat.succ_le_succ (length_readLines_le_of_suffix positive (isPiece.readLine_suffix rest))

/-- The stop symbol is in no line but at its end. -/
theorem not_mem_dropLast_of_mem_readLines (positive : 0 < room) {line : List Symbol}
    (isLine : line ∈ readLines stop room stream) : stop ∉ line.dropLast := by
  induction size : stream.length using Nat.strongRecOn generalizing stream with
  | ind size inductionHypothesis =>
      by_cases occupied : stream = []
      · rw [occupied] at isLine
        cases isLine
      · rw [readLines_eq_cons positive occupied] at isLine
        rcases List.mem_cons.mp isLine with rfl | later
        · exact not_mem_dropLast_readLine stop room stream
        · exact inductionHypothesis _ (size ▸ length_readLine_lt positive occupied) later rfl

/-! ### The lines of pieces -/

theorem length_readLines_flatten_le (arePieces : ∀ piece ∈ pieces, Piece stop room piece) :
    (readLines stop room pieces.flatten).length ≤ pieces.length := by
  induction pieces with
  | nil => exact Nat.le_refl _
  | cons piece pieces inductionHypothesis =>
      obtain ⟨isPiece, arePieces⟩ := List.forall_mem_cons.mp arePieces
      rw [List.flatten_cons, List.length_cons]
      exact Nat.le_trans (isPiece.length_readLines_le _)
        (Nat.succ_le_succ (inductionHypothesis arePieces))

/-- Pieces of which all but the last end with the stop symbol are the lines. -/
theorem readLines_flatten (arePieces : ∀ piece ∈ pieces, Piece stop room piece)
    (ended : ∀ piece ∈ pieces.dropLast, EndsLine stop piece) :
    readLines stop room pieces.flatten = pieces := by
  induction pieces with
  | nil => rfl
  | cons piece pieces inductionHypothesis =>
      obtain ⟨isPiece, arePieces⟩ := List.forall_mem_cons.mp arePieces
      have positive := Nat.lt_of_lt_of_le (List.length_pos_iff.mpr isPiece.occupied) isPiece.fits
      rw [List.flatten_cons,
        readLines_eq_cons positive (List.append_ne_nil_of_left_ne_nil isPiece.occupied _)]
      cases pieces with
      | nil =>
          rw [List.flatten_nil, List.append_nil, isPiece.readLine_eq_of_last]
          rfl
      | cons next pieces =>
          rw [List.dropLast_cons_of_ne_nil (List.cons_ne_nil next pieces)] at ended
          obtain ⟨ends, ended⟩ := List.forall_mem_cons.mp ended
          rw [isPiece.readLine_eq ends, inductionHypothesis arePieces ended]

/-- Where the buffer has room for two pieces, as many lines as pieces mean that all pieces but the
last end with the stop symbol. -/
theorem endsLine_of_length_le {half : Nat} (double : half + half ≤ room)
    (arePieces : ∀ piece ∈ pieces, Piece stop half piece)
    (enough : pieces.length ≤ (readLines stop room pieces.flatten).length) :
    ∀ piece ∈ pieces.dropLast, EndsLine stop piece := by
  have single : half ≤ room := Nat.le_trans (Nat.le_add_left _ _) double
  have wide : ∀ piece ∈ pieces, Piece stop room piece :=
    fun piece member => (arePieces piece member).mono single
  induction pieces with
  | nil => exact nofun
  | cons piece pieces inductionHypothesis =>
      obtain ⟨isPiece, arePieces⟩ := List.forall_mem_cons.mp arePieces
      obtain ⟨isWide, wide⟩ := List.forall_mem_cons.mp wide
      cases pieces with
      | nil => exact nofun
      | cons next pieces =>
          rw [List.dropLast_cons_of_ne_nil (List.cons_ne_nil next pieces)]
          rw [List.flatten_cons, List.length_cons] at enough
          refine List.forall_mem_cons.mpr ⟨?_, ?_⟩
          · by_contra unended
            obtain ⟨isNext, -⟩ := List.forall_mem_cons.mp arePieces
            have joined := ((isPiece.append isNext unended).mono double).length_readLines_le
              pieces.flatten
            have later := length_readLines_flatten_le (List.forall_mem_cons.mp wide).2
            rw [List.flatten_cons, ← List.append_assoc, List.length_cons] at enough
            omega
          · refine inductionHypothesis arePieces ?_ wide
            have one := isWide.length_readLines_le (next :: pieces).flatten
            omega

end AChat.Lib
