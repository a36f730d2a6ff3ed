import AChat.Lib.Loop

/-!
Owns the cutting of a stream into frames: what a framing has to keep when more of the
stream arrives, the frames of a stream and what is left behind them, and receivers, which
hand on frame after frame from a buffer that grows.

The frames that a receiver hands on do not depend on how the stream is cut into arrivals.
-/

namespace AChat.Lib

/-- What stands at the front of a stream. -/
inductive Front (Symbol Frame : Type) where
  | more
  | illegal
  | frame (frame : Frame) (rest : List Symbol)
deriving DecidableEq, Repr

/-- A way to cut frames off a stream. A frame takes something away, and what was seen stays
as it is when more arrives. -/
structure Framing (Symbol Frame : Type) where
  front : List Symbol → Front Symbol Frame
  consumes : ∀ {stream frame rest}, front stream = .frame frame rest →
    rest.length < stream.length
  frame_append : ∀ {stream frame rest}, front stream = .frame frame rest →
    ∀ later, front (stream ++ later) = .frame frame (rest ++ later)
  illegal_append : ∀ {stream}, front stream = .illegal →
    ∀ later, front (stream ++ later) = .illegal

namespace Framing

variable {Symbol Frame : Type} (framing : Framing Symbol Frame)

/-- No frame stands at the front. -/
def Stops (stream : List Symbol) : Prop :=
  ∀ frame rest, framing.front stream ≠ .frame frame rest

def cutWithin : Nat → List Symbol → List Frame × List Symbol
  | 0, stream => ([], stream)
  | count + 1, stream =>
      match framing.front stream with
      | .frame frame rest =>
          let cut := cutWithin count rest
          (frame :: cut.1, cut.2)
      | _ => ([], stream)

/-- The frames of a stream, in order. -/
def frames (stream : List Symbol) : List Frame :=
  (framing.cutWithin stream.length stream).1

/-- What is left behind the frames. -/
def rest (stream : List Symbol) : List Symbol :=
  (framing.cutWithin stream.length stream).2

/-! ### Cutting -/

theorem cutWithin_of_stops (count : Nat) {stream : List Symbol} (stops : framing.Stops stream) :
    framing.cutWithin count stream = ([], stream) := by
  cases count with
  | zero => rfl
  | succ count =>
      rw [cutWithin]
      split
      · rename_i found
        exact absurd found (stops _ _)
      · rfl

theorem cutWithin_of_frame {count : Nat} {stream rest : List Symbol} {frame : Frame}
    (found : framing.front stream = .frame frame rest) :
    framing.cutWithin (count + 1) stream =
      (frame :: (framing.cutWithin count rest).1, (framing.cutWithin count rest).2) := by
  rw [cutWithin, found]

/-- Cutting is by the frame at the front. -/
theorem front_induction {motive : List Symbol → Prop}
    (stops : ∀ stream, framing.Stops stream → motive stream)
    (frame : ∀ stream frame rest, framing.front stream = .frame frame rest → motive rest →
      motive stream) (stream : List Symbol) : motive stream := by
  induction size : stream.length using Nat.strongRecOn generalizing stream with
  | ind size inductionHypothesis =>
      cases found : framing.front stream with
      | more => exact stops stream fun _ _ other => nomatch found.symm.trans other
      | illegal => exact stops stream fun _ _ other => nomatch found.symm.trans other
      | frame first rest =>
          have falls := framing.consumes found
          exact frame stream first rest found (inductionHypothesis _ (by omega) rest rfl)

/-- More steps than symbols cut no more. -/
theorem cutWithin_eq (stream : List Symbol) :
    ∀ count, stream.length ≤ count →
      framing.cutWithin count stream = (framing.frames stream, framing.rest stream) := by
  induction stream using framing.front_induction with
  | stops stream stops =>
      intro count _
      unfold frames rest
      rw [framing.cutWithin_of_stops count stops, framing.cutWithin_of_stops _ stops]
  | frame stream frame rest found inductionHypothesis =>
      intro count enough
      have falls := framing.consumes found
      obtain ⟨more, rfl⟩ : ∃ more, count = more + 1 := ⟨count - 1, by omega⟩
      obtain ⟨size, length⟩ : ∃ size, stream.length = size + 1 := ⟨stream.length - 1, by omega⟩
      unfold frames Framing.rest
      rw [length, framing.cutWithin_of_frame found, framing.cutWithin_of_frame found,
        inductionHypothesis more (by omega), inductionHypothesis size (by omega)]

theorem frames_of_stops {stream : List Symbol} (stops : framing.Stops stream) :
    framing.frames stream = [] :=
  congrArg Prod.fst (framing.cutWithin_of_stops _ stops)

theorem rest_of_stops {stream : List Symbol} (stops : framing.Stops stream) :
    framing.rest stream = stream :=
  congrArg Prod.snd (framing.cutWithin_of_stops _ stops)

theorem cut_of_frame {stream rest : List Symbol} {frame : Frame}
    (found : framing.front stream = .frame frame rest) :
    framing.frames stream = frame :: framing.frames rest ∧
      framing.rest stream = framing.rest rest := by
  have falls := framing.consumes found
  obtain ⟨size, length⟩ : ∃ size, stream.length = size + 1 := ⟨stream.length - 1, by omega⟩
  have cut : framing.cutWithin stream.length stream =
      (frame :: framing.frames rest, framing.rest rest) := by
    rw [length, framing.cutWithin_of_frame found, framing.cutWithin_eq rest size (by omega)]
  have first := congrArg Prod.fst cut
  have second := congrArg Prod.snd cut
  exact ⟨first, second⟩

/-- No frame stands at the front of what is left. -/
theorem stops_rest (stream : List Symbol) : framing.Stops (framing.rest stream) := by
  induction stream using framing.front_induction with
  | stops stream stops =>
      rw [framing.rest_of_stops stops]
      exact stops
  | frame stream frame rest found inductionHypothesis =>
      rw [(framing.cut_of_frame found).2]
      exact inductionHypothesis

/-- Cutting a stream that goes on is cutting its start, and then what is left with what comes. -/
theorem cut_append (stream later : List Symbol) :
    framing.frames (stream ++ later) =
        framing.frames stream ++ framing.frames (framing.rest stream ++ later) ∧
      framing.rest (stream ++ later) = framing.rest (framing.rest stream ++ later) := by
  induction stream using framing.front_induction with
  | stops stream stops =>
      rw [framing.frames_of_stops stops, framing.rest_of_stops stops]
      exact ⟨rfl, rfl⟩
  | frame stream frame rest found inductionHypothesis =>
      have here := framing.cut_of_frame found
      have longer := framing.cut_of_frame (framing.frame_append found later)
      rw [here.1, here.2, longer.1, longer.2, inductionHypothesis.1, inductionHypothesis.2]
      exact ⟨rfl, rfl⟩

theorem stops_of_illegal {stream : List Symbol} (illegal : framing.front stream = .illegal) :
    framing.Stops stream := by
  intro frame rest found
  cases illegal.symm.trans found

/-- Frames that are written one after the other are cut again. -/
theorem cut_of_encoded {encode : Frame → List Symbol} {tail : List Symbol} (sent : List Frame)
    (decodes : ∀ frame ∈ sent, ∀ later, framing.front (encode frame ++ later) = .frame frame later)
    (stops : framing.Stops tail) :
    framing.frames (sent.flatMap encode ++ tail) = sent ∧
      framing.rest (sent.flatMap encode ++ tail) = tail := by
  induction sent with
  | nil => exact ⟨framing.frames_of_stops stops, framing.rest_of_stops stops⟩
  | cons frame sent inductionHypothesis =>
      have found := decodes frame List.mem_cons_self (sent.flatMap encode ++ tail)
      have cut := framing.cut_of_frame found
      have later := inductionHypothesis fun other member =>
        decodes other (List.mem_cons_of_mem _ member)
      rw [later.1, later.2] at cut
      rw [List.flatMap_cons, List.append_assoc]
      exact cut

/-- Of a part of encoded frames, the frames that are there are cut, in order; what is left of
the part and what is missing are the other frames. -/
theorem cut_of_part {encode : Frame → List Symbol} (sent : List Frame)
    (decodes : ∀ frame ∈ sent, ∀ later, framing.front (encode frame ++ later) = .frame frame later)
    {part missing : List Symbol} (whole : part ++ missing = sent.flatMap encode) :
    ∃ count ≤ sent.length, framing.frames part = sent.take count ∧
      framing.rest part ++ missing = (sent.drop count).flatMap encode ∧
      (missing = [] → count = sent.length) := by
  by_cases stops : framing.Stops part
  · refine ⟨0, Nat.zero_le _, framing.frames_of_stops stops, ?_, ?_⟩
    · rw [framing.rest_of_stops stops]
      exact whole
    · rintro rfl
      cases sent with
      | nil => rfl
      | cons frame sent =>
          rw [List.append_nil, List.flatMap_cons] at whole
          have found := decodes frame List.mem_cons_self (sent.flatMap encode)
          rw [← whole] at found
          exact absurd found (stops _ _)
  · unfold Stops at stops
    simp only [not_forall, not_not] at stops
    obtain ⟨first, rest, found⟩ := stops
    cases sent with
    | nil =>
        obtain ⟨rfl, -⟩ := List.append_eq_nil_iff.mp whole
        exact absurd (framing.consumes found) (Nat.not_lt_zero _)
    | cons frame sent =>
        have here := framing.frame_append found missing
        rw [whole, List.flatMap_cons, decodes frame List.mem_cons_self] at here
        obtain ⟨rfl, behind⟩ := Front.frame.inj here
        have falls := framing.consumes found
        obtain ⟨count, inside, cut, left, all⟩ := cut_of_part sent
          (fun other member => decodes other (List.mem_cons_of_mem _ member)) behind.symm
        have both := framing.cut_of_frame found
        refine ⟨count + 1, Nat.succ_le_succ inside, ?_, ?_, fun none => congrArg (· + 1) (all none)⟩
        · rw [both.1, cut]
          rfl
        · rw [both.2, left]
          rfl
termination_by part.length

end Framing

/-! ### Receivers -/

/-- What is done with a frame, and at an illegal front. -/
structure Receiver (Symbol Frame State : Type) where
  framing : Framing Symbol Frame
  deliver : State → Frame → State
  reject : State → State

namespace Receiver

variable {Symbol Frame State : Type} (receiver : Receiver Symbol Frame State)

def turn (received : State × List Symbol) :
    Turn (State × List Symbol) (State × List Symbol) :=
  match receiver.framing.front received.2 with
  | .more => .leave received
  | .illegal => .leave (receiver.reject received.1, received.2)
  | .frame frame rest => .again (receiver.deliver received.1 frame, rest)

/-- The state after the frames of a stream. -/
def delivered (state : State) (stream : List Symbol) : State :=
  (receiver.framing.frames stream).foldl receiver.deliver state

theorem delivered_of_stops {stream : List Symbol} (stops : receiver.framing.Stops stream)
    (state : State) : receiver.delivered state stream = state := by
  unfold delivered
  rw [receiver.framing.frames_of_stops stops]
  rfl

/-- What the loop does: it hands on all frames, and rejects what is illegal behind them. -/
def received (state : State) (stream : List Symbol) : State × List Symbol :=
  (match receiver.framing.front (receiver.framing.rest stream) with
    | .illegal => receiver.reject (receiver.delivered state stream)
    | _ => receiver.delivered state stream,
    receiver.framing.rest stream)

theorem leaves_turn (state : State) (stream : List Symbol) :
    Leaves receiver.turn (state, stream) (receiver.received state stream) := by
  induction stream using receiver.framing.front_induction generalizing state with
  | stops stream stops =>
      apply Leaves.leave
      unfold turn received
      rw [receiver.delivered_of_stops stops, receiver.framing.rest_of_stops stops]
      cases front : receiver.framing.front stream with
      | more => rfl
      | illegal => rfl
      | frame frame rest => exact absurd front (stops frame rest)
  | frame stream frame rest found inductionHypothesis =>
      have cut := receiver.framing.cut_of_frame found
      have goes : receiver.turn (state, stream) = .again (receiver.deliver state frame, rest) := by
        unfold turn
        rw [found]
      have same : receiver.received state stream =
          receiver.received (receiver.deliver state frame) rest := by
        unfold received delivered
        rw [cut.1, cut.2]
        rfl
      rw [same]
      exact .again goes (inductionHypothesis _)

/-- More of the stream arrives, and the loop runs. -/
def arrive (buffered : State × List Symbol) (chunk : List Symbol) : State × List Symbol :=
  receiver.received buffered.1 (buffered.2 ++ chunk)

/-- What is left after the arrivals does not depend on how they are cut. -/
theorem rest_arrivals (chunks : List (List Symbol)) {state : State} {buffer : List Symbol}
    (stops : receiver.framing.Stops buffer) :
    (chunks.foldl receiver.arrive (state, buffer)).2 =
      receiver.framing.rest (buffer ++ chunks.flatten) := by
  induction chunks generalizing state buffer with
  | nil => rw [List.flatten_nil, List.append_nil, receiver.framing.rest_of_stops stops, List.foldl]
  | cons chunk chunks inductionHypothesis =>
      have left := receiver.framing.stops_rest (buffer ++ chunk)
      rw [List.foldl_cons, List.flatten_cons, ← List.append_assoc,
        (receiver.framing.cut_append (buffer ++ chunk) chunks.flatten).2]
      exact inductionHypothesis left

section View

variable {View : Type} {view : State → View}
  (unseen : ∀ state, view (receiver.reject state) = view state)

include unseen

/-- Nothing is handed on once the front is illegal. -/
theorem view_arrivals_of_illegal (chunks : List (List Symbol)) {state : State}
    {buffer : List Symbol} (illegal : receiver.framing.front buffer = .illegal) :
    view (chunks.foldl receiver.arrive (state, buffer)).1 = view state := by
  induction chunks generalizing state buffer with
  | nil => rfl
  | cons chunk chunks inductionHypothesis =>
      have later := receiver.framing.illegal_append illegal chunk
      have stops := receiver.framing.stops_of_illegal later
      have arrived : receiver.arrive (state, buffer) chunk =
          (receiver.reject state, buffer ++ chunk) := by
        unfold arrive received
        simp only
        rw [receiver.framing.rest_of_stops stops, receiver.delivered_of_stops stops, later]
      rw [List.foldl_cons, arrived, inductionHypothesis later, unseen]

/-- What is seen of the frames does not depend on how the stream is cut into arrivals. -/
theorem view_arrivals (chunks : List (List Symbol)) {state : State} {buffer : List Symbol}
    (stops : receiver.framing.Stops buffer) :
    view (chunks.foldl receiver.arrive (state, buffer)).1 =
      view (receiver.delivered state (buffer ++ chunks.flatten)) := by
  induction chunks generalizing state buffer with
  | nil => rw [List.flatten_nil, List.append_nil, receiver.delivered_of_stops stops, List.foldl]
  | cons chunk chunks inductionHypothesis =>
      have left := receiver.framing.stops_rest (buffer ++ chunk)
      have cut := (receiver.framing.cut_append (buffer ++ chunk) chunks.flatten).1
      have whole : receiver.delivered state (buffer ++ (chunk :: chunks).flatten) =
          receiver.delivered (receiver.delivered state (buffer ++ chunk))
            (receiver.framing.rest (buffer ++ chunk) ++ chunks.flatten) := by
        unfold delivered
        rw [List.flatten_cons, ← List.append_assoc, cut, List.foldl_append]
      rw [List.foldl_cons, whole]
      cases front : receiver.framing.front (receiver.framing.rest (buffer ++ chunk)) with
      | more =>
          have arrived : receiver.arrive (state, buffer) chunk =
              (receiver.delivered state (buffer ++ chunk),
                receiver.framing.rest (buffer ++ chunk)) := by
            unfold arrive received
            simp only
            rw [front]
          rw [arrived]
          exact inductionHypothesis left
      | illegal =>
          have arrived : receiver.arrive (state, buffer) chunk =
              (receiver.reject (receiver.delivered state (buffer ++ chunk)),
                receiver.framing.rest (buffer ++ chunk)) := by
            unfold arrive received
            simp only
            rw [front]
          have none := receiver.framing.stops_of_illegal
            (receiver.framing.illegal_append front chunks.flatten)
          rw [arrived, receiver.view_arrivals_of_illegal unseen chunks front, unseen,
            receiver.delivered_of_stops none]
      | frame frame rest => exact absurd front (left frame rest)

end View

end Receiver

end AChat.Lib
