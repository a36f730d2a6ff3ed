import Mathlib.Algebra.Order.BigOperators.Group.Finset
import AChat.Base.ImPdu
import AChat.Lib.Loop

/-!
Contract: when the output of a connection is lossless.

The loop of `Send` has no way out but that all of the data is gone. The branch that keeps
the rest in `outBuf` and sets `busy` stands behind it and is never taken, so `onWrite` has
nothing to do. A write that fails moves the offset back and raises what remains; a socket
that takes nothing keeps the loop turning.

Owns: the two writing loops of a connection, and the runs of sends and write events.
-/

namespace AChat.Base

open Lib

def netlibMaxSocketBufSize : Int := 128 * 1024

/-- The output side of a connection: what the socket accepted, whether every position that was
passed to it lay in the data, and how often `onWriteCompelete` was called. -/
structure ImConnOutput where
  busy : Bool
  outBuf : Bytes
  accepted : Bytes
  inRange : Bool
  writeCompletes : Nat
deriving DecidableEq, Repr

/-- `int` variables of the loop of `Send`, with the number of socket writes so far. An overflow,
which the language leaves open, needs an offset below zero before. -/
structure Sending where
  offset : Int
  remain : Int
  writes : Nat
  accepted : Bytes
  inRange : Bool
deriving DecidableEq, Repr

/-- Variables of the loop of `onWrite`. -/
structure Writing where
  outBuf : Bytes
  writes : Nat
  accepted : Bytes
deriving DecidableEq, Repr

namespace ImConnOutput

def new : ImConnOutput :=
  ⟨false, [], [], true, 0⟩

def sendSize (remain : Int) : Int :=
  if remain > netlibMaxSocketBufSize then netlibMaxSocketBufSize else remain

/-- The result of a socket write of `size` bytes. A room below zero is an error. -/
def socketWrite (room size : Int) : Int :=
  min room size

/-- The bytes at a position. Those outside of the data are not modelled; `inRange` records that
they were asked for. -/
def bytesAt (data : Bytes) (offset count : Int) : Bytes :=
  (data.drop offset.toNat).take count.toNat

def startSending (data : Bytes) : Sending :=
  ⟨0, data.length, 0, [], true⟩

/-- One turn of the loop of `Send`. The result of the socket write is not looked at. -/
def sendTurn (data : Bytes) (rooms : Nat → Int) (loop : Sending) : Turn Sending Sending :=
  if loop.remain > 0 then
    let ret := socketWrite (rooms loop.writes) (sendSize loop.remain)
    .again
      { offset := loop.offset + ret
        remain := loop.remain - ret
        writes := loop.writes + 1
        accepted := loop.accepted ++ bytesAt data loop.offset ret
        inRange := loop.inRange && decide (0 ≤ loop.offset) &&
          decide (loop.offset + sendSize loop.remain ≤ data.length) }
  else .leave loop

/-- What `Send` does after its loop. -/
def afterSending (output : ImConnOutput) (data : Bytes) (last : Sending) : ImConnOutput :=
  let output :=
    { output with
      accepted := output.accepted ++ last.accepted, inRange := output.inRange && last.inRange }
  if last.remain > 0 then
    { output with outBuf := output.outBuf ++ bytesAt data last.offset last.remain, busy := true }
  else { output with writeCompletes := output.writeCompletes + 1 }

/-- `Send` returns and leaves this behind. -/
def Sends (output : ImConnOutput) (data : Bytes) (rooms : Nat → Int) (after : ImConnOutput) :
    Prop :=
  if output.busy then after = { output with outBuf := output.outBuf ++ data }
  else ∃ last, Leaves (sendTurn data rooms) (startSending data) last ∧
    after = output.afterSending data last

/-- One turn of the loop of `onWrite`. `beyond` gives the memory at the write position of the
buffer, which is what the socket is given. -/
def writeTurn (rooms : Nat → Int) (beyond : Nat → Nat → UInt8) (loop : Writing) :
    Turn Writing Writing :=
  if loop.outBuf.length > 0 then
    let ret := socketWrite (rooms loop.writes) (sendSize loop.outBuf.length)
    if ret ≤ 0 then .leave loop
    else
      .again
        { outBuf := loop.outBuf.drop ret.toNat
          writes := loop.writes + 1
          accepted := loop.accepted ++ (List.range ret.toNat).map (beyond loop.writes) }
  else .leave loop

def writeLoop (rooms : Nat → Int) (beyond : Nat → Nat → UInt8) : Loop Writing Writing where
  turn := writeTurn rooms beyond
  measure := fun loop => loop.outBuf.length
  decreases := by
    intro loop next goes
    unfold writeTurn at goes
    split at goes
    · simp only at goes
      split at goes
      · cases goes
      · cases goes
        rw [List.length_drop]
        omega
    · cases goes

def onWrite (output : ImConnOutput) (rooms : Nat → Int) (beyond : Nat → Nat → UInt8) :
    ImConnOutput :=
  if output.busy then
    let last := (writeLoop rooms beyond).result ⟨output.outBuf, 0, output.accepted⟩
    { output with
      outBuf := last.outBuf
      accepted := last.accepted
      busy := if last.outBuf.length = 0 then false else output.busy }
  else output

end ImConnOutput

open ImConnOutput

/-! ### Sends and write events -/

/-- What happens to the output side, with the results of the socket writes. -/
inductive ImConnEvent where
  | send (data : Bytes) (rooms : Nat → Int)
  | writable (rooms : Nat → Int) (beyond : Nat → Nat → UInt8)

namespace ImConnEvent

def data : ImConnEvent → Bytes
  | .send data _ => data
  | .writable _ _ => []

/-- The call for this event returns and leaves this behind. -/
def Returns (output : ImConnOutput) : ImConnEvent → ImConnOutput → Prop
  | .send data rooms, after => output.Sends data rooms after
  | .writable rooms beyond, after => after = output.onWrite rooms beyond

/-- The socket takes all of the data in some number of writes of which none fails. -/
def TakesAll (data : Bytes) (rooms : Nat → Int) : Prop :=
  ∃ writes, (∀ write < writes, 0 ≤ rooms write) ∧
    (data.length : Int) ≤ ∑ write ∈ Finset.range writes, min (rooms write) netlibMaxSocketBufSize

/-- The condition on an event under which the output stays lossless. -/
def Taken : ImConnEvent → Prop
  | .send data rooms => TakesAll data rooms
  | .writable _ _ => True

end ImConnEvent

open ImConnEvent

namespace ImConnOutput

/-- Nothing of what was sent is lost, and `busy` is set exactly while something is kept. -/
structure Lossless (output : ImConnOutput) (sent : Bytes) : Prop where
  inRange : output.inRange = true
  order : output.accepted ++ output.outBuf = sent
  busy : output.busy = true ↔ output.outBuf ≠ []

/-- Every call returns, and leaves a lossless output behind. -/
def StaysLossless : ImConnOutput → Bytes → List ImConnEvent → Prop
  | _, _, [] => True
  | output, sent, event :: events =>
      ∃ after, event.Returns output after ∧ Lossless after (sent ++ event.data) ∧
        StaysLossless after (sent ++ event.data) events

/-! ### One turn of `Send` -/

section Sending

variable {data : Bytes} {rooms : Nat → Int} {loop next last : Sending}

theorem sendSize_le (remain : Int) : sendSize remain ≤ remain := by
  unfold sendSize
  split <;> omega

theorem socketWrite_le (room size : Int) : socketWrite room size ≤ size :=
  Int.min_le_right room size

theorem socketWrite_sendSize (room remain : Int) :
    socketWrite room (sendSize remain) = min (min room netlibMaxSocketBufSize) remain := by
  unfold socketWrite sendSize
  split <;> omega

theorem length_bytesAt (offset count : Int) (from_ : 0 ≤ offset)
    (until_ : offset + count ≤ data.length) : (bytesAt data offset count).length = count.toNat := by
  unfold bytesAt
  rw [List.length_take, List.length_drop]
  omega

theorem sendTurn_again (goes : sendTurn data rooms loop = .again next) :
    loop.remain > 0 ∧ ∃ ret, ret = socketWrite (rooms loop.writes) (sendSize loop.remain) ∧
      next = { offset := loop.offset + ret
               remain := loop.remain - ret
               writes := loop.writes + 1
               accepted := loop.accepted ++ bytesAt data loop.offset ret
               inRange := loop.inRange && decide (0 ≤ loop.offset) &&
                 decide (loop.offset + sendSize loop.remain ≤ data.length) } := by
  unfold sendTurn at goes
  split at goes
  · rename_i positive
    exact ⟨positive, _, rfl, (Turn.again.inj goes).symm⟩
  · cases goes

theorem sendTurn_leave (leaves : sendTurn data rooms loop = .leave last) :
    loop.remain ≤ 0 ∧ last = loop := by
  unfold sendTurn at leaves
  split at leaves
  · cases leaves
  · rename_i done
    exact ⟨by omega, (Turn.leave.inj leaves).symm⟩

/-- Every write so far went well: the loop stands where the socket has taken the data to. -/
structure Clean (data : Bytes) (rooms : Nat → Int) (loop : Sending) : Prop where
  total : loop.offset + loop.remain = data.length
  offset : 0 ≤ loop.offset
  remain : 0 ≤ loop.remain
  accepted : loop.accepted = data.take loop.offset.toNat
  inRange : loop.inRange = true
  written : ∀ write < loop.writes, 0 ≤ rooms write
  taken : loop.offset = min (data.length : Int)
    (∑ write ∈ Finset.range loop.writes, min (rooms write) netlibMaxSocketBufSize)

/-- A write has failed. From then on a position outside of the data is passed to the socket,
or more is accepted than the data is long. -/
structure Spoilt (data : Bytes) (loop : Sending) : Prop where
  total : loop.offset + loop.remain = data.length
  remain : 0 ≤ loop.remain
  spoilt : loop.inRange = false ∨ loop.offset < 0 ∨ loop.offset < loop.accepted.length

theorem clean_start : Clean data rooms (startSending data) where
  total := Int.zero_add _
  offset := Int.le_refl 0
  remain := Int.natCast_nonneg _
  accepted := rfl
  inRange := rfl
  written := fun _ before => absurd before (Nat.not_lt_zero _)
  taken := by
    show (0 : Int) = min (data.length : Int) (∑ write ∈ Finset.range 0, _)
    rw [Finset.sum_range_zero]
    omega

theorem Clean.write (clean : Clean data rooms loop) (goes : sendTurn data rooms loop = .again next)
    (room : 0 ≤ rooms loop.writes) : Clean data rooms next := by
  obtain ⟨positive, ret, result, rfl⟩ := sendTurn_again goes
  have total := clean.total
  have offset := clean.offset
  have size := sendSize_le loop.remain
  have atMost := socketWrite_le (rooms loop.writes) (sendSize loop.remain)
  have written := socketWrite_sendSize (rooms loop.writes) loop.remain
  have positiveMax : (0 : Int) < netlibMaxSocketBufSize := by decide
  have nonnegative : 0 ≤ ret := by omega
  refine ⟨?_, ?_, ?_, ?_, ?_, ?_, ?_⟩
  · show loop.offset + ret + (loop.remain - ret) = data.length
    omega
  · show 0 ≤ loop.offset + ret
    omega
  · show 0 ≤ loop.remain - ret
    omega
  · show loop.accepted ++ bytesAt data loop.offset ret = data.take (loop.offset + ret).toNat
    rw [clean.accepted, Int.toNat_add offset nonnegative, List.take_add]
    rfl
  · show (loop.inRange && decide (0 ≤ loop.offset) &&
      decide (loop.offset + sendSize loop.remain ≤ data.length)) = true
    rw [clean.inRange, decide_eq_true offset, decide_eq_true (by omega)]
    rfl
  · intro write before
    rcases Nat.lt_succ_iff_lt_or_eq.mp before with earlier | rfl
    · exact clean.written write earlier
    · exact room
  · show loop.offset + ret = min (data.length : Int)
      (∑ write ∈ Finset.range (loop.writes + 1), min (rooms write) netlibMaxSocketBufSize)
    have taken := clean.taken
    rw [Finset.sum_range_succ]
    omega

theorem Clean.fail (clean : Clean data rooms loop) (goes : sendTurn data rooms loop = .again next)
    (room : rooms loop.writes < 0) : Spoilt data next := by
  obtain ⟨positive, ret, result, rfl⟩ := sendTurn_again goes
  have total := clean.total
  have offset := clean.offset
  have written := socketWrite_sendSize (rooms loop.writes) loop.remain
  have negative : ret < 0 := by omega
  have length : loop.accepted.length = loop.offset.toNat := by
    rw [clean.accepted, List.length_take]
    omega
  refine ⟨?_, ?_, ?_⟩
  · show loop.offset + ret + (loop.remain - ret) = data.length
    omega
  · show 0 ≤ loop.remain - ret
    omega
  · refine .inr (.inr ?_)
    show loop.offset + ret < (loop.accepted ++ bytesAt data loop.offset ret).length
    rw [List.length_append]
    omega

theorem Spoilt.again (spoilt : Spoilt data loop) (goes : sendTurn data rooms loop = .again next) :
    Spoilt data next := by
  obtain ⟨positive, ret, result, rfl⟩ := sendTurn_again goes
  have total := spoilt.total
  have size := sendSize_le loop.remain
  have atMost := socketWrite_le (rooms loop.writes) (sendSize loop.remain)
  refine ⟨?_, ?_, ?_⟩
  · show loop.offset + ret + (loop.remain - ret) = data.length
    omega
  · show 0 ≤ loop.remain - ret
    omega
  · rcases Int.lt_or_le loop.offset 0 with below | from_
    · left
      show (loop.inRange && decide (0 ≤ loop.offset) &&
        decide (loop.offset + sendSize loop.remain ≤ data.length)) = false
      rw [decide_eq_false (show ¬0 ≤ loop.offset by omega), Bool.and_false]
      rfl
    · rcases spoilt.spoilt with before | below | behind
      · left
        show (loop.inRange && decide (0 ≤ loop.offset) &&
          decide (loop.offset + sendSize loop.remain ≤ data.length)) = false
        rw [before]
        rfl
      · omega
      · refine .inr (.inr ?_)
        show loop.offset + ret < (loop.accepted ++ bytesAt data loop.offset ret).length
        rw [List.length_append]
        rcases Int.lt_or_le ret 0 with failed | written
        · omega
        · rw [length_bytesAt loop.offset ret from_ (by omega)]
          omega

/-! ### The loop of `Send` -/

/-- Once a write has failed, the loop does not end well. -/
theorem Spoilt.not_lossless (left : Leaves (sendTurn data rooms) loop last)
    (spoilt : Spoilt data loop) : last.inRange = false ∨ last.accepted ≠ data := by
  induction left with
  | leave leaves =>
      obtain ⟨done, rfl⟩ := sendTurn_leave leaves
      have total := spoilt.total
      have remain := spoilt.remain
      rcases spoilt.spoilt with out | below | behind
      · exact .inl out
      · omega
      · right
        intro same
        rw [same] at behind
        omega
  | again goes _ inductionHypothesis => exact inductionHypothesis (spoilt.again goes)

/-- A loop that ends well had no failed write, and the socket took all of the data. -/
theorem Clean.takesAll (left : Leaves (sendTurn data rooms) loop last)
    (clean : Clean data rooms loop) (inRange : last.inRange = true)
    (accepted : last.accepted = data) : TakesAll data rooms := by
  induction left with
  | leave leaves =>
      obtain ⟨done, rfl⟩ := sendTurn_leave leaves
      have total := clean.total
      have remain := clean.remain
      have taken := clean.taken
      exact ⟨_, clean.written, by omega⟩
  | @again state next result goes rest inductionHypothesis =>
      rcases Int.lt_or_le (rooms state.writes) 0 with failed | room
      · rcases (clean.fail goes failed).not_lossless rest with out | other
        · cases inRange.symm.trans out
        · exact absurd accepted other
      · exact inductionHypothesis (clean.write goes room) inRange accepted

/-- While something remains, the socket has not taken all of the data. -/
theorem Clean.writes_lt {writes : Nat} (clean : Clean data rooms loop) (positive : loop.remain > 0)
    (enough : (data.length : Int) ≤
      ∑ write ∈ Finset.range writes, min (rooms write) netlibMaxSocketBufSize) :
    loop.writes < writes := by
  rcases Nat.lt_or_ge loop.writes writes with before | past
  · exact before
  · have total := clean.total
    have taken := clean.taken
    have more : ∑ write ∈ Finset.range writes, min (rooms write) netlibMaxSocketBufSize ≤
        ∑ write ∈ Finset.range loop.writes, min (rooms write) netlibMaxSocketBufSize := by
      apply Finset.sum_le_sum_of_subset_of_nonneg (Finset.range_mono past)
      intro write member _
      have room := clean.written write (Finset.mem_range.mp member)
      exact le_min room (by decide)
    omega

/-- While the socket takes the data without a failure, the loop of `Send` ends, and nothing
remains. -/
theorem Clean.leaves {writes : Nat} (clean : Clean data rooms loop)
    (room : ∀ write < writes, 0 ≤ rooms write)
    (enough : (data.length : Int) ≤
      ∑ write ∈ Finset.range writes, min (rooms write) netlibMaxSocketBufSize) :
    ∃ last, Leaves (sendTurn data rooms) loop last ∧ Clean data rooms last := by
  induction turnsLeft : writes - loop.writes generalizing loop with
  | zero =>
      refine ⟨loop, .leave (if_neg ?_), clean⟩
      intro positive
      have before := clean.writes_lt positive enough
      omega
  | succ turnsLeft inductionHypothesis =>
      by_cases positive : loop.remain > 0
      · have before := clean.writes_lt positive enough
        obtain ⟨next, goes, written⟩ : ∃ next, sendTurn data rooms loop = .again next ∧
            next.writes = loop.writes + 1 := ⟨_, if_pos positive, rfl⟩
        obtain ⟨last, rest, cleanLast⟩ :=
          inductionHypothesis (clean.write goes (room _ before)) (by omega)
        exact ⟨last, .again goes rest, cleanLast⟩
      · exact ⟨loop, .leave (if_neg positive), clean⟩

/-- A loop that ends leaves nothing that remains. -/
theorem remain_of_leaves (left : Leaves (sendTurn data rooms) loop last) : last.remain ≤ 0 := by
  induction left with
  | leave leaves =>
      obtain ⟨done, rfl⟩ := sendTurn_leave leaves
      exact done
  | again _ _ inductionHypothesis => exact inductionHypothesis

end Sending

/-! ### Runs -/

section Runs

variable {output after : ImConnOutput} {sent data : Bytes} {rooms : Nat → Int}

/-- Nothing is kept, and everything was accepted. -/
structure Idle (output : ImConnOutput) (sent : Bytes) : Prop where
  busy : output.busy = false
  outBuf : output.outBuf = []
  accepted : output.accepted = sent
  inRange : output.inRange = true

theorem Idle.lossless (idle : Idle output sent) : Lossless output sent where
  inRange := idle.inRange
  order := by rw [idle.accepted, idle.outBuf, List.append_nil]
  busy := by
    rw [idle.busy, idle.outBuf]
    decide

theorem Idle.onWrite (idle : Idle output sent) (rooms : Nat → Int)
    (beyond : Nat → Nat → UInt8) : output.onWrite rooms beyond = output := by
  unfold ImConnOutput.onWrite
  rw [idle.busy]
  rfl

/-- What `Send` leaves behind on an idle connection. -/
theorem Idle.sends (idle : Idle output sent) :
    output.Sends data rooms after ↔
      ∃ last, Leaves (sendTurn data rooms) (startSending data) last ∧
        after = { output with
                  accepted := sent ++ last.accepted
                  inRange := last.inRange
                  writeCompletes := output.writeCompletes + 1 } := by
  unfold Sends
  rw [idle.busy, if_neg Bool.false_ne_true]
  apply exists_congr
  intro last
  apply and_congr_right
  intro left
  unfold afterSending
  rw [if_neg (Int.not_lt.mpr (remain_of_leaves left)), idle.accepted, idle.inRange, Bool.true_and,
    idle.busy]

/-- A send after which nothing is lost leaves the connection idle, and the socket took all of
the data. -/
theorem Idle.of_lossless (idle : Idle output sent) (sends : output.Sends data rooms after)
    (lossless : Lossless after (sent ++ data)) :
    TakesAll data rooms ∧ Idle after (sent ++ data) := by
  obtain ⟨last, left, rfl⟩ := idle.sends.mp sends
  have order : (sent ++ last.accepted) ++ output.outBuf = sent ++ data := lossless.order
  rw [idle.outBuf, List.append_nil] at order
  have accepted : last.accepted = data := List.append_cancel_left order
  refine ⟨clean_start.takesAll left lossless.inRange accepted, ?_⟩
  exact ⟨idle.busy, idle.outBuf, order, lossless.inRange⟩

/-- A send of which the socket takes all of the data returns, and leaves the connection
idle. -/
theorem Idle.of_takesAll (idle : Idle output sent) (takes : TakesAll data rooms) :
    ∃ after, output.Sends data rooms after ∧ Idle after (sent ++ data) := by
  obtain ⟨writes, room, enough⟩ := takes
  obtain ⟨last, left, clean⟩ := clean_start.leaves room enough
  refine ⟨_, idle.sends.mpr ⟨last, left, rfl⟩, idle.busy, idle.outBuf, ?_, clean.inRange⟩
  have total := clean.total
  have done := remain_of_leaves left
  have remain := clean.remain
  show sent ++ last.accepted = sent ++ data
  rw [clean.accepted, List.take_of_length_le (by omega)]

theorem Idle.staysLossless (idle : Idle output sent) (events : List ImConnEvent) :
    StaysLossless output sent events ↔ ∀ event ∈ events, event.Taken := by
  induction events generalizing output sent with
  | nil => exact iff_of_true trivial fun _ member => absurd member List.not_mem_nil
  | cons event events inductionHypothesis =>
      rw [List.forall_mem_cons]
      constructor
      · intro stays
        obtain ⟨after, returns, lossless, rest⟩ := stays
        cases event with
        | send data rooms =>
            obtain ⟨takes, idleAfter⟩ := idle.of_lossless returns lossless
            exact ⟨takes, (inductionHypothesis idleAfter).mp rest⟩
        | writable rooms beyond =>
            cases returns.trans (idle.onWrite rooms beyond)
            rw [show sent ++ ImConnEvent.data (.writable rooms beyond) = sent from
              List.append_nil _] at rest
            exact ⟨trivial, (inductionHypothesis idle).mp rest⟩
      · intro taken
        obtain ⟨first, others⟩ := taken
        cases event with
        | send data rooms =>
            obtain ⟨after, sends, idleAfter⟩ := idle.of_takesAll first
            exact ⟨after, sends, idleAfter.lossless, (inductionHypothesis idleAfter).mpr others⟩
        | writable rooms beyond =>
            refine ⟨output, (idle.onWrite rooms beyond).symm, ?_⟩
            rw [show sent ++ ImConnEvent.data (.writable rooms beyond) = sent from
              List.append_nil _]
            exact ⟨idle.lossless, (inductionHypothesis idle).mpr others⟩

end Runs

/-- In exactly the runs in which the socket takes all of the data of every send without an
error does every call return and the output stay lossless. -/
theorem staysLossless_iff (events : List ImConnEvent) :
    StaysLossless new [] events ↔ ∀ event ∈ events, event.Taken :=
  Idle.staysLossless ⟨rfl, rfl, rfl, rfl⟩ events

/-- A send of anything to a full socket does not return. -/
theorem not_sends_of_full {data : Bytes} (some_ : data ≠ []) (after : ImConnOutput) :
    ¬new.Sends data (fun _ => 0) after := by
  intro sends
  obtain ⟨last, left, _⟩ := sends
  have positive : 0 < data.length := List.length_pos_iff.mpr some_
  have stays : ∀ loop : Sending, loop.remain = data.length →
      ∃ next, sendTurn data (fun _ => 0) loop = .again next ∧ next.remain = data.length := by
    intro loop remain
    refine ⟨_, if_pos (by omega), ?_⟩
    show loop.remain - socketWrite 0 (sendSize loop.remain) = data.length
    have nothing : socketWrite 0 (sendSize loop.remain) = 0 := by
      rw [socketWrite_sendSize, remain]
      have positiveMax : (0 : Int) < netlibMaxSocketBufSize := by decide
      omega
    rw [nothing, remain]
    exact Int.sub_zero _
  exact not_leaves stays rfl left

/-- A socket that takes one byte, fails once, and then takes one byte at a time. -/
def failsOnce (write : Nat) : Int :=
  if write = 1 then -1 else 1

/-- After the failure `Send` goes back and sends the first of two bytes again. -/
theorem leaves_failsOnce :
    Leaves (sendTurn [1, 2] failsOnce) (startSending [1, 2]) ⟨2, 0, 4, [1, 1, 2], true⟩ :=
  leaves_of_turns 5 (by decide)

theorem not_staysLossless_failsOnce : ¬StaysLossless new [] [.send [1, 2] failsOnce] := by
  intro stays
  obtain ⟨_, ⟨last, left, rfl⟩, lossless, _⟩ := stays
  cases left.unique leaves_failsOnce
  exact absurd lossless.order (by decide)

end ImConnOutput

end AChat.Base
