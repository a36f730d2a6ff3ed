import AChat.Lib.ByteOrder
import AChat.Lib.Framing
import AChat.Net.TcpConnection

/-!
Contract: how `onRead` of a file session cuts the stream of a connection into packages.

A package is its size, of 8 bytes, and its body. `onRead` hands every body that is there
to `process`, stops at an illegal size, and leaves what is not yet complete. What
`process` does is a parameter.

Owns: the header, the loop of `onRead`, and the framing that it follows.
-/

namespace AChat.FileServer

open Lib Net

/-! ### Packages -/

/-- `sizeof(file_msg_header)`. -/
def fileMsgHeaderSize : Nat := 8

def maxPackageSize : Nat := 50 * 1024 * 1024

/-- The field of `file_msg_header`, an `int64_t`. -/
def packagesize (header : Bytes) : Int :=
  (BitVec.ofNat 64 (ofLittleEndian header)).toInt

/-- What `sendPackage` sends for a body. -/
def strPackageData (body : Bytes) : Bytes :=
  littleEndian fileMsgHeaderSize body.length ++ body

/-- A body that may be sent. -/
def SizeAccepted (body : Bytes) : Prop :=
  1 ≤ body.length ∧ body.length ≤ maxPackageSize

/-! ### Reading -/

/-- What `onRead` meets: a body and what `process` returned for it, or an illegal header. -/
inductive Outcome where
  | passed (body : Bytes) (returned : Bool)
  | illegalHeader
deriving DecidableEq, Repr

/-- A connection, its session, and what `onRead` met so far. -/
structure FileConnection (Session : Type) where
  conn : TcpConnection
  session : Session
  log : List Outcome

/-- `process` returns whether it served a body, and what it made of the connection and the
session. -/
abbrev Process (Session : Type) :=
  TcpConnection → Session → Bytes → Bool × TcpConnection × Session

namespace FileConnection

variable {Session : Type}

/-- The body goes to `process`. -/
def pass (process : Process Session) (state : FileConnection Session) (inbuf : Bytes) :
    FileConnection Session :=
  let processed := process state.conn state.session inbuf
  { conn := if processed.1 then processed.2.1 else processed.2.1.forceClose
    session := processed.2.2
    log := state.log ++ [.passed inbuf processed.1] }

def refuseHeader (state : FileConnection Session) : FileConnection Session :=
  { state with conn := state.conn.forceClose, log := state.log ++ [.illegalHeader] }

/-- One turn of the loop of `onRead`, with the readable bytes of the buffer. -/
def onReadTurn (process : Process Session) (reading : FileConnection Session × Bytes) :
    Turn (FileConnection Session × Bytes) (FileConnection Session × Bytes) :=
  if reading.2.length < fileMsgHeaderSize then .leave reading
  else
    let header := packagesize (reading.2.take fileMsgHeaderSize)
    if header ≤ 0 ∨ header > maxPackageSize then
      .leave (reading.1.refuseHeader, reading.2)
    else if reading.2.length < header.toNat + fileMsgHeaderSize then .leave reading
    else
      let retrieved := reading.2.drop fileMsgHeaderSize
      .again (reading.1.pass process (retrieved.take header.toNat), retrieved.drop header.toNat)

def onReadLoop (process : Process Session) :
    Loop (FileConnection Session × Bytes) (FileConnection Session × Bytes) where
  turn := onReadTurn process
  measure := fun reading => reading.2.length
  decreases := by
    intro reading next goes
    have eight : fileMsgHeaderSize = 8 := rfl
    unfold onReadTurn at goes
    split at goes
    · cases goes
    · simp only at goes
      split at goes
      · cases goes
      · split at goes
        · cases goes
        · cases goes
          rw [List.length_drop, List.length_drop]
          omega

def onRead (process : Process Session) (reading : FileConnection Session × Bytes) :
    FileConnection Session × Bytes :=
  (onReadLoop process).result reading

/-- A read event: bytes are put into the buffer, and `onRead` is called. -/
def readEvent (process : Process Session) (reading : FileConnection Session × Bytes)
    (arrived : Bytes) : FileConnection Session × Bytes :=
  onRead process (reading.1, reading.2 ++ arrived)

end FileConnection

/-! ### The framing -/

/-- What stands at the front of the readable bytes. -/
def packageFront (stream : Bytes) : Front UInt8 Bytes :=
  if stream.length < fileMsgHeaderSize then .more
  else
    let header := packagesize (stream.take fileMsgHeaderSize)
    if header ≤ 0 ∨ header > maxPackageSize then .illegal
    else if stream.length < header.toNat + fileMsgHeaderSize then .more
    else
      let retrieved := stream.drop fileMsgHeaderSize
      .frame (retrieved.take header.toNat) (retrieved.drop header.toNat)

/-- The size that is written is read. -/
theorem packagesize_littleEndian {size : Nat} (fits : size < 2 ^ 63) :
    packagesize (littleEndian fileMsgHeaderSize size) = size := by
  have whole : size % 256 ^ fileMsgHeaderSize = size := by
    change size % 2 ^ 64 = size
    omega
  unfold packagesize
  rw [ofLittleEndian_littleEndian, whole, BitVec.toInt_ofNat']
  have small : (size : Int).bmod (2 ^ 64) = size :=
    Int.bmod_eq_of_le (by omega) (by omega)
  exact small

/-- A size that is not negative is the number that the bytes stand for. -/
theorem ofLittleEndian_of_packagesize {header : Bytes} (eight : header.length = fileMsgHeaderSize)
    (positive : 0 < packagesize header) : ofLittleEndian header = (packagesize header).toNat := by
  have range : ofLittleEndian header < 2 ^ 64 := by
    have small := ofBigEndian_lt header.reverse
    rw [List.length_reverse, eight] at small
    exact small
  have value : (BitVec.ofNat 64 (ofLittleEndian header)).toNat = ofLittleEndian header := by
    rw [BitVec.toNat_ofNat, Nat.mod_eq_of_lt range]
  unfold packagesize at positive ⊢
  rw [BitVec.toInt_eq_toNat_cond, value] at positive ⊢
  split at positive
  · rename_i low
    rw [if_pos low]
    rfl
  · omega

theorem length_strPackageData (body : Bytes) :
    (strPackageData body).length = fileMsgHeaderSize + body.length := by
  rw [strPackageData, List.length_append, length_littleEndian]

/-- A package that was sent stands at the front. -/
theorem packageFront_strPackageData {body : Bytes} (accepted : SizeAccepted body)
    (later : Bytes) : packageFront (strPackageData body ++ later) = .frame body later := by
  have most : maxPackageSize = 52428800 := rfl
  have bounds := accepted
  unfold SizeAccepted at bounds
  have header : (strPackageData body ++ later).take fileMsgHeaderSize =
      littleEndian fileMsgHeaderSize body.length := by
    rw [strPackageData, List.append_assoc]
    exact List.take_left' (length_littleEndian _ _)
  have behind : (strPackageData body ++ later).drop fileMsgHeaderSize = body ++ later := by
    rw [strPackageData, List.append_assoc]
    exact List.drop_left' (length_littleEndian _ _)
  have size : packagesize ((strPackageData body ++ later).take fileMsgHeaderSize) =
      body.length := by
    rw [header]
    exact packagesize_littleEndian (by omega)
  have length : (strPackageData body ++ later).length =
      fileMsgHeaderSize + body.length + later.length := by
    rw [List.length_append, length_strPackageData]
  unfold packageFront
  simp only [size, behind, length, Int.toNat_natCast]
  rw [if_neg (by omega), if_neg (by omega), if_neg (by omega), List.take_left, List.drop_left]

/-- Only a package that may be sent stands at the front. -/
theorem strPackageData_of_packageFront {stream body rest : Bytes}
    (found : packageFront stream = .frame body rest) :
    stream = strPackageData body ++ rest ∧ SizeAccepted body := by
  unfold packageFront at found
  split at found
  · cases found
  · rename_i long
    simp only at found
    split at found
    · cases found
    · rename_i legal
      split at found
      · cases found
      · rename_i whole
        cases found
        have header : (stream.take fileMsgHeaderSize).length = fileMsgHeaderSize :=
          List.length_take_of_le (by omega)
        have value := ofLittleEndian_of_packagesize header (by omega)
        have size : ((stream.drop fileMsgHeaderSize).take
            (packagesize (stream.take fileMsgHeaderSize)).toNat).length =
              (packagesize (stream.take fileMsgHeaderSize)).toNat := by
          apply List.length_take_of_le
          rw [List.length_drop]
          omega
        have bytes := littleEndian_ofLittleEndian (stream.take fileMsgHeaderSize)
        rw [header, value] at bytes
        refine ⟨?_, ?_⟩
        · rw [strPackageData, size, bytes, List.append_assoc, List.take_append_drop,
            List.take_append_drop]
        · unfold SizeAccepted
          omega

/-- The front is illegal exactly when a header is there that is. -/
theorem packageFront_illegal {stream : Bytes} :
    packageFront stream = .illegal ↔
      fileMsgHeaderSize ≤ stream.length ∧
        (packagesize (stream.take fileMsgHeaderSize) ≤ 0 ∨
          packagesize (stream.take fileMsgHeaderSize) > maxPackageSize) := by
  unfold packageFront
  by_cases long : stream.length < fileMsgHeaderSize
  · rw [if_pos long]
    exact iff_of_false nofun fun illegal => absurd illegal.1 (Nat.not_le.mpr long)
  · rw [if_neg long]
    simp only
    by_cases illegal : packagesize (stream.take fileMsgHeaderSize) ≤ 0 ∨
        packagesize (stream.take fileMsgHeaderSize) > maxPackageSize
    · rw [if_pos illegal]
      exact iff_of_true rfl ⟨Nat.not_lt.mp long, illegal⟩
    · rw [if_neg illegal]
      refine iff_of_false ?_ fun other => illegal other.2
      split
      · exact nofun
      · exact nofun

/-- The packages of a stream. -/
def packages : Framing UInt8 Bytes where
  front := packageFront
  consumes := by
    intro stream body rest found
    obtain ⟨rfl, accepted⟩ := strPackageData_of_packageFront found
    rw [List.length_append, length_strPackageData]
    have positive := accepted.1
    omega
  frame_append := by
    intro stream body rest found later
    obtain ⟨rfl, accepted⟩ := strPackageData_of_packageFront found
    rw [List.append_assoc]
    exact packageFront_strPackageData accepted _
  illegal_append := by
    intro stream illegal later
    obtain ⟨long, refused⟩ := packageFront_illegal.mp illegal
    apply packageFront_illegal.mpr
    rw [List.take_append_of_le_length long, List.length_append]
    exact ⟨by omega, refused⟩

theorem packages_front : packages.front = packageFront :=
  rfl

namespace FileConnection

variable {Session : Type} (process : Process Session)

def receiver : Receiver UInt8 Bytes (FileConnection Session) :=
  ⟨packages, pass process, refuseHeader⟩

/-- The loop of `onRead` follows the framing. -/
theorem onReadTurn_eq : onReadTurn process = (receiver process).turn := by
  funext reading
  unfold onReadTurn Receiver.turn receiver
  rw [packages_front]
  unfold packageFront
  simp only
  split
  · rfl
  · split
    · rfl
    · split
      · rfl
      · rfl

theorem onRead_eq (state : FileConnection Session) (buffer : Bytes) :
    onRead process (state, buffer) = (receiver process).received state buffer := by
  have left := (onReadLoop process).leaves (state, buffer)
  change Leaves (onReadTurn process) (state, buffer) (onRead process (state, buffer)) at left
  rw [onReadTurn_eq] at left
  exact left.unique ((receiver process).leaves_turn state buffer)

theorem readEvent_eq : readEvent process = (receiver process).arrive := by
  funext reading arrived
  exact onRead_eq process _ _

end FileConnection

end AChat.FileServer
