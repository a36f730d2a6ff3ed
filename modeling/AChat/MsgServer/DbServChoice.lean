import AChat.Lib.Loop
import Mathlib.Tactic.Push

/-!
Contract: which database connection a request is sent over.

The table of the servers is told by the connection in each entry's `serv_conn`, at the time of the
choice. `rand()` is the environment's: a stream of numbers from zero to `RAND_MAX`. The random loop
keeps its index in an `int`, the loop before it in a `uint32_t`.

Owns: the split of the table, the choice in one range and the two choices, and when an index is a
position of the table.
-/

namespace AChat.MsgServer.DbServChoice

open Lib

structure DBServConn where
  connid : Int
  mBOpen : Bool
deriving DecidableEq, Repr

/-- The connection in each entry's `serv_conn`; `none` is a null pointer. -/
abbrev ServerList := Nat → Option DBServConn

/-- `pDbConn && pDbConn->IsOpen()`. -/
def isOpen : Option DBServConn → Bool
  | some pDbConn => pDbConn.mBOpen
  | none => false

inductive Fault where
  | division
  | index
deriving DecidableEq, Repr

/-- `g_db_server_count` and `g_db_server_login_count`. -/
structure Counts where
  server : BitVec 32
  login : BitVec 32
deriving DecidableEq, Repr

/-- `init_db_serv_conn`. -/
def initDbServConn (serverCount concurConnCnt : BitVec 32) : Except Fault Counts :=
  if concurConnCnt = 0 then .error .division
  else
    let totalDbInstance := serverCount / concurConnCnt
    .ok { server := serverCount, login := totalDbInstance / 2 * concurConnCnt }

def randMax : Nat := 2147483647

/-- The results of the calls of `rand()`, in their order. -/
structure RandomStream where
  rand : Nat → Nat
  within : ∀ draw, rand draw ≤ randMax

/-- `[start_pos, stop_pos)`. -/
structure PosRange where
  startPos : BitVec 32
  stopPos : BitVec 32
deriving DecidableEq, Repr

section Choice

variable (serverList : ServerList) (counts : Counts) (stream : RandomStream)

/-- `g_db_server_list[i].serv_conn`. -/
def servConn (i : Int) : Except Fault (Option DBServConn) :=
  if 0 ≤ i ∧ i < counts.server.toNat then .ok (serverList i.toNat) else .error .index

/-- The first loop, with `left` entries to go: the `i` it ends with. -/
def firstValid : (left i : Nat) → Except Fault Nat
  | 0, i => .ok i
  | left + 1, i =>
      match servConn serverList counts i with
      | .error fault => .error fault
      | .ok pDbConn => if isOpen pDbConn then .ok i else firstValid left (i + 1)

/-- `int i = rand() % (stop_pos - start_pos) + start_pos`. -/
def drawnIndex (range : PosRange) (draw : Nat) : Int :=
  (BitVec.ofNat 32 (stream.rand draw) % (range.stopPos - range.startPos) + range.startPos).toInt

/-- A turn of the random loop, when it leaves the loop. -/
def drawn (range : PosRange) (draw : Nat) : Option (Except Fault (Option DBServConn)) :=
  if range.stopPos - range.startPos = 0 then some (.error .division)
  else
    match servConn serverList counts (drawnIndex stream range draw) with
    | .error fault => some (.error fault)
    | .ok pDbConn => if isOpen pDbConn then some (.ok pDbConn) else none

/-- `get_db_server_conn_in_range`. -/
def GetDbServerConnInRange (range : PosRange) (result : Except Fault (Option DBServConn)) : Prop :=
  match firstValid serverList counts (range.stopPos.toNat - range.startPos.toNat)
      range.startPos.toNat with
  | .error fault => result = .error fault
  | .ok i =>
      if i = range.stopPos.toNat then result = .ok none
      else Leaves (seek (drawn serverList counts stream range)) 0 result

/-- The second range is asked when the first gives a null pointer. -/
def GetDbServConnFrom (first second : PosRange) (result : Except Fault (Option DBServConn)) :
    Prop :=
  ∃ found, GetDbServerConnInRange serverList counts stream first found ∧
    if found = .ok none then GetDbServerConnInRange serverList counts stream second result
    else result = found

end Choice

def Counts.loginRange (counts : Counts) : PosRange := ⟨0, counts.login⟩

def Counts.otherRange (counts : Counts) : PosRange := ⟨counts.login, counts.server⟩

/-- `get_db_serv_conn_for_login`. -/
def GetDbServConnForLogin (serverList : ServerList) (counts : Counts) (stream : RandomStream) :
    Except Fault (Option DBServConn) → Prop :=
  GetDbServConnFrom serverList counts stream counts.loginRange counts.otherRange

/-- `get_db_serv_conn`. -/
def GetDbServConn (serverList : ServerList) (counts : Counts) (stream : RandomStream) :
    Except Fault (Option DBServConn) → Prop :=
  GetDbServConnFrom serverList counts stream counts.otherRange counts.loginRange

/-! ### The choice that is due -/

namespace PosRange

def size (range : PosRange) : Nat := range.stopPos.toNat - range.startPos.toNat

/-- The connection is open and in an entry of the range. -/
def Offers (range : PosRange) (serverList : ServerList) (pDbConn : DBServConn) : Prop :=
  ∃ i, range.startPos.toNat ≤ i ∧ i < range.stopPos.toNat ∧ serverList i = some pDbConn ∧
    pDbConn.mBOpen = true

/-- The entry that a draw is for. -/
def position (range : PosRange) (stream : RandomStream) (draw : Nat) : Nat :=
  range.startPos.toNat + stream.rand draw % range.size

/-- The entries drawn, up to the first with an open connection, have numbers below `2^31`. -/
def FitsInt (range : PosRange) (serverList : ServerList) (stream : RandomStream) : Prop :=
  ∀ draw, (∀ earlier, earlier < draw →
      isOpen (serverList (range.position stream earlier)) = false) →
    range.position stream draw < 2147483648

end PosRange

/-- The stream has every residue modulo a number. -/
def RandomStream.HitsResidues (stream : RandomStream) (modulus : Nat) : Prop :=
  ∀ residue, residue < modulus → ∃ draw, stream.rand draw % modulus = residue

/-- A null pointer when no entry of the table is open; otherwise an open connection, of the first
range when that has one. -/
structure Serves (serverList : ServerList) (counts : Counts) (first second : PosRange)
    (pDbConn : Option DBServConn) : Prop where
  null_iff : pDbConn = none ↔ ∀ i, i < counts.server.toNat → isOpen (serverList i) = false
  preferred : (∃ conn, first.Offers serverList conn) →
    ∃ conn, pDbConn = some conn ∧ first.Offers serverList conn
  fallback : ¬(∃ conn, first.Offers serverList conn) → ∀ conn, pDbConn = some conn →
    second.Offers serverList conn

/-- The call returns without a fault, with the connection that is due. -/
def Chooses (call : Except Fault (Option DBServConn) → Prop) (serverList : ServerList)
    (counts : Counts) (first second : PosRange) : Prop :=
  ∃ pDbConn, call (.ok pDbConn) ∧ Serves serverList counts first second pDbConn

/-- The draws of the range that is drawn from fit an `int`. -/
def IndicesFit (serverList : ServerList) (stream : RandomStream) (first second : PosRange) : Prop :=
  ((∃ conn, first.Offers serverList conn) → first.FitsInt serverList stream) ∧
    ((¬∃ conn, first.Offers serverList conn) → (∃ conn, second.Offers serverList conn) →
      second.FitsInt serverList stream)

/-! ### The split -/

theorem initDbServConn_ok {serverCount concurConnCnt : BitVec 32} {counts : Counts}
    (initialised : initDbServConn serverCount concurConnCnt = .ok counts) :
    counts.server = serverCount ∧ counts.login.toNat ≤ counts.server.toNat := by
  unfold initDbServConn at initialised
  split at initialised
  · cases initialised
  · cases initialised
    refine ⟨rfl, ?_⟩
    have half : serverCount.toNat / concurConnCnt.toNat / 2 * concurConnCnt.toNat ≤
        serverCount.toNat := by
      calc serverCount.toNat / concurConnCnt.toNat / 2 * concurConnCnt.toNat
          ≤ serverCount.toNat / concurConnCnt.toNat * concurConnCnt.toNat :=
            Nat.mul_le_mul_right _ (Nat.div_le_self _ _)
        _ ≤ serverCount.toNat := Nat.div_mul_le_self _ _
    simp only [BitVec.toNat_mul, BitVec.toNat_udiv]
    exact Nat.le_trans (Nat.mod_le _ _) half

/-- The range is one of the table. -/
structure PosRange.Within (range : PosRange) (counts : Counts) : Prop where
  ordered : range.startPos.toNat ≤ range.stopPos.toNat
  inside : range.stopPos.toNat ≤ counts.server.toNat

theorem isOpen_iff {pDbConn : Option DBServConn} :
    isOpen pDbConn = true ↔ ∃ conn, pDbConn = some conn ∧ conn.mBOpen = true := by
  cases pDbConn <;> simp [isOpen]

section Range

variable {serverList : ServerList} {counts : Counts} {stream : RandomStream} {range : PosRange}

theorem offers_iff : (∃ conn, range.Offers serverList conn) ↔
    ∃ i, range.startPos.toNat ≤ i ∧ i < range.stopPos.toNat ∧ isOpen (serverList i) = true := by
  simp only [PosRange.Offers, isOpen_iff]
  constructor
  · rintro ⟨conn, i, after, before, entry, opened⟩
    exact ⟨i, after, before, conn, entry, opened⟩
  · rintro ⟨i, after, before, conn, entry, opened⟩
    exact ⟨conn, i, after, before, entry, opened⟩

/-- A range that offers a connection is not of a table without open entries. -/
theorem not_closed (within : range.Within counts) (offered : ∃ conn, range.Offers serverList conn) :
    ¬∀ i, i < counts.server.toNat → isOpen (serverList i) = false := by
  intro closed
  obtain ⟨i, after, before, opened⟩ := offers_iff.mp offered
  have inside := within.inside
  rw [closed i (by omega)] at opened
  cases opened

/-! ### The scan -/

theorem servConn_of_lt {i : Nat} (inside : i < counts.server.toNat) :
    servConn serverList counts i = .ok (serverList i) := by
  unfold servConn
  rw [if_pos (by omega), Int.toNat_natCast]

/-- The scan ends at the first open entry, or past the last. -/
theorem firstValid_eq {left i : Nat} (inside : i + left ≤ counts.server.toNat) :
    ∃ found, firstValid serverList counts left i = .ok found ∧ i ≤ found ∧ found ≤ i + left ∧
      (∀ k, i ≤ k → k < found → isOpen (serverList k) = false) ∧
      (found < i + left → isOpen (serverList found) = true) := by
  induction left generalizing i with
  | zero => exact ⟨i, rfl, le_rfl, le_rfl, fun k after before => by omega, fun less => by omega⟩
  | succ left inductionHypothesis =>
      rw [firstValid, servConn_of_lt (by omega)]
      cases opened : isOpen (serverList i) with
      | true =>
          refine ⟨i, by simp [opened], le_rfl, by omega, fun k after before => by omega, ?_⟩
          exact fun _ => opened
      | false =>
          obtain ⟨found, ends, after, before, closed, last⟩ :=
            inductionHypothesis (i := i + 1) (by omega)
          refine ⟨found, by simpa [opened] using ends, by omega, by omega, ?_, ?_⟩
          · intro k later earlier
            rcases Nat.eq_or_lt_of_le later with rfl | further
            · exact opened
            · exact closed k further earlier
          · exact fun less => last (by omega)

theorem inRange_of_closed (stream : RandomStream) (within : range.Within counts)
    (closed : ¬∃ conn, range.Offers serverList conn)
    (result : Except Fault (Option DBServConn)) :
    GetDbServerConnInRange serverList counts stream range result ↔ result = .ok none := by
  have ordered := within.ordered
  have inside := within.inside
  obtain ⟨found, ends, after, before, _, last⟩ := @firstValid_eq serverList counts
    (range.stopPos.toNat - range.startPos.toNat) range.startPos.toNat (by omega)
  have past : found = range.stopPos.toNat := by
    by_contra other
    exact closed (offers_iff.mpr ⟨found, after, by omega, last (by omega)⟩)
  simp only [GetDbServerConnInRange, ends, past, if_true]

theorem inRange_of_offers (within : range.Within counts)
    (offered : ∃ conn, range.Offers serverList conn)
    (result : Except Fault (Option DBServConn)) :
    GetDbServerConnInRange serverList counts stream range result ↔
      Leaves (seek (drawn serverList counts stream range)) 0 result := by
  have ordered := within.ordered
  have inside := within.inside
  obtain ⟨i, atLeast, below, opened⟩ := offers_iff.mp offered
  obtain ⟨found, ends, after, before, closed, _⟩ := @firstValid_eq serverList counts
    (range.stopPos.toNat - range.startPos.toNat) range.startPos.toNat (by omega)
  have early : found ≠ range.stopPos.toNat := by
    intro past
    rw [closed i atLeast (by omega)] at opened
    cases opened
  simp only [GetDbServerConnInRange, ends, if_neg early]

/-! ### The random loop -/

theorem position_bounds (stream : RandomStream)
    (occupied : range.startPos.toNat < range.stopPos.toNat) (draw : Nat) :
    range.startPos.toNat ≤ range.position stream draw ∧
      range.position stream draw < range.stopPos.toNat := by
  have residue : stream.rand draw % range.size < range.size :=
    Nat.mod_lt _ (by unfold PosRange.size; omega)
  unfold PosRange.position
  unfold PosRange.size at residue ⊢
  omega

/-- As an `int`, a position from `2^31` on is negative. -/
theorem drawnIndex_eq (occupied : range.startPos.toNat < range.stopPos.toNat) (draw : Nat) :
    drawnIndex stream range draw =
      if range.position stream draw < 2147483648 then (range.position stream draw : Int)
      else (range.position stream draw : Int) - 4294967296 := by
  have bounds := position_bounds stream occupied draw
  have number := stream.within draw
  have stop := range.stopPos.isLt
  have word : (BitVec.ofNat 32 (stream.rand draw) % (range.stopPos - range.startPos)
      + range.startPos).toNat = range.position stream draw := by
    have size : (range.stopPos - range.startPos).toNat = range.size :=
      BitVec.toNat_sub_of_le (by rw [BitVec.le_def]; omega)
    have drawnNumber : (BitVec.ofNat 32 (stream.rand draw)).toNat = stream.rand draw := by
      rw [BitVec.toNat_ofNat]
      exact Nat.mod_eq_of_lt (by unfold randMax at number; omega)
    rw [BitVec.toNat_add, BitVec.toNat_umod, size, drawnNumber, Nat.add_comm]
    exact Nat.mod_eq_of_lt (by unfold PosRange.position at bounds; omega)
  unfold drawnIndex
  rw [BitVec.toInt_eq_toNat_cond, word]
  split <;> split <;> omega

/-- A turn of the random loop leaves it with an open connection or with a fault. -/
theorem drawn_eq (within : range.Within counts)
    (occupied : range.startPos.toNat < range.stopPos.toNat) (draw : Nat) :
    drawn serverList counts stream range draw =
      if range.position stream draw < 2147483648 then
        if isOpen (serverList (range.position stream draw)) then
          some (.ok (serverList (range.position stream draw)))
        else none
      else some (.error .index) := by
  have bounds := position_bounds stream occupied draw
  have inside := within.inside
  have stop := range.stopPos.isLt
  have modulus : range.stopPos - range.startPos ≠ 0 := by
    intro zero
    have size : (range.stopPos - range.startPos).toNat =
        range.stopPos.toNat - range.startPos.toNat :=
      BitVec.toNat_sub_of_le (by rw [BitVec.le_def]; omega)
    rw [zero, show (0 : BitVec 32).toNat = 0 from rfl] at size
    omega
  unfold drawn
  rw [if_neg modulus, drawnIndex_eq occupied]
  by_cases small : range.position stream draw < 2147483648
  · rw [if_pos small, if_pos small, servConn_of_lt (by omega)]
  · rw [if_neg small, if_neg small, servConn, if_neg (by omega)]

/-- A draw that is passed over is for an entry that is not open. -/
theorem closed_of_drawn_none (within : range.Within counts)
    (occupied : range.startPos.toNat < range.stopPos.toNat) {draw : Nat}
    (passed : drawn serverList counts stream range draw = none) :
    range.position stream draw < 2147483648 ∧
      isOpen (serverList (range.position stream draw)) = false := by
  rw [drawn_eq within occupied] at passed
  split at passed
  · rename_i small
    split at passed
    · cases passed
    · rename_i closed
      exact ⟨small, by simpa using closed⟩
  · cases passed

/-- A draw that leaves the loop without a fault is for an open entry. -/
theorem open_of_drawn_ok (within : range.Within counts)
    (occupied : range.startPos.toNat < range.stopPos.toNat) {draw : Nat}
    {pDbConn : Option DBServConn}
    (left : drawn serverList counts stream range draw = some (.ok pDbConn)) :
    range.position stream draw < 2147483648 ∧
      isOpen (serverList (range.position stream draw)) = true ∧
      pDbConn = serverList (range.position stream draw) := by
  rw [drawn_eq within occupied] at left
  split at left
  · rename_i small
    split at left
    · rename_i opened
      cases left
      exact ⟨small, opened, rfl⟩
    · cases left
  · cases left

/-- A connection that the range gives is one that it offers. -/
theorem offers_of_inRange (within : range.Within counts)
    (offered : ∃ conn, range.Offers serverList conn) {pDbConn : Option DBServConn}
    (given : GetDbServerConnInRange serverList counts stream range (.ok pDbConn)) :
    ∃ conn, pDbConn = some conn ∧ range.Offers serverList conn := by
  obtain ⟨i, atLeast, below, _⟩ := offers_iff.mp offered
  have occupied : range.startPos.toNat < range.stopPos.toNat := by omega
  rw [inRange_of_offers within offered, leaves_seek_iff] at given
  obtain ⟨last, _, left⟩ := given
  obtain ⟨_, opened, rfl⟩ := open_of_drawn_ok within occupied left
  obtain ⟨conn, entry, openConn⟩ := isOpen_iff.mp opened
  have bounds := position_bounds stream occupied last
  exact ⟨conn, entry, _, bounds.1, bounds.2, entry, openConn⟩

/-- A range with an open connection gives one exactly when its draws fit an `int`. -/
theorem inRange_ok_iff (within : range.Within counts)
    (offered : ∃ conn, range.Offers serverList conn) (hits : stream.HitsResidues range.size) :
    (∃ pDbConn, GetDbServerConnInRange serverList counts stream range (.ok pDbConn)) ↔
      range.FitsInt serverList stream := by
  obtain ⟨i, atLeast, below, opened⟩ := offers_iff.mp offered
  have occupied : range.startPos.toNat < range.stopPos.toNat := by omega
  simp only [inRange_of_offers within offered, leaves_seek_iff]
  constructor
  · rintro ⟨pDbConn, last, ⟨_, _, passed⟩, left⟩ draw closed
    obtain ⟨small, lastOpen, _⟩ := open_of_drawn_ok within occupied left
    rcases lt_trichotomy draw last with before | rfl | after
    · exact (closed_of_drawn_none within occupied (passed draw (Nat.zero_le _) before)).1
    · exact small
    · rw [closed last after] at lastOpen
      cases lastOpen
  · intro fits
    -- The stream comes to the entry that is open.
    obtain ⟨draw, residue⟩ := hits (i - range.startPos.toNat) (by unfold PosRange.size; omega)
    have place : range.position stream draw = i := by
      unfold PosRange.position
      omega
    have hit : drawn serverList counts stream range draw ≠ none := by
      intro passed
      have closed := (closed_of_drawn_none within occupied passed).2
      rw [place, opened] at closed
      cases closed
    obtain ⟨last, ends⟩ := exists_endsSearch (Nat.zero_le draw) hit
    have small := fits last fun earlier before =>
      (closed_of_drawn_none within occupied (ends.2.2 earlier (Nat.zero_le _) before)).2
    have left := ends.2.1
    rw [drawn_eq within occupied, if_pos small] at left
    split at left
    · rename_i lastOpen
      refine ⟨serverList (range.position stream last), last, ends, ?_⟩
      rw [drawn_eq within occupied, if_pos small, if_pos lastOpen]
    · exact absurd rfl left

end Range

/-! ### The two ranges -/

section TwoRanges

variable {serverList : ServerList} {counts : Counts} {stream : RandomStream}
  {first second : PosRange}

/-- Where no range offers a connection, none is due. -/
theorem serves_none
    (covers : ∀ i, i < counts.server.toNat →
      (first.startPos.toNat ≤ i ∧ i < first.stopPos.toNat) ∨
        (second.startPos.toNat ≤ i ∧ i < second.stopPos.toNat))
    (nothing : ¬∃ conn, first.Offers serverList conn)
    (neither : ¬∃ conn, second.Offers serverList conn) :
    Serves serverList counts first second none := by
  refine ⟨⟨fun _ i inside => ?_, fun _ => rfl⟩, fun one => absurd one nothing,
    fun _ conn same => by cases same⟩
  by_contra opened
  have isOpened : isOpen (serverList i) = true := by simpa using opened
  rcases covers i inside with ⟨after, before⟩ | ⟨after, before⟩
  · exact nothing (offers_iff.mpr ⟨i, after, before, isOpened⟩)
  · exact neither (offers_iff.mpr ⟨i, after, before, isOpened⟩)

theorem chooses_first_iff (within : first.Within counts)
    (offered : ∃ conn, first.Offers serverList conn) (hits : stream.HitsResidues first.size) :
    Chooses (GetDbServConnFrom serverList counts stream first second) serverList counts first second
      ↔ first.FitsInt serverList stream := by
  have fits := inRange_ok_iff within offered hits
  constructor
  · rintro ⟨pDbConn, ⟨found, given, rest⟩, _⟩
    refine fits.mp ?_
    split at rest
    · rename_i null
      rw [null] at given
      exact ⟨none, given⟩
    · exact ⟨pDbConn, rest ▸ given⟩
  · intro indices
    obtain ⟨pDbConn, given⟩ := fits.mpr indices
    obtain ⟨conn, rfl, held⟩ := offers_of_inRange within offered given
    refine ⟨some conn, ⟨.ok (some conn), given, by simp⟩, ?_, fun _ => ⟨conn, rfl, held⟩, ?_⟩
    · exact ⟨fun null => absurd null (by simp),
        fun closed => absurd closed (not_closed within offered)⟩
    · exact fun nothing => absurd offered nothing

theorem connFrom_second (within : first.Within counts)
    (nothing : ¬∃ conn, first.Offers serverList conn)
    (result : Except Fault (Option DBServConn)) :
    GetDbServConnFrom serverList counts stream first second result ↔
      GetDbServerConnInRange serverList counts stream second result := by
  have null := inRange_of_closed stream within nothing
  simp only [GetDbServConnFrom, null, exists_eq_left, if_true]

theorem chooses_second_iff (firstWithin : first.Within counts) (secondWithin : second.Within counts)
    (nothing : ¬∃ conn, first.Offers serverList conn)
    (offered : ∃ conn, second.Offers serverList conn) (hits : stream.HitsResidues second.size) :
    Chooses (GetDbServConnFrom serverList counts stream first second) serverList counts first second
      ↔ second.FitsInt serverList stream := by
  have fits := inRange_ok_iff secondWithin offered hits
  simp only [Chooses, connFrom_second firstWithin nothing]
  constructor
  · rintro ⟨pDbConn, given, _⟩
    exact fits.mp ⟨pDbConn, given⟩
  · intro indices
    obtain ⟨pDbConn, given⟩ := fits.mpr indices
    obtain ⟨conn, rfl, held⟩ := offers_of_inRange secondWithin offered given
    refine ⟨some conn, given, ?_, fun one => absurd one nothing, ?_⟩
    · exact ⟨fun null => absurd null (by simp),
        fun closed => absurd closed (not_closed secondWithin offered)⟩
    · intro _ also same
      cases same
      exact held

end TwoRanges

/-- A choice from two ranges that make up the table returns the connection that is due exactly
when the draws fit an `int`. -/
theorem chooses_iff {counts : Counts} {first second : PosRange} (serverList : ServerList)
    (stream : RandomStream) (firstWithin : first.Within counts)
    (secondWithin : second.Within counts)
    (covers : ∀ i, i < counts.server.toNat →
      (first.startPos.toNat ≤ i ∧ i < first.stopPos.toNat) ∨
        (second.startPos.toNat ≤ i ∧ i < second.stopPos.toNat))
    (firstHits : stream.HitsResidues first.size) (secondHits : stream.HitsResidues second.size) :
    Chooses (GetDbServConnFrom serverList counts stream first second) serverList counts first second
      ↔ IndicesFit serverList stream first second := by
  unfold IndicesFit
  by_cases offered : ∃ conn, first.Offers serverList conn
  · rw [chooses_first_iff firstWithin offered firstHits, imp_iff_right offered]
    exact (and_iff_left fun nothing => absurd offered nothing).symm
  · rw [imp_iff_right offered]
    by_cases other : ∃ conn, second.Offers serverList conn
    · rw [chooses_second_iff firstWithin secondWithin offered other secondHits, imp_iff_right other]
      exact (and_iff_right fun one => absurd one offered).symm
    · refine iff_of_true ⟨none, ?_, serves_none covers offered other⟩
        ⟨fun one => absurd one offered, fun one => absurd one other⟩
      exact (connFrom_second firstWithin offered _).mpr
        ((inRange_of_closed stream secondWithin other _).mpr rfl)

/-- The two ranges of the split table. -/
theorem ranges_within {counts : Counts} (split : counts.login.toNat ≤ counts.server.toNat) :
    counts.loginRange.Within counts ∧ counts.otherRange.Within counts :=
  ⟨⟨Nat.zero_le _, split⟩, ⟨split, le_rfl⟩⟩

theorem covers_ranges (counts : Counts) (i : Nat) (inside : i < counts.server.toNat) :
    (counts.loginRange.startPos.toNat ≤ i ∧ i < counts.loginRange.stopPos.toNat) ∨
      (counts.otherRange.startPos.toNat ≤ i ∧ i < counts.otherRange.stopPos.toNat) := by
  change ((0 : BitVec 32).toNat ≤ i ∧ i < counts.login.toNat) ∨
    (counts.login.toNat ≤ i ∧ i < counts.server.toNat)
  rw [show (0 : BitVec 32).toNat = 0 from rfl]
  omega

/-- Both choices return the connection that is due exactly when the draws of the range that is
drawn from fit an `int`. -/
theorem dbServConn_choice (serverList : ServerList) (serverCount concurConnCnt : BitVec 32)
    (counts : Counts) (stream : RandomStream)
    (initialised : initDbServConn serverCount concurConnCnt = .ok counts)
    (loginHits : stream.HitsResidues counts.loginRange.size)
    (otherHits : stream.HitsResidues counts.otherRange.size) :
    (Chooses (GetDbServConnForLogin serverList counts stream) serverList counts counts.loginRange
        counts.otherRange ↔
      IndicesFit serverList stream counts.loginRange counts.otherRange) ∧
    (Chooses (GetDbServConn serverList counts stream) serverList counts counts.otherRange
        counts.loginRange ↔
      IndicesFit serverList stream counts.otherRange counts.loginRange) := by
  obtain ⟨_, split⟩ := initDbServConn_ok initialised
  obtain ⟨login, other⟩ := ranges_within split
  have covers := covers_ranges counts
  exact ⟨chooses_iff serverList stream login other covers loginHits otherHits,
    chooses_iff serverList stream other login (fun i inside => (covers i inside).symm) otherHits
      loginHits⟩

/-- A table of at most `2^31` entries has no index that does not fit. -/
theorem indicesFit_of_count_le {counts : Counts} {first second : PosRange}
    (serverList : ServerList) (stream : RandomStream) (firstWithin : first.Within counts)
    (secondWithin : second.Within counts) (small : counts.server.toNat ≤ 2147483648) :
    IndicesFit serverList stream first second := by
  have fits : ∀ range : PosRange, range.Within counts →
      (∃ conn, range.Offers serverList conn) → range.FitsInt serverList stream := by
    rintro range within ⟨_, i, after, before, _⟩ draw _
    have bounds := position_bounds stream (show range.startPos.toNat < range.stopPos.toNat by omega)
      draw
    have inside := within.inside
    omega
  exact ⟨fits first firstWithin, fun _ => fits second secondWithin⟩

/-- A stream that begins with one number and goes on with all of them, from zero. -/
def countingAfter (first : Nat) : RandomStream where
  rand draw := if draw = 0 then first % (randMax + 1) else (draw - 1) % (randMax + 1)
  within draw := by
    unfold randMax
    split <;> omega

theorem countingAfter_hits (first : Nat) {modulus : Nat} (within : modulus ≤ randMax + 1) :
    (countingAfter first).HitsResidues modulus := by
  intro residue below
  refine ⟨residue + 1, ?_⟩
  change residue % (randMax + 1) % modulus = residue
  rw [Nat.mod_eq_of_lt (show residue < randMax + 1 by omega), Nat.mod_eq_of_lt below]

/-- Four servers, the last of them open. -/
theorem dbServConn_choice_fourServers :
    let serverList : ServerList := fun i => if i = 3 then some ⟨7, true⟩ else none
    Chooses (GetDbServConnForLogin serverList ⟨4, 2⟩ (countingAfter 0)) serverList ⟨4, 2⟩
        (Counts.loginRange ⟨4, 2⟩) (Counts.otherRange ⟨4, 2⟩) ∧
      Chooses (GetDbServConn serverList ⟨4, 2⟩ (countingAfter 0)) serverList ⟨4, 2⟩
        (Counts.otherRange ⟨4, 2⟩) (Counts.loginRange ⟨4, 2⟩) := by
  intro serverList
  obtain ⟨login, other⟩ := @ranges_within ⟨4, 2⟩ (by decide)
  obtain ⟨forLogin, forOther⟩ := dbServConn_choice serverList 4 1 ⟨4, 2⟩ (countingAfter 0) rfl
    (countingAfter_hits 0 (by decide)) (countingAfter_hits 0 (by decide))
  exact ⟨forLogin.mpr (indicesFit_of_count_le serverList _ login other (by decide)),
    forOther.mpr (indicesFit_of_count_le serverList _ other login (by decide))⟩

/-- Two servers with `2^30 + 1` connections each, of which the one at `2^30 + 1` is open: when
`rand()` gives `2^30 - 1` first, the entry at `2^31` is drawn, whose number is negative as an
`int`. -/
theorem dbServConn_choice_negativeIndex :
    let serverList : ServerList := fun i => if i = 1073741825 then some ⟨7, true⟩ else none
    let counts : Counts := ⟨2147483650, 1073741825⟩
    let stream := countingAfter 1073741823
    initDbServConn 2147483650 1073741825 = .ok counts ∧
      stream.HitsResidues counts.loginRange.size ∧ stream.HitsResidues counts.otherRange.size ∧
      servConn serverList counts (drawnIndex stream counts.otherRange 0) = .error .index ∧
      ¬Chooses (GetDbServConn serverList counts stream) serverList counts counts.otherRange
        counts.loginRange := by
  intro serverList counts stream
  have split : counts.login.toNat ≤ counts.server.toNat := by decide
  obtain ⟨login, other⟩ := ranges_within split
  have loginHits : stream.HitsResidues counts.loginRange.size :=
    countingAfter_hits _ (by decide)
  have otherHits : stream.HitsResidues counts.otherRange.size :=
    countingAfter_hits _ (by decide)
  have covers := covers_ranges counts
  refine ⟨rfl, loginHits, otherHits, by decide, ?_⟩
  unfold GetDbServConn
  rw [chooses_iff serverList stream other login (fun i inside => (covers i inside).symm) otherHits
    loginHits]
  intro indices
  have offered : ∃ conn, counts.otherRange.Offers serverList conn :=
    ⟨⟨7, true⟩, 1073741825, by decide, by decide, rfl, rfl⟩
  have drawn := indices.1 offered 0 (fun earlier before => absurd before (Nat.not_lt_zero _))
  exact absurd drawn (by decide)

end AChat.MsgServer.DbServChoice
