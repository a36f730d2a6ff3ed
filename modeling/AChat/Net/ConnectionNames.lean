import Mathlib.Data.List.Nodup
import Mathlib.Data.List.Range
import AChat.Lib.Reach
import AChat.Net.TcpServer

/-!
Contract: how long the names of the connections of a server stay distinct, and that the
map loses nobody as long as they do.

A name has room for 31 bytes after the name of the server, and the address takes its part
of them. The names repeat from the first number on that the rest does not hold.

Owns: the arithmetic of the cut, and the invariant of the map.
-/

namespace AChat.Net

open Lib Std

/-! ### The cut -/

namespace TcpServer

/-- What is left for the number. -/
def room (hostport : Bytes) : Nat :=
  29 - hostport.length

/-- Two numbers give one name exactly when their texts agree as far as there is room. -/
theorem connName_eq_iff (hostport name : Bytes) (left right : Nat) :
    connName hostport name left = connName hostport name right ↔
      (decimal left).take (room hostport) = (decimal right).take (room hostport) := by
  have parts : ∀ connId, connName hostport name connId =
      (name ++ ([58] ++ hostport ++ [35]).take 31) ++ (decimal connId).take (room hostport) := by
    intro connId
    have rest : 31 - ([58] ++ hostport ++ [35]).length = room hostport := by
      unfold room
      simp only [List.length_append, List.length_singleton]
      omega
    change name ++ ([58] ++ hostport ++ [35] ++ decimal connId).take 31 = _
    rw [List.take_append, rest]
    exact (List.append_assoc _ _ _).symm
  rw [parts, parts]
  exact List.append_right_inj _

/-- The names of the first `count` connections are distinct exactly when all their numbers
fit. -/
theorem names_nodup_iff (hostport name : Bytes) (count : Nat) :
    ((List.range count).map fun index => connName hostport name (index + 1)).Nodup ↔
      count ≤ 1 ∨ count < 10 ^ room hostport := by
  rw [List.nodup_map_iff_inj_on List.nodup_range]
  constructor
  · intro injective
    by_contra tooMany
    push Not at tooMany
    obtain ⟨two, large⟩ := tooMany
    -- The last number that fits and its multiple by ten have one name.
    have collide : ∀ first second, first < count → second < count →
        (decimal (first + 1)).take (room hostport) =
          (decimal (second + 1)).take (room hostport) → first = second := by
      intro first second firstIn secondIn same
      exact injective first (List.mem_range.mpr firstIn) second (List.mem_range.mpr secondIn)
        ((connName_eq_iff hostport name _ _).mpr same)
    cases digits : room hostport with
    | zero =>
        rw [digits] at collide
        have equal := collide 0 1 (by omega) (by omega) rfl
        omega
    | succ width =>
        rw [digits] at collide large
        have positive : 0 < 10 ^ width := Nat.pow_pos (by decide)
        have tenfold : 10 ^ (width + 1) = 10 ^ width * 10 := Nat.pow_succ 10 width
        have equal := collide (10 ^ (width + 1) - 1) (10 ^ width - 1) (by omega) (by omega) (by
          rw [Nat.sub_add_cancel (by omega), Nat.sub_add_cancel (by omega),
            take_decimal_ten_pow, List.take_of_length_le]
          exact (length_decimal_le_iff positive _).mpr (by omega))
        omega
  · intro fits first firstIn second secondIn same
    rw [List.mem_range] at firstIn secondIn
    rcases fits with one | short
    · omega
    · have whole : ∀ index < count,
          (decimal (index + 1)).take (room hostport) = decimal (index + 1) := by
        intro index inside
        refine List.take_of_length_le ?_
        exact (length_decimal_le_iff (Nat.succ_pos index) _).mpr (by omega)
      have texts := (connName_eq_iff hostport name _ _).mp same
      rw [whole first firstIn, whole second secondIn] at texts
      have numbers := decimal_injective_of_pos (Nat.succ_pos first) (Nat.succ_pos second) texts
      omega

end TcpServer

/-! ### Runs -/

inductive ServerEvent where
  | newConnection
  | removeConnection (conn : ServerConnPtr)
deriving DecidableEq, Repr

/-- A server, the names it gave, in order, and the connections that are not yet removed. -/
structure ServerRun where
  server : TcpServer
  names : List Bytes
  live : List ServerConnPtr

namespace ServerRun

def start (hostport name : Bytes) : ServerRun :=
  ⟨.new hostport name, [], []⟩

/-- A connection is known by how many were accepted before it. -/
def step (current : ServerRun) : ServerEvent → ServerRun
  | .newConnection =>
      let accepted := current.server.newConnection current.names.length
      { server := accepted.2
        names := current.names ++ [accepted.1]
        live := current.live ++ [current.names.length] }
  | .removeConnection conn =>
      match current.names[conn]? with
      | some connName =>
          { current with
            server := (current.server.removeConnectionInLoop connName).2
            live := current.live.erase conn }
      | none => current

/-- The map has the connections that are not yet removed, each under its name, and nothing
else. -/
structure Mapped (current : ServerRun) : Prop where
  entries : ∀ connName conn, current.server.connections[connName]? = some conn ↔
    conn ∈ current.live ∧ current.names[conn]? = some connName
  size : current.server.connections.size = current.live.length

/-- The names are distinct, and the map loses nobody. -/
structure NamesKept (current : ServerRun) : Prop where
  distinct : current.names.Nodup
  mapped : current.Mapped

/-! ### The invariant -/

/-- The names are those of the numbers from 1 on. -/
structure Numbered (hostport name : Bytes) (current : ServerRun) : Prop where
  ownHostport : current.server.hostport = hostport
  ownName : current.server.name = name
  nextConnId : current.server.nextConnId = current.names.length + 1
  names : current.names =
    (List.range current.names.length).map fun index => TcpServer.connName hostport name (index + 1)
  live : current.live.Nodup
  accepted : ∀ conn ∈ current.live, conn < current.names.length

theorem Numbered.start (hostport name : Bytes) :
    Numbered hostport name (start hostport name) :=
  ⟨rfl, rfl, rfl, rfl, .nil, nofun⟩

variable {hostport name : Bytes} {current : ServerRun}

theorem Numbered.newConnection (numbered : Numbered hostport name current) :
    Numbered hostport name (current.step .newConnection) := by
  refine ⟨numbered.ownHostport, numbered.ownName, ?_, ?_, ?_, ?_⟩
  · change current.server.nextConnId + 1 = (current.names ++ [_]).length + 1
    rw [numbered.nextConnId, List.length_append, List.length_singleton]
  · change current.names ++ [TcpServer.connName _ _ _] = _
    rw [numbered.ownHostport, numbered.ownName, numbered.nextConnId]
    simp only [step, List.length_append, List.length_singleton, List.range_succ, List.map_append]
    rw [← numbered.names]
    rfl
  · refine List.nodup_append.mpr ⟨numbered.live, List.nodup_singleton _, ?_⟩
    intro conn member other single
    rw [List.mem_singleton] at single
    exact single ▸ Nat.ne_of_lt (numbered.accepted conn member)
  · intro conn member
    have length : (current.step .newConnection).names.length = current.names.length + 1 :=
      List.length_append
    rw [length]
    rcases List.mem_append.mp member with old | new
    · exact Nat.lt_succ_of_lt (numbered.accepted conn old)
    · exact List.mem_singleton.mp new ▸ Nat.lt_succ_self _

theorem Numbered.removeConnection (numbered : Numbered hostport name current)
    (conn : ServerConnPtr) :
    Numbered hostport name (current.step (.removeConnection conn)) := by
  unfold step
  simp only
  split
  · exact ⟨numbered.ownHostport, numbered.ownName, numbered.nextConnId, numbered.names,
      numbered.live.erase conn, fun other member =>
        numbered.accepted other (List.mem_of_mem_erase member)⟩
  · exact numbered

theorem Numbered.step (numbered : Numbered hostport name current) (event : ServerEvent) :
    Numbered hostport name (current.step event) := by
  cases event with
  | newConnection => exact numbered.newConnection
  | removeConnection conn => exact numbered.removeConnection conn

/-- A new name gets an entry of its own. -/
theorem Mapped.newConnection (numbered : Numbered hostport name current)
    (mapped : current.Mapped) (distinct : (current.step .newConnection).names.Nodup) :
    (current.step .newConnection).Mapped := by
  let connName := TcpServer.connName current.server.hostport current.server.name
    current.server.nextConnId
  have fresh : connName ∉ current.names := by
    intro old
    exact (List.nodup_append.mp distinct).2.2 _ old _ (List.mem_singleton_self _) rfl
  have unused : current.server.connections[connName]? = none := by
    rw [Option.eq_none_iff_forall_not_mem]
    intro conn entry
    exact fresh (List.mem_of_getElem? ((mapped.entries connName conn).mp entry).2)
  have notLive : current.names.length ∉ current.live := fun member =>
    Nat.lt_irrefl _ (numbered.accepted _ member)
  refine ⟨?_, ?_⟩
  · intro other conn
    change (current.server.connections.insert connName current.names.length)[other]? = some conn ↔
      conn ∈ current.live ++ [current.names.length] ∧
        (current.names ++ [connName])[conn]? = some other
    rw [TreeMap.getElem?_insert, List.mem_append, List.mem_singleton]
    by_cases own : other = connName
    · subst own
      rw [if_pos ReflCmp.compare_self]
      constructor
      · rintro ⟨rfl⟩
        exact ⟨.inr rfl, List.getElem?_concat_length⟩
      · rintro ⟨_, named⟩
        rw [List.getElem?_append] at named
        split at named
        · exact absurd (List.mem_of_getElem? named) fresh
        · rename_i beyond
          have inside := (List.getElem?_eq_some_iff.mp named).1
          rw [List.length_singleton] at inside
          exact congrArg some (Nat.le_antisymm (Nat.le_of_not_lt beyond)
            (Nat.sub_eq_zero_iff_le.mp (Nat.lt_one_iff.mp inside)))
    · rw [if_neg (fun same => own (LawfulEqCmp.eq_of_compare same).symm), mapped.entries]
      constructor
      · rintro ⟨member, named⟩
        refine ⟨.inl member, ?_⟩
        rw [List.getElem?_append_left (numbered.accepted conn member)]
        exact named
      · rintro ⟨member | rfl, named⟩
        · rw [List.getElem?_append_left (numbered.accepted conn member)] at named
          exact ⟨member, named⟩
        · rw [List.getElem?_concat_length] at named
          exact absurd (Option.some.inj named).symm own
  · change (current.server.connections.insert connName current.names.length).size =
      (current.live ++ [current.names.length]).length
    rw [TreeMap.size_insert, if_neg, mapped.size, List.length_append, List.length_singleton]
    rw [← TreeMap.mem_iff_contains, TreeMap.mem_iff_isSome_getElem?, unused]
    simp

/-- A removal takes the entry of its connection, if it is still there, and no other. -/
theorem Mapped.removeConnection (numbered : Numbered hostport name current)
    (mapped : current.Mapped) (distinct : current.names.Nodup) (conn : ServerConnPtr) :
    (current.step (.removeConnection conn)).Mapped := by
  unfold step
  simp only
  split
  · rename_i connName named
    have owner : ∀ other, current.names[other]? = some connName → other = conn := by
      intro other same
      obtain ⟨inside, value⟩ := List.getElem?_eq_some_iff.mp same
      obtain ⟨connInside, connValue⟩ := List.getElem?_eq_some_iff.mp named
      exact (List.Nodup.getElem_inj_iff distinct).mp (value.trans connValue.symm)
    have entry : conn ∈ current.live ↔ current.server.connections[connName]? = some conn :=
      ⟨fun member => (mapped.entries _ _).mpr ⟨member, named⟩,
        fun found => ((mapped.entries _ _).mp found).1⟩
    refine ⟨?_, ?_⟩
    · intro other held
      change (current.server.connections.erase connName)[other]? = some held ↔
        held ∈ current.live.erase conn ∧ current.names[held]? = some other
      rw [TreeMap.getElem?_erase, numbered.live.mem_erase_iff]
      by_cases own : other = connName
      · subst own
        rw [if_pos ReflCmp.compare_self]
        constructor
        · intro found
          cases found
        · rintro ⟨⟨different, _⟩, same⟩
          exact absurd (owner held same) different
      · rw [if_neg (fun same => own (LawfulEqCmp.eq_of_compare same).symm), mapped.entries]
        constructor
        · rintro ⟨member, same⟩
          refine ⟨⟨?_, member⟩, same⟩
          rintro rfl
          exact own (Option.some.inj (same.symm.trans named))
        · rintro ⟨⟨_, member⟩, same⟩
          exact ⟨member, same⟩
    · change (current.server.connections.erase connName).size = (current.live.erase conn).length
      rw [TreeMap.size_erase, mapped.size]
      by_cases member : conn ∈ current.live
      · rw [if_pos, List.length_erase_of_mem member]
        rw [← TreeMap.mem_iff_contains, TreeMap.mem_iff_isSome_getElem?, entry.mp member]
        rfl
      · rw [if_neg, List.erase_of_not_mem member]
        rw [← TreeMap.mem_iff_contains, TreeMap.mem_iff_isSome_getElem?]
        intro present
        obtain ⟨held, found⟩ := Option.isSome_iff_exists.mp present
        have own := (mapped.entries _ _).mp found
        rw [owner held own.2] at own
        exact member own.1
  · exact mapped

/-! ### Whole runs -/

theorem names_grow (current : ServerRun) (event : ServerEvent) :
    current.names <+: (current.step event).names := by
  cases event with
  | newConnection => exact List.prefix_append _ _
  | removeConnection conn =>
      unfold step
      simp only
      split
      · exact List.prefix_rfl
      · exact List.prefix_rfl

/-- As long as the names are distinct, the map loses nobody. -/
structure Consistent (hostport name : Bytes) (current : ServerRun) : Prop where
  numbered : Numbered hostport name current
  mapped : current.names.Nodup → current.Mapped

theorem Consistent.start (hostport name : Bytes) :
    Consistent hostport name (start hostport name) := by
  refine ⟨.start hostport name, fun _ => ⟨?_, rfl⟩⟩
  intro connName conn
  constructor
  · intro entry
    cases entry.symm.trans TreeMap.getElem?_emptyc
  · rintro ⟨member, _⟩
    cases member

theorem Consistent.step (consistent : Consistent hostport name current) (event : ServerEvent) :
    Consistent hostport name (current.step event) := by
  refine ⟨consistent.numbered.step event, fun distinct => ?_⟩
  have before : current.names.Nodup := distinct.sublist (names_grow current event).sublist
  cases event with
  | newConnection => exact (consistent.mapped before).newConnection consistent.numbered distinct
  | removeConnection conn =>
      exact (consistent.mapped before).removeConnection consistent.numbered before conn

theorem Consistent.run (consistent : Consistent hostport name current)
    (events : List ServerEvent) :
    Consistent hostport name (Lib.run ServerRun.step current events) := by
  induction events generalizing current with
  | nil => exact consistent
  | cons event rest inductionHypothesis => exact inductionHypothesis (consistent.step event)

/-- Every accepted connection gets a name. -/
theorem length_names_run (current : ServerRun) (events : List ServerEvent) :
    (Lib.run ServerRun.step current events).names.length =
      current.names.length + events.count .newConnection := by
  induction events generalizing current with
  | nil => rfl
  | cons event rest inductionHypothesis =>
      refine (inductionHypothesis (current.step event)).trans ?_
      cases event with
      | newConnection =>
          have length : (current.step .newConnection).names.length = current.names.length + 1 :=
            List.length_append
          rw [length, List.count_cons_self]
          omega
      | removeConnection conn =>
          have length : (current.step (.removeConnection conn)).names.length =
              current.names.length := by
            unfold step
            simp only
            split <;> rfl
          have other : ServerEvent.removeConnection conn ≠ .newConnection := by
            intro same
            cases same
          rw [length, List.count_cons_of_ne other]

/-- After any run, the names are distinct and the map loses nobody exactly when the number of
the last connection fits behind the address. -/
theorem namesKept_iff (hostport name : Bytes) (events : List ServerEvent) :
    NamesKept (Lib.run step (start hostport name) events) ↔
      events.count .newConnection ≤ 1 ∨
        events.count .newConnection < 10 ^ TcpServer.room hostport := by
  have consistent := (Consistent.start hostport name).run events
  have accepted : (Lib.run step (start hostport name) events).names.length =
      events.count .newConnection :=
    (length_names_run _ events).trans (Nat.zero_add _)
  have distinct : (Lib.run step (start hostport name) events).names.Nodup ↔
      events.count .newConnection ≤ 1 ∨
        events.count .newConnection < 10 ^ TcpServer.room hostport := by
    rw [consistent.numbered.names, accepted]
    exact TcpServer.names_nodup_iff hostport name _
  constructor
  · intro kept
    exact distinct.mp kept.distinct
  · intro fits
    have nodup := distinct.mpr fits
    exact ⟨nodup, consistent.mapped nodup⟩

/-- `192.168.100.100:12345`. -/
def longAddress : Bytes :=
  [49, 57, 50, 46, 49, 54, 56, 46, 49, 48, 48, 46, 49, 48, 48, 58, 49, 50, 51, 52, 53]

/-- The connection with number 100000000 gets the name of the one with number 10000000. -/
theorem names_repeat :
    ¬NamesKept (Lib.run step (start longAddress []) (.replicate 100000000 .newConnection)) := by
  intro kept
  have numbered := ((Consistent.start longAddress []).run
    (.replicate 100000000 .newConnection)).numbered
  have distinct := kept.distinct
  rw [numbered.names, length_names_run, List.count_replicate_self,
    TcpServer.names_nodup_iff] at distinct
  revert distinct
  decide

end ServerRun

end AChat.Net
