import AChat.Lib.ProgRuns

/-!
Owns the discipline of leases from pools, read off the log of what was done with them: which
leases are held, and that a log returns each lease once and uses none that is not held.

A log has its last event first. A lease is numbered by the length of the log before it, so no two
leases have one number. A log may also note which branch of a program was taken.

`Outcome` says what a stretch of a log does to the leases that were held before it: it keeps
them, or it notes a branch that breaks the discipline. `Obeys` says that every path through a
program has such an outcome, and goes through a program step by step.
-/

namespace AChat.Lib

inductive LeaseEvent (Note : Type) where
  | acquired (lease : Nat)
  | used (lease : Nat)
  | released (lease : Nat)
  | noted (note : Note)
deriving DecidableEq, Repr

abbrev LeaseLog (Note : Type) := List (LeaseEvent Note)

namespace LeaseLog

variable {Note : Type}

/-! ### The discipline -/

/-- The leases that were acquired and not released. -/
def held : LeaseLog Note → List Nat
  | [] => []
  | .acquired lease :: past => lease :: held past
  | .released lease :: past => (held past).erase lease
  | .used _ :: past => held past
  | .noted _ :: past => held past

/-- What is used or released is held at that time. -/
def UsesHeld : LeaseLog Note → Prop
  | [] => True
  | .used lease :: past => lease ∈ held past ∧ UsesHeld past
  | .released lease :: past => lease ∈ held past ∧ UsesHeld past
  | .acquired _ :: past => UsesHeld past
  | .noted _ :: past => UsesHeld past

/-- Leases are numbered by the length of the log. -/
def Numbered : LeaseLog Note → Prop
  | [] => True
  | .acquired lease :: past => lease = past.length ∧ Numbered past
  | .used _ :: past => Numbered past
  | .released _ :: past => Numbered past
  | .noted _ :: past => Numbered past

/-- Each lease is released once, and none is used or released when it is not held. -/
structure Disciplined [DecidableEq Note] (log : LeaseLog Note) : Prop where
  releasedOnce : ∀ lease, .acquired lease ∈ log → List.count (.released lease) log = 1
  usesHeld : UsesHeld log

section Logs

variable {log later : LeaseLog Note} {lease : Nat} {event : LeaseEvent Note}

theorem UsesHeld.tail (usesHeld : UsesHeld (event :: log)) : UsesHeld log := by
  cases event with
  | acquired => exact usesHeld
  | used => exact usesHeld.2
  | released => exact usesHeld.2
  | noted => exact usesHeld

theorem UsesHeld.of_suffix (usesHeld : UsesHeld later) (isSuffix : log <:+ later) :
    UsesHeld log := by
  obtain ⟨events, rfl⟩ := isSuffix
  induction events with
  | nil => exact usesHeld
  | cons event rest inductionHypothesis => exact inductionHypothesis usesHeld.tail

theorem Numbered.tail (numbered : Numbered (event :: log)) : Numbered log := by
  cases event with
  | acquired => exact numbered.2
  | used => exact numbered
  | released => exact numbered
  | noted => exact numbered

theorem Numbered.acquired_lt (numbered : Numbered log) (acquired : .acquired lease ∈ log) :
    lease < log.length := by
  induction log with
  | nil => cases acquired
  | cons event past inductionHypothesis =>
      rw [List.length_cons]
      rcases List.mem_cons.mp acquired with first | before
      · subst first
        have := numbered.1
        omega
      · have := inductionHypothesis numbered.tail before
        omega

/-- What is held was acquired. -/
theorem acquired_of_held : ∀ {log : LeaseLog Note}, lease ∈ held log → .acquired lease ∈ log := by
  intro log member
  induction log with
  | nil => exact absurd member List.not_mem_nil
  | cons event past inductionHypothesis =>
      cases event with
      | acquired first =>
          rcases List.mem_cons.mp member with same | before
          · rw [same]
            exact List.mem_cons_self
          · exact List.mem_cons_of_mem _ (inductionHypothesis before)
      | used => exact List.mem_cons_of_mem _ (inductionHypothesis member)
      | released =>
          exact List.mem_cons_of_mem _ (inductionHypothesis (List.mem_of_mem_erase member))
      | noted => exact List.mem_cons_of_mem _ (inductionHypothesis member)

/-- A lease that is acquired now is not held yet. -/
theorem Numbered.fresh (numbered : Numbered log) : log.length ∉ held log :=
  fun member => Nat.lt_irrefl _ (numbered.acquired_lt (acquired_of_held member))

section Counts

variable [DecidableEq Note]

theorem Numbered.acquired_once (numbered : Numbered log) (acquired : .acquired lease ∈ log) :
    List.count (.acquired lease) log = 1 := by
  induction log with
  | nil => cases acquired
  | cons event past inductionHypothesis =>
      by_cases same : event = .acquired lease
      · subst same
        have absent : .acquired lease ∉ past := fun before => by
          have := numbered.tail.acquired_lt before
          have := numbered.1
          omega
        rw [List.count_cons_self, List.count_eq_zero.mpr absent]
      · rw [List.count_cons_of_ne same]
        exact inductionHypothesis numbered.tail
          ((List.mem_cons.mp acquired).resolve_left fun first => same first.symm)

/-- Every acquisition of a lease was returned, or the lease is held. -/
theorem UsesHeld.count (usesHeld : UsesHeld log) (lease : Nat) :
    List.count (.acquired lease) log =
      List.count (.released lease) log + (held log).count lease := by
  induction log with
  | nil => rfl
  | cons event past inductionHypothesis =>
      have before := inductionHypothesis usesHeld.tail
      cases event with
      | acquired first =>
          show _ = _ + (first :: held past).count lease
          simp only [List.count_cons, beq_iff_eq, LeaseEvent.acquired.injEq, reduceCtorEq,
            if_false]
          omega
      | used first =>
          simp only [List.count_cons, beq_iff_eq, reduceCtorEq, if_false]
          exact before
      | released first =>
          have inHeld : first ∈ held past := usesHeld.1
          show _ = _ + ((held past).erase first).count lease
          simp only [List.count_cons, List.count_erase, beq_iff_eq, LeaseEvent.released.injEq,
            reduceCtorEq, if_false]
          split
          · rename_i same
            subst same
            have := List.count_pos_iff.mpr inHeld
            omega
          · omega
      | noted first =>
          simp only [List.count_cons, beq_iff_eq, reduceCtorEq, if_false]
          exact before

theorem disciplined_iff (numbered : Numbered log) :
    Disciplined log ↔ UsesHeld log ∧ held log = [] := by
  constructor
  · intro disciplined
    refine ⟨disciplined.usesHeld, List.eq_nil_iff_forall_not_mem.mpr fun lease member => ?_⟩
    have acquired := acquired_of_held member
    have once := numbered.acquired_once acquired
    have balance := disciplined.usesHeld.count lease
    have returned := disciplined.releasedOnce lease acquired
    have := List.count_pos_iff.mpr member
    omega
  · rintro ⟨usesHeld, returned⟩
    refine ⟨fun lease acquired => ?_, usesHeld⟩
    have once := numbered.acquired_once acquired
    have balance := usesHeld.count lease
    rw [returned, List.count_nil] at balance
    omega

end Counts

end Logs

/-! ### Outcomes -/

section Outcomes

variable (Breaks : Note → Prop)

/-- A branch was taken that breaks the discipline. -/
def Broken (log : LeaseLog Note) : Prop :=
  ∃ note, Breaks note ∧ .noted note ∈ log

structure Kept (log later : LeaseLog Note) : Prop where
  held : held later = held log
  usesHeld : UsesHeld log → UsesHeld later
  unbroken : Broken Breaks later → Broken Breaks log

/-- Leases were acquired and not released. -/
structure Leaked (log later : LeaseLog Note) : Prop where
  broken : Broken Breaks later
  held : ∃ extra, extra ≠ [] ∧ held later = extra ++ held log

/-- A lease was used or released that was not held. -/
structure Misused (later : LeaseLog Note) : Prop where
  broken : Broken Breaks later
  usesLost : ¬UsesHeld later

/-- A stretch of a log keeps the leases, or it may break the discipline. -/
inductive Outcome (may : Prop) (log later : LeaseLog Note) : Prop where
  | kept : Kept Breaks log later → Outcome may log later
  | leaked : may → Leaked Breaks log later → Outcome may log later
  | misused : may → Misused Breaks later → Outcome may log later

variable {Breaks} {may : Prop} {log middle later : LeaseLog Note} {lease : Nat} {note : Note}

theorem Broken.of_suffix (broken : Broken Breaks log) (isSuffix : log <:+ later) :
    Broken Breaks later := by
  obtain ⟨note, breaks, member⟩ := broken
  exact ⟨note, breaks, isSuffix.subset member⟩

theorem Broken.of_cons {event : LeaseEvent Note} (broken : Broken Breaks (event :: log))
    (silent : ∀ note, Breaks note → event ≠ .noted note) : Broken Breaks log := by
  obtain ⟨note, breaks, member⟩ := broken
  rcases List.mem_cons.mp member with same | before
  · exact absurd same.symm (silent note breaks)
  · exact ⟨note, breaks, before⟩

theorem Misused.of_suffix (misused : Misused Breaks log) (isSuffix : log <:+ later) :
    Misused Breaks later where
  broken := misused.broken.of_suffix isSuffix
  usesLost usesHeld := misused.usesLost (usesHeld.of_suffix isSuffix)

theorem Kept.refl (log : LeaseLog Note) : Kept Breaks log log :=
  ⟨rfl, id, id⟩

theorem Kept.used (member : lease ∈ LeaseLog.held log) : Kept Breaks log (.used lease :: log) where
  held := rfl
  usesHeld usesHeld := ⟨member, usesHeld⟩
  unbroken broken := broken.of_cons fun _ _ same => nomatch same

theorem Kept.noted (harmless : ¬Breaks note) : Kept Breaks log (.noted note :: log) where
  held := rfl
  usesHeld := id
  unbroken broken := broken.of_cons fun _ breaks same =>
    harmless (LeaseEvent.noted.inj same ▸ breaks)

theorem Kept.trans (first : Kept Breaks log middle) (second : Kept Breaks middle later) :
    Kept Breaks log later where
  held := second.held.trans first.held
  usesHeld usesHeld := second.usesHeld (first.usesHeld usesHeld)
  unbroken broken := first.unbroken (second.unbroken broken)

theorem Leaked.trans_kept (first : Leaked Breaks log middle) (isSuffix : middle <:+ later)
    (second : Kept Breaks middle later) : Leaked Breaks log later where
  broken := first.broken.of_suffix isSuffix
  held := by
    rw [second.held]
    exact first.held

theorem Leaked.trans (first : Leaked Breaks log middle) (second : Leaked Breaks middle later) :
    Leaked Breaks log later where
  broken := second.broken
  held := by
    obtain ⟨before, some, heldMiddle⟩ := first.held
    obtain ⟨after, _, heldLater⟩ := second.held
    refine ⟨after ++ before, fun none => some (List.append_eq_nil_iff.mp none).2, ?_⟩
    rw [heldLater, heldMiddle, List.append_assoc]

theorem Kept.trans_leaked (first : Kept Breaks log middle) (second : Leaked Breaks middle later) :
    Leaked Breaks log later where
  broken := second.broken
  held := by
    rw [← first.held]
    exact second.held

/-- The rest of a path is looked at with the leases that were held before. -/
theorem Outcome.trans (first : Outcome Breaks may log middle) (isSuffix : middle <:+ later)
    (second : LeaseLog.held log ⊆ LeaseLog.held middle → Outcome Breaks may middle later) :
    Outcome Breaks may log later := by
  cases first with
  | kept kept =>
      rcases second fun _ member => kept.held ▸ member with next | ⟨allowed, leaked⟩ | ⟨allowed, lost⟩
      · exact .kept (kept.trans next)
      · exact .leaked allowed (kept.trans_leaked leaked)
      · exact .misused allowed lost
  | leaked allowed leaked =>
      have still : LeaseLog.held log ⊆ LeaseLog.held middle := by
        obtain ⟨extra, _, heldMiddle⟩ := leaked.held
        rw [heldMiddle]
        exact List.subset_append_right extra _
      rcases second still with next | ⟨_, next⟩ | ⟨_, lost⟩
      · exact .leaked allowed (leaked.trans_kept isSuffix next)
      · exact .leaked allowed (leaked.trans next)
      · exact .misused allowed lost
  | misused allowed misused => exact .misused allowed (misused.of_suffix isSuffix)

theorem Outcome.mono {more : Prop} (outcome : Outcome Breaks may log later)
    (allows : may → more) : Outcome Breaks more log later := by
  rcases outcome with kept | ⟨allowed, leaked⟩ | ⟨allowed, lost⟩
  · exact .kept kept
  · exact .leaked (allows allowed) leaked
  · exact .misused (allows allowed) lost

/-- A lease that is acquired before a stretch and released behind it. -/
theorem Outcome.lent
    (outcome : Outcome Breaks may (.acquired log.length :: log) middle) :
    Outcome Breaks may log (.released log.length :: middle) := by
  have silent : ∀ note, Breaks note →
      (.released log.length : LeaseEvent Note) ≠ .noted note := fun _ _ same => nomatch same
  rcases outcome with kept | ⟨allowed, leaked⟩ | ⟨allowed, lost⟩
  · have heldMiddle : LeaseLog.held middle = log.length :: LeaseLog.held log := kept.held
    refine .kept ⟨?_, fun usesHeld => ⟨?_, kept.usesHeld usesHeld⟩, fun broken => ?_⟩
    · show (LeaseLog.held middle).erase log.length = _
      rw [heldMiddle, List.erase_cons_head]
    · rw [heldMiddle]
      exact List.mem_cons_self
    · exact (kept.unbroken (broken.of_cons silent)).of_cons fun _ _ same => nomatch same
  · obtain ⟨extra, some, heldMiddle⟩ := leaked.held
    refine .leaked allowed ⟨leaked.broken.of_suffix (List.suffix_cons _ _), ?_⟩
    show ∃ rest, rest ≠ [] ∧ (LeaseLog.held middle).erase log.length = rest ++ _
    have heldAcquired : LeaseLog.held (.acquired log.length :: log) =
      log.length :: LeaseLog.held log := rfl
    rw [heldMiddle, heldAcquired]
    by_cases member : log.length ∈ extra
    · refine ⟨extra.erase log.length ++ [log.length], by simp, ?_⟩
      rw [List.erase_append_left _ member, List.append_assoc]
      rfl
    · refine ⟨extra, some, ?_⟩
      rw [List.erase_append_right _ member, List.erase_cons_head]
  · exact .misused allowed (lost.of_suffix (List.suffix_cons _ _))

/-- From the start, a log is disciplined unless a branch was taken that breaks the discipline. -/
theorem Outcome.disciplined_iff [DecidableEq Note] (numbered : Numbered log)
    (outcome : Outcome Breaks may [] log) : Disciplined log ↔ ¬Broken Breaks log := by
  have nothing : ¬Broken Breaks ([] : LeaseLog Note) := fun ⟨_, _, member⟩ => nomatch member
  rw [LeaseLog.disciplined_iff numbered]
  rcases outcome with kept | ⟨_, leaked⟩ | ⟨_, lost⟩
  · exact iff_of_true ⟨kept.usesHeld trivial, kept.held⟩
      fun broken => nothing (kept.unbroken broken)
  · obtain ⟨extra, some, heldLog⟩ := leaked.held
    refine iff_of_false (fun disciplined => some ?_) fun unbroken => unbroken leaked.broken
    exact (List.append_eq_nil_iff.mp (heldLog.symm.trans disciplined.2)).1
  · exact iff_of_false (fun disciplined => lost.usesLost disciplined.1)
      fun unbroken => unbroken lost.broken

/-- A stretch that may not break the discipline keeps it. -/
theorem Outcome.disciplined [DecidableEq Note] (numbered : Numbered log)
    (outcome : Outcome Breaks False [] log) : Disciplined log := by
  rcases outcome with kept | ⟨never, _⟩ | ⟨never, _⟩
  · exact (LeaseLog.disciplined_iff numbered).mpr ⟨kept.usesHeld trivial, kept.held⟩
  · exact never.elim
  · exact never.elim

end Outcomes

/-! ### Programs -/

section Programs

variable {Op : Type} {Reply : Op → Type} {α β σ : Type} (Breaks : Note → Prop)
  (acts : LeaseLog Note → (op : Op) → Reply op → LeaseLog Note → Prop)

/-- The operations only add to a log, and number what they acquire. -/
structure Records : Prop where
  isSuffix : ∀ {log op reply later}, acts log op reply later → log <:+ later
  numbered : ∀ {log op reply later}, acts log op reply later → Numbered log → Numbered later

/-- Every path through the program, from a log in which the borrowed leases are held, keeps the
leases or may break the discipline. -/
def Obeys (may : Prop) (borrowed : List Nat) (prog : Prog Op Reply α) : Prop :=
  ∀ log value later, Numbered log → borrowed ⊆ held log → prog.Runs acts log value later →
    Outcome Breaks may log later

variable {Breaks} {acts} {may : Prop} {borrowed : List Nat}

theorem Records.runs_isSuffix (records : Records acts) {prog : Prog Op Reply α}
    {log later : LeaseLog Note} {value : α} (runs : prog.Runs acts log value later) :
    log <:+ later :=
  runs.keeps (fun log later => log <:+ later) List.suffix_refl
    (fun first second => first.trans second) records.isSuffix

theorem Records.runs_numbered (records : Records acts) {prog : Prog Op Reply α}
    {log later : LeaseLog Note} {value : α} (runs : prog.Runs acts log value later)
    (numbered : Numbered log) : Numbered later :=
  runs.keeps (fun log later => Numbered log → Numbered later) (fun _ => id)
    (fun first second numbered => second (first numbered)) records.numbered numbered

theorem Obeys.done (value : α) : Obeys Breaks acts may borrowed (.done value) := by
  rintro log _ _ _ _ ⟨_, rfl⟩
  exact .kept (Kept.refl _)

theorem Obeys.call {op : Op} {next : Reply op → Prog Op Reply α} (records : Records acts)
    (first : ∀ log reply later, borrowed ⊆ held log → acts log op reply later →
      Kept Breaks log later)
    (rest : ∀ reply, Obeys Breaks acts may borrowed (next reply)) :
    Obeys Breaks acts may borrowed (.call op next) := by
  rintro log value later numbered still ⟨reply, between, acted, runs⟩
  have kept := first log reply between still acted
  refine (Outcome.kept kept).trans (records.runs_isSuffix runs) fun _ => ?_
  exact rest reply between value later (records.numbered acted numbered)
    (kept.held.symm ▸ still) runs

theorem Obeys.bind (records : Records acts) {prog : Prog Op Reply α}
    {next : α → Prog Op Reply β} (first : Obeys Breaks acts may borrowed prog)
    (rest : ∀ value, Obeys Breaks acts may borrowed (next value)) :
    Obeys Breaks acts may borrowed (prog >>= next) := by
  intro log result later numbered still runs
  obtain ⟨value, between, before, after⟩ := Prog.runs_bind.mp runs
  refine (first log value between numbered still before).trans (records.runs_isSuffix after)
    fun more => ?_
  exact rest value between result later (records.runs_numbered before numbered)
    (fun _ member => more (still member)) after

theorem Obeys.mono {prog : Prog Op Reply α} {more : Prop} {others : List Nat}
    (obeys : Obeys Breaks acts may borrowed prog) (allows : may → more)
    (lends : borrowed ⊆ others) : Obeys Breaks acts more others prog :=
  fun log value later numbered still runs =>
    (obeys log value later numbered (fun _ member => still (lends member)) runs).mono allows

theorem Obeys.foldlM (records : Records acts) {body : σ → α → Prog Op Reply σ}
    (each : ∀ state item, Obeys Breaks acts may borrowed (body state item)) (items : List α)
    (state : σ) : Obeys Breaks acts may borrowed (items.foldlM body state) := by
  induction items generalizing state with
  | nil => exact Obeys.done state
  | cons item rest inductionHypothesis =>
      exact Obeys.bind records (each state item) fun next => inductionHypothesis next

end Programs

end LeaseLog

end AChat.Lib
