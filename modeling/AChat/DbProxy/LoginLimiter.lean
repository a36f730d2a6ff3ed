import Mathlib.Data.List.TakeWhile
import Mathlib.Logic.Function.Basic
import AChat.DbProxy.MessageService
import AChat.Lib.Reach

/-!
Contract: when a login is refused for its failed attempts.

For each name the times of the failed attempts are kept, the newest in front. An attempt cuts the
list at the first time that is too old, and is refused if more than 10 are left. Only an attempt
that is not refused changes the list further.

Owns: `doLogin` with the result of the login strategy as an input, the failed attempts of a name
read off the responses, and their agreement over every sequence of attempts.
-/

namespace AChat.DbProxy

namespace Login

/-! ### The service -/

/-- `IM.BaseDefine.UserInfo`. -/
structure UserInfo where
  userId : Id
  gender : Nat
  nickName : String
  avatarUrl : String
  departmentId : Id
  email : String
  realName : String
  tel : String
  domain : String
  status : Nat
  signInfo : String
deriving DecidableEq, Repr

/-- `IMValidateReq`. -/
structure ValidateReq where
  userName : String
  password : String
  attachData : Content
deriving DecidableEq, Repr

/-- `IMValidateRsp`. -/
structure ValidateRsp where
  userName : String
  attachData : Content
  resultCode : Nat
  resultString : String
  userInfo : Option UserInfo
deriving DecidableEq, Repr

/-- `errorTimeMap`. A name that is not there has an empty list. -/
abbrev ErrorTimeMap := String → List UInt32

/-- Half an hour. -/
def window : UInt32 := 30 * 60

/-- The list is erased from the first time on that is too old. -/
def trim (now : UInt32) (errorTimeList : List UInt32) : List UInt32 :=
  errorTimeList.takeWhile fun time => !decide (now - time > window)

/-- The list is too long, and its first time is not too old. -/
def tooMany (now : UInt32) : List UInt32 → Bool
  | [] => false
  | newest :: rest => decide ((newest :: rest).length > 10) && decide (now - newest ≤ window)

/-- The first reading of the clock is `now`, and the one behind a failure `current`. `strategy` is
what the login strategy returns for the name and the password. -/
def doLogin (errorTimeMap : ErrorTimeMap) (msg : Option ValidateReq) (strategy : Option UserInfo)
    (now current : UInt32) : ErrorTimeMap × ValidateRsp :=
  match msg with
  | none => (errorTimeMap, ⟨"", [], 2, "服务端内部错误", none⟩)
  | some msg =>
      let errorTimeList := trim now (errorTimeMap msg.userName)
      if tooMany now errorTimeList then
        (Function.update errorTimeMap msg.userName errorTimeList,
          ⟨msg.userName, msg.attachData, 6, "用户名/密码错误次数过多", none⟩)
      else
        match strategy with
        | some user =>
            (Function.update errorTimeMap msg.userName [],
              ⟨msg.userName, msg.attachData, 0, "成功", some { user with status := 0 }⟩)
        | none =>
            (Function.update errorTimeMap msg.userName (current :: errorTimeList),
              ⟨msg.userName, msg.attachData, 1, "用户名/密码错误", none⟩)

/-! ### Runs -/

structure Attempt where
  msg : ValidateReq
  strategy : Option UserInfo
  now : UInt32
  current : UInt32
deriving DecidableEq, Repr

inductive Outcome where
  | refused
  | succeeded
  | failed (time : UInt32)
deriving DecidableEq, Repr

/-- The outcome of an attempt whose failure was found at a time. -/
def outcome (response : ValidateRsp) (time : UInt32) : Outcome :=
  if response.resultCode = 6 then .refused
  else if response.resultCode = 0 then .succeeded
  else .failed time

/-- The times of the failed attempts of a name since its last successful one, the newest in front.
The log has the last attempt in front. -/
def failures (name : String) : List (String × Outcome) → List UInt32
  | [] => []
  | (other, outcome) :: log =>
      if other = name then
        match outcome with
        | .refused => failures name log
        | .succeeded => []
        | .failed time => time :: failures name log
      else failures name log

/-- The lists of the service, and the outcomes that the clients were told. -/
structure LoginRun where
  errorTimeMap : ErrorTimeMap
  log : List (String × Outcome)

namespace LoginRun

def start : LoginRun := ⟨fun _ => [], []⟩

def answer (current : LoginRun) (attempt : Attempt) : ErrorTimeMap × ValidateRsp :=
  doLogin current.errorTimeMap (some attempt.msg) attempt.strategy attempt.now attempt.current

def step (current : LoginRun) (attempt : Attempt) : LoginRun where
  errorTimeMap := (current.answer attempt).1
  log := (attempt.msg.userName, outcome (current.answer attempt).2 attempt.current) :: current.log

end LoginRun

/-- The readings of the clock. -/
def readings (attempts : List Attempt) : List UInt32 :=
  attempts.flatMap fun attempt => [attempt.now, attempt.current]

/-- A time lies within the last half an hour. -/
def recent (now time : UInt32) : Bool :=
  decide (now.toNat ≤ time.toNat + 1800)

/-! ### The list of a name -/

section Lists

variable {now time : UInt32} {times : List UInt32}

theorem recent_iff_of_le (notLater : time ≤ now) :
    recent now time = !decide (now - time > window) := by
  have difference := UInt32.toNat_sub_of_le now time notLater
  have order := UInt32.le_iff_toNat_le.mp notLater
  have length : window.toNat = 1800 := rfl
  rw [Bool.eq_iff_iff, Bool.not_eq_true', decide_eq_false_iff_not, recent, decide_eq_true_eq,
    gt_iff_lt, UInt32.lt_iff_toNat_lt]
  omega

theorem recent_mono {later : UInt32} (order : now ≤ later) (there : recent later time = true) :
    recent now time = true := by
  unfold recent at there ⊢
  rw [decide_eq_true_eq] at there ⊢
  have := UInt32.le_iff_toNat_le.mp order
  omega

/-- In a list with the newest in front, the trim leaves the times that are not too old. -/
theorem trim_eq_filter (sorted : times.Pairwise (· ≥ ·)) (notLater : ∀ time ∈ times, time ≤ now) :
    trim now times = times.filter (recent now) := by
  induction times with
  | nil => rfl
  | cons newest rest inductionHypothesis =>
      obtain ⟨first, sortedRest⟩ := List.pairwise_cons.mp sorted
      have restNotLater : ∀ time ∈ rest, time ≤ now :=
        fun time member => notLater time (List.mem_cons_of_mem newest member)
      have same := recent_iff_of_le (notLater newest List.mem_cons_self)
      unfold trim at inductionHypothesis ⊢
      by_cases there : recent now newest = true
      · have young : (!decide (now - newest > window)) = true := same.symm.trans there
        simp only [List.takeWhile_cons, List.filter_cons, young, there, if_true,
          inductionHypothesis sortedRest restNotLater]
      · have old : ∀ time ∈ newest :: rest, ¬recent now time = true := by
          intro time member recentTime
          rcases List.mem_cons.mp member with rfl | member
          · exact there recentTime
          · apply there
            unfold recent at recentTime ⊢
            rw [decide_eq_true_eq] at recentTime ⊢
            have order := UInt32.le_iff_toNat_le.mp (first time member)
            omega
        have young : ¬(!decide (now - newest > window)) = true := by
          rw [← same]
          exact there
        rw [List.filter_eq_nil_iff.mpr old]
        simp only [List.takeWhile_cons, if_neg young]

/-- What the trim leaves is not too old. -/
theorem tooMany_trim : tooMany now (trim now times) = decide ((trim now times).length > 10) := by
  cases kept : trim now times with
  | nil => rfl
  | cons newest rest =>
      have first : newest ∈ times.takeWhile fun time => !decide (now - time > window) := by
        show newest ∈ trim now times
        rw [kept]
        exact List.mem_cons_self
      have young := List.mem_takeWhile_imp first
      have within : now - newest ≤ window := by
        rw [Bool.not_eq_true', decide_eq_false_iff_not] at young
        exact UInt32.not_lt.mp young
      show (decide _ && decide (now - newest ≤ window)) = _
      rw [decide_eq_true within, Bool.and_true]

/-- A trim takes nothing that is not too old later on. -/
theorem filter_trim {later : UInt32} (order : now ≤ later) (sorted : times.Pairwise (· ≥ ·))
    (notLater : ∀ time ∈ times, time ≤ now) :
    (trim now times).filter (recent later) = times.filter (recent later) := by
  rw [trim_eq_filter sorted notLater, List.filter_filter]
  apply List.filter_congr
  intro time _
  rw [Bool.eq_iff_iff, Bool.and_eq_true]
  exact ⟨fun both => both.1, fun there => ⟨there, recent_mono order there⟩⟩

theorem trim_sublist : (trim now times).Sublist times :=
  List.takeWhile_sublist _

end Lists

/-! ### One attempt -/

/-- The list of each name has the newest in front, and holds its failures but for some that are too
old. -/
structure Tracks (current : LoginRun) (latest : UInt32) : Prop where
  sorted : ∀ name, (current.errorTimeMap name).Pairwise (· ≥ ·)
  notLater : ∀ name, ∀ time ∈ current.errorTimeMap name, time ≤ latest
  kept : ∀ name now, latest ≤ now →
    (current.errorTimeMap name).filter (recent now) =
      (failures name current.log).filter (recent now)

section Steps

variable {current : LoginRun} {latest : UInt32} {attempt : Attempt}

theorem tracks_start : Tracks .start 0 where
  sorted _ := .nil
  notLater _ _ member := absurd member List.not_mem_nil
  kept _ _ _ := rfl

theorem Tracks.later (tracks : Tracks current latest) {now : UInt32} (order : latest ≤ now) :
    Tracks current now where
  sorted := tracks.sorted
  notLater name time member := UInt32.le_trans (tracks.notLater name time member) order
  kept name later laterOrder := tracks.kept name later (UInt32.le_trans order laterOrder)

/-- The times that are left are the failures of the last half an hour. -/
theorem Tracks.trim_length (tracks : Tracks current latest) {now : UInt32} (order : latest ≤ now)
    (name : String) :
    (trim now (current.errorTimeMap name)).length =
      (failures name current.log).countP (recent now) := by
  have here := tracks.later order
  rw [trim_eq_filter (here.sorted name) (here.notLater name),
    here.kept name now (UInt32.le_refl now), List.countP_eq_length_filter]

/-- An attempt that leaves `list` to its name. -/
def LoginRun.put (current : LoginRun) (name : String) (list : List UInt32) (outcome : Outcome) :
    LoginRun where
  errorTimeMap := Function.update current.errorTimeMap name list
  log := (name, outcome) :: current.log

section Put

variable {name other : String} {list : List UInt32} {outcome : Outcome}

theorem put_self : (current.put name list outcome).errorTimeMap name = list :=
  Function.update_self ..

theorem put_of_ne (different : other ≠ name) :
    (current.put name list outcome).errorTimeMap other = current.errorTimeMap other :=
  Function.update_of_ne different ..

theorem failures_put_self :
    failures name (current.put name list outcome).log =
      match outcome with
      | .refused => failures name current.log
      | .succeeded => []
      | .failed time => time :: failures name current.log := by
  show (if name = name then _ else _) = _
  rw [if_pos rfl]

theorem failures_put_of_ne (different : other ≠ name) :
    failures other (current.put name list outcome).log = failures other current.log := by
  show (if name = other then _ else _) = _
  rw [if_neg (Ne.symm different)]

theorem Tracks.put (tracks : Tracks current latest) (sorted : list.Pairwise (· ≥ ·))
    (notLater : ∀ time ∈ list, time ≤ latest)
    (kept : ∀ now, latest ≤ now → list.filter (recent now) =
      (failures name (current.put name list outcome).log).filter (recent now)) :
    Tracks (current.put name list outcome) latest := by
  constructor
  · intro other
    by_cases same : other = name
    · rw [same, put_self]
      exact sorted
    · rw [put_of_ne same]
      exact tracks.sorted other
  · intro other
    by_cases same : other = name
    · rw [same, put_self]
      exact notLater
    · rw [put_of_ne same]
      exact tracks.notLater other
  · intro other now order
    by_cases same : other = name
    · rw [same, put_self]
      exact kept now order
    · rw [put_of_ne same, failures_put_of_ne same]
      exact tracks.kept other now order

end Put

theorem step_of_tooMany
    (many : tooMany attempt.now
      (trim attempt.now (current.errorTimeMap attempt.msg.userName)) = true) :
    current.step attempt = current.put attempt.msg.userName
      (trim attempt.now (current.errorTimeMap attempt.msg.userName)) .refused := by
  simp [LoginRun.step, LoginRun.answer, LoginRun.put, doLogin, many, outcome]

theorem step_of_success {user : UserInfo}
    (few : ¬tooMany attempt.now
      (trim attempt.now (current.errorTimeMap attempt.msg.userName)) = true)
    (success : attempt.strategy = some user) :
    current.step attempt = current.put attempt.msg.userName [] .succeeded := by
  simp [LoginRun.step, LoginRun.answer, LoginRun.put, doLogin, few, success, outcome]

theorem step_of_failure
    (few : ¬tooMany attempt.now
      (trim attempt.now (current.errorTimeMap attempt.msg.userName)) = true)
    (failure : attempt.strategy = none) :
    current.step attempt = current.put attempt.msg.userName
      (attempt.current :: trim attempt.now (current.errorTimeMap attempt.msg.userName))
      (.failed attempt.current) := by
  simp [LoginRun.step, LoginRun.answer, LoginRun.put, doLogin, few, failure, outcome]

theorem tracks_step (tracks : Tracks current latest) (order : latest ≤ attempt.now)
    (clock : attempt.now ≤ attempt.current) : Tracks (current.step attempt) attempt.current := by
  have atNow := tracks.later order
  have atEnd := atNow.later clock
  have sorted : (trim attempt.now (current.errorTimeMap attempt.msg.userName)).Pairwise (· ≥ ·) :=
    (atNow.sorted attempt.msg.userName).sublist trim_sublist
  have notLater : ∀ time ∈ trim attempt.now (current.errorTimeMap attempt.msg.userName),
      time ≤ attempt.current :=
    fun time member => atEnd.notLater _ time (trim_sublist.mem member)
  -- what is cut off stays too old
  have kept : ∀ now, attempt.current ≤ now →
      (trim attempt.now (current.errorTimeMap attempt.msg.userName)).filter (recent now) =
        (failures attempt.msg.userName current.log).filter (recent now) := by
    intro now later
    rw [filter_trim (UInt32.le_trans clock later) (atNow.sorted _) (atNow.notLater _)]
    exact atEnd.kept _ now later
  by_cases many : tooMany attempt.now
      (trim attempt.now (current.errorTimeMap attempt.msg.userName)) = true
  · rw [step_of_tooMany many]
    refine atEnd.put sorted notLater fun now later => ?_
    rw [failures_put_self]
    exact kept now later
  · cases strategy : attempt.strategy with
    | some user =>
        rw [step_of_success many strategy]
        refine atEnd.put .nil (fun time member => absurd member List.not_mem_nil) fun now _ => ?_
        rw [failures_put_self]
    | none =>
        rw [step_of_failure many strategy]
        refine atEnd.put (List.pairwise_cons.mpr ⟨notLater, sorted⟩) ?_ fun now later => ?_
        · intro time member
          rcases List.mem_cons.mp member with rfl | member
          · exact UInt32.le_refl _
          · exact notLater time member
        · rw [failures_put_self, List.filter_cons, List.filter_cons, kept now later]

/-- An attempt is refused with code 6, and with no other reason. -/
theorem answer_refused_iff_tooMany :
    (current.answer attempt).2.resultCode = 6 ↔
      tooMany attempt.now (trim attempt.now (current.errorTimeMap attempt.msg.userName)) = true := by
  unfold LoginRun.answer doLogin
  by_cases many : tooMany attempt.now
      (trim attempt.now (current.errorTimeMap attempt.msg.userName)) = true
  · simp [many]
  · cases strategy : attempt.strategy with
    | some user => simp [many]
    | none => simp [many]

theorem answer_refused_iff (tracks : Tracks current latest) (order : latest ≤ attempt.now) :
    (current.answer attempt).2.resultCode = 6 ↔
      10 < (failures attempt.msg.userName current.log).countP (recent attempt.now) := by
  rw [← tracks.trim_length order, answer_refused_iff_tooMany, tooMany_trim, decide_eq_true_eq]

end Steps

/-! ### Whole runs -/

theorem tracks_run (attempts : List Attempt) (later : List UInt32) {current : LoginRun}
    {latest : UInt32} (tracks : Tracks current latest)
    (ordered : (latest :: (readings attempts ++ later)).Pairwise (· ≤ ·)) :
    ∃ last, Tracks (Lib.run LoginRun.step current attempts) last ∧
      (last :: later).Pairwise (· ≤ ·) := by
  induction attempts generalizing current latest with
  | nil => exact ⟨latest, tracks, ordered⟩
  | cons attempt rest inductionHypothesis =>
      obtain ⟨first, ordered⟩ := List.pairwise_cons.mp ordered
      obtain ⟨second, ordered⟩ := List.pairwise_cons.mp ordered
      have order := first attempt.now List.mem_cons_self
      have clock := second attempt.current List.mem_cons_self
      exact inductionHypothesis (tracks_step tracks order clock) ordered

/-- In every sequence of attempts in the order of the clock, the next one is refused exactly if more
than 10 failures of its name lie in the last half an hour and behind its last success, and every
list has the newest time in front. -/
theorem refused_iff_failures (attempts : List Attempt) (attempt : Attempt)
    (ordered : (readings (attempts ++ [attempt])).Pairwise (· ≤ ·)) :
    ((((Lib.run LoginRun.step .start attempts).answer attempt).2.resultCode = 6 ↔
        10 < (failures attempt.msg.userName (Lib.run LoginRun.step .start attempts).log).countP
          (recent attempt.now)) ∧
      ∀ name, ((Lib.run LoginRun.step .start (attempts ++ [attempt])).errorTimeMap name).Pairwise
        (· ≥ ·)) := by
  have fromZero : ((0 : UInt32) :: (readings (attempts ++ [attempt]) ++ [])).Pairwise (· ≤ ·) := by
    rw [List.append_nil]
    exact List.pairwise_cons.mpr ⟨fun _ _ => UInt32.zero_le, ordered⟩
  constructor
  · have split : readings (attempts ++ [attempt]) ++ [] =
        readings attempts ++ [attempt.now, attempt.current] := by
      simp [readings]
    rw [split] at fromZero
    obtain ⟨last, tracks, order⟩ := tracks_run attempts _ tracks_start fromZero
    exact answer_refused_iff tracks ((List.pairwise_cons.mp order).1 _ List.mem_cons_self)
  · obtain ⟨last, tracks, _⟩ := tracks_run (attempts ++ [attempt]) [] tracks_start fromZero
    exact tracks.sorted

/-- Eleven failures in eleven seconds, and one more attempt. -/
def elevenFailures : List Attempt :=
  (List.range 11).map fun second =>
    ⟨⟨"ann", "guess", []⟩, none, second.toUInt32, second.toUInt32⟩

theorem refused_after_eleven_failures :
    ((Lib.run LoginRun.step .start elevenFailures).answer
      ⟨⟨"ann", "guess", []⟩, none, 1800, 1800⟩).2.resultCode = 6 :=
  (refused_iff_failures elevenFailures ⟨⟨"ann", "guess", []⟩, none, 1800, 1800⟩
    (by decide)).1.mpr (by decide)

end Login

end AChat.DbProxy
