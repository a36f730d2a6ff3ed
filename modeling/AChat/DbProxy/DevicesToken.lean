import AChat.DbProxy.MessageService
import AChat.Lib.NumberText
import AChat.Lib.Reach
import Mathlib.Logic.Function.Basic

/-!
Contract: when the device tokens and their users stay paired.

One store maps the text of a user to its token and a token to the text of its user. A request takes
the old token of its user away from it, but not a token away from its old user. The texts of users
and tokens also share their keys.

Owns: `setDevicesToken` with the keys and values as it writes them, the requests of any users one
after the other, and the exact condition that keeps the pairs. The commands of Redis succeed.
-/

namespace AChat.DbProxy

open Lib (isDigit_of_mem_toString toString_injective toString_ne_empty)

namespace DevicesToken

/-! ### The service -/

/-- The strings of the pool `token`. One that is not there is empty. -/
abbrev Cache := String → String

/-- What `%s` takes of the string behind `c_str`: hiredis measures it with `strlen`. -/
def cStr (text : String) : String :=
  String.ofList (text.toList.takeWhile (· != '\x00'))

/-- `CacheConn::get`. -/
def Cache.get (cache : Cache) (key : String) : String :=
  cache (cStr key)

/-- `CacheConn::set`. -/
def Cache.set (cache : Cache) (key value : String) : Cache :=
  Function.update cache (cStr key) (cStr value)

inductive ClientType where
  | windows
  | mac
  | ios
  | android
deriving DecidableEq, Repr

def key (text : String) : String :=
  "device_" ++ text

def strValue (clientType : ClientType) (token : String) : String :=
  match clientType with
  | .ios => "ios:" ++ token
  | .android => "android:" ++ token
  | _ => token

/-- What is behind the first colon. -/
def afterColon (text : String) : Option String :=
  match text.toList.dropWhile (· != ':') with
  | [] => none
  | _ :: rest => some (String.ofList rest)

/-- The old token of a user no longer belongs to it. -/
def clearOldToken (cache : Cache) (strOldValue : String) : Cache :=
  if strOldValue = "" then cache
  else
    match afterColon strOldValue with
    | none => cache
    | some strOldToken =>
        if Cache.get cache (key strOldToken) = "" then cache
        else Cache.set cache (key strOldToken) ""

def setDevicesToken (cache : Cache) (userId : Id) (token : String) (clientType : ClientType) :
    Cache :=
  let cleared := clearOldToken cache (Cache.get cache (key (toString userId)))
  let valued := Cache.set cleared (key (toString userId)) (strValue clientType token)
  Cache.set valued (key token) (toString userId)

/-- A phone has one of these. -/
inductive Mobile where
  | ios
  | android
deriving DecidableEq, Repr

def Mobile.clientType : Mobile → ClientType
  | .ios => .ios
  | .android => .android

inductive Request where
  | set (userId : Id) (token : String) (mobile : Mobile)
  /-- `_HandleLoginOutRequest` sets no client type, which is read as the first one. -/
  | logout (userId : Id)
deriving DecidableEq, Repr

namespace Request

def userId : Request → Id
  | set userId _ _ => userId
  | logout userId => userId

def token : Request → String
  | set _ token _ => token
  | logout _ => ""

def clientType : Request → ClientType
  | set _ _ mobile => mobile.clientType
  | logout _ => .windows

/-- The token as Redis gets it. -/
def stored (request : Request) : String :=
  cStr request.token

end Request

def step (cache : Cache) (request : Request) : Cache :=
  setDevicesToken cache request.userId request.token request.clientType

def start : Cache := fun _ => ""

/-! ### The pairs -/

/-- The token is mapped to the user. -/
def BelongsTo (cache : Cache) (token : String) (userId : Id) : Prop :=
  cache (key token) = toString userId

/-- The user is mapped to the token. -/
def Has (cache : Cache) (userId : Id) (token : String) : Prop :=
  ∃ mobile : Mobile, cache (key (toString userId)) = strValue mobile.clientType token

/-- The two directions agree on the tokens that are not empty. -/
def Paired (cache : Cache) : Prop :=
  ∀ userId token, token ≠ "" → (BelongsTo cache token userId ↔ Has cache userId token)

/-- The two directions agree, and the empty token belongs to nobody. -/
def StrictlyPaired (cache : Cache) : Prop :=
  ∀ userId token, BelongsTo cache token userId ↔ token ≠ "" ∧ Has cache userId token

/-- The token, as Redis gets it, belongs to no other user, and it is not mistaken for a user, nor the
user for a token. -/
structure Fresh (cache : Cache) (request : Request) : Prop where
  notOwn : request.stored ≠ toString request.userId
  unowned : request.stored ≠ "" → ∀ other ≠ request.userId, ¬BelongsTo cache request.stored other
  noToken : ∀ other ≠ request.userId, BelongsTo cache (toString request.userId) other →
    request.stored = toString other
  noUser : ∀ other ≠ request.userId, request.stored = toString other → ∀ held, held ≠ "" →
    held ≠ toString request.userId → ¬Has cache other held

/-! ### Texts -/

section Texts

variable {left right : Id} {token other : String} {mobile : Mobile}

theorem cStr_append {front : String} (whole : ∀ character ∈ front.toList, character ≠ '\x00')
    (text : String) : cStr (front ++ text) = front ++ cStr text := by
  apply String.toList_injective
  simp only [cStr, String.toList_append, String.toList_ofList]
  exact List.takeWhile_append_of_pos fun character member => by simpa using whole character member

theorem cStr_key (text : String) : cStr (key text) = key (cStr text) :=
  cStr_append (by simp) text

theorem cStr_strValue (clientType : ClientType) (text : String) :
    cStr (strValue clientType text) = strValue clientType (cStr text) := by
  cases clientType with
  | ios => exact cStr_append (by simp) text
  | android => exact cStr_append (by simp) text
  | windows | mac => rfl

theorem cStr_toString (userId : Id) : cStr (toString userId) = toString userId := by
  have whole : ∀ character ∈ (toString userId).toList, character ≠ '\x00' := by
    rintro character member rfl
    exact absurd (isDigit_of_mem_toString member) (by decide)
  have appended := cStr_append whole ""
  rw [String.append_empty] at appended
  exact appended.trans String.append_empty

theorem cStr_idem (text : String) : cStr (cStr text) = cStr text := by
  unfold cStr
  rw [String.toList_ofList, List.takeWhile_idem]

theorem key_injective : Function.Injective key := by
  intro left right same
  have lists := congrArg String.toList same
  unfold key at lists
  rw [String.toList_append, String.toList_append] at lists
  exact String.toList_injective (List.append_cancel_left lists)

theorem afterColon_toString (userId : Id) : afterColon (toString userId) = none := by
  have noColon : (toString userId).toList.dropWhile (· != ':') = [] := by
    rw [List.dropWhile_eq_nil_iff]
    intro character member
    have digit := isDigit_of_mem_toString member
    rw [bne_iff_ne]
    rintro rfl
    exact absurd digit (by decide)
  unfold afterColon
  rw [noColon]

theorem afterColon_strValue (mobile : Mobile) (token : String) :
    afterColon (strValue mobile.clientType token) = some token := by
  cases mobile with
  | ios => simp [afterColon, strValue, Mobile.clientType]
  | android => simp [afterColon, strValue, Mobile.clientType]

theorem strValue_ne_toString (mobile : Mobile) (token : String) (userId : Id) :
    strValue mobile.clientType token ≠ toString userId := by
  intro same
  have read := afterColon_strValue mobile token
  rw [same, afterColon_toString] at read
  cases read

theorem strValue_ne_empty (mobile : Mobile) (token : String) :
    strValue mobile.clientType token ≠ "" := by
  intro same
  have read := afterColon_strValue mobile token
  rw [same] at read
  cases read

theorem token_eq_of_strValue {mobile' : Mobile}
    (same : strValue mobile.clientType token = strValue mobile'.clientType other) :
    token = other := by
  have read := afterColon_strValue mobile token
  rw [same, afterColon_strValue] at read
  exact (Option.some.inj read).symm

end Texts

/-! ### One request -/

/-- Every value is empty, the text of a user, or the token of a phone without a zero byte. -/
def Shaped (cache : Cache) : Prop :=
  ∀ text, cache (key text) = "" ∨ (∃ userId : Id, cache (key text) = toString userId) ∨
    ∃ mobile : Mobile, ∃ token,
      cache (key text) = strValue mobile.clientType token ∧ cStr token = token

/-- The old token that a request takes from its user. -/
def Takes (cache : Cache) (userId : Id) (token : String) : Prop :=
  afterColon (cache (key (toString userId))) = some token

section Steps

variable {cache : Cache} {request : Request} {userId other : Id} {token text : String}

theorem has_of_takes (shaped : Shaped cache) (takes : Takes cache userId token) :
    Has cache userId token ∧ cStr token = token := by
  unfold Takes at takes
  rcases shaped (toString userId) with empty | ⟨other, user⟩ | ⟨mobile, held, value, whole⟩
  · rw [empty] at takes
    cases takes
  · rw [user, afterColon_toString] at takes
    cases takes
  · rw [value, afterColon_strValue] at takes
    rw [← Option.some.inj takes]
    exact ⟨⟨mobile, value⟩, whole⟩

theorem takes_of_has (has : Has cache userId token) : Takes cache userId token := by
  obtain ⟨mobile, value⟩ := has
  unfold Takes
  rw [value, afterColon_strValue]

/-- A string that is empty is not written. -/
theorem clear_eq_update (whole : cStr text = text) :
    (if Cache.get cache (key text) = "" then cache else Cache.set cache (key text) "") =
      Function.update cache (key text) "" := by
  unfold Cache.get Cache.set
  rw [cStr_key, whole]
  split
  · rename_i empty
    exact (Function.update_eq_self_iff.mpr empty.symm).symm
  · rfl

/-- The old token loses its user, and nothing else changes. -/
theorem clearOldToken_apply (shaped : Shaped cache) (text : String) :
    clearOldToken cache (cache (key (toString userId))) (key text) = cache (key text) ∧
        ¬Takes cache userId text ∨
      clearOldToken cache (cache (key (toString userId))) (key text) = "" ∧
        Takes cache userId text := by
  unfold clearOldToken Takes
  split
  · rename_i empty
    rw [empty]
    exact .inl ⟨rfl, fun takes => (nomatch takes)⟩
  · cases old : afterColon (cache (key (toString userId))) with
    | none => exact .inl ⟨rfl, fun takes => (nomatch takes)⟩
    | some strOldToken =>
        have takes : Takes cache userId strOldToken := old
        have whole := (has_of_takes shaped takes).2
        simp only [clear_eq_update whole]
        by_cases same : text = strOldToken
        · subst same
          exact .inr ⟨Function.update_self .., rfl⟩
        · refine .inl ⟨?_, fun takes => same (Option.some.inj takes).symm⟩
          exact Function.update_of_ne (fun keys => same (key_injective keys)) ..

/-- A request, as Redis gets it. -/
theorem step_eq : step cache request =
    Function.update
      (Function.update
        (clearOldToken cache (cache (key (toString request.userId))))
        (key (toString request.userId)) (strValue request.clientType request.stored))
      (key request.stored) (toString request.userId) := by
  show Cache.set (Cache.set (clearOldToken cache (Cache.get cache _)) _ _) _ _ = _
  unfold Cache.set Cache.get
  rw [cStr_key, cStr_key, cStr_toString, cStr_strValue]
  rfl

theorem step_token : step cache request (key request.stored) = toString request.userId := by
  rw [step_eq]
  exact Function.update_self ..

theorem step_user (notOwn : request.stored ≠ toString request.userId) :
    step cache request (key (toString request.userId)) =
      strValue request.clientType request.stored := by
  rw [step_eq, Function.update_of_ne fun keys => notOwn (key_injective keys).symm,
    Function.update_self]

theorem step_other (shaped : Shaped cache) (notToken : text ≠ request.stored) (notUser : text ≠ toString request.userId) :
    step cache request (key text) = cache (key text) ∧ ¬Takes cache request.userId text ∨
      step cache request (key text) = "" ∧ Takes cache request.userId text := by
  have same : step cache request (key text) =
      clearOldToken cache (cache (key (toString request.userId))) (key text) := by
    rw [step_eq, Function.update_of_ne fun keys => notToken (key_injective keys),
      Function.update_of_ne fun keys => notUser (key_injective keys)]
  rw [same]
  exact clearOldToken_apply shaped text

/-- The value of a request is not the text of a user. -/
theorem strValue_request_ne (userId : Id) :
    strValue request.clientType request.stored ≠ toString userId := by
  cases request with
  | set own token mobile => exact strValue_ne_toString mobile _ userId
  | logout own => exact (toString_ne_empty userId).symm

theorem shaped_start : Shaped start :=
  fun _ => .inl rfl

theorem shaped_step (shaped : Shaped cache) (request : Request) : Shaped (step cache request) := by
  intro text
  by_cases isToken : text = request.stored
  · rw [isToken, step_token]
    exact .inr (.inl ⟨_, rfl⟩)
  · by_cases isUser : text = toString request.userId
    · have notOwn : request.stored ≠ toString request.userId :=
        fun same => isToken (isUser.trans same.symm)
      rw [isUser, step_user notOwn]
      cases request with
      | set own token mobile => exact .inr (.inr ⟨mobile, _, rfl, cStr_idem token⟩)
      | logout own => exact .inl rfl
    · rcases step_other shaped isToken isUser with ⟨kept, _⟩ | ⟨cleared, _⟩
      · rw [kept]
        exact shaped text
      · exact .inl cleared

/-! The pairs of the user of the request. -/

theorem paired_own (paired : Paired cache) (shaped : Shaped cache)
    (notOwn : request.stored ≠ toString request.userId)
    (some : token ≠ "") :
    BelongsTo (step cache request) token request.userId ↔
      Has (step cache request) request.userId token := by
  unfold BelongsTo Has
  rw [step_user notOwn]
  by_cases same : token = request.stored
  · rw [same, step_token]
    refine iff_of_true rfl ?_
    cases request with
    | set own held mobile => exact ⟨mobile, rfl⟩
    | logout own => exact absurd same some
  · refine iff_of_false ?_ ?_
    · intro belongs
      by_cases isUser : token = toString request.userId
      · rw [isUser, step_user notOwn] at belongs
        exact strValue_request_ne request.userId belongs
      · rcases step_other shaped same isUser with ⟨kept, notTaken⟩ | ⟨cleared, _⟩
        · rw [kept] at belongs
          exact notTaken (takes_of_has ((paired request.userId token some).mp belongs))
        · exact toString_ne_empty _ (belongs.symm.trans cleared)
    · rintro ⟨mobile, value⟩
      cases request with
      | set own held mobile' => exact same (token_eq_of_strValue value).symm
      | logout own => exact strValue_ne_empty mobile token value.symm

/-! The pairs of the other users. -/

section Others

variable (different : other ≠ request.userId)
include different

/-- A token that belongs to another user behind a request did so before. -/
theorem belongs_of_step (shaped : Shaped cache)
    (notOwn : request.stored ≠ toString request.userId)
    (belongs : BelongsTo (step cache request) token other) :
    BelongsTo cache token other ∧ token ≠ request.stored ∧ token ≠ toString request.userId := by
  unfold BelongsTo at belongs ⊢
  by_cases same : token = request.stored
  · rw [same, step_token] at belongs
    exact absurd (toString_injective belongs).symm different
  · by_cases isUser : token = toString request.userId
    · rw [isUser, step_user notOwn] at belongs
      exact absurd belongs (strValue_request_ne other)
    · rcases step_other shaped same isUser with ⟨kept, _⟩ | ⟨cleared, _⟩
      · rw [kept] at belongs
        exact ⟨belongs, same, isUser⟩
      · exact absurd (belongs.symm.trans cleared) (toString_ne_empty other)

/-- A token of another user stays with it, but for the token of the request and the text of its
user. -/
theorem belongs_step (paired : Paired cache) (shaped : Shaped cache) (some : token ≠ "")
    (notToken : token ≠ request.stored) (notUser : token ≠ toString request.userId)
    (belongs : BelongsTo cache token other) : BelongsTo (step cache request) token other := by
  unfold BelongsTo at belongs ⊢
  rcases step_other shaped notToken notUser with ⟨kept, _⟩ | ⟨_, takes⟩
  · rw [kept]
    exact belongs
  · have own := (paired request.userId token some).mpr (has_of_takes shaped takes).1
    exact absurd (toString_injective (belongs.symm.trans own)) different

/-- Another user has what it had, unless its text is the token. -/
theorem has_step_iff (paired : Paired cache) (shaped : Shaped cache)
    (notText : request.stored ≠ toString other) :
    Has (step cache request) other token ↔ Has cache other token := by
  have notUser : toString other ≠ toString request.userId :=
    fun same => different (toString_injective same)
  rcases step_other shaped notText.symm notUser with ⟨kept, _⟩ | ⟨cleared, takes⟩
  · unfold Has
    rw [kept]
  · refine iff_of_false ?_ ?_
    · rintro ⟨mobile, value⟩
      exact strValue_ne_empty mobile token (value.symm.trans cleared)
    · rintro ⟨mobile, value⟩
      have belongs := (paired request.userId _ (toString_ne_empty other)).mpr
        (has_of_takes shaped takes).1
      exact strValue_ne_toString mobile token _ (value.symm.trans belongs)

omit different in
/-- A user whose text is the token has no token behind the request. -/
theorem not_has_step (text : request.stored = toString other) :
    ¬Has (step cache request) other token := by
  rintro ⟨mobile, value⟩
  rw [← text, step_token] at value
  exact strValue_ne_toString mobile token _ value.symm

theorem paired_other (paired : Paired cache) (shaped : Shaped cache) (fresh : Fresh cache request)
    (some : token ≠ "") :
    BelongsTo (step cache request) token other ↔ Has (step cache request) other token := by
  by_cases text : request.stored = toString other
  · refine iff_of_false (fun belongs => ?_) (not_has_step text)
    obtain ⟨before, _, notUser⟩ := belongs_of_step different shaped fresh.notOwn belongs
    exact fresh.noUser other different text token some notUser
      ((paired other token some).mp before)
  · rw [has_step_iff different paired shaped text, ← paired other token some]
    constructor
    · exact fun belongs => (belongs_of_step different shaped fresh.notOwn belongs).1
    · intro belongs
      refine belongs_step different paired shaped some ?_ ?_ belongs
      · rintro rfl
        exact fresh.unowned some other different belongs
      · rintro rfl
        exact text (fresh.noToken other different belongs)

end Others

theorem paired_step (paired : Paired cache) (shaped : Shaped cache) (fresh : Fresh cache request) :
    Paired (step cache request) := by
  intro userId token some
  by_cases own : userId = request.userId
  · rw [own]
    exact paired_own paired shaped fresh.notOwn some
  · exact paired_other own paired shaped fresh some

/-- The pairs are kept by a fresh request only. -/
theorem fresh_of_paired (paired : Paired cache) (shaped : Shaped cache)
    (after : Paired (step cache request)) : Fresh cache request := by
  have notOwn : request.stored ≠ toString request.userId := by
    intro own
    have belongs : BelongsTo (step cache request) (toString request.userId) request.userId := by
      exact (congrArg (fun text => step cache request (key text)) own.symm).trans step_token
    obtain ⟨mobile, value⟩ := (after _ _ (toString_ne_empty _)).mp belongs
    exact strValue_ne_toString mobile _ _ (value.symm.trans belongs)
  -- what another user has behind the request belongs to it, and is not the token
  have stays : ∀ other ≠ request.userId, request.stored ≠ toString other → ∀ token, token ≠ "" →
      BelongsTo cache token other →
      token ≠ request.stored ∧ token ≠ toString request.userId := by
    intro other different notText token some belongs
    have has := (has_step_iff different paired shaped notText).mpr
      ((paired other token some).mp belongs)
    exact (belongs_of_step different shaped notOwn ((after other token some).mpr has)).2
  refine ⟨notOwn, fun some other different belongs => ?_, fun other different belongs => ?_,
    fun other different text held some notUser has => ?_⟩
  · by_cases text : request.stored = toString other
    · obtain ⟨mobile, value⟩ := (paired other _ some).mp belongs
      rw [← text] at value
      exact strValue_ne_toString mobile _ _ (value.symm.trans belongs)
    · exact (stays other different text _ some belongs).1 rfl
  · by_contra text
    exact (stays other different text _ (toString_ne_empty _) belongs).2 rfl
  · have belongs := (paired other held some).mpr has
    have notToken : held ≠ request.stored := by
      rintro rfl
      obtain ⟨mobile, value⟩ := has
      rw [← text] at value
      exact strValue_ne_toString mobile _ _ (value.symm.trans belongs)
    exact not_has_step text ((after other held some).mp
      (belongs_step different paired shaped some notToken notUser belongs))

theorem step_paired_iff (paired : Paired cache) (shaped : Shaped cache) :
    Paired (step cache request) ↔ Fresh cache request :=
  ⟨fresh_of_paired paired shaped, paired_step paired shaped⟩

/-! The empty token. -/

theorem strictlyPaired_iff :
    StrictlyPaired cache ↔ Paired cache ∧ ∀ userId, ¬BelongsTo cache "" userId := by
  constructor
  · intro strict
    refine ⟨fun userId token some => (strict userId token).trans (and_iff_right some), ?_⟩
    exact fun userId belongs => ((strict userId "").mp belongs).1 rfl
  · rintro ⟨paired, nobody⟩ userId token
    by_cases empty : token = ""
    · rw [empty]
      exact iff_of_false (nobody userId) fun both => both.1 rfl
    · exact (paired userId token empty).trans (and_iff_right empty).symm

theorem empty_step_iff (shaped : Shaped cache)
    (nobody : ∀ userId, ¬BelongsTo cache "" userId) :
    (∀ userId, ¬BelongsTo (step cache request) "" userId) ↔ request.stored ≠ "" := by
  constructor
  · intro after empty
    apply after request.userId
    unfold BelongsTo
    rw [← empty]
    exact step_token
  · intro some userId belongs
    unfold BelongsTo at belongs nobody
    rcases step_other shaped some.symm (toString_ne_empty request.userId).symm with
      ⟨kept, _⟩ | ⟨cleared, _⟩
    · exact nobody userId (kept.symm.trans belongs)
    · exact toString_ne_empty userId (belongs.symm.trans cleared)

theorem step_strictlyPaired_iff (strict : StrictlyPaired cache) (shaped : Shaped cache) :
    StrictlyPaired (step cache request) ↔ Fresh cache request ∧ request.stored ≠ "" := by
  obtain ⟨paired, nobody⟩ := strictlyPaired_iff.mp strict
  rw [strictlyPaired_iff, step_paired_iff paired shaped, empty_step_iff shaped nobody]

/-- A user who logs out has no token, whatever was in the store. -/
theorem not_has_logout : ¬Has (step cache (.logout userId)) userId token := by
  rintro ⟨mobile, value⟩
  have notOwn : (Request.logout userId).stored ≠ toString (Request.logout userId).userId :=
    (toString_ne_empty userId).symm
  exact strValue_ne_empty mobile token (value.symm.trans (step_user notOwn))

end Steps

/-! ### Whole runs -/

theorem paired_start : Paired start :=
  fun userId token _ => iff_of_false (fun belongs => toString_ne_empty userId belongs.symm)
    fun ⟨mobile, value⟩ => strValue_ne_empty mobile token value.symm

theorem strictlyPaired_start : StrictlyPaired start :=
  strictlyPaired_iff.mpr ⟨paired_start, fun userId belongs => toString_ne_empty userId belongs.symm⟩

/-- The tokens that are not empty stay paired with their users exactly if every request is fresh,
and all of them do if besides no token is empty. A user who logs out has no token. -/
theorem paired_iff_fresh (requests : List Request) :
    (Lib.Always step Paired start requests ↔ Lib.Meets step Fresh start requests) ∧
    (Lib.Always step StrictlyPaired start requests ↔
      Lib.Meets step (fun cache request => Fresh cache request ∧ request.stored ≠ "") start
        requests) ∧
    ∀ userId token,
      ¬Has (step (Lib.run step start requests) (.logout userId)) userId token := by
  refine ⟨?_, ?_, fun userId token => not_has_logout⟩
  · exact Lib.always_iff_meets
      (fun cache _ (both : Paired cache ∧ Shaped cache) _ => step_paired_iff both.1 both.2)
      (fun _ request both _ fresh => ⟨paired_step both.1 both.2 fresh, shaped_step both.2 request⟩)
      (fun _ both => both.1) requests ⟨paired_start, shaped_start⟩ (Lib.meets_true _ requests _)
  · exact Lib.always_iff_meets
      (fun cache _ (both : StrictlyPaired cache ∧ Shaped cache) _ =>
        step_strictlyPaired_iff both.1 both.2)
      (fun _ request both _ fresh =>
        ⟨(step_strictlyPaired_iff both.1 both.2).mpr fresh, shaped_step both.2 request⟩)
      (fun _ both => both.1) requests ⟨strictlyPaired_start, shaped_start⟩
      (Lib.meets_true _ requests _)

/-- A phone goes from user 1 to user 2, who sets the same token. -/
theorem phone_of_two_users :
    ¬Lib.Always step Paired start [.set 1 "t" .ios, .set 2 "t" .ios] := by
  intro always
  have belongs := (always.2.2 1 "t" (by decide)).mpr ⟨.ios, by decide⟩
  unfold BelongsTo at belongs
  revert belongs
  decide

end DevicesToken

end AChat.DbProxy
