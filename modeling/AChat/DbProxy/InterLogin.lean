import AChat.DbProxy.LoginLimiter

/-!
Contract: whom the login strategy of the DB proxy lets in.

The strategy looks for the active users of the name and keeps the last one. The comparison of the
password is commented out, so a login succeeds with any password.

Owns: `CInterLoginStrategy::doLogin` with the result of its query as an input, and what `doLogin`
answers with it. The name holds no special character of SQL.
-/

namespace AChat.DbProxy

namespace Login

/-- A row of `IMUser`, with the columns that the loop reads. `signInfo` is the column `sign_info`. -/
structure UserRow where
  id : Id
  name : String
  password : String
  salt : String
  nick : String
  sex : Nat
  domain : String
  phone : String
  email : String
  avatar : String
  departId : Id
  status : Nat
  signInfo : String
deriving DecidableEq, Repr

/-- The values that a turn of the loop reads from its row, but for the password and the salt. -/
def UserRow.info (row : UserRow) : UserInfo where
  userId := row.id
  gender := row.sex
  nickName := row.nick
  avatarUrl := row.avatar
  departmentId := row.departId
  email := row.email
  realName := row.name
  tel := row.phone
  domain := row.domain
  status := row.status
  signInfo := row.signInfo

/-- The variables before the loop. The numbers are not initialised. -/
def uninitialised (nId nGender nDeptId nStatus : Nat) : UserInfo where
  userId := nId
  gender := nGender
  nickName := ""
  avatarUrl := ""
  departmentId := nDeptId
  email := ""
  realName := ""
  tel := ""
  domain := ""
  status := nStatus
  signInfo := ""

/-- The condition of the query. `collation` compares two names. -/
def selected (collation : String → String → Bool) (strName : String) (row : UserRow) : Bool :=
  collation row.name strName && row.status == 0

/-- Every row of the result replaces the one before. The digest of the password is computed behind
the loop, and not compared. -/
def interLogin (before : UserInfo) : Answer (List UserRow) → Option UserInfo
  | .noConnection => none
  | .failed => none
  | .ok rows => some (rows.foldl (fun _ row => row.info) before)

/-- A login with its query. -/
structure LoginCall where
  errorTimeMap : ErrorTimeMap
  msg : ValidateReq
  users : List UserRow
  collation : String → String → Bool
  query : Answer (List UserRow)
  before : UserInfo
  now : UInt32
  current : UInt32

namespace LoginCall

def result (call : LoginCall) : ErrorTimeMap × ValidateRsp :=
  doLogin call.errorTimeMap (some call.msg) (interLogin call.before call.query) call.now
    call.current

/-- The result of the query holds the rows that it asks for, in some order. -/
def Answered (call : LoginCall) : Prop :=
  ∀ rows, call.query = .ok rows →
    rows.Perm (call.users.filter (selected call.collation call.msg.userName))

/-- The attempt is refused for its failures. -/
def Refused (call : LoginCall) : Prop :=
  tooMany call.now (trim call.now (call.errorTimeMap call.msg.userName)) = true

instance Refused.instDecidable (call : LoginCall) : Decidable call.Refused :=
  inferInstanceAs (Decidable (_ = true))

/-- The user is active, has the name, and is the one in the response. -/
def Returns (call : LoginCall) (row : UserRow) : Prop :=
  row ∈ call.users ∧ selected call.collation call.msg.userName row = true ∧
    call.result.2.userInfo = some { row.info with status := 0 }

end LoginCall

section Logins

variable {call : LoginCall}

theorem foldl_info (rows : List UserRow) (before : UserInfo) (some : rows ≠ []) :
    rows.foldl (fun _ row => row.info) before = (rows.getLast some).info := by
  induction rows generalizing before with
  | nil => exact absurd rfl some
  | cons row rest inductionHypothesis =>
      by_cases last : rest = []
      · subst last
        rfl
      · rw [List.foldl_cons, inductionHypothesis row.info last, List.getLast_cons last]

theorem result_of_refused (refused : call.Refused) : call.result.2.resultCode = 6 := by
  unfold LoginCall.Refused at refused
  simp [LoginCall.result, doLogin, refused]

theorem result_of_rows {rows : List UserRow} (refused : ¬call.Refused)
    (answer : call.query = .ok rows) :
    call.result.2.resultCode = 0 ∧
      call.result.2.userInfo =
        some { rows.foldl (fun _ row => row.info) call.before with status := 0 } := by
  unfold LoginCall.Refused at refused
  simp [LoginCall.result, doLogin, refused, answer, interLogin]

theorem result_of_no_rows (refused : ¬call.Refused) (noAnswer : ∀ rows, call.query ≠ .ok rows) :
    call.result.2.resultCode = 1 ∧ call.result.2.userInfo = none ∧
      call.result.1 call.msg.userName =
        call.current :: trim call.now (call.errorTimeMap call.msg.userName) := by
  have failed : interLogin call.before call.query = none := by
    cases query : call.query with
    | noConnection => rfl
    | failed => rfl
    | ok rows => exact absurd query (noAnswer rows)
  unfold LoginCall.Refused at refused
  simp [LoginCall.result, doLogin, refused, failed]

theorem returns_last {rows : List UserRow} (answered : call.Answered) (refused : ¬call.Refused)
    (answer : call.query = .ok rows) (some : rows ≠ []) : call.Returns (rows.getLast some) := by
  have listed := (answered rows answer).mem_iff.mp (List.getLast_mem some)
  obtain ⟨member, selects⟩ := List.mem_filter.mp listed
  refine ⟨member, selects, ?_⟩
  rw [(result_of_rows refused answer).2, foldl_info rows call.before some]

end Logins

/-- A login that is not refused succeeds with any password when its query finds a user, and returns
the last one that it finds. It succeeds only if the query is answered. When it is not, the login
fails and is kept as a failure. -/
theorem login_result (call : LoginCall) (answered : call.Answered) :
    (∀ rows, call.query = .ok rows → ∀ some : rows ≠ [], ¬call.Refused →
      call.result.2.resultCode = 0 ∧ call.Returns (rows.getLast some)) ∧
    (call.result.2.resultCode = 0 → ¬call.Refused ∧ ∃ rows, call.query = .ok rows) ∧
    ((∀ rows, call.query ≠ .ok rows) → ¬call.Refused →
      call.result.2.resultCode = 1 ∧ call.result.2.userInfo = none ∧
        call.result.1 call.msg.userName =
          call.current :: trim call.now (call.errorTimeMap call.msg.userName)) := by
  refine ⟨fun rows answer some refused => ?_, fun success => ?_, fun noAnswer refused => ?_⟩
  · exact ⟨(result_of_rows refused answer).1, returns_last answered refused answer some⟩
  · have refused : ¬call.Refused := by
      intro refused
      rw [result_of_refused refused] at success
      exact absurd success (by decide)
    refine ⟨refused, ?_⟩
    by_cases answer : ∃ rows, call.query = .ok rows
    · exact answer
    · have failed := (result_of_no_rows refused fun rows there => answer ⟨rows, there⟩).1
      rw [failed] at success
      exact absurd success (by decide)
  · exact result_of_no_rows refused noAnswer

/-- Login of "ann" with a password. -/
def annLogin (stored given : String) : LoginCall where
  errorTimeMap _ := []
  msg := ⟨"ann", given, []⟩
  users := [⟨1, "ann", stored, "salt", "", 2, "", "", "", "", 0, 0, ""⟩]
  collation := fun left right => left == right
  query := .ok [⟨1, "ann", stored, "salt", "", 2, "", "", "", "", 0, 0, ""⟩]
  before := uninitialised 0 0 0 0
  now := 0
  current := 0

theorem annLogin_answered (stored given : String) : (annLogin stored given).Answered := by
  intro rows answer
  obtain rfl := Answer.ok.inj answer
  exact .refl _

theorem login_result_ann :
    let call := annLogin "digest" "guess"
    call.result.2.resultCode = 0 ∧
      call.Returns ⟨1, "ann", "digest", "salt", "", 2, "", "", "", "", 0, 0, ""⟩ :=
  (login_result (annLogin "digest" "guess") (annLogin_answered "digest" "guess")).1 _ rfl
    (List.cons_ne_nil _ _) (by decide)

/-- Success is for the user whose digest the password and the salt have. -/
def ChecksPassword (md5 : String → String) (call : LoginCall) : Prop :=
  call.result.2.resultCode = 0 → ∃ row, call.Returns row ∧
    row.password = md5 (call.msg.password ++ row.salt)

/-- A stored password that is not this digest. -/
def otherPassword (digest : String) : String :=
  if digest = "a" then "b" else "a"

theorem otherPassword_ne (digest : String) : otherPassword digest ≠ digest := by
  unfold otherPassword
  split
  · rename_i same
    rw [same]
    decide
  · rename_i different
    exact Ne.symm different

/-- Whatever the digest is, some user is let in with a wrong password, and every stored password
fits its column of 32 characters. -/
theorem wrong_password_succeeds :
    ¬∃ md5 : String → String, ∀ call : LoginCall, call.Answered →
      (∀ row ∈ call.users, row.password.length ≤ 32) → ChecksPassword md5 call := by
  rintro ⟨md5, checks⟩
  have fits : ∀ row ∈ (annLogin (otherPassword (md5 ("guess" ++ "salt"))) "guess").users,
      row.password.length ≤ 32 := by
    intro row member
    obtain rfl := List.mem_singleton.mp member
    unfold otherPassword
    split <;> decide
  obtain ⟨row, ⟨member, _⟩, password⟩ := checks _ (annLogin_answered _ "guess") fits rfl
  obtain rfl := List.mem_singleton.mp member
  exact otherPassword_ne _ password

end Login

end AChat.DbProxy
