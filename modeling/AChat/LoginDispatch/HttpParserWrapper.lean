import AChat.LoginDispatch.LeastLoaded

/-!
Contract: the headers that `CHttpParserWrapper` records of a request.

The parser calls the field callback and the value callback once for each header, with a pointer
into the text of the request and a length. What stands behind a name is the colon, and what
follows it is arbitrary.

Owns: the flags and values of the six tracked headers, and which header decides each of them.

Does not own: the URL, the body, and a number that is longer than a `long`.
-/

namespace AChat.LoginDispatch

open AChat.Lib

/-! ### C strings -/

/-- `tolower` in the C locale. -/
def toLower (byte : UInt8) : UInt8 :=
  if 65 ≤ byte ∧ byte ≤ 90 then byte + 32 else byte

/-- `strncasecmp(left, right, n) == 0`. A string ends at its zero. -/
def strncasecmp : Bytes → Bytes → Nat → Bool
  | _, _, 0 => true
  | left, right, count + 1 =>
      let a := left.headD 0
      let b := right.headD 0
      toLower a == toLower b && (a == 0 || strncasecmp left.tail right.tail count)

/-- The digits at the start, as a number. -/
def leadingNumber (text : Bytes) : Nat :=
  readDigits 0 (text.takeWhile fun byte => decide (48 ≤ byte ∧ byte ≤ 57))

/-- `strtol` with base ten, which ends at the limits of a `long`. -/
def strtol (text : Bytes) : Int :=
  match text.dropWhile fun byte => decide (byte = 32 ∨ 9 ≤ byte ∧ byte ≤ 13) with
  | 45 :: digits => max (-(leadingNumber digits : Int)) (-9223372036854775808)
  | 43 :: digits => min (leadingNumber digits) 9223372036854775807
  | digits => min (leadingNumber digits) 9223372036854775807

/-- `atoi`, converted to the `uint32_t` that takes it. -/
def atoi (text : Bytes) : BitVec 32 :=
  BitVec.ofInt 32 (strtol (cStr text))

/-! ### `HttpParserWrapper.cpp` -/

def maxRefererLen : Nat := 32

/-- `m_read_x` and `m_x` of one tracked header. -/
structure Slot (α : Type) where
  read : Bool
  value : α
deriving DecidableEq, Repr

/-- `CHttpParserWrapper`, as far as its headers go. -/
structure HttpParserWrapper where
  referer : Slot Bytes
  forwardIp : Slot Bytes
  userAgent : Slot Bytes
  contentType : Slot Bytes
  contentLen : Slot (BitVec 32)
  host : Slot Bytes
deriving DecidableEq, Repr

namespace Slot

variable {α : Type} [DecidableEq α]

/-- The check of one name in the field callback: a value that is not blank has been read. -/
def onField (slot : Slot α) (blank : α) (tracked at_ : Bytes) : Slot α :=
  if slot.value = blank then
    if strncasecmp at_ tracked tracked.length then { slot with read := true } else slot
  else slot

/-- The check of one flag in the value callback. -/
def onValue (slot : Slot α) (set : α → Bytes → α) (value : Bytes) : Slot α :=
  if slot.read then { read := false, value := set slot.value value } else slot

end Slot

/-- `string::append`. -/
def append (text value : Bytes) : Bytes :=
  text ++ value

/-- `SetReferer` of at most this many bytes. -/
def appendReferer (text value : Bytes) : Bytes :=
  append text (value.take maxRefererLen)

/-- `SetContentLen`. -/
def setContentLen (_ : BitVec 32) (value : Bytes) : BitVec 32 :=
  atoi value

namespace HttpParserWrapper

/-- What `ParseHttpContent` clears. -/
def cleared : HttpParserWrapper where
  referer := ⟨false, []⟩
  forwardIp := ⟨false, []⟩
  userAgent := ⟨false, []⟩
  contentType := ⟨false, []⟩
  contentLen := ⟨false, 0⟩
  host := ⟨false, []⟩

/-- `OnHeaderField`. It does not look at the length. -/
def onHeaderField (wrapper : HttpParserWrapper) (at_ : Bytes) (_length : Nat) :
    HttpParserWrapper where
  referer := wrapper.referer.onField [] (utf8 "Referer") at_
  forwardIp := wrapper.forwardIp.onField [] (utf8 "X-Forwarded-For") at_
  userAgent := wrapper.userAgent.onField [] (utf8 "User-Agent") at_
  contentType := wrapper.contentType.onField [] (utf8 "Content-Type") at_
  contentLen := wrapper.contentLen.onField 0 (utf8 "Content-Length") at_
  host := wrapper.host.onField [] (utf8 "Host") at_

/-- `OnHeaderValue`. -/
def onHeaderValue (wrapper : HttpParserWrapper) (at_ : Bytes) (length : Nat) :
    HttpParserWrapper where
  referer := wrapper.referer.onValue appendReferer (at_.take length)
  forwardIp := wrapper.forwardIp.onValue append (at_.take length)
  userAgent := wrapper.userAgent.onValue append (at_.take length)
  contentType := wrapper.contentType.onValue append (at_.take length)
  contentLen := wrapper.contentLen.onValue setContentLen (at_.take length)
  host := wrapper.host.onValue append (at_.take length)

end HttpParserWrapper

/-- A header of a request, whose value is not empty, with the text of the request behind its name
and the colon, and behind its value. -/
structure Header where
  name : Bytes
  value : Bytes
  behindName : Bytes
  behindValue : Bytes
  occupied : value ≠ []

namespace HttpParserWrapper

/-- The two callbacks of a header. -/
def onHeader (wrapper : HttpParserWrapper) (header : Header) : HttpParserWrapper :=
  (wrapper.onHeaderField (header.name ++ 58 :: header.behindName) header.name.length).onHeaderValue
    (header.value ++ header.behindValue) header.value.length

/-- `ParseHttpContent`, of a request with these headers. -/
def parseHttpContent (headers : List Header) : HttpParserWrapper :=
  headers.foldl onHeader cleared

end HttpParserWrapper

/-! ### Names -/

/-- The whole name, ignoring case. -/
def Header.isNamed (header : Header) (tracked : Bytes) : Bool :=
  header.name.map toLower == tracked.map toLower

/-- The name or the start of it, ignoring case. -/
def Header.begins (header : Header) (tracked : Bytes) : Bool :=
  (header.name.take tracked.length).map toLower == tracked.map toLower

/-- A name of a header has neither a zero nor a colon in it. -/
def Plain (tracked : Bytes) : Prop :=
  ∀ byte ∈ tracked, toLower byte ≠ toLower 0 ∧ toLower byte ≠ toLower 58

instance (tracked : Bytes) : Decidable (Plain tracked) :=
  inferInstanceAs (Decidable (∀ byte ∈ tracked, _))

/-- The comparison takes every name that begins with the tracked one. -/
theorem strncasecmp_eq_begins {tracked : Bytes} (plain : Plain tracked) (name behind : Bytes) :
    strncasecmp (name ++ 58 :: behind) tracked tracked.length
      = ((name.take tracked.length).map toLower == tracked.map toLower) := by
  induction tracked generalizing name with
  | nil => simp [strncasecmp]
  | cons byte tracked inductionHypothesis =>
      have here := plain byte List.mem_cons_self
      have rest : Plain tracked := fun other among => plain other (List.mem_cons_of_mem _ among)
      cases name with
      | nil =>
          have differ : ¬ toLower 58 = toLower byte := fun same => here.2 same.symm
          simp [strncasecmp, differ]
      | cons first name =>
          have later := inductionHypothesis rest name
          by_cases same : toLower first = toLower byte
          · have nonzero : first ≠ 0 := by
              rintro rfl
              exact here.1 same.symm
            simp [strncasecmp, same, nonzero, later]
          · have differ : (toLower first == toLower byte) = false := beq_false_of_ne same
            simp only [strncasecmp, List.cons_append, List.headD_cons, List.length_cons, differ,
              Bool.false_and, List.take_succ_cons, List.map_cons]
            exact (beq_false_of_ne fun all => same (List.cons.inj all).1).symm

theorem Header.begins_of_isNamed {header : Header} {tracked : Bytes}
    (named : header.isNamed tracked = true) : header.begins tracked = true := by
  have same : header.name.map toLower = tracked.map toLower := beq_iff_eq.mp named
  have length : header.name.length = tracked.length := by
    simpa using congrArg List.length same
  unfold Header.begins
  rw [← length, List.take_length, same, beq_self_eq_true]

/-! ### One tracked header -/

section Tracked

variable {α : Type} [DecidableEq α] (tracked : Bytes) (blank : α) (record : Bytes → α)

/-- The value of the first header whose whole name is the tracked one, or nothing. -/
def namedValue (headers : List Header) : α :=
  ((headers.find? fun header => header.isNamed tracked).map fun header => record header.value).getD
    blank

/-- The header is taken for the tracked one, and what it records is not blank. -/
def Header.counts (header : Header) : Bool :=
  header.begins tracked && decide (record header.value ≠ blank)

/-- The first header that counts, by the start of its name, carries the value of the first one
whose whole name is the tracked one, which is then there. -/
def FirstDecides (headers : List Header) : Prop :=
  ∀ header, headers.find? (fun header => header.counts tracked blank record) = some header →
    ∃ named, headers.find? (fun header => header.isNamed tracked) = some named ∧
      record header.value = record named.value

/-- The value of the first header that counts, or nothing. -/
def countedValue (headers : List Header) : α :=
  ((headers.find? fun header => header.counts tracked blank record).map fun header =>
    record header.value).getD blank

variable {tracked blank record}

theorem countedValue_iff (headers : List Header) :
    countedValue tracked blank record headers = namedValue tracked blank record headers ↔
      FirstDecides tracked blank record headers := by
  unfold countedValue namedValue FirstDecides
  cases counted : headers.find? (fun header => header.counts tracked blank record) with
  | none =>
      refine iff_of_true ?_ nofun
      cases named : headers.find? (fun header => header.isNamed tracked) with
      | none => rfl
      | some header =>
          have among := List.mem_of_find?_eq_some named
          have holds := List.find?_some named
          have begins : header.begins tracked = true := Header.begins_of_isNamed holds
          have uncounted := List.find?_eq_none.mp counted header among
          simp only [Header.counts, begins, Bool.true_and, decide_eq_true_eq, not_not] at uncounted
          simp [uncounted]
  | some header =>
      have counts := List.find?_some counted
      have recorded : record header.value ≠ blank := by
        simp only [Header.counts, Bool.and_eq_true, decide_eq_true_eq] at counts
        exact counts.2
      cases named : headers.find? (fun header => header.isNamed tracked) with
      | none =>
          refine iff_of_false recorded ?_
          intro decides
          obtain ⟨_, absent, _⟩ := decides header rfl
          exact nomatch absent
      | some other =>
          constructor
          · intro same first found
            cases found
            exact ⟨other, rfl, same⟩
          · intro decides
            obtain ⟨first, found, same⟩ := decides header rfl
            cases found
            exact same

/-- The two checks of one tracked header. -/
def Slot.onHeader (tracked : Bytes) (blank : α) (set : α → Bytes → α) (slot : Slot α)
    (header : Header) : Slot α :=
  (slot.onField blank tracked (header.name ++ 58 :: header.behindName)).onValue set
    ((header.value ++ header.behindValue).take header.value.length)

/-- Between two headers the flag is off, and a header is recorded if nothing was and its name
begins with the tracked one. -/
theorem Slot.onHeader_eq {set : α → Bytes → α} (plain : Plain tracked) (value : α)
    (header : Header) :
    Slot.onHeader tracked blank set ⟨false, value⟩ header
      = ⟨false, if value = blank ∧ header.begins tracked = true then set value header.value
          else value⟩ := by
  have compared : strncasecmp (header.name ++ 58 :: header.behindName) tracked tracked.length
      = header.begins tracked :=
    strncasecmp_eq_begins plain header.name header.behindName
  unfold Slot.onHeader Slot.onField Slot.onValue
  rw [List.take_left, compared]
  by_cases unread : value = blank
  · cases begins : header.begins tracked with
    | true => simp [unread]
    | false => simp [unread]
  · simp [unread]

theorem Slot.onHeaders_eq {set : α → Bytes → α} (plain : Plain tracked)
    (records : ∀ value, set blank value = record value) (headers : List Header) (value : α) :
    headers.foldl (Slot.onHeader tracked blank set) ⟨false, value⟩
      = ⟨false, if value = blank then countedValue tracked blank record headers else value⟩ := by
  induction headers generalizing value with
  | nil =>
      by_cases unread : value = blank
      · simp [countedValue, unread]
      · simp [unread]
  | cons header rest inductionHypothesis =>
      rw [List.foldl_cons, Slot.onHeader_eq plain, inductionHypothesis]
      congr 1
      unfold countedValue
      by_cases unread : value = blank
      · rw [List.find?_cons]
        cases begins : header.begins tracked with
        | false => simp [Header.counts, begins, unread]
        | true =>
            by_cases nothing : record header.value = blank
            · simp [Header.counts, begins, unread, records, nothing]
            · simp [Header.counts, begins, unread, records, nothing]
      · simp [unread]

end Tracked

/-! ### The wrapper -/

/-- Each tracked header has the value of the first header of that name, the referer cut and the
length as a number, and nothing where there is no header of that name. -/
structure Extracted (headers : List Header) (wrapper : HttpParserWrapper) : Prop where
  referer : wrapper.referer.value
    = namedValue (utf8 "Referer") [] (fun value => value.take maxRefererLen) headers
  forwardIp : wrapper.forwardIp.value = namedValue (utf8 "X-Forwarded-For") [] id headers
  userAgent : wrapper.userAgent.value = namedValue (utf8 "User-Agent") [] id headers
  contentType : wrapper.contentType.value = namedValue (utf8 "Content-Type") [] id headers
  contentLen : wrapper.contentLen.value = namedValue (utf8 "Content-Length") 0 atoi headers
  host : wrapper.host.value = namedValue (utf8 "Host") [] id headers

/-- No header decides a tracked one whose name it only extends, with another value. -/
structure Undisguised (headers : List Header) : Prop where
  referer : FirstDecides (utf8 "Referer") [] (fun value => value.take maxRefererLen) headers
  forwardIp : FirstDecides (utf8 "X-Forwarded-For") [] id headers
  userAgent : FirstDecides (utf8 "User-Agent") [] id headers
  contentType : FirstDecides (utf8 "Content-Type") [] id headers
  contentLen : FirstDecides (utf8 "Content-Length") 0 atoi headers
  host : FirstDecides (utf8 "Host") [] id headers

theorem plain_names :
    Plain (utf8 "Referer") ∧ Plain (utf8 "X-Forwarded-For") ∧ Plain (utf8 "User-Agent") ∧
      Plain (utf8 "Content-Type") ∧ Plain (utf8 "Content-Length") ∧ Plain (utf8 "Host") := by
  decide +kernel

/-- What is recorded of a slot that the callbacks treat like this, after all headers. -/
theorem recorded_eq {α : Type} [DecidableEq α] {tracked : Bytes} {blank : α}
    {record : Bytes → α} {set : α → Bytes → α} (slot : HttpParserWrapper → Slot α)
    (treated : ∀ wrapper header,
      Slot.onHeader tracked blank set (slot wrapper) header = slot (wrapper.onHeader header))
    (empty : slot .cleared = ⟨false, blank⟩) (plain : Plain tracked)
    (records : ∀ value, set blank value = record value) (headers : List Header) :
    (slot (.parseHttpContent headers)).value = countedValue tracked blank record headers := by
  have folded : headers.foldl (Slot.onHeader tracked blank set) (slot .cleared)
      = slot (headers.foldl HttpParserWrapper.onHeader .cleared) :=
    List.foldl_hom slot treated
  unfold HttpParserWrapper.parseHttpContent
  rw [← folded, empty, Slot.onHeaders_eq plain records]
  simp

/-- The headers are extracted exactly when none is disguised. -/
theorem parseHttpContent_iff (headers : List Header) :
    Extracted headers (.parseHttpContent headers) ↔ Undisguised headers := by
  obtain ⟨refererPlain, forwardPlain, agentPlain, typePlain, lengthPlain, hostPlain⟩ := plain_names
  have referer := recorded_eq (·.referer) (fun _ _ => rfl) rfl refererPlain
    (fun value => List.nil_append (value.take maxRefererLen)) headers
  have forwardIp := recorded_eq (·.forwardIp) (fun _ _ => rfl) rfl forwardPlain
    List.nil_append headers
  have userAgent := recorded_eq (·.userAgent) (fun _ _ => rfl) rfl agentPlain
    List.nil_append headers
  have contentType := recorded_eq (·.contentType) (fun _ _ => rfl) rfl typePlain
    List.nil_append headers
  have contentLen := recorded_eq (·.contentLen) (fun _ _ => rfl) rfl lengthPlain
    (fun _ => rfl) headers
  have host := recorded_eq (·.host) (fun _ _ => rfl) rfl hostPlain List.nil_append headers
  constructor
  · intro extracted
    exact ⟨(countedValue_iff headers).mp (referer ▸ extracted.referer),
      (countedValue_iff headers).mp (forwardIp ▸ extracted.forwardIp),
      (countedValue_iff headers).mp (userAgent ▸ extracted.userAgent),
      (countedValue_iff headers).mp (contentType ▸ extracted.contentType),
      (countedValue_iff headers).mp (contentLen ▸ extracted.contentLen),
      (countedValue_iff headers).mp (host ▸ extracted.host)⟩
  · intro undisguised
    exact ⟨referer.trans ((countedValue_iff headers).mpr undisguised.referer),
      forwardIp.trans ((countedValue_iff headers).mpr undisguised.forwardIp),
      userAgent.trans ((countedValue_iff headers).mpr undisguised.userAgent),
      contentType.trans ((countedValue_iff headers).mpr undisguised.contentType),
      contentLen.trans ((countedValue_iff headers).mpr undisguised.contentLen),
      host.trans ((countedValue_iff headers).mpr undisguised.host)⟩

/-- `Hostname: a`. -/
def hostnameHeader : Header where
  name := utf8 "Hostname"
  value := utf8 "a"
  behindName := utf8 " a\r\n\r\n"
  behindValue := utf8 "\r\n\r\n"
  occupied := by decide +kernel

/-- A request without a host gets one from the header whose name only begins like it. -/
theorem parseHttpContent_hostname :
    ¬ Extracted [hostnameHeader] (.parseHttpContent [hostnameHeader]) := by
  intro extracted
  exact absurd extracted.host (by decide +kernel)

end AChat.LoginDispatch
