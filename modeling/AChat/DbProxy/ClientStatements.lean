import AChat.DbProxy.MessageService
import AChat.Lib.Decimal
import AChat.Lib.SqlLiteral

/-!
Contract: whether the strings of a client stay in their literals.

Three statements are put together from a string that a client sends, which is neither escaped nor
bound. MySQL reads the string as it is only if it holds no quote and no backslash that escapes.

Owns: the texts of these statements, and the exact strings that keep to their literals. A string
holds no NUL, where the text of the statement would end.
-/

namespace AChat.DbProxy

namespace ClientStatements

open Lib (Bytes decimal digitByte)
open Lib.Sql (ascii quote isMark isInert Quiet StaysInLiteral Lexer)

/-! ### The statements -/

/-- The query of `CInterLoginStrategy::doLogin`. -/
def loginStatement (strName : Bytes) : Bytes :=
  ascii "select * from IMUser where name='" ++ strName ++ ascii "' and status=0"

def signInfoStatement (now : Nat) (userId : Id) (signInfo : Bytes) : Bytes :=
  ascii "update IMUser set `sign_info`='" ++ signInfo ++ ascii "', `updated`=" ++ decimal now ++
    ascii " where id=" ++ decimal userId

/-- The statement that is sent, if one is. -/
def updateUserSignInfo (now : Nat) (userId : Id) (signInfo : Bytes) : Option Bytes :=
  if signInfo.length > 128 then none else some (signInfoStatement now userId signInfo)

/-- The statement of `delOfflineFile`. -/
def delOfflineFileStatement (fromId toId : Id) (taskId : Bytes) : Bytes :=
  ascii "delete from IMTransmitFile where  fromId=" ++ decimal fromId ++ ascii " and toId=" ++
    decimal toId ++ ascii " and taskId='" ++ taskId ++ ascii "'"

/-! ### The text around the strings -/

section Numbers

variable {number : Nat} {byte : UInt8}

theorem digit_of_mem_decimal (member : byte ∈ decimal number) :
    ∃ digit < 10, byte = digitByte digit := by
  unfold decimal at member
  split at member
  · exact ⟨0, by decide, List.mem_singleton.mp member⟩
  · obtain ⟨digit, there, rfl⟩ := List.mem_map.mp (List.mem_reverse.mp member)
    exact ⟨digit, Nat.digits_lt_base (by decide) there, rfl⟩

theorem decimal_noMarks : ∀ byte ∈ decimal number, isMark byte = false := by
  intro byte member
  obtain ⟨digit, small, rfl⟩ := digit_of_mem_decimal member
  have noMark : ∀ digit < 10, isMark (digitByte digit) = false := by decide
  exact noMark digit small

end Numbers

/-- A text without a quote, a double quote or a backtick. -/
theorem noMarks_of_any {text : Bytes} (none : text.any isMark = false) :
    ∀ byte ∈ text, isMark byte = false := by
  intro byte member
  rw [List.any_eq_false] at none
  exact Bool.eq_false_iff.mpr (none byte member)

theorem noMarks_append {left right : Bytes} (leftNone : ∀ byte ∈ left, isMark byte = false)
    (rightNone : ∀ byte ∈ right, isMark byte = false) :
    ∀ byte ∈ left ++ right, isMark byte = false := by
  intro byte member
  exact (List.mem_append.mp member).elim (leftNone byte) (rightNone byte)

theorem quote_not_mem {text : Bytes} (noMarks : ∀ byte ∈ text, isMark byte = false) :
    quote ∉ text := by
  intro member
  have noMark := noMarks quote member
  revert noMark
  decide

theorem loginStatement_eq (strName : Bytes) :
    loginStatement strName =
      ascii "select * from IMUser where name=" ++ quote ::
        (strName ++ quote :: ascii " and status=0") := by
  have front : ascii "select * from IMUser where name='" =
      ascii "select * from IMUser where name=" ++ [quote] := by decide
  have back : ascii "' and status=0" = quote :: ascii " and status=0" := by decide
  unfold loginStatement
  rw [front, back]
  simp only [List.append_assoc, List.cons_append, List.nil_append]

theorem loginStatement_stays_iff (strName : Bytes) :
    StaysInLiteral loginStatement strName ↔ isInert strName = true := by
  have quietFront : Quiet (Lexer.start.read (ascii "select * from IMUser where name=")) :=
    Lib.Sql.quiet_start.read (noMarks_of_any (by decide))
  have noMarks : ∀ byte ∈ ascii " and status=0", isMark byte = false :=
    noMarks_of_any (by decide)
  rw [funext loginStatement_eq]
  exact Lib.Sql.staysInLiteral_iff quietFront (Lib.Sql.quiet_start.read noMarks)
    (quote_not_mem noMarks) strName

theorem signInfoStatement_eq (now : Nat) (userId : Id) (signInfo : Bytes) :
    signInfoStatement now userId signInfo =
      ascii "update IMUser set `sign_info`=" ++ quote ::
        (signInfo ++ quote ::
          (ascii ", `updated`=" ++ (decimal now ++ ascii " where id=" ++ decimal userId))) := by
  have front : ascii "update IMUser set `sign_info`='" =
      ascii "update IMUser set `sign_info`=" ++ [quote] := by decide
  have back : ascii "', `updated`=" = quote :: ascii ", `updated`=" := by decide
  unfold signInfoStatement
  rw [front, back]
  simp only [List.append_assoc, List.cons_append, List.nil_append]

theorem signInfoStatement_stays_iff (now : Nat) (userId : Id) (signInfo : Bytes) :
    StaysInLiteral (signInfoStatement now userId) signInfo ↔ isInert signInfo = true := by
  have quietFront : Quiet (Lexer.start.read (ascii "update IMUser set `sign_info`=")) := by decide
  have numbers : ∀ byte ∈ decimal now ++ ascii " where id=" ++ decimal userId,
      isMark byte = false :=
    noMarks_append (noMarks_append decimal_noMarks (noMarks_of_any (by decide))) decimal_noMarks
  have updated : Quiet (Lexer.start.read (ascii ", `updated`=")) := by decide
  have quietBack : Quiet (Lexer.start.read
      (ascii ", `updated`=" ++ (decimal now ++ ascii " where id=" ++ decimal userId))) := by
    rw [Lexer.read_append]
    exact updated.read numbers
  have noQuote : quote ∉
      ascii ", `updated`=" ++ (decimal now ++ ascii " where id=" ++ decimal userId) := by
    rw [List.mem_append, not_or]
    exact ⟨by decide, quote_not_mem numbers⟩
  rw [funext (signInfoStatement_eq now userId)]
  exact Lib.Sql.staysInLiteral_iff quietFront quietBack noQuote signInfo

theorem delOfflineFileStatement_eq (fromId toId : Id) (taskId : Bytes) :
    delOfflineFileStatement fromId toId taskId =
      (ascii "delete from IMTransmitFile where  fromId=" ++ decimal fromId ++ ascii " and toId=" ++
        decimal toId ++ ascii " and taskId=") ++ quote :: (taskId ++ quote :: []) := by
  have front : ascii " and taskId='" = ascii " and taskId=" ++ [quote] := by decide
  have back : ascii "'" = [quote] := by decide
  unfold delOfflineFileStatement
  rw [front, back]
  simp only [List.append_assoc, List.cons_append, List.nil_append]

theorem delOfflineFileStatement_stays_iff (fromId toId : Id) (taskId : Bytes) :
    StaysInLiteral (delOfflineFileStatement fromId toId) taskId ↔ isInert taskId = true := by
  have front : ∀ byte ∈ ascii "delete from IMTransmitFile where  fromId=" ++ decimal fromId ++
      ascii " and toId=" ++ decimal toId ++ ascii " and taskId=", isMark byte = false :=
    noMarks_append (noMarks_append (noMarks_append (noMarks_append (noMarks_of_any (by decide))
      decimal_noMarks) (noMarks_of_any (by decide))) decimal_noMarks) (noMarks_of_any (by decide))
  have back : Quiet (Lexer.start.read []) := Lib.Sql.quiet_start
  rw [funext (delOfflineFileStatement_eq fromId toId)]
  exact Lib.Sql.staysInLiteral_iff (Lib.Sql.quiet_start.read front) back List.not_mem_nil taskId

/-- A string of a client stays in its literal exactly if it holds no quote and no backslash but
before `%` and `_`, in all three statements. A sign text that is too long is in no statement. -/
theorem client_strings_stay_iff (text : Bytes) (now : Nat) (userId fromId toId : Id) :
    (StaysInLiteral loginStatement text ↔ isInert text = true) ∧
    ((updateUserSignInfo now userId text ≠ none →
        StaysInLiteral (signInfoStatement now userId) text) ↔
      text.length > 128 ∨ isInert text = true) ∧
    (StaysInLiteral (delOfflineFileStatement fromId toId) text ↔ isInert text = true) := by
  refine ⟨loginStatement_stays_iff text, ?_, delOfflineFileStatement_stays_iff fromId toId text⟩
  rw [signInfoStatement_stays_iff]
  unfold updateUserSignInfo
  by_cases long : text.length > 128
  · rw [if_pos long]
    exact iff_of_true (fun sent => absurd rfl sent) (.inl long)
  · rw [if_neg long]
    constructor
    · exact fun inert => .inr (inert (Option.some_ne_none _))
    · exact fun either _ => either.resolve_left long

/-- A name that leaves its literal and selects every user. -/
theorem name_leaves_literal : ¬StaysInLiteral loginStatement (ascii "x' or status=0 or name='") := by
  rw [loginStatement_stays_iff]
  decide

end ClientStatements

end AChat.DbProxy
