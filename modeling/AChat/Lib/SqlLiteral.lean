import AChat.Lib.Stdio
import Mathlib.Data.List.Basic

/-!
Owns the tokens of an SQL statement as MySQL reads its literals: quotes, doubled quotes and
backslash escapes. Comments are not told from other text.

A statement that is put together from a client's text keeps the text in its literal exactly if the
text is inert: it has no quote, and its backslashes are the two that MySQL keeps. The reader is
one step for each byte, so that the parts of a statement are read one after the other.
-/

namespace AChat.Lib.Sql

def quote : UInt8 := 39
def doubleQuote : UInt8 := 34
def backtick : UInt8 := 96
def backslash : UInt8 := 92
def percent : UInt8 := 37
def underscore : UInt8 := 95

/-- The bytes of an ASCII text. -/
def ascii (text : String) : Bytes :=
  text.toList.map fun character => UInt8.ofNat character.toNat

inductive Token where
  /-- A keyword, a name or a number. -/
  | word (text : Bytes)
  | sign (byte : UInt8)
  | literal (value : Bytes)
  | identifier (name : Bytes)
deriving DecidableEq, Repr

/-- Where the reader is. `mark` is the byte that opened a literal or an identifier. -/
inductive Mode where
  | plain
  | word (text : Bytes)
  | quoted (mark : UInt8) (value : Bytes)
  /-- Behind a mark that closes, or is the first one of two. -/
  | marked (mark : UInt8) (value : Bytes)
  | escaped (mark : UInt8) (value : Bytes)
deriving DecidableEq, Repr

structure Lexer where
  tokens : List Token
  mode : Mode
deriving DecidableEq, Repr

def isMark (byte : UInt8) : Bool :=
  byte == quote || byte == doubleQuote || byte == backtick

def isSpace (byte : UInt8) : Bool :=
  byte == 32 || (9 ≤ byte && byte ≤ 13)

/-- Letters, digits, `_`, `$` and the bytes of other characters. -/
def isWord (byte : UInt8) : Bool :=
  (48 ≤ byte && byte ≤ 57) || (65 ≤ byte && byte ≤ 90) || (97 ≤ byte && byte ≤ 122) ||
    byte == underscore || byte == 36 || 128 ≤ byte

/-- The value of a byte behind a backslash. Before `%` and `_` the backslash stays. -/
def unescape (byte : UInt8) : Bytes :=
  if byte = 48 then [0]
  else if byte = 98 then [8]
  else if byte = 110 then [10]
  else if byte = 114 then [13]
  else if byte = 116 then [9]
  else if byte = 90 then [26]
  else if byte = percent ∨ byte = underscore then [backslash, byte]
  else [byte]

def quotedToken (mark : UInt8) (value : Bytes) : Token :=
  if mark = backtick then .identifier value else .literal value

namespace Lexer

def start : Lexer := ⟨[], .plain⟩

def emit (lexer : Lexer) (token : Token) : Lexer :=
  ⟨lexer.tokens ++ [token], .plain⟩

/-- A byte outside of words and literals. -/
def stepPlain (lexer : Lexer) (byte : UInt8) : Lexer :=
  if isMark byte then { lexer with mode := .quoted byte [] }
  else if isWord byte then { lexer with mode := .word [byte] }
  else if isSpace byte then { lexer with mode := .plain }
  else lexer.emit (.sign byte)

def step (lexer : Lexer) (byte : UInt8) : Lexer :=
  match lexer.mode with
  | .plain => lexer.stepPlain byte
  | .word text =>
      if isWord byte then { lexer with mode := .word (text ++ [byte]) }
      else (lexer.emit (.word text)).stepPlain byte
  | .quoted mark value =>
      if byte = mark then { lexer with mode := .marked mark value }
      else if byte = backslash ∧ mark ≠ backtick then { lexer with mode := .escaped mark value }
      else { lexer with mode := .quoted mark (value ++ [byte]) }
  | .marked mark value =>
      if byte = mark then { lexer with mode := .quoted mark (value ++ [mark]) }
      else (lexer.emit (quotedToken mark value)).stepPlain byte
  | .escaped mark value => { lexer with mode := .quoted mark (value ++ unescape byte) }

def read (lexer : Lexer) (text : Bytes) : Lexer :=
  text.foldl step lexer

/-- The tokens at the end of the statement. A literal that is still open is an error. -/
def finish (lexer : Lexer) : Option (List Token) :=
  match lexer.mode with
  | .plain => some lexer.tokens
  | .word text => some (lexer.tokens ++ [.word text])
  | .marked mark value => some (lexer.tokens ++ [quotedToken mark value])
  | .quoted _ _ => none
  | .escaped _ _ => none

/-- The same reader behind other tokens. -/
def behind (front : List Token) (lexer : Lexer) : Lexer :=
  { lexer with tokens := front ++ lexer.tokens }

end Lexer

def tokenize (text : Bytes) : Option (List Token) :=
  (Lexer.start.read text).finish

/-- The statement has the tokens that it has with the text `a`, but for one literal, which has
exactly the given text as its value. -/
def StaysInLiteral (build : Bytes → Bytes) (text : Bytes) : Prop :=
  ∃ before after, tokenize (build [97]) = some (before ++ .literal [97] :: after) ∧
    tokenize (build text) = some (before ++ .literal text :: after)

/-- There is no quote, and behind every backslash there is a `%` or a `_`. -/
def isInert : Bytes → Bool
  | [] => true
  | [byte] => byte != quote && byte != backslash
  | byte :: next :: rest =>
      if byte = backslash then (next == percent || next == underscore) && isInert rest
      else byte != quote && isInert (next :: rest)

/-! ### Reading in parts -/

namespace Lexer

variable {lexer : Lexer} {front : List Token} {byte : UInt8}

theorem stepPlain_behind :
    (lexer.behind front).stepPlain byte = (lexer.stepPlain byte).behind front := by
  unfold stepPlain behind emit
  split
  · rfl
  · split
    · rfl
    · split
      · rfl
      · simp only [List.append_assoc]

theorem emit_behind (token : Token) :
    (lexer.behind front).emit token = (lexer.emit token).behind front := by
  simp only [emit, behind, List.append_assoc]

theorem step_behind : (lexer.behind front).step byte = (lexer.step byte).behind front := by
  obtain ⟨tokens, mode⟩ := lexer
  cases mode with
  | plain => exact stepPlain_behind
  | word text =>
      show (if _ then _ else _) = (if _ then _ else _ : Lexer).behind front
      split
      · rfl
      · rw [← stepPlain_behind, ← emit_behind]
  | quoted mark value =>
      show (if _ then _ else _) = (if _ then _ else _ : Lexer).behind front
      split
      · rfl
      · split
        · rfl
        · rfl
  | marked mark value =>
      show (if _ then _ else _) = (if _ then _ else _ : Lexer).behind front
      split
      · rfl
      · rw [← stepPlain_behind, ← emit_behind]
  | escaped mark value => rfl

theorem read_behind (text : Bytes) :
    (lexer.behind front).read text = (lexer.read text).behind front := by
  induction text generalizing lexer with
  | nil => rfl
  | cons byte rest inductionHypothesis =>
      show ((lexer.behind front).step byte).read rest = ((lexer.step byte).read rest).behind front
      rw [step_behind, inductionHypothesis]

theorem finish_behind : (lexer.behind front).finish = lexer.finish.map (front ++ ·) := by
  obtain ⟨tokens, mode⟩ := lexer
  cases mode with
  | plain => rfl
  | word text => simp [finish, behind]
  | quoted mark value => rfl
  | marked mark value => simp [finish, behind]
  | escaped mark value => rfl

theorem read_nil : lexer.read [] = lexer :=
  rfl

theorem read_cons (text : Bytes) : lexer.read (byte :: text) = (lexer.step byte).read text :=
  rfl

theorem read_append (text later : Bytes) :
    lexer.read (text ++ later) = (lexer.read text).read later :=
  List.foldl_append

/-- A literal that closes is a token, and the byte behind it is read as outside of it. -/
theorem step_marked {value : Bytes} (other : byte ≠ quote) :
    Lexer.step ⟨[], .marked quote value⟩ byte = (start.step byte).behind [.literal value] := by
  have stepped : Lexer.step ⟨[], .marked quote value⟩ byte =
      (start.behind [.literal value]).stepPlain byte := if_neg other
  rw [stepped, stepPlain_behind]
  rfl

end Lexer

/-! ### A text in a literal -/

open Lexer (start)

/-- The reader is behind the text: its value is not as long as the text, or the literal has been
closed with such a value. -/
inductive Lagging (length : Nat) : Lexer → Prop where
  | quoted (value : Bytes) (shorter : value.length < length) : Lagging length ⟨[], .quoted quote value⟩
  | marked (value : Bytes) (shorter : value.length < length) : Lagging length ⟨[], .marked quote value⟩
  | escaped (value : Bytes) (shorter : value.length + 1 < length) :
      Lagging length ⟨[], .escaped quote value⟩
  | closed (value : Bytes) (rest : Lexer) (shorter : value.length < length) :
      Lagging length (rest.behind [.literal value])

theorem length_unescape_le (byte : UInt8) : (unescape byte).length ≤ 2 := by
  unfold unescape
  repeat' split
  all_goals simp

theorem length_unescape {byte : UInt8} (other : ¬(byte = percent ∨ byte = underscore)) :
    (unescape byte).length = 1 := by
  unfold unescape
  rw [if_neg other]
  repeat' split
  all_goals rfl

section Texts

variable {lexer : Lexer} {length : Nat} {byte : UInt8} {value text back : Bytes}

theorem step_quoted_eq :
    Lexer.step ⟨[], .quoted quote value⟩ byte =
      if byte = quote then ⟨[], .marked quote value⟩
      else if byte = backslash ∧ quote ≠ backtick then ⟨[], .escaped quote value⟩
      else ⟨[], .quoted quote (value ++ [byte])⟩ :=
  rfl

theorem step_quoted_quote :
    Lexer.step ⟨[], .quoted quote value⟩ quote = ⟨[], .marked quote value⟩ := by
  rw [step_quoted_eq, if_pos rfl]

theorem step_quoted_backslash :
    Lexer.step ⟨[], .quoted quote value⟩ backslash = ⟨[], .escaped quote value⟩ := by
  rw [step_quoted_eq, if_neg (by decide), if_pos (by decide)]

theorem step_quoted (noQuote : byte ≠ quote) (noBackslash : byte ≠ backslash) :
    Lexer.step ⟨[], .quoted quote value⟩ byte = ⟨[], .quoted quote (value ++ [byte])⟩ := by
  rw [step_quoted_eq, if_neg noQuote, if_neg fun both => noBackslash both.1]

theorem Lagging.step (lagging : Lagging length lexer) (byte : UInt8) :
    Lagging (length + 1) (lexer.step byte) := by
  cases lagging with
  | quoted value shorter =>
      by_cases isQuote : byte = quote
      · rw [isQuote, step_quoted_quote]
        exact .marked value (by omega)
      · by_cases isBackslash : byte = backslash
        · rw [isBackslash, step_quoted_backslash]
          exact .escaped value (by omega)
        · rw [step_quoted isQuote isBackslash]
          refine .quoted _ ?_
          rw [List.length_append, List.length_singleton]
          omega
  | marked value shorter =>
      by_cases isQuote : byte = quote
      · have stepped : Lexer.step ⟨[], .marked quote value⟩ byte =
            ⟨[], .quoted quote (value ++ [quote])⟩ := if_pos isQuote
        rw [stepped]
        refine .quoted _ ?_
        rw [List.length_append, List.length_singleton]
        omega
      · rw [Lexer.step_marked isQuote]
        exact .closed value _ (by omega)
  | escaped value shorter =>
      have := length_unescape_le byte
      refine .quoted (value ++ unescape byte) ?_
      rw [List.length_append]
      omega
  | closed value rest shorter =>
      rw [Lexer.step_behind]
      exact .closed value _ (by omega)

theorem Lagging.read (lagging : Lagging length lexer) (text : Bytes) :
    Lagging (length + text.length) (lexer.read text) := by
  induction text generalizing length lexer with
  | nil => exact lagging
  | cons byte rest inductionHypothesis =>
      have later := inductionHypothesis (lagging.step byte)
      rw [List.length_cons, Nat.add_comm rest.length, ← Nat.add_assoc]
      exact later

/-- An inert text is read as it is. After any other text the reader is behind a backslash of its
end, or behind the text. -/
theorem read_quoted : ∀ (text value : Bytes),
    isInert text = true ∧
        Lexer.read ⟨[], .quoted quote value⟩ text = ⟨[], .quoted quote (value ++ text)⟩ ∨
      isInert text = false ∧
        ((∃ held, Lexer.read ⟨[], .quoted quote value⟩ text = ⟨[], .escaped quote held⟩) ∨
          Lagging (value.length + text.length) (Lexer.read ⟨[], .quoted quote value⟩ text))
  | [], value => .inl ⟨rfl, by rw [List.append_nil]; rfl⟩
  | [byte], value => by
      rw [Lexer.read_cons, Lexer.read_nil]
      by_cases isQuote : byte = quote
      · subst isQuote
        rw [step_quoted_quote]
        exact .inr ⟨rfl, .inr (.marked value (Nat.lt_succ_self _))⟩
      · by_cases isBackslash : byte = backslash
        · subst isBackslash
          rw [step_quoted_backslash]
          exact .inr ⟨rfl, .inl ⟨value, rfl⟩⟩
        · rw [step_quoted isQuote isBackslash]
          refine .inl ⟨?_, rfl⟩
          simp [isInert, isQuote, isBackslash]
  | byte :: next :: rest, value => by
      by_cases isBackslash : byte = backslash
      · subst isBackslash
        have unfolded : isInert (backslash :: next :: rest) =
            ((next == percent || next == underscore) && isInert rest) := if_pos rfl
        rw [unfolded, Lexer.read_cons, step_quoted_backslash, Lexer.read_cons]
        by_cases kept : next = percent ∨ next = underscore
        · have stepped : Lexer.step ⟨[], .escaped quote value⟩ next =
              ⟨[], .quoted quote (value ++ [backslash, next])⟩ := by
            rcases kept with rfl | rfl
            · rfl
            · rfl
          have same : (next == percent || next == underscore) = true := by
            simpa using kept
          rw [stepped, same, Bool.true_and]
          have outcome := read_quoted rest (value ++ [backslash, next])
          rw [List.append_assoc, List.length_append, Nat.add_assoc,
            Nat.add_comm [backslash, next].length] at outcome
          exact outcome
        · have same : (next == percent || next == underscore) = false := by
            simpa using kept
          -- the two bytes are read as one
          have lagging : Lagging (value.length + 2) (Lexer.step ⟨[], .escaped quote value⟩ next) := by
            refine .quoted (value ++ unescape next) ?_
            rw [List.length_append, length_unescape kept]
            omega
          rw [same, Bool.false_and]
          refine .inr ⟨rfl, .inr ?_⟩
          have later := lagging.read rest
          rw [Nat.add_assoc, Nat.add_comm 2] at later
          exact later
      · have unfolded : isInert (byte :: next :: rest) = (byte != quote && isInert (next :: rest)) :=
          if_neg isBackslash
        by_cases isQuote : byte = quote
        · subst isQuote
          have lagging : Lagging (value.length + 1) (Lexer.step ⟨[], .quoted quote value⟩ quote) := by
            rw [step_quoted_quote]
            exact .marked value (Nat.lt_succ_self _)
          refine .inr ⟨rfl, .inr ?_⟩
          have later := lagging.read (next :: rest)
          rw [Nat.add_assoc, Nat.add_comm 1] at later
          exact later
        · have same : isInert (byte :: next :: rest) = isInert (next :: rest) := by
            rw [unfolded]
            simp [isQuote]
          have outcome := read_quoted (next :: rest) (value ++ [byte])
          rw [same, Lexer.read_cons, step_quoted isQuote isBackslash]
          rw [List.append_assoc, List.length_append, Nat.add_assoc, Nat.add_comm [byte].length]
            at outcome
          exact outcome

/-! The closing quote, and what is behind it. -/

/-- The reader is in a literal that is still open, or was closed with a shorter value. -/
inductive Short (length : Nat) : Lexer → Prop where
  | quoted (value : Bytes) : Short length ⟨[], .quoted quote value⟩
  | escaped (value : Bytes) : Short length ⟨[], .escaped quote value⟩
  | marked (value : Bytes) (shorter : value.length < length) : Short length ⟨[], .marked quote value⟩
  | closed (value : Bytes) (rest : Lexer) (shorter : value.length < length) :
      Short length (rest.behind [.literal value])

theorem Lagging.short (lagging : Lagging length lexer) : Short length (lexer.step quote) := by
  cases lagging with
  | quoted value shorter =>
      rw [step_quoted_quote]
      exact .marked value shorter
  | marked value shorter => exact .quoted (value ++ [quote])
  | escaped value shorter => exact .quoted (value ++ unescape quote)
  | closed value rest shorter =>
      rw [Lexer.step_behind]
      exact .closed value _ shorter

theorem Short.step (short : Short length lexer) (noQuote : byte ≠ quote) :
    Short length (lexer.step byte) := by
  cases short with
  | quoted value =>
      by_cases isBackslash : byte = backslash
      · rw [isBackslash, step_quoted_backslash]
        exact .escaped value
      · rw [step_quoted noQuote isBackslash]
        exact .quoted (value ++ [byte])
  | escaped value => exact .quoted (value ++ unescape byte)
  | marked value shorter =>
      rw [Lexer.step_marked noQuote]
      exact .closed value _ shorter
  | closed value rest shorter =>
      rw [Lexer.step_behind]
      exact .closed value _ shorter

theorem Short.read (short : Short length lexer) (noQuote : quote ∉ back) :
    Short length (lexer.read back) := by
  induction back generalizing lexer with
  | nil => exact short
  | cons byte rest inductionHypothesis =>
      rw [List.mem_cons, not_or] at noQuote
      exact inductionHypothesis (short.step (Ne.symm noQuote.1)) noQuote.2

/-- The first token is a literal with a shorter value, if the statement can be read. -/
theorem Short.finish (short : Short length lexer) {tokens : List Token}
    (finished : lexer.finish = some tokens) :
    ∃ value rest, tokens = .literal value :: rest ∧ value.length < length := by
  cases short with
  | quoted value => cases finished
  | escaped value => cases finished
  | marked value shorter => exact ⟨value, [], (Option.some.inj finished).symm, shorter⟩
  | closed value rest shorter =>
      rw [Lexer.finish_behind] at finished
      obtain ⟨more, _, same⟩ := Option.map_eq_some_iff.mp finished
      exact ⟨value, more, same.symm, shorter⟩

/-- Behind the literal the statement is read as it would be alone. -/
theorem read_marked (noQuote : quote ∉ back) :
    (Lexer.read ⟨[], .marked quote value⟩ back).finish =
      (start.read back).finish.map (Token.literal value :: ·) := by
  cases back with
  | nil => rfl
  | cons byte rest =>
      rw [List.mem_cons, not_or] at noQuote
      rw [Lexer.read_cons, Lexer.step_marked (Ne.symm noQuote.1), Lexer.read_behind,
        Lexer.finish_behind]
      rfl

/-- The tokens from the opening quote on. -/
theorem literal_first_iff (noQuote : quote ∉ back) {after : List Token}
    (closed : (start.read back).finish = some after) :
    (∃ rest, (Lexer.read ⟨[], .quoted quote []⟩ (text ++ quote :: back)).finish =
        some (.literal text :: rest)) ↔ isInert text = true := by
  rw [Lexer.read_append, Lexer.read_cons]
  rcases read_quoted text [] with ⟨inert, stepped⟩ | ⟨notInert, behind⟩
  · refine iff_of_true ⟨after, ?_⟩ inert
    rw [stepped, List.nil_append, step_quoted_quote, read_marked noQuote, closed]
    rfl
  · rw [notInert]
    refine iff_of_false ?_ (by decide)
    rintro ⟨rest, finished⟩
    have short : Short text.length ((Lexer.read ⟨[], .quoted quote []⟩ text).step quote) := by
      rcases behind with ⟨held, stepped⟩ | lagging
      · rw [stepped]
        exact .quoted (held ++ unescape quote)
      · have := lagging.short
        rwa [List.length_nil, Nat.zero_add] at this
    obtain ⟨value, _, same, shorter⟩ := (short.read noQuote).finish finished
    obtain ⟨valueSame, _⟩ := List.cons.inj same
    rw [← Token.literal.inj valueSame] at shorter
    exact Nat.lt_irrefl _ shorter

/-! The text around the literal. -/

/-- The reader is outside of literals, and has read none. -/
structure Quiet (lexer : Lexer) : Prop where
  noLiteral : ∀ value, Token.literal value ∉ lexer.tokens
  outside : lexer.mode = .plain ∨ ∃ word, lexer.mode = .word word

def Token.isLiteral : Token → Bool
  | literal _ => true
  | _ => false

def Mode.isOutside : Mode → Bool
  | plain => true
  | word _ => true
  | _ => false

theorem quiet_iff :
    lexer.tokens.any Token.isLiteral = false ∧ lexer.mode.isOutside = true ↔ Quiet lexer := by
  obtain ⟨tokens, mode⟩ := lexer
  constructor
  · rintro ⟨none, outside⟩
    refine ⟨fun value member => List.any_eq_false.mp none _ member rfl, ?_⟩
    cases mode with
    | plain => exact .inl rfl
    | word text => exact .inr ⟨text, rfl⟩
    | quoted mark value => cases outside
    | marked mark value => cases outside
    | escaped mark value => cases outside
  · rintro ⟨none, outside⟩
    constructor
    · rw [List.any_eq_false]
      intro token member
      cases token with
      | literal value => exact absurd member (none value)
      | word text => exact Bool.false_ne_true
      | sign byte => exact Bool.false_ne_true
      | identifier name => exact Bool.false_ne_true
    · rcases outside with outside | ⟨word, outside⟩
      · exact congrArg Mode.isOutside outside
      · exact congrArg Mode.isOutside outside

instance Quiet.instDecidable (lexer : Lexer) : Decidable (Quiet lexer) :=
  decidable_of_iff _ quiet_iff

theorem quiet_start : Quiet start :=
  ⟨fun _ => List.not_mem_nil, .inl rfl⟩

theorem Quiet.emit (quiet : Quiet lexer) {token : Token} (other : ∀ value, token ≠ .literal value) :
    Quiet (lexer.emit token) := by
  refine ⟨fun value member => ?_, .inl rfl⟩
  rcases List.mem_append.mp member with before | last
  · exact quiet.noLiteral value before
  · exact other value (List.mem_singleton.mp last).symm

theorem Quiet.stepPlain (quiet : Quiet lexer) (noMark : isMark byte = false) :
    Quiet (lexer.stepPlain byte) := by
  unfold Lexer.stepPlain
  rw [noMark, if_neg Bool.false_ne_true]
  split
  · exact ⟨quiet.noLiteral, .inr ⟨_, rfl⟩⟩
  · split
    · exact ⟨quiet.noLiteral, .inl rfl⟩
    · exact quiet.emit fun value => Token.noConfusion

theorem Quiet.step (quiet : Quiet lexer) (noMark : isMark byte = false) :
    Quiet (lexer.step byte) := by
  obtain ⟨tokens, mode⟩ := lexer
  rcases quiet.outside with outside | ⟨word, outside⟩
  · obtain rfl : mode = .plain := outside
    exact quiet.stepPlain noMark
  · obtain rfl : mode = .word word := outside
    show Quiet (if _ then _ else _)
    split
    · exact ⟨quiet.noLiteral, .inr ⟨_, rfl⟩⟩
    · exact (quiet.emit fun value => Token.noConfusion).stepPlain noMark

theorem Quiet.read (quiet : Quiet lexer) (noMarks : ∀ byte ∈ text, isMark byte = false) :
    Quiet (lexer.read text) := by
  induction text generalizing lexer with
  | nil => exact quiet
  | cons byte rest inductionHypothesis =>
      exact inductionHypothesis (quiet.step (noMarks byte List.mem_cons_self))
        fun other member => noMarks other (List.mem_cons_of_mem byte member)

theorem Quiet.finish (quiet : Quiet lexer) :
    ∃ tokens, lexer.finish = some tokens ∧ ∀ value, Token.literal value ∉ tokens := by
  obtain ⟨tokens, mode⟩ := lexer
  rcases quiet.outside with outside | ⟨word, outside⟩
  · obtain rfl : mode = .plain := outside
    exact ⟨tokens, rfl, quiet.noLiteral⟩
  · obtain rfl : mode = .word word := outside
    exact ⟨_, rfl, (quiet.emit fun value => Token.noConfusion).noLiteral⟩

theorem Quiet.open (quiet : Quiet lexer) :
    ∃ tokens, lexer.step quote = Lexer.behind tokens ⟨[], .quoted quote []⟩ ∧
      ∀ value, Token.literal value ∉ tokens := by
  obtain ⟨tokens, mode⟩ := lexer
  rcases quiet.outside with outside | ⟨word, outside⟩
  · obtain rfl : mode = .plain := outside
    refine ⟨tokens, ?_, quiet.noLiteral⟩
    rw [Lexer.behind, List.append_nil]
    rfl
  · obtain rfl : mode = .word word := outside
    refine ⟨tokens ++ [.word word], ?_, (quiet.emit fun value => Token.noConfusion).noLiteral⟩
    rw [Lexer.behind, List.append_nil]
    rfl

/-- Between two parts of a statement that hold no literal, a text stays in its literal exactly if it
is inert. -/
theorem staysInLiteral_iff {front : Bytes} (quietFront : Quiet (start.read front))
    (quietBack : Quiet (start.read back)) (noQuote : quote ∉ back) (text : Bytes) :
    StaysInLiteral (fun text => front ++ quote :: (text ++ quote :: back)) text ↔
      isInert text = true := by
  obtain ⟨first, opened, noneFirst⟩ := quietFront.open
  obtain ⟨last, closed, noneLast⟩ := quietBack.finish
  have tokens : ∀ text : Bytes, tokenize (front ++ quote :: (text ++ quote :: back)) =
      (Lexer.read ⟨[], .quoted quote []⟩ (text ++ quote :: back)).finish.map (first ++ ·) := by
    intro text
    unfold tokenize
    rw [Lexer.read_append, Lexer.read_cons, opened, Lexer.read_behind, Lexer.finish_behind]
  have inert : ∀ text : Bytes, isInert text = true →
      tokenize (front ++ quote :: (text ++ quote :: back)) =
        some (first ++ .literal text :: last) := by
    intro text inert
    obtain ⟨_, stepped⟩ := (read_quoted text []).resolve_right fun other => by
      rw [inert] at other
      cases other.1
    rw [tokens, Lexer.read_append, stepped, Lexer.read_cons, step_quoted_quote,
      read_marked noQuote, closed]
    rfl
  constructor
  · rintro ⟨before, after, plain, stays⟩
    rw [inert [97] (by decide)] at plain
    obtain ⟨rfl, -, rfl⟩ := (List.append_cons_inj_of_notMem (noneFirst [97]) (noneLast [97])).mp
      (Option.some.inj plain)
    rw [tokens] at stays
    obtain ⟨all, finished, same⟩ := Option.map_eq_some_iff.mp stays
    rw [List.append_cancel_left same] at finished
    exact (literal_first_iff noQuote closed).mp ⟨_, finished⟩
  · intro there
    exact ⟨first, last, inert [97] (by decide), inert text there⟩

end Texts

end AChat.Lib.Sql
