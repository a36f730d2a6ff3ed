import AChat.Lib.CString
import AChat.Lib.Words
import Mathlib.Data.List.TakeWhile
import Mathlib.Logic.Function.Basic
import Mathlib.Tactic.Push

/-!
Contract: what `CacheConn::mget` reads, beside what `CacheConn::get` reads.

The connection stands and the cache answers. A key of the cache holds a string, or a value of
another type. `redisCommand` makes the words of a command from a format: it splits the format at
spaces and expands the directives that begin with a percent sign. The only arguments that are
given here are texts; a directive that takes an argument that is not given faults.

Owns: the formatter, the two reads, and the lists of keys and contents of the cache for which they
agree.
-/

namespace AChat.DbProxy.MultiGet

open AChat.Lib

/-! ### hiredis -/

def space : UInt8 := 32

def percent : UInt8 := 37

inductive Fault where
  | argument
  | index
deriving DecidableEq, Repr

/-- `strchr(set, *p) != NULL`. The terminator is in every set. -/
def strchr (set : Bytes) : Bytes → Bool
  | [] => true
  | byte :: _ => set.contains byte

def isDigit (byte : UInt8) : Bool :=
  48 ≤ byte && byte ≤ 57

/-- `"diouxX"`. -/
def intfmts : Bytes := [100, 105, 111, 117, 120, 88]

/-- `"eEfFgGaA"`. -/
def doublefmts : Bytes := [101, 69, 102, 70, 103, 71, 97, 65]

/-- `"#0-+ "`. -/
def flags : Bytes := [35, 48, 45, 43, 32]

/-- An integer conversion behind its size. -/
def intConversion (p : Bytes) : Bool :=
  p != [] && strchr intfmts p

/-- The conversion of a `printf` directive. -/
def conversion (p : Bytes) : Bool :=
  strchr intfmts p || strchr doublefmts p ||
    match p with
    | 104 :: 104 :: rest => intConversion rest
    | 104 :: rest => intConversion rest
    | 108 :: 108 :: rest => intConversion rest
    | 108 :: rest => intConversion rest
    | _ => false

/-- A `printf` directive that takes a number: flags, field width, precision and conversion. -/
def takesNumber (directive : Bytes) : Bool :=
  match (directive.dropWhile flags.contains).dropWhile isDigit with
  | 46 :: precision => conversion (precision.dropWhile isDigit)
  | rest => conversion rest

/-- The current argument is put in `argv`. -/
def pushArg (curarg : Bytes) :
    Except Fault (Option (List Bytes)) → Except Fault (Option (List Bytes))
  | .ok (some argv) => .ok (some (curarg :: argv))
  | other => other

/-- `redisvFormatCommand` from `c` on: the rest of `argv`, `none` for a format error. -/
def formatFrom : (c : Bytes) → (ap : List Bytes) → (curarg : Bytes) → (touched : Bool) →
    Except Fault (Option (List Bytes))
  | [], _, curarg, touched => .ok (some (if touched then [curarg] else []))
  | c :: rest, ap, curarg, touched =>
      if c ≠ percent ∨ rest = [] then
        if c = space then
          if touched then pushArg curarg (formatFrom rest ap [] false)
          else formatFrom rest ap curarg touched
        else formatFrom rest ap (curarg ++ [c]) true
      else
        match rest with
        | [] => .ok none
        | directive :: more =>
            if directive = 115 then
              match ap with
              | [] => .error .argument
              | arg :: args => formatFrom more args (curarg ++ arg) true
            else if directive = 98 then .error .argument
            else if directive = percent then formatFrom more ap (curarg ++ [percent]) true
            else if takesNumber (directive :: more) then .error .argument
            else .ok none

/-! ### The cache -/

/-- `"GET"`. -/
def getCommand : Bytes := [71, 69, 84]

/-- `"MGET"`. -/
def mgetCommand : Bytes := [77, 71, 69, 84]

inductive Value where
  | string (str : Bytes)
  | other
deriving DecidableEq, Repr

abbrev Cache := Bytes → Option Value

/-- The element `none` is a nil reply. -/
inductive RedisReply where
  | string (str : Bytes)
  | nil
  | array (element : List (Option Bytes))
  | error
deriving DecidableEq, Repr

/-- The string that a key holds. -/
def Cache.str (cache : Cache) (key : Bytes) : Option Bytes :=
  match cache key with
  | some (.string str) => some str
  | _ => none

def Cache.get (cache : Cache) (key : Bytes) : RedisReply :=
  match cache key with
  | some (.string str) => .string str
  | some .other => .error
  | none => .nil

/-- How the cache answers the two commands. -/
def Cache.answer (cache : Cache) : List Bytes → RedisReply
  | [] => .error
  | command :: keys =>
      if command = getCommand then
        match keys with
        | [key] => cache.get key
        | _ => .error
      else if command = mgetCommand ∧ keys ≠ [] then .array (keys.map cache.str)
      else .error

/-- `redisCommand`. A command that cannot be formatted has no reply. -/
def redisCommand (cache : Cache) (format : Bytes) (ap : List Bytes) :
    Except Fault (Option RedisReply) :=
  match formatFrom format ap [] false with
  | .error fault => .error fault
  | .ok none => .ok none
  | .ok (some argv) => .ok (some (cache.answer argv))

/-! ### The two reads -/

/-- `c_str`, as the C library reads it. -/
def cStr (text : Bytes) : Bytes :=
  text.takeWhile fun byte => byte != 0

/-- `CacheConn::get`: the format is `"GET %s"`. -/
def get (cache : Cache) (key : Bytes) : Except Fault Bytes :=
  match redisCommand cache (getCommand ++ [space, percent, 115]) [cStr key] with
  | .error fault => .error fault
  | .ok (some (.string str)) => .ok str
  | .ok _ => .ok []

abbrev StringMap := Bytes → Option Bytes

/-- The loop over the elements of the reply, from element `i` on. -/
def storeFrom (keys : List Bytes) : (i : Nat) → List (Option Bytes) → StringMap →
    Except Fault StringMap
  | _, [], ret => .ok ret
  | i, none :: rest, ret => storeFrom keys (i + 1) rest ret
  | i, some str :: rest, ret =>
      match keys[i]? with
      | none => .error .index
      | some key => storeFrom keys (i + 1) rest (Function.update ret key (some (cStr str)))

/-- `CacheConn::mget`. -/
def mget (cache : Cache) (keys : List Bytes) (ret : StringMap) : Except Fault (Bool × StringMap) :=
  let strKey := joinWords space keys
  if keys = [] ∨ strKey = [] then .ok (false, ret)
  else
    match redisCommand cache (cStr (mgetCommand ++ [space] ++ strKey)) [] with
    | .error fault => .error fault
    | .ok none => .ok (false, ret)
    | .ok (some (.array element)) => (storeFrom keys 0 element ret).map fun ret => (true, ret)
    | .ok (some _) => .ok (true, ret)

/-! ### The agreement of `mget` with `get` -/

/-- A list of keys: at least one, none of them empty, none with a zero. -/
structure Proper (keys : List Bytes) : Prop where
  some : keys ≠ []
  occupied : ∀ key ∈ keys, key ≠ []
  noZero : ∀ key ∈ keys, 0 ∉ key

/-- What `mget` puts in an empty map is, for each listed key that exists, what `get` returns. -/
def Agrees (cache : Cache) (keys : List Bytes) : Prop :=
  ∃ found ret, mget cache keys (fun _ => none) = .ok (found, ret) ∧
    (∀ key, key ∈ keys → cache key ≠ none →
      ∃ value, get cache key = .ok value ∧ ret key = some value) ∧
    ∀ key, ¬(key ∈ keys ∧ cache key ≠ none) → ret key = none

/-- The formatter leaves the joined keys as they are: no key has a space, and no percent sign
stands before the last byte. -/
structure TakenLiterally (keys : List Bytes) : Prop where
  unspaced : ∀ key ∈ keys, space ∉ key
  undirected : percent ∉ (joinWords space keys).dropLast

/-- The listed keys that exist hold strings without a zero. -/
def HoldsText (cache : Cache) (keys : List Bytes) : Prop :=
  ∀ key ∈ keys, ∀ value, cache key = some value → ∃ str, value = .string str ∧ 0 ∉ str

/-! ### What the formatter makes of a text -/

theorem formatFrom_cons (byte : UInt8) (rest : Bytes) (ap : List Bytes) (curarg : Bytes)
    (touched : Bool) :
    formatFrom (byte :: rest) ap curarg touched =
      if byte ≠ percent ∨ rest = [] then
        if byte = space then
          if touched then pushArg curarg (formatFrom rest ap [] false)
          else formatFrom rest ap curarg touched
        else formatFrom rest ap (curarg ++ [byte]) true
      else
        match rest with
        | [] => .ok none
        | directive :: more =>
            if directive = 115 then
              match ap with
              | [] => .error .argument
              | arg :: args => formatFrom more args (curarg ++ arg) true
            else if directive = 98 then .error .argument
            else if directive = percent then formatFrom more ap (curarg ++ [percent]) true
            else if takesNumber (directive :: more) then .error .argument
            else .ok none := by
  rw [formatFrom.eq_def]
  rfl

theorem formatFrom_letter {byte : UInt8} (plain : byte ≠ percent) (unspaced : byte ≠ space)
    (rest : Bytes) (ap : List Bytes) (curarg : Bytes) (touched : Bool) :
    formatFrom (byte :: rest) ap curarg touched = formatFrom rest ap (curarg ++ [byte]) true := by
  rw [formatFrom_cons, if_pos (.inl plain), if_neg unspaced]

theorem formatFrom_space (rest : Bytes) (ap : List Bytes) (curarg : Bytes) :
    formatFrom (space :: rest) ap curarg true = pushArg curarg (formatFrom rest ap [] false) := by
  rw [formatFrom_cons, if_pos (.inl (by decide)), if_pos rfl, if_pos rfl]

/-- A text without directives is split at its spaces. -/
theorem formatFrom_literal {c : Bytes} (undirected : percent ∉ c.dropLast) (ap : List Bytes)
    (curarg : Bytes) (touched : Bool) :
    formatFrom c ap curarg touched = .ok (some (wordsFrom space c curarg touched)) := by
  induction c generalizing curarg touched with
  | nil => rw [formatFrom, wordsFrom]
  | cons letter rest inductionHypothesis =>
      have literal : letter ≠ percent ∨ rest = [] := by
        by_cases last : rest = []
        · exact .inr last
        · refine .inl fun directive => undirected ?_
          rw [List.dropLast_cons_of_ne_nil last, directive]
          exact List.mem_cons_self
      have onward : percent ∉ rest.dropLast := by
        by_cases last : rest = []
        · simp [last]
        · intro member
          rw [List.dropLast_cons_of_ne_nil last] at undirected
          exact undirected (List.mem_cons_of_mem _ member)
      rw [formatFrom_cons, if_pos literal, wordsFrom]
      split
      · split
        · rw [inductionHypothesis onward, pushArg]
        · exact inductionHypothesis onward _ _
      · exact inductionHypothesis onward _ _

theorem pushArg_some {curarg : Bytes} {formatted : Except Fault (Option (List Bytes))}
    {argv : List Bytes} (pushed : pushArg curarg formatted = .ok (some argv)) :
    ∃ rest, formatted = .ok (some rest) ∧ argv = curarg :: rest := by
  unfold pushArg at pushed
  split at pushed
  · cases pushed
    exact ⟨_, rfl, rfl⟩
  · rename_i other
    exact absurd pushed (other argv)

/-- How a text is formatted without arguments, when that goes through. -/
inductive Formats : (c curarg : Bytes) → (touched : Bool) → (argv : List Bytes) → Prop where
  | last {curarg : Bytes} : Formats [] curarg true [curarg]
  | nothing {curarg : Bytes} : Formats [] curarg false []
  | word {rest curarg : Bytes} {argv : List Bytes} :
      Formats rest [] false argv → Formats (space :: rest) curarg true (curarg :: argv)
  | skip {rest curarg : Bytes} {argv : List Bytes} :
      Formats rest curarg false argv → Formats (space :: rest) curarg false argv
  | letter {byte : UInt8} {rest curarg : Bytes} {touched : Bool} {argv : List Bytes} :
      byte ≠ space → (byte ≠ percent ∨ rest = []) → Formats rest (curarg ++ [byte]) true argv →
        Formats (byte :: rest) curarg touched argv
  | directive {rest curarg : Bytes} {touched : Bool} {argv : List Bytes} :
      Formats rest (curarg ++ [percent]) true argv →
        Formats (percent :: percent :: rest) curarg touched argv

theorem formats_of_formatFrom {c curarg : Bytes} {touched : Bool} {argv : List Bytes}
    (formatted : formatFrom c [] curarg touched = .ok (some argv)) :
    Formats c curarg touched argv := by
  -- Induction on the length: a directive takes two bytes.
  induction size : c.length using Nat.strong_induction_on generalizing c curarg touched argv with
  | _ size inductionHypothesis =>
      subst size
      cases c with
      | nil =>
          rw [formatFrom, Except.ok.injEq, Option.some.injEq] at formatted
          subst formatted
          cases touched with
          | true => exact .last
          | false => exact .nothing
      | cons byte rest =>
          have shorter : rest.length < (byte :: rest).length := Nat.lt_succ_self _
          rw [formatFrom_cons] at formatted
          split at formatted
          · rename_i literal
            split at formatted
            · rename_i spaced
              subst spaced
              split at formatted
              · rename_i begun
                obtain ⟨argv, onward, rfl⟩ := pushArg_some formatted
                rw [begun]
                exact .word (inductionHypothesis _ shorter onward rfl)
              · rename_i fresh
                rw [Bool.not_eq_true] at fresh
                subst fresh
                exact .skip (inductionHypothesis _ shorter formatted rfl)
            · rename_i unspaced
              exact .letter unspaced literal (inductionHypothesis _ shorter formatted rfl)
          · rename_i directive
            rw [not_or, Decidable.not_not] at directive
            obtain ⟨rfl, more⟩ := directive
            cases rest with
            | nil => exact absurd rfl more
            | cons letter rest =>
                simp only at formatted
                split at formatted
                · cases formatted
                · split at formatted
                  · cases formatted
                  · split at formatted
                    · rename_i doubled
                      subst doubled
                      exact .directive (inductionHypothesis rest.length
                        (Nat.lt_of_succ_lt shorter) formatted rfl)
                    · split at formatted
                      · cases formatted
                      · cases formatted

/-- The words that the formatter makes have no spaces. -/
theorem Formats.unspaced {c curarg : Bytes} {touched : Bool} {argv : List Bytes}
    (formats : Formats c curarg touched argv) (clear : space ∉ curarg) :
    ∀ word ∈ argv, space ∉ word := by
  induction formats with
  | last => simpa using clear
  | nothing => simp
  | word _ inductionHypothesis =>
      intro word member
      rcases List.mem_cons.mp member with rfl | later
      · exact clear
      · exact inductionHypothesis (by simp) word later
  | skip _ inductionHypothesis => exact inductionHypothesis clear
  | letter unspaced _ _ inductionHypothesis =>
      refine inductionHypothesis ?_
      simp only [List.mem_append, List.mem_singleton, not_or]
      exact ⟨clear, fun same => unspaced same.symm⟩
  | directive _ inductionHypothesis =>
      refine inductionHypothesis ?_
      simp only [List.mem_append, List.mem_singleton, not_or]
      exact ⟨clear, by decide⟩

/-- The formatter makes as many words as there are, and each directive makes them shorter. `wide`
is what is read of the current word. -/
theorem Formats.collapses {c curarg : Bytes} {touched : Bool} {argv : List Bytes}
    (formats : Formats c curarg touched argv) {wide : Bytes} (begun : touched = false → wide = []) :
    argv.length = (wordsFrom space c wide touched).length ∧
      argv.flatten.length + wide.length + (if percent ∈ c.dropLast then 1 else 0)
        ≤ (wordsFrom space c wide touched).flatten.length + curarg.length := by
  induction formats generalizing wide with
  | last => simp [wordsFrom, Nat.add_comm]
  | nothing => simp [wordsFrom, begun rfl]
  | @word rest curarg argv _ inductionHypothesis =>
      obtain ⟨count, size⟩ := @inductionHypothesis [] (fun _ => rfl)
      rw [wordsFrom, if_pos rfl, if_pos rfl]
      by_cases last : rest = []
      · subst last
        simp only [List.length_cons, List.flatten_cons, List.length_append] at count size ⊢
        simp at size ⊢
        omega
      · rw [List.dropLast_cons_of_ne_nil last]
        simp only [List.length_cons, List.flatten_cons, List.length_append, List.length_nil,
          List.mem_cons, show percent ≠ space from by decide, false_or] at count size ⊢
        omega
  | @skip rest curarg argv _ inductionHypothesis =>
      obtain ⟨count, size⟩ := inductionHypothesis begun
      rw [wordsFrom, if_pos rfl, if_neg (by simp)]
      by_cases last : rest = []
      · subst last
        exact ⟨count, by simpa using size⟩
      · rw [List.dropLast_cons_of_ne_nil last]
        simp only [List.mem_cons, show percent ≠ space from by decide, false_or]
        exact ⟨count, size⟩
  | @letter byte rest curarg touched argv unspaced literal _ inductionHypothesis =>
      obtain ⟨count, size⟩ := @inductionHypothesis (wide ++ [byte]) (by simp)
      rw [wordsFrom, if_neg unspaced]
      refine ⟨count, ?_⟩
      simp only [List.length_append, List.length_singleton] at size
      rcases literal with plain | last
      · by_cases last : rest = []
        · subst last
          simp at size ⊢
          omega
        · rw [List.dropLast_cons_of_ne_nil last]
          simp only [List.mem_cons, Ne.symm plain, false_or]
          omega
      · subst last
        simp at size ⊢
        omega
  | @directive rest curarg touched argv _ inductionHypothesis =>
      obtain ⟨count, size⟩ := @inductionHypothesis (wide ++ [percent] ++ [percent]) (by simp)
      have unspaced : percent ≠ space := by decide
      rw [wordsFrom, if_neg unspaced, wordsFrom, if_neg unspaced]
      refine ⟨count, ?_⟩
      simp only [List.length_append, List.length_singleton] at size
      split <;> split at size <;> omega

/-! ### What the reads return -/

theorem cStr_eq {text : Bytes} (noZero : 0 ∉ text) : cStr text = text :=
  takeWhile_bne_eq noZero

/-- `get` returns what the key holds; no text when it holds no string. -/
theorem get_eq (cache : Cache) {key : Bytes} (noZero : 0 ∉ key) :
    get cache key = .ok ((cache.str key).getD []) := by
  have formatted : formatFrom (getCommand ++ [space, percent, 115]) [key] [] false
      = .ok (some [getCommand, key]) := rfl
  rw [get, redisCommand, cStr_eq noZero, formatted]
  simp only [Cache.answer, if_true, Cache.get, Cache.str]
  cases cache key with
  | none => rfl
  | some value => cases value <;> rfl

theorem formatFrom_mget (strKey : Bytes) :
    formatFrom (mgetCommand ++ [space] ++ strKey) [] [] false
      = pushArg mgetCommand (formatFrom strKey [] [] false) := by
  simp only [mgetCommand, List.cons_append, List.nil_append]
  rw [formatFrom_letter (by decide) (by decide), formatFrom_letter (by decide) (by decide),
    formatFrom_letter (by decide) (by decide), formatFrom_letter (by decide) (by decide)]
  exact formatFrom_space _ _ _

theorem mget_eq (cache : Cache) {keys : List Bytes} (proper : Proper keys) (ret : StringMap) :
    mget cache keys ret =
      match formatFrom (joinWords space keys) [] [] false with
      | .error fault => .error fault
      | .ok none => .ok (false, ret)
      | .ok (some words) =>
          (storeFrom keys 0 (words.map cache.str) ret).map fun ret => (true, ret) := by
  have written : joinWords space keys ≠ [] := joinWords_ne_nil proper.some proper.occupied
  have noZero : 0 ∉ mgetCommand ++ [space] ++ joinWords space keys := by
    intro member
    rcases List.mem_append.mp member with front | back
    · exact absurd front (by decide)
    · rcases mem_joinWords back with spaced | ⟨key, among, inside⟩
      · exact absurd spaced (by decide)
      · exact proper.noZero key among inside
  unfold mget
  rw [if_neg (by simp [proper.some, written]), cStr_eq noZero, redisCommand, formatFrom_mget]
  cases formatFrom (joinWords space keys) [] [] false with
  | error fault => rfl
  | ok formatted =>
      cases formatted with
      | none => rfl
      | some words =>
          have other : mgetCommand ≠ getCommand := by decide
          cases words with
          | nil => simp [pushArg, Cache.answer, other, storeFrom, Except.map]
          | cons word words => simp [pushArg, Cache.answer, other]

section Store

variable {keys : List Bytes}

/-- An entry of the map stays in it. -/
theorem storeFrom_keeps {elements : List (Option Bytes)} {i : Nat} {ret after : StringMap}
    (stored : storeFrom keys i elements ret = .ok after) {key : Bytes}
    (present : (ret key).isSome = true) : (after key).isSome = true := by
  induction elements generalizing i ret with
  | nil =>
      rw [storeFrom, Except.ok.injEq] at stored
      exact stored ▸ present
  | cons element elements inductionHypothesis =>
      cases element with
      | none => exact inductionHypothesis stored present
      | some str =>
          rw [storeFrom] at stored
          split at stored
          · cases stored
          · rename_i named _
            refine inductionHypothesis stored ?_
            by_cases same : key = named
            · rw [same, Function.update_self]
              rfl
            · rwa [Function.update_of_ne same]

/-- Each string of the reply is put in the map, under the key at its position. -/
theorem storeFrom_puts {elements : List (Option Bytes)} {i : Nat} {ret after : StringMap}
    (stored : storeFrom keys i elements ret = .ok after) {position : Nat} {str key : Bytes}
    (element : elements[position]? = some (some str)) (named : keys[i + position]? = some key) :
    (after key).isSome = true := by
  induction elements generalizing i ret position with
  | nil => simp at element
  | cons head elements inductionHypothesis =>
      cases position with
      | zero =>
          rw [List.getElem?_cons_zero, Option.some.injEq] at element
          subst element
          rw [storeFrom, show keys[i]? = some key from named] at stored
          refine storeFrom_keeps stored ?_
          rw [Function.update_self]
          rfl
      | succ position =>
          rw [List.getElem?_cons_succ] at element
          have behind : keys[i + 1 + position]? = some key := by
            rwa [Nat.add_right_comm, Nat.add_assoc]
          cases head with
          | none => exact inductionHypothesis stored element behind
          | some other =>
              rw [storeFrom] at stored
              split at stored
              · cases stored
              · exact inductionHypothesis stored element behind

theorem storeFrom_none {elements : List (Option Bytes)}
    (absent : ∀ element ∈ elements, element = none) (i : Nat) (ret : StringMap) :
    storeFrom keys i elements ret = .ok ret := by
  induction elements generalizing i with
  | nil => rfl
  | cons element elements inductionHypothesis =>
      rw [absent element (by simp), storeFrom]
      exact inductionHypothesis (fun element member => absent element (by simp [member])) _

/-- When the words are the keys, each listed key with a string is put in the map. -/
theorem storeFrom_keys (cache : Cache) {rest : List Bytes} {i : Nat} (here : keys.drop i = rest)
    (ret : StringMap) :
    ∃ after, storeFrom keys i (rest.map cache.str) ret = .ok after ∧
      ∀ key, after key = if key ∈ rest ∧ (cache.str key).isSome = true
        then (cache.str key).map cStr else ret key := by
  induction rest generalizing i ret with
  | nil => exact ⟨ret, rfl, fun key => by simp⟩
  | cons head rest inductionHypothesis =>
      have behind : keys.drop (i + 1) = rest := by
        rw [← List.drop_drop, here]
        rfl
      have named : keys[i]? = some head := by
        rw [← List.head?_drop, here]
        rfl
      cases held : cache.str head with
      | none =>
          obtain ⟨after, stored, entries⟩ := inductionHypothesis behind ret
          refine ⟨after, by rw [List.map_cons, held]; exact stored, fun key => ?_⟩
          rw [entries key]
          by_cases same : key = head
          · simp [same, held]
          · simp [same]
      | some str =>
          obtain ⟨after, stored, entries⟩ :=
            inductionHypothesis behind (Function.update ret head (some (cStr str)))
          refine ⟨after, by rw [List.map_cons, held, storeFrom, named]; exact stored, fun key => ?_⟩
          rw [entries key]
          by_cases same : key = head
          · subst same
            simp [held]
          · simp [same]

end Store

/-! ### When the reads agree -/

theorem zero_not_mem_cStr (text : Bytes) : 0 ∉ cStr text :=
  not_mem_takeWhile_bne 0 text

/-- For keys that are taken literally, the reads agree exactly when the keys hold text. -/
theorem agrees_iff_holdsText {keys : List Bytes} (proper : Proper keys)
    (literal : TakenLiterally keys) (cache : Cache) :
    Agrees cache keys ↔ HoldsText cache keys := by
  have words : wordsFrom space (joinWords space keys) [] false = keys :=
    wordsFrom_joinWords fun key member => ⟨proper.occupied key member, literal.unspaced key member⟩
  obtain ⟨after, stored, entries⟩ := @storeFrom_keys keys cache keys 0 rfl (fun _ => none)
  have run : mget cache keys (fun _ => none) = .ok (true, after) := by
    rw [mget_eq cache proper, formatFrom_literal literal.undirected, words]
    simp only [stored, Except.map]
  constructor
  · rintro ⟨found, ret, also, listed, _⟩ key member value held
    obtain ⟨_, rfl⟩ : found = true ∧ ret = after := by
      rw [run] at also
      cases also
      exact ⟨rfl, rfl⟩
    obtain ⟨text, read, entry⟩ := listed key member (by simp [held])
    rw [get_eq cache (proper.noZero key member), Except.ok.injEq] at read
    rw [entries key] at entry
    cases value with
    | other =>
        have absent : cache.str key = none := by simp [Cache.str, held]
        simp [absent] at entry
    | string str =>
        have present : cache.str key = some str := by simp [Cache.str, held]
        rw [present, Option.getD_some] at read
        rw [present, if_pos ⟨member, rfl⟩, Option.map_some, Option.some.injEq] at entry
        refine ⟨str, rfl, ?_⟩
        rw [read, ← entry]
        exact zero_not_mem_cStr str
  · intro holds
    refine ⟨true, after, run, fun key member exist => ?_, fun key other => ?_⟩
    · obtain ⟨value, held⟩ := Option.ne_none_iff_exists'.mp exist
      obtain ⟨str, rfl, noZero⟩ := holds key member value held
      have present : cache.str key = some str := by simp [Cache.str, held]
      refine ⟨str, ?_, ?_⟩
      · rw [get_eq cache (proper.noZero key member), present, Option.getD_some]
      · rw [entries key, present, if_pos ⟨member, rfl⟩, Option.map_some, cStr_eq noZero]
    · rw [entries key]
      refine if_neg fun listed => other ⟨listed.1, fun missing => ?_⟩
      simp [Cache.str, missing] at listed

/-- A cache in which one key exists. -/
def holding (key : Bytes) : Cache :=
  fun other => if other = key then some (.string [49]) else none

theorem holding_self (key : Bytes) : (holding key).str key = some [49] := by
  simp [Cache.str, holding]

theorem holding_other {key other : Bytes} (different : other ≠ key) :
    (holding key).str other = none := by
  simp [Cache.str, holding, different]

theorem holdsText_holding (key : Bytes) (keys : List Bytes) : HoldsText (holding key) keys := by
  intro other _ value held
  unfold holding at held
  split at held
  · cases held
    exact ⟨[49], rfl, by decide⟩
  · cases held

/-- A listed key that exists and is not put in the map. -/
theorem not_agrees_of_missing {cache : Cache} {keys : List Bytes} {found : Bool} {ret : StringMap}
    (run : mget cache keys (fun _ => none) = .ok (found, ret)) {key : Bytes} (member : key ∈ keys)
    (exist : cache key ≠ none) (missing : ret key = none) : ¬Agrees cache keys := by
  rintro ⟨_, _, also, listed, _⟩
  rw [run] at also
  cases also
  obtain ⟨_, _, entry⟩ := listed key member exist
  rw [missing] at entry
  cases entry

/-- A word that is not the key at its position. -/
theorem not_agrees_of_word {keys words : List Bytes} (proper : Proper keys)
    (formatted : formatFrom (joinWords space keys) [] [] false = .ok (some words)) {position : Nat}
    {word key : Bytes} (written : words[position]? = some word)
    (named : keys[position]? = some key) (different : key ≠ word) :
    ¬Agrees (holding word) keys := by
  rintro ⟨found, ret, run, _, others⟩
  rw [mget_eq _ proper, formatted] at run
  simp only at run
  cases stored : storeFrom keys 0 (words.map (holding word).str) (fun _ => none) with
  | error fault =>
      rw [stored] at run
      cases run
  | ok after =>
      rw [stored] at run
      cases run
      have element : (words.map (holding word).str)[position]? = some (some [49]) := by
        rw [List.getElem?_map, written, Option.map_some, holding_self]
      have present := storeFrom_puts stored element (by rwa [Nat.zero_add])
      have absent := others key fun listed => listed.2 (by simp [holding, different])
      rw [absent] at present
      cases present

/-- A key with a space is none of the words. -/
theorem not_agrees_of_space {keys words : List Bytes} (proper : Proper keys)
    (formatted : formatFrom (joinWords space keys) [] [] false = .ok (some words)) {key : Bytes}
    (member : key ∈ keys) (inside : space ∈ key) : ¬Agrees (holding key) keys := by
  have unspaced := (formats_of_formatFrom formatted).unspaced (by simp)
  have absent : ∀ element ∈ words.map (holding key).str, element = none := by
    intro element read
    obtain ⟨word, written, rfl⟩ := List.mem_map.mp read
    exact holding_other fun same => unspaced word written (same ▸ inside)
  have run : mget (holding key) keys (fun _ => none) = .ok (true, fun _ => none) := by
    rw [mget_eq _ proper, formatted]
    simp only [storeFrom_none absent, Except.map]
  exact not_agrees_of_missing run member (by simp [holding]) rfl

/-- A directive before the end of the text makes one of the words another than its key. -/
theorem exists_other_word {keys words : List Bytes} (proper : Proper keys)
    (unspaced : ∀ key ∈ keys, space ∉ key)
    (directive : percent ∈ (joinWords space keys).dropLast)
    (formatted : formatFrom (joinWords space keys) [] [] false = .ok (some words)) :
    ∃ (position : Nat) (word key : Bytes), words[position]? = some word ∧
      keys[position]? = some key ∧ key ≠ word := by
  have formats := formats_of_formatFrom formatted
  obtain ⟨count, size⟩ := @Formats.collapses _ _ _ _ formats [] fun _ => rfl
  rw [wordsFrom_joinWords fun key among => ⟨proper.occupied key among, unspaced key among⟩]
    at count size
  have other : words ≠ keys := by
    rintro rfl
    rw [if_pos directive] at size
    omega
  obtain ⟨position, differs⟩ : ∃ position : Nat, words[position]? ≠ keys[position]? := by
    by_contra same
    push Not at same
    exact other (List.ext_getElem? same)
  have inside : position < keys.length := by
    by_contra outside
    rw [List.getElem?_eq_none (by omega), List.getElem?_eq_none (by omega)] at differs
    exact differs rfl
  have written := List.getElem?_eq_getElem (show position < words.length by omega)
  have named := List.getElem?_eq_getElem inside
  refine ⟨position, words[position], keys[position], written, named, fun same => differs ?_⟩
  rw [written, named, same]

/-- Keys that are not taken literally are misread in some cache that holds text. -/
theorem exists_not_agrees {keys : List Bytes} (proper : Proper keys)
    (misread : ¬TakenLiterally keys) : ∃ cache, HoldsText cache keys ∧ ¬Agrees cache keys := by
  obtain ⟨head, rest, rfl⟩ := List.exists_cons_of_ne_nil proper.some
  generalize list : head :: rest = keys at *
  have member : head ∈ keys := list ▸ List.mem_cons_self
  cases formatted : formatFrom (joinWords space keys) [] [] false with
  | error fault =>
      refine ⟨holding head, holdsText_holding _ _, ?_⟩
      rintro ⟨_, _, run, _⟩
      rw [mget_eq _ proper, formatted] at run
      cases run
  | ok result =>
      cases result with
      | none =>
          -- A format error: nothing is read.
          refine ⟨holding head, holdsText_holding _ _, ?_⟩
          have run : mget (holding head) keys (fun _ => none) = .ok (false, fun _ => none) := by
            rw [mget_eq _ proper, formatted]
          exact not_agrees_of_missing run member (by simp [holding]) rfl
      | some words =>
          by_cases spaced : ∃ key ∈ keys, space ∈ key
          · obtain ⟨key, among, inside⟩ := spaced
            exact ⟨holding key, holdsText_holding _ _,
              not_agrees_of_space proper formatted among inside⟩
          · have unspaced : ∀ key ∈ keys, space ∉ key := fun key among inside =>
              spaced ⟨key, among, inside⟩
            have directive : percent ∈ (joinWords space keys).dropLast := by
              by_contra plain
              exact misread ⟨unspaced, plain⟩
            obtain ⟨position, word, key, written, named, different⟩ :=
              exists_other_word proper unspaced directive formatted
            exact ⟨holding word, holdsText_holding _ _,
              not_agrees_of_word proper formatted written named different⟩

/-- `mget` agrees with `get` on every cache whose listed keys hold text exactly when the keys are
taken literally; for such keys, it agrees on exactly those caches. -/
theorem mget_agrees (keys : List Bytes) (proper : Proper keys) :
    ((∀ cache, HoldsText cache keys → Agrees cache keys) ↔ TakenLiterally keys) ∧
      (TakenLiterally keys → ∀ cache, (Agrees cache keys ↔ HoldsText cache keys)) := by
  have agreement : TakenLiterally keys → ∀ cache, (Agrees cache keys ↔ HoldsText cache keys) :=
    agrees_iff_holdsText proper
  refine ⟨⟨fun agrees => ?_, fun literal cache => (agreement literal cache).mpr⟩, agreement⟩
  by_contra misread
  obtain ⟨cache, holds, disagrees⟩ := exists_not_agrees proper misread
  exact disagrees (agrees cache holds)

/-- Two keys, the second of which is missing. -/
theorem mget_agrees_twoKeys : Agrees (holding [97]) [[97], [98]] := by
  have proper : Proper [[97], [98]] := ⟨by decide, by decide, by decide⟩
  exact ((mget_agrees [[97], [98]] proper).2 ⟨by decide, by decide⟩ _).mpr (holdsText_holding _ _)

/-- A key with a space, `a b`, that does not exist, in a cache that holds `a`. -/
theorem mget_agrees_spacedKey : ¬Agrees (holding [97]) [[97, 32, 98]] := by
  have proper : Proper [[97, 32, 98]] := ⟨by decide, by decide, by decide⟩
  have formatted : formatFrom (joinWords space [[97, 32, 98]]) [] [] false
      = .ok (some [[97], [98]]) := rfl
  exact @not_agrees_of_word _ _ proper formatted 0 _ _ rfl rfl (by decide)

end AChat.DbProxy.MultiGet
