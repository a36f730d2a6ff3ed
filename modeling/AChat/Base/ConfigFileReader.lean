import Mathlib.Data.List.DropRight
import Std.Data.ExtTreeMap
import AChat.Lib.CString
import AChat.Lib.ReadLines

/-!
Contract: which configuration maps come back when they are written and loaded again.

A line is written through a buffer of 128 bytes. An entry that does not fit is cut, and with the
newline the end of the line is lost: what follows in the file becomes part of its value, or of
its key.

Owns: the loading and the writing, what holds of the entries of every reader, and the maps that
come back.
-/

namespace AChat.Base.ConfigFileReader

open Lib Std

/-! ### The reader -/

inductive Fault where
  /-- A read in front of the buffer. -/
  | outside
deriving DecidableEq, Repr

/-- `configMap`. A `string` is compared by its bytes. -/
abbrev ConfigMap := ExtTreeMap Bytes Bytes

structure Reader where
  loadSucc : Bool
  configMap : ConfigMap

/-- What `c_str` points at. -/
def cStr (string : Bytes) : Bytes :=
  (CString.ofArray string).bytes

/-- A space or a tab. -/
def isBlank (c : UInt8) : Bool :=
  c == 32 || c == 9

/-- `trimSpace`, with `none` for `NULL`. -/
def trimSpace (name : Bytes) : Option Bytes :=
  let start := name.dropWhile isBlank
  if start = [] then none
  else
    let kept := start.rdropWhile isBlank
    if kept = [] then none else some kept

/-- The key and the value that `parseLine` takes from a line. -/
def entryOf (line : Bytes) : Option (Bytes × Bytes) :=
  if line.contains 61 then
    match trimSpace (line.takeWhile (· != 61)), trimSpace (line.dropWhile (· != 61)).tail with
    | some key, some value => some (key, value)
    | _, _ => none
  else none

/-- `parseLine`. An entry that is there stays. -/
def parseLine (configMap : ConfigMap) (line : Bytes) : ConfigMap :=
  match entryOf line with
  | some (key, value) => configMap.insertIfNew key value
  | none => configMap

/-- The buffer without the newline and without a comment. The last character is read in front of
the buffer where the line begins with a zero. -/
def lineOf (buf : Bytes) : Except Fault Bytes :=
  match (cStr buf).getLast? with
  | none => .error .outside
  | some last =>
      .ok ((if last = 10 then (cStr buf).dropLast else cStr buf).takeWhile (· != 35))

/-- The loop of `loadFile`, for one line. -/
def loadLine (configMap : ConfigMap) (buf : Bytes) : Except Fault ConfigMap := do
  let line ← lineOf buf
  if line = [] then return configMap else return parseLine configMap line

/-- `loadFile`, for a file that does not open or for its content. -/
def loadFile : Option Bytes → Except Fault Reader
  | none => .ok { loadSucc := false, configMap := ∅ }
  | some content => do
      let configMap ← (readLines 10 255 content).foldlM loadLine ∅
      return { loadSucc := true, configMap := configMap }

/-- Whether the file opens for writing, and which calls of `fwrite` go through. -/
structure Device where
  opens : Bool
  accepts : Nat → Bool

/-- The number of items that `fwrite` writes, of one. -/
def Device.fwrite (device : Device) (idx : Nat) (item : Bytes) : Nat :=
  if item ≠ [] ∧ device.accepts idx = true then 1 else 0

/-- What `snprintf` leaves in `szPaire`. -/
def szPaire (key value : Bytes) : Bytes :=
  (cStr key ++ [61] ++ cStr value ++ [10]).take 127

/-- The loop of `writeFile`: what is written, nothing when a write fails. -/
def writeEntries (device : Device) : Nat → List (Bytes × Bytes) → Option Bytes
  | _, [] => some []
  | idx, (key, value) :: entries =>
      if device.fwrite idx (szPaire key value) = 1 then
        (writeEntries device (idx + 1) entries).map (szPaire key value ++ ·)
      else none

/-- `writeFile`: the content of the file, and `none` for the result -1. -/
def writeFile (device : Device) (configMap : ConfigMap) : Option Bytes :=
  if device.opens then writeEntries device 0 configMap.toList else none

/-- `setConfigValue`: the reader, and what is written. -/
def setConfigValue (device : Device) (reader : Reader) (name value : CString) :
    Reader × Option Bytes :=
  if reader.loadSucc then
    let configMap :=
      match reader.configMap[name.bytes]? with
      | some _ => reader.configMap.insert name.bytes value.bytes
      | none => reader.configMap.insertIfNew name.bytes value.bytes
    ({ reader with configMap := configMap }, writeFile device configMap)
  else (reader, none)

/-! ### The readers that are named -/

/-- Not empty, without newline and comment, and without a blank at either end. -/
structure Plain (text : Bytes) : Prop where
  occupied : text ≠ []
  newline : 10 ∉ text
  comment : 35 ∉ text
  begins : ∀ c ∈ text.head?, isBlank c = false
  ends : ∀ c ∈ text.getLast?, isBlank c = false

/-- The arguments of a call. -/
structure Setting where
  name : CString
  value : CString
  plainName : Plain name.bytes
  plainValue : Plain value.bytes
  separator : 61 ∉ name.bytes

/-- The file is loaded, and values are set. -/
inductive Reachable : Reader → Prop where
  | load {file : Option Bytes} {reader : Reader} (loaded : loadFile file = .ok reader) :
      Reachable reader
  | set {reader : Reader} (reachable : Reachable reader) (device : Device) (setting : Setting) :
      Reachable (setConfigValue device reader setting.name setting.value).1

/-- What is written is loaded as the same map. -/
def RoundTrips (reader : Reader) : Prop :=
  ∀ device content, writeFile device reader.configMap = some content →
    ∃ again, loadFile (some content) = .ok again ∧ again.configMap = reader.configMap

/-- The characters of an entry, without the separator. -/
def size (entry : Bytes × Bytes) : Nat :=
  entry.1.length + entry.2.length

/-- An entry has 125 characters at most, and the one with the last key 126. -/
structure Fits (configMap : ConfigMap) : Prop where
  inner : ∀ entry ∈ configMap.toList.dropLast, size entry ≤ 125
  last : ∀ entry ∈ configMap.toList.getLast?, size entry ≤ 126

/-! ### Texts -/

variable {text name line key value rest : Bytes}

theorem cStr_eq (noZero : 0 ∉ text) : cStr text = text := by
  unfold cStr
  rw [CString.ofArray_eq noZero]

theorem prefix_cStr (text : Bytes) : cStr text <+: text :=
  List.takeWhile_prefix _

theorem trimSpace_eq (plain : Plain text) : trimSpace text = some text := by
  have start : text.dropWhile isBlank = text := by
    cases text with
    | nil => rfl
    | cons c text => simp [plain.begins c rfl]
  have kept : text.rdropWhile isBlank = text := by
    refine List.rdropWhile_eq_self_iff.mpr fun occupied => ?_
    simp [plain.ends _ (List.getLast?_eq_some_getLast occupied)]
  unfold trimSpace
  rw [start]
  simp [plain.occupied, kept]

/-- What a trimmed text is: a part of the text, not empty, with no blank at either end. -/
theorem trimSpace_eq_some (trimmed : trimSpace name = some text) :
    text ≠ [] ∧ text.Sublist name ∧ (∀ c ∈ text.head?, isBlank c = false) ∧
      ∀ c ∈ text.getLast?, isBlank c = false := by
  unfold trimSpace at trimmed
  dsimp only at trimmed
  split at trimmed
  · cases trimmed
  · split at trimmed
    · cases trimmed
    · rename_i occupied
      obtain rfl := Option.some.inj trimmed
      have isPrefix := List.rdropWhile_prefix isBlank (name.dropWhile isBlank)
      refine ⟨occupied, isPrefix.sublist.trans (List.dropWhile_sublist _), ?_, ?_⟩
      · intro c isHead
        obtain ⟨more, whole⟩ := isPrefix
        have first := List.head?_dropWhile_not isBlank name
        rw [← whole, List.head?_append_of_ne_nil _ occupied, Option.mem_def.mp isHead] at first
        simpa using first
      · intro c isLast
        have last := List.rdropWhile_last_not isBlank _ occupied
        rw [List.getLast?_eq_some_getLast occupied] at isLast
        obtain rfl := Option.some.inj isLast
        simpa using last

/-- The line of an entry is split at its first separator. -/
theorem entryOf_eq (plain : Plain key) (separator : 61 ∉ key) (rest : Bytes) :
    entryOf (key ++ 61 :: rest) = (trimSpace rest).map (key, ·) := by
  have inKey := bne_of_not_mem separator
  have before : (key ++ 61 :: rest).takeWhile (· != 61) = key := by
    rw [List.takeWhile_append_of_pos inKey, List.takeWhile_cons_of_neg (by decide),
      List.append_nil]
  have behind : (key ++ 61 :: rest).dropWhile (· != 61) = 61 :: rest := by
    rw [List.dropWhile_append_of_pos inKey, List.dropWhile_cons_of_neg (by decide)]
  have found : (key ++ 61 :: rest).contains 61 = true := by
    rw [List.contains_iff_mem]
    exact List.mem_append_right _ List.mem_cons_self
  unfold entryOf
  rw [if_pos found, before, behind, trimSpace_eq plain, List.tail_cons]
  cases trimSpace rest <;> rfl

theorem entryOf_eq_none (separator : 61 ∉ line) : entryOf line = none := by
  unfold entryOf
  rw [if_neg (by rwa [List.contains_iff_mem])]

/-- What holds of an entry: its texts are as the calls have to give them. -/
structure WellFormed (key value : Bytes) : Prop where
  plainKey : Plain key
  plainValue : Plain value
  separator : 61 ∉ key
  zeroKey : 0 ∉ key
  zeroValue : 0 ∉ value

/-- The entry of a line without zero, newline and comment is well formed. -/
theorem wellFormed_of_entryOf (zero : 0 ∉ line) (newline : 10 ∉ line) (comment : 35 ∉ line)
    (found : entryOf line = some (key, value)) : WellFormed key value := by
  unfold entryOf at found
  split at found
  · split at found
    · rename_i left right isKey isValue
      cases found
      obtain ⟨keyOccupied, keySub, keyBegins, keyEnds⟩ := trimSpace_eq_some isKey
      obtain ⟨valueOccupied, valueSub, valueBegins, valueEnds⟩ := trimSpace_eq_some isValue
      have separator := not_mem_takeWhile_bne 61 line
      have keyLine := keySub.trans (List.takeWhile_sublist _)
      have valueLine := valueSub.trans ((List.tail_sublist _).trans (List.dropWhile_sublist _))
      exact
        { plainKey := ⟨keyOccupied, fun member => newline (keyLine.subset member),
            fun member => comment (keyLine.subset member), keyBegins, keyEnds⟩
          plainValue := ⟨valueOccupied, fun member => newline (valueLine.subset member),
            fun member => comment (valueLine.subset member), valueBegins, valueEnds⟩
          separator := fun member => separator (keySub.subset member)
          zeroKey := fun member => zero (keyLine.subset member)
          zeroValue := fun member => zero (valueLine.subset member) }
    · cases found
  · cases found

/-- What is left of a line of the file holds no zero, no newline and no comment. -/
theorem clear_of_lineOf {buf : Bytes} (inner : 10 ∉ buf.dropLast)
    (isLine : lineOf buf = .ok line) : 0 ∉ line ∧ 10 ∉ line ∧ 35 ∉ line := by
  have innerText : 10 ∉ (cStr buf).dropLast := by
    exact fun member => inner ((prefix_dropLast (prefix_cStr buf)).subset member)
  unfold lineOf at isLine
  split at isLine
  · cases isLine
  · rename_i last isLast
    obtain rfl := Except.ok.inj isLine
    have part : ((if last = 10 then (cStr buf).dropLast else cStr buf).takeWhile
        (· != 35)).Sublist (if last = 10 then (cStr buf).dropLast else cStr buf) :=
      List.takeWhile_sublist _
    have text : (if last = 10 then (cStr buf).dropLast else cStr buf).Sublist (cStr buf) := by
      split
      · exact List.dropLast_sublist _
      · exact List.Sublist.refl _
    refine ⟨fun member => ?_, fun member => ?_, fun member => ?_⟩
    · exact (CString.ofArray buf).noZero (text.subset (part.subset member))
    · have atEnd := part.subset member
      split at atEnd
      · exact innerText atEnd
      · rename_i other
        rw [← List.dropLast_append_getLast? last isLast] at atEnd
        rcases List.mem_append.mp atEnd with inside | isLast
        · exact innerText inside
        · exact other (List.mem_singleton.mp isLast).symm
    · exact not_mem_takeWhile_bne 35 _ member

/-! ### The entries of a reader -/

variable {configMap : ConfigMap} {reader : Reader}

/-- Every entry is well formed. -/
def Sound (configMap : ConfigMap) : Prop :=
  ∀ key value, configMap[key]? = some value → WellFormed key value

theorem getElem?_insertIfNew (configMap : ConfigMap) (key value other : Bytes) :
    (configMap.insertIfNew key value)[other]? =
      if key = other ∧ configMap[key]? = none then some value else configMap[other]? := by
  rw [ExtTreeMap.getElem?_insertIfNew]
  simp only [LawfulEqCmp.compare_eq_iff_eq, ExtTreeMap.mem_iff_isSome_getElem?,
    Bool.not_eq_true, Option.isSome_eq_false_iff, Option.isNone_iff_eq_none]

theorem getElem?_insert (configMap : ConfigMap) (key value other : Bytes) :
    (configMap.insert key value)[other]? =
      if key = other then some value else configMap[other]? := by
  rw [ExtTreeMap.getElem?_insert]
  simp only [LawfulEqCmp.compare_eq_iff_eq]

theorem sound_empty : Sound ∅ := by
  intro key value found
  rw [ExtTreeMap.getElem?_empty] at found
  cases found

theorem Sound.insertIfNew (sound : Sound configMap) (wellFormed : WellFormed key value) :
    Sound (configMap.insertIfNew key value) := by
  intro other held found
  rw [getElem?_insertIfNew] at found
  split at found
  · rename_i new
    obtain ⟨rfl, -⟩ := new
    cases found
    exact wellFormed
  · exact sound other held found

theorem Sound.insert (sound : Sound configMap) (wellFormed : WellFormed key value) :
    Sound (configMap.insert key value) := by
  intro other held found
  rw [getElem?_insert] at found
  split at found
  · rename_i same
    cases same
    cases found
    exact wellFormed
  · exact sound other held found

/-- One line of a file keeps the entries well formed. -/
theorem sound_loadLine (sound : Sound configMap) {buf : Bytes} (inner : 10 ∉ buf.dropLast)
    {after : ConfigMap} (loaded : loadLine configMap buf = .ok after) : Sound after := by
  unfold loadLine at loaded
  cases isLine : lineOf buf with
  | error fault =>
      rw [isLine] at loaded
      cases loaded
  | ok line =>
      obtain ⟨zero, newline, comment⟩ := clear_of_lineOf inner isLine
      rw [isLine] at loaded
      simp only [bind, Except.bind] at loaded
      split at loaded
      · cases loaded
        exact sound
      · cases loaded
        unfold parseLine
        split
        · rename_i key value found
          exact sound.insertIfNew (wellFormed_of_entryOf zero newline comment found)
        · exact sound

theorem sound_loadLines (lines : List Bytes) (inner : ∀ line ∈ lines, 10 ∉ line.dropLast)
    {before after : ConfigMap} (sound : Sound before)
    (loaded : lines.foldlM loadLine before = .ok after) : Sound after := by
  induction lines generalizing before with
  | nil =>
      cases loaded
      exact sound
  | cons line lines inductionHypothesis =>
      obtain ⟨first, inner⟩ := List.forall_mem_cons.mp inner
      rw [List.foldlM_cons] at loaded
      cases step : loadLine before line with
      | error fault =>
          rw [step] at loaded
          cases loaded
      | ok next =>
          rw [step] at loaded
          exact inductionHypothesis inner (sound_loadLine sound first step) loaded

/-- A file is loaded with the map that its lines give. -/
theorem loadFile_eq_ok_iff {content : Bytes} :
    loadFile (some content) = .ok reader ↔
      reader.loadSucc = true ∧
        (readLines 10 255 content).foldlM loadLine ∅ = .ok reader.configMap := by
  obtain ⟨loadSucc, configMap⟩ := reader
  show ((readLines 10 255 content).foldlM loadLine ∅ >>= fun configMap =>
    pure (Reader.mk true configMap)) = _ ↔ _
  cases (readLines 10 255 content).foldlM loadLine ∅ with
  | error fault => exact ⟨nofun, fun both => nomatch both.2⟩
  | ok loaded =>
      constructor
      · intro same
        cases same
        exact ⟨rfl, rfl⟩
      · rintro ⟨isTrue, same⟩
        cases isTrue
        cases same
        rfl

theorem sound_loadFile {file : Option Bytes} (loaded : loadFile file = .ok reader) :
    Sound reader.configMap := by
  cases file with
  | none =>
      cases loaded
      exact sound_empty
  | some content =>
      exact sound_loadLines _ (fun line isLine =>
        not_mem_dropLast_of_mem_readLines (by decide) isLine) sound_empty
        (loadFile_eq_ok_iff.mp loaded).2

theorem sound_setConfigValue (sound : Sound reader.configMap) (device : Device)
    (setting : Setting) :
    Sound (setConfigValue device reader setting.name setting.value).1.configMap := by
  have wellFormed : WellFormed setting.name.bytes setting.value.bytes :=
    ⟨setting.plainName, setting.plainValue, setting.separator, setting.name.noZero,
      setting.value.noZero⟩
  unfold setConfigValue
  split
  · dsimp only
    split
    · exact sound.insert wellFormed
    · exact sound.insertIfNew wellFormed
  · exact sound

/-- The entries of every reader are well formed. -/
theorem sound_of_reachable (reachable : Reachable reader) : Sound reader.configMap := by
  induction reachable with
  | load loaded => exact sound_loadFile loaded
  | set _ device setting inductionHypothesis =>
      exact sound_setConfigValue inductionHypothesis device setting

/-! ### The lines of a written file -/

/-- The line of an entry before it is cut. -/
def whole (key value : Bytes) : Bytes :=
  key ++ 61 :: value

theorem szPaire_eq (wellFormed : WellFormed key value) :
    szPaire key value = (whole key value ++ [10]).take 127 := by
  unfold szPaire whole
  rw [cStr_eq wellFormed.zeroKey, cStr_eq wellFormed.zeroValue]
  simp

theorem length_whole (key value : Bytes) : (whole key value).length = size (key, value) + 1 := by
  simp only [whole, size, List.length_append, List.length_cons]
  omega

theorem szPaire_of_size_le (wellFormed : WellFormed key value) (short : size (key, value) ≤ 125) :
    szPaire key value = whole key value ++ [10] := by
  rw [szPaire_eq wellFormed]
  refine List.take_of_length_le ?_
  rw [List.length_append, length_whole, List.length_singleton]
  omega

/-- The newline is cut. -/
theorem szPaire_of_lt_size (wellFormed : WellFormed key value) (long : 125 < size (key, value)) :
    szPaire key value = (whole key value).take 127 := by
  rw [szPaire_eq wellFormed]
  refine List.take_append_of_le_length ?_
  rw [length_whole]
  omega

/-- The line of an entry holds no zero, no newline and no comment. -/
theorem clear_whole (wellFormed : WellFormed key value) :
    0 ∉ whole key value ∧ 10 ∉ whole key value ∧ 35 ∉ whole key value := by
  have absent : ∀ c : UInt8, c ∉ key → c ≠ 61 → c ∉ value → c ∉ whole key value := by
    intro c inKey separator inValue member
    rcases List.mem_append.mp member with member | member
    · exact inKey member
    · rcases List.mem_cons.mp member with same | member
      · exact separator same
      · exact inValue member
  exact ⟨absent 0 wellFormed.zeroKey (by decide) wellFormed.zeroValue,
    absent 10 wellFormed.plainKey.newline (by decide) wellFormed.plainValue.newline,
    absent 35 wellFormed.plainKey.comment (by decide) wellFormed.plainValue.comment⟩

theorem whole_ne_nil (key value : Bytes) : whole key value ≠ [] := by
  simp [whole]

theorem piece_szPaire (wellFormed : WellFormed key value) : Piece 10 127 (szPaire key value) := by
  have isPiece : Piece 10 (size (key, value) + 2) (whole key value ++ [10]) := by
    refine ⟨by simp, ?_, ?_⟩
    · rw [List.length_append, length_whole, List.length_singleton]
    · rw [List.dropLast_concat]
      exact (clear_whole wellFormed).2.1
  rw [szPaire_eq wellFormed]
  exact isPiece.take (by decide)

/-- The line of an entry ends with a newline exactly when the entry has 125 characters at most. -/
theorem endsLine_szPaire_iff (wellFormed : WellFormed key value) :
    EndsLine 10 (szPaire key value) ↔ size (key, value) ≤ 125 := by
  constructor
  · intro ends
    by_contra long
    rw [szPaire_of_lt_size wellFormed (Nat.lt_of_not_le long)] at ends
    have member := List.mem_of_getLast? ends
    exact (clear_whole wellFormed).2.1 ((List.take_sublist _ _).subset member)
  · intro short
    rw [szPaire_of_size_le wellFormed short]
    exact List.getLast?_concat

theorem lineOf_eq (occupied : text ≠ []) (zero : 0 ∉ text) (newline : 10 ∉ text)
    (comment : 35 ∉ text) : lineOf text = .ok text := by
  have last := List.getLast?_eq_some_getLast occupied
  have other : text.getLast occupied ≠ 10 := fun same =>
    newline (same ▸ List.getLast_mem occupied)
  unfold lineOf
  rw [cStr_eq zero, last]
  simp only [if_neg other, takeWhile_bne_eq comment]

theorem lineOf_concat (zero : 0 ∉ text) (comment : 35 ∉ text) :
    lineOf (text ++ [10]) = .ok text := by
  have zero' : 0 ∉ text ++ [10] := by
    simpa using zero
  unfold lineOf
  rw [cStr_eq zero', List.getLast?_concat]
  simp [takeWhile_bne_eq comment]

/-- The line of an entry of 126 characters at most gives the entry. -/
theorem loadLine_szPaire (wellFormed : WellFormed key value) (short : size (key, value) ≤ 126) :
    loadLine configMap (szPaire key value) = .ok (configMap.insertIfNew key value) := by
  obtain ⟨zero, newline, comment⟩ := clear_whole wellFormed
  have line : lineOf (szPaire key value) = .ok (whole key value) := by
    rcases Nat.lt_or_eq_of_le short with shorter | full
    · rw [szPaire_of_size_le wellFormed (Nat.le_of_lt_succ shorter)]
      exact lineOf_concat zero comment
    · rw [szPaire_of_lt_size wellFormed (by omega), List.take_of_length_le]
      · exact lineOf_eq (whole_ne_nil key value) zero newline comment
      · rw [length_whole]
        omega
  have entry : entryOf (whole key value) = some (key, value) := by
    unfold whole
    rw [entryOf_eq wellFormed.plainKey wellFormed.separator, trimSpace_eq wellFormed.plainValue]
    rfl
  unfold loadLine
  rw [line]
  simp only [bind, Except.bind, if_neg (whole_ne_nil key value), parseLine, entry]
  rfl

/-- The cut line of a longer entry gives a shorter value, or nothing. -/
theorem entryOf_take_whole (wellFormed : WellFormed key value) (long : 126 < size (key, value))
    {other held : Bytes} (found : entryOf ((whole key value).take 127) = some (other, held)) :
    other = key ∧ held.length < value.length := by
  unfold size at long
  rcases Nat.lt_or_ge 126 key.length with longKey | shortKey
  · have cut : (whole key value).take 127 = key.take 127 :=
      List.take_append_of_le_length longKey
    have separator : 61 ∉ key.take 127 := fun member =>
      wellFormed.separator ((List.take_sublist _ _).subset member)
    rw [cut, entryOf_eq_none separator] at found
    cases found
  · obtain ⟨left, isLeft⟩ : ∃ left, 127 - key.length = left + 1 :=
      ⟨126 - key.length, by omega⟩
    have cut : (whole key value).take 127 = key ++ 61 :: value.take left := by
      rw [whole, List.take_append, List.take_of_length_le (Nat.le_succ_of_le shortKey), isLeft,
        List.take_succ_cons]
    rw [cut, entryOf_eq wellFormed.plainKey wellFormed.separator] at found
    obtain ⟨trimmed, isTrimmed, same⟩ := Option.map_eq_some_iff.mp found
    cases same
    have shorter := (trimSpace_eq_some isTrimmed).2.1.length_le
    rw [List.length_take] at shorter
    dsimp only at long
    exact ⟨rfl, by omega⟩

/-- The line of a longer entry does not give the entry. -/
theorem loadLine_cut (wellFormed : WellFormed key value) (long : 126 < size (key, value))
    (new : configMap[key]? = none) {after : ConfigMap}
    (loaded : loadLine configMap (szPaire key value) = .ok after) : after[key]? ≠ some value := by
  obtain ⟨zero, newline, comment⟩ := clear_whole wellFormed
  have part : ((whole key value).take 127).Sublist (whole key value) := List.take_sublist _ _
  have occupied : (whole key value).take 127 ≠ [] := by
    rw [ne_eq, List.take_eq_nil_iff, not_or]
    exact ⟨by decide, whole_ne_nil key value⟩
  have line : lineOf (szPaire key value) = .ok ((whole key value).take 127) := by
    rw [szPaire_of_lt_size wellFormed (Nat.lt_of_succ_lt long)]
    exact lineOf_eq occupied (fun member => zero (part.subset member))
      (fun member => newline (part.subset member)) fun member => comment (part.subset member)
  unfold loadLine at loaded
  rw [line] at loaded
  simp only [bind, Except.bind, if_neg occupied] at loaded
  obtain rfl := Except.ok.inj loaded
  intro found
  unfold parseLine at found
  split at found
  · rename_i other held isEntry
    obtain ⟨rfl, shorter⟩ := entryOf_take_whole wellFormed long isEntry
    rw [getElem?_insertIfNew, if_pos ⟨rfl, new⟩] at found
    cases found
    exact Nat.lt_irrefl _ shorter
  · rw [new] at found
    cases found

/-! ### Written files -/

/-- The text that `writeFile` writes. -/
def fileText (configMap : ConfigMap) : Bytes :=
  (configMap.toList.map fun entry => szPaire entry.1 entry.2).flatten

theorem szPaire_ne_nil (key value : Bytes) : szPaire key value ≠ [] := by
  simp [szPaire]

theorem writeEntries_eq {device : Device} {entries : List (Bytes × Bytes)} {idx : Nat}
    {content : Bytes} (written : writeEntries device idx entries = some content) :
    content = (entries.map fun entry => szPaire entry.1 entry.2).flatten := by
  induction entries generalizing idx content with
  | nil => exact (Option.some.inj written).symm
  | cons entry entries inductionHypothesis =>
      rw [writeEntries] at written
      split at written
      · obtain ⟨later, writtenLater, rfl⟩ := Option.map_eq_some_iff.mp written
        rw [List.map_cons, List.flatten_cons, inductionHypothesis writtenLater]
      · cases written

theorem writeEntries_accepted (entries : List (Bytes × Bytes)) (idx : Nat) :
    writeEntries ⟨true, fun _ => true⟩ idx entries =
      some (entries.map fun entry => szPaire entry.1 entry.2).flatten := by
  induction entries generalizing idx with
  | nil => rfl
  | cons entry entries inductionHypothesis =>
      rw [writeEntries, inductionHypothesis]
      simp [Device.fwrite, szPaire_ne_nil]

theorem writeFile_eq {device : Device} {content : Bytes}
    (written : writeFile device configMap = some content) : content = fileText configMap := by
  unfold writeFile at written
  split at written
  · exact writeEntries_eq written
  · cases written

/-- A map comes back exactly when the lines of its text give it. -/
theorem roundTrips_iff_foldlM : RoundTrips reader ↔
    (readLines 10 255 (fileText reader.configMap)).foldlM loadLine ∅ = .ok reader.configMap := by
  constructor
  · intro roundTrips
    have written : writeFile ⟨true, fun _ => true⟩ reader.configMap =
        some (fileText reader.configMap) := writeEntries_accepted ..
    obtain ⟨again, loaded, same⟩ := roundTrips _ _ written
    exact same ▸ (loadFile_eq_ok_iff.mp loaded).2
  · intro loaded device content written
    rw [writeFile_eq written]
    exact ⟨⟨true, reader.configMap⟩, loadFile_eq_ok_iff.mpr ⟨rfl, loaded⟩, rfl⟩

/-! ### Maps from their entries -/

/-- What is loaded from the lines of entries. -/
def ofEntries (configMap : ConfigMap) (entries : List (Bytes × Bytes)) : ConfigMap :=
  entries.foldl (fun configMap entry => configMap.insertIfNew entry.1 entry.2) configMap

theorem getElem?_ofEntries_of_ne {entries : List (Bytes × Bytes)}
    (absent : ∀ entry ∈ entries, entry.1 ≠ key) :
    (ofEntries configMap entries)[key]? = configMap[key]? := by
  induction entries generalizing configMap with
  | nil => rfl
  | cons entry entries inductionHypothesis =>
      obtain ⟨differs, absent⟩ := List.forall_mem_cons.mp absent
      refine (inductionHypothesis absent).trans ?_
      rw [getElem?_insertIfNew, if_neg fun both => differs both.1]

/-- The entries of a map have different keys. -/
theorem toList_distinct (configMap : ConfigMap) :
    configMap.toList.Pairwise fun left right => left.1 ≠ right.1 := by
  refine ExtTreeMap.distinct_keys_toList.imp fun differ same => differ ?_
  rw [same]
  exact ReflCmp.compare_self

theorem getElem?_ofEntries_of_mem {entries : List (Bytes × Bytes)}
    (distinct : entries.Pairwise fun left right => left.1 ≠ right.1)
    (member : (key, value) ∈ entries) (new : configMap[key]? = none) :
    (ofEntries configMap entries)[key]? = some value := by
  induction entries generalizing configMap with
  | nil => cases member
  | cons entry entries inductionHypothesis =>
      obtain ⟨apart, distinct⟩ := List.pairwise_cons.mp distinct
      rcases List.mem_cons.mp member with rfl | member
      · refine (getElem?_ofEntries_of_ne fun other isLater => (apart other isLater).symm).trans ?_
        rw [getElem?_insertIfNew, if_pos ⟨rfl, new⟩]
      · refine inductionHypothesis distinct member ?_
        rw [getElem?_insertIfNew, if_neg fun both => apart _ member both.1]
        exact new

/-- A map is what its entries give. -/
theorem ofEntries_toList (configMap : ConfigMap) : ofEntries ∅ configMap.toList = configMap := by
  refine ExtTreeMap.ext_getElem? fun key => ?_
  have empty : (∅ : ConfigMap)[key]? = none := ExtTreeMap.getElem?_empty
  cases found : configMap[key]? with
  | some value =>
      exact getElem?_ofEntries_of_mem (toList_distinct configMap)
        (ExtTreeMap.mem_toList_iff_getElem?_eq_some.mpr found) empty
  | none =>
      refine (getElem?_ofEntries_of_ne ?_).trans empty
      rintro ⟨other, value⟩ member rfl
      rw [ExtTreeMap.mem_toList_iff_getElem?_eq_some.mp member] at found
      cases found

/-- Lines of entries of 126 characters at most give the entries. -/
theorem foldlM_loadLine {entries : List (Bytes × Bytes)}
    (wellFormed : ∀ entry ∈ entries, WellFormed entry.1 entry.2)
    (short : ∀ entry ∈ entries, size entry ≤ 126) :
    (entries.map fun entry => szPaire entry.1 entry.2).foldlM loadLine configMap =
      .ok (ofEntries configMap entries) := by
  induction entries generalizing configMap with
  | nil => rfl
  | cons entry entries inductionHypothesis =>
      obtain ⟨first, wellFormed⟩ := List.forall_mem_cons.mp wellFormed
      obtain ⟨shortFirst, short⟩ := List.forall_mem_cons.mp short
      rw [List.map_cons, List.foldlM_cons, loadLine_szPaire first shortFirst]
      exact inductionHypothesis wellFormed short

/-- A line gives one entry at most. -/
theorem size_loadLine_le {buf : Bytes} {after : ConfigMap}
    (loaded : loadLine configMap buf = .ok after) : after.size ≤ configMap.size + 1 := by
  unfold loadLine at loaded
  cases isLine : lineOf buf with
  | error fault =>
      rw [isLine] at loaded
      cases loaded
  | ok line =>
      rw [isLine] at loaded
      simp only [bind, Except.bind] at loaded
      split at loaded
      · cases loaded
        exact Nat.le_succ _
      · cases loaded
        unfold parseLine
        split
        · exact ExtTreeMap.size_insertIfNew_le
        · exact Nat.le_succ _

theorem size_foldlM_le {lines : List Bytes} {before after : ConfigMap}
    (loaded : lines.foldlM loadLine before = .ok after) :
    after.size ≤ before.size + lines.length := by
  induction lines generalizing before with
  | nil =>
      cases loaded
      exact Nat.le_refl _
  | cons line lines inductionHypothesis =>
      rw [List.foldlM_cons] at loaded
      cases step : loadLine before line with
      | error fault =>
          rw [step] at loaded
          cases loaded
      | ok next =>
          rw [step] at loaded
          have first := size_loadLine_le step
          have later := inductionHypothesis loaded
          rw [List.length_cons]
          omega

/-! ### The maps that come back -/

theorem wellFormed_of_mem (sound : Sound configMap) {entry : Bytes × Bytes}
    (member : entry ∈ configMap.toList) : WellFormed entry.1 entry.2 :=
  sound entry.1 entry.2 (ExtTreeMap.mem_toList_iff_getElem?_eq_some.mp member)

theorem pieces_fileText (sound : Sound configMap) :
    ∀ piece ∈ configMap.toList.map fun entry => szPaire entry.1 entry.2, Piece 10 127 piece := by
  rintro piece isPiece
  obtain ⟨entry, member, rfl⟩ := List.mem_map.mp isPiece
  exact piece_szPaire (wellFormed_of_mem sound member)

/-- Where every line but the last ends, the lines of the file are those of the entries. -/
theorem readLines_fileText (sound : Sound configMap)
    (ended : ∀ entry ∈ configMap.toList.dropLast, EndsLine 10 (szPaire entry.1 entry.2)) :
    readLines 10 255 (fileText configMap) =
      configMap.toList.map fun entry => szPaire entry.1 entry.2 := by
  refine readLines_flatten
    (fun piece isPiece => (pieces_fileText sound piece isPiece).mono (by decide)) ?_
  rw [← List.map_dropLast]
  rintro piece isPiece
  obtain ⟨entry, member, rfl⟩ := List.mem_map.mp isPiece
  exact ended entry member

theorem roundTrips_of_fits (sound : Sound reader.configMap) (fits : Fits reader.configMap) :
    RoundTrips reader := by
  have wellFormed := fun entry => @wellFormed_of_mem _ sound entry
  have short : ∀ entry ∈ reader.configMap.toList, size entry ≤ 126 := by
    intro entry member
    have occupied : reader.configMap.toList ≠ [] := List.ne_nil_of_mem member
    rw [← List.dropLast_append_getLast occupied] at member
    rcases List.mem_append.mp member with inside | isLast
    · exact Nat.le_succ_of_le (fits.inner entry inside)
    · rw [List.mem_singleton.mp isLast]
      exact fits.last _ (List.getLast?_eq_some_getLast occupied)
  have lines := readLines_fileText sound fun entry member =>
    (endsLine_szPaire_iff (wellFormed entry ((List.dropLast_sublist _).subset member))).mpr
      (fits.inner entry member)
  rw [roundTrips_iff_foldlM, lines, foldlM_loadLine wellFormed short, ofEntries_toList]

/-- As many keys come back as were written, so every line but the last ends. -/
theorem endsLine_of_roundTrips (sound : Sound reader.configMap) (roundTrips : RoundTrips reader) :
    ∀ entry ∈ reader.configMap.toList.dropLast, EndsLine 10 (szPaire entry.1 entry.2) := by
  have keys := size_foldlM_le (roundTrips_iff_foldlM.mp roundTrips)
  have enough : (reader.configMap.toList.map fun entry => szPaire entry.1 entry.2).length ≤
      (readLines 10 255 (fileText reader.configMap)).length := by
    rw [List.length_map, ExtTreeMap.length_toList]
    simpa using keys
  have ended := endsLine_of_length_le (by decide) (pieces_fileText sound) enough
  rw [← List.map_dropLast] at ended
  exact fun entry member => ended _ (List.mem_map.mpr ⟨entry, member, rfl⟩)

/-- Behind the lines that end, the last line gives the last entry. -/
theorem loadLine_last (sound : Sound reader.configMap) (roundTrips : RoundTrips reader)
    (inner : ∀ entry ∈ reader.configMap.toList.dropLast, size entry ≤ 125)
    {entry : Bytes × Bytes} (isLast : entry ∈ reader.configMap.toList.getLast?) :
    loadLine (ofEntries ∅ reader.configMap.toList.dropLast) (szPaire entry.1 entry.2) =
      .ok reader.configMap := by
  have wellFormed : ∀ other ∈ reader.configMap.toList.dropLast, WellFormed other.1 other.2 :=
    fun other inside => wellFormed_of_mem sound ((List.dropLast_sublist _).subset inside)
  have loaded := roundTrips_iff_foldlM.mp roundTrips
  rw [readLines_fileText sound (endsLine_of_roundTrips sound roundTrips),
    ← List.dropLast_append_getLast? entry isLast, List.map_append, List.foldlM_append,
    foldlM_loadLine wellFormed fun other inside => Nat.le_succ_of_le (inner other inside)] at loaded
  exact (bind_pure _).symm.trans loaded

theorem fits_of_roundTrips (sound : Sound reader.configMap) (roundTrips : RoundTrips reader) :
    Fits reader.configMap := by
  have inner : ∀ entry ∈ reader.configMap.toList.dropLast, size entry ≤ 125 := by
    intro entry inside
    have wellFormed := wellFormed_of_mem sound ((List.dropLast_sublist _).subset inside)
    exact (endsLine_szPaire_iff wellFormed).mp
      (endsLine_of_roundTrips sound roundTrips entry inside)
  refine ⟨inner, fun entry isLast => ?_⟩
  by_contra long
  have member := List.mem_of_getLast? isLast
  have distinct := toList_distinct reader.configMap
  rw [← List.dropLast_append_getLast? entry isLast] at distinct
  have new : (ofEntries ∅ reader.configMap.toList.dropLast)[entry.1]? = none := by
    refine (getElem?_ofEntries_of_ne fun other inside => ?_).trans ExtTreeMap.getElem?_empty
    exact (List.pairwise_append.mp distinct).2.2 other inside entry (List.mem_singleton_self entry)
  exact loadLine_cut (wellFormed_of_mem sound member) (Nat.lt_of_not_le long) new
    (loadLine_last sound roundTrips inner isLast)
    (ExtTreeMap.mem_toList_iff_getElem?_eq_some.mp member)

/-- What is written comes back exactly when no entry is cut, or only the newline of the last. -/
theorem roundTrips_iff_fits (reachable : Reachable reader) :
    RoundTrips reader ↔ Fits reader.configMap :=
  ⟨fits_of_roundTrips (sound_of_reachable reachable),
    roundTrips_of_fits (sound_of_reachable reachable)⟩

/-! ### Two settings -/

theorem not_mem_replicate {c other : UInt8} (differs : other ≠ c) (count : Nat) :
    other ∉ List.replicate count c :=
  fun member => differs (List.eq_of_mem_replicate member)

theorem plain_replicate {c : UInt8} (newline : 10 ≠ c) (comment : 35 ≠ c)
    (letter : isBlank c = false) (count : Nat) : Plain (List.replicate (count + 1) c) where
  occupied := List.cons_ne_nil _ _
  newline := not_mem_replicate newline _
  comment := not_mem_replicate comment _
  begins other isHead := by
    rw [List.eq_of_mem_replicate (List.mem_of_mem_head? isHead)]
    exact letter
  ends other isLast := by
    rw [List.eq_of_mem_replicate (List.mem_of_getLast? isLast)]
    exact letter

/-- `b` is set to `y`. -/
def shortSetting : Setting where
  name := ⟨[98], by decide⟩
  value := ⟨[121], by decide⟩
  plainName := plain_replicate (by decide) (by decide) (by decide) 0
  plainValue := plain_replicate (by decide) (by decide) (by decide) 0
  separator := by decide

/-- `a` is set to 125 letters. -/
def longSetting : Setting where
  name := ⟨[97], by decide⟩
  value := ⟨List.replicate 125 120, not_mem_replicate (by decide) 125⟩
  plainName := plain_replicate (by decide) (by decide) (by decide) 0
  plainValue := plain_replicate (by decide) (by decide) (by decide) 124
  separator := by decide

/-- The reader of an empty file behind a call. -/
def afterSetting (reader : Reader) (setting : Setting) : Reader :=
  (setConfigValue ⟨true, fun _ => true⟩ reader setting.name setting.value).1

theorem reachable_afterSetting (setting : Setting) :
    Reachable (afterSetting ⟨true, ∅⟩ setting) :=
  .set (@Reachable.load (some []) _ rfl) _ setting

/-- `a` is set to 124 letters, which fit in front of another entry. -/
def fullSetting : Setting where
  name := ⟨[97], by decide⟩
  value := ⟨List.replicate 124 120, not_mem_replicate (by decide) 124⟩
  plainName := plain_replicate (by decide) (by decide) (by decide) 0
  plainValue := plain_replicate (by decide) (by decide) (by decide) 123
  separator := by decide

/-- `b` is set to 125 letters, which fit at the end. -/
def lastSetting : Setting where
  name := ⟨[98], by decide⟩
  value := ⟨List.replicate 125 121, not_mem_replicate (by decide) 125⟩
  plainName := plain_replicate (by decide) (by decide) (by decide) 0
  plainValue := plain_replicate (by decide) (by decide) (by decide) 124
  separator := by decide

theorem roundTrips_afterSetting :
    RoundTrips (afterSetting (afterSetting ⟨true, ∅⟩ lastSetting) fullSetting) := by
  have reachable : Reachable (afterSetting (afterSetting ⟨true, ∅⟩ lastSetting) fullSetting) :=
    .set (reachable_afterSetting lastSetting) _ fullSetting
  have entries : (afterSetting (afterSetting ⟨true, ∅⟩ lastSetting) fullSetting).configMap.toList =
      [([97], List.replicate 124 120), ([98], List.replicate 125 121)] := rfl
  refine (roundTrips_iff_fits reachable).mpr ⟨?_, ?_⟩
  · simp [entries, size]
  · simp [entries, size]

/-- The value of `a` comes back with the line of `b` behind it, and `b` is lost. -/
theorem not_roundTrips_merged :
    Reachable (afterSetting (afterSetting ⟨true, ∅⟩ shortSetting) longSetting) ∧
      ¬RoundTrips (afterSetting (afterSetting ⟨true, ∅⟩ shortSetting) longSetting) := by
  have reachable : Reachable (afterSetting (afterSetting ⟨true, ∅⟩ shortSetting) longSetting) :=
    .set (reachable_afterSetting shortSetting) _ longSetting
  refine ⟨reachable, fun roundTrips => ?_⟩
  have fits := fits_of_roundTrips (sound_of_reachable reachable) roundTrips
  exact absurd (fits.inner ([97], List.replicate 125 120) (by decide)) (by simp [size])

end AChat.Base.ConfigFileReader
