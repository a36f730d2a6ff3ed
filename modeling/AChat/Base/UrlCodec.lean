import Mathlib.Logic.Basic
import AChat.Lib.CString

/-!
Contract: what `URLDecode` makes of a text, and that it takes back what `URLEncode` makes.

`fromHex` takes every character that is not a decimal digit for an upper-case letter. The shift
drops what is too much of the first digit of an escape; of the second digit a bit too many is set.
The decoder reads the two characters behind a percent sign without looking for the end: the first
one behind the text is the terminator, the next one is outside.

Owns: the two functions, the meaning of a text with escapes, and the texts that are decoded to it.
-/

namespace AChat.Base.UrlCodec

open Lib

/-! ### The functions -/

/-- A read behind the terminator of a string. -/
inductive Fault where
  | outside
deriving DecidableEq, Repr

def percent : UInt8 := 37

def plus : UInt8 := 43

def isDigit (c : UInt8) : Bool :=
  48 ≤ c && c ≤ 57

/-- `isalnum` in the C locale. -/
def isAlnum (c : UInt8) : Bool :=
  isDigit c || (65 ≤ c && c ≤ 90) || (97 ≤ c && c ≤ 122)

def toHex (x : UInt8) : UInt8 :=
  if x > 9 then x - 10 + 65 else x + 48

def fromHex (x : UInt8) : UInt8 :=
  if isDigit x then x - 48 else x - 65 + 10

/-- What `URLEncode` puts in its buffer of four bytes for a character. -/
def encodeBuf (c : UInt8) : Bytes :=
  if isAlnum c then [c, 0, 0, 0] else [percent, toHex (c >>> 4), toHex (c % 16), 0]

def urlEncode (sIn : Bytes) : Bytes :=
  sIn.flatMap fun c => (CString.ofArray (encodeBuf c)).bytes

/-- `operator[]` of a string that goes on like this: its terminator can be read too. -/
def charAt (text : Bytes) (offset : Nat) : Except Fault UInt8 :=
  match text[offset]? with
  | some c => .ok c
  | none => if offset = text.length then .ok 0 else .error .outside

/-- The loop of `URLDecode`, with the number of characters that `ix += 2` still skips. -/
def decodeFrom : Nat → Bytes → Except Fault Bytes
  | _, [] => .ok []
  | skipped + 1, _ :: rest => decodeFrom skipped rest
  | 0, c :: rest =>
      if c = percent then do
        let high ← charAt rest 0
        let low ← charAt rest 1
        let sOut ← decodeFrom 2 rest
        return (fromHex high <<< 4 ||| fromHex low) :: sOut
      else do
        let sOut ← decodeFrom 0 rest
        return (if c = plus then 32 else c) :: sOut

def urlDecode (sIn : Bytes) : Except Fault Bytes :=
  decodeFrom 0 sIn

/-! ### What a text means -/

/-- The value of a hexadecimal digit of either case. -/
def hexValue (digit : UInt8) : Option UInt8 :=
  if isDigit digit then some (digit - 48)
  else if 65 ≤ digit ∧ digit ≤ 70 then some (digit - 55)
  else if 97 ≤ digit ∧ digit ≤ 102 then some (digit - 87)
  else none

/-- The value of an escape with these digits. -/
def escapeValue (high low : UInt8) : Option UInt8 :=
  match hexValue high, hexValue low with
  | some first, some second => some (first * 16 + second)
  | _, _ => none

/-- A text and its meaning. A complete escape stands for its value; nothing is said of what stands
for a percent sign that no two digits follow, and it takes as many characters. -/
inductive Means : Bytes → Bytes → Prop where
  | nil : Means [] []
  | escape {high low value : UInt8} {rest meaning : Bytes} :
      escapeValue high low = some value → Means rest meaning →
        Means (percent :: high :: low :: rest) (value :: meaning)
  | malformed {high low : UInt8} {rest meaning : Bytes} (byte : UInt8) :
      escapeValue high low = none → Means rest meaning →
        Means (percent :: high :: low :: rest) (byte :: meaning)
  | cut {rest : Bytes} (byte : UInt8) : rest.length < 2 → Means (percent :: rest) [byte]
  | space {rest meaning : Bytes} : Means rest meaning → Means (plus :: rest) (32 :: meaning)
  | plain {c : UInt8} {rest meaning : Bytes} :
      c ≠ percent → c ≠ plus → Means rest meaning → Means (c :: rest) (c :: meaning)

/-- A lower-case letter as second digit does no harm when the first digit has the bit that is set
too many. -/
def EscapeFits (high low : UInt8) : Prop :=
  ∀ value, escapeValue high low = some value → 97 ≤ low → value &&& 32 = 32

/-- No escape begins with the last character, and the complete ones fit. -/
inductive Readable : Bytes → Prop where
  | nil : Readable []
  | escape {high low : UInt8} {rest : Bytes} :
      EscapeFits high low → Readable rest → Readable (percent :: high :: low :: rest)
  | cut (high : UInt8) : Readable [percent, high]
  | plain {c : UInt8} {rest : Bytes} : c ≠ percent → Readable rest → Readable (c :: rest)

/-- The text comes back when it is encoded and decoded, and it is decoded to its meaning without a
read outside. -/
def Decodes (text : Bytes) : Prop :=
  (0 ∉ text → urlDecode (urlEncode text) = .ok text) ∧
    ∃ meaning, urlDecode text = .ok meaning ∧ Means text meaning

/-! ### Digits -/

/-- The digits of both cases. -/
def hexDigits : Bytes :=
  [48, 49, 50, 51, 52, 53, 54, 55, 56, 57, 65, 66, 67, 68, 69, 70, 97, 98, 99, 100, 101, 102]

theorem mem_hexDigits {digit value : UInt8} (is : hexValue digit = some value) :
    digit ∈ hexDigits := by
  have all : ∀ bits : Fin 256, (hexValue (UInt8.ofNat bits.val)).isSome = true →
      UInt8.ofNat bits.val ∈ hexDigits := by decide +kernel
  have here := all ⟨digit.toNat, digit.toNat_lt⟩
  rw [UInt8.ofNat_toNat] at here
  exact here (by simp [is])

theorem exists_hexValue {high low value : UInt8} (is : escapeValue high low = some value) :
    ∃ first second, hexValue high = some first ∧ hexValue low = some second := by
  unfold escapeValue at is
  split at is
  · rename_i first second highIs lowIs
    exact ⟨first, second, highIs, lowIs⟩
  · cases is

/-- What the decoder makes of an escape is its value, with a bit too many for a lower-case letter as
second digit. -/
theorem fromHex_pair {high low value : UInt8} (is : escapeValue high low = some value) :
    fromHex high <<< 4 ||| fromHex low = if 97 ≤ low then value ||| 32 else value := by
  have all : ∀ high ∈ hexDigits, ∀ low ∈ hexDigits,
      (escapeValue high low).map (fun value => if 97 ≤ low then value ||| 32 else value) =
        some (fromHex high <<< 4 ||| fromHex low) := by decide +kernel
  obtain ⟨first, second, highIs, lowIs⟩ := exists_hexValue is
  have here := all high (mem_hexDigits highIs) low (mem_hexDigits lowIs)
  rw [is, Option.map_some] at here
  exact (Option.some.inj here).symm

theorem or_eq_self_iff (value : UInt8) : value ||| 32 = value ↔ value &&& 32 = 32 := by
  have all : ∀ bits : BitVec 8, bits ||| 32 = bits ↔ bits &&& 32 = 32 := by decide +kernel
  rw [← UInt8.toBitVec_inj, ← UInt8.toBitVec_inj]
  exact all value.toBitVec

theorem escapeFits_iff {high low value : UInt8} (is : escapeValue high low = some value) :
    EscapeFits high low ↔ fromHex high <<< 4 ||| fromHex low = value := by
  rw [fromHex_pair is]
  constructor
  · intro fits
    split
    · rename_i lower
      exact (or_eq_self_iff value).mpr (fits value is lower)
    · rfl
  · intro same other also lower
    obtain rfl : value = other := Option.some.inj (is.symm.trans also)
    rw [if_pos lower] at same
    exact (or_eq_self_iff value).mp same

/-! ### Encoding -/

theorem encodeBuf_bytes (c : UInt8) :
    (CString.ofArray (encodeBuf c)).bytes =
      if isAlnum c then [c] else [percent, toHex (c >>> 4), toHex (c % 16)] := by
  have all : ∀ bits : Fin 256,
      (CString.ofArray (encodeBuf (UInt8.ofNat bits.val))).bytes =
        if isAlnum (UInt8.ofNat bits.val) then [UInt8.ofNat bits.val]
        else [percent, toHex (UInt8.ofNat bits.val >>> 4), toHex (UInt8.ofNat bits.val % 16)] := by
    decide +kernel
  have here := all ⟨c.toNat, c.toNat_lt⟩
  rwa [UInt8.ofNat_toNat] at here

theorem fromHex_toHex (c : UInt8) :
    fromHex (toHex (c >>> 4)) <<< 4 ||| fromHex (toHex (c % 16)) = c := by
  have all : ∀ bits : Fin 256,
      fromHex (toHex (UInt8.ofNat bits.val >>> 4)) <<< 4 |||
        fromHex (toHex (UInt8.ofNat bits.val % 16)) = UInt8.ofNat bits.val := by decide +kernel
  have here := all ⟨c.toNat, c.toNat_lt⟩
  rwa [UInt8.ofNat_toNat] at here

theorem not_alnum_percent {c : UInt8} (alnum : isAlnum c = true) : c ≠ percent ∧ c ≠ plus := by
  constructor <;> rintro rfl <;> cases alnum

/-! ### Decoding -/

theorem decodeFrom_plain {c : UInt8} (literal : c ≠ percent) (rest : Bytes) :
    decodeFrom 0 (c :: rest) =
      (decodeFrom 0 rest).map fun sOut => (if c = plus then 32 else c) :: sOut := by
  rw [decodeFrom, if_neg literal]
  cases decodeFrom 0 rest <;> rfl

theorem decodeFrom_escape (high low : UInt8) (rest : Bytes) :
    decodeFrom 0 (percent :: high :: low :: rest) =
      (decodeFrom 0 rest).map fun sOut => (fromHex high <<< 4 ||| fromHex low) :: sOut := by
  have skipped : decodeFrom 2 (high :: low :: rest) = decodeFrom 0 rest := rfl
  rw [decodeFrom, if_pos rfl, skipped]
  cases decodeFrom 0 rest <;> rfl

/-- The round trip. -/
theorem urlDecode_urlEncode (text : Bytes) : urlDecode (urlEncode text) = .ok text := by
  unfold urlDecode
  induction text with
  | nil => rfl
  | cons c rest inductionHypothesis =>
      rw [urlEncode, List.flatMap_cons, encodeBuf_bytes]
      change decodeFrom 0 (_ ++ urlEncode rest) = _
      split
      · rename_i alnum
        obtain ⟨literal, other⟩ := not_alnum_percent alnum
        rw [List.singleton_append, decodeFrom_plain literal, inductionHypothesis, if_neg other]
        rfl
      · change decodeFrom 0 (percent :: _ :: _ :: urlEncode rest) = _
        rw [decodeFrom_escape, inductionHypothesis, fromHex_toHex]
        rfl

/-- A text that is readable is decoded to its meaning. -/
theorem decodes_of_readable {text : Bytes} (readable : Readable text) :
    ∃ meaning, urlDecode text = .ok meaning ∧ Means text meaning := by
  induction readable with
  | nil => exact ⟨[], rfl, .nil⟩
  | @escape high low rest fits _ inductionHypothesis =>
      obtain ⟨meaning, decoded, means⟩ := inductionHypothesis
      refine ⟨(fromHex high <<< 4 ||| fromHex low) :: meaning, ?_, ?_⟩
      · rw [urlDecode, decodeFrom_escape, ← urlDecode, decoded]
        rfl
      · cases is : escapeValue high low with
        | none => exact .malformed _ is means
        | some value =>
            rw [(escapeFits_iff is).mp fits]
            exact .escape is means
  | cut high => exact ⟨[_], rfl, .cut _ (Nat.lt_succ_self 1)⟩
  | @plain c rest literal _ inductionHypothesis =>
      obtain ⟨meaning, decoded, means⟩ := inductionHypothesis
      refine ⟨(if c = plus then 32 else c) :: meaning, ?_, ?_⟩
      · rw [urlDecode, decodeFrom_plain literal, ← urlDecode, decoded]
        rfl
      · split
        · rename_i same
          rw [same]
          exact .space means
        · rename_i other
          exact .plain literal other means

theorem decoded_escape {high low : UInt8} {rest meaning : Bytes} {byte : UInt8}
    (decoded : urlDecode (percent :: high :: low :: rest) = .ok (byte :: meaning)) :
    fromHex high <<< 4 ||| fromHex low = byte ∧ urlDecode rest = .ok meaning := by
  rw [urlDecode, decodeFrom_escape, ← urlDecode] at decoded
  cases behind : urlDecode rest with
  | error fault =>
      rw [behind] at decoded
      cases decoded
  | ok sOut =>
      rw [behind] at decoded
      cases decoded
      exact ⟨rfl, rfl⟩

theorem decoded_plain {c : UInt8} (literal : c ≠ percent) {rest meaning : Bytes} {byte : UInt8}
    (decoded : urlDecode (c :: rest) = .ok (byte :: meaning)) : urlDecode rest = .ok meaning := by
  rw [urlDecode, decodeFrom_plain literal, ← urlDecode] at decoded
  cases behind : urlDecode rest with
  | error fault =>
      rw [behind] at decoded
      cases decoded
  | ok sOut =>
      rw [behind] at decoded
      cases decoded
      rfl

/-- A text that is decoded to its meaning is readable. -/
theorem Means.readable {text meaning : Bytes} (means : Means text meaning)
    (decoded : urlDecode text = .ok meaning) : Readable text := by
  induction means with
  | nil => exact .nil
  | escape is _ inductionHypothesis =>
      obtain ⟨same, behind⟩ := decoded_escape decoded
      exact .escape ((escapeFits_iff is).mpr same) (inductionHypothesis behind)
  | malformed byte is _ inductionHypothesis =>
      refine .escape (fun value also => ?_) (inductionHypothesis (decoded_escape decoded).2)
      rw [is] at also
      cases also
  | @cut rest byte short =>
      match rest with
      | [] => cases decoded
      | [high] => exact .cut high
      | _ :: _ :: _ => exact absurd short (by simp)
  | space _ inductionHypothesis =>
      exact .plain (by decide) (inductionHypothesis (decoded_plain (by decide) decoded))
  | plain literal _ _ inductionHypothesis =>
      exact .plain literal (inductionHypothesis (decoded_plain literal decoded))

/-- A text goes through the codec exactly when it is readable. -/
theorem decodes_iff (text : Bytes) : Decodes text ↔ Readable text := by
  constructor
  · rintro ⟨_, meaning, decoded, means⟩
    exact means.readable decoded
  · exact fun readable => ⟨fun _ => urlDecode_urlEncode text, decodes_of_readable readable⟩

/-- The text `%4a` is decoded to `j` where it means `J`, and `%` is read behind its end. -/
theorem not_decodes_lowerCase :
    urlDecode [percent, 52, 97] = .ok [106] ∧ ¬Decodes [percent, 52, 97] ∧
      urlDecode [percent] = .error .outside ∧ ¬Decodes [percent] := by
  refine ⟨by decide, ?_, by decide, ?_⟩
  · rintro ⟨_, meaning, decoded, means⟩
    cases decoded
    cases means with
    | escape is => exact absurd is (by decide)
    | malformed _ is => exact absurd is (by decide)
    | cut _ short => exact absurd short (by decide)
  · rintro ⟨_, meaning, decoded, _⟩
    cases decoded

end AChat.Base.UrlCodec
