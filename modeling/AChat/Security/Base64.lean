import AChat.Lib.BitStream
import AChat.Lib.Stdio

/-!
Contract: `base64_encode` and `base64_decode` of libsecurity, with their bit accumulators,
their assertions and the bounds of every index.

Owns:
- the two tables and the two loops as the code runs them, where a failed assertion or an
  index outside its object ends the run;
- the result of encoding any non-empty string, and what decoding makes of it;
- that decoding never leaves its table.

Does not own: the memory of the strings, and `isspace` outside the C locale.
-/

namespace AChat.Security

open AChat.Lib

/-- What ends a run inside the codec. -/
inductive Fault where
  | assertion
  | index
  deriving DecidableEq, Repr

/-- `numeric_limits<string::size_type>::max()`. -/
def sizeTypeMax : Nat := 0xFFFFFFFFFFFFFFFF

/-- `size_type` subtraction. -/
def sizeSub (left right : Nat) : Nat :=
  (left + (sizeTypeMax + 1) - right) % (sizeTypeMax + 1)

/-- `b64_table`, with the terminating zero of its literal. -/
def b64Table : Bytes :=
  ("ABCDEFGHIJKLMNOPQRSTUVWXYZabcdefghijklmnopqrstuvwxyz0123456789+/".toList.map
    fun character => UInt8.ofNat character.toNat) ++ [0]

/-- `reverse_table`. -/
def reverseTable : List Nat := [
  64, 64, 64, 64, 64, 64, 64, 64, 64, 64, 64, 64, 64, 64, 64, 64,
  64, 64, 64, 64, 64, 64, 64, 64, 64, 64, 64, 64, 64, 64, 64, 64,
  64, 64, 64, 64, 64, 64, 64, 64, 64, 64, 64, 62, 64, 64, 64, 63,
  52, 53, 54, 55, 56, 57, 58, 59, 60, 61, 64, 64, 64, 64, 64, 64,
  64,  0,  1,  2,  3,  4,  5,  6,  7,  8,  9, 10, 11, 12, 13, 14,
  15, 16, 17, 18, 19, 20, 21, 22, 23, 24, 25, 64, 64, 64, 64, 64,
  64, 26, 27, 28, 29, 30, 31, 32, 33, 34, 35, 36, 37, 38, 39, 40,
  41, 42, 43, 44, 45, 46, 47, 48, 49, 50, 51, 64, 64, 64, 64, 64]

/-- The character `'='`. -/
def equalsSign : UInt8 := 61

/-! ### Encoding -/

/-- The variables of `base64_encode`. -/
structure Encoding where
  retval : Bytes
  outpos : Nat
  bitsCollected : Nat
  accumulator : UInt32

/-- `retval[outpos++] = b64_table[digit]`. -/
def putDigit (retval : Bytes) (outpos : Nat) (digit : UInt32) : Except Fault Bytes :=
  match b64Table[digit.toNat]? with
  | none => .error .index
  | some character =>
      if outpos < retval.length then .ok (retval.set outpos character) else .error .index

/-- `while (bits_collected >= 6)`. -/
def writeDigits (state : Encoding) : Except Fault Encoding :=
  if 6 ≤ state.bitsCollected then do
    let left := state.bitsCollected - 6
    let retval ← putDigit state.retval state.outpos
      ((state.accumulator >>> UInt32.ofNat left) &&& 0x3F)
    writeDigits { state with
      retval := retval
      outpos := state.outpos + 1
      bitsCollected := state.bitsCollected - 6 }
  else .ok state
termination_by state.bitsCollected
decreasing_by
  omega

/-- One turn of the loop over the bytes. -/
def encodeByte (state : Encoding) (byte : UInt8) : Except Fault Encoding :=
  writeDigits { state with
    accumulator := (state.accumulator <<< 8) ||| (byte.toUInt32 &&& 0xFF)
    bitsCollected := state.bitsCollected + 8 }

/-- The trailing bits that are missing. -/
def encodeTail (state : Encoding) : Except Fault Encoding :=
  if 0 < state.bitsCollected then
    if state.bitsCollected < 6 then do
      let accumulator := state.accumulator <<< UInt32.ofNat (6 - state.bitsCollected)
      let retval ← putDigit state.retval state.outpos (accumulator &&& 0x3F)
      .ok { state with
        retval := retval
        outpos := state.outpos + 1
        accumulator := accumulator }
    else .error .assertion
  else .ok state

/-- The two last assertions and `return retval`. -/
def encodeEnd (state : Encoding) : Except Fault Bytes :=
  if sizeSub state.retval.length 2 ≤ state.outpos ∧ state.outpos ≤ state.retval.length then
    .ok state.retval
  else .error .assertion

/-- The variables before the loop. -/
def encodeStart (binlen : Nat) : Encoding where
  retval := List.replicate ((binlen + 2) / 3 * 4 % (sizeTypeMax + 1)) equalsSign
  outpos := 0
  bitsCollected := 0
  accumulator := 0

/-- `base64_encode`. -/
def base64Encode (bindata : Bytes) : Except Fault Bytes :=
  if bindata.length > sizeTypeMax / 4 * 3 then .ok []
  else do
    let collected ← bindata.foldlM encodeByte (encodeStart bindata.length)
    encodeEnd (← encodeTail collected)

/-! ### Decoding -/

/-- The variables of `base64_decode`. -/
structure Decoding where
  retval : Bytes
  bitsCollected : Nat
  accumulator : UInt32

/-- `const int c = *i`, where `char` is signed. -/
def charValue (byte : UInt8) : Int :=
  if byte.toNat < 128 then byte.toNat else byte.toNat - 256

/-- `isspace` in the C locale. -/
def isSpace (c : Int) : Bool :=
  decide (c = 32 ∨ 9 ≤ c ∧ c ≤ 13)

/-- `reverse_table[c]`. -/
def reverseAt (c : Int) : Except Fault Nat :=
  if 0 ≤ c then
    match reverseTable[c.toNat]? with
    | none => .error .index
    | some value => .ok value
  else .error .index

/-- `(c > 127) || (c < 0) || (reverse_table[c] > 63)`: the table is read last. -/
def rejected (c : Int) : Except Fault Bool :=
  if c > 127 then .ok true
  else if c < 0 then .ok true
  else do
    let value ← reverseAt c
    .ok (decide (value > 63))

/-- The value of a character goes into the accumulator, and a byte comes out when there are
enough bits. -/
def collect (state : Decoding) (value : Nat) : Decoding :=
  let accumulator := (state.accumulator <<< 6) ||| UInt32.ofNat value
  if 8 ≤ state.bitsCollected + 6 then
    { retval := state.retval ++
        [UInt8.ofNat
          ((accumulator >>> UInt32.ofNat (state.bitsCollected + 6 - 8)) &&& 0xFF).toNat]
      bitsCollected := state.bitsCollected + 6 - 8
      accumulator := accumulator }
  else
    { state with
      bitsCollected := state.bitsCollected + 6
      accumulator := accumulator }

/-- The loop over the characters; a character of no value ends it with the empty string. -/
def decodeFrom (state : Decoding) : Bytes → Except Fault Bytes
  | [] => .ok state.retval
  | byte :: rest =>
      let c := charValue byte
      if isSpace c || decide (c = charValue equalsSign) then decodeFrom state rest
      else do
        if ← rejected c then .ok []
        else
          let value ← reverseAt c
          decodeFrom (collect state value) rest

/-- The variables before the loop. -/
def decodeStart : Decoding where
  retval := []
  bitsCollected := 0
  accumulator := 0

/-- `base64_decode`. -/
def base64Decode (ascdata : Bytes) : Except Fault Bytes :=
  decodeFrom decodeStart ascdata

/-! ### The tables -/

/-- The characters of digits. -/
def textOf (digits : List Nat) : Bytes :=
  digits.map fun digit => b64Table.getD digit 0

theorem length_reverseTable : reverseTable.length = 128 := by
  decide +kernel

theorem table_inside : ∀ place < 64, b64Table[place]? = some (b64Table.getD place 0) := by
  decide +kernel

theorem table_digit (digit : UInt32) :
    b64Table[(digit &&& 0x3F).toNat]? = some (b64Table.getD ((digit &&& 0x3F).toNat) 0) := by
  have masked : (digit &&& 0x3F).toNat = digit.toNat % 64 :=
    Nat.and_two_pow_sub_one_eq_mod digit.toNat 6
  apply table_inside
  rw [masked]
  exact Nat.mod_lt _ (by decide)

/-- The character of a digit is no space and no padding, and the reverse table gives the
digit back. -/
theorem reverse_digit {digit : Nat} (small : digit < 64) :
    (isSpace (charValue (b64Table.getD digit 0))
        || decide (charValue (b64Table.getD digit 0) = charValue equalsSign)) = false ∧
      rejected (charValue (b64Table.getD digit 0)) = .ok false ∧
      reverseAt (charValue (b64Table.getD digit 0)) = .ok digit := by
  have all : ∀ digit < 64, (isSpace (charValue (b64Table.getD digit 0))
        || decide (charValue (b64Table.getD digit 0) = charValue equalsSign)) = false ∧
      rejected (charValue (b64Table.getD digit 0)) = .ok false ∧
      reverseAt (charValue (b64Table.getD digit 0)) = .ok digit := by
    decide +kernel
  exact all digit small

/-! ### The encoder -/

@[simp]
theorem length_textOf (digits : List Nat) : (textOf digits).length = digits.length :=
  List.length_map _

theorem textOf_concat (digits : List Nat) (last : Nat) :
    textOf (digits ++ [last]) = textOf digits ++ [b64Table.getD last 0] := by
  simp [textOf]

theorem toNat_digit (accumulator : UInt32) {left : Nat} (small : left < 32) :
    ((accumulator >>> UInt32.ofNat left) &&& 0x3F).toNat = (accumulator.toNat >>> left) % 2 ^ 6 := by
  have amount : (UInt32.ofNat left).toNat % 32 = left := by
    rw [UInt32.toNat_ofNat']
    omega
  rw [UInt32.toNat_and, UInt32.toNat_shiftRight, amount]
  exact Nat.and_two_pow_sub_one_eq_mod (accumulator.toNat >>> left) 6

theorem toNat_tailDigit (accumulator : UInt32) {missing : Nat} (small : missing < 32) :
    ((accumulator <<< UInt32.ofNat missing) &&& 0x3F).toNat
      = (accumulator.toNat <<< missing) % 2 ^ 6 := by
  have amount : (UInt32.ofNat missing).toNat % 32 = missing := by
    rw [UInt32.toNat_ofNat']
    omega
  have masked := Nat.and_two_pow_sub_one_eq_mod (accumulator.toNat <<< missing % 2 ^ 32) 6
  rw [UInt32.toNat_and, UInt32.toNat_shiftLeft, amount]
  refine masked.trans ?_
  exact Nat.mod_mod_of_dvd _ (by decide)

theorem toNat_take (accumulator : UInt32) (byte : UInt8) :
    ((accumulator <<< 8) ||| (byte.toUInt32 &&& 0xFF)).toNat
      = (accumulator.toNat <<< 8 ||| byte.toNat) % 2 ^ 32 := by
  have whole : (byte.toUInt32 &&& 0xFF).toNat = byte.toNat := by
    have masked := Nat.and_two_pow_sub_one_eq_mod byte.toNat 8
    have small : byte.toNat < 2 ^ 8 := byte.toNat_lt
    rw [UInt32.toNat_and, UInt8.toNat_toUInt32]
    exact masked.trans (Nat.mod_eq_of_lt small)
  have small : byte.toNat < 2 ^ 32 := Nat.lt_trans byte.toNat_lt (by decide)
  rw [UInt32.toNat_or, whole, Nat.or_mod_two_pow, Nat.mod_eq_of_lt small]
  rfl

/-- How far the encoder is with a string for which `total` characters are reserved. -/
structure Encodes (total : Nat) (taken digits : List Nat) (state : Encoding) : Prop where
  regrouped : Regrouped 8 6 taken digits state.bitsCollected state.accumulator.toNat
  small : ∀ digit ∈ digits, digit < 64
  text : state.retval = textOf digits ++ List.replicate (total - digits.length) equalsSign
  outpos : state.outpos = digits.length

/-- A digit takes the place of the first padding character that is left. -/
theorem putDigit_room {total : Nat} {digits : List Nat} (digit : UInt32)
    (room : digits.length < total) :
    putDigit (textOf digits ++ List.replicate (total - digits.length) equalsSign) digits.length
        (digit &&& 0x3F)
      = .ok (textOf (digits ++ [(digit &&& 0x3F).toNat])
          ++ List.replicate (total - (digits.length + 1)) equalsSign) := by
  have padding : total - digits.length = total - (digits.length + 1) + 1 := by omega
  have inside : digits.length < (textOf digits
      ++ List.replicate (total - digits.length) equalsSign).length := by
    simp
    omega
  unfold putDigit
  rw [table_digit]
  simp only [if_pos inside]
  rw [textOf_concat, padding, List.replicate_succ, List.set_append_right _ _ (by simp)]
  simp

/-- The inner loop writes every whole digit that is there, and nothing else. -/
theorem writeDigits_encodes {total : Nat} {taken : List Nat} (fits : 8 * taken.length ≤ 6 * total) :
    ∀ (bits : Nat) (digits : List Nat) (state : Encoding), state.bitsCollected = bits → bits < 32 →
      Encodes total taken digits state →
      ∃ digits' state', writeDigits state = .ok state' ∧ Encodes total taken digits' state' ∧
        state'.bitsCollected < 6 := by
  intro bits
  induction bits using Nat.strongRecOn with
  | ind bits inductionHypothesis =>
      intro digits state atBits few encodes
      rw [writeDigits]
      by_cases enough : 6 ≤ state.bitsCollected
      · have counted := encodes.regrouped.length
        have room : digits.length < total := by omega
        have left : state.bitsCollected - 6 < 32 := by omega
        have put := putDigit_room (state.accumulator >>> UInt32.ofNat (state.bitsCollected - 6))
          room
        have held : state.bitsCollected = state.bitsCollected - 6 + 6 := by omega
        have regrouped := encodes.regrouped
        rw [held] at regrouped
        have written := regrouped.write
        rw [← toNat_digit state.accumulator left] at written
        rw [← encodes.text, ← encodes.outpos] at put
        simp only [if_pos enough, put, bind, Except.bind]
        apply inductionHypothesis (state.bitsCollected - 6) (by omega) (digits
          ++ [((state.accumulator >>> UInt32.ofNat (state.bitsCollected - 6)) &&& 0x3F).toNat])
          _ rfl (by omega)
        constructor
        · exact written
        · intro digit among
          rcases List.mem_append.mp among with earlier | last
          · exact encodes.small digit earlier
          · rw [List.mem_singleton.mp last, toNat_digit state.accumulator left]
            exact Nat.mod_lt _ (by decide)
        · rw [List.length_append, List.length_singleton, encodes.outpos]
        · rw [List.length_append, List.length_singleton, encodes.outpos]
      · exact ⟨digits, state, if_neg enough, encodes, by omega⟩

theorem encodeByte_encodes {total : Nat} {taken digits : List Nat} {state : Encoding}
    (byte : UInt8) (fits : 8 * (taken.length + 1) ≤ 6 * total) (few : state.bitsCollected < 6)
    (encodes : Encodes total taken digits state) :
    ∃ digits' state', encodeByte state byte = .ok state' ∧
      Encodes total (taken ++ [byte.toNat]) digits' state' ∧ state'.bitsCollected < 6 := by
  have room : 8 * (taken ++ [byte.toNat]).length ≤ 6 * total := by simpa using fits
  have capacity : state.bitsCollected + 8 ≤ 32 := by omega
  have small : byte.toNat < 2 ^ 8 := byte.toNat_lt
  have regrouped := encodes.regrouped.take capacity small
  rw [← toNat_take state.accumulator byte] at regrouped
  exact writeDigits_encodes room (state.bitsCollected + 8) digits _ rfl (by omega)
    ⟨regrouped, encodes.small, encodes.text, encodes.outpos⟩

/-- The loop over the bytes. -/
theorem encodeBytes_encodes {total : Nat} (rest : Bytes) :
    ∀ (taken digits : List Nat) (state : Encoding), 8 * (taken.length + rest.length) ≤ 6 * total →
      state.bitsCollected < 6 → Encodes total taken digits state →
      ∃ digits' state', rest.foldlM encodeByte state = .ok state' ∧
        Encodes total (taken ++ rest.map UInt8.toNat) digits' state' ∧
        state'.bitsCollected < 6 := by
  induction rest with
  | nil =>
      intro taken digits state _ few encodes
      exact ⟨digits, state, rfl, by simpa using encodes, few⟩
  | cons byte rest inductionHypothesis =>
      intro taken digits state fits few encodes
      rw [List.length_cons] at fits
      obtain ⟨digits', state', encoded, encodes', few'⟩ :=
        encodeByte_encodes byte (by omega) few encodes
      have further := inductionHypothesis (taken ++ [byte.toNat]) digits' state'
        (by rw [List.length_append, List.length_singleton]; omega) few' encodes'
      rw [List.foldlM_cons, encoded]
      simpa [bind, Except.bind] using further

/-- What the encoder has written in the end: digits of all bits, filled with zeros, and
padding. -/
structure Encoded (total : Nat) (taken digits : List Nat) (filling : Nat) : Prop where
  row : bitRow 6 digits = bitRow 8 taken ++ List.replicate filling false
  small : ∀ digit ∈ digits, digit < 64
  part : filling < 6
  padding : total - 2 ≤ digits.length
  room : digits.length ≤ total

/-- The trailing bits become a last digit, which the code's own assertion allows. -/
theorem encodeTail_encodes {taken digits : List Nat} {state : Encoding}
    (few : state.bitsCollected < 6)
    (encodes : Encodes ((taken.length + 2) / 3 * 4) taken digits state) :
    ∃ digits' filling state', encodeTail state = .ok state' ∧
      Encoded ((taken.length + 2) / 3 * 4) taken digits' filling ∧
      state'.retval = textOf digits'
        ++ List.replicate ((taken.length + 2) / 3 * 4 - digits'.length) equalsSign ∧
      state'.outpos = digits'.length := by
  have counted := encodes.regrouped.length
  unfold encodeTail
  by_cases some : 0 < state.bitsCollected
  · have room : digits.length < (taken.length + 2) / 3 * 4 := by omega
    have missing : 6 - state.bitsCollected < 32 := by omega
    have put := putDigit_room (state.accumulator <<< UInt32.ofNat (6 - state.bitsCollected)) room
    have filled := encodes.regrouped.fill (Nat.le_of_lt few)
    rw [← toNat_tailDigit state.accumulator missing] at filled
    rw [← encodes.text, ← encodes.outpos] at put
    simp only [if_pos some, if_pos few, put, bind, Except.bind]
    refine ⟨_, 6 - state.bitsCollected, _, rfl, ⟨filled, ?_, by omega, ?_, ?_⟩, ?_, ?_⟩
    · intro digit among
      rcases List.mem_append.mp among with earlier | last
      · exact encodes.small digit earlier
      · rw [List.mem_singleton.mp last, toNat_tailDigit state.accumulator missing]
        exact Nat.mod_lt _ (by decide)
    · rw [List.length_append, List.length_singleton]
      omega
    · rw [List.length_append, List.length_singleton]
      omega
    · rw [List.length_append, List.length_singleton, encodes.outpos]
    · rw [List.length_append, List.length_singleton, encodes.outpos]
  · have none : state.bitsCollected = 0 := by omega
    have row := encodes.regrouped.row
    rw [none, bitsOf, List.append_nil] at row
    rw [none] at counted
    rw [if_neg some]
    exact ⟨digits, 0, state, rfl,
      ⟨by simpa using row, encodes.small, by decide, by omega, by omega⟩,
      encodes.text, encodes.outpos⟩

theorem encodeStart_encodes {binlen : Nat} (bounded : binlen ≤ sizeTypeMax / 4 * 3) :
    Encodes ((binlen + 2) / 3 * 4) [] [] (encodeStart binlen) := by
  have whole : (binlen + 2) / 3 * 4 % (sizeTypeMax + 1) = (binlen + 2) / 3 * 4 := by
    unfold sizeTypeMax at bounded ⊢
    omega
  refine ⟨Regrouped.start 8 6 _, by simp, ?_, rfl⟩
  simp [encodeStart, whole, textOf]

/-- A string that is not empty, and not too large, is encoded. -/
theorem base64Encode_encoded {bindata : Bytes} (occupied : bindata ≠ [])
    (bounded : bindata.length ≤ sizeTypeMax / 4 * 3) :
    ∃ digits filling,
      Encoded ((bindata.length + 2) / 3 * 4) (bindata.map UInt8.toNat) digits filling ∧
      base64Encode bindata = .ok (textOf digits
        ++ List.replicate ((bindata.length + 2) / 3 * 4 - digits.length) equalsSign) := by
  have positive : 0 < bindata.length := List.length_pos_iff.mpr occupied
  have fits : 8 * (([] : List Nat).length + bindata.length)
      ≤ 6 * ((bindata.length + 2) / 3 * 4) := by
    simp only [List.length_nil]
    omega
  have start : (encodeStart bindata.length).bitsCollected < 6 := by
    simp [encodeStart]
  obtain ⟨digits, collected, ran, encodes, few⟩ :=
    encodeBytes_encodes bindata [] [] (encodeStart bindata.length) fits start
      (encodeStart_encodes bounded)
  have lengths : (bindata.map UInt8.toNat).length = bindata.length := List.length_map _
  rw [List.nil_append] at encodes
  rw [← lengths] at encodes
  obtain ⟨digits', filling, tailed, tailRan, encoded, text, outpos⟩ :=
    encodeTail_encodes few encodes
  rw [lengths] at encoded text
  refine ⟨digits', filling, encoded, ?_⟩
  have whole : tailed.retval.length = (bindata.length + 2) / 3 * 4 := by
    have room := encoded.room
    rw [text, List.length_append, List.length_replicate, length_textOf]
    omega
  have holds : sizeSub tailed.retval.length 2 ≤ tailed.outpos ∧
      tailed.outpos ≤ tailed.retval.length := by
    have padding := encoded.padding
    have room := encoded.room
    rw [whole, outpos]
    unfold sizeSub sizeTypeMax at *
    omega
  unfold base64Encode
  rw [if_neg (Nat.not_lt.mpr bounded)]
  simp only [ran, tailRan, bind, Except.bind, encodeEnd]
  rw [if_pos holds, text]

/-! ### The decoder -/

/-- How far the decoder is with the values of some characters. -/
structure Decodes (taken : List Nat) (state : Decoding) : Prop where
  regrouped : Regrouped 6 8 taken (state.retval.map UInt8.toNat) state.bitsCollected
    state.accumulator.toNat
  few : state.bitsCollected < 8

theorem toNat_takeDigit (accumulator : UInt32) {digit : Nat} (small : digit < 64) :
    ((accumulator <<< 6) ||| UInt32.ofNat digit).toNat
      = (accumulator.toNat <<< 6 ||| digit) % 2 ^ 32 := by
  have fits : digit < 2 ^ 32 := Nat.lt_trans small (by decide)
  have whole : (UInt32.ofNat digit).toNat = digit := by
    rw [UInt32.toNat_ofNat']
    exact Nat.mod_eq_of_lt fits
  rw [UInt32.toNat_or, whole, Nat.or_mod_two_pow, Nat.mod_eq_of_lt fits]
  rfl

theorem toNat_byte (accumulator : UInt32) {left : Nat} (small : left < 32) :
    (UInt8.ofNat ((accumulator >>> UInt32.ofNat left) &&& 0xFF).toNat).toNat
      = (accumulator.toNat >>> left) % 2 ^ 8 := by
  have amount : (UInt32.ofNat left).toNat % 32 = left := by
    rw [UInt32.toNat_ofNat']
    omega
  have masked := Nat.and_two_pow_sub_one_eq_mod (accumulator.toNat >>> left) 8
  rw [UInt8.toNat_ofNat', UInt32.toNat_and, UInt32.toNat_shiftRight, amount]
  exact (congrArg (· % 2 ^ 8) masked).trans (Nat.mod_mod _ _)

theorem collect_decodes {taken : List Nat} {state : Decoding} {digit : Nat} (small : digit < 64)
    (decodes : Decodes taken state) : Decodes (taken ++ [digit]) (collect state digit) := by
  have few := decodes.few
  have capacity : state.bitsCollected + 6 ≤ 32 := by omega
  have fits : digit < 2 ^ 6 := small
  have regrouped := decodes.regrouped.take capacity fits
  rw [← toNat_takeDigit state.accumulator small] at regrouped
  unfold collect
  by_cases enough : 8 ≤ state.bitsCollected + 6
  · have held : state.bitsCollected + 6 = state.bitsCollected + 6 - 8 + 8 := by omega
    have left : state.bitsCollected + 6 - 8 < 32 := by omega
    rw [held] at regrouped
    have written := regrouped.write
    rw [← toNat_byte _ left] at written
    simp only [if_pos enough]
    refine ⟨?_, by simp only; omega⟩
    rw [List.map_append, List.map_singleton]
    exact written
  · simp only [if_neg enough]
    exact ⟨regrouped, by simp only; omega⟩

/-- A character that stands for a value is collected. -/
theorem decodeFrom_collect {byte : UInt8} {value : Nat} (state : Decoding) (rest : Bytes)
    (plain : (isSpace (charValue byte)
      || decide (charValue byte = charValue equalsSign)) = false)
    (accepted : rejected (charValue byte) = .ok false)
    (read : reverseAt (charValue byte) = .ok value) :
    decodeFrom state (byte :: rest) = decodeFrom (collect state value) rest := by
  rw [decodeFrom]
  simp [plain, accepted, read, bind, Except.bind]

/-- The characters of digits are collected one after the other. -/
theorem decodeFrom_textOf (digits : List Nat) :
    ∀ (taken : List Nat) (state : Decoding), (∀ digit ∈ digits, digit < 64) →
      Decodes taken state →
      ∃ state', Decodes (taken ++ digits) state' ∧
        ∀ rest, decodeFrom state (textOf digits ++ rest) = decodeFrom state' rest := by
  induction digits with
  | nil =>
      intro taken state _ decodes
      exact ⟨state, by simpa using decodes, fun rest => rfl⟩
  | cons digit digits inductionHypothesis =>
      intro taken state small decodes
      have first : digit < 64 := small digit List.mem_cons_self
      obtain ⟨state', decodes', same⟩ :=
        inductionHypothesis (taken ++ [digit]) (collect state digit)
          (fun value among => small value (List.mem_cons_of_mem _ among))
          (collect_decodes first decodes)
      obtain ⟨plain, accepted, value⟩ := reverse_digit first
      refine ⟨state', by simpa using decodes', fun rest => ?_⟩
      rw [← same rest]
      exact decodeFrom_collect state (textOf digits ++ rest) plain accepted value

theorem decodeFrom_padding (state : Decoding) (count : Nat) :
    decodeFrom state (List.replicate count equalsSign) = .ok state.retval := by
  induction count with
  | zero => rfl
  | succ count inductionHypothesis =>
      rw [List.replicate_succ, decodeFrom]
      simp [inductionHypothesis]

/-- Decoding what was encoded gives the bytes back. -/
theorem base64Decode_encoded {bindata : Bytes} {total filling : Nat} {digits : List Nat}
    (encoded : Encoded total (bindata.map UInt8.toNat) digits filling) (count : Nat) :
    base64Decode (textOf digits ++ List.replicate count equalsSign) = .ok bindata := by
  obtain ⟨state, decodes, same⟩ :=
    decodeFrom_textOf digits [] decodeStart encoded.small ⟨Regrouped.start 6 8 _, by decide⟩
  have byteFits : ∀ (bytes : Bytes), ∀ group ∈ bytes.map UInt8.toNat, group < 2 ^ 8 := by
    intro bytes group among
    obtain ⟨byte, _, rfl⟩ := List.mem_map.mp among
    exact byte.toNat_lt
  have part := encoded.part
  have numbers : state.retval.map UInt8.toNat = bindata.map UInt8.toNat :=
    decodes.regrouped.inverse encoded.row (byteFits bindata) (byteFits state.retval) decodes.few
      (by omega)
  have bytes : state.retval = bindata :=
    (List.map_inj_right fun _ _ equal => UInt8.toNat_inj.mp equal).mp numbers
  unfold base64Decode
  rw [same, decodeFrom_padding, bytes]

/-! ### The table of the decoder -/

/-- The table is read inside its bounds wherever it is read. -/
theorem reverseAt_inside {c : Int} (low : 0 ≤ c) (high : c ≤ 127) :
    ∃ value, reverseAt c = .ok value := by
  have inside : c.toNat < reverseTable.length := by
    rw [length_reverseTable]
    omega
  refine ⟨reverseTable[c.toNat], ?_⟩
  simp [reverseAt, low, List.getElem?_eq_getElem inside]

/-- No string makes the decoder leave its table. -/
theorem decodeFrom_inside (rest : Bytes) :
    ∀ state, ∃ bytes, decodeFrom state rest = .ok bytes := by
  induction rest with
  | nil =>
      intro state
      exact ⟨state.retval, rfl⟩
  | cons byte rest inductionHypothesis =>
      intro state
      rw [decodeFrom]
      by_cases skipped : (isSpace (charValue byte)
          || decide (charValue byte = charValue equalsSign)) = true
      · simpa only [skipped, if_true] using inductionHypothesis state
      · by_cases high : charValue byte > 127
        · exact ⟨[], by simp [skipped, rejected, high, bind, Except.bind]⟩
        · by_cases low : charValue byte < 0
          · exact ⟨[], by simp [skipped, rejected, high, low, bind, Except.bind]⟩
          · obtain ⟨value, read⟩ := reverseAt_inside (Int.not_lt.mp low) (Int.not_lt.mp high)
            by_cases unknown : value > 63
            · exact ⟨[], by
                simp [skipped, rejected, high, low, read, unknown, bind, Except.bind]⟩
            · have accepted : rejected (charValue byte) = .ok false := by
                simp [rejected, high, low, read, unknown, bind, Except.bind]
              rw [← decodeFrom, decodeFrom_collect state rest (by simpa using skipped) accepted read]
              exact inductionHypothesis (collect state value)

theorem base64Decode_inside (ascdata : Bytes) : ∃ bytes, base64Decode ascdata = .ok bytes :=
  decodeFrom_inside ascdata decodeStart

/-! ### The codec -/

/-- Both functions end, the text has four characters for each started group of three bytes,
and decoding it gives the bytes back. -/
def RoundTrips (bindata : Bytes) : Prop :=
  ∃ text, base64Encode bindata = .ok text ∧ text.length = 4 * ((bindata.length + 2) / 3) ∧
    base64Decode text = .ok bindata

/-- The empty string fails the encoder's assertion: no length can be two below zero. -/
theorem base64Encode_empty : base64Encode [] = .error .assertion := by
  decide

theorem roundTrips_of_bounded {bindata : Bytes} (occupied : bindata ≠ [])
    (bounded : bindata.length ≤ sizeTypeMax / 4 * 3) : RoundTrips bindata := by
  obtain ⟨digits, filling, encoded, text⟩ := base64Encode_encoded occupied bounded
  have room := encoded.room
  refine ⟨_, text, ?_, base64Decode_encoded encoded _⟩
  rw [List.length_append, List.length_replicate, length_textOf]
  omega

/-- The codec gives back every string but the empty one and those that the encoder turns
away, and the decoder stays inside its table whatever it reads. -/
theorem base64_codec (bindata ascdata : Bytes) :
    (∃ bytes, base64Decode ascdata = .ok bytes) ∧
      (RoundTrips bindata ↔ bindata ≠ [] ∧ bindata.length ≤ sizeTypeMax / 4 * 3) := by
  refine ⟨base64Decode_inside ascdata, ?_, fun condition =>
    roundTrips_of_bounded condition.1 condition.2⟩
  rintro ⟨text, encoded, _, decoded⟩
  by_cases empty : bindata = []
  · rw [empty, base64Encode_empty] at encoded
    exact nomatch encoded
  · refine ⟨empty, ?_⟩
    by_contra large
    have turnedAway : base64Encode bindata = .ok [] := by
      unfold base64Encode
      rw [if_pos (Nat.lt_of_not_le large)]
    rw [turnedAway] at encoded
    cases encoded
    have nothing : base64Decode [] = .ok [] := rfl
    rw [nothing] at decoded
    exact empty (Except.ok.inj decoded).symm

theorem base64_codec_empty : ¬ RoundTrips [] := by
  rintro ⟨text, encoded, _⟩
  rw [base64Encode_empty] at encoded
  exact nomatch encoded

end AChat.Security
