import AChat.Security.Md5

/-!
Contract: `MD5_Update` may be given a message in any pieces, and `EncryptPass` returns the
digest of the padded message as text.

Owns:
- `Absorbed`: what a context holds of the bytes given to it so far;
- the step of `MD5_Update`, the run over a list of pieces, and the end in `MD5_Final`;
- the text of `EncryptPass`.

Does not own: a piece of nearly 2^32 bytes behind an odd number of bytes, where
`i + 63` leaves 32 bits.
-/

namespace AChat.Security.Md5

open AChat.Lib

/-! ### The digest of a whole message -/

/-- A one bit, zeros up to eight bytes before the end of a block, and the number of bits. -/
def messagePadding (length : Nat) : Bytes :=
  0x80 :: List.replicate ((119 - length % 64) % 64) 0 ++ littleEndian 8 (8 * length)

/-- The digest of a message given at once. -/
def digest (message : Bytes) : Bytes :=
  encodeState (absorb 64 transform initial (message ++ messagePadding message.length))

/-! ### The counter -/

/-- The two words together. -/
def bitCount (count0 count1 : BitVec 32) : Nat :=
  count1.toNat * 4294967296 + count0.toNat

/-- The carry between the two words of the counter. -/
theorem bitCount_added (count0 count1 len : BitVec 32) :
    bitCount (count0 + len <<< 3)
        ((if count0 + len <<< 3 < len <<< 3 then count1 + 1 else count1) + len >>> 29)
      = (bitCount count0 count1 + 8 * len.toNat) % 18446744073709551616 := by
  have shifted : (len <<< 3).toNat = len.toNat * 8 % 4294967296 := by
    simp [Nat.shiftLeft_eq]
  have high : (len >>> 29).toNat = len.toNat / 536870912 := by
    simp [Nat.shiftRight_eq_div_pow]
  have low := len.isLt
  have low0 := count0.isLt
  have low1 := count1.isLt
  unfold bitCount
  split
  · next carry =>
      rw [BitVec.lt_def, BitVec.toNat_add, shifted] at carry
      have one : (1 : BitVec 32).toNat = 1 := rfl
      rw [BitVec.toNat_add, BitVec.toNat_add, BitVec.toNat_add, shifted, high, one]
      omega
  · next fits =>
      rw [BitVec.lt_def, BitVec.toNat_add, shifted] at fits
      rw [BitVec.toNat_add, BitVec.toNat_add, shifted, high]
      omega

/-- Where the next byte goes. -/
theorem index_eq (count0 : BitVec 32) :
    ((count0 >>> 3) &&& 0x3f#32).toNat = count0.toNat / 8 % 64 := by
  have masked := Nat.and_two_pow_sub_one_eq_mod (count0 >>> 3).toNat 6
  rw [BitVec.toNat_and]
  exact masked.trans (by simp [Nat.shiftRight_eq_div_pow])

/-! ### The loop over the complete blocks -/

theorem transformBlocks_eq (state : Registers) (buf : Bytes) (len i : Nat)
    (readable : len ≤ buf.length) (started : i ≤ len) (fits : len < 4294967296)
    (bounded : len + 63 < 4294967296 ∨ i % 64 = 0) :
    transformBlocks state buf len i
      = .ok (absorb 64 transform state ((buf.take len).drop i), len - (len - i) % 64) := by
  fun_induction transformBlocks state buf len i with
  | case1 state i more block inductionHypothesis =>
      have read : readWithin Fault.index buf i 64 = .ok (((buf.take len).drop i).take 64) := by
        rw [readWithin_of_le (by omega)]
        rw [List.drop_take, List.take_take, Nat.min_eq_left (by omega)]
      have again := inductionHypothesis (((buf.take len).drop i).take 64) (by omega) (by omega)
      have left : (len - (i + 64)) % 64 = (len - i) % 64 := by omega
      have long : 64 ≤ ((buf.take len).drop i).length := by
        rw [List.length_drop, List.length_take]
        omega
      rw [read]
      change transformBlocks _ buf len (i + 64) = _
      rw [again, absorb_block state (by omega) long, List.drop_drop, left]
  | case2 state i more outside =>
      unfold uint32 at more
      omega
  | case3 state i done =>
      unfold uint32 at done
      have short : ((buf.take len).drop i).length < 64 := by
        rw [List.length_drop, List.length_take]
        omega
      rw [absorb_short state short]
      have place : len - (len - i) % 64 = i := by omega
      rw [place]

/-! ### What a context holds -/

/-- The complete blocks are in the registers, the bytes behind them in the buffer, and the
counter has the number of bits. -/
structure Absorbed (context : Context) (message : Bytes) : Prop where
  state : context.state = absorb 64 transform initial message
  count : bitCount context.count0 context.count1 = 8 * message.length % 18446744073709551616
  room : context.buffer.length = 64
  pending : context.buffer.take (message.length % 64) = leftover 64 message

theorem md5Init_absorbed {buffer : Bytes} (room : buffer.length = 64) :
    Absorbed (md5Init buffer) [] where
  state := (absorb_short initial (by decide)).symm
  count := by simp [md5Init, bitCount]
  room := room
  pending := by simp [leftover]

theorem Absorbed.index {context : Context} {message : Bytes} (held : Absorbed context message) :
    ((context.count0 >>> 3) &&& 0x3f#32).toNat = message.length % 64 := by
  have count := held.count
  have low := context.count0.isLt
  unfold bitCount at count
  rw [index_eq]
  omega

/-- A piece that may be given to an update: `i + 63` stays within 32 bits, or the blocks of
the piece start where its bytes do. -/
def Acceptable (message : Bytes) (len : Nat) : Prop :=
  len + 63 < 4294967296 ∨ message.length % 64 = 0

/-- A piece that does not fill the buffer. -/
theorem md5Update_short {context : Context} {message buf : Bytes} {len : BitVec 32}
    (held : Absorbed context message) (readable : len.toNat ≤ buf.length)
    (short : message.length % 64 + len.toNat < 64) :
    ∃ after, md5Update context buf len = .ok after ∧
      Absorbed after (message ++ buf.take len.toNat) := by
  have index := held.index
  have room := held.room
  have size : (leftover 64 message ++ buf.take len.toNat).length < 64 := by
    rw [List.length_append, length_leftover, List.length_take]
    omega
  have read : readWithin Fault.index buf 0 len.toNat = .ok (buf.take len.toNat) := by
    rw [readWithin_of_le (by omega), List.drop_zero]
  have few : (buf.take len.toNat).length = len.toNat := List.length_take_of_le readable
  have written := @writeWithin_of_le _ _ Fault.index context.buffer (message.length % 64)
    (buf.take len.toNat) (by omega)
  refine ⟨{ context with
    count0 := context.count0 + len <<< 3
    count1 := (if context.count0 + len <<< 3 < len <<< 3 then context.count1 + 1
      else context.count1) + len >>> 29
    buffer := context.buffer.take (message.length % 64) ++ buf.take len.toNat ++
      context.buffer.drop (message.length % 64 + (buf.take len.toNat).length) }, ?_, ?_, ?_, ?_, ?_⟩
  · unfold md5Update
    simp only [index, if_neg (show ¬ 64 - message.length % 64 ≤ len.toNat by omega), read,
      written, bind, Except.bind]
  · rw [absorb_append transform initial message _ (by omega), absorb_short _ size]
    exact held.state
  · rw [bitCount_added, held.count, List.length_append, few]
    omega
  · simp only [List.length_append, List.length_take, List.length_drop, room]
    omega
  · have total : (message ++ buf.take len.toNat).length % 64
        = message.length % 64 + len.toNat := by
      rw [List.length_append, few]
      omega
    rw [total, leftover_append message _ (by omega), leftover_short size, held.pending]
    apply List.take_left'
    rw [List.length_append, length_leftover, few]

/-- A piece that fills the buffer. -/
theorem md5Update_full {context : Context} {message buf : Bytes} {len : BitVec 32}
    (held : Absorbed context message) (readable : len.toNat ≤ buf.length)
    (acceptable : Acceptable message len.toNat)
    (long : 64 ≤ message.length % 64 + len.toNat) :
    ∃ after, md5Update context buf len = .ok after ∧
      Absorbed after (message ++ buf.take len.toNat) := by
  have index := held.index
  have room := held.room
  have small := len.isLt
  have within : message.length % 64 < 64 := Nat.mod_lt _ (by omega)
  obtain ⟨partLen, part⟩ : ∃ partLen, partLen = 64 - message.length % 64 := ⟨_, rfl⟩
  have few : (buf.take len.toNat).length = len.toNat := List.length_take_of_le readable
  have pieceSize : (buf.take partLen).length = partLen := by
    rw [List.length_take]
    omega
  have read : readWithin Fault.index buf 0 partLen = .ok (buf.take partLen) := by
    rw [readWithin_of_le (by omega), List.drop_zero]
  have filled : writeWithin Fault.index context.buffer (message.length % 64) (buf.take partLen)
      = .ok (leftover 64 message ++ buf.take partLen) := by
    rw [writeWithin_of_le (by omega), held.pending, List.drop_eq_nil_of_le (by omega),
      List.append_nil]
  have loop := transformBlocks_eq
    (transform context.state (leftover 64 message ++ buf.take partLen)) buf len.toNat partLen
    readable (by omega) (by omega) (by unfold Acceptable at acceptable; omega)
  obtain ⟨count, left⟩ : ∃ count, count = (len.toNat - partLen) % 64 := ⟨_, rfl⟩
  rw [← left] at loop
  have rest : readWithin Fault.index buf (len.toNat - count) (len.toNat - (len.toNat - count))
      = .ok (leftover 64 ((buf.take len.toNat).drop partLen)) := by
    have whole := Nat.div_add_mod' (len.toNat - partLen) 64
    have behind : partLen + (len.toNat - partLen) / 64 * 64 = len.toNat - count := by omega
    rw [readWithin_of_le (by omega), leftover, List.drop_drop, List.length_drop, few, behind,
      List.drop_take]
  have restSize : (leftover 64 ((buf.take len.toNat).drop partLen)).length = count := by
    rw [length_leftover, List.length_drop, few, left]
  have bufferSize : (leftover 64 message ++ buf.take partLen).length = 64 := by
    rw [List.length_append, length_leftover, pieceSize]
    omega
  have kept := @writeWithin_of_le _ _ Fault.index (leftover 64 message ++ buf.take partLen) 0
    (leftover 64 ((buf.take len.toNat).drop partLen)) (by omega)
  -- The first block of the leftover and the piece, and what is behind it.
  have split : leftover 64 message ++ buf.take len.toNat
      = (leftover 64 message ++ buf.take partLen) ++ (buf.take len.toNat).drop partLen := by
    have front : (buf.take len.toNat).take partLen = buf.take partLen := by
      rw [List.take_take, Nat.min_eq_left (by omega)]
    rw [List.append_assoc, ← front, List.take_append_drop]
  have enough : 64 ≤ (leftover 64 message ++ buf.take len.toNat).length := by
    rw [List.length_append, length_leftover, few]
    omega
  refine ⟨{
    state := absorb 64 transform
      (transform context.state (leftover 64 message ++ buf.take partLen))
      ((buf.take len.toNat).drop partLen)
    count0 := context.count0 + len <<< 3
    count1 := (if context.count0 + len <<< 3 < len <<< 3 then context.count1 + 1
      else context.count1) + len >>> 29
    buffer := (leftover 64 message ++ buf.take partLen).take 0 ++
      leftover 64 ((buf.take len.toNat).drop partLen) ++
      (leftover 64 message ++ buf.take partLen).drop
        (0 + (leftover 64 ((buf.take len.toNat).drop partLen)).length) }, ?_, ?_, ?_, ?_, ?_⟩
  · unfold md5Update
    simp only [index, ← part, if_pos (show partLen ≤ len.toNat by omega), read, filled, loop, rest,
      kept, bind, Except.bind]
  · rw [absorb_append transform initial message _ (by omega),
      absorb_block _ (by omega) enough, split, List.take_left' bufferSize,
      List.drop_left' bufferSize, held.state]
  · rw [bitCount_added, held.count, List.length_append, few]
    omega
  · rw [List.take_zero, List.nil_append, List.length_append, List.length_drop, bufferSize,
      restSize]
    omega
  · have total : (message ++ buf.take len.toNat).length % 64 = count := by
      rw [List.length_append, few]
      omega
    rw [total, leftover_append message _ (by omega), leftover_block (by omega) enough, split,
      List.drop_left' bufferSize, List.take_zero, List.nil_append]
    exact List.take_left' restSize

/-- One update. -/
theorem md5Update_absorbed {context : Context} {message buf : Bytes} {len : BitVec 32}
    (held : Absorbed context message) (readable : len.toNat ≤ buf.length)
    (acceptable : Acceptable message len.toNat) :
    ∃ after, md5Update context buf len = .ok after ∧
      Absorbed after (message ++ buf.take len.toNat) := by
  by_cases short : message.length % 64 + len.toNat < 64
  · exact md5Update_short held readable short
  · exact md5Update_full held readable acceptable (by omega)

/-! ### The end of a digest -/

theorem encodeWord_eq (word : BitVec 32) :
    encodeWord word = [UInt8.ofNat word.toNat, UInt8.ofNat (word.toNat / 256),
      UInt8.ofNat (word.toNat / 65536), UInt8.ofNat (word.toNat / 16777216)] := by
  have lowest : UInt8.ofBitVec (word.setWidth 8) = UInt8.ofNat word.toNat := by
    simpa using byte_of_word word 0
  have masked (word : BitVec 32) : (word &&& 0xff#32).setWidth 8 = word.setWidth 8 :=
    mask_byte word
  simp only [encodeWord, masked, byte_of_word, lowest]
  rfl

theorem ofNat_congr {left right : Nat} (same : left % 256 = right % 256) :
    UInt8.ofNat left = UInt8.ofNat right := by
  apply UInt8.toNat_inj.mp
  rw [UInt8.toNat_ofNat', UInt8.toNat_ofNat']
  exact same

/-- The two words of the counter, encoded, are the number of bits. -/
theorem encoded_count {count0 count1 : BitVec 32} {bits : Nat}
    (count : bitCount count0 count1 = bits % 18446744073709551616) :
    encodeWord count0 ++ encodeWord count1 = littleEndian 8 bits := by
  have low := count0.isLt
  unfold bitCount at count
  have first : count0.toNat = bits % 4294967296 := by omega
  have second : count1.toNat = bits / 4294967296 % 4294967296 := by omega
  rw [encodeWord_eq, encodeWord_eq, first, second]
  simp only [littleEndian, bigEndian, List.nil_append, List.cons_append, List.reverse_cons,
    List.reverse_nil, List.cons.injEq, and_true]
  refine ⟨?_, ?_, ?_, ?_, ?_, ?_, ?_, ?_⟩ <;> apply ofNat_congr <;> omega

/-- The last two updates: the padding that completes a block, and the counter. -/
theorem md5Final_eq {context : Context} {message : Bytes} (held : Absorbed context message) :
    md5Final context = .ok (digest message) := by
  have index := held.index
  have bits := encoded_count held.count
  obtain ⟨padLen, length⟩ : ∃ padLen, padLen = if message.length % 64 < 56 then
    56 - message.length % 64 else 120 - message.length % 64 := ⟨_, rfl⟩
  have small : 0 < padLen ∧ padLen ≤ 64 ∧ (119 - message.length % 64) % 64 = padLen - 1 := by
    split at length <;> omega
  have padBits : (BitVec.ofNat 32 padLen).toNat = padLen := by
    rw [BitVec.toNat_ofNat]
    omega
  have long : padding.length = 64 := rfl
  have cut : padding.take padLen
      = 0x80 :: List.replicate ((119 - message.length % 64) % 64) 0 := by
    obtain ⟨zeros, rfl⟩ : ∃ zeros, padLen = zeros + 1 := ⟨padLen - 1, by omega⟩
    rw [padding, List.take_succ_cons, List.take_replicate, small.2.2, Nat.add_sub_cancel,
      Nat.min_eq_left (by omega)]
  obtain ⟨padded, first, paddedHeld⟩ :=
    @md5Update_absorbed _ _ padding (BitVec.ofNat 32 padLen) held (by rw [padBits]; omega)
      (.inl (by rw [padBits]; omega))
  rw [padBits, cut] at paddedHeld
  have eight : (8 : BitVec 32).toNat = 8 := rfl
  have bitsLength : (encodeWord context.count0 ++ encodeWord context.count1).length = 8 := rfl
  obtain ⟨whole, second, wholeHeld⟩ :=
    @md5Update_absorbed _ _ (encodeWord context.count0 ++ encodeWord context.count1) 8 paddedHeld
      (by rw [eight, bitsLength]) (.inl (by rw [eight]; omega))
  rw [eight, List.take_of_length_le (by rw [bitsLength]), bits, List.append_assoc] at wholeHeld
  unfold md5Final
  simp only [index, ← length, first, second, bind, Except.bind]
  exact congrArg (fun state => Except.ok (encodeState state)) wholeHeld.state

/-- Updates with the pieces of a message, in order. -/
theorem md5_streaming {buffer : Bytes} (room : buffer.length = 64) (pieces : List Bytes)
    (bounded : ∀ piece ∈ pieces, piece.length + 63 < 4294967296) :
    ∃ context,
      pieces.foldlM (fun context piece => md5Update context piece (BitVec.ofNat 32 piece.length))
        (md5Init buffer) = .ok context ∧
      Absorbed context pieces.flatten ∧ md5Final context = .ok (digest pieces.flatten) := by
  suffices run : ∀ (context : Context) (message : Bytes), Absorbed context message →
      ∃ after,
        pieces.foldlM (fun context piece => md5Update context piece (BitVec.ofNat 32 piece.length))
          context = .ok after ∧ Absorbed after (message ++ pieces.flatten) by
    obtain ⟨context, updated, held⟩ := run _ _ (md5Init_absorbed room)
    exact ⟨context, updated, held, md5Final_eq held⟩
  induction pieces with
  | nil =>
      intro context message held
      refine ⟨context, rfl, ?_⟩
      rw [List.flatten_nil, List.append_nil]
      exact held
  | cons piece pieces inductionHypothesis =>
      intro context message held
      have small : piece.length + 63 < 4294967296 := bounded piece List.mem_cons_self
      have size : (BitVec.ofNat 32 piece.length).toNat = piece.length := by
        rw [BitVec.toNat_ofNat]
        omega
      obtain ⟨next, updated, nextHeld⟩ :=
        @md5Update_absorbed _ _ piece (BitVec.ofNat 32 piece.length) held (by rw [size])
          (.inl (by rw [size]; exact small))
      rw [size, List.take_length] at nextHeld
      obtain ⟨after, rest, afterHeld⟩ :=
        inductionHypothesis (fun piece member => bounded piece (List.mem_cons_of_mem _ member))
          next _ nextHeld
      refine ⟨after, ?_, ?_⟩
      · rw [List.foldlM_cons, updated]
        exact rest
      · rw [List.flatten_cons, ← List.append_assoc]
        exact afterHeld

theorem md5_streaming_abc :
    ∃ context,
      [[97], [], [98, 99]].foldlM
        (fun context piece => md5Update context piece (BitVec.ofNat 32 piece.length))
        (md5Init (List.replicate 64 7)) = .ok context ∧
      Absorbed context [97, 98, 99] ∧ md5Final context = .ok (digest [97, 98, 99]) :=
  md5_streaming (List.length_replicate) [[97], [], [98, 99]] (by decide)

/-! ### The text of a password -/

/-- `0` to `9` and `a` to `f`. -/
def LowerHex (character : UInt8) : Prop :=
  48 ≤ character.toNat ∧ character.toNat ≤ 57 ∨ 97 ≤ character.toNat ∧ character.toNat ≤ 102

theorem hexDigit_lower {value : Nat} (small : value < 16) : LowerHex (hexDigit value) := by
  unfold LowerHex hexDigit
  split
  · left
    rw [UInt8.toNat_ofNat']
    omega
  · right
    rw [UInt8.toNat_ofNat']
    omega

theorem hexByte_lower (byte : UInt8) : ∀ character ∈ hexByte byte, LowerHex character := by
  have high : (byte &&& 0xF0).toNat ≤ 0xF0 := by
    rw [UInt8.toNat_and]
    exact Nat.and_le_right
  have low : (byte &&& 0x0F).toNat ≤ 0x0F := by
    rw [UInt8.toNat_and]
    exact Nat.and_le_right
  have first : (byte &&& 0xF0).toNat >>> 4 < 16 := by
    rw [Nat.shiftRight_eq_div_pow]
    omega
  intro character member
  rw [hexByte, List.mem_cons, List.mem_singleton] at member
  obtain rfl | rfl := member
  · exact hexDigit_lower first
  · exact hexDigit_lower (by omega)

theorem length_digest (message : Bytes) : (digest message).length = 16 :=
  rfl

/-- The text of a digest. -/
def hexText (message : Bytes) : Bytes :=
  (digest message).flatMap hexByte

theorem length_hexText (message : Bytes) : (hexText message).length = 32 :=
  rfl

theorem md5Calculate_eq {stack pContent : Bytes} (room : stack.length = 64)
    (fits : pContent.length < 4294967296) :
    md5Calculate stack pContent (BitVec.ofNat 32 pContent.length)
      = .ok (hexText pContent ++ [0]) := by
  have size : (BitVec.ofNat 32 pContent.length).toNat = pContent.length := by
    rw [BitVec.toNat_ofNat]
    omega
  obtain ⟨context, updated, held⟩ :=
    @md5Update_absorbed _ _ pContent (BitVec.ofNat 32 pContent.length) (md5Init_absorbed room)
      (by rw [size]) (.inr rfl)
  rw [size, List.take_length, List.nil_append] at held
  unfold md5Calculate
  simp only [updated, md5Final_eq held, bind, Except.bind]
  rfl

/-- `EncryptPass` of any password that a call can give it: thirty-two lower-case hexadecimal
digits, those of the digest, with the terminator in the last of the thirty-three bytes. -/
theorem encryptPass_text {stack password : Bytes} (heap : Heap) (out : Out)
    (room : stack.length = 64) (occupied : password ≠ [])
    (fits : password.length < 4294967296) :
    encryptPass heap stack (some password) (BitVec.ofNat 32 password.length) out
        = .ok (0, { data := some (hexText password ++ [0]), outLen := 32 }) ∧
      (hexText password).length = 32 ∧
      ∀ character ∈ hexText password, LowerHex character := by
  have positive : 0 < password.length := List.length_pos_iff.mpr occupied
  have size : (BitVec.ofNat 32 password.length).toNat = password.length := by
    rw [BitVec.toNat_ofNat]
    omega
  have digits := length_hexText password
  have written : writeWithin Fault.index (malloc heap 33) 0 (hexText password ++ [0])
      = .ok (hexText password ++ [0]) := by
    rw [writeWithin_of_le (by rw [length_malloc, List.length_append, digits]; decide),
      List.drop_eq_nil_of_le (by rw [length_malloc, List.length_append, digits]; decide),
      List.take_zero, List.nil_append, List.append_nil]
  have terminated : writeWithin Fault.index (hexText password ++ [0]) 32 [0]
      = .ok (hexText password ++ [0]) := by
    rw [writeWithin_of_le (by rw [List.length_append, digits]),
      List.drop_eq_nil_of_le (by rw [List.length_append, digits]), List.append_nil,
      List.take_left' digits]
  refine ⟨?_, digits, ?_⟩
  · unfold encryptPass
    simp only [size, if_neg (show ¬ password.length = 0 by omega), md5Calculate_eq room fits,
      written, terminated, bind, Except.bind]
  · intro character member
    obtain ⟨byte, _, inside⟩ := List.mem_flatMap.mp member
    exact hexByte_lower byte character inside

theorem encryptPass_text_letter :
    encryptPass (fun _ => 0) (List.replicate 64 7) (some [97]) (BitVec.ofNat 32 1)
        { data := none, outLen := 0 }
      = .ok (0, { data := some (hexText [97] ++ [0]), outLen := 32 }) :=
  (encryptPass_text (fun _ => 0) _ List.length_replicate (by decide) (by decide)).1

example : hexText [] = "d41d8cd98f00b204e9800998ecf8427e".toUTF8.data.toList := by
  decide +kernel

end AChat.Security.Md5
