import Mathlib.Logic.Equiv.Basic
import AChat.Lib.BlockBuffer
import AChat.Lib.ByteOrder
import AChat.Security.Base64

/-!
Contract: the AES envelope of `EncDec.cpp` and its second copy in `security.cpp`, with their
32-bit size arithmetic and the bounds of every buffer.

The block functions and the integer writer and reader of `CByteStream`, whose sources are
not part of the two files, are parameters.

Owns:
- `Aes::Encrypt`, `Aes::Decrypt`, `EncryptMsg` and `DecryptMsg`;
- the round trip, the agreement of the two copies, and the bounds of decryption.

Does not own: allocation that fails, or a user key shorter than 256 bits.
-/

namespace AChat.Security

open AChat.Lib

/-! ### What the envelope is built from -/

/-- A 256-bit user key. -/
def UserKey := { bytes : Bytes // bytes.length = 32 }

/-- Sixteen bytes. -/
def Block := { bytes : Bytes // bytes.length = 16 }

/-- `AES_encrypt` and `AES_decrypt` with the schedules that `AES_set_encrypt_key` and
`AES_set_decrypt_key` make of a user key. -/
structure AesFunctions where
  encrypt : UserKey → Block → Block
  decrypt : UserKey → Block → Block

/-- Under one key the two are inverse permutations of the blocks. -/
structure AesFunctions.Inverse (aes : AesFunctions) (key : UserKey) : Prop where
  decrypt_encrypt : ∀ block, aes.decrypt key (aes.encrypt key block) = block
  encrypt_decrypt : ∀ block, aes.encrypt key (aes.decrypt key block) = block

/-- `WriteUint32` and `ReadUint32` of `CByteStream`. -/
structure WordStream where
  writeUint32 : BitVec 32 → Bytes
  readUint32 : Bytes → BitVec 32

/-- A word has its most significant byte first. -/
structure WordStream.BigEndian (stream : WordStream) : Prop where
  writeUint32 : ∀ data, stream.writeUint32 data = bigEndian 4 data.toNat
  readUint32 : ∀ buf, buf.length = 4 → stream.readUint32 buf = BitVec.ofNat 32 (ofBigEndian buf)

/-- `WriteUint32` of `security.cpp`. -/
def writeUint32 (data : BitVec 32) : Bytes :=
  [UInt8.ofBitVec ((data >>> 24).setWidth 8), UInt8.ofBitVec (((data >>> 16) &&& 0xFF).setWidth 8),
    UInt8.ofBitVec (((data >>> 8) &&& 0xFF).setWidth 8),
    UInt8.ofBitVec ((data &&& 0xFF).setWidth 8)]

/-- `ReadUint32` of `security.cpp`, of a buffer that has the four bytes. -/
def readUint32 (buf : Bytes) : BitVec 32 :=
  let byte (place : Nat) : BitVec 32 := (buf.getD place 0).toBitVec.setWidth 32
  (byte 0 <<< 24) ||| (byte 1 <<< 16) ||| (byte 2 <<< 8) ||| byte 3

/-- The functions of `security.cpp`. -/
def securityWords : WordStream where
  writeUint32 := writeUint32
  readUint32 := readUint32

/-- A block function on the sixteen bytes that its argument points to. -/
def onBytes (function : Block → Block) (bytes : Bytes) : Bytes :=
  if sixteen : bytes.length = 16 then (function ⟨bytes, sixteen⟩).val else bytes

/-- The caller's `*ppOutData` and `nOutLen`. -/
structure Out where
  data : Option Bytes
  outLen : BitVec 32

/-- What memory held before it was allocated. -/
abbrev Heap := Nat → UInt8

/-- `malloc`. -/
def malloc (heap : Heap) (size : Nat) : Bytes :=
  (List.range size).map heap

/-- `uint32_t` arithmetic. -/
def uint32 (value : Nat) : Nat :=
  value % 4294967296

/-! ### The code, once for both copies -/

section Copies

variable (encryptBlock decryptBlock : Block → Block) (stream : WordStream) (heap : Heap)

/-- Encryption, with a block function and a way to write a word. -/
def encryptWith (pInData : Option Bytes) (nInLen : BitVec 32) (out : Out) :
    Except Fault (Int × Out) :=
  match pInData with
  | none => .ok (-1, out)
  | some inData =>
      if nInLen.toNat = 0 then .ok (-1, out)
      else do
        let nRemain := nInLen.toNat % 16
        let nBlocks := uint32 (nInLen.toNat + 15) / 16 +
          if nRemain > 12 ∨ nRemain = 0 then 1 else 0
        let nEncryptLen := uint32 (nBlocks * 16)
        let copied ← readWithin .index inData 0 nInLen.toNat
        let pData ← writeWithin .index (List.replicate nEncryptLen 0) 0 copied
        let pEncData := malloc heap nEncryptLen
        let pData ← writeWithin .index pData (nEncryptLen - 4) (stream.writeUint32 nInLen)
        let pEncData ← changeBlocks .index 16 (onBytes encryptBlock) pData pEncData nBlocks
        let strDec ← base64Encode pEncData
        let nOutLen := uint32 strDec.length
        let text ← readWithin .index strDec 0 nOutLen
        let pTmp ← writeWithin .index (malloc heap (nOutLen + 1)) 0 text
        let pTmp ← writeWithin .index pTmp nOutLen [0]
        .ok (0, { data := some pTmp, outLen := BitVec.ofNat 32 nOutLen })

/-- The end of decryption: the length that the last four bytes claim. -/
def openTrailer (pTmp : Bytes) (nLen : Nat) (out : Out) : Except Fault (Int × Out) := do
  let pStart ← readWithin .index pTmp (nLen - 4) 4
  let nOutLen := stream.readUint32 pStart
  if nOutLen.toNat > nLen then .ok (-4, { out with outLen := nOutLen })
  else do
    let pTmp ← writeWithin .index pTmp nOutLen.toNat [0]
    .ok (0, { data := some pTmp, outLen := nOutLen })

/-- Decryption, with a block function and a way to read a word. -/
def decryptWith (pInData : Option Bytes) (nInLen : BitVec 32) (out : Out) :
    Except Fault (Int × Out) :=
  match pInData with
  | none => .ok (-1, out)
  | some inData =>
      if nInLen.toNat = 0 then .ok (-1, out)
      else do
        let strInData ← readWithin .index inData 0 nInLen.toNat
        let strResult ← base64Decode strInData
        let nLen := uint32 strResult.length
        if nLen = 0 then .ok (-2, out)
        else if nLen % 16 ≠ 0 then .ok (-3, out)
        else do
          let pTmp := malloc heap (nLen + 1)
          let nBlocks := nLen / 16
          -- `c_str()` has a zero behind the bytes of the string.
          let pTmp ← changeBlocks .index 16 (onBytes decryptBlock) (strResult ++ [0]) pTmp nBlocks
          openTrailer stream pTmp nLen out

end Copies

/-! ### The two copies -/

/-- `Aes`, with the user keys of its two schedules. -/
structure Aes where
  encKey : UserKey
  decKey : UserKey

namespace Aes

/-- The constructor: both schedules are made of one key. -/
def new (strKey : UserKey) : Aes where
  encKey := strKey
  decKey := strKey

def encrypt (aes : AesFunctions) (stream : WordStream) (heap : Heap) (self : Aes) :
    Option Bytes → BitVec 32 → Out → Except Fault (Int × Out) :=
  encryptWith (aes.encrypt self.encKey) stream heap

def decrypt (aes : AesFunctions) (stream : WordStream) (heap : Heap) (self : Aes) :
    Option Bytes → BitVec 32 → Out → Except Fault (Int × Out) :=
  decryptWith (aes.decrypt self.decKey) stream heap

end Aes

/-- The key of libsecurity. -/
def securityKey : UserKey :=
  ⟨"12345678901234567890123456789012".toList.map fun character => UInt8.ofNat character.toNat,
    by decide +kernel⟩

/-- `EncryptMsg`. -/
def encryptMsg (aes : AesFunctions) (heap : Heap) :
    Option Bytes → BitVec 32 → Out → Except Fault (Int × Out) :=
  encryptWith (aes.encrypt securityKey) securityWords heap

/-- `DecryptMsg`. -/
def decryptMsg (aes : AesFunctions) (heap : Heap) :
    Option Bytes → BitVec 32 → Out → Except Fault (Int × Out) :=
  decryptWith (aes.decrypt securityKey) securityWords heap

/-! ### Words in four bytes -/

theorem length_writeUint32 {stream : WordStream} (words : stream.BigEndian) (data : BitVec 32) :
    (stream.writeUint32 data).length = 4 := by
  rw [words.writeUint32, length_bigEndian]

theorem readUint32_writeUint32 {stream : WordStream} (words : stream.BigEndian)
    (data : BitVec 32) : stream.readUint32 (stream.writeUint32 data) = data := by
  rw [words.readUint32 _ (length_writeUint32 words data), words.writeUint32]
  exact @ofBigEndian_bigEndian_toNat 4 data

theorem byte_of_word (data : BitVec 32) (places : Nat) :
    UInt8.ofBitVec ((data >>> places).setWidth 8) = UInt8.ofNat (data.toNat / 2 ^ places) := by
  apply UInt8.toNat_inj.mp
  simp [Nat.shiftRight_eq_div_pow]

theorem mask_byte (data : BitVec 32) : (data &&& 0xFF).setWidth 8 = data.setWidth 8 := by
  apply BitVec.eq_of_toNat_eq
  have masked := Nat.and_two_pow_sub_one_eq_mod data.toNat 8
  rw [BitVec.toNat_setWidth, BitVec.toNat_setWidth, BitVec.toNat_and]
  exact (congrArg (· % 2 ^ 8) masked).trans (Nat.mod_mod _ _)

/-- Four bytes side by side are the number they stand for. -/
theorem word_of_bytes {a b c d : Nat} (aSmall : a < 256) (bSmall : b < 256) (cSmall : c < 256)
    (dSmall : d < 256) :
    a <<< 24 % 2 ^ 32 ||| b <<< 16 % 2 ^ 32 ||| c <<< 8 % 2 ^ 32 ||| d
      = ((a * 256 + b) * 256 + c) * 256 + d := by
  have third : c <<< 8 ||| d = c * 256 + d := by
    rw [← Nat.shiftLeft_add_eq_or_of_lt dSmall, Nat.shiftLeft_eq]
  have second : b <<< 16 ||| (c * 256 + d) = b * 65536 + (c * 256 + d) := by
    have fits : c * 256 + d < 2 ^ 16 := by omega
    rw [← Nat.shiftLeft_add_eq_or_of_lt fits, Nat.shiftLeft_eq]
  have first : a <<< 24 ||| (b * 65536 + (c * 256 + d))
      = a * 16777216 + (b * 65536 + (c * 256 + d)) := by
    have fits : b * 65536 + (c * 256 + d) < 2 ^ 24 := by omega
    rw [← Nat.shiftLeft_add_eq_or_of_lt fits, Nat.shiftLeft_eq]
  have aFits : a <<< 24 < 2 ^ 32 := by
    rw [Nat.shiftLeft_eq]
    omega
  have bFits : b <<< 16 < 2 ^ 32 := by
    rw [Nat.shiftLeft_eq]
    omega
  have cFits : c <<< 8 < 2 ^ 32 := by
    rw [Nat.shiftLeft_eq]
    omega
  rw [Nat.mod_eq_of_lt aFits, Nat.mod_eq_of_lt bFits, Nat.mod_eq_of_lt cFits, Nat.or_assoc,
    Nat.or_assoc, third, second, first]
  omega

theorem securityWords_writeUint32 (data : BitVec 32) :
    securityWords.writeUint32 data = bigEndian 4 data.toNat := by
  change writeUint32 data = _
  have divided : data.toNat / 256 / 256 = data.toNat / 2 ^ 16 := by omega
  have again : data.toNat / 2 ^ 16 / 256 = data.toNat / 2 ^ 24 := by omega
  have lowest : UInt8.ofBitVec (data.setWidth 8) = UInt8.ofNat data.toNat := by
    simpa using byte_of_word data 0
  simp only [writeUint32, mask_byte, byte_of_word, lowest, bigEndian, List.nil_append,
    List.cons_append, divided, again]
  rfl

theorem securityWords_readUint32 (a b c d : UInt8) :
    securityWords.readUint32 [a, b, c, d] = BitVec.ofNat 32 (ofBigEndian [a, b, c, d]) := by
  apply BitVec.eq_of_toNat_eq
  have aSmall : a.toNat < 256 := a.toNat_lt
  have bSmall : b.toNat < 256 := b.toNat_lt
  have cSmall : c.toNat < 256 := c.toNat_lt
  have dSmall : d.toNat < 256 := d.toNat_lt
  have number := word_of_bytes aSmall bSmall cSmall dSmall
  have word : ofBigEndian [a, b, c, d]
      = ((a.toNat * 256 + b.toNat) * 256 + c.toNat) * 256 + d.toNat := by
    simp [ofBigEndian]
  have modulus : 256 ^ 4 = 2 ^ 32 := by decide
  have range : ofBigEndian [a, b, c, d] < 256 ^ 4 := ofBigEndian_lt [a, b, c, d]
  rw [modulus] at range
  rw [BitVec.toNat_ofNat, Nat.mod_eq_of_lt range, word, ← number]
  simp [securityWords, readUint32]

/-- The two functions of `security.cpp` are big-endian too. -/
theorem securityWords_bigEndian : securityWords.BigEndian where
  writeUint32 := securityWords_writeUint32
  readUint32
    | [a, b, c, d], _ => securityWords_readUint32 a b c d

/-! ### Sizes -/

/-- The size of the padded text: whole blocks with room for the length behind the bytes. -/
def paddedSize (length : Nat) : Nat :=
  if length % 16 > 12 ∨ length % 16 = 0 then ((length + 15) / 16 + 1) * 16
  else (length + 15) / 16 * 16

/-- The size of the base64 text of an envelope. -/
def envelopeSize (length : Nat) : Nat :=
  4 * ((paddedSize length + 2) / 3)

theorem paddedSize_room (length : Nat) : length + 4 ≤ paddedSize length := by
  unfold paddedSize
  split <;> omega

theorem paddedSize_blocks (length : Nat) : paddedSize length % 16 = 0 := by
  unfold paddedSize
  split <;> exact Nat.mul_mod_left _ _

/-- The code's arithmetic gives the padded size as long as it fits. -/
theorem blocks_eq {length : Nat} (fits : paddedSize length < 4294967296) :
    (uint32 (length + 15) / 16 + if length % 16 > 12 ∨ length % 16 = 0 then 1 else 0)
      = paddedSize length / 16 := by
  have room := paddedSize_room length
  have blocks := paddedSize_blocks length
  have small : length + 15 < 4294967296 := by omega
  unfold uint32 paddedSize
  rw [Nat.mod_eq_of_lt small]
  by_cases further : length % 16 > 12 ∨ length % 16 = 0
  · rw [if_pos further, if_pos further]
    omega
  · rw [if_neg further, if_neg further]
    omega

/-! ### Encryption -/

section Encryption

variable {encryptBlock decryptBlock : Block → Block} {stream : WordStream}

theorem length_onBytes (function : Block → Block) (block : Bytes) (sixteen : block.length = 16) :
    (onBytes function block).length = 16 := by
  unfold onBytes
  rw [dif_pos sixteen]
  exact (function ⟨block, sixteen⟩).property

theorem onBytes_inverse {function back : Block → Block}
    (inverse : ∀ block, back (function block) = block) (block : Bytes)
    (sixteen : block.length = 16) : onBytes back (onBytes function block) = block := by
  have changed : onBytes function block = (function ⟨block, sixteen⟩).val := dif_pos sixteen
  rw [changed, onBytes, dif_pos (function ⟨block, sixteen⟩).property]
  exact congrArg Subtype.val (inverse ⟨block, sixteen⟩)

@[simp]
theorem length_malloc (heap : Heap) (size : Nat) : (malloc heap size).length = size := by
  simp [malloc]

/-- The bytes, zeros, and the length in the last four bytes. -/
def paddedText (stream : WordStream) (bytes : Bytes) : Bytes :=
  bytes ++ List.replicate (paddedSize bytes.length - 4 - bytes.length) 0
    ++ stream.writeUint32 (BitVec.ofNat 32 bytes.length)

theorem length_paddedText (words : stream.BigEndian) (bytes : Bytes) :
    (paddedText stream bytes).length = paddedSize bytes.length := by
  have room := paddedSize_room bytes.length
  simp only [paddedText, List.length_append, List.length_replicate, length_writeUint32 words]
  omega

/-- The two writes into the zeroed buffer leave the padded text there. -/
theorem padding_eq (words : stream.BigEndian) (bytes : Bytes) :
    ∃ pData,
      writeWithin Fault.index (List.replicate (paddedSize bytes.length) 0) 0 bytes = .ok pData ∧
      writeWithin Fault.index pData (paddedSize bytes.length - 4)
          (stream.writeUint32 (BitVec.ofNat 32 bytes.length))
        = .ok (paddedText stream bytes) := by
  have room := paddedSize_room bytes.length
  have trailer := length_writeUint32 words (BitVec.ofNat 32 bytes.length)
  have first : 0 + bytes.length ≤ (List.replicate (paddedSize bytes.length) (0 : UInt8)).length := by
    rw [List.length_replicate]
    omega
  have second : paddedSize bytes.length - 4
      + (stream.writeUint32 (BitVec.ofNat 32 bytes.length)).length
      ≤ (bytes ++ List.replicate (paddedSize bytes.length - bytes.length) (0 : UInt8)).length := by
    rw [trailer, List.length_append, List.length_replicate]
    omega
  have front : (bytes ++ List.replicate (paddedSize bytes.length - bytes.length) (0 : UInt8)).take
      (paddedSize bytes.length - 4)
      = bytes ++ List.replicate (paddedSize bytes.length - 4 - bytes.length) 0 := by
    rw [List.take_append, List.take_of_length_le (by omega), List.take_replicate,
      Nat.min_eq_left (by omega)]
  have behind : (bytes ++ List.replicate (paddedSize bytes.length - bytes.length) (0 : UInt8)).drop
      (paddedSize bytes.length - 4 + 4) = [] := by
    apply List.drop_eq_nil_of_le
    rw [List.length_append, List.length_replicate]
    omega
  refine ⟨_, writeWithin_of_le first, ?_⟩
  rw [List.take_zero, List.nil_append, Nat.zero_add, List.drop_replicate,
    writeWithin_of_le second, front, trailer, behind, List.append_nil]
  rfl

/-- Text and a terminator fill a buffer that has one byte more than the text. -/
theorem terminated_eq (heap : Heap) (text : Bytes) :
    ∃ pTmp,
      writeWithin Fault.index (malloc heap (text.length + 1)) 0 text = .ok pTmp ∧
      writeWithin Fault.index pTmp text.length [0] = .ok (text ++ [0]) := by
  have first : 0 + text.length ≤ (malloc heap (text.length + 1)).length := by
    rw [length_malloc]
    omega
  have room : ([0] : Bytes).length ≤ ((malloc heap (text.length + 1)).drop text.length).length := by
    simp
  have whole : ((malloc heap (text.length + 1)).drop text.length).drop ([0] : Bytes).length
      = [] := by
    apply List.drop_eq_nil_of_le
    simp
  refine ⟨_, writeWithin_of_le first, ?_⟩
  rw [List.take_zero, List.nil_append, Nat.zero_add, writeWithin_append room, whole,
    List.append_nil]

/-- What the block function makes of the padded text. -/
def cipherText (encryptBlock : Block → Block) (stream : WordStream) (bytes : Bytes) : Bytes :=
  blockwise 16 (onBytes encryptBlock) (paddedSize bytes.length / 16) (paddedText stream bytes)

theorem length_cipherText (words : stream.BigEndian) (bytes : Bytes) :
    (cipherText encryptBlock stream bytes).length = paddedSize bytes.length := by
  have blocks := paddedSize_blocks bytes.length
  have inside : paddedSize bytes.length / 16 * 16 ≤ (paddedText stream bytes).length := by
    rw [length_paddedText words]
    omega
  rw [cipherText, length_blockwise (length_onBytes encryptBlock) inside]
  omega

/-- The result of encryption, when its sizes fit 32 bits. -/
theorem encryptWith_eq (words : stream.BigEndian) (heap : Heap) {bytes : Bytes} (out : Out)
    (occupied : bytes ≠ []) (paddedFits : paddedSize bytes.length < 4294967296)
    (textFits : envelopeSize bytes.length < 4294967296) :
    ∃ text, base64Decode text = .ok (cipherText encryptBlock stream bytes) ∧
      text.length = envelopeSize bytes.length ∧
      encryptWith encryptBlock stream heap (some bytes) (BitVec.ofNat 32 bytes.length) out
        = .ok (0, { data := some (text ++ [0]), outLen := BitVec.ofNat 32 text.length }) := by
  have positive : 0 < bytes.length := List.length_pos_iff.mpr occupied
  have room := paddedSize_room bytes.length
  have blocks := paddedSize_blocks bytes.length
  have lengths : (BitVec.ofNat 32 bytes.length).toNat = bytes.length := by
    rw [BitVec.toNat_ofNat]
    exact Nat.mod_eq_of_lt (by omega)
  have cipherLength : (cipherText encryptBlock stream bytes).length = paddedSize bytes.length :=
    length_cipherText words bytes
  obtain ⟨text, encoded, textLength, decoded⟩ : RoundTrips (cipherText encryptBlock stream bytes) := by
    apply roundTrips_of_bounded
    · apply List.ne_nil_of_length_pos
      omega
    · rw [cipherLength]
      unfold sizeTypeMax
      omega
  have textSize : text.length = envelopeSize bytes.length := by
    rw [textLength, cipherLength]
    rfl
  refine ⟨text, decoded, textSize, ?_⟩
  have copied : readWithin Fault.index bytes 0 bytes.length = .ok bytes := by
    rw [readWithin_of_le (by omega), List.drop_zero, List.take_length]
  obtain ⟨pData, zeroed, padded⟩ := padding_eq words bytes
  have size : uint32 (paddedSize bytes.length / 16 * 16) = paddedSize bytes.length := by
    unfold uint32
    omega
  have changed : changeBlocks Fault.index 16 (onBytes encryptBlock) (paddedText stream bytes)
      (malloc heap (paddedSize bytes.length)) (paddedSize bytes.length / 16)
      = .ok (cipherText encryptBlock stream bytes) := by
    rw [changeBlocks_eq (length_onBytes encryptBlock)
      (by rw [length_paddedText words]; omega) (by rw [length_malloc]; omega),
      List.drop_eq_nil_of_le (by rw [length_malloc]; omega), List.append_nil]
    rfl
  have outLen : uint32 text.length = text.length := by
    unfold uint32
    omega
  have read : readWithin Fault.index text 0 text.length = .ok text := by
    rw [readWithin_of_le (by omega), List.drop_zero, List.take_length]
  obtain ⟨pTmp, textWritten, terminated⟩ := terminated_eq heap text
  have some : bytes.length ≠ 0 := by omega
  unfold encryptWith
  simp only [lengths, if_neg some, blocks_eq paddedFits, size, copied, zeroed, padded, changed,
    encoded, outLen, read, textWritten, terminated, bind, Except.bind]

end Encryption

/-! ### Decryption -/

section Decryption

variable {encryptBlock decryptBlock : Block → Block} {stream : WordStream}

/-- Whatever the trailer claims, the end of decryption stays inside the buffer. -/
theorem openTrailer_inside (stream : WordStream) {pTmp : Bytes} {nLen : Nat} (out : Out)
    (four : 4 ≤ nLen) (room : nLen < pTmp.length) :
    ∃ result, openTrailer stream pTmp nLen out = .ok result := by
  have trailer : nLen - 4 + 4 ≤ pTmp.length := by omega
  unfold openTrailer
  rw [readWithin_of_le trailer]
  by_cases claim : (stream.readUint32 ((pTmp.drop (nLen - 4)).take 4)).toNat > nLen
  · simp only [bind, Except.bind, if_pos claim]
    exact ⟨_, rfl⟩
  · have inside : (stream.readUint32 ((pTmp.drop (nLen - 4)).take 4)).toNat
        + ([0] : Bytes).length ≤ pTmp.length := by
      rw [List.length_singleton]
      omega
    simp only [bind, Except.bind, if_neg claim, writeWithin_of_le inside]
    exact ⟨_, rfl⟩

/-- The loop of decryption stays inside the decoded string and the buffer. -/
theorem decryptBlocks_eq (decryptBlock : Block → Block) (heap : Heap) {strResult : Bytes}
    {nLen : Nat} (inside : nLen ≤ strResult.length) :
    changeBlocks Fault.index 16 (onBytes decryptBlock) (strResult ++ [0]) (malloc heap (nLen + 1))
        (nLen / 16)
      = .ok (blockwise 16 (onBytes decryptBlock) (nLen / 16) strResult
          ++ (malloc heap (nLen + 1)).drop (nLen / 16 * 16)) := by
  rw [changeBlocks_eq (length_onBytes decryptBlock)
    (by rw [List.length_append, List.length_singleton]; omega) (by rw [length_malloc]; omega),
    blockwise_append (by omega)]

/-- Decryption of any text returns. -/
theorem decryptWith_inside (decryptBlock : Block → Block) (stream : WordStream) (heap : Heap)
    {text : Bytes} {nInLen : BitVec 32} (out : Out) (given : nInLen.toNat ≤ text.length) :
    ∃ result, decryptWith decryptBlock stream heap (some text) nInLen out = .ok result := by
  unfold decryptWith
  by_cases none : nInLen.toNat = 0
  · exact ⟨_, if_pos none⟩
  · obtain ⟨strResult, decoded⟩ := base64Decode_inside ((text.drop 0).take nInLen.toNat)
    have read : 0 + nInLen.toNat ≤ text.length := by omega
    have short : uint32 strResult.length ≤ strResult.length := Nat.mod_le _ _
    simp only [if_neg none, readWithin_of_le read, decoded, bind, Except.bind]
    by_cases nothing : uint32 strResult.length = 0
    · exact ⟨_, if_pos nothing⟩
    · by_cases ragged : uint32 strResult.length % 16 ≠ 0
      · exact ⟨(-3, out), by rw [if_neg nothing, if_pos ragged]⟩
      · have whole : uint32 strResult.length / 16 * 16 ≤ strResult.length := by omega
        have size := length_blockwise (length_onBytes decryptBlock) whole
        simp only [if_neg nothing, if_neg ragged, decryptBlocks_eq decryptBlock heap short]
        apply openTrailer_inside stream out
        · omega
        · rw [List.length_append, size, List.length_drop, length_malloc]
          omega

/-- A call returned these bytes: the buffer starts with them, the length is theirs, and a
terminator stands behind them. -/
def Returned (result : Except Fault (Int × Out)) (bytes : Bytes) : Prop :=
  ∃ buffer outLen, result = .ok (0, { data := some buffer, outLen := outLen }) ∧
    outLen.toNat = bytes.length ∧ buffer.take bytes.length = bytes ∧
    buffer[bytes.length]? = some 0

/-- The end of decryption finds the length that encryption wrote. -/
theorem openTrailer_paddedText (words : stream.BigEndian) {bytes : Bytes} (rest : Bytes) (out : Out)
    (paddedFits : paddedSize bytes.length < 4294967296) :
    Returned (openTrailer stream (paddedText stream bytes ++ rest) (paddedSize bytes.length) out)
      bytes := by
  have room := paddedSize_room bytes.length
  have trailer := length_writeUint32 words (BitVec.ofNat 32 bytes.length)
  have lengths : (BitVec.ofNat 32 bytes.length).toNat = bytes.length := by
    rw [BitVec.toNat_ofNat]
    exact Nat.mod_eq_of_lt (by omega)
  have front : (bytes ++ List.replicate (paddedSize bytes.length - 4 - bytes.length) (0 : UInt8)).length
      = paddedSize bytes.length - 4 := by
    rw [List.length_append, List.length_replicate]
    omega
  have whole := length_paddedText words bytes
  have inside : paddedSize bytes.length - 4 + 4 ≤ (paddedText stream bytes ++ rest).length := by
    rw [List.length_append]
    omega
  have last : ((paddedText stream bytes ++ rest).drop (paddedSize bytes.length - 4)).take 4
      = stream.writeUint32 (BitVec.ofNat 32 bytes.length) := by
    rw [paddedText, List.append_assoc, List.drop_left' front, List.take_left' trailer]
  have small : ¬ bytes.length > paddedSize bytes.length := by omega
  obtain ⟨tail, occupied, behind⟩ :
      ∃ tail, 1 ≤ tail.length ∧ paddedText stream bytes ++ rest = bytes ++ tail := by
    refine ⟨List.replicate (paddedSize bytes.length - 4 - bytes.length) 0
      ++ stream.writeUint32 (BitVec.ofNat 32 bytes.length) ++ rest, ?_, by simp [paddedText]⟩
    simp only [List.length_append, trailer]
    omega
  have ended : writeWithin Fault.index (paddedText stream bytes ++ rest) bytes.length [0]
      = .ok (bytes ++ ([0] ++ tail.drop 1)) := by
    rw [behind]
    exact writeWithin_append occupied
  refine ⟨bytes ++ ([0] ++ tail.drop 1), BitVec.ofNat 32 bytes.length, ?_, lengths,
    List.take_left, by simp⟩
  unfold openTrailer
  rw [readWithin_of_le inside, last]
  simp only [bind, Except.bind, readUint32_writeUint32 words, lengths, if_neg small, ended]

/-- Decryption of an encrypted text. -/
theorem decryptWith_encrypted (words : stream.BigEndian)
    (inverse : ∀ block, decryptBlock (encryptBlock block) = block) (heap : Heap)
    {bytes text : Bytes} (out : Out) (paddedFits : paddedSize bytes.length < 4294967296)
    (textFits : envelopeSize bytes.length < 4294967296)
    (decoded : base64Decode text = .ok (cipherText encryptBlock stream bytes))
    (textSize : text.length = envelopeSize bytes.length) :
    Returned (decryptWith decryptBlock stream heap (some (text ++ [0]))
      (BitVec.ofNat 32 text.length) out) bytes := by
  have room := paddedSize_room bytes.length
  have blocks := paddedSize_blocks bytes.length
  have size := textSize
  unfold envelopeSize at size
  have lengths : (BitVec.ofNat 32 text.length).toNat = text.length := by
    rw [BitVec.toNat_ofNat]
    exact Nat.mod_eq_of_lt (by omega)
  have read : readWithin Fault.index (text ++ [0]) 0 text.length = .ok text := by
    rw [readWithin_of_le (by simp), List.drop_zero, List.take_left]
  have cipherLength : (cipherText encryptBlock stream bytes).length = paddedSize bytes.length :=
    length_cipherText words bytes
  have nLen : uint32 (cipherText encryptBlock stream bytes).length = paddedSize bytes.length := by
    rw [cipherLength]
    exact Nat.mod_eq_of_lt paddedFits
  have plain : blockwise 16 (onBytes decryptBlock) (paddedSize bytes.length / 16)
      (cipherText encryptBlock stream bytes) = paddedText stream bytes := by
    have whole := length_paddedText words bytes
    rw [cipherText, blockwise_inverse (length_onBytes encryptBlock) (onBytes_inverse inverse)
      (by omega), List.take_of_length_le (by omega)]
  have opened := openTrailer_paddedText words ((malloc heap (paddedSize bytes.length + 1)).drop
    (paddedSize bytes.length / 16 * 16)) out paddedFits
  have some : text.length ≠ 0 := by omega
  have positive : paddedSize bytes.length ≠ 0 := by omega
  have even : ¬ paddedSize bytes.length % 16 ≠ 0 := by omega
  unfold decryptWith
  simp only [lengths, if_neg some, read, decoded, nLen, if_neg positive, if_neg even, bind,
    Except.bind, decryptBlocks_eq decryptBlock heap (Nat.le_of_eq cipherLength.symm), plain]
  exact opened

end Decryption

/-! ### The envelope -/

/-- Two big-endian writers encrypt alike. -/
theorem encryptWith_congr {left right : WordStream} (leftWords : left.BigEndian)
    (rightWords : right.BigEndian) (encryptBlock : Block → Block) (heap : Heap) :
    encryptWith encryptBlock left heap = encryptWith encryptBlock right heap := by
  have same : left.writeUint32 = right.writeUint32 := by
    funext data
    rw [leftWords.writeUint32, rightWords.writeUint32]
  unfold encryptWith
  rw [same]

theorem openTrailer_congr {left right : WordStream} (leftWords : left.BigEndian)
    (rightWords : right.BigEndian) : openTrailer left = openTrailer right := by
  funext pTmp nLen out
  unfold openTrailer
  by_cases inside : nLen - 4 + 4 ≤ pTmp.length
  · have four : ((pTmp.drop (nLen - 4)).take 4).length = 4 := by
      rw [List.length_take, List.length_drop]
      omega
    have same : left.readUint32 ((pTmp.drop (nLen - 4)).take 4)
        = right.readUint32 ((pTmp.drop (nLen - 4)).take 4) := by
      rw [leftWords.readUint32 _ four, rightWords.readUint32 _ four]
    simp only [readWithin_of_le inside, bind, Except.bind, same]
  · have outside : readWithin Fault.index pTmp (nLen - 4) 4 = .error .index := if_neg inside
    rw [outside]
    rfl

/-- Two big-endian readers decrypt alike. -/
theorem decryptWith_congr {left right : WordStream} (leftWords : left.BigEndian)
    (rightWords : right.BigEndian) (decryptBlock : Block → Block) (heap : Heap) :
    decryptWith decryptBlock left heap = decryptWith decryptBlock right heap := by
  unfold decryptWith
  rw [openTrailer_congr leftWords rightWords]

/-- What was encrypted is decrypted, the two copies are interchangeable, and decryption
returns whatever it is given. -/
theorem aes_envelope (aes : AesFunctions) (stream : WordStream) (key : UserKey) (heap : Heap)
    (inverse : aes.Inverse key) (words : stream.BigEndian) :
    (∀ bytes out out', bytes ≠ [] → paddedSize bytes.length < 4294967296 →
      envelopeSize bytes.length < 4294967296 →
      ∃ envelope,
        Aes.encrypt aes stream heap (Aes.new key) (some bytes) (BitVec.ofNat 32 bytes.length) out
          = .ok (0, envelope) ∧
        Returned (Aes.decrypt aes stream heap (Aes.new key) envelope.data envelope.outLen out')
          bytes) ∧
    (encryptMsg aes heap = Aes.encrypt aes stream heap (Aes.new securityKey) ∧
      decryptMsg aes heap = Aes.decrypt aes stream heap (Aes.new securityKey)) ∧
    ∀ (self : Aes) (text : Bytes) (nInLen : BitVec 32) (out : Out), nInLen.toNat ≤ text.length →
      ∃ result, Aes.decrypt aes stream heap self (some text) nInLen out = .ok result := by
  refine ⟨?_, ⟨?_, ?_⟩, ?_⟩
  · intro bytes out out' occupied paddedFits textFits
    obtain ⟨text, decoded, textSize, encrypted⟩ :=
      encryptWith_eq words heap out occupied paddedFits textFits
    exact ⟨_, encrypted, decryptWith_encrypted words inverse.decrypt_encrypt heap out' paddedFits
      textFits decoded textSize⟩
  · exact encryptWith_congr securityWords_bigEndian words _ heap
  · exact decryptWith_congr securityWords_bigEndian words _ heap
  · intro self text nInLen out given
    exact decryptWith_inside _ stream heap out given

/-- The padded text of `"a"`. -/
def letterBlock : Block :=
  ⟨[97, 0, 0, 0, 0, 0, 0, 0, 0, 0, 0, 0, 0, 0, 0, 1], rfl⟩

/-- What AES makes of it under the key of libsecurity. -/
def letterCipher : Block :=
  ⟨[243, 233, 114, 104, 100, 141, 116, 172, 93, 176, 65, 0, 15, 38, 49, 191], rfl⟩

instance : DecidableEq Block :=
  inferInstanceAs (DecidableEq { bytes : Bytes // bytes.length = 16 })

/-- Block functions that do what AES does to these two blocks. -/
def letterAes : AesFunctions where
  encrypt _ := Equiv.swap letterBlock letterCipher
  decrypt _ := (Equiv.swap letterBlock letterCipher).symm

theorem aes_envelope_letter :
    ∃ envelope,
      Aes.encrypt letterAes securityWords (fun _ => 0) (Aes.new securityKey) (some [97])
          (BitVec.ofNat 32 1) { data := none, outLen := 0 }
        = .ok (0, envelope) ∧
      Returned (Aes.decrypt letterAes securityWords (fun _ => 0) (Aes.new securityKey)
        envelope.data envelope.outLen { data := none, outLen := 0 }) [97] := by
  have inverse : letterAes.Inverse securityKey :=
    ⟨Equiv.symm_apply_apply _, Equiv.apply_symm_apply _⟩
  exact (aes_envelope letterAes securityWords securityKey (fun _ => 0) inverse
    securityWords_bigEndian).1 [97] _ _ (by decide) (by decide) (by decide)

end AChat.Security
