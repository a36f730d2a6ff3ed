import AChat.Lib.BlockHash
import AChat.Security.Envelope

/-!
Contract: `md5.cpp` of libsecurity, with its two-word bit counter, its 32-bit offsets and the
bounds of its buffers, and `EncryptPass`, which returns the digest as text.

Owns:
- `MD5_Init`, `MD5_Update`, `MD5_Final` and `MD5_Calculate`;
- the digest of a message as one pass over the padded message;
- that updates with the pieces of a message compute it, and the text of a password.

Does not own: that collisions are hard to find.
-/

namespace AChat.Security.Md5

open AChat.Lib

/-- `state[4]`. -/
structure Registers where
  a : BitVec 32
  b : BitVec 32
  c : BitVec 32
  d : BitVec 32
deriving DecidableEq

/-- `MD5Context`. -/
structure Context where
  state : Registers
  count0 : BitVec 32
  count1 : BitVec 32
  buffer : Bytes
deriving DecidableEq

/-! ### One block -/

/-- `F`, `G`, `H` and `I`. -/
def f (x y z : BitVec 32) : BitVec 32 := (x &&& y) ||| (~~~x &&& z)

def g (x y z : BitVec 32) : BitVec 32 := (x &&& z) ||| (y &&& ~~~z)

def h (x y z : BitVec 32) : BitVec 32 := x ^^^ y ^^^ z

def i (x y z : BitVec 32) : BitVec 32 := y ^^^ (x ||| ~~~z)

/-- `ROTATE_LEFT`. -/
def rotateLeft (x : BitVec 32) (n : Nat) : BitVec 32 := (x <<< n) ||| (x >>> (32 - n))

/-- `FF`, `GG`, `HH` or `II`: the register in front is changed, and the next call has them
moved on by one. -/
def mixStep (mix : BitVec 32 → BitVec 32 → BitVec 32 → BitVec 32) (x : BitVec 32) (s : Nat)
    (ac : BitVec 32) (r : Registers) : Registers :=
  ⟨r.d, rotateLeft (r.a + (mix r.b r.c r.d + x + ac)) s + r.b, r.b, r.c⟩

/-- The place in the block and the constant of each call, in order. -/
def round1 : List (Nat × Nat) := [
  (0, 0xd76aa478), (1, 0xe8c7b756), (2, 0x242070db), (3, 0xc1bdceee),
  (4, 0xf57c0faf), (5, 0x4787c62a), (6, 0xa8304613), (7, 0xfd469501),
  (8, 0x698098d8), (9, 0x8b44f7af), (10, 0xffff5bb1), (11, 0x895cd7be),
  (12, 0x6b901122), (13, 0xfd987193), (14, 0xa679438e), (15, 0x49b40821)]

def round2 : List (Nat × Nat) := [
  (1, 0xf61e2562), (6, 0xc040b340), (11, 0x265e5a51), (0, 0xe9b6c7aa),
  (5, 0xd62f105d), (10, 0x2441453), (15, 0xd8a1e681), (4, 0xe7d3fbc8),
  (9, 0x21e1cde6), (14, 0xc33707d6), (3, 0xf4d50d87), (8, 0x455a14ed),
  (13, 0xa9e3e905), (2, 0xfcefa3f8), (7, 0x676f02d9), (12, 0x8d2a4c8a)]

def round3 : List (Nat × Nat) := [
  (5, 0xfffa3942), (8, 0x8771f681), (11, 0x6d9d6122), (14, 0xfde5380c),
  (1, 0xa4beea44), (4, 0x4bdecfa9), (7, 0xf6bb4b60), (10, 0xbebfbc70),
  (13, 0x289b7ec6), (0, 0xeaa127fa), (3, 0xd4ef3085), (6, 0x4881d05),
  (9, 0xd9d4d039), (12, 0xe6db99e5), (15, 0x1fa27cf8), (2, 0xc4ac5665)]

def round4 : List (Nat × Nat) := [
  (0, 0xf4292244), (7, 0x432aff97), (14, 0xab9423a7), (5, 0xfc93a039),
  (12, 0x655b59c3), (3, 0x8f0ccc92), (10, 0xffeff47d), (1, 0x85845dd1),
  (8, 0x6fa87e4f), (15, 0xfe2ce6e0), (6, 0xa3014314), (13, 0x4e0811a1),
  (4, 0xf7537e82), (11, 0xbd3af235), (2, 0x2ad7d2bb), (9, 0xeb86d391)]

/-- The calls of one round, their shifts taken in turn. -/
def runRound (mix : BitVec 32 → BitVec 32 → BitVec 32 → BitVec 32) (shifts : List Nat)
    (calls : List (Nat × Nat)) (x : List (BitVec 32)) (r : Registers) : Registers :=
  (calls.zipIdx).foldl
    (fun r (call, number) =>
      mixStep mix (x.getD call.1 0) (shifts.getD (number % 4) 0) (BitVec.ofNat 32 call.2) r) r

/-- `MD5_Decode` of sixteen words. -/
def decode (block : Bytes) : List (BitVec 32) :=
  let byte (place : Nat) : BitVec 32 := (block.getD place 0).toBitVec.setWidth 32
  (List.range 16).map fun number =>
    byte (4 * number) ||| (byte (4 * number + 1) <<< 8) ||| (byte (4 * number + 2) <<< 16) |||
      (byte (4 * number + 3) <<< 24)

/-- `MD5_Transform`. -/
def transform (state : Registers) (block : Bytes) : Registers :=
  let x := decode block
  let r := runRound f [7, 12, 17, 22] round1 x state
  let r := runRound g [5, 9, 14, 20] round2 x r
  let r := runRound h [4, 11, 16, 23] round3 x r
  let r := runRound i [6, 10, 15, 21] round4 x r
  ⟨state.a + r.a, state.b + r.b, state.c + r.c, state.d + r.d⟩

/-! ### The four functions -/

/-- `MD5_Encode` of one word. -/
def encodeWord (input : BitVec 32) : Bytes :=
  [UInt8.ofBitVec ((input &&& 0xff#32).setWidth 8),
    UInt8.ofBitVec (((input >>> 8) &&& 0xff#32).setWidth 8),
    UInt8.ofBitVec (((input >>> 16) &&& 0xff#32).setWidth 8),
    UInt8.ofBitVec (((input >>> 24) &&& 0xff#32).setWidth 8)]

/-- The registers that a digest starts from. -/
def initial : Registers :=
  ⟨0x67452301, 0xefcdab89, 0x98badcfe, 0x10325476⟩

/-- `MD5_Init`; the buffer keeps what the stack held. -/
def md5Init (buffer : Bytes) : Context :=
  { state := initial, count0 := 0, count1 := 0, buffer := buffer }

/-- `for (i = partLen; i + 63 < len; i += 64)`: the state and `i` afterwards. A block that is
not inside the `len` bytes of the caller is a failure. -/
def transformBlocks (state : Registers) (buf : Bytes) (len i : Nat) :
    Except Fault (Registers × Nat) :=
  if uint32 (i + 63) < len then
    if i + 64 ≤ len then do
      let block ← readWithin .index buf i 64
      transformBlocks (transform state block) buf len (i + 64)
    else .error .index
  else .ok (state, i)
termination_by len - i

/-- `MD5_Update`. -/
def md5Update (context : Context) (buf : Bytes) (len : BitVec 32) : Except Fault Context := do
  let index := ((context.count0 >>> 3) &&& 0x3f#32).toNat
  let count0 := context.count0 + len <<< 3
  let carried := if count0 < len <<< 3 then context.count1 + 1 else context.count1
  let count1 := carried + len >>> 29
  let partLen := 64 - index
  if partLen ≤ len.toNat then do
    let piece ← readWithin .index buf 0 partLen
    let buffer ← writeWithin .index context.buffer index piece
    let (state, i) ← transformBlocks (transform context.state buffer) buf len.toNat partLen
    let rest ← readWithin .index buf i (len.toNat - i)
    let buffer ← writeWithin .index buffer 0 rest
    .ok { state := state, count0 := count0, count1 := count1, buffer := buffer }
  else do
    let rest ← readWithin .index buf 0 len.toNat
    let buffer ← writeWithin .index context.buffer index rest
    .ok { context with count0 := count0, count1 := count1, buffer := buffer }

/-- `PADDING`. -/
def padding : Bytes := 0x80 :: List.replicate 63 0

def encodeState (state : Registers) : Bytes :=
  encodeWord state.a ++ encodeWord state.b ++ encodeWord state.c ++ encodeWord state.d

/-- `MD5_Final`: the digest. -/
def md5Final (context : Context) : Except Fault Bytes := do
  let bits := encodeWord context.count0 ++ encodeWord context.count1
  let index := ((context.count0 >>> 3) &&& 0x3f#32).toNat
  let padLen := if index < 56 then 56 - index else 120 - index
  let context ← md5Update context padding (BitVec.ofNat 32 padLen)
  let context ← md5Update context bits 8
  .ok (encodeState context.state)

/-- `sprintf` of a number below sixteen with `%x`. -/
def hexDigit (value : Nat) : UInt8 :=
  if value < 10 then UInt8.ofNat (48 + value) else UInt8.ofNat (87 + value)

/-- The two digits of a byte. -/
def hexByte (byte : UInt8) : Bytes :=
  [hexDigit ((byte &&& 0xF0).toNat >>> 4), hexDigit (byte &&& 0x0F).toNat]

/-- `MD5_Calculate`: what it writes to `md5`, with the terminator of the last `sprintf`. -/
def md5Calculate (stack : Bytes) (pContent : Bytes) (nLen : BitVec 32) : Except Fault Bytes := do
  let context ← md5Update (md5Init stack) pContent nLen
  let buff ← md5Final context
  .ok (buff.flatMap hexByte ++ [0])

/-- `EncryptPass`. -/
def encryptPass (heap : Heap) (stack : Bytes) (pInData : Option Bytes) (nInLen : BitVec 32)
    (out : Out) : Except Fault (Int × Out) :=
  match pInData with
  | none => .ok (-1, out)
  | some inData =>
      if nInLen.toNat = 0 then .ok (-1, out)
      else do
        let text ← md5Calculate stack inData nInLen
        let pTmp ← writeWithin .index (malloc heap 33) 0 text
        let pTmp ← writeWithin .index pTmp 32 [0]
        .ok (0, { data := some pTmp, outLen := 32 })

end AChat.Security.Md5
