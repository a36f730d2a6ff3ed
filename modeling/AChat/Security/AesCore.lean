import AChat.Lib.Reindex
import AChat.Security.AesTables
import AChat.Security.Base64

/-!
Contract: `AES_set_encrypt_key`, `AES_set_decrypt_key`, `AES_encrypt` and `AES_decrypt` of
`aes_core.cpp`, as compiled without `FULL_UNROLL` and without `AES_ASM`.

An access outside a buffer is a failure.

Owns:
- the key schedules for the three key sizes, and the two loops that turn a schedule round;
- the loops over the rounds, two rounds a turn.

Does not own: what the schedules and the loops compute.
-/

namespace AChat.Security.AesCore

open AChat.Lib

/-- `AES_KEY`: the words of `rd_key` that have been written, and `rounds`. -/
structure AesKey where
  rdKey : List (BitVec 32)
  rounds : Nat
deriving DecidableEq

/-! ### Words in memory -/

/-- `GETU32`. -/
def getU32 (pt : Bytes) (offset : Nat) : Except Fault (BitVec 32) :=
  match pt.drop offset with
  | a :: b :: c :: d :: _ =>
      .ok ((a.toBitVec.setWidth 32 <<< 24) ^^^ (b.toBitVec.setWidth 32 <<< 16) ^^^
        (c.toBitVec.setWidth 32 <<< 8) ^^^ d.toBitVec.setWidth 32)
  | _ => .error .index

/-- `PUTU32`. -/
def putU32 (st : BitVec 32) : Bytes :=
  [UInt8.ofBitVec ((st >>> 24).setWidth 8), UInt8.ofBitVec ((st >>> 16).setWidth 8),
    UInt8.ofBitVec ((st >>> 8).setWidth 8), UInt8.ofBitVec (st.setWidth 8)]

/-- Four words of a block of bytes. -/
def getState (pt : Bytes) : Except Fault CipherState := do
  let s0 ← getU32 pt 0
  let s1 ← getU32 pt 4
  let s2 ← getU32 pt 8
  let s3 ← getU32 pt 12
  .ok ⟨s0, s1, s2, s3⟩

def putState (state : CipherState) : Bytes :=
  putU32 state.s0 ++ putU32 state.s1 ++ putU32 state.s2 ++ putU32 state.s3

/-- `rk[0]` to `rk[3]`. -/
def readKey (rdKey : List (BitVec 32)) (rk : Nat) : Except Fault CipherState :=
  match rdKey.drop rk with
  | a :: b :: c :: d :: _ => .ok ⟨a, b, c, d⟩
  | _ => .error .index

/-! ### The encryption schedule -/

/-- The four masked entries of a turn, with the bytes of `temp` moved by one place. -/
def rotatedEntries (temp : BitVec 32) : BitVec 32 :=
  (entry te2 ((temp >>> 16) &&& 0xff#32) &&& 0xff000000#32) ^^^
    (entry te3 ((temp >>> 8) &&& 0xff#32) &&& 0x00ff0000#32) ^^^
    (entry te0 (temp &&& 0xff#32) &&& 0x0000ff00#32) ^^^
    (entry te1 (temp >>> 24) &&& 0x000000ff#32)

/-- The same, with the bytes in their places. -/
def straightEntries (temp : BitVec 32) : BitVec 32 :=
  (entry te2 (temp >>> 24) &&& 0xff000000#32) ^^^
    (entry te3 ((temp >>> 16) &&& 0xff#32) &&& 0x00ff0000#32) ^^^
    (entry te0 ((temp >>> 8) &&& 0xff#32) &&& 0x0000ff00#32) ^^^
    (entry te1 (temp &&& 0xff#32) &&& 0x000000ff#32)

/-- `rcon[i]`. -/
def rconAt (i : Nat) : BitVec 32 :=
  BitVec.ofNat 32 (rcon.getD i 0)

/-- The turns of the loop for 128 bits, from `i` until it has counted to ten. -/
def expand128 : Nat → Nat → BitVec 32 → BitVec 32 → BitVec 32 → BitVec 32 → List (BitVec 32)
  | 0, _, _, _, _, _ => []
  | turns + 1, i, rk0, rk1, rk2, rk3 =>
      let rk4 := rk0 ^^^ rotatedEntries rk3 ^^^ rconAt i
      let rk5 := rk1 ^^^ rk4
      let rk6 := rk2 ^^^ rk5
      let rk7 := rk3 ^^^ rk6
      rk4 :: rk5 :: rk6 :: rk7 :: expand128 turns (i + 1) rk4 rk5 rk6 rk7

/-- The turns of the loop for 192 bits; it returns in the middle of the last. -/
def expand192 : Nat → Nat → BitVec 32 → BitVec 32 → BitVec 32 → BitVec 32 → BitVec 32 →
    BitVec 32 → List (BitVec 32)
  | 0, _, _, _, _, _, _, _ => []
  | turns + 1, i, rk0, rk1, rk2, rk3, rk4, rk5 =>
      let rk6 := rk0 ^^^ rotatedEntries rk5 ^^^ rconAt i
      let rk7 := rk1 ^^^ rk6
      let rk8 := rk2 ^^^ rk7
      let rk9 := rk3 ^^^ rk8
      let rk10 := rk4 ^^^ rk9
      let rk11 := rk5 ^^^ rk10
      rk6 :: rk7 :: rk8 :: rk9 ::
        if turns = 0 then []
        else rk10 :: rk11 :: expand192 turns (i + 1) rk6 rk7 rk8 rk9 rk10 rk11

/-- The turns of the loop for 256 bits; it returns in the middle of the last. -/
def expand256 : Nat → Nat → BitVec 32 → BitVec 32 → BitVec 32 → BitVec 32 → BitVec 32 →
    BitVec 32 → BitVec 32 → BitVec 32 → List (BitVec 32)
  | 0, _, _, _, _, _, _, _, _, _ => []
  | turns + 1, i, rk0, rk1, rk2, rk3, rk4, rk5, rk6, rk7 =>
      let rk8 := rk0 ^^^ rotatedEntries rk7 ^^^ rconAt i
      let rk9 := rk1 ^^^ rk8
      let rk10 := rk2 ^^^ rk9
      let rk11 := rk3 ^^^ rk10
      let rk12 := rk4 ^^^ straightEntries rk11
      let rk13 := rk5 ^^^ rk12
      let rk14 := rk6 ^^^ rk13
      let rk15 := rk7 ^^^ rk14
      rk8 :: rk9 :: rk10 :: rk11 ::
        if turns = 0 then []
        else rk12 :: rk13 :: rk14 :: rk15 ::
          expand256 turns (i + 1) rk8 rk9 rk10 rk11 rk12 rk13 rk14 rk15

/-- What `AES_set_encrypt_key` makes of the bytes of a key of a supported size. -/
def schedule (userKey : Bytes) (bits : Int) : Except Fault AesKey := do
  let rk0 ← getU32 userKey 0
  let rk1 ← getU32 userKey 4
  let rk2 ← getU32 userKey 8
  let rk3 ← getU32 userKey 12
  if bits = 128 then
    .ok { rdKey := rk0 :: rk1 :: rk2 :: rk3 :: expand128 10 0 rk0 rk1 rk2 rk3, rounds := 10 }
  else do
    let rk4 ← getU32 userKey 16
    let rk5 ← getU32 userKey 20
    if bits = 192 then
      .ok
        { rdKey := rk0 :: rk1 :: rk2 :: rk3 :: rk4 :: rk5 ::
            expand192 8 0 rk0 rk1 rk2 rk3 rk4 rk5
          rounds := 12 }
    else do
      let rk6 ← getU32 userKey 24
      let rk7 ← getU32 userKey 28
      .ok
        { rdKey := rk0 :: rk1 :: rk2 :: rk3 :: rk4 :: rk5 :: rk6 :: rk7 ::
            expand256 7 0 rk0 rk1 rk2 rk3 rk4 rk5 rk6 rk7
          rounds := 14 }

/-- `AES_set_encrypt_key`: the status, and the key afterwards. -/
def aesSetEncryptKey (userKey : Option Bytes) (bits : Int) (key : Option AesKey) :
    Except Fault (Int × Option AesKey) :=
  match userKey, key with
  | some userKey, some _ =>
      if bits ≠ 128 ∧ bits ≠ 192 ∧ bits ≠ 256 then .ok (-2, key)
      else do
        let key ← schedule userKey bits
        .ok (0, some key)
  | _, _ => .ok (-1, key)

/-! ### The decryption schedule -/

/-- The inverse `MixColumn` transform of a word, through `Te1` and the tables of decryption. -/
def unmixEntries (word : BitVec 32) : BitVec 32 :=
  entry td0 (entry te1 (word >>> 24) &&& 0xff#32) ^^^
    entry td1 (entry te1 ((word >>> 16) &&& 0xff#32) &&& 0xff#32) ^^^
    entry td2 (entry te1 ((word >>> 8) &&& 0xff#32) &&& 0xff#32) ^^^
    entry td3 (entry te1 (word &&& 0xff#32) &&& 0xff#32)

/-- The round keys from the second on, so many of them, four words each. -/
def unmixKeys (rdKey : List (BitVec 32)) : Nat → Except Fault (List (BitVec 32))
  | 0 => .ok rdKey
  | turns + 1 => do
      let rdKey ← unmixKeys rdKey turns
      changeRun .index unmixEntries rdKey (4 * (turns + 1)) 4

/-- The order of the round keys inverted, then all but the first and the last unmixed. -/
def invertSchedule (key : AesKey) : Except Fault AesKey := do
  let rdKey ← reverseFours .index key.rdKey 0 (4 * key.rounds)
  let rdKey ← unmixKeys rdKey (key.rounds - 1)
  .ok { key with rdKey := rdKey }

/-- `AES_set_decrypt_key`. -/
def aesSetDecryptKey (userKey : Option Bytes) (bits : Int) (key : Option AesKey) :
    Except Fault (Int × Option AesKey) := do
  let (status, key) ← aesSetEncryptKey userKey bits key
  match key with
  | none => .ok (status, none)
  | some key =>
      if status < 0 then .ok (status, some key)
      else do
        let key ← invertSchedule key
        .ok (0, some key)

/-! ### One block -/

/-- `t0` from `s0`, `s1`, `s2`, `s3`, and the others by rotation. -/
def encryptEntries (a b c d rk : BitVec 32) : BitVec 32 :=
  entry te0 (a >>> 24) ^^^ entry te1 ((b >>> 16) &&& 0xff#32) ^^^ entry te2 ((c >>> 8) &&& 0xff#32) ^^^
    entry te3 (d &&& 0xff#32) ^^^ rk

def encryptRound (s rk : CipherState) : CipherState :=
  ⟨encryptEntries s.s0 s.s1 s.s2 s.s3 rk.s0, encryptEntries s.s1 s.s2 s.s3 s.s0 rk.s1,
    encryptEntries s.s2 s.s3 s.s0 s.s1 rk.s2, encryptEntries s.s3 s.s0 s.s1 s.s2 rk.s3⟩

def lastEncryptEntries (a b c d rk : BitVec 32) : BitVec 32 :=
  (entry te2 (a >>> 24) &&& 0xff000000#32) ^^^ (entry te3 ((b >>> 16) &&& 0xff#32) &&& 0x00ff0000#32) ^^^
    (entry te0 ((c >>> 8) &&& 0xff#32) &&& 0x0000ff00#32) ^^^
    (entry te1 (d &&& 0xff#32) &&& 0x000000ff#32) ^^^ rk

def lastEncryptRound (t rk : CipherState) : CipherState :=
  ⟨lastEncryptEntries t.s0 t.s1 t.s2 t.s3 rk.s0, lastEncryptEntries t.s1 t.s2 t.s3 t.s0 rk.s1,
    lastEncryptEntries t.s2 t.s3 t.s0 t.s1 rk.s2, lastEncryptEntries t.s3 t.s0 t.s1 t.s2 rk.s3⟩

def decryptEntries (a b c d rk : BitVec 32) : BitVec 32 :=
  entry td0 (a >>> 24) ^^^ entry td1 ((b >>> 16) &&& 0xff#32) ^^^ entry td2 ((c >>> 8) &&& 0xff#32) ^^^
    entry td3 (d &&& 0xff#32) ^^^ rk

def decryptRound (s rk : CipherState) : CipherState :=
  ⟨decryptEntries s.s0 s.s3 s.s2 s.s1 rk.s0, decryptEntries s.s1 s.s0 s.s3 s.s2 rk.s1,
    decryptEntries s.s2 s.s1 s.s0 s.s3 rk.s2, decryptEntries s.s3 s.s2 s.s1 s.s0 rk.s3⟩

def lastDecryptEntries (a b c d rk : BitVec 32) : BitVec 32 :=
  (entry td4 (a >>> 24) <<< 24) ^^^ (entry td4 ((b >>> 16) &&& 0xff#32) <<< 16) ^^^
    (entry td4 ((c >>> 8) &&& 0xff#32) <<< 8) ^^^ entry td4 (d &&& 0xff#32) ^^^ rk

def lastDecryptRound (t rk : CipherState) : CipherState :=
  ⟨lastDecryptEntries t.s0 t.s3 t.s2 t.s1 rk.s0, lastDecryptEntries t.s1 t.s0 t.s3 t.s2 rk.s1,
    lastDecryptEntries t.s2 t.s1 t.s0 t.s3 rk.s2, lastDecryptEntries t.s3 t.s2 t.s1 t.s0 rk.s3⟩

/-- The loop over the full rounds: two of them a turn, and one in the last turn. The state and
where `rk` points afterwards; with no turn left at the start `r` counts below zero. -/
def fullRounds (round : CipherState → CipherState → CipherState) (rdKey : List (BitVec 32)) :
    Nat → Nat → CipherState → Except Fault (CipherState × Nat)
  | 0, _, _ => .error .index
  | r + 1, rk, s => do
      let key ← readKey rdKey (rk + 4)
      let t := round s key
      if r = 0 then .ok (t, rk + 8)
      else do
        let key ← readKey rdKey (rk + 8)
        fullRounds round rdKey r (rk + 8) (round t key)

/-- What the two block functions have in common. -/
def cryptBlock (round lastRound : CipherState → CipherState → CipherState) (inBytes : Bytes)
    (key : AesKey) : Except Fault Bytes := do
  let block ← getState inBytes
  let first ← readKey key.rdKey 0
  let (t, rk) ← fullRounds round key.rdKey (key.rounds / 2) 0 (block.addKey first)
  let last ← readKey key.rdKey rk
  .ok (putState (lastRound t last))

/-- `AES_encrypt`: the bytes that it writes to `out`. -/
def aesEncrypt : Bytes → AesKey → Except Fault Bytes :=
  cryptBlock encryptRound lastEncryptRound

/-- `AES_decrypt`. -/
def aesDecrypt : Bytes → AesKey → Except Fault Bytes :=
  cryptBlock decryptRound lastDecryptRound

end AChat.Security.AesCore
