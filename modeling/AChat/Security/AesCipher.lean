import AChat.Security.AesCore

/-!
Contract: the table-driven block functions of `aes_core.cpp` compute the rounds of the
cipher, with the round keys of a schedule.

Owns:
- each table expression as a layer of a round;
- the loops as `encipher` and `decipher` over the round keys of a schedule;
- the decryption schedule as the reversed, unmixed encryption schedule;
- what a schedule has to be for this, `AesKey.Complete`.

Does not own: how a schedule is made of a key.
-/

namespace AChat.Security.AesCore

open AChat.Lib

/-! ### Places of the tables -/

theorem top_index (word : BitVec 32) : word >>> 24 = (byteAt word 24).setWidth 32 := by
  apply BitVec.eq_of_getLsbD_eq
  intro bit inside
  simp only [byteAt, BitVec.getLsbD_setWidth, BitVec.getLsbD_ushiftRight]
  grind

theorem low_index (word : BitVec 32) : word &&& 0xff#32 = (byteAt word 0).setWidth 32 := by
  apply BitVec.eq_of_getLsbD_eq
  intro bit inside
  have mask : 0xff#32 = (BitVec.allOnes 8).setWidth 32 := by decide
  rw [mask]
  simp only [byteAt, BitVec.getLsbD_and, BitVec.getLsbD_setWidth, BitVec.getLsbD_ushiftRight,
    BitVec.getLsbD_allOnes, inside, decide_true, Bool.true_and]
  grind

theorem byteAt_shift (word : BitVec 32) (places : Nat) :
    byteAt (word >>> places) 0 = byteAt word places := by
  simp [byteAt]

/-- The tables read at the bytes of words. -/
theorem encryptEntries_eq (a b c d rk : BitVec 32) :
    encryptEntries a b c d rk
      = mixWord (join (subByte (byteAt a 24)) (subByte (byteAt b 16)) (subByte (byteAt c 8))
          (subByte (byteAt d 0))) ^^^ rk := by
  simp only [encryptEntries, top_index, low_index, byteAt_shift, entry_te, mixWord, byteAt_join]

theorem encryptRound_eq : encryptRound = aesLayers.encipherRound := by
  funext s rk
  simp only [encryptRound, encryptEntries_eq]
  rfl

theorem restoredEntries_eq (a b c d rk : BitVec 32) :
    decryptEntries a b c d rk
      = unmixWord (join (restoreByte (byteAt a 24)) (restoreByte (byteAt b 16))
          (restoreByte (byteAt c 8)) (restoreByte (byteAt d 0))) ^^^ rk := by
  simp only [decryptEntries, top_index, low_index, byteAt_shift, entry_td, unmixWord, byteAt_join]

theorem decryptRound_eq : decryptRound = aesLayers.decipherRound := by
  funext s rk
  simp only [decryptRound, restoredEntries_eq]
  rfl

/-! ### Single bytes out of the tables -/

theorem byteAt_and (left right : BitVec 32) (places : Nat) :
    byteAt (left &&& right) places = byteAt left places &&& byteAt right places := by
  unfold byteAt
  rw [BitVec.ushiftRight_and_distrib, BitVec.setWidth_and]

/-- The one place where each table of encryption has the substituted byte itself. -/
theorem masked_te (byte : BitVec 8) :
    entry te2 (byte.setWidth 32) &&& 0xff000000#32 = join (subByte byte) 0 0 0 ∧
      entry te3 (byte.setWidth 32) &&& 0x00ff0000#32 = join 0 (subByte byte) 0 0 ∧
      entry te0 (byte.setWidth 32) &&& 0x0000ff00#32 = join 0 0 (subByte byte) 0 := by
  have top : 0xff000000#32 = join 0xff 0 0 0 := by decide
  have second : 0x00ff0000#32 = join 0 0xff 0 0 := by decide
  have third : 0x0000ff00#32 = join 0 0 0xff 0 := by decide
  have ones (byte : BitVec 8) : byte &&& 0xff = byte := BitVec.and_allOnes
  have none (byte : BitVec 8) : byte &&& 0 = 0 := BitVec.and_zero
  rw [top, second, third]
  refine ⟨?_, ?_, ?_⟩ <;> apply word_ext <;>
    simp only [byteAt_and, byteAt_join, entry_te, multiples, times_small, ones, none]

theorem low_te1 (byte : BitVec 8) : byteAt (entry te1 (byte.setWidth 32)) 0 = subByte byte := by
  simp only [entry_te, multiples, byteAt_join, times_small]

theorem placed_byte (byte : BitVec 8) :
    byte.setWidth 32 <<< 24 = join byte 0 0 0 ∧ byte.setWidth 32 <<< 16 = join 0 byte 0 0 ∧
      byte.setWidth 32 <<< 8 = join 0 0 byte 0 ∧ byte.setWidth 32 = join 0 0 0 byte := by
  refine ⟨?_, ?_, ?_, ?_⟩ <;> apply BitVec.eq_of_getLsbD_eq <;> intro bit inside <;>
    simp only [join, BitVec.getLsbD_append, BitVec.getLsbD_shiftLeft, BitVec.getLsbD_setWidth] <;>
    grind

theorem masked_bytes (a b c d : BitVec 8) :
    join a 0 0 0 ^^^ join 0 b 0 0 ^^^ join 0 0 c 0 ^^^ d.setWidth 32 = join a b c d := by
  rw [(placed_byte d).2.2.2]
  simp [join_xor]

theorem shifted_bytes (a b c d : BitVec 8) :
    (a.setWidth 32 <<< 24) ^^^ (b.setWidth 32 <<< 16) ^^^ (c.setWidth 32 <<< 8) ^^^ d.setWidth 32
      = join a b c d := by
  rw [(placed_byte a).1, (placed_byte b).2.1, (placed_byte c).2.2.1, masked_bytes]

theorem lastEncryptRound_eq (t rk : CipherState) :
    lastEncryptRound t rk = (CipherState.substitute t).addKey rk := by
  simp only [lastEncryptRound, lastEncryptEntries, top_index, low_index, byteAt_shift, masked_te,
    low_te1, masked_bytes]
  rfl

theorem lastDecryptRound_eq (t rk : CipherState) :
    lastDecryptRound t rk = (CipherState.restore t).addKey rk := by
  simp only [lastDecryptRound, lastDecryptEntries, top_index, low_index, byteAt_shift, entry_td,
    shifted_bytes]
  rfl

/-- Through `Te1` and back, only the mixing is undone. -/
theorem unmixEntries_eq : unmixEntries = unmixWord := by
  funext word
  simp only [unmixEntries, top_index, low_index, byteAt_shift, low_te1, entry_td,
    restoreByte_subByte]
  rfl

/-- The four entries of a turn of the key expansion. -/
theorem scheduleEntries_eq (temp : BitVec 32) :
    rotatedEntries temp
        = join (subByte (byteAt temp 16)) (subByte (byteAt temp 8)) (subByte (byteAt temp 0))
            (subByte (byteAt temp 24)) ∧
      straightEntries temp
        = join (subByte (byteAt temp 24)) (subByte (byteAt temp 16)) (subByte (byteAt temp 8))
            (subByte (byteAt temp 0)) := by
  simp only [rotatedEntries, straightEntries, top_index, low_index, byteAt_shift, masked_te,
    low_te1, masked_bytes, and_self]

/-! ### Words and bytes of a block -/

theorem getU32_putU32 (word : BitVec 32) (before after : Bytes) :
    getU32 (before ++ (putU32 word ++ after)) before.length = .ok word := by
  unfold getU32
  rw [List.drop_left]
  have low : word.setWidth 8 = byteAt word 0 := by simp [byteAt]
  have bytes := shifted_bytes (byteAt word 24) (byteAt word 16) (byteAt word 8) (byteAt word 0)
  unfold putU32
  rw [low]
  exact congrArg Except.ok (bytes.trans (join_byteAt word))

theorem putU32_join (a b c d : UInt8) :
    putU32 (join a.toBitVec b.toBitVec c.toBitVec d.toBitVec) = [a, b, c, d] := by
  have parts := byteAt_join a.toBitVec b.toBitVec c.toBitVec d.toBitVec
  have low (word : BitVec 32) : word.setWidth 8 = byteAt word 0 := by simp [byteAt]
  simp only [putU32, low, byteAt_shift, parts]

theorem getState_putState (state : CipherState) : getState (putState state) = .ok state := by
  have first := getU32_putU32 state.s0 []
    (putU32 state.s1 ++ (putU32 state.s2 ++ putU32 state.s3))
  have second := getU32_putU32 state.s1 (putU32 state.s0) (putU32 state.s2 ++ putU32 state.s3)
  have third := getU32_putU32 state.s2 (putU32 state.s0 ++ putU32 state.s1) (putU32 state.s3)
  have fourth := getU32_putU32 state.s3 (putU32 state.s0 ++ putU32 state.s1 ++ putU32 state.s2) []
  simp only [List.nil_append, List.append_nil, List.append_assoc] at first second third fourth
  unfold getState putState
  simp only [List.append_assoc]
  rw [show getU32 _ 0 = _ from first, show getU32 _ 4 = _ from second,
    show getU32 _ 8 = _ from third, show getU32 _ 12 = _ from fourth]
  rfl

/-- The words of sixteen bytes. -/
theorem exists_putState {block : Bytes} (sixteen : block.length = 16) :
    ∃ state, putState state = block := by
  match block, sixteen with
  | [a0, a1, a2, a3, b0, b1, b2, b3, c0, c1, c2, c3, d0, d1, d2, d3], _ =>
      refine ⟨⟨join a0.toBitVec a1.toBitVec a2.toBitVec a3.toBitVec,
        join b0.toBitVec b1.toBitVec b2.toBitVec b3.toBitVec,
        join c0.toBitVec c1.toBitVec c2.toBitVec c3.toBitVec,
        join d0.toBitVec d1.toBitVec d2.toBitVec d3.toBitVec⟩, ?_⟩
      simp only [putState, putU32_join]
      rfl

theorem length_putState (state : CipherState) : (putState state).length = 16 := by
  simp [putState, putU32]

/-! ### The loop over the rounds -/

/-- The words of a schedule from a place on, as a round key. -/
def keyAt (rdKey : List (BitVec 32)) (rk : Nat) : CipherState :=
  ⟨rdKey.getD rk 0, rdKey.getD (rk + 1) 0, rdKey.getD (rk + 2) 0, rdKey.getD (rk + 3) 0⟩

theorem readKey_eq {rdKey : List (BitVec 32)} {rk : Nat} (inside : rk + 4 ≤ rdKey.length) :
    readKey rdKey rk = .ok (keyAt rdKey rk) := by
  have get (place : Nat) (small : place < rdKey.length) : rdKey.getD place 0 = rdKey[place] := by
    simp [List.getD, small]
  unfold readKey keyAt
  rw [List.drop_eq_getElem_cons (by omega), List.drop_eq_getElem_cons (by omega),
    List.drop_eq_getElem_cons (by omega), List.drop_eq_getElem_cons (by omega),
    get rk (by omega), get (rk + 1) (by omega), get (rk + 2) (by omega), get (rk + 3) (by omega)]

/-- Round keys one after the other. -/
def keysFrom (rdKey : List (BitVec 32)) (rk count : Nat) : List CipherState :=
  (List.range count).map fun number => keyAt rdKey (rk + 4 * number)

theorem keysFrom_succ (rdKey : List (BitVec 32)) (rk count : Nat) :
    keysFrom rdKey rk (count + 1) = keyAt rdKey rk :: keysFrom rdKey (rk + 4) count := by
  unfold keysFrom
  rw [List.range_succ_eq_map, List.map_cons, List.map_map]
  simp only [Function.comp_def, Nat.mul_zero, Nat.add_zero, List.cons.injEq, true_and]
  apply List.map_congr_left
  intro number _
  congr 1
  omega

/-- The loop goes through the round keys in order, an odd number of them. -/
theorem fullRounds_eq (round : CipherState → CipherState → CipherState)
    (rdKey : List (BitVec 32)) (r rk : Nat) (s : CipherState)
    (inside : rk + 8 * (r + 1) ≤ rdKey.length) :
    fullRounds round rdKey (r + 1) rk s
      = .ok ((keysFrom rdKey (rk + 4) (2 * r + 1)).foldl round s, rk + 8 * (r + 1)) := by
  induction r generalizing rk s with
  | zero =>
      unfold fullRounds
      rw [readKey_eq (by omega)]
      rfl
  | succ r inductionHypothesis =>
      have turns : 2 * (r + 1) + 1 = (2 * r + 1) + 1 + 1 := by omega
      have place : rk + 4 + 4 = rk + 8 := by omega
      unfold fullRounds
      rw [readKey_eq (by omega), turns, keysFrom_succ, keysFrom_succ, place]
      have again := inductionHypothesis (rk + 8)
        (round (round s (keyAt rdKey (rk + 4))) (keyAt rdKey (rk + 8))) (by omega)
      simp only [bind, Except.bind, if_neg (Nat.succ_ne_zero r), readKey_eq
        (show rk + 8 + 4 ≤ rdKey.length by omega), again]
      have finish : rk + 8 + 8 * (r + 1) = rk + 8 * (r + 1 + 1) := by omega
      rw [finish]
      rfl

/-- As many words as there are round keys need, for an even number of rounds. -/
structure AesKey.Complete (key : AesKey) : Prop where
  even : key.rounds % 2 = 0
  occupied : 0 < key.rounds
  size : key.rdKey.length = 4 * (key.rounds + 1)

theorem cryptBlock_eq {round lastRound : CipherState → CipherState → CipherState} {key : AesKey}
    (complete : key.Complete) (state : CipherState) :
    cryptBlock round lastRound (putState state) key
      = .ok (putState (lastRound
          ((keysFrom key.rdKey 4 (key.rounds - 1)).foldl round
            (state.addKey (keyAt key.rdKey 0)))
          (keyAt key.rdKey (4 * key.rounds)))) := by
  have even := complete.even
  have occupied := complete.occupied
  have size := complete.size
  obtain ⟨r, half⟩ : ∃ r, key.rounds / 2 = r + 1 := ⟨key.rounds / 2 - 1, by omega⟩
  have loop := fullRounds_eq round key.rdKey r 0 (state.addKey (keyAt key.rdKey 0)) (by omega)
  have finish : 0 + 8 * (r + 1) = 4 * key.rounds := by omega
  have count : 2 * r + 1 = key.rounds - 1 := by omega
  rw [finish, count] at loop
  unfold cryptBlock
  rw [getState_putState, half]
  simp only [bind, Except.bind, readKey_eq (show 0 + 4 ≤ key.rdKey.length by omega), loop,
    readKey_eq (show 4 * key.rounds + 4 ≤ key.rdKey.length by omega)]

/-- `AES_encrypt` is the plain cipher with the round keys of the schedule. -/
theorem aesEncrypt_eq {key : AesKey} (complete : key.Complete) (state : CipherState) :
    aesEncrypt (putState state) key
      = .ok (putState (aesLayers.encipher (keyAt key.rdKey 0)
          (keysFrom key.rdKey 4 (key.rounds - 1)) (keyAt key.rdKey (4 * key.rounds)) state)) := by
  rw [aesEncrypt, cryptBlock_eq complete, encryptRound_eq, lastEncryptRound_eq]
  rfl

theorem aesDecrypt_eq {key : AesKey} (complete : key.Complete) (state : CipherState) :
    aesDecrypt (putState state) key
      = .ok (putState (aesLayers.decipher (keyAt key.rdKey 0)
          (keysFrom key.rdKey 4 (key.rounds - 1)) (keyAt key.rdKey (4 * key.rounds)) state)) := by
  rw [aesDecrypt, cryptBlock_eq complete, decryptRound_eq, lastDecryptRound_eq]
  rfl

/-! ### The decryption schedule -/

theorem unmixKeys_eq (rdKey : List (BitVec 32)) (turns : Nat) :
    unmixKeys rdKey turns = changeRun .index unmixWord rdKey 4 (4 * turns) := by
  induction turns with
  | zero => rfl
  | succ turns inductionHypothesis =>
      have place : 4 * (turns + 1) = 4 + 4 * turns := by omega
      have count : 4 * (turns + 1) = 4 * turns + 4 := by omega
      rw [unmixKeys, inductionHypothesis, unmixEntries_eq, place, Nat.add_comm 4 (4 * turns),
        changeRun_add, Nat.add_comm (4 * turns) 4]

/-- The word at each place of the decryption schedule. -/
theorem invertSchedule_words {key : AesKey} (complete : key.Complete) :
    ∃ inverted, invertSchedule key = .ok inverted ∧ inverted.rounds = key.rounds ∧
      inverted.rdKey.length = key.rdKey.length ∧
      ∀ place, inverted.rdKey[place]?
        = if 4 ≤ place ∧ place < 4 * key.rounds then
            key.rdKey[mirrored 0 (4 * key.rounds) place]?.map unmixWord
          else key.rdKey[mirrored 0 (4 * key.rounds) place]? := by
  have occupied := complete.occupied
  have size := complete.size
  obtain ⟨turned, reversed, order⟩ :=
    @reverseFours_reindexed _ _ Fault.index key.rdKey 0 (4 * key.rounds) (by omega) (by omega)
      (by omega)
  have long := order.length_eq
  obtain ⟨after, changed, afterLong, words⟩ :=
    @changeRun_eq _ _ Fault.index unmixWord turned 4 (4 * (key.rounds - 1)) (by omega)
  refine ⟨{ key with rdKey := after }, ?_, rfl, afterLong.trans long, ?_⟩
  · unfold invertSchedule
    rw [reversed]
    simp only [bind, Except.bind, unmixKeys_eq, changed]
  · intro place
    have upper : 4 + 4 * (key.rounds - 1) = 4 * key.rounds := by omega
    rw [words, upper, order.getElem?_eq]

theorem mirrored_group {rounds number offset : Nat} (inside : number ≤ rounds)
    (small : offset < 4) :
    mirrored 0 (4 * rounds) (4 * number + offset) = 4 * (rounds - number) + offset := by
  unfold mirrored
  rw [if_pos (by omega)]
  omega

/-- The round keys of the decryption schedule, last to first. -/
theorem invertSchedule_eq {key : AesKey} (complete : key.Complete) :
    ∃ inverted, invertSchedule key = .ok inverted ∧ inverted.Complete ∧
      inverted.rounds = key.rounds ∧
      keyAt inverted.rdKey 0 = keyAt key.rdKey (4 * key.rounds) ∧
      keyAt inverted.rdKey (4 * key.rounds) = keyAt key.rdKey 0 ∧
      keysFrom inverted.rdKey 4 (key.rounds - 1)
        = ((keysFrom key.rdKey 4 (key.rounds - 1)).map aesLayers.unmix).reverse := by
  obtain ⟨inverted, made, rounds, long, words⟩ := invertSchedule_words complete
  have occupied := complete.occupied
  have size := complete.size
  have outer (number : Nat) (ends : number = 0 ∨ number = key.rounds) :
      keyAt inverted.rdKey (4 * number) = keyAt key.rdKey (4 * (key.rounds - number)) := by
    have word (offset : Nat) (small : offset < 4) :
        inverted.rdKey.getD (4 * number + offset) 0
          = key.rdKey.getD (4 * (key.rounds - number) + offset) 0 := by
      rw [List.getD_eq_getElem?_getD, List.getD_eq_getElem?_getD, words, if_neg (by omega),
        mirrored_group (by omega) small]
    simp only [keyAt, word 1 (by omega), word 2 (by omega), word 3 (by omega)]
    exact congrArg (fun s0 => (⟨s0, _, _, _⟩ : CipherState)) (word 0 (by omega))
  have inner (number : Nat) (first : 0 < number) (last : number < key.rounds) :
      keyAt inverted.rdKey (4 * number)
        = (keyAt key.rdKey (4 * (key.rounds - number))).map unmixWord := by
    have word (offset : Nat) (small : offset < 4) :
        inverted.rdKey.getD (4 * number + offset) 0
          = unmixWord (key.rdKey.getD (4 * (key.rounds - number) + offset) 0) := by
      have present : 4 * (key.rounds - number) + offset < key.rdKey.length := by omega
      rw [List.getD_eq_getElem?_getD, List.getD_eq_getElem?_getD, words, if_pos (by omega),
        mirrored_group (by omega) small, List.getElem?_eq_getElem present]
      rfl
    simp only [keyAt, CipherState.map, word 1 (by omega), word 2 (by omega), word 3 (by omega)]
    exact congrArg (fun s0 => (⟨s0, _, _, _⟩ : CipherState)) (word 0 (by omega))
  refine ⟨inverted, made, ⟨?_, ?_, ?_⟩, rounds, ?_, ?_, ?_⟩
  · rw [rounds]
    exact complete.even
  · rw [rounds]
    exact occupied
  · rw [rounds, long, size]
  · exact outer 0 (.inl rfl)
  · have last := outer key.rounds (.inr rfl)
    rwa [Nat.sub_self] at last
  · apply List.ext_getElem
    · simp [keysFrom]
    · intro number inside _
      have small : number < key.rounds - 1 := by simpa [keysFrom] using inside
      have place : 4 + 4 * number = 4 * (number + 1) := by omega
      have mirror : 4 + 4 * (key.rounds - 1 - 1 - number) = 4 * (key.rounds - (number + 1)) := by
        omega
      simp only [keysFrom, List.getElem_map, List.getElem_range, List.getElem_reverse,
        List.length_map, List.length_range, mirror, place]
      exact inner (number + 1) (by omega) (by omega)

end AChat.Security.AesCore
