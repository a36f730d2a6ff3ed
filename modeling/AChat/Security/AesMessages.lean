import AChat.Security.AesSchedule
import AChat.Security.Envelope

/-!
Contract: with the AES of libsecurity, `AES_decrypt` undoes `AES_encrypt` for every key, and
`DecryptMsg` gives back what `EncryptMsg` was given.

Owns:
- the block functions between the two schedules of one key, in both orders;
- these functions as what the envelope of messages asks for.

Does not own: the secrecy of anything.
-/

namespace AChat.Security.AesCore

open AChat.Lib

theorem AesKey.ScheduleOf.complete {key : AesKey} {userKey : Bytes} {nk : Nat}
    (standard : key.ScheduleOf userKey nk) (supported : Supported nk) : key.Complete where
  even := by
    rw [standard.rounds]
    unfold Supported at supported
    omega
  occupied := by
    rw [standard.rounds]
    omega
  size := standard.size

/-! ### One block under one key -/

/-- The two schedules of a key. -/
structure Schedules (userKey : Bytes) (nk : Nat) (encKey decKey : AesKey) : Prop where
  supported : Supported nk
  standard : encKey.ScheduleOf userKey nk
  inverted : invertSchedule encKey = .ok decKey

theorem exists_schedules {userKey : Bytes} {nk : Nat} (supported : Supported nk)
    (inside : 4 * nk ≤ userKey.length) (scratch : AesKey) :
    ∃ encKey decKey, Schedules userKey nk encKey decKey ∧
      aesSetEncryptKey (some userKey) (32 * nk) (some scratch) = .ok (0, some encKey) ∧
      aesSetDecryptKey (some userKey) (32 * nk) (some scratch) = .ok (0, some decKey) := by
  obtain ⟨key, made, standard⟩ := schedule_eq supported inside
  have size : ¬ ((32 * nk : Int) ≠ 128 ∧ (32 * nk : Int) ≠ 192 ∧ (32 * nk : Int) ≠ 256) := by
    unfold Supported at supported
    omega
  have set : aesSetEncryptKey (some userKey) (32 * nk) (some scratch) = .ok (0, some key) := by
    rw [aesSetEncryptKey_some, if_neg size, made]
    rfl
  obtain ⟨inverted, turned, _⟩ := invertSchedule_eq (standard.complete supported)
  refine ⟨key, inverted, ⟨supported, standard, turned⟩, set, ?_⟩
  unfold aesSetDecryptKey
  rw [set]
  simp only [bind, Except.bind, if_neg (Int.lt_irrefl 0), turned]

/-- Both block functions, on the words of a block. -/
theorem Schedules.crypt {userKey : Bytes} {nk : Nat} {encKey decKey : AesKey}
    (schedules : Schedules userKey nk encKey decKey) :
    ∃ first inner last, ∀ state,
      aesEncrypt (putState state) encKey
        = .ok (putState (aesLayers.encipher first inner last state)) ∧
      aesDecrypt (putState state) decKey
        = .ok (putState (aesLayers.decipher last (inner.map aesLayers.unmix).reverse first
            state)) := by
  have complete := schedules.standard.complete schedules.supported
  obtain ⟨inverted, turned, whole, rounds, front, back, inner⟩ := invertSchedule_eq complete
  obtain rfl : inverted = decKey := by
    rw [schedules.inverted] at turned
    exact (Except.ok.inj turned).symm
  refine ⟨_, _, _, fun state => ⟨aesEncrypt_eq complete state, ?_⟩⟩
  rw [aesDecrypt_eq whole state, rounds, front, back, inner]

/-- `AES_decrypt` undoes `AES_encrypt`, and the other way round, for every key of the three
sizes and every block; neither leaves a buffer. -/
theorem aes_inverse {userKey : Bytes} {nk : Nat} (supported : Supported nk)
    (inside : 4 * nk ≤ userKey.length) (scratch : AesKey) :
    ∃ encKey decKey,
      aesSetEncryptKey (some userKey) (32 * nk) (some scratch) = .ok (0, some encKey) ∧
      aesSetDecryptKey (some userKey) (32 * nk) (some scratch) = .ok (0, some decKey) ∧
      ∀ block : Bytes, block.length = 16 →
        (∃ cipher, cipher.length = 16 ∧ aesEncrypt block encKey = .ok cipher ∧
          aesDecrypt cipher decKey = .ok block) ∧
        ∃ plain, plain.length = 16 ∧ aesDecrypt block decKey = .ok plain ∧
          aesEncrypt plain encKey = .ok block := by
  obtain ⟨encKey, decKey, schedules, encrypt, decrypt⟩ :=
    exists_schedules supported inside scratch
  obtain ⟨first, inner, last, crypt⟩ := schedules.crypt
  refine ⟨encKey, decKey, encrypt, decrypt, ?_⟩
  intro block sixteen
  obtain ⟨state, rfl⟩ := exists_putState sixteen
  constructor
  · refine ⟨_, length_putState _, (crypt state).1, ?_⟩
    rw [(crypt _).2, aesLayers.decipher_encipher]
  · refine ⟨_, length_putState _, (crypt state).2, ?_⟩
    rw [(crypt _).1, aesLayers.encipher_decipher]

theorem aes_inverse_short :
    ∃ encKey decKey,
      aesSetEncryptKey (some (List.replicate 16 7)) (32 * (4 : Nat)) (some ⟨[], 0⟩)
        = .ok (0, some encKey) ∧
      aesSetDecryptKey (some (List.replicate 16 7)) (32 * (4 : Nat)) (some ⟨[], 0⟩)
        = .ok (0, some decKey) ∧
      ∃ cipher, aesEncrypt (List.replicate 16 1) encKey = .ok cipher ∧
        aesDecrypt cipher decKey = .ok (List.replicate 16 1) := by
  obtain ⟨encKey, decKey, encrypt, decrypt, blocks⟩ :=
    @aes_inverse (List.replicate 16 7) 4 (.inl rfl) (by simp) ⟨[], 0⟩
  obtain ⟨⟨cipher, _, sealed, opened⟩, _⟩ := blocks (List.replicate 16 1) (by simp)
  exact ⟨encKey, decKey, encrypt, decrypt, cipher, sealed, opened⟩

/-- The loops over the tables are the cipher itself: whitening, then for every round
substitution, shifted rows, mixed columns and a round key, with the last round unmixed. -/
theorem aes_rounds {userKey : Bytes} {nk : Nat} (supported : Supported nk)
    (inside : 4 * nk ≤ userKey.length) (scratch : AesKey) :
    ∃ encKey, aesSetEncryptKey (some userKey) (32 * nk) (some scratch) = .ok (0, some encKey) ∧
      ∀ state, aesEncrypt (putState state) encKey
        = .ok (putState
            ((((keysFrom encKey.rdKey 4 (nk + 5)).foldl
              (fun state roundKey => (state.substitute.map mixWord).addKey roundKey)
              (state.addKey (keyAt encKey.rdKey 0))).substitute).addKey
                (keyAt encKey.rdKey (4 * (nk + 6))))) := by
  obtain ⟨encKey, _, schedules, encrypt, _⟩ := exists_schedules supported inside scratch
  refine ⟨encKey, encrypt, ?_⟩
  intro state
  have rounds := schedules.standard.rounds
  rw [aesEncrypt_eq (schedules.standard.complete supported), rounds]
  rfl

theorem aes_rounds_short :
    ∃ encKey, aesSetEncryptKey (some (List.replicate 24 7)) (32 * (6 : Nat)) (some ⟨[], 0⟩)
        = .ok (0, some encKey) ∧
      aesEncrypt (putState ⟨1, 2, 3, 4⟩) encKey
        = .ok (putState
            ((((keysFrom encKey.rdKey 4 11).foldl
              (fun state roundKey => (state.substitute.map mixWord).addKey roundKey)
              ((⟨1, 2, 3, 4⟩ : CipherState).addKey (keyAt encKey.rdKey 0))).substitute).addKey
                (keyAt encKey.rdKey 48))) := by
  obtain ⟨encKey, encrypt, blocks⟩ :=
    @aes_rounds (List.replicate 24 7) 6 (.inr (.inl rfl)) (by simp) ⟨[], 0⟩
  exact ⟨encKey, encrypt, blocks ⟨1, 2, 3, 4⟩⟩

/-! ### The envelope of messages -/

/-- What the callers do with a key and a block: a schedule in an `AES_KEY` on the stack, then
the block function. -/
def withSchedule (setKey : Option Bytes → Int → Option AesKey → Except Fault (Int × Option AesKey))
    (crypt : Bytes → AesKey → Except Fault Bytes) (aesKey : AesKey) (key : UserKey)
    (block : Block) : Except Fault Bytes := do
  let (_, aesKey) ← setKey (some key.val) 256 (some aesKey)
  match aesKey with
  | some aesKey => crypt block.val aesKey
  | none => .error .index

/-- The bytes that a call returned; the block itself where it failed. -/
def returnedBlock (block : Block) (result : Except Fault Bytes) : Block :=
  match result with
  | .ok bytes => if sixteen : bytes.length = 16 then ⟨bytes, sixteen⟩ else block
  | .error _ => block

/-- The AES of libsecurity. -/
def coreFunctions (aesKey : AesKey) : AesFunctions where
  encrypt key block := returnedBlock block (withSchedule aesSetEncryptKey aesEncrypt aesKey key block)
  decrypt key block := returnedBlock block (withSchedule aesSetDecryptKey aesDecrypt aesKey key block)

theorem returnedBlock_ok {block : Block} {result : Except Fault Bytes} {bytes : Bytes}
    (returned : result = .ok bytes) (sixteen : bytes.length = 16) :
    returnedBlock block result = ⟨bytes, sixteen⟩ := by
  rw [returned]
  exact dif_pos sixteen

/-- The calls never fail, and they are inverse permutations of the blocks. -/
theorem coreFunctions_spec (aesKey : AesKey) (key : UserKey) :
    (coreFunctions aesKey).Inverse key ∧
    ∀ block,
      withSchedule aesSetEncryptKey aesEncrypt aesKey key block
        = .ok ((coreFunctions aesKey).encrypt key block).val ∧
      withSchedule aesSetDecryptKey aesDecrypt aesKey key block
        = .ok ((coreFunctions aesKey).decrypt key block).val := by
  obtain ⟨encKey, decKey, schedules, encrypt, decrypt⟩ :=
    @exists_schedules key.val 8 (.inr (.inr rfl)) (by rw [key.property]) aesKey
  obtain ⟨first, inner, last, crypt⟩ := schedules.crypt
  have sealed (block : Block) (state : CipherState) (words : putState state = block.val) :
      withSchedule aesSetEncryptKey aesEncrypt aesKey key block
        = .ok (putState (aesLayers.encipher first inner last state)) := by
    unfold withSchedule
    rw [show aesSetEncryptKey (some key.val) 256 (some aesKey) = _ from encrypt, ← words]
    exact (crypt state).1
  have opened (block : Block) (state : CipherState) (words : putState state = block.val) :
      withSchedule aesSetDecryptKey aesDecrypt aesKey key block
        = .ok (putState (aesLayers.decipher last (inner.map aesLayers.unmix).reverse first
            state)) := by
    unfold withSchedule
    rw [show aesSetDecryptKey (some key.val) 256 (some aesKey) = _ from decrypt, ← words]
    exact (crypt state).2
  have encrypted (block : Block) (state : CipherState) (words : putState state = block.val) :
      ((coreFunctions aesKey).encrypt key block).val
        = putState (aesLayers.encipher first inner last state) :=
    congrArg Subtype.val (returnedBlock_ok (sealed block state words) (length_putState _))
  have decrypted (block : Block) (state : CipherState) (words : putState state = block.val) :
      ((coreFunctions aesKey).decrypt key block).val
        = putState (aesLayers.decipher last (inner.map aesLayers.unmix).reverse first state) :=
    congrArg Subtype.val (returnedBlock_ok (opened block state words) (length_putState _))
  refine ⟨⟨?_, ?_⟩, ?_⟩
  · intro block
    obtain ⟨state, words⟩ := exists_putState block.property
    apply Subtype.ext
    rw [decrypted _ _ (encrypted block state words).symm, aesLayers.decipher_encipher, words]
  · intro block
    obtain ⟨state, words⟩ := exists_putState block.property
    apply Subtype.ext
    rw [encrypted _ _ (decrypted block state words).symm, aesLayers.encipher_decipher, words]
  · intro block
    obtain ⟨state, words⟩ := exists_putState block.property
    rw [sealed block state words, opened block state words, encrypted block state words,
      decrypted block state words]
    exact ⟨rfl, rfl⟩

/-- What `EncryptMsg` was given comes back from `DecryptMsg`, with nothing assumed of AES. -/
theorem messages_round_trip (aesKey : AesKey) (heap heap' : Heap) {bytes : Bytes} (out out' : Out)
    (occupied : bytes ≠ []) (paddedFits : paddedSize bytes.length < 4294967296)
    (textFits : envelopeSize bytes.length < 4294967296) :
    ∃ envelope,
      encryptMsg (coreFunctions aesKey) heap (some bytes) (BitVec.ofNat 32 bytes.length) out
        = .ok (0, envelope) ∧
      Returned (decryptMsg (coreFunctions aesKey) heap' envelope.data envelope.outLen out')
        bytes := by
  obtain ⟨inverse, _⟩ := coreFunctions_spec aesKey securityKey
  obtain ⟨text, decoded, textSize, encrypted⟩ :=
    @encryptWith_eq ((coreFunctions aesKey).encrypt securityKey) securityWords
      securityWords_bigEndian heap bytes out occupied paddedFits textFits
  exact ⟨_, encrypted, decryptWith_encrypted securityWords_bigEndian inverse.decrypt_encrypt heap'
    out' paddedFits textFits decoded textSize⟩

theorem messages_round_trip_letter :
    ∃ envelope,
      encryptMsg (coreFunctions ⟨[], 0⟩) (fun _ => 0) (some [97]) (BitVec.ofNat 32 1)
          { data := none, outLen := 0 }
        = .ok (0, envelope) ∧
      Returned (decryptMsg (coreFunctions ⟨[], 0⟩) (fun _ => 1) envelope.data envelope.outLen
        { data := none, outLen := 0 }) [97] :=
  @messages_round_trip ⟨[], 0⟩ (fun _ => 0) (fun _ => 1) [97] _ _ (by decide) (by decide)
    (by decide)

end AChat.Security.AesCore
