import AChat.Security.AesCipher

/-!
Contract: the three loops of `AES_set_encrypt_key` write the key expansion of the cipher.

Owns:
- the recurrence of the key expansion, for any number of words in a key;
- that the words written by each loop satisfy it and fill the round keys exactly.

Does not own: what the round keys are used for.
-/

namespace AChat.Security.AesCore

open AChat.Lib

/-! ### The recurrence -/

/-- `SubWord`. -/
def subWord (word : BitVec 32) : BitVec 32 :=
  join (subByte (byteAt word 24)) (subByte (byteAt word 16)) (subByte (byteAt word 8))
    (subByte (byteAt word 0))

/-- `RotWord`. -/
def rotWord (word : BitVec 32) : BitVec 32 :=
  join (byteAt word 16) (byteAt word 8) (byteAt word 0) (byteAt word 24)

/-- The constant of a round: a power of `x` in the highest byte. -/
def roundConstant (round : Nat) : BitVec 32 :=
  join (xtime^[round] 1) 0 0 0

/-- What is added to the word `nk` places before, from the word in front. -/
def expansionTerm (nk round column : Nat) (previous : BitVec 32) : BitVec 32 :=
  if column = 0 then subWord (rotWord previous) ^^^ roundConstant round
  else if 6 < nk ∧ column = 4 then subWord previous
  else previous

/-- Words that follow from their first `nk` by the key expansion, whose first constant is the
one of this round. -/
def Expands (nk round : Nat) (words : List (BitVec 32)) : Prop :=
  ∀ place, nk + place < words.length →
    words.getD (nk + place) 0
      = words.getD place 0 ^^^
          expansionTerm nk (round + place / nk) (place % nk) (words.getD (nk + place - 1) 0)

/-- The first words of a turn follow from the words before, and the others from them. -/
theorem expands_append {nk round : Nat} {window rest : List (BitVec 32)}
    (size : window.length = nk) (occupied : 0 < nk)
    (turn : ∀ place, place < nk → place < rest.length →
      rest.getD place 0
        = window.getD place 0 ^^^
            expansionTerm nk round place ((window ++ rest).getD (nk + place - 1) 0))
    (later : Expands nk (round + 1) rest) : Expands nk round (window ++ rest) := by
  intro place inside
  have behind (offset : Nat) : (window ++ rest).getD (nk + offset) 0 = rest.getD offset 0 := by
    rw [List.getD_append_right _ _ _ _ (by omega), size, Nat.add_sub_cancel_left]
  rw [List.length_append, size] at inside
  by_cases first : place < nk
  · have front : (window ++ rest).getD place 0 = window.getD place 0 :=
      List.getD_append _ _ _ _ (by omega)
    rw [behind, front, Nat.div_eq_of_lt first, Nat.mod_eq_of_lt first]
    exact turn place first (by omega)
  · obtain ⟨offset, rfl⟩ : ∃ offset, place = nk + offset := ⟨place - nk, by omega⟩
    have before : nk + (nk + offset) - 1 = nk + (nk + offset - 1) := by omega
    have column : (nk + offset) % nk = offset % nk := Nat.add_mod_left nk offset
    have count : round + (nk + offset) / nk = round + 1 + offset / nk := by
      rw [Nat.add_div_left _ occupied]
      omega
    rw [behind, behind, before, behind, column, count]
    exact later offset (by omega)

theorem expands_short {nk round : Nat} {words : List (BitVec 32)} (short : words.length ≤ nk) :
    Expands nk round words := by
  intro place inside
  omega

/-! ### The three loops -/

theorem rconAt_eq : ∀ i < 10, rconAt i = roundConstant i := by
  decide

/-- The first word of a turn. -/
theorem first_term (nk : Nat) {i : Nat} (inside : i < 10) (word temp : BitVec 32) :
    word ^^^ rotatedEntries temp ^^^ rconAt i = word ^^^ expansionTerm nk i 0 temp := by
  have rotated : rotatedEntries temp = subWord (rotWord temp) := by
    simp only [scheduleEntries_eq, subWord, rotWord, byteAt_join]
  rw [rotated, rconAt_eq i inside, BitVec.xor_assoc]
  rfl

theorem straight_term {nk : Nat} (large : 6 < nk) (i : Nat) (temp : BitVec 32) :
    straightEntries temp = expansionTerm nk i 4 temp := by
  rw [(scheduleEntries_eq temp).2, expansionTerm, if_neg (by omega), if_pos ⟨large, rfl⟩]
  rfl

/-- The words of the other columns are added to the word in front. -/
theorem other_term {nk i column : Nat} (inside : 0 < column) (plain : nk ≤ 6 ∨ column ≠ 4)
    (previous : BitVec 32) : previous = expansionTerm nk i column previous := by
  rw [expansionTerm, if_neg (by omega), if_neg (by omega)]

theorem length_expand128 (turns i : Nat) (rk0 rk1 rk2 rk3 : BitVec 32) :
    (expand128 turns i rk0 rk1 rk2 rk3).length = 4 * turns := by
  induction turns generalizing i rk0 rk1 rk2 rk3 with
  | zero => rfl
  | succ turns inductionHypothesis =>
      simp only [expand128, List.length_cons, inductionHypothesis]
      omega

theorem expand128_expands (turns i : Nat) (rk0 rk1 rk2 rk3 : BitVec 32)
    (inside : i + turns ≤ 10) :
    Expands 4 i ([rk0, rk1, rk2, rk3] ++ expand128 turns i rk0 rk1 rk2 rk3) := by
  induction turns generalizing i rk0 rk1 rk2 rk3 with
  | zero => exact expands_short (by simp [expand128])
  | succ turns inductionHypothesis =>
      have later := inductionHypothesis (i + 1) (rk0 ^^^ rotatedEntries rk3 ^^^ rconAt i)
        (rk1 ^^^ (rk0 ^^^ rotatedEntries rk3 ^^^ rconAt i))
        (rk2 ^^^ (rk1 ^^^ (rk0 ^^^ rotatedEntries rk3 ^^^ rconAt i)))
        (rk3 ^^^ (rk2 ^^^ (rk1 ^^^ (rk0 ^^^ rotatedEntries rk3 ^^^ rconAt i)))) (by omega)
      refine expands_append rfl (by omega) ?_ later
      intro place small _
      match place, small with
      | 0, _ => exact first_term 4 (by omega) rk0 rk3
      | 1, _ => exact congrArg (rk1 ^^^ ·) (other_term (by omega) (.inl (by omega)) _)
      | 2, _ => exact congrArg (rk2 ^^^ ·) (other_term (by omega) (.inl (by omega)) _)
      | 3, _ => exact congrArg (rk3 ^^^ ·) (other_term (by omega) (.inl (by omega)) _)

theorem length_expand192 (turns i : Nat) (rk0 rk1 rk2 rk3 rk4 rk5 : BitVec 32) :
    (expand192 (turns + 1) i rk0 rk1 rk2 rk3 rk4 rk5).length = 6 * turns + 4 := by
  induction turns generalizing i rk0 rk1 rk2 rk3 rk4 rk5 with
  | zero => rfl
  | succ turns inductionHypothesis =>
      rw [expand192]
      simp only [Nat.succ_ne_zero, if_false, List.length_cons, inductionHypothesis]
      omega

theorem expand192_expands (turns i : Nat) (rk0 rk1 rk2 rk3 rk4 rk5 : BitVec 32)
    (inside : i + turns ≤ 9) :
    Expands 6 i ([rk0, rk1, rk2, rk3, rk4, rk5] ++
      expand192 (turns + 1) i rk0 rk1 rk2 rk3 rk4 rk5) := by
  induction turns generalizing i rk0 rk1 rk2 rk3 rk4 rk5 with
  | zero =>
      refine expands_append rfl (by omega) ?_ (expands_short (by simp [expand192]))
      intro place _ small
      match place, small with
      | 0, _ => exact first_term 6 (by omega) rk0 rk5
      | 1, _ => exact congrArg (rk1 ^^^ ·) (other_term (by omega) (.inl (by omega)) _)
      | 2, _ => exact congrArg (rk2 ^^^ ·) (other_term (by omega) (.inl (by omega)) _)
      | 3, _ => exact congrArg (rk3 ^^^ ·) (other_term (by omega) (.inl (by omega)) _)
  | succ turns inductionHypothesis =>
      rw [expand192]
      simp only [Nat.succ_ne_zero, if_false]
      refine expands_append rfl (by omega) ?_
        (inductionHypothesis (i + 1) _ _ _ _ _ _ (by omega))
      intro place small _
      match place, small with
      | 0, _ => exact first_term 6 (by omega) rk0 rk5
      | 1, _ => exact congrArg (rk1 ^^^ ·) (other_term (by omega) (.inl (by omega)) _)
      | 2, _ => exact congrArg (rk2 ^^^ ·) (other_term (by omega) (.inl (by omega)) _)
      | 3, _ => exact congrArg (rk3 ^^^ ·) (other_term (by omega) (.inl (by omega)) _)
      | 4, _ => exact congrArg (rk4 ^^^ ·) (other_term (by omega) (.inl (by omega)) _)
      | 5, _ => exact congrArg (rk5 ^^^ ·) (other_term (by omega) (.inl (by omega)) _)

theorem length_expand256 (turns i : Nat) (rk0 rk1 rk2 rk3 rk4 rk5 rk6 rk7 : BitVec 32) :
    (expand256 (turns + 1) i rk0 rk1 rk2 rk3 rk4 rk5 rk6 rk7).length = 8 * turns + 4 := by
  induction turns generalizing i rk0 rk1 rk2 rk3 rk4 rk5 rk6 rk7 with
  | zero => rfl
  | succ turns inductionHypothesis =>
      rw [expand256]
      simp only [Nat.succ_ne_zero, if_false, List.length_cons, inductionHypothesis]
      omega

theorem expand256_expands (turns i : Nat) (rk0 rk1 rk2 rk3 rk4 rk5 rk6 rk7 : BitVec 32)
    (inside : i + turns ≤ 9) :
    Expands 8 i ([rk0, rk1, rk2, rk3, rk4, rk5, rk6, rk7] ++
      expand256 (turns + 1) i rk0 rk1 rk2 rk3 rk4 rk5 rk6 rk7) := by
  induction turns generalizing i rk0 rk1 rk2 rk3 rk4 rk5 rk6 rk7 with
  | zero =>
      refine expands_append rfl (by omega) ?_ (expands_short (by simp [expand256]))
      intro place _ small
      match place, small with
      | 0, _ => exact first_term 8 (by omega) rk0 rk7
      | 1, _ => exact congrArg (rk1 ^^^ ·) (other_term (by omega) (.inr (by omega)) _)
      | 2, _ => exact congrArg (rk2 ^^^ ·) (other_term (by omega) (.inr (by omega)) _)
      | 3, _ => exact congrArg (rk3 ^^^ ·) (other_term (by omega) (.inr (by omega)) _)
  | succ turns inductionHypothesis =>
      rw [expand256]
      simp only [Nat.succ_ne_zero, if_false]
      refine expands_append rfl (by omega) ?_
        (inductionHypothesis (i + 1) _ _ _ _ _ _ _ _ (by omega))
      intro place small _
      match place, small with
      | 0, _ => exact first_term 8 (by omega) rk0 rk7
      | 1, _ => exact congrArg (rk1 ^^^ ·) (other_term (by omega) (.inr (by omega)) _)
      | 2, _ => exact congrArg (rk2 ^^^ ·) (other_term (by omega) (.inr (by omega)) _)
      | 3, _ => exact congrArg (rk3 ^^^ ·) (other_term (by omega) (.inr (by omega)) _)
      | 4, _ => exact congrArg (rk4 ^^^ ·) (straight_term (by omega) i _)
      | 5, _ => exact congrArg (rk5 ^^^ ·) (other_term (by omega) (.inr (by omega)) _)
      | 6, _ => exact congrArg (rk6 ^^^ ·) (other_term (by omega) (.inr (by omega)) _)
      | 7, _ => exact congrArg (rk7 ^^^ ·) (other_term (by omega) (.inr (by omega)) _)

/-! ### The schedule of a key -/

theorem getU32_inside {pt : Bytes} {offset : Nat} (inside : offset + 4 ≤ pt.length) :
    getU32 pt offset
      = .ok (join (pt.getD offset 0).toBitVec (pt.getD (offset + 1) 0).toBitVec
          (pt.getD (offset + 2) 0).toBitVec (pt.getD (offset + 3) 0).toBitVec) := by
  have get (place : Nat) (small : place < pt.length) : pt.getD place 0 = pt[place] := by
    simp [List.getD, small]
  unfold getU32
  rw [List.drop_eq_getElem_cons (by omega), List.drop_eq_getElem_cons (by omega),
    List.drop_eq_getElem_cons (by omega), List.drop_eq_getElem_cons (by omega),
    get offset (by omega), get (offset + 1) (by omega), get (offset + 2) (by omega),
    get (offset + 3) (by omega)]
  exact congrArg Except.ok (shifted_bytes _ _ _ _)

/-- The word of a user key that starts at this byte. -/
def userWord (userKey : Bytes) (offset : Nat) : BitVec 32 :=
  join (userKey.getD offset 0).toBitVec (userKey.getD (offset + 1) 0).toBitVec
    (userKey.getD (offset + 2) 0).toBitVec (userKey.getD (offset + 3) 0).toBitVec

/-- The standard schedule of a key of `nk` words: the words of the key, then the expansion, for
`nk + 6` rounds, in the sixty words of an `AES_KEY`. -/
structure AesKey.ScheduleOf (key : AesKey) (userKey : Bytes) (nk : Nat) : Prop where
  rounds : key.rounds = nk + 6
  size : key.rdKey.length = 4 * (key.rounds + 1)
  room : key.rdKey.length ≤ 60
  front : ∀ place < nk, key.rdKey.getD place 0 = userWord userKey (4 * place)
  expands : Expands nk 0 key.rdKey

theorem schedule128_eq {userKey : Bytes} (inside : 16 ≤ userKey.length) :
    ∃ key, schedule userKey 128 = .ok key ∧ key.ScheduleOf userKey 4 := by
  let word (place : Nat) : BitVec 32 := userWord userKey (4 * place)
  have read (place : Nat) (small : place < 4) : getU32 userKey (4 * place) = .ok (word place) :=
    getU32_inside (by omega)
  let key : AesKey :=
    { rdKey := [word 0, word 1, word 2, word 3] ++
        expand128 10 0 (word 0) (word 1) (word 2) (word 3)
      rounds := 10 }
  have size : key.rdKey.length = 44 := by
    rw [List.length_append, length_expand128]
    rfl
  refine ⟨key, ?_, rfl, size, by omega, ?_, expand128_expands 10 0 _ _ _ _ (by omega)⟩
  · unfold schedule
    rw [show getU32 userKey 0 = _ from read 0 (by omega),
      show getU32 userKey 4 = _ from read 1 (by omega),
      show getU32 userKey 8 = _ from read 2 (by omega),
      show getU32 userKey 12 = _ from read 3 (by omega)]
    rfl
  · intro place small
    match place, small with
    | 0, _ | 1, _ | 2, _ | 3, _ => rfl

theorem schedule192_eq {userKey : Bytes} (inside : 24 ≤ userKey.length) :
    ∃ key, schedule userKey 192 = .ok key ∧ key.ScheduleOf userKey 6 := by
  let word (place : Nat) : BitVec 32 := userWord userKey (4 * place)
  have read (place : Nat) (small : place < 6) : getU32 userKey (4 * place) = .ok (word place) :=
    getU32_inside (by omega)
  let key : AesKey :=
    { rdKey := [word 0, word 1, word 2, word 3, word 4, word 5] ++
        expand192 8 0 (word 0) (word 1) (word 2) (word 3) (word 4) (word 5)
      rounds := 12 }
  have size : key.rdKey.length = 52 := by
    rw [List.length_append, length_expand192]
    rfl
  refine ⟨key, ?_, rfl, size, by omega, ?_, expand192_expands 7 0 _ _ _ _ _ _ (by omega)⟩
  · unfold schedule
    rw [show getU32 userKey 0 = _ from read 0 (by omega),
      show getU32 userKey 4 = _ from read 1 (by omega),
      show getU32 userKey 8 = _ from read 2 (by omega),
      show getU32 userKey 12 = _ from read 3 (by omega),
      show getU32 userKey 16 = _ from read 4 (by omega),
      show getU32 userKey 20 = _ from read 5 (by omega)]
    rfl
  · intro place small
    match place, small with
    | 0, _ | 1, _ | 2, _ | 3, _ | 4, _ | 5, _ => rfl

theorem schedule256_eq {userKey : Bytes} (inside : 32 ≤ userKey.length) :
    ∃ key, schedule userKey 256 = .ok key ∧ key.ScheduleOf userKey 8 := by
  let word (place : Nat) : BitVec 32 := userWord userKey (4 * place)
  have read (place : Nat) (small : place < 8) : getU32 userKey (4 * place) = .ok (word place) :=
    getU32_inside (by omega)
  let key : AesKey :=
    { rdKey := [word 0, word 1, word 2, word 3, word 4, word 5, word 6, word 7] ++
        expand256 7 0 (word 0) (word 1) (word 2) (word 3) (word 4) (word 5) (word 6) (word 7)
      rounds := 14 }
  have size : key.rdKey.length = 60 := by
    rw [List.length_append, length_expand256]
    rfl
  refine ⟨key, ?_, rfl, size, by omega, ?_, expand256_expands 6 0 _ _ _ _ _ _ _ _ (by omega)⟩
  · unfold schedule
    rw [show getU32 userKey 0 = _ from read 0 (by omega),
      show getU32 userKey 4 = _ from read 1 (by omega),
      show getU32 userKey 8 = _ from read 2 (by omega),
      show getU32 userKey 12 = _ from read 3 (by omega),
      show getU32 userKey 16 = _ from read 4 (by omega),
      show getU32 userKey 20 = _ from read 5 (by omega),
      show getU32 userKey 24 = _ from read 6 (by omega),
      show getU32 userKey 28 = _ from read 7 (by omega)]
    rfl
  · intro place small
    match place, small with
    | 0, _ | 1, _ | 2, _ | 3, _ | 4, _ | 5, _ | 6, _ | 7, _ => rfl

/-- The sizes of a key in words that the function takes. -/
def Supported (nk : Nat) : Prop :=
  nk = 4 ∨ nk = 6 ∨ nk = 8

theorem schedule_eq {userKey : Bytes} {nk : Nat} (supported : Supported nk)
    (inside : 4 * nk ≤ userKey.length) :
    ∃ key, schedule userKey (32 * nk) = .ok key ∧ key.ScheduleOf userKey nk := by
  obtain rfl | rfl | rfl := supported
  · exact schedule128_eq inside
  · exact schedule192_eq inside
  · exact schedule256_eq inside

theorem aesSetEncryptKey_some (userKey : Bytes) (bits : Int) (scratch : AesKey) :
    aesSetEncryptKey (some userKey) bits (some scratch)
      = if bits ≠ 128 ∧ bits ≠ 192 ∧ bits ≠ 256 then .ok (-2, some scratch)
        else schedule userKey bits >>= fun key => .ok (0, some key) :=
  rfl

/-- `AES_set_encrypt_key` writes the standard schedule, for all three sizes of a key, and
refuses every other size. -/
theorem aesSetEncryptKey_schedule (userKey : Bytes) (scratch : AesKey) :
    (∀ nk, Supported nk → 4 * nk ≤ userKey.length →
      ∃ key, aesSetEncryptKey (some userKey) (32 * nk) (some scratch) = .ok (0, some key) ∧
        key.ScheduleOf userKey nk) ∧
    ∀ bits : Int, (∀ nk : Nat, Supported nk → bits ≠ 32 * nk) →
      aesSetEncryptKey (some userKey) bits (some scratch) = .ok (-2, some scratch) := by
  constructor
  · intro nk supported inside
    obtain ⟨key, made, standard⟩ := schedule_eq supported inside
    refine ⟨key, ?_, standard⟩
    have size : ¬ ((32 * nk : Int) ≠ 128 ∧ (32 * nk : Int) ≠ 192 ∧ (32 * nk : Int) ≠ 256) := by
      unfold Supported at supported
      omega
    rw [aesSetEncryptKey_some, if_neg size, made]
    rfl
  · intro bits other
    have first := other 4 (.inl rfl)
    have second := other 6 (.inr (.inl rfl))
    have third := other 8 (.inr (.inr rfl))
    rw [aesSetEncryptKey_some, if_pos (by omega)]

/-- A key of 32 bytes, asked for as one of 256 bits, of 192 bits and of 100 bits. -/
theorem aesSetEncryptKey_schedule_zeros :
    let userKey : Bytes := List.replicate 32 0
    let scratch : AesKey := ⟨[], 0⟩
    (∃ key, aesSetEncryptKey (some userKey) 256 (some scratch) = .ok (0, some key) ∧
        key.ScheduleOf userKey 8) ∧
      (∃ key, aesSetEncryptKey (some userKey) 192 (some scratch) = .ok (0, some key) ∧
        key.ScheduleOf userKey 6) ∧
      aesSetEncryptKey (some userKey) 100 (some scratch) = .ok (-2, some scratch) := by
  intro userKey scratch
  have written := aesSetEncryptKey_schedule userKey scratch
  refine ⟨written.1 8 (.inr (.inr rfl)) (by decide), written.1 6 (.inr (.inl rfl)) (by decide),
    written.2 100 ?_⟩
  rintro nk (rfl | rfl | rfl) <;> decide

end AChat.Security.AesCore
