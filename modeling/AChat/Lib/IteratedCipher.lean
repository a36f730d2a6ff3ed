import Mathlib.Data.Fintype.EquivFin

/-!
Contract: block ciphers made of rounds, each a substitution, a mixing and the addition of a
round key, over any type of states.

Decryption is not written as the rounds undone one by one: it has the shape of encryption,
with the inner keys unmixed and the order of all keys reversed.

Owns:
- the laws of one round, `RoundLayers`;
- `encipher` and `decipher`;
- that each undoes the other when decryption is given the reversed, unmixed keys.

Does not own: how round keys are made.
-/

namespace AChat.Lib

/-- The layers of one round and their inverses; adding a key twice changes nothing, and the
inverse of the mixing may be taken on state and key apart. -/
structure RoundLayers (State : Type*) where
  addKey : State → State → State
  substitute : State → State
  restore : State → State
  mix : State → State
  unmix : State → State
  addKey_addKey : ∀ state key, addKey (addKey state key) key = state
  restore_substitute : ∀ state, restore (substitute state) = state
  unmix_mix : ∀ state, unmix (mix state) = state
  unmix_addKey : ∀ state key, unmix (addKey state key) = addKey (unmix state) (unmix key)

namespace RoundLayers

variable {State : Type*} (layers : RoundLayers State)

/-- An inner round of encryption. -/
def encipherRound (state key : State) : State :=
  layers.addKey (layers.mix (layers.substitute state)) key

/-- An inner round of decryption. -/
def decipherRound (state key : State) : State :=
  layers.addKey (layers.unmix (layers.restore state)) key

/-- A first key, the inner rounds, and a last round that does not mix. -/
def encipher (first : State) (inner : List State) (last state : State) : State :=
  layers.addKey (layers.substitute (inner.foldl layers.encipherRound (layers.addKey state first)))
    last

def decipher (first : State) (inner : List State) (last state : State) : State :=
  layers.addKey (layers.restore (inner.foldl layers.decipherRound (layers.addKey state first)))
    last

/-- A round of decryption takes the substituted result of a round back to the substituted
state before it. -/
theorem decipherRound_encipherRound (state key : State) :
    layers.decipherRound (layers.substitute (layers.encipherRound state key)) (layers.unmix key)
      = layers.substitute state := by
  unfold decipherRound encipherRound
  rw [layers.restore_substitute, layers.unmix_addKey, layers.unmix_mix, layers.addKey_addKey]

theorem decipherRounds_encipherRounds (inner : List State) (state : State) :
    (inner.map layers.unmix).reverse.foldl layers.decipherRound
        (layers.substitute (inner.foldl layers.encipherRound state))
      = layers.substitute state := by
  induction inner generalizing state with
  | nil => rfl
  | cons key inner inductionHypothesis =>
      have inside := inductionHypothesis (layers.encipherRound state key)
      simp only [List.map_cons, List.reverse_cons, List.foldl_append, List.foldl_cons,
        List.foldl_nil, inside]
      exact layers.decipherRound_encipherRound state key

theorem decipher_encipher (first : State) (inner : List State) (last state : State) :
    layers.decipher last (inner.map layers.unmix).reverse first
        (layers.encipher first inner last state) = state := by
  unfold decipher encipher
  rw [layers.addKey_addKey, layers.decipherRounds_encipherRounds, layers.restore_substitute,
    layers.addKey_addKey]

/-- Over finitely many states the two are inverse permutations. -/
theorem encipher_decipher [Finite State] (first : State) (inner : List State)
    (last state : State) :
    layers.encipher first inner last
        (layers.decipher last (inner.map layers.unmix).reverse first state) = state := by
  have injective : Function.Injective (layers.encipher first inner last) :=
    Function.LeftInverse.injective (layers.decipher_encipher first inner last)
  obtain ⟨plain, encrypted⟩ := Finite.surjective_of_injective injective state
  rw [← encrypted, layers.decipher_encipher]

end RoundLayers

end AChat.Lib
