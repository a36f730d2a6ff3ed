import AChat.DbProxy.MessageStore

/-!
Owns what `getRelationId` returns while other threads run, over any rules for the
store: the ids that a statement reads or writes are linked to the pair, and stay so.

Does not own the rules, which differ in what the steps of the others may change.
-/

namespace AChat.DbProxy

open Lib (Prog Protocol)

/-- What the statements on the rows of one pair give a thread. A row of any status is known, and
one that was active at some time is linked. -/
structure RelationRules {Store : Type} (protocol : Protocol Store MessageOp MessageOp.Reply)
    (thread : Nat) (smallId bigId : Id) (known linked : Id → Store → Prop) : Prop where
  stable : ∀ relationId, protocol.Stable thread (linked relationId)
  stableKnown : ∀ relationId, protocol.Stable thread (known relationId)
  selects : protocol.Ensures thread (fun _ => True) (issue (.selectRelation smallId bigId false))
    fun answer store => ∀ ids, answer = .ok ids → ∀ relationId ∈ ids, linked relationId store
  finds : protocol.Ensures thread (fun _ => True) (issue (.selectRelation smallId bigId true))
    fun answer store => ∀ ids, answer = .ok ids → ∀ relationId ∈ ids, known relationId store
  activates : ∀ relationId, protocol.Ensures thread (known relationId)
    (issue (.activateRelation relationId))
    fun answer store => answer = .ok () → linked relationId store
  inserts : protocol.Ensures thread (fun _ => True) (issue (.insertRelation smallId bigId))
    fun answer store => ∀ relationId, answer = .ok relationId → linked relationId store
  resets : ∀ relationId, protocol.Ensures thread (linked relationId) (issue (.setMsgId relationId))
    fun _ => linked relationId

namespace RelationRules

variable {Store : Type} {protocol : Protocol Store MessageOp MessageOp.Reply} {thread : Nat}
  {smallId bigId : Id} {known linked : Id → Store → Prop}

/-- The result is a linked id, if it is one. -/
def Linked (linked : Id → Store → Prop) (relationId : Id) (store : Store) : Prop :=
  relationId = invalidValue ∨ linked relationId store

theorem resetMsgId (rules : RelationRules protocol thread smallId bigId known linked)
    (relationId : Id) :
    protocol.Ensures thread (linked relationId) (resetMsgId relationId)
      fun _ => linked relationId := by
  apply (rules.resets relationId).bind
  intro answer
  cases answer <;> exact .done (rules.stable relationId) fun _ _ => id

theorem stable_answered {α : Type} (answer : Answer α) {know : α → Store → Prop}
    (stable : ∀ value, protocol.Stable thread (know value)) :
    protocol.Stable thread fun store => ∀ value, answer = .ok value → know value store :=
  .all fun value => .all fun _ => stable value

theorem invalid {know : Store → Prop} (stable : protocol.Stable thread know) :
    protocol.Ensures thread know (.done invalidValue) (Linked linked) :=
  .done stable fun _ _ _ => .inl rfl

/-- The branch of `addRelation` for a pair without a row. -/
theorem insertRelation (rules : RelationRules protocol thread smallId bigId known linked) :
    protocol.Ensures thread (fun _ => True) (do
      match ← issue (.insertRelation smallId bigId) with
      | .ok relationId =>
          if relationId ≠ invalidValue then
            let _ ← DbProxy.resetMsgId relationId
            return relationId
          else return relationId
      | _ => return invalidValue) (Linked linked) := by
  apply rules.inserts.bind
  intro answer
  have stable := stable_answered answer rules.stable
  cases answer with
  | noConnection => exact invalid stable
  | failed => exact invalid stable
  | ok relationId =>
      simp only
      split
      · apply Protocol.Ensures.bind ((rules.resetMsgId relationId).strengthen stable
          fun store _ inserted => inserted relationId rfl)
        exact fun _ => .done (rules.stable relationId) fun _ _ => .inr
      · exact .done stable fun store _ inserted => .inr (inserted relationId rfl)

theorem addRelation (rules : RelationRules protocol thread smallId bigId known linked) :
    protocol.Ensures thread (fun _ => True) (RelationModel.addRelation smallId bigId)
      (Linked linked) := by
  apply rules.finds.bind
  intro answer
  have stable := stable_answered answer fun ids => Protocol.Stable.all fun relationId =>
    Protocol.Stable.all fun _ : relationId ∈ ids => rules.stableKnown relationId
  cases answer with
  | noConnection => exact invalid stable
  | failed => exact rules.insertRelation.strengthen stable fun _ _ _ => trivial
  | ok ids =>
      cases ids with
      | nil => exact rules.insertRelation.strengthen stable fun _ _ _ => trivial
      | cons relationId rest =>
          apply Protocol.Ensures.bind ((rules.activates relationId).strengthen stable
            fun store _ found => found _ rfl relationId List.mem_cons_self)
          intro activated
          have stableActivated : protocol.Stable thread fun store =>
              activated = .ok () → linked relationId store := .all fun _ => rules.stable relationId
          cases activated with
          | noConnection => exact invalid stableActivated
          | failed => exact invalid stableActivated
          | ok done => exact .done stableActivated fun _ _ linkedNow => .inr (linkedNow rfl)

theorem getRelationId {userAId userBId : Id} (add : Bool)
    (rules : RelationRules protocol thread (min userAId userBId) (max userAId userBId) known
      linked) :
    protocol.Ensures thread (fun _ => True) (RelationModel.getRelationId userAId userBId add)
      (Linked linked) := by
  unfold RelationModel.getRelationId
  split
  · exact invalid (.const True)
  · apply rules.selects.bind
    intro answer
    have stable := stable_answered answer fun ids => Protocol.Stable.all fun relationId =>
      Protocol.Stable.all fun _ : relationId ∈ ids => rules.stable relationId
    cases answer with
    | noConnection => exact invalid stable
    | failed =>
        simp only
        split
        · exact rules.addRelation.strengthen stable fun _ _ _ => trivial
        · exact invalid stable
    | ok ids =>
        simp only
        split
        · exact rules.addRelation.strengthen stable fun _ _ _ => trivial
        · apply Protocol.Ensures.done stable
          intro store _ selected
          cases last : ids.getLast? with
          | none => exact .inl (by rw [lastId, last]; rfl)
          | some relationId =>
              have found := selected ids rfl relationId (List.mem_of_getLast? last)
              exact .inr (by rw [lastId, last]; exact found)

end RelationRules

end AChat.DbProxy
