import AChat.Lib.Reach
import AChat.Net.Channel

/-!
Contract: whether the index of a channel says where the channel is.

`updateChannel` sets the index before the kernel has taken the channel, and
`removeChannel` returns for exactly the channels that are in the map. The index
is right all along a run exactly when neither happens.

Owns: the invariant of indices, map and kernel.
-/

namespace AChat.Net

open Lib

/-! ### Runs -/

/-- The update adds the channel to the kernel. -/
def EpollPoller.Adds (poller : EpollPoller) (channel : Channel) : Prop :=
  channel.index = kNew ∧ poller.channels channel.fd = none ∨ channel.index = kDeleted

/-- A poller, the channels of its loop, and the channel that was removed from the map in the
last step. -/
structure PollerRun where
  poller : EpollPoller
  objects : ChannelPtr → Channel
  removed : Option ChannelPtr

inductive PollerEvent where
  | updateChannel (ptr : ChannelPtr) (events : Events) (succeeds : Bool)
  | removeChannel (ptr : ChannelPtr) (succeeds : Bool)
deriving DecidableEq, Repr

namespace PollerRun

/-- New channels for these descriptors. -/
def start (fdOf : ChannelPtr → Int) : PollerRun :=
  ⟨.empty, fun ptr => .new (fdOf ptr), none⟩

def InMap (current : PollerRun) (ptr : ChannelPtr) : Prop :=
  current.poller.channels (current.objects ptr).fd = some (some ptr)

def InKernel (current : PollerRun) (ptr : ChannelPtr) : Prop :=
  current.poller.kernel (current.objects ptr).fd ≠ none

instance InMap.instDecidable (current : PollerRun) (ptr : ChannelPtr) :
    Decidable (current.InMap ptr) :=
  inferInstanceAs (Decidable (_ = _))

def step (current : PollerRun) : PollerEvent → PollerRun
  | .updateChannel ptr events succeeds =>
      let updated := current.poller.updateChannel ptr
        { current.objects ptr with events := events } succeeds
      { poller := updated.2.1
        objects := Function.update current.objects ptr updated.2.2
        removed := none }
  | .removeChannel ptr succeeds =>
      let channel := current.objects ptr
      let after := channel.remove current.poller ptr succeeds
      { poller := after.1
        objects := Function.update current.objects ptr after.2
        removed := if channel.isNoneEvent ∧ current.InMap ptr then some ptr else none }

/-- The index says where the channel is. -/
structure IndexRight (current : PollerRun) (ptr : ChannelPtr) : Prop where
  added : (current.objects ptr).index = kAdded ↔ current.InMap ptr ∧ current.InKernel ptr
  deleted : (current.objects ptr).index = kDeleted ↔ current.InMap ptr ∧ ¬current.InKernel ptr
  new : (current.objects ptr).index = kNew ↔ ¬current.InMap ptr ∧ ¬current.InKernel ptr

/-- All indices are right, and a channel that was removed from the map is new. -/
structure Registered (current : PollerRun) : Prop where
  index : ∀ ptr, current.IndexRight ptr
  removed : ∀ ptr, current.removed = some ptr →
    (¬current.InMap ptr ∧ ¬current.InKernel ptr) ∧ (current.objects ptr).index = kNew

/-- A channel that is added is taken by the kernel, and no channel of the map is removed. -/
def KeepsRegistered (current : PollerRun) : PollerEvent → Prop
  | .updateChannel ptr _ succeeds => current.poller.Adds (current.objects ptr) → succeeds = true
  | .removeChannel ptr _ => (current.objects ptr).isNoneEvent = true → ¬current.InMap ptr

end PollerRun

/-! ### What the poller changes -/

namespace EpollPoller

variable {poller : EpollPoller} {ptr : ChannelPtr} {channel : Channel}

/-- Only the descriptor of the channel is concerned. -/
structure OnlyAt (fd : Int) (before after : EpollPoller) : Prop where
  channels : ∀ other, other ≠ fd → after.channels other = before.channels other
  kernel : ∀ other, other ≠ fd → after.kernel other = before.kernel other

theorem OnlyAt.refl (fd : Int) (poller : EpollPoller) : OnlyAt fd poller poller :=
  ⟨fun _ _ => rfl, fun _ _ => rfl⟩

theorem OnlyAt.trans {fd : Int} {before middle after : EpollPoller}
    (first : OnlyAt fd before middle)
    (second : OnlyAt fd middle after) : OnlyAt fd before after :=
  ⟨fun other different => (second.channels other different).trans (first.channels other different),
    fun other different => (second.kernel other different).trans (first.kernel other different)⟩

theorem OnlyAt.setEntry (poller : EpollPoller) (fd : Int) (entry : Option (Option ChannelPtr)) :
    OnlyAt fd poller { poller with channels := Function.update poller.channels fd entry } :=
  ⟨fun _ different => Function.update_of_ne different _ _, fun _ _ => rfl⟩

theorem OnlyAt.update (poller : EpollPoller) (operation : EpollOp) (channel : Channel)
    (succeeds : Bool) :
    OnlyAt channel.fd poller (poller.update operation channel succeeds).2 := by
  unfold EpollPoller.update
  split
  · exact ⟨fun _ _ => rfl, fun _ different => Function.update_of_ne different _ _⟩
  · exact ⟨fun _ _ => rfl, fun _ different => Function.update_of_ne different _ _⟩
  · exact ⟨fun _ _ => rfl, fun _ different => Function.update_of_ne different _ _⟩
  · exact .refl _ _

/-- Where a channel is, by its index. -/
inductive Place (poller : EpollPoller) (ptr : ChannelPtr) (channel : Channel) : Prop where
  | new : channel.index = kNew → poller.channels channel.fd ≠ some (some ptr) →
      poller.kernel channel.fd = none → Place poller ptr channel
  | added (events : Events) : channel.index = kAdded →
      poller.channels channel.fd = some (some ptr) →
      poller.kernel channel.fd = some events → Place poller ptr channel
  | deleted : channel.index = kDeleted → poller.channels channel.fd = some (some ptr) →
      poller.kernel channel.fd = none → Place poller ptr channel

/-- A channel with another descriptor stays where it is. -/
theorem Place.other {after : EpollPoller} {fd : Int} (place : Place poller ptr channel)
    (only : OnlyAt fd poller after) (different : channel.fd ≠ fd) : Place after ptr channel := by
  have channels := only.channels channel.fd different
  have kernel := only.kernel channel.fd different
  cases place with
  | new index absent registered => exact .new index (channels ▸ absent) (kernel.trans registered)
  | added events index present registered =>
      exact .added events index (channels.trans present) (kernel.trans registered)
  | deleted index present registered =>
      exact .deleted index (channels.trans present) (kernel.trans registered)

theorem onlyAt_addChannel (poller : EpollPoller) (channel : Channel) (succeeds : Bool) :
    OnlyAt channel.fd poller (poller.addChannel channel succeeds).2.1 :=
  OnlyAt.update poller .add { channel with index := kAdded } succeeds

theorem addChannel_place (present : poller.channels channel.fd = some (some ptr))
    (registered : poller.kernel channel.fd = none) :
    Place (poller.addChannel channel true).2.1 ptr (poller.addChannel channel true).2.2 := by
  have added : poller.update .add { channel with index := kAdded } true =
      (true, { poller with
        kernel := Function.update poller.kernel channel.fd (some channel.events) }) := by
    unfold EpollPoller.update
    rw [registered]
  unfold addChannel
  simp only [added]
  exact .added channel.events rfl present (Function.update_self ..)

theorem update_fails (poller : EpollPoller) (operation : EpollOp) (channel : Channel) :
    poller.update operation channel false = (false, poller) := by
  unfold EpollPoller.update
  cases operation <;> cases poller.kernel channel.fd <;> rfl

/-- The index is set although the kernel has not taken the channel. -/
theorem addChannel_fails (registered : poller.kernel channel.fd = none) :
    (poller.addChannel channel false).2.2.index = kAdded ∧
      (poller.addChannel channel false).2.1.kernel channel.fd = none := by
  unfold addChannel
  simp only [update_fails]
  exact ⟨trivial, registered⟩

theorem onlyAt_updateChannel (poller : EpollPoller) (ptr : ChannelPtr) (channel : Channel)
    (succeeds : Bool) :
    OnlyAt channel.fd poller (poller.updateChannel ptr channel succeeds).2.1 := by
  unfold updateChannel
  split
  · split
    · exact .refl _ _
    · exact (OnlyAt.setEntry poller channel.fd (some (some ptr))).trans
        (onlyAt_addChannel _ channel succeeds)
  · split
    · split
      · exact .refl _ _
      · exact onlyAt_addChannel poller channel succeeds
    · split
      · exact .refl _ _
      · split
        · exact OnlyAt.update poller .del channel succeeds
        · exact OnlyAt.update poller .mod channel succeeds

theorem updateChannel_place (place : Place poller ptr channel) {succeeds : Bool}
    (taken : poller.Adds channel → succeeds = true) :
    Place (poller.updateChannel ptr channel succeeds).2.1 ptr
      (poller.updateChannel ptr channel succeeds).2.2 := by
  unfold updateChannel
  cases place with
  | new index absent registered =>
      rw [if_pos index]
      split
      · exact .new index absent registered
      · rename_i free
        rw [taken (Or.inl ⟨index, not_not.mp free⟩)]
        exact addChannel_place (Function.update_self ..) registered
  | deleted index present registered =>
      rw [if_neg (by rw [index]; decide), if_pos index, if_neg (not_not.mpr present),
        taken (Or.inr index)]
      exact addChannel_place present registered
  | added events index present registered =>
      rw [if_neg (by rw [index]; decide), if_neg (by rw [index]; decide),
        if_neg (by simp [present, index])]
      unfold EpollPoller.update
      rw [registered]
      cases succeeds with
      | false =>
          split
          · exact .added events index present registered
          · exact .added events index present registered
      | true =>
          split
          · exact .deleted rfl present (Function.update_self ..)
          · exact .added channel.events index present (Function.update_self ..)

/-- A channel that is added without the kernel has the index of one that is registered. -/
theorem updateChannel_fails (place : Place poller ptr channel) (adds : poller.Adds channel) :
    (poller.updateChannel ptr channel false).2.2.index = kAdded ∧
      (poller.updateChannel ptr channel false).2.1.kernel channel.fd = none := by
  unfold updateChannel
  cases place with
  | new index absent registered =>
      have free : poller.channels channel.fd = none := by
        cases adds with
        | inl new => exact new.2
        | inr deleted => exact absurd (index.symm.trans deleted) (by decide)
      rw [if_pos index, if_neg (not_not.mpr free)]
      exact addChannel_fails registered
  | deleted index present registered =>
      rw [if_neg (by rw [index]; decide), if_pos index, if_neg (not_not.mpr present)]
      exact addChannel_fails registered
  | added events index present registered =>
      cases adds with
      | inl new => exact absurd (index.symm.trans new.1) (by decide)
      | inr deleted => exact absurd (index.symm.trans deleted) (by decide)

/-- A channel that is not in the map is left as it is, but for a null pointer in the map. -/
theorem removeChannel_place (place : Place poller ptr channel)
    (absent : poller.channels channel.fd ≠ some (some ptr)) (succeeds : Bool) :
    Place (poller.removeChannel ptr channel succeeds).1 ptr channel ∧
      (poller.removeChannel ptr channel succeeds).2 = channel ∧
      OnlyAt channel.fd poller (poller.removeChannel ptr channel succeeds).1 := by
  cases place with
  | added _ _ present _ => exact absurd present absent
  | deleted _ present _ => exact absurd present absent
  | new index _ registered =>
      have unknown : channel.index ≠ kAdded ∧ channel.index ≠ kDeleted := by
        rw [index]
        decide
      unfold removeChannel
      rw [if_neg absent]
      simp only [unknown, ne_eq, not_false_eq_true, and_self, if_true, ite_self]
      split
      · exact ⟨.new index absent registered, trivial, .refl _ _⟩
      · exact ⟨.new index (by simp) registered, trivial, .setEntry _ _ _⟩

end EpollPoller

/-! ### The invariant -/

namespace PollerRun

open EpollPoller

variable {fdOf : ChannelPtr → Int} {current : PollerRun}

/-- Every channel has its own descriptor, and its place is the one of its index. -/
structure Placed (fdOf : ChannelPtr → Int) (current : PollerRun) : Prop where
  fd : ∀ ptr, (current.objects ptr).fd = fdOf ptr
  place : ∀ ptr, Place current.poller ptr (current.objects ptr)
  removed : current.removed = none

theorem Placed.indexRight (placed : Placed fdOf current) (ptr : ChannelPtr) :
    current.IndexRight ptr := by
  cases placed.place ptr with
  | new index absent registered =>
      refine ⟨?_, ?_, ?_⟩
      · simp [index, InMap, absent, kNew, kAdded]
      · simp [index, InMap, absent, kNew, kDeleted]
      · simp [index, InMap, absent, InKernel, registered]
  | added events index present registered =>
      refine ⟨?_, ?_, ?_⟩
      · simp [index, InMap, present, InKernel, registered]
      · simp [index, InMap, present, InKernel, registered, kAdded, kDeleted]
      · simp [index, InMap, present, kAdded, kNew]
  | deleted index present registered =>
      refine ⟨?_, ?_, ?_⟩
      · simp [index, InMap, present, InKernel, registered, kAdded, kDeleted]
      · simp [index, InMap, present, InKernel, registered]
      · simp [index, InMap, present, kDeleted, kNew]

theorem Placed.registered (placed : Placed fdOf current) : Registered current :=
  ⟨placed.indexRight, fun _ removed => nomatch placed.removed.symm.trans removed⟩

theorem Placed.start (fdOf : ChannelPtr → Int) : Placed fdOf (start fdOf) :=
  ⟨fun _ => rfl, fun _ => .new rfl nofun rfl, rfl⟩

/-- One channel and its descriptor change, and all other channels stay where they are. -/
theorem Placed.changed (distinct : Function.Injective fdOf) (placed : Placed fdOf current)
    (ptr : ChannelPtr) {poller : EpollPoller} {channel : Channel}
    (only : OnlyAt (current.objects ptr).fd current.poller poller)
    (fd : channel.fd = (current.objects ptr).fd) (place : Place poller ptr channel) :
    Placed fdOf ⟨poller, Function.update current.objects ptr channel, none⟩ := by
  refine ⟨?_, ?_, rfl⟩
  · intro other
    by_cases same : other = ptr
    · rw [same]
      simp only [Function.update_self]
      exact fd.trans (placed.fd ptr)
    · simp only [Function.update_of_ne same]
      exact placed.fd other
  · intro other
    by_cases same : other = ptr
    · rw [same]
      simp only [Function.update_self]
      exact place
    · simp only [Function.update_of_ne same]
      apply (placed.place other).other only
      rw [placed.fd other, placed.fd ptr]
      exact fun equal => same (distinct equal)

/-- The place of a channel does not depend on the events it waits for. -/
theorem Placed.waitsFor (placed : Placed fdOf current) (ptr : ChannelPtr) (events : Events) :
    Place current.poller ptr { current.objects ptr with events := events } := by
  cases placed.place ptr with
  | new index absent registered => exact .new index absent registered
  | added earlier index present registered => exact .added earlier index present registered
  | deleted index present registered => exact .deleted index present registered

/-! ### The result -/

theorem Placed.step (distinct : Function.Injective fdOf) (placed : Placed fdOf current)
    {event : PollerEvent} (keeps : KeepsRegistered current event) :
    Placed fdOf (current.step event) := by
  cases event with
  | updateChannel ptr events succeeds =>
      have place := updateChannel_place (placed.waitsFor ptr events) keeps
      exact placed.changed distinct ptr
        (onlyAt_updateChannel current.poller ptr
          { current.objects ptr with events := events } succeeds)
        (updateChannel_channel _ _ _ _).1 place
  | removeChannel ptr succeeds =>
      unfold PollerRun.step
      simp only
      unfold Channel.remove
      by_cases none : (current.objects ptr).isNoneEvent = true
      · have absent := keeps none
        obtain ⟨place, same, only⟩ :=
          removeChannel_place (placed.place ptr) absent succeeds
        rw [if_pos none, if_neg (fun both => absent both.2), same]
        exact placed.changed distinct ptr only rfl place
      · rw [if_neg none, if_neg (fun both => none both.1)]
        exact placed.changed distinct ptr (.refl _ _) rfl (placed.place ptr)

/-- One step keeps the indices right exactly when it is one of those that do. -/
theorem step_registered_iff (distinct : Function.Injective fdOf) (placed : Placed fdOf current)
    (event : PollerEvent) :
    Registered (current.step event) ↔ KeepsRegistered current event := by
  constructor
  · intro registered
    cases event with
    | updateChannel ptr events succeeds =>
        intro adds
        by_contra fails
        rw [Bool.not_eq_true] at fails
        obtain ⟨index, kernel⟩ := updateChannel_fails (placed.waitsFor ptr events) adds
        have fd := (updateChannel_channel current.poller ptr
          { current.objects ptr with events := events } false).1
        have inKernel := ((registered.index ptr).added.mp (by
          simp only [PollerRun.step, fails, Function.update_self]
          exact index)).2
        apply inKernel
        simp only [PollerRun.step, fails, Function.update_self, fd]
        exact kernel
    | removeChannel ptr succeeds =>
        intro none present
        have kept : (current.objects ptr).remove current.poller ptr succeeds =
            (current.poller, current.objects ptr) := by
          unfold Channel.remove removeChannel
          rw [if_pos none]
          exact if_pos present
        have gone := (registered.removed ptr (by
          simp only [PollerRun.step]
          exact if_pos ⟨none, present⟩)).1.1
        apply gone
        simp only [PollerRun.step, kept, InMap, Function.update_self]
        exact present
  · exact fun keeps => (placed.step distinct keeps).registered

theorem registered_iff_keepsRegistered (distinct : Function.Injective fdOf)
    (events : List PollerEvent) :
    Always PollerRun.step Registered (start fdOf) events ↔
      Meets PollerRun.step KeepsRegistered (start fdOf) events :=
  always_iff_meets (fun _ event placed _ => step_registered_iff distinct placed event)
    (fun _ _ placed _ keeps => placed.step distinct keeps) (fun _ placed => placed.registered)
    events (Placed.start fdOf) (meets_true PollerRun.step events (start fdOf))

/-! ### One channel -/

/-- Channels that are numbered like their descriptors. -/
def numbered (ptr : ChannelPtr) : Int :=
  ptr

/-- A channel waits for something, and then for nothing. -/
theorem registered_add_and_disable :
    Always PollerRun.step Registered (start numbered)
      [.updateChannel 3 1 true, .updateChannel 3 0 true] := by
  apply (registered_iff_keepsRegistered (fun _ _ => Int.ofNat.inj)
    [.updateChannel 3 1 true, .updateChannel 3 0 true]).mpr
  exact ⟨fun _ => rfl, fun _ => rfl, trivial⟩

/-- A channel that waits for nothing is removed, and stays in the map. -/
theorem not_registered_after_remove :
    ¬Always PollerRun.step Registered (start numbered)
      [.updateChannel 3 1 true, .updateChannel 3 0 true, .removeChannel 3 true] := by
  intro always
  have gone := (always.2.2.2.removed 3 (by decide)).1.1
  exact gone (by decide)

end PollerRun

end AChat.Net
