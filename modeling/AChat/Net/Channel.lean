import Mathlib.Logic.Function.Basic

/-!
Owns a channel, which stands for a descriptor and the events it waits for, and the
poller, which keeps the channels of a loop and their registration in the kernel.

The masks are the values that the source gives them: both `kReadEvent` and
`kWriteEvent` are 0. Whether an `epoll_ctl` succeeds is an input, within what the
kernel allows.
-/

namespace AChat.Net

/-! ### Channels -/

abbrev Events := BitVec 32

def kNoneEvent : Events := 0
def kReadEvent : Events := 0
def kWriteEvent : Events := 0

/-- The event of the kernel that tells that a descriptor can be written to. -/
def EPOLLOUT : Events := 4

def kNew : Int := -1
def kAdded : Int := 1
def kDeleted : Int := 2

structure Channel where
  fd : Int
  events : Events
  index : Int
deriving DecidableEq, Repr

namespace Channel

/-- The constructor. -/
def new (fd : Int) : Channel :=
  ⟨fd, 0, kNew⟩

def isNoneEvent (channel : Channel) : Bool :=
  channel.events == kNoneEvent

def isWriting (channel : Channel) : Bool :=
  channel.events == kWriteEvent

end Channel

/-! ### The poller -/

abbrev ChannelPtr := Nat

inductive EpollOp where
  | add
  | mod
  | del
deriving DecidableEq, Repr

/-- `channels` may hold a null pointer. `kernel` has the events under which a descriptor
is registered. -/
structure EpollPoller where
  channels : Int → Option (Option ChannelPtr)
  kernel : Int → Option Events

namespace EpollPoller

def empty : EpollPoller :=
  ⟨fun _ => none, fun _ => none⟩

/-- `update`: an `epoll_ctl`. A descriptor is added only if it is not registered, and
changed or deleted only if it is. -/
def update (poller : EpollPoller) (operation : EpollOp) (channel : Channel) (succeeds : Bool) :
    Bool × EpollPoller :=
  match operation, poller.kernel channel.fd, succeeds with
  | .add, none, true | .mod, some _, true =>
      (true,
        { poller with
          kernel := Function.update poller.kernel channel.fd (some channel.events) })
  | .del, some _, true =>
      (true, { poller with kernel := Function.update poller.kernel channel.fd none })
  | _, _, _ => (false, poller)

/-- A channel that is new or was deleted is added. -/
def addChannel (poller : EpollPoller) (channel : Channel) (succeeds : Bool) :
    Bool × EpollPoller × Channel :=
  let added := { channel with index := kAdded }
  let updated := poller.update .add added succeeds
  (updated.1, updated.2, added)

def updateChannel (poller : EpollPoller) (ptr : ChannelPtr) (channel : Channel)
    (succeeds : Bool) : Bool × EpollPoller × Channel :=
  if channel.index = kNew then
    if poller.channels channel.fd ≠ none then (false, poller, channel)
    else
      { poller with
        channels := Function.update poller.channels channel.fd (some (some ptr)) }.addChannel
          channel succeeds
  else if channel.index = kDeleted then
    if poller.channels channel.fd ≠ some (some ptr) then (false, poller, channel)
    else poller.addChannel channel succeeds
  else if poller.channels channel.fd ≠ some (some ptr) ∨ channel.index ≠ kAdded then
    (false, poller, channel)
  else if channel.isNoneEvent then
    let updated := poller.update .del channel succeeds
    (updated.1, updated.2, if updated.1 then { channel with index := kDeleted } else channel)
  else
    let updated := poller.update .mod channel succeeds
    (updated.1, updated.2, channel)

/-- `removeChannel`. It returns at once for a channel that is in the map, and else looks it
up in a way that puts a null pointer in its place. -/
def removeChannel (poller : EpollPoller) (ptr : ChannelPtr) (channel : Channel)
    (succeeds : Bool) : EpollPoller × Channel :=
  if poller.channels channel.fd = some (some ptr) then (poller, channel)
  else
    let lookedUp :=
      match poller.channels channel.fd with
      | some _ => poller
      | none =>
          { poller with channels := Function.update poller.channels channel.fd (some none) }
    if channel.isNoneEvent = false then (lookedUp, channel)
    else if channel.index ≠ kAdded ∧ channel.index ≠ kDeleted then (lookedUp, channel)
    else
      let erased :=
        { lookedUp with channels := Function.update lookedUp.channels channel.fd none }
      ((if channel.index = kAdded then (erased.update .del channel succeeds).2 else erased),
        { channel with index := kNew })

/-! ### What an update keeps -/

/-- The descriptor is registered for the events of the channel, or as it was before. -/
theorem update_kernel (poller : EpollPoller) (operation : EpollOp) (channel : Channel)
    (succeeds : Bool) {events : Events}
    (registered : (poller.update operation channel succeeds).2.kernel channel.fd = some events) :
    events = channel.events ∨ poller.kernel channel.fd = some events := by
  unfold EpollPoller.update at registered
  split at registered
  · simp only [Function.update_self, Option.some.injEq] at registered
    exact Or.inl registered.symm
  · simp only [Function.update_self, Option.some.injEq] at registered
    exact Or.inl registered.symm
  · simp at registered
  · exact Or.inr registered

theorem addChannel_kernel (poller : EpollPoller) (channel : Channel) (succeeds : Bool)
    {events : Events}
    (registered : (poller.addChannel channel succeeds).2.1.kernel channel.fd = some events) :
    events = channel.events ∨ poller.kernel channel.fd = some events :=
  update_kernel poller .add { channel with index := kAdded } succeeds registered

theorem updateChannel_kernel (poller : EpollPoller) (ptr : ChannelPtr) (channel : Channel)
    (succeeds : Bool) {events : Events}
    (registered : (poller.updateChannel ptr channel succeeds).2.1.kernel channel.fd =
      some events) : events = channel.events ∨ poller.kernel channel.fd = some events := by
  unfold updateChannel at registered
  split at registered
  · split at registered
    · exact Or.inr registered
    · exact addChannel_kernel
        { poller with
          channels := Function.update poller.channels channel.fd (some (some ptr)) }
        channel succeeds registered
  · split at registered
    · split at registered
      · exact Or.inr registered
      · exact addChannel_kernel _ channel succeeds registered
    · split at registered
      · exact Or.inr registered
      · split at registered
        · exact update_kernel _ _ _ _ registered
        · exact update_kernel _ _ _ _ registered

/-- An update changes nothing of the channel but its index. -/
theorem updateChannel_channel (poller : EpollPoller) (ptr : ChannelPtr) (channel : Channel)
    (succeeds : Bool) :
    (poller.updateChannel ptr channel succeeds).2.2.fd = channel.fd ∧
      (poller.updateChannel ptr channel succeeds).2.2.events = channel.events := by
  unfold updateChannel addChannel
  split
  · split <;> exact ⟨rfl, rfl⟩
  · split
    · split <;> exact ⟨rfl, rfl⟩
    · split
      · exact ⟨rfl, rfl⟩
      · split
        · simp only
          split <;> exact ⟨rfl, rfl⟩
        · exact ⟨rfl, rfl⟩

end EpollPoller

/-- `Channel::remove`. -/
def Channel.remove (channel : Channel) (poller : EpollPoller) (ptr : ChannelPtr)
    (succeeds : Bool) : EpollPoller × Channel :=
  if channel.isNoneEvent then poller.removeChannel ptr channel succeeds else (poller, channel)

end AChat.Net
