import DeviceVerification.Network.Feed
import DeviceVerification.Network.Timeline
import DeviceVerification.Verification.Operation

/-!
# Following a room

A conversation verification takes its steps from a room: first from the history, from the request
on, and then from the events that come in. A `Follower` is subscribed to the room before it reads
the history, and takes every event only once. `operationOf` tells what an event does to the
verification: our own messages restore our progress in the history and are echoes afterwards, and a
ready or start of another device of ours means that this device has taken over.
-/

namespace DeviceVerification

/-- Where a follower has an event from. -/
inductive EventSource where
  | history
  | live
  deriving DecidableEq, Repr

/-- What an event does to a verification that a device follows. -/
def operationOf (own : Identity) (v : Verification) (source : EventSource) (e : RoomEvent) :
    Option Verification.Operation :=
  match e.message with
  | some (.step relatesTo step) =>
    if relatesTo = v.transaction.id then
      if e.sender = own.user then
        match step.fromDevice?, source with
        | some device, .history =>
          if device = own.device then some (.replay step) else some .yieldToOtherDevice
        | some device, .live => if device = own.device then none else some .yieldToOtherDevice
        | none, .history => some (.replay step)
        | none, .live => none
      else if e.sender = v.theirUser then some (.receive none step)
      else none
    else none
  | _ => none

/-- How far a follower has come. -/
inductive FollowerPhase where
  /-- The history is not read yet. -/
  | opening
  /-- These entries of the history are left. -/
  | replaying (entries : List Entry)
  /-- The history is at its end. -/
  | following
  deriving DecidableEq

/-- The reader of a room for one verification. -/
structure Follower where
  /-- The verification that it feeds. -/
  verification : Nat
  /-- The device that reads. -/
  reader : Identity
  roomId : String
  phase : FollowerPhase
  /-- The ids of the events that were taken. -/
  seen : List String
  feed : Feed RoomEvent
  /-- Whether the verification leaves the registry at the end. -/
  isRegistered : Bool
  deriving DecidableEq

namespace Follower

/-- What a follower does next. -/
inductive Move where
  /-- An operation is performed, if there is one, and the follower goes on. -/
  | go (next : Follower) (op : Option Verification.Operation)
  /-- The verification has ended. -/
  | finish

/-- Takes an event, unless it is of another room or was taken before. -/
def take (f : Follower) (v : Verification) (source : EventSource) (e : RoomEvent) : Move :=
  if e.roomId = f.roomId ∧ e.eventId ∉ f.seen then
    .go { f with seen := e.eventId :: f.seen } (operationOf f.reader v source e)
  else .go f none

/-- Leaves the history. -/
def leaveHistory (f : Follower) : Move := .go { f with phase := .following } (some .finishReplay)

/-- What a follower does next, if anything: it may wait for an event or for a decryption. -/
def move? (f : Follower) (t : Timelines) (v : Verification) : Option Move :=
  match f.phase with
  | .opening =>
    match t.readFrom f.roomId v.transaction.id with
    | .ok entries => some (.go { f with phase := .replaying entries } none)
    | .error _ => some f.leaveHistory
  | .replaying [] => some f.leaveHistory
  | .replaying (entry :: rest) =>
    if v.isTerminal then some f.leaveHistory
    else
      let f := { f with phase := .replaying rest }
      match t.resolve entry with
      | .event e => some (f.take v .history e)
      | .lost => some (.go f none)
      | .waiting => none
  | .following =>
    if v.isTerminal then some .finish
    else f.feed.next?.map fun (e, feed) => { f with feed := feed }.take v .live e

end Follower

end DeviceVerification
