import DeviceVerification.Error
import DeviceVerification.Protocol.Message

/-!
# Histories of rooms

A room keeps its events in their order. The content of some of them is still being decrypted:
`Timelines.resolve` tells what has become of such an entry.
-/

namespace DeviceVerification

/-- An entry in the history of a room. -/
inductive Entry where
  | event (e : RoomEvent)
  /-- An event that is being decrypted, and the place of its decryption. -/
  | pending (eventId : String) (decryption : Nat)
  deriving DecidableEq

/-- The id of the event of an entry. -/
def Entry.eventId : Entry → String
  | .event e => e.eventId
  | .pending eventId _ => eventId

/-- An entry in JSON. -/
def Entry.toJson : Entry → Json
  | .event e => e.toJson
  | .pending eventId _ => .object [("pending", .string eventId)]

/-- How far a decryption has come. -/
structure Decryption where
  event : Option RoomEvent
  /-- Whether a result can still come. -/
  isOpen : Bool
  deriving DecidableEq

/-- What has become of an entry. -/
inductive Resolution where
  | event (e : RoomEvent)
  | waiting
  | lost
  deriving DecidableEq

/-- The histories of all rooms. -/
structure Timelines where
  rooms : Dictionary (List Entry)
  decryptions : List Decryption
  deriving DecidableEq

namespace Timelines

/-- No rooms. -/
def empty : Timelines := ⟨.empty, []⟩

/-- Appends an entry to the history of a room. -/
def append (t : Timelines) (roomId : String) (e : Entry) : Timelines :=
  { t with rooms := t.rooms.insert roomId ((t.rooms.get? roomId).getD [] ++ [e]) }

/-- Appends an event that is being decrypted. -/
def appendPending (t : Timelines) (roomId eventId : String) : Timelines :=
  let t' := t.append roomId (.pending eventId t.decryptions.length)
  { t' with decryptions := t.decryptions ++ [⟨none, true⟩] }

/-- The history of a room from an event on. -/
def readFrom (t : Timelines) (roomId eventId : String) : Except TransportError (List Entry) :=
  match t.rooms.get? roomId with
  | none => .error (.unknownConversation roomId)
  | some entries =>
    match entries.dropWhile fun e => e.eventId ≠ eventId with
    | [] => .error (.unknownEvent roomId eventId)
    | entries => .ok entries

/-- What has become of an entry. -/
def resolve (t : Timelines) : Entry → Resolution
  | .event e => .event e
  | .pending _ i =>
    match t.decryptions[i]? with
    | none => .lost
    | some ⟨some e, _⟩ => .event e
    | some ⟨none, isOpen⟩ => if isOpen then .waiting else .lost

/-- Records the result of a decryption. -/
def decrypt (t : Timelines) (i : Nat) (d : Decryption) : Timelines :=
  { t with decryptions := t.decryptions.set i d }

end Timelines

end DeviceVerification
