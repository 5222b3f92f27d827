import DeviceVerification.Error
import DeviceVerification.Identity
import DeviceVerification.Protocol.Message

/-!
# Messages under way

What a device hands to the network and what another one receives from it.
-/

namespace DeviceVerification

/-- A direct message as a device receives it. -/
structure ReceivedDirect where
  sender : String
  senderDevice : String
  message : DirectMessage
  deriving DecidableEq

/-- A message that a device hands to the network. -/
inductive Outgoing where
  | direct (user : String) (devices : List String) (message : DirectMessage)
  | room (roomId : String) (message : ConversationMessage)
  deriving DecidableEq

/-- The step that a message carries, if it carries one. -/
def Outgoing.step? : Outgoing → Option Step
  | .direct _ _ ⟨_, .step s⟩ => some s
  | .room _ (.step _ s) => some s
  | _ => none

/-- The message with its addressees in JSON. -/
def Outgoing.members : Outgoing → List (String × Json)
  | .direct user devices m =>
    [("to", .string user), ("devices", .strings devices), ("message", m.toJson)]
  | .room roomId m => [("room", .string roomId), ("message", m.toJson)]

/-- A message that a device hands to the network, and why it is not delivered, if it is not. -/
structure Posting where
  /-- The number of the device. -/
  device : Nat
  sender : Identity
  message : Outgoing
  failure : Option TransportError
  deriving DecidableEq

/-- The message in JSON, with the reason of its failure. -/
def Posting.toJson (p : Posting) : Json :=
  .object (p.message.members ++ p.failure.toList.map fun e => ("error", .string e.message))

end DeviceVerification
