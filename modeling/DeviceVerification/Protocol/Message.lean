import DeviceVerification.Json.Printer
import DeviceVerification.Protocol.Step

/-!
# Messages that carry steps

A verification is known by its transaction: an id that travels with direct messages, or the event
that holds the request in a conversation. `Transaction.attach` adds it to a content, and
`StartContent.canonicalText` is the text that both sides of a verification hash.
-/

namespace DeviceVerification

open Json (Draft)

/-- What all messages of a verification refer to. -/
inductive Transaction where
  | direct (id : String)
  | conversation (eventId : String)
  deriving DecidableEq, Repr

namespace Transaction

/-- The id of a transaction. -/
def id : Transaction → String
  | .direct id => id
  | .conversation eventId => eventId

/-- The transaction in JSON. -/
def toJson : Transaction → Json
  | .direct id => .object [("direct", .string id)]
  | .conversation eventId => .object [("conversation", .string eventId)]

/-- The transaction that a draft holds. -/
def ofDraft? (d : Draft) : Option Transaction :=
  match d.tagged? with
  | some ("direct", d) => d.text?.map .direct
  | some ("conversation", d) => d.text?.map .conversation
  | _ => none

/-- Adds the transaction to a content that is an object. -/
def attach (t : Transaction) (content : Json) : Json :=
  match t with
  | .direct id => content.set "transaction_id" (.string id)
  | .conversation eventId =>
    content.set "m.relates_to"
      (.object [("rel_type", .string "m.reference"), ("event_id", .string eventId)])

end Transaction

/-- The form of a start step in a transaction that both sides hash. -/
def StartContent.canonicalText (c : StartContent) (t : Transaction) : String :=
  (t.attach c.toJson).canonical.compact

/-- What a direct message says. -/
inductive DirectBody where
  | step (s : Step)
  | request (content : RequestContent)
  deriving DecidableEq

/-- A message from one device to another. -/
structure DirectMessage where
  transactionId : String
  body : DirectBody
  deriving DecidableEq

/-- A message in a conversation. -/
inductive ConversationMessage where
  | request (user : String) (content : RequestContent)
  | step (relatesTo : String) (s : Step)
  deriving DecidableEq

/-- An event of a conversation; events of other kinds have no message. -/
structure RoomEvent where
  roomId : String
  eventId : String
  sender : String
  /-- Milliseconds since the epoch. -/
  timestamp : UInt64
  message : Option ConversationMessage
  deriving DecidableEq

namespace DirectBody

/-- The short name of what a message says. -/
def name : DirectBody → String
  | .step s => s.name
  | .request _ => "request"

/-- The body in JSON. -/
def toJson : DirectBody → Json
  | .step s => s.toJson
  | .request content => content.toJson

/-- The step that a draft of a body holds. In an array the kind may also be given by its place among
all kinds. -/
def stepOfDraft? (levels : Nat) : Draft → Option Step
  | .array [.number (some (.integer (.ofNat n))), c] =>
    StepKind.all[n]?.bind fun k => Step.ofContent? k c
  | d => Step.ofDraft? levels d

/-- The body that a draft holds: a step if it is one, else a request. The body is read as a whole
before either is tried. -/
def ofDraft? (levels : Nat) (d : Draft) : Option DirectBody :=
  if d.isSound levels then
    ((stepOfDraft? levels d).map .step).or ((RequestContent.ofDraft? d).map .request)
  else none

end DirectBody

namespace DirectMessage

/-- The message in JSON. -/
def toJson (m : DirectMessage) : Json :=
  .object [("transaction_id", .string m.transactionId), ("body", m.body.toJson)]

/-- The message that a draft holds with `levels` levels of nesting left. -/
def ofDraft? (levels : Nat) (d : Draft) : Option DirectMessage := do
  let r ← d.record? ["transaction_id", "body"]
  let transactionId ← (r.field "transaction_id").required Draft.text?
  let body ← (r.field "body").required (DirectBody.ofDraft? (levels - 1))
  some ⟨transactionId, body⟩

end DirectMessage

namespace ConversationMessage

/-- The message in JSON. -/
def toJson : ConversationMessage → Json
  | .request user content =>
    .object [("request", .object [("to", .string user), ("content", content.toJson)])]
  | .step relatesTo s =>
    .object [("step", .object [("relates_to", .string relatesTo), ("step", s.toJson)])]

/-- The request that a draft holds. -/
def requestOfDraft? (d : Draft) : Option ConversationMessage := do
  let r ← d.record? ["to", "content"]
  let user ← (r.field "to").required Draft.text?
  let content ← (r.field "content").required RequestContent.ofDraft?
  some (.request user content)

/-- The step that a draft holds. -/
def stepOfDraft? (levels : Nat) (d : Draft) : Option ConversationMessage := do
  let r ← d.record? ["relates_to", "step"]
  let relatesTo ← (r.field "relates_to").required Draft.text?
  let s ← (r.field "step").required (Step.ofDraft? (levels - 1))
  some (.step relatesTo s)

/-- The message that a draft holds with `levels` levels of nesting left. -/
def ofDraft? (levels : Nat) (d : Draft) : Option ConversationMessage :=
  match d.tagged? with
  | some ("request", d) => requestOfDraft? d
  | some ("step", d) => stepOfDraft? (levels - 1) d
  | _ => none

end ConversationMessage

namespace RoomEvent

/-- The event in JSON. -/
def toJson (e : RoomEvent) : Json :=
  .object [("room_id", .string e.roomId), ("event_id", .string e.eventId),
    ("sender", .string e.sender), ("origin_server_ts", .nat e.timestamp.toNat),
    ("message", (e.message.map (·.toJson)).getD .null)]

/-- The event that a draft holds with `levels` levels of nesting left. -/
def ofDraft? (levels : Nat) (d : Draft) : Option RoomEvent := do
  let r ← d.record? ["room_id", "event_id", "sender", "origin_server_ts", "message"]
  let roomId ← (r.field "room_id").required Draft.text?
  let eventId ← (r.field "event_id").required Draft.text?
  let sender ← (r.field "sender").required Draft.text?
  let timestamp ← (r.field "origin_server_ts").required Draft.word?
  let message ← (r.field "message").optional (ConversationMessage.ofDraft? (levels - 1))
  some ⟨roomId, eventId, sender, timestamp, message⟩

end RoomEvent

end DeviceVerification
