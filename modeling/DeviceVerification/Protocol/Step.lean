import DeviceVerification.Protocol.Identifier

/-!
# Requests and steps

A request opens a verification; the steps carry it on. Every content has a JSON form, `toJson`, with
its fields in their order, and a reader, `ofDraft?`. A step is an object with its type and its
content, in any order, or an array of the two.
-/

namespace DeviceVerification

open Json (Draft)

/-- Asks for a verification. -/
structure RequestContent where
  fromDevice : String
  methods : List Method
  /-- Milliseconds since the epoch. -/
  timestamp : UInt64
  deriving DecidableEq, Repr

/-- Agrees to a verification. -/
structure ReadyContent where
  fromDevice : String
  methods : List Method
  deriving DecidableEq, Repr

/-- Starts a method and offers algorithms for it. -/
structure StartContent where
  fromDevice : String
  method : Method
  hashes : List HashAlgorithm
  keyAgreements : List KeyAgreement
  macs : List MacMethod
  sasMethods : List SasMethod
  deriving DecidableEq, Repr

/-- Chooses algorithms and commits to a key. -/
structure AcceptContent where
  commitment : String
  hash : HashAlgorithm
  keyAgreement : KeyAgreement
  mac : MacMethod
  sasMethods : List SasMethod
  deriving DecidableEq, Repr

/-- Reveals an ephemeral public key. -/
structure KeyContent where
  key : String
  deriving DecidableEq, Repr

/-- Authenticates identity keys: a MAC over the list of key ids, and one for each key. -/
structure MacContent where
  keys : String
  mac : Dictionary String
  deriving DecidableEq

/-- Ends a verification without success. -/
structure CancelContent where
  code : CancelCode
  reason : String
  deriving DecidableEq, Repr

/-- A step of a running verification. -/
inductive Step where
  | ready (content : ReadyContent)
  | start (content : StartContent)
  | accept (content : AcceptContent)
  | key (content : KeyContent)
  | mac (content : MacContent)
  | cancel (content : CancelContent)
  | done
  deriving DecidableEq

/-- The kinds of steps. -/
inductive StepKind where
  | ready
  | start
  | accept
  | key
  | mac
  | cancel
  | done
  deriving DecidableEq, Repr

namespace StepKind

/-- The short name of a kind, as cancel reasons use it. -/
def name : StepKind → String
  | .ready => "ready"
  | .start => "start"
  | .accept => "accept"
  | .key => "key"
  | .mac => "mac"
  | .cancel => "cancel"
  | .done => "done"

/-- The type that a step of this kind has on the wire. -/
def wireType (k : StepKind) : String := "m.key.verification." ++ k.name

/-- All kinds. -/
def all : List StepKind := [.ready, .start, .accept, .key, .mac, .cancel, .done]

/-- The kind with a short name. -/
def ofName? (name : String) : Option StepKind := all.find? fun k => k.name == name

/-- The kind with a type. -/
def ofWireType? (type : String) : Option StepKind := all.find? fun k => k.wireType == type

end StepKind

namespace Step

/-- The kind of a step. -/
def kind : Step → StepKind
  | .ready _ => .ready
  | .start _ => .start
  | .accept _ => .accept
  | .key _ => .key
  | .mac _ => .mac
  | .cancel _ => .cancel
  | .done => .done

/-- The short name of a step. -/
def name (s : Step) : String := s.kind.name

/-- The device that a step itself names as its sender. -/
def fromDevice? : Step → Option String
  | .ready content => some content.fromDevice
  | .start content => some content.fromDevice
  | _ => none

end Step

/-! ## JSON forms -/

namespace RequestContent

/-- The request in JSON. -/
def toJson (c : RequestContent) : Json :=
  .object [("from_device", .string c.fromDevice), ("methods", Identifier.listToJson c.methods),
    ("timestamp", .nat c.timestamp.toNat)]

/-- The request that a draft holds. -/
def ofDraft? (d : Draft) : Option RequestContent := do
  let r ← d.record? ["from_device", "methods", "timestamp"]
  let fromDevice ← (r.field "from_device").required Draft.text?
  let methods ← (r.field "methods").required Identifier.listOfDraft?
  let timestamp ← (r.field "timestamp").required Draft.word?
  some ⟨fromDevice, methods, timestamp⟩

end RequestContent

namespace ReadyContent

/-- The agreement in JSON. -/
def toJson (c : ReadyContent) : Json :=
  .object [("from_device", .string c.fromDevice), ("methods", Identifier.listToJson c.methods)]

/-- The agreement that a draft holds. -/
def ofDraft? (d : Draft) : Option ReadyContent := do
  let r ← d.record? ["from_device", "methods"]
  let fromDevice ← (r.field "from_device").required Draft.text?
  let methods ← (r.field "methods").required Identifier.listOfDraft?
  some ⟨fromDevice, methods⟩

end ReadyContent

namespace StartContent

/-- The start in JSON. -/
def toJson (c : StartContent) : Json :=
  .object [("from_device", .string c.fromDevice), ("method", c.method.toJson),
    ("hashes", Identifier.listToJson c.hashes),
    ("key_agreement_protocols", Identifier.listToJson c.keyAgreements),
    ("message_authentication_codes", Identifier.listToJson c.macs),
    ("short_authentication_string", Identifier.listToJson c.sasMethods)]

/-- The start that a draft holds; a list that is left out is empty. -/
def ofDraft? (d : Draft) : Option StartContent := do
  let r ← d.record? ["from_device", "method", "hashes", "key_agreement_protocols",
    "message_authentication_codes", "short_authentication_string"]
  let fromDevice ← (r.field "from_device").required Draft.text?
  let method ← (r.field "method").required Identifier.ofDraft?
  let hashes ← (r.field "hashes").orDefault Identifier.listOfDraft? []
  let keyAgreements ← (r.field "key_agreement_protocols").orDefault Identifier.listOfDraft? []
  let macs ← (r.field "message_authentication_codes").orDefault Identifier.listOfDraft? []
  let sasMethods ← (r.field "short_authentication_string").orDefault Identifier.listOfDraft? []
  some ⟨fromDevice, method, hashes, keyAgreements, macs, sasMethods⟩

end StartContent

namespace AcceptContent

/-- The acceptance in JSON. -/
def toJson (c : AcceptContent) : Json :=
  .object [("commitment", .string c.commitment), ("hash", c.hash.toJson),
    ("key_agreement_protocol", c.keyAgreement.toJson),
    ("message_authentication_code", c.mac.toJson),
    ("short_authentication_string", Identifier.listToJson c.sasMethods)]

/-- The acceptance that a draft holds. -/
def ofDraft? (d : Draft) : Option AcceptContent := do
  let r ← d.record? ["commitment", "hash", "key_agreement_protocol",
    "message_authentication_code", "short_authentication_string"]
  let commitment ← (r.field "commitment").required Draft.text?
  let hash ← (r.field "hash").required Identifier.ofDraft?
  let keyAgreement ← (r.field "key_agreement_protocol").required Identifier.ofDraft?
  let mac ← (r.field "message_authentication_code").required Identifier.ofDraft?
  let sasMethods ← (r.field "short_authentication_string").required Identifier.listOfDraft?
  some ⟨commitment, hash, keyAgreement, mac, sasMethods⟩

end AcceptContent

namespace KeyContent

/-- The key in JSON. -/
def toJson (c : KeyContent) : Json := .object [("key", .string c.key)]

/-- The key that a draft holds. -/
def ofDraft? (d : Draft) : Option KeyContent := do
  let r ← d.record? ["key"]
  let key ← (r.field "key").required Draft.text?
  some ⟨key⟩

end KeyContent

namespace MacContent

/-- The MACs in JSON. -/
def toJson (c : MacContent) : Json :=
  .object [("keys", .string c.keys), ("mac", .object (c.mac.map .string).entries)]

/-- The MACs that a draft holds. -/
def ofDraft? (d : Draft) : Option MacContent := do
  let r ← d.record? ["keys", "mac"]
  let keys ← (r.field "keys").required Draft.text?
  let mac ← (r.field "mac").required (Draft.dictionary? Draft.text?)
  some ⟨keys, mac⟩

end MacContent

namespace CancelContent

/-- The cancellation in JSON. -/
def toJson (c : CancelContent) : Json :=
  .object [("code", c.code.toJson), ("reason", .string c.reason)]

/-- The cancellation that a draft holds. -/
def ofDraft? (d : Draft) : Option CancelContent := do
  let r ← d.record? ["code", "reason"]
  let code ← (r.field "code").required Identifier.ofDraft?
  let reason ← (r.field "reason").required Draft.text?
  some ⟨code, reason⟩

end CancelContent

namespace Step

/-- The content of a step in JSON; the last step has none. -/
def contentJson? : Step → Option Json
  | .ready content => some content.toJson
  | .start content => some content.toJson
  | .accept content => some content.toJson
  | .key content => some content.toJson
  | .mac content => some content.toJson
  | .cancel content => some content.toJson
  | .done => none

/-- The step in JSON. -/
def toJson (s : Step) : Json :=
  .object (("type", .string s.kind.wireType) :: s.contentJson?.toList.map fun c => ("content", c))

/-- The step of a kind whose content a draft holds. -/
def ofContent? : StepKind → Draft → Option Step
  | .ready, d => (ReadyContent.ofDraft? d).map .ready
  | .start, d => (StartContent.ofDraft? d).map .start
  | .accept, d => (AcceptContent.ofDraft? d).map .accept
  | .key, d => (KeyContent.ofDraft? d).map .key
  | .mac, d => (MacContent.ofDraft? d).map .mac
  | .cancel, d => (CancelContent.ofDraft? d).map .cancel
  | .done, .null => some .done
  | .done, _ => none

/-- The step of a kind that is written without content. -/
def ofNoContent? : StepKind → Option Step
  | .done => some .done
  | _ => none

/-- The kind that a draft of a type holds. -/
def kindOfDraft? (d : Draft) : Option StepKind := d.choice?.bind StepKind.ofWireType?

/-- The step that the members of an object hold. A content that comes before the type is read
before its kind is known, so it has to be sound as a whole. -/
def ofMembers? (levels : Nat) (members : List (Option String × Draft)) : Option Step :=
  let relevant := members.filter fun m => m.1 == some "type" || m.1 == some "content"
  if members.all fun m => m.1.isSome then
    match relevant with
    | [(some "type", t)] => (kindOfDraft? t).bind ofNoContent?
    | [(some "type", t), (some "content", c)] => (kindOfDraft? t).bind fun k => ofContent? k c
    | [(some "content", c), (some "type", t)] =>
      if c.isSound (levels - 1) then (kindOfDraft? t).bind fun k => ofContent? k c else none
    | _ => none
  else none

/-- The step that a draft holds with `levels` levels of nesting left. -/
def ofDraft? (levels : Nat) : Draft → Option Step
  | .object members => ofMembers? levels members
  | .array [.string (some t), c] => (StepKind.ofWireType? t).bind fun k => ofContent? k c
  | _ => none

end Step

end DeviceVerification
