import DeviceVerification.Trust.Key

/-!
# The record of trusted keys

A trust store has the known keys of every user by their ids. Recording a key forgets whether it was
trusted; `setTrusted` marks keys only if every one of them is known with the same value. The file
form of a store is its JSON with one member a line.
-/

namespace DeviceVerification

open Json (Draft)

/-- Why a trust store refuses to answer. -/
inductive TrustError where
  | unknownKey (user keyId : String)
  | unavailable (reason : String)
  deriving DecidableEq, Repr

/-- The code of a trust store error. -/
def TrustError.code : TrustError → String
  | .unknownKey _ _ => "UnknownKey"
  | .unavailable _ => "Unavailable"

/-- The wording of a trust store error. -/
def TrustError.message : TrustError → String
  | .unknownKey user keyId => "unknown key " ++ keyId ++ " of " ++ user
  | .unavailable reason => "store unavailable: " ++ reason

/-- The known keys of every user. -/
structure TrustStore where
  users : Dictionary (Dictionary KnownKey)
  deriving DecidableEq

namespace TrustStore

/-- The store without keys. -/
def empty : TrustStore := ⟨.empty⟩

/-- The known keys of a user. -/
def keysOf (s : TrustStore) (user : String) : Dictionary KnownKey := (s.users.get? user).getD .empty

/-- Records a key that is not trusted yet. -/
def record (s : TrustStore) (user : String) (device : Option String) (key : VerifiableKey) :
    TrustStore :=
  ⟨s.users.insert user ((s.keysOf user).insert key.keyId ⟨key, device, false⟩)⟩

/-- Records the identity key of a device. -/
def addDeviceKey (s : TrustStore) (user device value : String) : TrustStore :=
  s.record user (some device) (.ofDevice device value)

/-- Records the master key of a user. -/
def setMasterKey (s : TrustStore) (user value : String) : TrustStore :=
  s.record user none (.ofMaster value)

/-- Whether a key on record is one of a device: its own keys and all master keys are. -/
def belongsTo (k : KnownKey) (device : String) : Bool :=
  match k.key.kind with
  | .device => k.device == some device
  | .crossSigningMaster => true

/-- The keys of a device and the master keys of its user, in the order of their ids. -/
def getKeys (s : TrustStore) (user device : String) : List VerifiableKey :=
  ((s.keysOf user).values.filter fun k => belongsTo k device).map (·.key)

/-- Whether a key is known with the value it has. -/
def isKnown (keys : Dictionary KnownKey) (key : VerifiableKey) : Bool :=
  match keys.get? key.keyId with
  | some known => known.key.value == key.value
  | none => false

/-- Marks one known key as trusted. -/
def mark (keys : Dictionary KnownKey) (key : VerifiableKey) : Dictionary KnownKey :=
  match keys.get? key.keyId with
  | some known => keys.insert key.keyId { known with trusted := true }
  | none => keys

/-- Marks keys of a user as trusted, all of them or none. -/
def setTrusted (s : TrustStore) (user : String) (keys : List VerifiableKey) :
    Except TrustError TrustStore :=
  match s.users.get? user with
  | none => .error (.unknownKey user ((keys.head?.map (·.keyId)).getD ""))
  | some known =>
    match keys.find? fun k => !isKnown known k with
    | some k => .error (.unknownKey user k.keyId)
    | none => .ok ⟨s.users.insert user (keys.foldl mark known)⟩

/-- Whether a key of a user is trusted. -/
def isTrusted (s : TrustStore) (user keyId : String) : Bool :=
  match (s.keysOf user).get? keyId with
  | some known => known.trusted
  | none => false

/-- The ids of the trusted keys of a user. -/
def trustedKeys (s : TrustStore) (user : String) : List String :=
  ((s.keysOf user).values.filter (·.trusted)).map (·.key.keyId)

/-- The store in JSON. -/
def toJson (s : TrustStore) : Json :=
  .object [("users",
    .object (s.users.map fun keys => Json.object (keys.map KnownKey.toJson).entries).entries)]

/-- The store that a draft holds. -/
def ofDraft? (d : Draft) : Option TrustStore := do
  let r ← d.record? ["users"]
  let users ← (r.field "users").required (Draft.dictionary? (Draft.dictionary? KnownKey.ofDraft?))
  some ⟨users⟩

/-- The text of the file of a store. -/
def save (s : TrustStore) : String := s.toJson.pretty

/-- The store in a file with the given text. -/
def load? (text : String) : Option TrustStore := (Draft.read? text).bind ofDraft?

end TrustStore

end DeviceVerification
