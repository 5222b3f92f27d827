import DeviceVerification.Json.Printer
import DeviceVerification.Json.Record

/-!
# Keys that can be verified

A verifiable key is either the identity key of a device or the master key of a user. Its id names
the device or, for a master key, the key itself.
-/

namespace DeviceVerification

open Json (Draft)

/-- What a key identifies. -/
inductive KeyKind where
  | device
  | crossSigningMaster
  deriving DecidableEq, Repr

namespace KeyKind

/-- The name of a kind. -/
def name : KeyKind → String
  | .device => "device"
  | .crossSigningMaster => "cross_signing_master"

/-- The kind with a name. -/
def ofName? (name : String) : Option KeyKind :=
  [device, crossSigningMaster].find? fun k => k.name == name

end KeyKind

/-- A public key that takes part in the exchange of MACs. -/
structure VerifiableKey where
  keyId : String
  value : String
  kind : KeyKind
  deriving DecidableEq, Repr

namespace VerifiableKey

/-- The identity key of a device. -/
def ofDevice (device value : String) : VerifiableKey := ⟨"ed25519:" ++ device, value, .device⟩

/-- The master key of a user. -/
def ofMaster (value : String) : VerifiableKey :=
  ⟨"ed25519:" ++ value, value, .crossSigningMaster⟩

/-- The key in JSON. -/
def toJson (k : VerifiableKey) : Json :=
  .object [("key_id", .string k.keyId), ("value", .string k.value), ("kind", .string k.kind.name)]

/-- The key that a draft holds. -/
def ofDraft? (d : Draft) : Option VerifiableKey := do
  let r ← d.record? ["key_id", "value", "kind"]
  let keyId ← (r.field "key_id").required Draft.text?
  let value ← (r.field "value").required Draft.text?
  let kind ← (r.field "kind").required fun d => d.choice?.bind KeyKind.ofName?
  some ⟨keyId, value, kind⟩

end VerifiableKey

/-- A key on record. -/
structure KnownKey where
  key : VerifiableKey
  /-- The device it belongs to, if it belongs to one. -/
  device : Option String
  trusted : Bool
  deriving DecidableEq, Repr

namespace KnownKey

/-- The record in JSON. -/
def toJson (k : KnownKey) : Json :=
  .object [("key", k.key.toJson), ("device_id", (k.device.map .string).getD .null),
    ("trusted", .bool k.trusted)]

/-- The record that a draft holds. -/
def ofDraft? (d : Draft) : Option KnownKey := do
  let r ← d.record? ["key", "device_id", "trusted"]
  let key ← (r.field "key").required VerifiableKey.ofDraft?
  let device ← (r.field "device_id").optional Draft.text?
  let trusted ← (r.field "trusted").required Draft.flag?
  some ⟨key, device, trusted⟩

end KnownKey

end DeviceVerification
