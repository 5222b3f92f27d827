import DeviceVerification.Json.Value

/-!
# Verifying a new device of one's own

A new device becomes trusted by a verification with another device of its user that is cross-signed
already, or with a recovery key. `selfVerificationMethods` says which ways are open, once the client
has loaded what the answer depends on.
-/

namespace DeviceVerification

/-- What the client has loaded so far. -/
structure Readiness where
  initialSyncDone : Bool
  deviceKeysFetched : Bool
  crossSigningKeysFetched : Bool
  bootstrapRunning : Bool
  deriving DecidableEq, Repr

/-- A condition that does not hold yet. -/
inductive Precondition where
  | initialSync
  | deviceKeys
  | crossSigningKeys
  | noBootstrapRunning
  deriving DecidableEq, Repr

/-- A stored recovery key. -/
structure RecoveryKey where
  keyId : String
  hasPassphrase : Bool
  deriving DecidableEq, Repr

/-- How this device and its user stand with cross-signing. -/
structure CrossSigningStatus where
  enabled : Bool
  thisDeviceCrossSigned : Bool
  crossSignedDevices : List String
  recoveryKey : Option RecoveryKey
  deriving DecidableEq, Repr

/-- A way to verify this device. -/
inductive SelfVerificationMethod where
  | crossSignedDevice (devices : List String)
  | recoveryKey (keyId : String)
  | recoveryKeyWithPassphrase (keyId : String)
  deriving DecidableEq, Repr

/-- The ways that are open, or why there are none. -/
inductive SelfVerificationMethods where
  | preconditionsNotMet (missing : List Precondition)
  | noCrossSigningEnabled
  | alreadyCrossSigned
  | crossSigningEnabled (methods : List SelfVerificationMethod)
  deriving DecidableEq, Repr

/-- The conditions that do not hold yet. -/
def Readiness.missing (r : Readiness) : List Precondition :=
  (if r.initialSyncDone then [] else [.initialSync]) ++
    (if r.deviceKeysFetched then [] else [.deviceKeys]) ++
    (if r.crossSigningKeysFetched then [] else [.crossSigningKeys]) ++
    (if r.bootstrapRunning then [.noBootstrapRunning] else [])

/-- The ways in which a recovery key can be used. -/
def RecoveryKey.methods (k : RecoveryKey) : List SelfVerificationMethod :=
  .recoveryKey k.keyId :: if k.hasPassphrase then [.recoveryKeyWithPassphrase k.keyId] else []

/-- The ways to verify a device that is not cross-signed. -/
def CrossSigningStatus.methods (s : CrossSigningStatus) : List SelfVerificationMethod :=
  (if s.crossSignedDevices.isEmpty then [] else [.crossSignedDevice s.crossSignedDevices]) ++
    (s.recoveryKey.map (·.methods)).getD []

/-- The ways that are open to this device. -/
def selfVerificationMethods (r : Readiness) (s : CrossSigningStatus) : SelfVerificationMethods :=
  if r.missing ≠ [] then .preconditionsNotMet r.missing
  else if !s.enabled then .noCrossSigningEnabled
  else if s.thisDeviceCrossSigned then .alreadyCrossSigned
  else .crossSigningEnabled s.methods

/-- The name of a condition. -/
def Precondition.name : Precondition → String
  | .initialSync => "initial_sync"
  | .deviceKeys => "device_keys"
  | .crossSigningKeys => "cross_signing_keys"
  | .noBootstrapRunning => "no_bootstrap_running"

/-- A way in JSON. -/
def SelfVerificationMethod.toJson : SelfVerificationMethod → Json
  | .crossSignedDevice devices =>
    .object [("cross_signed_device_verification", .strings devices)]
  | .recoveryKey keyId => .object [("recovery_key", .string keyId)]
  | .recoveryKeyWithPassphrase keyId => .object [("recovery_key_with_passphrase", .string keyId)]

/-- The ways that are open in JSON. -/
def SelfVerificationMethods.toJson : SelfVerificationMethods → Json
  | .preconditionsNotMet missing =>
    .object [("preconditions_not_met", .strings (missing.map (·.name)))]
  | .noCrossSigningEnabled => .string "no_cross_signing_enabled"
  | .alreadyCrossSigned => .string "already_cross_signed"
  | .crossSigningEnabled methods =>
    .object [("cross_signing_enabled", .array (methods.map (·.toJson)))]

/-- The devices to verify with, if that is a way. -/
def SelfVerificationMethods.devices? : SelfVerificationMethods → Option (List String)
  | .crossSigningEnabled methods => methods.findSome? fun
    | .crossSignedDevice devices => some devices
    | _ => none
  | _ => none

end DeviceVerification
