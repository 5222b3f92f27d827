import DeviceVerification.Config
import DeviceVerification.Crypto.SharedSecret
import DeviceVerification.Protocol.Message

/-!
# Agreeing on algorithms

A start offers lists of algorithms and an acceptance chooses from them. `Settings.negotiate` is the
choice of the accepting side and `Settings.accepted` the check of the starting side.
-/

namespace DeviceVerification.Sas

/-- The algorithms that a device offers, the preferred ones first. -/
structure Settings where
  hashes : List HashAlgorithm
  keyAgreements : List KeyAgreement
  macs : List MacMethod
  sasMethods : List SasMethod
  deriving DecidableEq, Repr

/-- The algorithms that both sides agreed on. -/
structure Agreement where
  hash : HashAlgorithm
  keyAgreement : KeyAgreement
  mac : MacMethod
  sasMethods : List SasMethod
  deriving DecidableEq, Repr

/-- The first of our values that the other side has too. -/
def firstCommon {α : Type} [BEq α] (ours theirs : List α) : Option α :=
  ours.find? fun v => theirs.contains v

namespace Settings

/-- What a configuration offers. -/
def ofConfig (c : VerificationConfig) : Settings :=
  ⟨[.sha256], [.curve25519], c.macs, c.sasMethods.filter (·.isKnown)⟩

/-- What the default configuration offers. -/
def default : Settings := ofConfig .default

/-- The start step of a device with these settings. -/
def startContent (s : Settings) (device : String) : StartContent :=
  ⟨device, .sas, s.hashes, s.keyAgreements, s.macs, s.sasMethods⟩

/-- The agreement that answers a start: of each list our first value that is offered, and all forms
of the short string that both sides have. None if a list has nothing in common. -/
def negotiate (s : Settings) (start : StartContent) : Option Agreement :=
  if start.method = .sas then do
    let hash ← firstCommon s.hashes start.hashes
    let keyAgreement ← firstCommon s.keyAgreements start.keyAgreements
    let mac ← firstCommon s.macs start.macs
    let sasMethods := s.sasMethods.filter fun m => start.sasMethods.contains m
    if sasMethods.isEmpty then none else some ⟨hash, keyAgreement, mac, sasMethods⟩
  else none

/-- Whether an acceptance chooses only what our start offered and what we have. -/
def allows (s : Settings) (start : StartContent) (accept : AcceptContent) : Bool :=
  s.hashes.contains accept.hash && start.hashes.contains accept.hash &&
    (s.keyAgreements.contains accept.keyAgreement &&
      start.keyAgreements.contains accept.keyAgreement) &&
    (s.macs.contains accept.mac && start.macs.contains accept.mac) &&
    !accept.sasMethods.isEmpty &&
    accept.sasMethods.all fun m => start.sasMethods.contains m

/-- The agreement that an acceptance of our start makes. -/
def accepted (s : Settings) (start : StartContent) (accept : AcceptContent) : Option Agreement :=
  if s.allows start accept then
    some ⟨accept.hash, accept.keyAgreement, accept.mac, accept.sasMethods⟩
  else none

/-- The settings in JSON. -/
def toJson (s : Settings) : Json :=
  .object [("hashes", Identifier.listToJson s.hashes),
    ("key_agreement_protocols", Identifier.listToJson s.keyAgreements),
    ("message_authentication_codes", Identifier.listToJson s.macs),
    ("short_authentication_strings", Identifier.listToJson s.sasMethods)]

/-- A list that takes the place of one of the settings, if it is given. -/
def replacement? {v : Vocabulary} (j : Json) (name : String) (base : List (Identifier v)) :
    Option (List (Identifier v)) :=
  match j.get? name with
  | none => some base
  | some .null => some base
  | some l => Identifier.listOfDraft? (.ofJson l)

/-- The settings with the lists that a value gives in place of their own. -/
def replace? (s : Settings) (j : Json) : Option Settings := do
  let hashes ← replacement? j "hashes" s.hashes
  let keyAgreements ← replacement? j "key_agreement_protocols" s.keyAgreements
  let macs ← replacement? j "message_authentication_codes" s.macs
  let sasMethods ← replacement? j "short_authentication_strings" s.sasMethods
  some ⟨hashes, keyAgreements, macs, sasMethods⟩

end Settings

namespace Agreement

/-- The acceptance that makes this agreement. -/
def acceptContent (a : Agreement) (commitment : String) : AcceptContent :=
  ⟨commitment, a.hash, a.keyAgreement, a.mac, a.sasMethods⟩

/-- How MACs are written under this agreement. -/
def macEncoding? (a : Agreement) : Option MacEncoding :=
  if a.mac = .current then some .unpadded
  else if a.mac = .legacy then some .legacy
  else none

end Agreement

end DeviceVerification.Sas
