import DeviceVerification.Json.Record

/-!
# Identifiers

The protocol names its methods, algorithms and cancel codes by texts. Each vocabulary is open: an
identifier is any text, so one that this library does not know is kept as it was written and can be
refused with a proper cancel code. `Identifier.isKnown` tells the two apart.
-/

namespace DeviceVerification

/-- The kinds of identifiers. -/
inductive Vocabulary where
  | method
  | hash
  | keyAgreement
  | mac
  | shortAuthentication
  | cancelCode
  deriving DecidableEq, Repr

/-- The name of a vocabulary. -/
def Vocabulary.name : Vocabulary → String
  | .method => "method"
  | .hash => "hash"
  | .keyAgreement => "key_agreement"
  | .mac => "mac_method"
  | .shortAuthentication => "sas_method"
  | .cancelCode => "cancel_code"

/-- The vocabulary with a name. -/
def Vocabulary.ofName? (name : String) : Option Vocabulary :=
  [Vocabulary.method, .hash, .keyAgreement, .mac, .shortAuthentication, .cancelCode].find?
    fun v => v.name == name

/-- The identifiers of a vocabulary that this library knows. -/
def Vocabulary.known : Vocabulary → List String
  | .method => ["m.sas.v1"]
  | .hash => ["sha256"]
  | .keyAgreement => ["curve25519-hkdf-sha256"]
  | .mac => ["hkdf-hmac-sha256.v2", "hkdf-hmac-sha256"]
  | .shortAuthentication => ["decimal", "emoji"]
  | .cancelCode =>
    ["m.user", "m.timeout", "m.unknown_transaction", "m.unknown_method", "m.unexpected_message",
      "m.key_mismatch", "m.user_mismatch", "m.invalid_message", "m.accepted",
      "m.mismatched_commitment", "m.mismatched_sas"]

/-- An identifier of a vocabulary. -/
structure Identifier (v : Vocabulary) where
  name : String
  deriving DecidableEq, Repr

namespace Identifier

variable {v : Vocabulary}

/-- Whether this library knows the identifier. -/
def isKnown (i : Identifier v) : Bool := v.known.contains i.name

/-- The identifier in JSON. -/
def toJson (i : Identifier v) : Json := .string i.name

/-- The identifier that a draft holds. -/
def ofDraft? (d : Json.Draft) : Option (Identifier v) := d.text?.map .mk

/-- The list of identifiers that a draft holds. -/
def listOfDraft? (d : Json.Draft) : Option (List (Identifier v)) := d.list? ofDraft?

/-- A list of identifiers in JSON. -/
def listToJson (l : List (Identifier v)) : Json := .array (l.map toJson)

end Identifier

/-- A verification method. -/
abbrev Method := Identifier .method

/-- The hash of a commitment. -/
abbrev HashAlgorithm := Identifier .hash

/-- The agreement on a shared secret. -/
abbrev KeyAgreement := Identifier .keyAgreement

/-- The authentication of the exchanged keys. -/
abbrev MacMethod := Identifier .mac

/-- A form in which people compare the short authentication string. -/
abbrev SasMethod := Identifier .shortAuthentication

/-- The reason code of a cancellation. -/
abbrev CancelCode := Identifier .cancelCode

/-- Comparison of short authentication strings. -/
def Method.sas : Method := ⟨"m.sas.v1"⟩

/-- SHA-256. -/
def HashAlgorithm.sha256 : HashAlgorithm := ⟨"sha256"⟩

/-- X25519 with HKDF over SHA-256. -/
def KeyAgreement.curve25519 : KeyAgreement := ⟨"curve25519-hkdf-sha256"⟩

/-- HMAC over SHA-256, written in Base64. -/
def MacMethod.current : MacMethod := ⟨"hkdf-hmac-sha256.v2"⟩

/-- HMAC over SHA-256, written in Base64 over its own input. -/
def MacMethod.legacy : MacMethod := ⟨"hkdf-hmac-sha256"⟩

/-- Three numbers. -/
def SasMethod.decimal : SasMethod := ⟨"decimal"⟩

/-- Seven emoji. -/
def SasMethod.emoji : SasMethod := ⟨"emoji"⟩

namespace CancelCode

/-- The user, or something on the user's side, ended the verification. -/
def user : CancelCode := ⟨"m.user"⟩

/-- The verification took too long. -/
def timeout : CancelCode := ⟨"m.timeout"⟩

/-- The two sides share no method. -/
def unknownMethod : CancelCode := ⟨"m.unknown_method"⟩

/-- A step arrived out of turn. -/
def unexpectedMessage : CancelCode := ⟨"m.unexpected_message"⟩

/-- The keys are not the ones that are known. -/
def keyMismatch : CancelCode := ⟨"m.key_mismatch"⟩

/-- A step could not be understood. -/
def invalidMessage : CancelCode := ⟨"m.invalid_message"⟩

/-- Another device of the same user answered first. -/
def accepted : CancelCode := ⟨"m.accepted"⟩

/-- The key is not the one that was committed to. -/
def mismatchedCommitment : CancelCode := ⟨"m.mismatched_commitment"⟩

/-- The users saw different short authentication strings. -/
def mismatchedSas : CancelCode := ⟨"m.mismatched_sas"⟩

end CancelCode

end DeviceVerification
