import DeviceVerification.Base64.InPlace
import DeviceVerification.Crypto.Hkdf
import DeviceVerification.Crypto.KeyPair
import DeviceVerification.ShortCode

/-!
# What is derived from a shared secret

The short code and every MAC key come out of the shared secret for a purpose that is spelled out as
text. A MAC is written in one of two encodings.
-/

namespace DeviceVerification

/-- How a MAC is written. -/
inductive MacEncoding where
  | unpadded
  | legacy
  deriving DecidableEq, Repr

/-- The name of an encoding. -/
def MacEncoding.name : MacEncoding → String
  | .unpadded => "unpadded"
  | .legacy => "legacy"

/-- The encoding with a name. -/
def MacEncoding.ofName? (name : String) : Option MacEncoding :=
  [MacEncoding.unpadded, .legacy].find? fun e => e.name == name

/-- The written form of a tag. -/
def MacEncoding.write : MacEncoding → Bytes → String
  | .unpadded, tag => Base64.encode tag
  | .legacy, tag => Base64.encodeInPlace tag

namespace SharedSecret

/-- `length` bytes derived for a purpose. -/
def derive (s : SharedSecret) (purpose : String) (length : Nat) : Except CryptoError Bytes :=
  match hkdf? s.bytes (utf8 purpose) length with
  | some bytes => .ok bytes
  | none => .error .keyDerivationFailed

/-- The short code for a purpose. -/
def shortCode (s : SharedSecret) (purpose : String) : Except CryptoError ShortCode :=
  (s.derive purpose shortCodeLength).map ShortCode.ofBytes

/-- The MAC of a text with a key that is derived for a purpose. -/
def mac (s : SharedSecret) (input purpose : String) (encoding : MacEncoding) :
    Except CryptoError String :=
  (s.derive purpose keyLength).map fun key => encoding.write (hmac key (utf8 input))

/-- Whether a text is the MAC of the input. -/
def verifyMac (s : SharedSecret) (input purpose : String) (encoding : MacEncoding)
    (expected : String) : Except CryptoError Bool :=
  (s.mac input purpose encoding).map fun actual => actual == expected

end SharedSecret

/-- The commitment to a public key in front of the canonical start it answers. -/
def commitment (publicKey canonicalStart : String) : String :=
  Base64.encode (Sha256.digest (utf8 publicKey ++ utf8 canonicalStart))

/-- Whether a text is the commitment to a public key. -/
def verifyCommitment (publicKey canonicalStart expected : String) : Bool :=
  commitment publicKey canonicalStart == expected

end DeviceVerification
