import DeviceVerification.Base64
import DeviceVerification.Crypto.X25519
import DeviceVerification.Decimal

/-!
# Ephemeral key pairs

Every verification uses a key pair of its own, drawn from a `KeySource`. `KeyPair.exchange` is the
key agreement with a public key in Base64; it refuses keys that do not contribute to the secret.
-/

namespace DeviceVerification

/-- Why a cryptographic operation failed. -/
inductive CryptoError where
  | invalidKeyLength (actual : Nat)
  | invalidEncoding (e : Base64.DecodeError)
  | nonContributory
  | keyDerivationFailed
  | keySourceExhausted
  deriving DecidableEq, Repr

/-- The number of bytes of a key. -/
def keyLength : Nat := 32

/-- The code of a cryptographic error. -/
def CryptoError.code : CryptoError → String
  | .invalidKeyLength _ => "InvalidKeyLength"
  | .invalidEncoding _ => "InvalidEncoding"
  | .nonContributory => "NonContributory"
  | .keyDerivationFailed => "KeyDerivationFailed"
  | .keySourceExhausted => "KeySourceExhausted"

/-- The wording of a cryptographic error. -/
def CryptoError.message : CryptoError → String
  | .invalidKeyLength actual =>
    "Invalid key length: expected " ++ Decimal.text keyLength ++ ", got " ++ Decimal.text actual
  | .invalidEncoding e => "Invalid base64: " ++ e.message
  | .nonContributory => "Key agreement produced a non-contributory shared secret"
  | .keyDerivationFailed =>
    "Key derivation failed: invalid number of blocks, too large output"
  | .keySourceExhausted => "No ephemeral key left in fixed key source"

/-- The secret that two key pairs share. -/
structure SharedSecret where
  bytes : Bytes
  deriving DecidableEq, Repr

/-- A key pair, given by its private half. -/
structure KeyPair where
  secret : Vector UInt8 keyLength
  deriving DecidableEq, Repr

namespace KeyPair

/-- The key pair of a private key. -/
def ofBytes (bytes : Bytes) : Except CryptoError KeyPair :=
  if h : bytes.length = keyLength then .ok ⟨bytes.toArray, h⟩
  else .error (.invalidKeyLength bytes.length)

/-- The public half, as it is sent. -/
def publicKey (k : KeyPair) : String := Base64.encode (X25519.publicKey k.secret.toList)

/-- The agreement with the bytes of a public key. -/
def agree (k : KeyPair) (theirs : Bytes) : Except CryptoError SharedSecret :=
  if theirs.length = keyLength then
    let shared := X25519.exchange k.secret.toList theirs
    if shared.all (· == 0) then .error .nonContributory else .ok ⟨shared⟩
  else .error (.invalidKeyLength theirs.length)

/-- The agreement with a public key in Base64. -/
def exchange (k : KeyPair) (theirs : String) : Except CryptoError SharedSecret :=
  match Base64.decode theirs with
  | .error e => .error (.invalidEncoding e)
  | .ok bytes => k.agree bytes

end KeyPair

/-- The outcomes of the next draws of a source of key pairs, which is exhausted after them. -/
structure KeySource where
  draws : List (Except CryptoError KeyPair)

namespace KeySource

/-- Draws a key pair. -/
def draw (s : KeySource) : Except CryptoError KeyPair × KeySource :=
  match s.draws with
  | [] => (.error .keySourceExhausted, s)
  | d :: rest => (d, ⟨rest⟩)

end KeySource

end DeviceVerification
