import DeviceVerification.Crypto.SharedSecret
import DeviceVerification.Identity
import DeviceVerification.Trust.Key

/-!
# The exchange of MACs

Each side authenticates its keys under the shared secret: every key by itself, and the sorted list
of their ids. `checkMac` compares what the other side sent with the keys that are known of it.
-/

namespace DeviceVerification.Sas

/-- The purpose that all MACs from one device to another start with. -/
def macPurpose (sender receiver : Identity) (transactionId : String) : String :=
  "MATRIX_KEY_VERIFICATION_MAC" ++ sender.user ++ sender.device ++ receiver.user ++
    receiver.device ++ transactionId

/-- The ids of the authenticated keys, sorted and separated by commas. -/
def keyIdList (mac : Dictionary String) : String := String.intercalate "," mac.keys

/-- The MACs of the given keys. -/
def macEntries (secret : SharedSecret) (encoding : MacEncoding) (purpose : String)
    (keys : List VerifiableKey) : Except CryptoError (Dictionary String) :=
  keys.foldlM (fun mac key => do
    let text ← secret.mac key.value (purpose ++ key.keyId) encoding
    .ok (mac.insert key.keyId text)) .empty

/-- The step that authenticates the given keys. -/
def macContent (secret : SharedSecret) (encoding : MacEncoding) (purpose : String)
    (keys : List VerifiableKey) : Except CryptoError MacContent := do
  let mac ← macEntries secret encoding purpose keys
  let list ← secret.mac (keyIdList mac) (purpose ++ "KEY_IDS") encoding
  .ok ⟨list, mac⟩

/-- Why MACs are refused. -/
inductive MacFailure where
  | keyIdList
  | key (keyId : String)
  | nothingVerified
  | crypto (e : CryptoError)
  deriving DecidableEq, Repr

/-- The code of a refusal. -/
def MacFailure.code : MacFailure → String
  | .keyIdList => "KeyIdList"
  | .key _ => "Key"
  | .nothingVerified => "NothingVerified"
  | .crypto _ => "Crypto"

/-- The wording of a refusal. -/
def MacFailure.message : MacFailure → String
  | .keyIdList => "MAC over key ids does not match"
  | .key keyId => "MAC of key " ++ keyId ++ " does not match"
  | .nothingVerified => "no known key was verified"
  | .crypto e => "MAC check failed: " ++ e.message

/-- A cryptographic operation whose errors refuse the MACs. -/
def orRefuse {α : Type} : Except CryptoError α → Except MacFailure α
  | .ok a => .ok a
  | .error e => .error (.crypto e)

/-- The known keys among authenticated ones, every one of which must have the right MAC. Unknown ids
are skipped. -/
def checkEntries (secret : SharedSecret) (encoding : MacEncoding) (purpose : String)
    (known : List VerifiableKey) : List (String × String) → Except MacFailure (List VerifiableKey)
  | [] => .ok []
  | (keyId, mac) :: rest =>
    match known.find? fun k => k.keyId == keyId with
    | none => checkEntries secret encoding purpose known rest
    | some key => do
      let matched ← orRefuse (secret.verifyMac key.value (purpose ++ keyId) encoding mac)
      if matched then
        let verified ← checkEntries secret encoding purpose known rest
        .ok (key :: verified)
      else .error (.key keyId)

/-- The known keys that a step authenticates, at least one. -/
def checkMac (secret : SharedSecret) (encoding : MacEncoding) (purpose : String)
    (content : MacContent) (known : List VerifiableKey) :
    Except MacFailure (List VerifiableKey) := do
  let list := keyIdList content.mac
  let matched ← orRefuse (secret.verifyMac list (purpose ++ "KEY_IDS") encoding content.keys)
  if matched then
    let verified ← checkEntries secret encoding purpose known content.mac.entries
    if verified.isEmpty then .error .nothingVerified else .ok verified
  else .error .keyIdList

end DeviceVerification.Sas
