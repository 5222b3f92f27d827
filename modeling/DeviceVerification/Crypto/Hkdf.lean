import DeviceVerification.Crypto.Sha256

/-!
# HMAC and HKDF over SHA-256

`hmac` hashes the message under two masks of its key, and `hkdf?` extracts a key from the secret
under a salt of zeros and expands it block by block. A derived key may have at most 255 hash
lengths, which is the only way in which the derivation can fail; it has the length that was asked
for (`exists_hkdf?`).
-/

namespace DeviceVerification

/-- The key of an HMAC, filled up to one hash block. -/
def hmacBlock (key : Bytes) : Bytes :=
  let short := if key.length > 64 then Sha256.digest key else key
  short ++ List.replicate (64 - short.length) 0

/-- HMAC-SHA256. -/
def hmac (key message : Bytes) : Bytes :=
  let block := hmacBlock key
  let inner := Sha256.digest (block.map (· ^^^ 0x36) ++ message)
  Sha256.digest (block.map (· ^^^ 0x5c) ++ inner)

/-- The blocks of the expansion, each one keyed by the block before it. -/
def expandBlocks (key info : Bytes) : (count index : Nat) → (previous : Bytes) → Bytes
  | 0, _, _ => []
  | count + 1, index, previous =>
    let block := hmac key (previous ++ info ++ [UInt8.ofNat index])
    block ++ expandBlocks key info count (index + 1) block

/-- The longest key that can be derived. -/
def maxDerivedLength : Nat := 255 * 32

/-- `length` bytes derived from a secret for a purpose. -/
def hkdf? (secret info : Bytes) (length : Nat) : Option Bytes :=
  if length ≤ maxDerivedLength then
    let key := hmac (List.replicate 32 0) secret
    some ((expandBlocks key info ((length + 31) / 32) 1 []).take length)
  else none

@[simp] theorem length_hmac (key message : Bytes) : (hmac key message).length = 32 :=
  Sha256.length_digest _

theorem length_expandBlocks (key info : Bytes) (count index : Nat) (previous : Bytes) :
    (expandBlocks key info count index previous).length = 32 * count := by
  induction count generalizing index previous with
  | zero => rfl
  | succ count ih => simp only [expandBlocks, List.length_append, length_hmac, ih]; omega

/-- A key of a permitted length can be derived, and has this length. -/
theorem exists_hkdf? (secret info : Bytes) {length : Nat} (permitted : length ≤ maxDerivedLength) :
    ∃ bytes, hkdf? secret info length = some bytes ∧ bytes.length = length := by
  refine ⟨_, if_pos permitted, ?_⟩
  rw [List.length_take, length_expandBlocks]
  omega

end DeviceVerification
