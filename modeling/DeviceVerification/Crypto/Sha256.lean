import DeviceVerification.Bytes

/-!
# SHA-256

SHA-256 over lists of bytes. The message schedule is a window of sixteen words that
moves along with the rounds, so one fold over the round constants is a whole block.
-/

namespace DeviceVerification.Sha256

/-- The eight working words. -/
structure Registers where
  a : UInt32
  b : UInt32
  c : UInt32
  d : UInt32
  e : UInt32
  f : UInt32
  g : UInt32
  h : UInt32
  deriving DecidableEq, Repr

/-- The working words before the first block. -/
def initial : Registers :=
  ⟨0x6a09e667, 0xbb67ae85, 0x3c6ef372, 0xa54ff53a, 0x510e527f, 0x9b05688c, 0x1f83d9ab,
    0x5be0cd19⟩

/-- The round constants. -/
def roundConstants : List UInt32 :=
  [0x428a2f98, 0x71374491, 0xb5c0fbcf, 0xe9b5dba5, 0x3956c25b, 0x59f111f1, 0x923f82a4,
    0xab1c5ed5, 0xd807aa98, 0x12835b01, 0x243185be, 0x550c7dc3, 0x72be5d74, 0x80deb1fe,
    0x9bdc06a7, 0xc19bf174, 0xe49b69c1, 0xefbe4786, 0x0fc19dc6, 0x240ca1cc, 0x2de92c6f,
    0x4a7484aa, 0x5cb0a9dc, 0x76f988da, 0x983e5152, 0xa831c66d, 0xb00327c8, 0xbf597fc7,
    0xc6e00bf3, 0xd5a79147, 0x06ca6351, 0x14292967, 0x27b70a85, 0x2e1b2138, 0x4d2c6dfc,
    0x53380d13, 0x650a7354, 0x766a0abb, 0x81c2c92e, 0x92722c85, 0xa2bfe8a1, 0xa81a664b,
    0xc24b8b70, 0xc76c51a3, 0xd192e819, 0xd6990624, 0xf40e3585, 0x106aa070, 0x19a4c116,
    0x1e376c08, 0x2748774c, 0x34b0bcb5, 0x391c0cb3, 0x4ed8aa4a, 0x5b9cca4f, 0x682e6ff3,
    0x748f82ee, 0x78a5636f, 0x84c87814, 0x8cc70208, 0x90befffa, 0xa4506ceb, 0xbef9a3f7,
    0xc67178f2]

/-- Rotation to the right. -/
def rotate (x n : UInt32) : UInt32 := (x >>> n) ||| (x <<< (32 - n))

/-- The word that enters the schedule window while its first word leaves. -/
def nextWord (window : List UInt32) : UInt32 :=
  let early := window.getD 1 0
  let late := window.getD 14 0
  let s₀ := rotate early 7 ^^^ rotate early 18 ^^^ (early >>> 3)
  let s₁ := rotate late 17 ^^^ rotate late 19 ^^^ (late >>> 10)
  s₁ + window.getD 9 0 + s₀ + window.headD 0

/-- One round with its constant. -/
def round (state : Registers × List UInt32) (constant : UInt32) : Registers × List UInt32 :=
  let (r, window) := state
  let s₁ := rotate r.e 6 ^^^ rotate r.e 11 ^^^ rotate r.e 25
  let choice := (r.e &&& r.f) ^^^ (~~~ r.e &&& r.g)
  let t₁ := r.h + s₁ + choice + constant + window.headD 0
  let s₀ := rotate r.a 2 ^^^ rotate r.a 13 ^^^ rotate r.a 22
  let majority := (r.a &&& r.b) ^^^ (r.a &&& r.c) ^^^ (r.b &&& r.c)
  (⟨t₁ + (s₀ + majority), r.a, r.b, r.c, r.d + t₁, r.e, r.f, r.g⟩,
    window.tail ++ [nextWord window])

/-- The working words after one block of sixteen words. -/
def compress (r : Registers) (block : List UInt32) : Registers :=
  let s := (roundConstants.foldl round (r, block)).1
  ⟨r.a + s.a, r.b + s.b, r.c + s.c, r.d + s.d, r.e + s.e, r.f + s.f, r.g + s.g, r.h + s.h⟩

/-- The message with its end mark, zeros and bit length, a multiple of 64 bytes. -/
def pad (message : Bytes) : Bytes :=
  let zeros := (119 - message.length % 64) % 64
  message ++ (0x80 :: List.replicate zeros 0) ++ bigEndian 8 (message.length * 8)

/-- The sixteen words of a block of 64 bytes. -/
def words (block : Bytes) : List UInt32 :=
  (pieces 4 16 block).map fun bs => UInt32.ofNat (natOfBytes bs)

/-- The words of the hash. -/
def registers (message : Bytes) : Registers :=
  let padded := pad message
  ((pieces 64 (padded.length / 64) padded).map words).foldl compress initial

/-- The SHA-256 hash of a message. -/
def digest (message : Bytes) : Bytes :=
  let r := registers message
  [r.a, r.b, r.c, r.d, r.e, r.f, r.g, r.h].flatMap fun w => bigEndian 4 w.toNat

/-- A hash has 32 bytes. -/
@[simp] theorem length_digest (message : Bytes) : (digest message).length = 32 := by
  simp [digest, bigEndian]

end DeviceVerification.Sha256
