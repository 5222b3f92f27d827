import DeviceVerification.Bytes

/-!
# X25519

The Diffie-Hellman function: a Montgomery ladder over the field of `2 ^ 255 - 19` elements. Public
keys are field elements in 32 bytes, least significant first; the top bit of a
received key is ignored.
-/

namespace DeviceVerification.X25519

/-- The size of the field. -/
def prime : Nat := Nat.pow 2 255 - 19

/-- The number written by the bytes, least significant first. -/
def natOfLittleEndian (bs : Bytes) : Nat := natOfBytes bs.reverse

/-- The scalar of a private key: a multiple of eight with bit 254 as its highest. -/
def scalar (secret : Bytes) : Nat :=
  natOfLittleEndian secret % Nat.pow 2 254 / 8 * 8 + Nat.pow 2 254

/-- The field element of a public key. -/
def coordinate (key : Bytes) : Nat := natOfLittleEndian key % Nat.pow 2 255 % prime

/-- `b ^ e` in the field, for exponents below `2 ^ 255`. -/
def power (b e : Nat) : Nat :=
  (List.range 255).foldr (fun i acc =>
    let square := acc * acc % prime
    if e.testBit i then square * b % prime else square) 1

/-- Two neighbouring multiples of a point, in projective coordinates. -/
structure Rungs where
  x₂ : Nat
  z₂ : Nat
  x₃ : Nat
  z₃ : Nat

/-- The two points in the other order. -/
def Rungs.swap (r : Rungs) : Rungs := ⟨r.x₃, r.z₃, r.x₂, r.z₂⟩

/-- Doubles the first point and adds the two, whose difference has the coordinate `u`. -/
def Rungs.step (u : Nat) (r : Rungs) : Rungs :=
  let a := (r.x₂ + r.z₂) % prime
  let aa := a * a % prime
  let b := (r.x₂ + prime - r.z₂) % prime
  let bb := b * b % prime
  let e := (aa + prime - bb) % prime
  let da := (r.x₃ + prime - r.z₃) % prime * a % prime
  let cb := (r.x₃ + r.z₃) % prime * b % prime
  let plus := (da + cb) % prime
  let minus := (da + prime - cb) % prime
  ⟨aa * bb % prime, e * (aa + 121665 * e) % prime, plus * plus % prime,
    u * (minus * minus % prime) % prime⟩

/-- The coordinate of `k` times the point with coordinate `u`. -/
def multiply (k u : Nat) : Nat :=
  let climb (i : Nat) (r : Rungs) : Rungs :=
    if k.testBit i then (r.swap.step u).swap else r.step u
  let r := (List.range 255).foldr climb ⟨1, 0, u, 1⟩
  r.x₂ * power r.z₂ (prime - 2) % prime

/-- The shared coordinate of a private and a public key. -/
def exchange (secret key : Bytes) : Bytes :=
  littleEndian 32 (multiply (scalar secret) (coordinate key))

/-- The public key of a private key. -/
def publicKey (secret : Bytes) : Bytes := littleEndian 32 (multiply (scalar secret) 9)

end DeviceVerification.X25519
