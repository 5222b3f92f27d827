import DeviceVerification.Bytes

/-!
# Base64 on the wire

`Base64.encode` writes the standard alphabet without padding. `Base64.decode` reads the same
alphabet with or without padding and refuses every text whose discarded bits are not zero; the
error says which byte is at fault. Offsets count bytes of the UTF-8 text.
-/

namespace DeviceVerification.Base64

/-- The standard alphabet, in the order of the six-bit values. -/
def alphabet : List Char :=
  "ABCDEFGHIJKLMNOPQRSTUVWXYZabcdefghijklmnopqrstuvwxyz0123456789+/".toList

/-- The character of a six-bit value. -/
def symbol (n : Nat) : Char := alphabet.getD n 'A'

/-- The six-bit value of a byte of the alphabet. -/
def sextet? (b : UInt8) : Option Nat := alphabet.findIdx? fun c => c.toNat == b.toNat

/-- Three bytes become four symbols; a last group of two or one becomes three or two. -/
def encodeChars : Bytes → List Char
  | a :: b :: c :: rest =>
    let n := a.toNat * 65536 + b.toNat * 256 + c.toNat
    symbol (n / 262144) :: symbol (n / 4096 % 64) :: symbol (n / 64 % 64) :: symbol (n % 64) ::
      encodeChars rest
  | [a, b] =>
    let n := a.toNat * 1024 + b.toNat * 4
    [symbol (n / 4096), symbol (n / 64 % 64), symbol (n % 64)]
  | [a] =>
    let n := a.toNat * 16
    [symbol (n / 64), symbol (n % 64)]
  | [] => []

/-- Unpadded Base64. -/
def encode (bs : Bytes) : String := String.ofList (encodeChars bs)

/-- Why a text is not Base64. -/
inductive DecodeError where
  | invalidByte (offset : Nat) (byte : UInt8)
  | invalidLength (length : Nat)
  | invalidLastSymbol (offset : Nat) (byte : UInt8)
  deriving DecidableEq, Repr

/-- The wording of a decoding error. -/
def DecodeError.message : DecodeError → String
  | .invalidByte offset byte =>
    "Invalid symbol " ++ toString byte.toNat ++ ", offset " ++ toString offset ++ "."
  | .invalidLength length => "Invalid input length: " ++ toString length
  | .invalidLastSymbol offset byte =>
    "Invalid last symbol " ++ toString byte.toNat ++ ", offset " ++ toString offset ++ "."

/-- The padding byte. -/
def padding : UInt8 := 61

/-- The six-bit values of the last group. Padding is allowed from the third place on, and nothing
but padding may follow it. -/
def lastValues (offset place : Nat) (firstPadding : Option Nat) :
    Bytes → Except DecodeError (List Nat)
  | [] => .ok []
  | b :: rest =>
    if b = padding then
      if place < 2 then .error (.invalidByte (offset + place) b)
      else lastValues offset (place + 1) (firstPadding.or (some place)) rest
    else
      match firstPadding, sextet? b with
      | some p, _ => .error (.invalidByte (offset + p) padding)
      | none, none => .error (.invalidByte (offset + place) b)
      | none, some v => (lastValues offset (place + 1) none rest).map (v :: ·)

/-- The bytes of the last group, which has at most four bytes of text. -/
def decodeLast (offset : Nat) (group : Bytes) : Except DecodeError Bytes := do
  match ← lastValues offset 0 none group with
  | [] => if group.isEmpty then .ok [] else .error (.invalidLength offset)
  | [_] => .error (.invalidLength (offset + 1))
  | [a, b] =>
    if b % 16 = 0 then .ok [UInt8.ofNat (a * 4 + b / 16)]
    else .error (.invalidLastSymbol (offset + 1) (group.getD 1 0))
  | [a, b, c] =>
    if c % 4 = 0 then .ok [UInt8.ofNat (a * 4 + b / 16), UInt8.ofNat (b % 16 * 16 + c / 4)]
    else .error (.invalidLastSymbol (offset + 2) (group.getD 2 0))
  | a :: b :: c :: d :: _ =>
    .ok [UInt8.ofNat (a * 4 + b / 16), UInt8.ofNat (b % 16 * 16 + c / 4),
      UInt8.ofNat (c % 4 * 64 + d)]

/-- The six-bit value of the byte at `offset`, where padding is not allowed. -/
def valueAt (offset : Nat) (b : UInt8) : Except DecodeError Nat :=
  match sextet? b with
  | some v => .ok v
  | none => .error (.invalidByte offset b)

/-- A group of four that has more text behind it consists of symbols only. -/
def decodeFrom (offset : Nat) : Bytes → Except DecodeError Bytes
  | b₀ :: b₁ :: b₂ :: b₃ :: b₄ :: rest => do
    let v₀ ← valueAt offset b₀
    let v₁ ← valueAt (offset + 1) b₁
    let v₂ ← valueAt (offset + 2) b₂
    let v₃ ← valueAt (offset + 3) b₃
    let tail ← decodeFrom (offset + 4) (b₄ :: rest)
    .ok (UInt8.ofNat (v₀ * 4 + v₁ / 16) :: UInt8.ofNat (v₁ % 16 * 16 + v₂ / 4) ::
      UInt8.ofNat (v₂ % 4 * 64 + v₃) :: tail)
  | last => decodeLast offset last
  termination_by bs => bs.length

/-- A stray last byte is reported before everything else when it opens a new group. -/
def strayLast (text : Bytes) : Option DecodeError :=
  match text.getLast? with
  | some b =>
    if text.length % 4 = 1 ∧ b ≠ padding ∧ sextet? b = none then
      some (.invalidByte (text.length - 1) b)
    else none
  | none => none

/-- The bytes of a UTF-8 text in Base64. -/
def decodeBytes (text : Bytes) : Except DecodeError Bytes :=
  match strayLast text with
  | some e => .error e
  | none => decodeFrom 0 text

/-- The bytes of a text in Base64, padded or not. -/
def decode (text : String) : Except DecodeError Bytes := decodeBytes (utf8 text)

end DeviceVerification.Base64
