import DeviceVerification.Bytes

/-!
# Hexadecimal text

Two digits in lower case for every byte.
-/

namespace DeviceVerification.Hex

/-- The digit of a number below sixteen. -/
def digit (n : Nat) : Char := if n < 10 then Char.ofNat (48 + n) else Char.ofNat (87 + n)

/-- The number of a digit. -/
def digitValue? (c : Char) : Option Nat :=
  if '0' ≤ c ∧ c ≤ '9' then some (c.toNat - 48)
  else if 'a' ≤ c ∧ c ≤ 'f' then some (c.toNat - 87)
  else none

/-- The text of a byte string. -/
def encode (bs : Bytes) : String :=
  String.ofList (bs.flatMap fun b => [digit (b.toNat / 16), digit (b.toNat % 16)])

/-- The byte string that digits write. -/
def decodeDigits? : List Char → Option Bytes
  | [] => some []
  | [_] => none
  | a :: b :: rest => do
    let a ← digitValue? a
    let b ← digitValue? b
    let bytes ← decodeDigits? rest
    some (UInt8.ofNat (16 * a + b) :: bytes)

/-- The byte string that a text writes. -/
def decode? (text : String) : Option Bytes := decodeDigits? text.toList

end DeviceVerification.Hex
