import DeviceVerification.Base64

/-!
# Base64 written over its own input

The oldest MAC texts were encoded in place: the symbols of one group overwrite bytes of later
groups before these are read. `Base64.encodeInPlace` runs that encoder on an explicit buffer whose
reads and writes are checked, so `overwrite?` yields `none` exactly if the encoder would leave its
buffer.
-/

namespace DeviceVerification.Base64

/-- The byte of the buffer at `i`, if there is one. -/
def readAt (buffer : Bytes) (i : Nat) : Option Nat := buffer[i]?.map UInt8.toNat

/-- The buffer with the symbol of the low six bits of `value` at `i`, if there is such a place. -/
def writeSymbol (buffer : Bytes) (i value : Nat) : Option Bytes :=
  if i < buffer.length then
    some (buffer.set i (UInt8.ofNat (symbol (value % 64)).toNat))
  else none

/-- `groups` full groups are encoded, reading from `pos` and writing from `out`. -/
def overwriteGroups : (groups pos out : Nat) → Bytes → Option Bytes
  | 0, _, _, buffer => some buffer
  | groups + 1, pos, out, buffer => do
    let a ← readAt buffer pos
    let b ← readAt buffer (pos + 1)
    let c ← readAt buffer (pos + 2)
    let value := a * 65536 + b * 256 + c
    let buffer ← writeSymbol buffer (out + 3) value
    let buffer ← writeSymbol buffer (out + 2) (value / 64)
    let buffer ← writeSymbol buffer (out + 1) (value / 4096)
    let buffer ← writeSymbol buffer out (value / 262144)
    overwriteGroups groups (pos + 3) (out + 4) buffer

/-- The last one or two bytes are encoded, reading from `pos` and writing from `out`. -/
def overwriteRest (remainder pos out : Nat) (buffer : Bytes) : Option Bytes :=
  match remainder with
  | 0 => some buffer
  | 1 => do
    let a ← readAt buffer pos
    let value := a * 16
    let buffer ← writeSymbol buffer (out + 1) value
    writeSymbol buffer out (value / 64)
  | _ => do
    let a ← readAt buffer pos
    let b ← readAt buffer (pos + 1)
    let value := (a * 256 + b) * 4
    let buffer ← writeSymbol buffer (out + 2) value
    let buffer ← writeSymbol buffer (out + 1) (value / 64)
    writeSymbol buffer out (value / 4096)

/-- The number of symbols that encode `n` bytes. -/
def encodedLength (n : Nat) : Nat := 4 * (n / 3) + (if n % 3 = 0 then 0 else n % 3 + 1)

/-- The buffer after encoding `input` over itself. -/
def overwrite? (input : Bytes) : Option Bytes := do
  let n := input.length
  let buffer := input ++ List.replicate (encodedLength n - n) 0
  let buffer ← overwriteGroups (n / 3) 0 0 buffer
  let buffer ← overwriteRest (n % 3) (n / 3 * 3) (n / 3 * 4) buffer
  some (buffer.take (encodedLength n))

/-- The text that encoding `input` in place leaves in its buffer. -/
def encodeInPlace (input : Bytes) : String := ofCharCodes ((overwrite? input).getD [])

end DeviceVerification.Base64
