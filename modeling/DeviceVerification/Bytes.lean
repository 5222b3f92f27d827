/-!
# Byte strings

Everything that is hashed, derived or sent as Base64 is a list of bytes. Texts enter this world
through their UTF-8 form.
-/

namespace DeviceVerification

/-- A byte string. -/
abbrev Bytes := List UInt8

/-- The UTF-8 form of a text. -/
def utf8 (s : String) : Bytes := s.toUTF8.data.toList

/-- Two texts with the same UTF-8 form are the same text. -/
theorem utf8_inj {s t : String} : utf8 s = utf8 t ↔ s = t := by
  constructor
  · intro h
    have hd : s.toUTF8.data = t.toUTF8.data := Array.toList_inj.1 h
    exact String.toByteArray_inj.1 (ByteArray.ext hd)
  · rintro rfl
    rfl

/-- The text whose characters have the given bytes as code points. -/
def ofCharCodes (bs : Bytes) : String := String.ofList (bs.map fun b => Char.ofNat b.toNat)

/-- Every byte is the code of a character. -/
theorem codes_ofCharCodes (bs : Bytes) :
    (ofCharCodes bs).toList.map Char.toNat = bs.map UInt8.toNat := by
  rw [ofCharCodes, String.toList_ofList, List.map_map]
  refine List.map_congr_left fun b _ => ?_
  have small := b.toNat_lt
  have valid : b.toNat.isValidChar := .inl (by omega)
  rw [Function.comp_apply, Char.ofNat, dif_pos valid]
  rfl

/-- The number written by the bytes, most significant first. -/
def natOfBytes (bs : Bytes) : Nat := bs.foldl (fun n b => n * 256 + b.toNat) 0

/-- The `n` least significant bytes of a number, least significant first. -/
def littleEndian : Nat → Nat → Bytes
  | 0, _ => []
  | n + 1, x => UInt8.ofNat (x % 256) :: littleEndian n (x / 256)

/-- The `n` least significant bytes of a number, most significant first. -/
def bigEndian (n x : Nat) : Bytes := (littleEndian n x).reverse

@[simp] theorem length_littleEndian (n x : Nat) : (littleEndian n x).length = n := by
  induction n generalizing x with
  | zero => rfl
  | succ n ih => simp [littleEndian, ih]

/-- The first `count` pieces of `size` items each. -/
def pieces {α : Type} (size : Nat) : Nat → List α → List (List α)
  | 0, _ => []
  | count + 1, l => l.take size :: pieces size count (l.drop size)

end DeviceVerification
