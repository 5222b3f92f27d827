import DeviceVerification.Bytes
import DeviceVerification.Decimal
import DeviceVerification.Json.Value

/-!
# Short codes

Both sides of a verification derive the same six bytes. People compare them as three numbers of four
digits or as seven emoji out of a table of 64.
-/

namespace DeviceVerification

/-- A picture and its English name. -/
structure Emoji where
  glyph : String
  name : String
  deriving DecidableEq, Repr

/-- The pictures in the order of their six-bit values. -/
def Emoji.table : List Emoji :=
  [⟨"🐶", "Dog"⟩, ⟨"🐱", "Cat"⟩, ⟨"🦁", "Lion"⟩, ⟨"🐎", "Horse"⟩, ⟨"🦄", "Unicorn"⟩,
    ⟨"🐷", "Pig"⟩, ⟨"🐘", "Elephant"⟩, ⟨"🐰", "Rabbit"⟩, ⟨"🐼", "Panda"⟩, ⟨"🐓", "Rooster"⟩,
    ⟨"🐧", "Penguin"⟩, ⟨"🐢", "Turtle"⟩, ⟨"🐟", "Fish"⟩, ⟨"🐙", "Octopus"⟩, ⟨"🦋", "Butterfly"⟩,
    ⟨"🌷", "Flower"⟩, ⟨"🌳", "Tree"⟩, ⟨"🌵", "Cactus"⟩, ⟨"🍄", "Mushroom"⟩, ⟨"🌏", "Globe"⟩,
    ⟨"🌙", "Moon"⟩, ⟨"☁️", "Cloud"⟩, ⟨"🔥", "Fire"⟩, ⟨"🍌", "Banana"⟩, ⟨"🍎", "Apple"⟩,
    ⟨"🍓", "Strawberry"⟩, ⟨"🌽", "Corn"⟩, ⟨"🍕", "Pizza"⟩, ⟨"🎂", "Cake"⟩, ⟨"❤️", "Heart"⟩,
    ⟨"😀", "Smiley"⟩, ⟨"🤖", "Robot"⟩, ⟨"🎩", "Hat"⟩, ⟨"👓", "Glasses"⟩, ⟨"🔧", "Spanner"⟩,
    ⟨"🎅", "Santa"⟩, ⟨"👍", "Thumbs Up"⟩, ⟨"☂️", "Umbrella"⟩, ⟨"⌛", "Hourglass"⟩,
    ⟨"⏰", "Clock"⟩, ⟨"🎁", "Gift"⟩, ⟨"💡", "Light Bulb"⟩, ⟨"📕", "Book"⟩, ⟨"✏️", "Pencil"⟩,
    ⟨"📎", "Paperclip"⟩, ⟨"✂️", "Scissors"⟩, ⟨"🔒", "Lock"⟩, ⟨"🔑", "Key"⟩, ⟨"🔨", "Hammer"⟩,
    ⟨"☎️", "Telephone"⟩, ⟨"🏁", "Flag"⟩, ⟨"🚂", "Train"⟩, ⟨"🚲", "Bicycle"⟩,
    ⟨"✈️", "Aeroplane"⟩, ⟨"🚀", "Rocket"⟩, ⟨"🏆", "Trophy"⟩, ⟨"⚽", "Ball"⟩, ⟨"🎸", "Guitar"⟩,
    ⟨"🎺", "Trumpet"⟩, ⟨"🔔", "Bell"⟩, ⟨"⚓", "Anchor"⟩, ⟨"🎧", "Headphones"⟩, ⟨"📁", "Folder"⟩,
    ⟨"📌", "Pin"⟩]

/-- The picture of a six-bit value. -/
def Emoji.ofIndex (i : Nat) : Emoji := Emoji.table.getD i ⟨"", ""⟩

/-- The number of bytes that both renderings are taken from. -/
def shortCodeLength : Nat := 6

/-- The derived bytes. -/
structure ShortCode where
  b₀ : UInt8
  b₁ : UInt8
  b₂ : UInt8
  b₃ : UInt8
  b₄ : UInt8
  b₅ : UInt8
  deriving DecidableEq, Repr

/-- Three numbers of the short code. -/
structure Decimals where
  first : UInt16
  second : UInt16
  third : UInt16
  deriving DecidableEq, Repr

namespace ShortCode

/-- The first six bytes of a list. -/
def ofBytes (bs : Bytes) : ShortCode :=
  ⟨bs.getD 0 0, bs.getD 1 0, bs.getD 2 0, bs.getD 3 0, bs.getD 4 0, bs.getD 5 0⟩

/-- The bytes of the code. -/
def bytes (c : ShortCode) : Bytes := [c.b₀, c.b₁, c.b₂, c.b₃, c.b₄, c.b₅]

/-- A code is made of six bytes and of nothing else. -/
theorem bytes_ofBytes {bs : Bytes} (six : bs.length = shortCodeLength) :
    (ofBytes bs).bytes = bs := by
  match bs, six with
  | [_, _, _, _, _, _], _ => rfl

/-- Three numbers of 13 bits, taken from the first 39 bits and raised by 1000. -/
def decimals (c : ShortCode) : Decimals :=
  ⟨((c.b₀.toUInt16 <<< 5) ||| (c.b₁.toUInt16 >>> 3)) + 1000,
    (((c.b₁.toUInt16 &&& 0x7) <<< 10) ||| (c.b₂.toUInt16 <<< 2) ||| (c.b₃.toUInt16 >>> 6)) + 1000,
    (((c.b₃.toUInt16 &&& 0x3f) <<< 7) ||| (c.b₄.toUInt16 >>> 1)) + 1000⟩

/-- The number that the six bytes write. -/
def toNat (c : ShortCode) : Nat := natOfBytes c.bytes

/-- Seven numbers of six bits, taken from the first 42 bits. -/
def emojiIndices (c : ShortCode) : List Nat :=
  (List.range 7).map fun i => c.toNat / Nat.pow 2 (42 - 6 * i) % 64

/-- The pictures of the code. -/
def emoji (c : ShortCode) : List Emoji := c.emojiIndices.map Emoji.ofIndex

end ShortCode

/-- The numbers in JSON. -/
def Decimals.toJson (d : Decimals) : Json :=
  .array [.nat d.first.toNat, .nat d.second.toNat, .nat d.third.toNat]

/-- The picture of a six-bit value in JSON. -/
def Emoji.indexToJson (i : Nat) : Json :=
  .array [.nat i, .string (ofIndex i).glyph, .string (ofIndex i).name]

/-- The numbers as people see them. -/
def Decimals.text (d : Decimals) : String :=
  Decimal.text d.first.toNat ++ " " ++ Decimal.text d.second.toNat ++ " " ++
    Decimal.text d.third.toNat

/-- The pictures as people see them. -/
def Emoji.row (l : List Emoji) : String :=
  String.intercalate " | " (l.map fun e => e.glyph ++ " " ++ e.name)

end DeviceVerification
