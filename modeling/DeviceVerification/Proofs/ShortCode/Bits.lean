import Mathlib.Algebra.Group.Nat.Defs
import Mathlib.Data.List.Induction
import DeviceVerification.ShortCode

/-!
# The bits of a short code

A short code is a row of 48 bits, the most significant bit of its first byte first. Both renderings
cut a number of leading bits into slices of one width: the three numbers are the slices of 13 bits
of the first 39 (`values_decimals`), the seven pictures stand for the slices of 6 bits of the first
42 (`emojiIndices_eq`). The slices of a number determine it (`slices_inj`), and the number that
leading bits write determines them (`leading_eq_iff`). The shifts and sums of the numbers lose
nothing: `decimals?_eq` computes them with a guard at every step.
-/

namespace DeviceVerification

variable {bs cs : Bytes} {n i : Nat}

/-! ## The bits of byte strings -/

/-- Bit `i` of a byte string, the most significant bit of the first byte first. -/
def bitAt (bs : Bytes) (i : Nat) : Bool := (bs.getD (i / 8) 0).toNat.testBit (7 - i % 8)

theorem natOfBytes_concat (bs : Bytes) (b : UInt8) :
    natOfBytes (bs ++ [b]) = 2 ^ 8 * natOfBytes bs + b.toNat := by
  rw [natOfBytes, List.foldl_append, ← natOfBytes]
  simp only [List.foldl_cons, List.foldl_nil]
  omega

theorem natOfBytes_lt (bs : Bytes) : natOfBytes bs < 2 ^ (8 * bs.length) := by
  induction bs using List.reverseRecOn with
  | nil => decide
  | append_singleton bs b ih =>
    have small := b.toNat_lt
    rw [natOfBytes_concat, List.length_append, List.length_singleton, Nat.mul_succ, Nat.pow_add]
    omega

/-- The number that bytes write has their bits, the last one as its least significant. -/
theorem testBit_natOfBytes (lt : i < 8 * bs.length) :
    (natOfBytes bs).testBit (8 * bs.length - 1 - i) = bitAt bs i := by
  -- At the end of the list: the last byte holds the eight least significant bits of the number.
  induction bs using List.reverseRecOn generalizing i with
  | nil => simp at lt
  | append_singleton bs b ih =>
    rw [List.length_append, List.length_singleton] at lt ⊢
    rw [natOfBytes_concat, Nat.testBit_two_pow_mul_add _ b.toNat_lt, bitAt]
    by_cases last : 8 * bs.length ≤ i
    · have index : i / 8 = bs.length := by omega
      have place : 8 * (bs.length + 1) - 1 - i = 7 - i % 8 := by omega
      rw [if_pos (by omega), index, place]
      simp
    · have place : 8 * (bs.length + 1) - 1 - i - 8 = 8 * bs.length - 1 - i := by omega
      rw [if_neg (by omega), place, ih (by omega), bitAt]
      simp [List.getD_eq_getElem?_getD, List.getElem?_append_left (show i / 8 < bs.length by omega)]

/-- Without their last bits, byte strings of one length write the same number just when they agree
in the bits that are left. -/
theorem natOfBytes_div_eq_iff (same : bs.length = cs.length) (le : n ≤ 8 * bs.length) :
    natOfBytes bs / 2 ^ (8 * bs.length - n) = natOfBytes cs / 2 ^ (8 * bs.length - n) ↔
      ∀ i < n, bitAt bs i = bitAt cs i := by
  have bit : ∀ {ds : Bytes}, ds.length = bs.length → ∀ {i}, i < n →
      (natOfBytes ds / 2 ^ (8 * bs.length - n)).testBit (n - 1 - i) = bitAt ds i := by
    intro ds length i lt
    rw [Nat.testBit_div_two_pow, ← testBit_natOfBytes (by omega)]
    congr 1
    omega
  constructor
  · intro eq i lt
    rw [← bit rfl lt, ← bit same.symm lt, eq]
  · intro agree
    refine Nat.eq_of_testBit_eq fun j => ?_
    by_cases lt : j < n
    · have place : j = n - 1 - (n - 1 - j) := by omega
      rw [place, bit rfl (by omega), bit same.symm (by omega), agree _ (by omega)]
    · have high : ∀ {ds : Bytes}, ds.length = bs.length →
          (natOfBytes ds / 2 ^ (8 * bs.length - n)).testBit j = false := by
        intro ds length
        rw [Nat.testBit_div_two_pow]
        refine Nat.testBit_lt_two_pow (Nat.lt_of_lt_of_le (natOfBytes_lt ds) ?_)
        exact Nat.pow_le_pow_right (by decide) (by omega)
      rw [high rfl, high same.symm]

/-! ## Slices -/

/-- The last `count` slices of `width` bits of a number, the most significant first. -/
def slices (width : Nat) : Nat → Nat → List Nat
  | 0, _ => []
  | count + 1, n => slices width count (n / 2 ^ width) ++ [n % 2 ^ width]

theorem lt_of_mem_slices {width count n s : Nat} (mem : s ∈ slices width count n) :
    s < 2 ^ width := by
  induction count generalizing n with
  | zero => cases mem
  | succ count ih =>
    rcases List.mem_append.1 mem with earlier | last
    · exact ih earlier
    · rw [List.mem_singleton.1 last]
      exact Nat.mod_lt _ (Nat.two_pow_pos width)

/-- Numbers that fit into their slices are told apart by them. -/
theorem slices_inj {width count m n : Nat} (hm : m < 2 ^ (width * count))
    (hn : n < 2 ^ (width * count)) :
    slices width count m = slices width count n ↔ m = n := by
  refine ⟨fun eq => ?_, fun eq => eq ▸ rfl⟩
  induction count generalizing m n with
  | zero =>
    rw [Nat.mul_zero] at hm hn
    omega
  | succ count ih =>
    obtain ⟨earlier, last⟩ := List.append_inj' eq rfl
    rw [Nat.mul_succ, Nat.pow_add] at hm hn
    have high := ih (Nat.div_lt_of_lt_mul (Nat.mul_comm .. ▸ hm))
      (Nat.div_lt_of_lt_mul (Nat.mul_comm .. ▸ hn)) earlier
    have low : m % 2 ^ width = n % 2 ^ width := List.singleton_inj.1 last
    rw [← Nat.div_add_mod m (2 ^ width), high, low, Nat.div_add_mod]

/-! ## Arithmetic that loses nothing -/

section Arithmetic

variable {x y places : UInt16} {k : Nat}

/-- A shift to the left, where it loses no bit. -/
def shifted? (x places : UInt16) : Option UInt16 :=
  if places.toNat < 16 ∧ x.toNat * 2 ^ places.toNat < 2 ^ 16 then some (x <<< places) else none

/-- A sum, where it fits. -/
def sum? (x y : UInt16) : Option UInt16 :=
  if x.toNat + y.toNat < 2 ^ 16 then some (x + y) else none

theorem shifted?_of_fits (eq : places.toNat = k) (small : k < 16)
    (fits : x.toNat * 2 ^ k < 2 ^ 16) : shifted? x places = some (x <<< places) := by
  subst eq
  exact if_pos ⟨small, fits⟩

/-- Bits that are moved up are joined with the bits below them by adding. -/
theorem toNat_shiftLeft_or (eq : places.toNat = k) (small : k < 16)
    (fits : x.toNat * 2 ^ k < 2 ^ 16) (low : y.toNat < 2 ^ k) :
    (x <<< places ||| y).toNat = x.toNat * 2 ^ k + y.toNat := by
  rw [UInt16.toNat_or, UInt16.toNat_shiftLeft, eq, Nat.mod_eq_of_lt small, Nat.shiftLeft_eq,
    Nat.mod_eq_of_lt fits, Nat.mul_comm, Nat.two_pow_add_eq_or_of_lt low]

theorem toNat_shiftRight (b : UInt8) (eq : places.toNat = k) (small : k < 16) :
    (b.toUInt16 >>> places).toNat = b.toNat / 2 ^ k := by
  rw [UInt16.toNat_shiftRight, eq, Nat.mod_eq_of_lt small, Nat.shiftRight_eq_div_pow,
    UInt8.toNat_toUInt16]

theorem toNat_and (b : UInt8) {mask : UInt16} (ones : mask.toNat = 2 ^ k - 1) :
    (b.toUInt16 &&& mask).toNat = b.toNat % 2 ^ k := by
  rw [UInt16.toNat_and, ones, Nat.and_two_pow_sub_one_eq_mod, UInt8.toNat_toUInt16]

end Arithmetic

/-! ## The bits of a short code -/

namespace ShortCode

variable {c d : ShortCode}

/-- Bit `i` of a short code. -/
def bit (c : ShortCode) (i : Nat) : Bool := bitAt c.bytes i

/-- The number that the first `n` bits of a short code write. -/
def leading (c : ShortCode) (n : Nat) : Nat := c.toNat / 2 ^ (48 - n)

theorem leading_eq_iff (le : n ≤ 48) : c.leading n = d.leading n ↔ ∀ i < n, c.bit i = d.bit i :=
  natOfBytes_div_eq_iff (show c.bytes.length = d.bytes.length from rfl) le

theorem leading_lt (c : ShortCode) (le : n ≤ 48) : c.leading n < 2 ^ n := by
  have whole : 2 ^ 48 = 2 ^ (48 - n) * 2 ^ n := by rw [← Nat.pow_add, Nat.sub_add_cancel le]
  exact Nat.div_lt_of_lt_mul (whole ▸ natOfBytes_lt c.bytes)

theorem toNat_eq (c : ShortCode) : c.toNat =
    c.b₀.toNat * 2 ^ 40 + c.b₁.toNat * 2 ^ 32 + c.b₂.toNat * 2 ^ 24 + c.b₃.toNat * 2 ^ 16 +
      c.b₄.toNat * 2 ^ 8 + c.b₅.toNat := by
  simp only [toNat, natOfBytes, bytes, List.foldl_cons, List.foldl_nil]
  omega

/-- The pictures stand for the seven slices of six bits of the first 42 bits. -/
theorem emojiIndices_eq (c : ShortCode) : c.emojiIndices = slices 6 7 (c.leading 42) := by
  simp [emojiIndices, slices, leading, List.range_succ, Nat.div_div_eq_div_mul]

end ShortCode

/-! ## The three numbers -/

theorem sum?_thousand {x : UInt16} (lt : x.toNat < 2 ^ 13) : sum? x 1000 = some (x + 1000) := by
  have thousand : (1000 : UInt16).toNat = 1000 := rfl
  exact if_pos (by omega)

theorem toNat_add_thousand {x : UInt16} (lt : x.toNat < 2 ^ 13) :
    (x + 1000).toNat = x.toNat + 1000 := by
  have thousand : (1000 : UInt16).toNat = 1000 := rfl
  rw [UInt16.toNat_add, thousand, Nat.mod_eq_of_lt (by omega)]

/-- The three numbers in their order. -/
def Decimals.values (d : Decimals) : List Nat := [d.first.toNat, d.second.toNat, d.third.toNat]

namespace ShortCode

/-- The first number before it is raised. -/
def upper (c : ShortCode) : UInt16 := (c.b₀.toUInt16 <<< 5) ||| (c.b₁.toUInt16 >>> 3)

/-- The second number before it is raised. -/
def middle (c : ShortCode) : UInt16 :=
  ((c.b₁.toUInt16 &&& 0x7) <<< 10) ||| (c.b₂.toUInt16 <<< 2) ||| (c.b₃.toUInt16 >>> 6)

/-- The third number before it is raised. -/
def lower (c : ShortCode) : UInt16 := ((c.b₃.toUInt16 &&& 0x3f) <<< 7) ||| (c.b₄.toUInt16 >>> 1)

theorem decimals_eq (c : ShortCode) :
    c.decimals = ⟨c.upper + 1000, c.middle + 1000, c.lower + 1000⟩ := rfl

/-! ### Their bits -/

theorem toNat_upper (c : ShortCode) : c.upper.toNat = c.b₀.toNat * 2 ^ 5 + c.b₁.toNat / 2 ^ 3 := by
  have := c.b₀.toNat_lt
  have := c.b₁.toNat_lt
  have high : c.b₀.toUInt16.toNat = c.b₀.toNat := UInt8.toNat_toUInt16 _
  have low : (c.b₁.toUInt16 >>> 3).toNat = c.b₁.toNat / 2 ^ 3 :=
    toNat_shiftRight _ rfl (by decide)
  rw [upper, toNat_shiftLeft_or (k := 5) rfl (by decide) (by omega) (by omega), high, low]

theorem toNat_middle (c : ShortCode) : c.middle.toNat =
    c.b₁.toNat % 2 ^ 3 * 2 ^ 10 + c.b₂.toNat * 2 ^ 2 + c.b₃.toNat / 2 ^ 6 := by
  have := c.b₂.toNat_lt
  have := c.b₃.toNat_lt
  have high : (c.b₁.toUInt16 &&& 0x7).toNat = c.b₁.toNat % 2 ^ 3 := toNat_and _ rfl
  have mid : c.b₂.toUInt16.toNat = c.b₂.toNat := UInt8.toNat_toUInt16 _
  have low : (c.b₃.toUInt16 >>> 6).toNat = c.b₃.toNat / 2 ^ 6 :=
    toNat_shiftRight _ rfl (by decide)
  have inner : (c.b₂.toUInt16 <<< 2 ||| c.b₃.toUInt16 >>> 6).toNat =
      c.b₂.toNat * 2 ^ 2 + c.b₃.toNat / 2 ^ 6 := by
    rw [toNat_shiftLeft_or (k := 2) rfl (by decide) (by omega) (by omega), mid, low]
  rw [middle, UInt16.or_assoc,
    toNat_shiftLeft_or (k := 10) rfl (by decide) (by omega) (by omega), high, inner, Nat.add_assoc]

theorem toNat_lower (c : ShortCode) :
    c.lower.toNat = c.b₃.toNat % 2 ^ 6 * 2 ^ 7 + c.b₄.toNat / 2 ^ 1 := by
  have := c.b₄.toNat_lt
  have high : (c.b₃.toUInt16 &&& 0x3f).toNat = c.b₃.toNat % 2 ^ 6 := toNat_and _ rfl
  have low : (c.b₄.toUInt16 >>> 1).toNat = c.b₄.toNat / 2 ^ 1 :=
    toNat_shiftRight _ rfl (by decide)
  rw [lower, toNat_shiftLeft_or (k := 7) rfl (by decide) (by omega) (by omega), high, low]

/-- Before they are raised, the numbers are the slices of thirteen bits of the first 39 bits. -/
theorem slices_leading (c : ShortCode) :
    slices 13 3 (c.leading 39) = [c.upper.toNat, c.middle.toNat, c.lower.toNat] := by
  have := c.b₀.toNat_lt
  have := c.b₁.toNat_lt
  have := c.b₂.toNat_lt
  have := c.b₃.toNat_lt
  have := c.b₄.toNat_lt
  have := c.b₅.toNat_lt
  have whole := c.toNat_eq
  simp only [slices, leading, List.nil_append, List.cons_append, toNat_upper, toNat_middle,
    toNat_lower, List.cons.injEq, and_true]
  refine ⟨?_, ?_, ?_⟩ <;> omega

theorem parts_lt (c : ShortCode) :
    c.upper.toNat < 2 ^ 13 ∧ c.middle.toNat < 2 ^ 13 ∧ c.lower.toNat < 2 ^ 13 := by
  have small : ∀ s ∈ [c.upper.toNat, c.middle.toNat, c.lower.toNat], s < 2 ^ 13 := by
    rw [← slices_leading]
    exact fun s => lt_of_mem_slices
  simpa using small

/-- The numbers are the slices of thirteen bits of the first 39 bits, raised by 1000. -/
theorem values_decimals (c : ShortCode) :
    c.decimals.values = (slices 13 3 (c.leading 39)).map (· + 1000) := by
  obtain ⟨upper, middle, lower⟩ := c.parts_lt
  rw [slices_leading, decimals_eq, Decimals.values, toNat_add_thousand upper,
    toNat_add_thousand middle, toNat_add_thousand lower]
  rfl

/-! ### Their computation -/

/-- The first number before it is raised, with a guard at every shift to the left. -/
def upper? (c : ShortCode) : Option UInt16 := do
  return (← shifted? c.b₀.toUInt16 5) ||| (c.b₁.toUInt16 >>> 3)

/-- The second number before it is raised, with a guard at every shift to the left. -/
def middle? (c : ShortCode) : Option UInt16 := do
  return (← shifted? (c.b₁.toUInt16 &&& 0x7) 10) ||| (← shifted? c.b₂.toUInt16 2) |||
    (c.b₃.toUInt16 >>> 6)

/-- The third number before it is raised, with a guard at every shift to the left. -/
def lower? (c : ShortCode) : Option UInt16 := do
  return (← shifted? (c.b₃.toUInt16 &&& 0x3f) 7) ||| (c.b₄.toUInt16 >>> 1)

/-- The numbers, with a guard at every shift to the left and at every sum. -/
def decimals? (c : ShortCode) : Option Decimals := do
  return ⟨← sum? (← c.upper?) 1000, ← sum? (← c.middle?) 1000, ← sum? (← c.lower?) 1000⟩

theorem upper?_eq (c : ShortCode) : c.upper? = some c.upper := by
  have := c.b₀.toNat_lt
  have high : c.b₀.toUInt16.toNat = c.b₀.toNat := UInt8.toNat_toUInt16 _
  rw [upper?, shifted?_of_fits (k := 5) rfl (by decide) (by omega)]
  rfl

theorem middle?_eq (c : ShortCode) : c.middle? = some c.middle := by
  have := c.b₂.toNat_lt
  have high : (c.b₁.toUInt16 &&& 0x7).toNat = c.b₁.toNat % 2 ^ 3 := toNat_and _ rfl
  have mid : c.b₂.toUInt16.toNat = c.b₂.toNat := UInt8.toNat_toUInt16 _
  rw [middle?, shifted?_of_fits (k := 10) rfl (by decide) (by omega),
    shifted?_of_fits (k := 2) rfl (by decide) (by omega)]
  rfl

theorem lower?_eq (c : ShortCode) : c.lower? = some c.lower := by
  have high : (c.b₃.toUInt16 &&& 0x3f).toNat = c.b₃.toNat % 2 ^ 6 := toNat_and _ rfl
  rw [lower?, shifted?_of_fits (k := 7) rfl (by decide) (by omega)]
  rfl

/-- No guard stops the numbers: no bit is shifted out and no sum overflows. -/
theorem decimals?_eq (c : ShortCode) : c.decimals? = some c.decimals := by
  obtain ⟨upper, middle, lower⟩ := c.parts_lt
  rw [decimals?, upper?_eq, middle?_eq, lower?_eq]
  simp only [Option.bind_eq_bind, Option.bind_some, sum?_thousand upper, sum?_thousand middle,
    sum?_thousand lower]
  rfl

end ShortCode

end DeviceVerification
