import DeviceVerification.Decimal

/-!
# Binary fractions with 53 bits

`Binary64` is the magnitude of a finite IEEE 754 double. `nearest?` rounds a quotient to it, a tie
going to the even mantissa, and `shortest` finds the fewest decimal digits that round back. All of
it is exact arithmetic on natural numbers.
-/

namespace DeviceVerification

/-- The magnitude `mantissa * 2 ^ exponent` of a finite double: the mantissa has 53 bits, or fewer
at the least exponent. -/
structure Binary64 where
  mantissa : Nat
  exponent : Int
  deriving DecidableEq, Repr

namespace Binary64

/-- The power `2 ^ k`. -/
def twoPow (k : Nat) : Nat := Nat.pow 2 k

/-- The power `10 ^ k`. -/
def tenPow (k : Nat) : Nat := Nat.pow 10 k

/-- The least exponent. -/
def minExponent : Int := -1074

/-- The greatest exponent. -/
def maxExponent : Int := 971

/-- The magnitude of zero. -/
def zero : Binary64 := ⟨0, minExponent⟩

/-- The quotient `num / den` rounded to the nearest integer, a tie going to the even one. -/
def roundDiv (num den : Nat) : Nat :=
  let q := num / den
  let r := num % den
  if 2 * r < den then q else if den < 2 * r then q + 1 else q + q % 2

/-- The quotient `num / den / 2 ^ e` as a numerator and a denominator. -/
def scaled (num den : Nat) (e : Int) : Nat × Nat :=
  if 0 ≤ e then (num, den * twoPow e.toNat) else (num * twoPow (-e).toNat, den)

/-- The double nearest to `num / den`; none if the quotient is too large. -/
def nearest? (num den : Nat) : Option Binary64 :=
  if num = 0 then some zero
  else
    let guess : Int := (num.log2 : Int) - den.log2 - 52
    let (n, d) := scaled num den guess
    let e := max minExponent (if n / d < twoPow 52 then guess - 1 else guess)
    let (n, d) := scaled num den e
    let m := roundDiv n d
    let rounded : Binary64 := if m = twoPow 53 then ⟨twoPow 52, e + 1⟩ else ⟨m, e⟩
    if maxExponent < rounded.exponent then none else some rounded

/-- The magnitude as a numerator and a denominator. -/
def fraction (x : Binary64) : Nat × Nat :=
  if 0 ≤ x.exponent then (x.mantissa * twoPow x.exponent.toNat, 1)
  else (x.mantissa, twoPow (-x.exponent).toNat)

/-- The rounded product. -/
def mul? (x y : Binary64) : Option Binary64 :=
  nearest? (x.fraction.1 * y.fraction.1) (x.fraction.2 * y.fraction.2)

/-- The rounded quotient. -/
def div? (x y : Binary64) : Option Binary64 :=
  nearest? (x.fraction.1 * y.fraction.2) (x.fraction.2 * y.fraction.1)

/-- The greatest power of ten that is a double. -/
def maxPower : Nat := 308

/-- `x / 10 ^ k`, divided by at most `10 ^ 308` at a time. -/
def divPower (x : Binary64) (k : Nat) : Binary64 :=
  let step (k : Nat) : Binary64 := ((nearest? (tenPow k) 1).bind x.div?).getD zero
  if k ≤ maxPower then step k
  else if x.mantissa = 0 then x
  else divPower (step maxPower) (k - maxPower)
  termination_by k
  decreasing_by simp only [maxPower] at *; omega

/-- The reading of `significand * 10 ^ exponent`: the significand is rounded first and scaled by
rounded powers of ten afterwards. None if the number is too large. -/
def ofDecimal? (significand : Nat) (exponent : Int) : Option Binary64 := do
  let x ← nearest? significand 1
  if 0 ≤ exponent then
    if x.mantissa = 0 then some x
    else if maxPower < exponent.toNat then none
    else x.mul? (← nearest? (tenPow exponent.toNat) 1)
  else some (x.divPower (-exponent).toNat)

/-- A decimal `digits * 10 ^ exponent`. -/
structure Shortest where
  digits : Nat
  exponent : Int
  deriving DecidableEq, Repr

/-- The position of the leading decimal digit of `num / den`: the `p` with
`10 ^ (p - 1) ≤ num / den < 10 ^ p`. -/
def magnitude (num den : Nat) : Int :=
  if den ≤ num then (Decimal.digits (num / den)).length
  else
    match (List.range 330).find? fun t => den ≤ num * tenPow t with
    | some t => 1 - (t : Int)
    | none => 0

/-- The multiple `k` of `10 ^ e` that is nearest to `num / den`, if one of its two neighbours there
lies between the bounds `low / den` and `high / den`. -/
def onGrid (low num high den : Nat) (closed : Bool) (e : Int) : Option Nat :=
  let up := if 0 ≤ e then 1 else tenPow (-e).toNat
  let down := if 0 ≤ e then tenPow e.toNat else 1
  let unit := den * down
  let inside (k : Nat) : Bool :=
    if closed then decide (low * up ≤ k * unit) && decide (k * unit ≤ high * up)
    else decide (low * up < k * unit) && decide (k * unit < high * up)
  let k := num * up / unit
  let below := num * up - k * unit
  let above := (k + 1) * unit - num * up
  let nearer := if below < above then k else if above < below then k + 1 else k + k % 2
  let other := if nearer = k then k + 1 else k
  if inside nearer then some nearer else if inside other then some other else none

/-- Drops the zeros at the end of the digits. -/
def dropZeros : (fuel : Nat) → Shortest → Shortest
  | 0, s => s
  | fuel + 1, s =>
    if s.digits % 10 = 0 ∧ s.digits ≠ 0 then dropZeros fuel ⟨s.digits / 10, s.exponent + 1⟩ else s

/-- The decimal with the fewest digits among those that round to a positive magnitude, and of these
the nearest. -/
def shortest (x : Binary64) : Shortest :=
  let quarter : Binary64 := ⟨4 * x.mantissa, x.exponent - 2⟩
  let (num, den) := quarter.fraction
  let unit := num / (4 * x.mantissa)
  let narrow := x.mantissa = twoPow 52 ∧ minExponent < x.exponent
  let low := num - (if narrow then unit else 2 * unit)
  let high := num + 2 * unit
  let closed := x.mantissa % 2 = 0
  let p := magnitude num den
  let hit := (List.range 17).findSome? fun i =>
    let e := p - (i + 1 : Nat)
    (onGrid low num high den closed e).map fun k => Shortest.mk k e
  dropZeros 20 (hit.getD ⟨0, 0⟩)

end Binary64

end DeviceVerification
