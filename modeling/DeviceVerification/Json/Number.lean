import DeviceVerification.Json.Binary64

/-!
# Numbers of a JSON document

A literal without fraction and exponent is an integer if 64 bits hold it; every other literal is a
double. Floats are written with their fewest digits: positionally from `1e-5` up to below `1e16`,
with a `.0` if they are integral, and with a signed exponent otherwise.
-/

namespace DeviceVerification

/-- A number of a document. -/
inductive Number where
  | integer (value : Int)
  | float (negative : Bool) (magnitude : Binary64)
  deriving DecidableEq, Repr

namespace Number

/-- The greatest integer that a document can hold. -/
def maxInteger : Nat := UInt64.size - 1

/-- The magnitude of the least integer that a document can hold. -/
def minMagnitude : Nat := UInt64.size / 2

/-- Takes digits into a significand as long as 64 bits hold it. The second component counts the
digits that are left over. -/
def absorb : (significand : Nat) → List Nat → Nat × Nat
  | s, [] => (s, 0)
  | s, d :: ds => if maxInteger < s * 10 + d then (s, ds.length + 1) else absorb (s * 10 + d) ds

/-- The parts of a number literal. -/
structure Literal where
  negative : Bool
  whole : List Nat
  fraction : Option (List Nat)
  exponent : Option Int
  deriving DecidableEq, Repr

/-- The value of a literal; none if it is too large. -/
def Literal.value? (l : Literal) : Option Number :=
  let (s, dropped) := absorb 0 l.whole
  match l.fraction, l.exponent, dropped with
  | none, none, 0 =>
    if l.negative = false then some (.integer s)
    else if s = 0 ∨ minMagnitude < s then
      (Binary64.ofDecimal? s 0).map (.float true)
    else some (.integer (-s))
  | fraction, exponent, dropped =>
    let digits := fraction.getD []
    let (s, rest) := absorb s digits
    let scale : Int := (dropped : Int) - (digits.length - rest : Nat) + exponent.getD 0
    (Binary64.ofDecimal? s scale).map (.float l.negative)

/-- The digits at the front of a text and the rest of it. -/
def takeDigits : List Char → List Nat × List Char
  | [] => ([], [])
  | c :: cs =>
    match Decimal.digitValue? c with
    | some d => ((d :: (takeDigits cs).1), (takeDigits cs).2)
    | none => ([], c :: cs)

/-- The exponent of a literal, which is all that is left of it. -/
def exponent? (cs : List Char) : Option (Option Int) :=
  let digits? (cs : List Char) : Option Nat :=
    match takeDigits cs with
    | (d :: ds, []) => some (Decimal.ofDigitValues (d :: ds))
    | _ => none
  match cs with
  | [] => some none
  | c :: rest =>
    if c = 'e' ∨ c = 'E' then
      match rest with
      | '+' :: rest => (digits? rest).map fun n => some n
      | '-' :: rest => (digits? rest).map fun n => some (-n)
      | rest => (digits? rest).map fun n => some n
    else none

/-- The literal that a text consists of: no leading zeros, and a digit on both sides of a point. -/
def literal? (cs : List Char) : Option Literal :=
  let (negative, cs) := match cs with
    | '-' :: cs => (true, cs)
    | cs => (false, cs)
  match takeDigits cs with
  | ([], _) => none
  | (d :: ds, rest) =>
    if d = 0 ∧ ds ≠ [] then none
    else
      match rest with
      | '.' :: rest =>
        match takeDigits rest with
        | ([], _) => none
        | (f :: fs, rest) =>
          (exponent? rest).map fun e => ⟨negative, d :: ds, some (f :: fs), e⟩
      | rest => (exponent? rest).map fun e => ⟨negative, d :: ds, none, e⟩

/-- The text of an exponent, which always has a sign. -/
def writeExponent (n : Int) : List Char :=
  'e' :: (if n < 0 then '-' else '+') :: Decimal.digits n.natAbs

/-- The text of a decimal: the point is among the digits or next to them where that takes at most
sixteen places before it or five zeros behind it. -/
def writeShortest (s : Binary64.Shortest) : List Char :=
  let digits := Decimal.digits s.digits
  let point : Int := digits.length + s.exponent
  if 0 ≤ s.exponent ∧ point ≤ 16 then
    digits ++ List.replicate s.exponent.toNat '0' ++ ['.', '0']
  else if 0 < point ∧ point ≤ 16 then
    digits.take point.toNat ++ '.' :: digits.drop point.toNat
  else if -5 < point ∧ point ≤ 0 then
    '0' :: '.' :: List.replicate (-point).toNat '0' ++ digits
  else
    match digits with
    | [d] => d :: writeExponent (point - 1)
    | d :: ds => d :: '.' :: ds ++ writeExponent (point - 1)
    | [] => []

/-- The text of a number. -/
def write : Number → List Char
  | .integer n => if n < 0 then '-' :: Decimal.digits n.natAbs else Decimal.digits n.natAbs
  | .float negative m =>
    let text := if m.mantissa = 0 then ['0', '.', '0'] else writeShortest m.shortest
    if negative then '-' :: text else text

end Number

end DeviceVerification
