/-!
# Decimals and floating-point numbers

A decimal is read as the nearest double.  A positive double is `mantissa · 2 ^ power`, and the real
numbers nearer to it than to any other double form an interval around it.  Its shortest decimal has
the fewest digits among the decimals inside that interval and, among those, lies nearest to the
number.  The arithmetic on the way to a decimal is exact.
-/

namespace ShadowLint
namespace Decimal

/-- Positive infinity. -/
def infinity : Float := 1.0 / 0.0

/-- The value that is not a number. -/
def notANumber : Float := 0.0 / 0.0

/-- The double nearest to the non-negative decimal `digits · 10 ^ exponent`.  It is infinite beyond
the range of doubles and zero too close to zero, so that no power of ten larger than the range needs
is ever computed. -/
def nearest (digits : Nat) (exponent : Int) : Float :=
  let magnitude := (toString digits).length + exponent
  if digits = 0 ∨ magnitude < -400 then
    0.0
  else if 400 < magnitude then
    infinity
  else if exponent < 0 then
    Float.ofScientific digits true exponent.natAbs
  else
    Float.ofScientific digits false exponent.natAbs

/-- The double nearest to a decimal with a sign. -/
def nearestSigned (negative : Bool) (digits : Nat) (exponent : Int) : Float :=
  if negative then -nearest digits exponent else nearest digits exponent

/-- A power of two. -/
def powerOfTwo (exponent : Nat) : Nat := Nat.pow 2 exponent

/-- A power of ten. -/
def powerOfTen (exponent : Nat) : Nat := Nat.pow 10 exponent

/-- The positive number `mantissa · 2 ^ power`, where `atBoundary` tells that the next smaller
double is only half as far away as the next larger one. -/
structure Binary where
  /-- The significant bits. -/
  mantissa : Nat
  /-- The power of two that they count. -/
  power : Int
  /-- Whether the double below lies nearer than the double above. -/
  atBoundary : Bool
deriving Repr

/-- The decimal `digits · 10 ^ exponent`. -/
structure Scaled where
  /-- The significant digits, written as one number. -/
  digits : Nat
  /-- The power of ten that they count. -/
  exponent : Int
deriving DecidableEq, Repr

namespace Binary

/-- The finite positive double with the given bits. -/
def ofBits (bits : Nat) : Binary :=
  let fraction := bits % powerOfTwo 52
  let biased : Nat := bits / powerOfTwo 52 % powerOfTwo 11
  if biased = 0 then
    ⟨fraction, -1074, false⟩
  else
    ⟨powerOfTwo 52 + fraction, (biased : Int) - 1075, fraction == 0 && decide (1 < biased)⟩

/-- The number with `quarters` quarters of its unit in place of the mantissa, counted in units of
`10 ^ exponent`, as a fraction of two natural numbers. -/
def ratio (number : Binary) (quarters : Nat) (exponent : Int) : Nat × Nat :=
  (quarters * powerOfTwo (number.power - 2).toNat * powerOfTen (-exponent).toNat,
    powerOfTwo (2 - number.power).toNat * powerOfTen exponent.toNat)

/-- The number of digits before the decimal point; for a number below one tenth, minus the number
of zeros after the point. -/
def pointPlace (number : Binary) : Int :=
  let (numerator, denominator) := number.ratio (4 * number.mantissa) 0
  if denominator ≤ numerator then
    (Nat.toDigits 10 (numerator / denominator)).length
  else
    let places := (Nat.toDigits 10 (denominator / numerator)).length
    if denominator = numerator * powerOfTen (places - 1) then 2 - places else 1 - places

/-- Whether `digits · 10 ^ exponent` is read as this number: it lies between the midpoints to the
neighbouring doubles, or on one of them if the mantissa is even. -/
def reads (number : Binary) (exponent : Int) (digits : Nat) : Bool :=
  let below := 4 * number.mantissa - (if number.atBoundary then 1 else 2)
  let (low, lowUnit) := number.ratio below exponent
  let (high, highUnit) := number.ratio (4 * number.mantissa + 2) exponent
  if number.mantissa % 2 = 0 then
    decide (low ≤ digits * lowUnit) && decide (digits * highUnit ≤ high)
  else
    decide (low < digits * lowUnit) && decide (digits * highUnit < high)

/-- The better of the two decimals next to the number among the multiples of `10 ^ exponent`, if
one of them is read as the number.  The nearer one is better; of two equally near, the even one. -/
def onGrid? (number : Binary) (exponent : Int) : Option Scaled :=
  let (numerator, denominator) := number.ratio (4 * number.mantissa) exponent
  let lower := numerator / denominator
  let remainder := numerator % denominator
  let lowerNearer :=
    2 * remainder < denominator ∨ (2 * remainder = denominator ∧ lower % 2 = 0)
  match number.reads exponent lower, number.reads exponent (lower + 1) with
  | true, true => some ⟨if lowerNearer then lower else lower + 1, exponent⟩
  | true, false => some ⟨lower, exponent⟩
  | false, true => some ⟨lower + 1, exponent⟩
  | false, false => none

/-- The shortest decimal of the number: seventeen digits always suffice. -/
def shortest (number : Binary) : Scaled :=
  let place := number.pointPlace
  ((List.range 17).findSome? fun (more : Nat) => number.onGrid? (place - 1 - more)).getD ⟨0, 0⟩

end Binary

/-- The same decimal without zeros at the end of its digits. -/
def Scaled.trimmed (decimal : Scaled) : Scaled :=
  let zeros := ((Nat.toDigits 10 decimal.digits).reverse.takeWhile (· == '0')).length
  ⟨decimal.digits / powerOfTen zeros, decimal.exponent + zeros⟩

end Decimal
end ShadowLint
