import LedDriver.Binary32.Basic

/-!
# Shortest decimals

Every finite number other than zero is the only one that a certain interval of reals rounds to.  The
shortest decimal of a number is the decimal with the fewest digits in that interval, and of those
the one nearest to the number.  All is computed in natural numbers: the number, the ends of its
interval and the decimal grid are brought to one denominator first.

For each count of digits the grid points to look at are the two neighbours of the number, since a
grid point in the interval has a neighbour of the number between it and the number.
-/

namespace LedDriver

/-- The decimal 0.d₁d₂…dₙ · 10 ^ `point`, by its digits. -/
structure Decimal where
  digits : List Char
  point : Int
deriving DecidableEq

/-- A positive number with the interval of reals that round to it, all over one denominator. -/
structure RoundingInterval where
  low : Nat
  value : Nat
  high : Nat
  denominator : Nat
  /-- The ends belong to the interval. -/
  closed : Bool

namespace RoundingInterval

/-- The numerator of a fraction lies in the interval over `denominator * scale`. -/
def admits (r : RoundingInterval) (scale numerator : Nat) : Bool :=
  if r.closed then r.low * scale ≤ numerator && numerator ≤ r.high * scale
  else r.low * scale < numerator && numerator < r.high * scale

/-- The number of digits before the point of the number's integer part; for a number below one,
minus the number of zeros that follow the point. -/
def digitsBeforePoint (r : RoundingInterval) : Int :=
  if r.denominator ≤ r.value then (Nat.toDigits 10 (r.value / r.denominator)).length
  else 1 - ((Nat.toDigits 10 ((r.denominator - 1) / r.value)).length : Int)

/-- The best decimal of a given count of digits, if one lies in the interval.
A number half way between its two neighbours goes to the upper one. -/
def decimalOf? (r : RoundingInterval) (count : Nat) : Option Decimal :=
  let place := r.digitsBeforePoint - count
  let unit := Nat.pow 10 place.toNat
  let scale := Nat.pow 10 (-place).toNat
  let value := r.value * scale
  let step := r.denominator * unit
  let lower := value / step
  let upper := lower + 1
  let below := r.admits scale (lower * step)
  let above := r.admits scale (upper * step)
  let chosen? :=
    if below && above then
      some (if value - lower * step < upper * step - value then lower else upper)
    else if below then some lower
    else if above then some upper
    else none
  chosen?.map fun n =>
    let digits := Nat.toDigits 10 n
    ⟨(digits.reverse.dropWhile (· == '0')).reverse, place + digits.length⟩

end RoundingInterval

namespace Binary32

/-- The interval of a finite number other than zero.  Its ends lie half way to the neighbours; the
lower neighbour of a power of two is nearer unless the number is among the smallest. -/
def interval (x : Binary32) : RoundingInterval :=
  let unit := Nat.pow 2 (x.exponent - 2).toNat
  let denominator := Nat.pow 2 (2 - x.exponent).toNat
  let gapBelow := if x.fractionBits = 0 ∧ 1 < x.exponentBits then 1 else 2
  { low := (4 * x.significand - gapBelow) * unit
    value := 4 * x.significand * unit
    high := (4 * x.significand + 2) * unit
    denominator := denominator
    closed := x.significand % 2 = 0 }

/-- The shortest decimal that reads back as a given finite number other than zero; nine digits
always suffice. -/
def shortest (x : Binary32) : Decimal :=
  ((List.range 9).findSome? fun n => x.interval.decimalOf? (n + 1)).getD ⟨[], 0⟩

end Binary32

end LedDriver
