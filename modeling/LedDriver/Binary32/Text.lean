import LedDriver.Binary32.Shortest

/-!
# Text of floating-point numbers

A number is written with the digits of its shortest decimal.  A `Layout` says the rest: which
numbers are written without an exponent, and whether a whole number keeps a fraction digit.  Two
layouts are in use, one for messages and one for records.
-/

namespace LedDriver

namespace Decimal

/-- Digits with the point in its place, and zeros where digits are missing.  A whole number is
followed by `wholeEnd`. -/
def positional (d : Decimal) (wholeEnd : String) : String :=
  if d.point ≤ 0 then
    "0." ++ String.ofList (List.replicate (-d.point).toNat '0' ++ d.digits)
  else
    let place := d.point.toNat
    if d.digits.length ≤ place then
      String.ofList (d.digits ++ List.replicate (place - d.digits.length) '0') ++ wholeEnd
    else
      String.ofList (d.digits.take place) ++ "." ++ String.ofList (d.digits.drop place)

/-- One digit, the other digits behind a point, and the power of ten. -/
def scientific (d : Decimal) : String :=
  let fraction := d.digits.drop 1
  String.ofList (d.digits.take 1)
    ++ (if fraction.isEmpty then "" else "." ++ String.ofList fraction)
    ++ "e" ++ toString (d.point - 1)

end Decimal

namespace Binary32

/-- The decisions of a text form: the magnitudes written without an exponent, from `least` up to but
not including `bound`, and what follows the digits of a whole number. -/
structure Layout where
  least : Nat
  bound : Nat
  wholeEnd : String

/-- In a message every number is written without an exponent, and a whole number as such. -/
def Layout.message : Layout := ⟨0, infiniteMagnitude, ""⟩

/-- In a record the numbers from 0.0001 up to 10 ^ 16 are written without an exponent, and a whole
number keeps one fraction digit. -/
def Layout.record : Layout := ⟨0x38D1B717, 0x5A0E1BCA, ".0"⟩

/-- The text of the size of a number other than NaN. -/
def sizeText (layout : Layout) (x : Binary32) : String :=
  if x.isInfinite then "inf"
  else if x.isZero then "0" ++ layout.wholeEnd
  else if layout.least ≤ x.magnitude ∧ x.magnitude < layout.bound then
    x.shortest.positional layout.wholeEnd
  else x.shortest.scientific

/-- The text of a number.  The sign of a zero is shown; the sign of NaN is not. -/
def text (layout : Layout) (x : Binary32) : String :=
  if x.isNaN then "NaN"
  else (if x.negative then "-" else "") ++ x.sizeText layout

end Binary32

end LedDriver
