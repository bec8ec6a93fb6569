/-!
# Binary floating-point numbers of 32 bits

A number is its bit pattern: a sign bit, eight exponent bits and twenty-three fraction bits.  The
pattern less its sign bit is the `magnitude`; it grows with the size of the number, so that numbers
other than NaN are ordered by their magnitude taken with their sign.  Under this order the two zeros
are equal, and a comparison in which NaN takes part is false.
-/

namespace LedDriver

/-- A binary floating-point number, given by its 32-bit pattern. -/
structure Binary32 where
  bits : UInt32
deriving DecidableEq

namespace Binary32

/-- Positive zero. -/
def zero : Binary32 := ⟨0⟩

/-- One hundred. -/
def hundred : Binary32 := ⟨0x42C80000⟩

instance : Inhabited Binary32 := ⟨zero⟩

/-- The sign bit is set. -/
def negative (x : Binary32) : Bool := Nat.pow 2 31 ≤ x.bits.toNat

/-- The bit pattern without its sign bit. -/
def magnitude (x : Binary32) : Nat := x.bits.toNat % Nat.pow 2 31

/-- The magnitude of the infinities: all exponent bits and no fraction bit. -/
def infiniteMagnitude : Nat := 0x7F800000

/-- The pattern stands for no number. -/
def isNaN (x : Binary32) : Bool := infiniteMagnitude < x.magnitude

/-- The pattern stands for an infinity of either sign. -/
def isInfinite (x : Binary32) : Bool := x.magnitude == infiniteMagnitude

/-- The pattern stands for zero of either sign. -/
def isZero (x : Binary32) : Bool := x.magnitude == 0

/-- The place of a number in the order: its magnitude with its sign. -/
def rank (x : Binary32) : Int := if x.negative then -(x.magnitude : Int) else x.magnitude

/-- A number is at most another; false if either is NaN. -/
def le (x y : Binary32) : Bool := !x.isNaN && !y.isNaN && decide (x.rank ≤ y.rank)

/-- A number is less than another; false if either is NaN. -/
def lt (x y : Binary32) : Bool := !x.isNaN && !y.isNaN && decide (x.rank < y.rank)

/-- The exponent bits. -/
def exponentBits (x : Binary32) : Nat := x.magnitude / Nat.pow 2 23

/-- The fraction bits. -/
def fractionBits (x : Binary32) : Nat := x.magnitude % Nat.pow 2 23

/-- The whole number whose product with a power of two is the size of a finite number: the fraction
bits, below a leading one unless the exponent bits are all zero. -/
def significand (x : Binary32) : Nat :=
  if x.exponentBits = 0 then x.fractionBits else Nat.pow 2 23 + x.fractionBits

/-- The exponent of that power of two. -/
def exponent (x : Binary32) : Int := (max x.exponentBits 1 : Int) - 150

end Binary32

end LedDriver
