/-!
# Binary floating-point numbers

Single- and double-precision numbers are held as their bits, so that a NaN payload and the sign of
a zero survive whatever is done with them. The bits are interpreted in two places only: to compare
two numbers, and to print one.

Apart from the NaNs the numbers of either width lie on a line. The `rank` of a number is its
position there: the magnitude bits read as a natural number, counted downwards for negative
numbers. Both zeros have rank `0`, so comparing ranks is comparing numbers.
-/

namespace SearchWire

/-- A single-precision number, held as its bits. -/
structure Binary32 where
  bits : UInt32
deriving DecidableEq, Repr, Inhabited

/-- A double-precision number, held as its bits. -/
structure Binary64 where
  bits : UInt64
deriving DecidableEq, Repr, Inhabited

namespace Binary32

/-- The bits without the sign. -/
def magnitude (x : Binary32) : Nat := x.bits.toNat % 0x80000000

/-- Whether the sign bit is set. -/
def isNegative (x : Binary32) : Bool := 0x80000000 ≤ x.bits.toNat

/-- Whether the bits stand for no number: all exponent bits are set and a fraction bit is. -/
def isNaN (x : Binary32) : Bool := 0x7f800000 < x.magnitude

/-- The position among the numbers, both zeros at `0`. -/
def rank (x : Binary32) : Int := if x.isNegative then -x.magnitude else x.magnitude

/-- Numerical equality: a NaN equals nothing, and the two zeros are equal. -/
def eq (x y : Binary32) : Bool := !x.isNaN && !y.isNaN && x.rank == y.rank

/-- The number one. -/
def one : Binary32 := ⟨0x3f800000⟩

end Binary32

namespace Binary64

/-- The bits without the sign. -/
def magnitude (x : Binary64) : Nat := x.bits.toNat % 0x8000000000000000

/-- Whether the sign bit is set. -/
def isNegative (x : Binary64) : Bool := 0x8000000000000000 ≤ x.bits.toNat

/-- How many fractions there are: the fraction takes up the 52 low-order bits. -/
def fractionCount : Nat := 0x10000000000000

/-- The magnitude of the infinities; every greater one belongs to a NaN. -/
def infinityMagnitude : Nat := 0x7ff0000000000000

/-- Whether the bits stand for no number: all exponent bits are set and a fraction bit is. -/
def isNaN (x : Binary64) : Bool := infinityMagnitude < x.magnitude

/-- The position among the numbers, both zeros at `0`. -/
def rank (x : Binary64) : Int := if x.isNegative then -x.magnitude else x.magnitude

/-- Numerical equality: a NaN equals nothing, and the two zeros are equal. -/
def eq (x y : Binary64) : Bool := !x.isNaN && !y.isNaN && x.rank == y.rank

/-- Whether the number lies above zero. -/
def isPositive (x : Binary64) : Bool := !x.isNaN && 0 < x.rank

/-- Whether the number is zero, of either sign, or lies above it. -/
def isNonnegative (x : Binary64) : Bool := !x.isNaN && 0 ≤ x.rank

/-- Positive infinity. -/
def infinity : Binary64 := ⟨0x7ff0000000000000⟩

/-- Negative infinity. -/
def negInfinity : Binary64 := ⟨0xfff0000000000000⟩

end Binary64

end SearchWire
