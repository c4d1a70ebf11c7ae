/-
**Binary floating point with 53 bits, in exact arithmetic.**

A finite value is a sign, a significand and an exponent of two. `nearest` is the value nearest to a
quotient of natural numbers, ties go to the even significand, and nothing is near to what lies beyond
the largest value; `times` and `dividedBy` are multiplication and division, rounded once.
-/

namespace SecretSource.Number

/-- A finite value: `significand * 2 ^ exponent`, negative or not. Values made by `nearest` have the
least exponent from -1074 on that leaves the significand below 2 ^ 53. -/
structure Binary64 where
  negative : Bool
  significand : Nat
  exponent : Int
deriving DecidableEq, Repr

namespace Binary64

/-- A quotient of natural numbers times a power of two, as a numerator and a denominator. -/
def scaled (numerator denominator : Nat) (power : Int) : Nat × Nat :=
  if 0 ≤ power then (numerator * Nat.pow 2 power.toNat, denominator)
  else (numerator, denominator * Nat.pow 2 (-power).toNat)

/-- The greatest power of two that is not above a positive quotient. -/
def floorLog (numerator denominator : Nat) : Int :=
  let guess : Int := Int.ofNat numerator.log2 - Int.ofNat denominator.log2
  let (top, bottom) := scaled numerator denominator (-guess)
  if bottom ≤ top then guess else guess - 1

/-- The natural number nearest to a quotient, ties to even. -/
def roundHalfEven (numerator denominator : Nat) : Nat :=
  let whole := numerator / denominator
  let rest := numerator % denominator
  if 2 * rest < denominator ∨ (2 * rest = denominator ∧ whole % 2 = 0) then whole else whole + 1

/-- The least significand of a value that has all its 53 bits: 2 ^ 52. -/
def hiddenBit : Nat := 4503599627370496

/-- The value nearest to a quotient, or none if that lies beyond the largest value. -/
def nearest (negative : Bool) (numerator denominator : Nat) : Option Binary64 :=
  if numerator = 0 then some ⟨negative, 0, -1074⟩
  else
    let exponent := max (floorLog numerator denominator - 52) (-1074)
    let (top, bottom) := scaled numerator denominator (-exponent)
    let rounded := roundHalfEven top bottom
    let (significand, exponent) :=
      if rounded = 2 * hiddenBit then (hiddenBit, exponent + 1) else (rounded, exponent)
    if 971 < exponent then none else some ⟨negative, significand, exponent⟩

/-- The size of a value as a numerator and a denominator. -/
def ratio (value : Binary64) : Nat × Nat :=
  scaled value.significand 1 value.exponent

/-- The value zero. -/
def zero : Binary64 := ⟨false, 0, -1074⟩

/-- Whether a value is zero, of either sign. -/
def isZero (value : Binary64) : Bool := value.significand == 0

/-- The value with a chosen sign. -/
def withSign (negative : Bool) (value : Binary64) : Binary64 :=
  { value with negative := negative }

/-- The value nearest to a natural number. -/
def ofNat? (number : Nat) : Option Binary64 := nearest false number 1

/-- The product of the sizes of two values. -/
def times (first second : Binary64) : Option Binary64 :=
  let (top, bottom) := first.ratio
  let (otherTop, otherBottom) := second.ratio
  nearest false (top * otherTop) (bottom * otherBottom)

/-- The quotient of the sizes of two values; `second` is not zero. -/
def dividedBy (first second : Binary64) : Option Binary64 :=
  let (top, bottom) := first.ratio
  let (otherTop, otherBottom) := second.ratio
  nearest false (top * otherBottom) (bottom * otherTop)

/-- The value nearest to a power of ten. -/
def powerOfTen? (power : Nat) : Option Binary64 := ofNat? (Nat.pow 10 power)

end Binary64

end SecretSource.Number
