/-
**The shortest decimal that reads back as a value, and its text.**

Every decimal between the midpoints to the two neighbours of a value reads back as that value.
`shortest` takes the coarsest decimal grid with a point in that interval and, of two such points, the
nearer one. `Binary64.text` writes it: positional for decimal exponents from -5 to 15, always with a
fraction, and with a signed exponent otherwise.
-/

import SecretSource.Number.Binary64

namespace SecretSource.Number

/-- A decimal: `digits * 10 ^ exponent`. -/
structure Decimal where
  digits : Nat
  exponent : Int
deriving DecidableEq, Repr

/-- The digits of a decimal without zeros at the end, and the exponent of the first of them. -/
def Decimal.normal (decimal : Decimal) : List Char × Int :=
  let digits := Nat.toDigits 10 decimal.digits
  let exponent := decimal.exponent + Int.ofNat digits.length - 1
  match (digits.reverse.dropWhile (· == '0')).reverse with
  | [] => (['0'], 0)
  | kept => (kept, exponent)

namespace Binary64

/-- A quarter of the spacing at a value as a fraction, and the ends of the interval that reads back, in
such quarters: the lower end, the value, the upper end. -/
structure Interval where
  low : Nat
  middle : Nat
  high : Nat
  closed : Bool
  top : Nat
  bottom : Nat

/-- The interval of a value that is not zero. Below a power of two the spacing is half as wide. -/
def interval (value : Binary64) : Interval :=
  let middle := 4 * value.significand
  let isBoundary := value.significand == hiddenBit && decide (-1074 < value.exponent)
  let (top, bottom) := scaled 1 1 (value.exponent - 2)
  ⟨if isBoundary then middle - 1 else middle - 2, middle, middle + 2, value.significand % 2 == 0,
    top, bottom⟩

/-- A quotient over a power of ten. -/
def onGrid (numerator denominator : Nat) (power : Int) : Nat × Nat :=
  if 0 ≤ power then (numerator, denominator * Nat.pow 10 power.toNat)
  else (numerator * Nat.pow 10 (-power).toNat, denominator)

/-- Whether a grid point, a number of steps of a power of ten, reads back as the value. -/
def Interval.admits (range : Interval) (steps : Nat) (power : Int) : Bool :=
  let (low, bottom) := onGrid (range.low * range.top) range.bottom power
  let (high, _) := onGrid (range.high * range.top) range.bottom power
  let point := steps * bottom
  if range.closed then low ≤ point && point ≤ high else low < point && point < high

/-- The grid point of one power of ten that reads back and is nearest, if there is one. -/
def Interval.candidate? (range : Interval) (power : Int) : Option Nat :=
  let (middle, bottom) := onGrid (range.middle * range.top) range.bottom power
  let below := middle / bottom
  let rest := middle % bottom
  match range.admits below power && below != 0, range.admits (below + 1) power with
  | true, true =>
    if 2 * rest < bottom ∨ (2 * rest = bottom ∧ below % 2 = 0) then some below else some (below + 1)
  | true, false => some below
  | false, true => some (below + 1)
  | false, false => none

/-- Searches `fuel` grids, each ten times finer than the one before. -/
def Interval.search (range : Interval) : (fuel : Nat) → Int → Decimal
  | 0, power => ⟨0, power⟩
  | fuel + 1, power =>
    match range.candidate? power with
    | some steps => ⟨steps, power⟩
    | none => range.search fuel (power - 1)

/-- A power of ten whose grid is too coarse or just coarse enough, from the binary exponent. -/
def coarsest (value : Binary64) : Int :=
  let bits := Int.ofNat value.significand.log2 + value.exponent + 1
  Int.fdiv (bits * 30103) 100000 + 1

/-- The shortest decimal that reads back as the size of a value. -/
def shortest (value : Binary64) : Decimal :=
  if value.isZero then ⟨0, 0⟩ else value.interval.search 20 value.coarsest

/-- Digits with the point where the exponent of the first digit puts it. -/
def positional (digits : List Char) (exponent : Int) : List Char :=
  if exponent < 0 then
    ['0', '.'] ++ List.replicate ((-exponent).toNat - 1) '0' ++ digits
  else
    let count := exponent.toNat + 1
    if digits.length ≤ count then
      digits ++ List.replicate (count - digits.length) '0' ++ ['.', '0']
    else digits.take count ++ '.' :: digits.drop count

/-- Digits with an exponent. -/
def scientific (digits : List Char) (exponent : Int) : List Char :=
  let sign := if exponent < 0 then '-' else '+'
  let mantissa := match digits with
    | first :: second :: rest => first :: '.' :: second :: rest
    | short => short
  mantissa ++ ['e', sign] ++ Nat.toDigits 10 exponent.natAbs

/-- The text of a value. -/
def text (value : Binary64) : String :=
  let (digits, exponent) := value.shortest.normal
  let size := if -5 ≤ exponent ∧ exponent ≤ 15 then positional digits exponent
    else scientific digits exponent
  String.ofList (if value.negative then '-' :: size else size)

end Binary64

end SecretSource.Number
