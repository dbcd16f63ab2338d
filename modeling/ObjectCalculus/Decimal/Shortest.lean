import ObjectCalculus.Binary64

/-!
# Shortest decimals

The decimal with the fewest digits that still rounds to a given binary value,
and of those the nearest to it; of two equally near the larger one.

The decimal grids of spacing `10 ^ exponent` are tried from coarse to fine. On
each grid only the two neighbours of the value can be nearest, and if any grid
point rounds to the value then one of the two does.
-/

set_option autoImplicit false

namespace ObjectCalculus.Decimal

structure Scientific where
  significand : Nat
  exponent : Int
  deriving DecidableEq

/-- The reals that round to `value * 2 ^ scale / 4`, all three numbers counted
in quarters of the last binary place. The ends belong to the interval when
`closed` holds. -/
structure Interval where
  low : Nat
  value : Nat
  high : Nat
  closed : Bool
  scale : Int

/-- Below a power of two the neighbouring value is only half as far away. -/
def Interval.ofBinary (number : Binary64) : Interval where
  low :=
    if number.fraction = 0 ∧ 1 < number.exponentField then
      4 * number.significand - 1
    else
      4 * number.significand - 2
  value := 4 * number.significand
  high := 4 * number.significand + 2
  closed := number.significand % 2 == 0
  scale := number.scale - 2

namespace Interval

/-- A number counted in units of `2 ^ scale` becomes, after multiplication by
`binaryFactor`, comparable with a multiple of `10 ^ exponent` after
multiplication by `decimalFactor`. -/
def binaryFactor (interval : Interval) (exponent : Int) : Nat :=
  Nat.pow 2 interval.scale.toNat * Nat.pow 10 (-exponent).toNat

def decimalFactor (interval : Interval) (exponent : Int) : Nat :=
  Nat.pow 2 (-interval.scale).toNat * Nat.pow 10 exponent.toNat

def holds (interval : Interval) (exponent : Int) (candidate : Nat) : Bool :=
  let point := candidate * interval.decimalFactor exponent
  let low := interval.low * interval.binaryFactor exponent
  let high := interval.high * interval.binaryFactor exponent
  if interval.closed then
    decide (low ≤ point) && decide (point ≤ high)
  else
    decide (low < point) && decide (point < high)

def below (interval : Interval) (exponent : Int) : Nat :=
  interval.value * interval.binaryFactor exponent /
    interval.decimalFactor exponent

/-- Of the two neighbours on a grid the nearer, the upper one on a tie. -/
def nearest (interval : Interval) (exponent : Int) : Nat :=
  let lower := interval.below exponent
  let value := interval.value * interval.binaryFactor exponent
  let step := interval.decimalFactor exponent
  if value - lower * step < (lower + 1) * step - value then lower else lower + 1

/-- The grid point chosen on one grid, if any point of that grid is in the
interval. -/
def onGrid (interval : Interval) (exponent : Int) : Option Nat :=
  let lower := interval.below exponent
  match interval.holds exponent lower, interval.holds exponent (lower + 1) with
  | true, true => some (interval.nearest exponent)
  | true, false => some lower
  | false, true => some (lower + 1)
  | false, false => none

def search (interval : Interval) : Nat → Int → Scientific
  | 0, exponent => ⟨interval.nearest exponent, exponent⟩
  | grids + 1, exponent =>
      match interval.onGrid exponent with
      | some digits => ⟨digits, exponent⟩
      | none => search interval grids (exponent - 1)

end Interval

def digitCount (number : Nat) : Nat :=
  (Nat.toDigits 10 number).length

/-- An exponent whose grid is coarser than the value or of its size: the
number of digits of the whole part, or, below one, of its reciprocal. -/
def Interval.coarsest (interval : Interval) : Int :=
  let numerator := interval.value * interval.binaryFactor 0
  let denominator := interval.decimalFactor 0
  if denominator ≤ numerator then
    digitCount (numerator / denominator)
  else
    1 - (digitCount (denominator / numerator) : Int)

/-- Seventeen digits tell all binary64 values apart, and the first two grids
may be too coarse to hold even one digit. -/
def gridLimit : Nat := 20

/-- For a finite number other than zero; the sign is left aside. -/
def shortest (number : Binary64) : Scientific :=
  let interval := Interval.ofBinary number
  interval.search gridLimit interval.coarsest

end ObjectCalculus.Decimal
