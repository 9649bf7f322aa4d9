import Overlay.Double

namespace Overlay

/-- A positive decimal number: the significand times ten to the power of the
exponent. -/
structure Decimal where
  significand : Nat
  exponent : Int
  deriving DecidableEq, Repr

namespace Decimal

def digitCount (n : Nat) : Nat := (Nat.toDigits 10 n).length

def digits (d : Decimal) : List Char := Nat.toDigits 10 d.significand

/-- The power of ten of the first digit. -/
def magnitude (d : Decimal) : Int := d.exponent + digitCount d.significand - 1

/-- Trailing zeros of the significand go to the exponent, at most as many as the
first argument says. -/
def normalize : Nat → Decimal → Decimal
  | 0, d => d
  | limit + 1, d =>
    if d.significand % 10 = 0 then normalize limit ⟨d.significand / 10, d.exponent + 1⟩ else d

end Decimal

namespace Double

/-- The real numbers that round to a finite number, counted in quarters of its
last place: they lie between `low` and `high`, whose ends belong to them when
`closed` holds. -/
structure Interval where
  low : Nat
  middle : Nat
  high : Nat
  closed : Bool

def interval (x : Double) : Interval :=
  let m := x.magnitude.1
  -- below a power of two the neighbour is only half as far away
  let below := if x.fraction = 0 ∧ 1 < x.exponent then 1 else 2
  ⟨4 * m - below, 4 * m, 4 * m + 2, m % 2 = 0⟩

def Interval.contains (i : Interval) (unit point : Nat) : Bool :=
  if i.closed then i.low * unit ≤ point && point ≤ i.high * unit
  else i.low * unit < point && point < i.high * unit

/-- Of the multiples of a power of ten, the one in the interval that is nearest
to the middle; of two that are equally near, the even one. -/
def gridPoint? (i : Interval) (quarter : Int) (power : Int) : Option Nat :=
  let unit := Nat.pow 2 quarter.toNat * Nat.pow 10 (-power).toNat
  let step := Nat.pow 2 (-quarter).toNat * Nat.pow 10 power.toNat
  let middle := i.middle * unit
  let below := middle / step
  let rest := middle % step
  let nearBelow := 2 * rest < step || (2 * rest == step && below % 2 == 0)
  let first := if nearBelow then below else below + 1
  let second := if nearBelow then below + 1 else below
  if i.contains unit (first * step) then some first
  else if i.contains unit (second * step) then some second
  else none

/-- The power of ten of the first digit of a positive finite number. -/
def decimalMagnitude (x : Double) : Int :=
  let (m, q) := x.magnitude
  let num := m * Nat.pow 2 q.toNat
  let den := Nat.pow 2 (-q).toNat
  if den ≤ num then (Decimal.digitCount (num / den) : Int) - 1
  else -(Decimal.digitCount ((den + num - 1) / num - 1) : Int)

/-- Tries one digit after the other, up to the given number of attempts. -/
def shortestFrom (x : Double) (power : Int) : Nat → Decimal
  | 0 => ⟨0, 0⟩
  | attempts + 1 =>
    match gridPoint? x.interval (x.magnitude.2 - 2) power with
    | some significand => ⟨significand, power⟩
    | none => shortestFrom x (power - 1) attempts

/-- The decimal number with the fewest digits among those that round to the
magnitude of a finite number other than zero, and of these the nearest one.
Seventeen digits always suffice. -/
def shortest (x : Double) : Decimal := (shortestFrom x x.decimalMagnitude 17).normalize 17

end Double

end Overlay
