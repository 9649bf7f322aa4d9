import Overlay.Double.Shortest

namespace Overlay

namespace Double

/-- The quotient rounded to the nearest integer, a half to the even one. -/
def roundQuotient (num den : Nat) : Nat :=
  let quotient := num / den
  let twice := 2 * (num % den)
  if den < twice || (twice == den && quotient % 2 == 1) then quotient + 1 else quotient

/-- The greatest power of two that is at most the quotient of two positive
numbers. -/
def binaryMagnitude (num den : Nat) : Int :=
  let guess : Int := (Nat.log2 num : Int) - Nat.log2 den
  if den * Nat.pow 2 guess.toNat ≤ num * Nat.pow 2 (-guess).toNat then guess else guess - 1

/-- The number nearest to a quotient of positive numbers, ties to the even
fraction; beyond the greatest finite number infinity. -/
def ofQuotient (negative : Bool) (num den : Nat) : Double :=
  let place := max (binaryMagnitude num den - 52) (-1074)
  let significand := roundQuotient (num * Nat.pow 2 (-place).toNat) (den * Nat.pow 2 place.toNat)
  -- the leading bit of a normal significand adds one to the exponent
  let bits := (place + 1074).toNat * 0x10000000000000 + significand
  if 2047 * 0x10000000000000 ≤ bits then infinity negative
  else ofFields negative 0 bits

/-- The number nearest to a decimal number. Far outside the range of finite
numbers the result is known from the magnitude alone. -/
def ofDecimal (negative : Bool) (d : Decimal) : Double :=
  if d.significand = 0 then zero negative
  else if d.magnitude < -330 then zero negative
  else if 310 < d.magnitude then infinity negative
  else ofQuotient negative (d.significand * Nat.pow 10 d.exponent.toNat) (Nat.pow 10 (-d.exponent).toNat)

def digitsValue (digits : List Char) : Nat := digits.foldl (fun n c => 10 * n + (c.toNat - '0'.toNat)) 0

/-- An exponent: `e` or `E`, a sign if wanted, and at least one digit. Nothing
at all stands for zero. -/
def readExponent? : List Char → Option Int
  | [] => some 0
  | e :: rest =>
    if e = 'e' ∨ e = 'E' then
      let (negative, digits) := match rest with
        | '-' :: digits => (true, digits)
        | '+' :: digits => (false, digits)
        | digits => (false, digits)
      if digits ≠ [] ∧ digits.all Char.isDigit then
        some (if negative then -(digitsValue digits : Int) else digitsValue digits)
      else none
    else none

/-- An unsigned decimal number: digits, a point and more digits, either part
possibly empty but not both, and an exponent. -/
def readMagnitude? (text : List Char) : Option Decimal :=
  let whole := text.takeWhile Char.isDigit
  let (fraction, rest) := match text.dropWhile Char.isDigit with
    | '.' :: rest => (rest.takeWhile Char.isDigit, rest.dropWhile Char.isDigit)
    | rest => ([], rest)
  if whole = [] ∧ fraction = [] then none
  else (readExponent? rest).map fun exponent =>
    ⟨digitsValue (whole ++ fraction), exponent - fraction.length⟩

/-- The number nearest to a decimal number with one sign or none. -/
def read? : List Char → Option Double
  | '-' :: text => (readMagnitude? text).map (ofDecimal true)
  | '+' :: text => (readMagnitude? text).map (ofDecimal false)
  | text => (readMagnitude? text).map (ofDecimal false)

end Double

end Overlay
