import Overlay.Double.Shortest

namespace Overlay

/-- How decimal numbers are written: magnitudes in `[positionalFrom,
positionalBelow)` without exponent, others with one digit in front of the point
and a signed exponent. -/
structure Notation where
  positionalFrom : Int
  positionalBelow : Int
  plusInExponent : Bool

namespace Notation

/-- An integral number keeps one zero behind its point. -/
def positional (d : Decimal) : List Char :=
  let digits := d.digits
  let whole := (d.magnitude + 1).toNat
  if d.magnitude < 0 then '0' :: '.' :: List.replicate (-d.magnitude - 1).toNat '0' ++ digits
  else if whole < digits.length then digits.take whole ++ '.' :: digits.drop whole
  else digits ++ List.replicate (whole - digits.length) '0' ++ ['.', '0']

def scientific (n : Notation) (d : Decimal) : List Char :=
  let mantissa := match d.digits with
    | [] => []
    | [digit] => [digit]
    | digit :: rest => digit :: '.' :: rest
  let sign := if d.magnitude < 0 then ['-'] else if n.plusInExponent then ['+'] else []
  mantissa ++ 'e' :: sign ++ Nat.toDigits 10 d.magnitude.natAbs

def decimal (n : Notation) (d : Decimal) : List Char :=
  if n.positionalFrom ≤ d.magnitude ∧ d.magnitude < n.positionalBelow then positional d else n.scientific d

def finite (n : Notation) (x : Double) : List Char :=
  let magnitude := if x.isZero then ['0', '.', '0'] else n.decimal x.shortest
  if x.isNegative then '-' :: magnitude else magnitude

end Notation

end Overlay
