namespace Overlay

/-- A binary floating-point number of 64 bits: sign, eleven bits of exponent,
fifty-two of fraction. -/
structure Double where
  bits : UInt64
  deriving DecidableEq, Inhabited

namespace Double

def isNegative (x : Double) : Bool := x.bits >>> 63 == 1

/-- The biased exponent, below 2048. -/
def exponent (x : Double) : Nat := x.bits.toNat / 0x10000000000000 % 0x800

def fraction (x : Double) : Nat := x.bits.toNat % 0x10000000000000

def isFinite (x : Double) : Bool := x.exponent != 2047

def isNaN (x : Double) : Bool := x.exponent == 2047 && x.fraction != 0

def isZero (x : Double) : Bool := x.exponent == 0 && x.fraction == 0

def ofFields (negative : Bool) (exponent fraction : Nat) : Double :=
  ⟨UInt64.ofNat ((if negative then 0x8000000000000000 else 0) + exponent * 0x10000000000000 + fraction)⟩

def zero (negative : Bool) : Double := ofFields negative 0 0

def infinity (negative : Bool) : Double := ofFields negative 2047 0

/-- The quiet NaN without sign. -/
def nan : Double := ofFields false 2047 0x8000000000000

/-- The magnitude of a finite number is the first component times two to the
power of the second. -/
def magnitude (x : Double) : Nat × Int :=
  if x.exponent = 0 then (x.fraction, -1074) else (x.fraction + 0x10000000000000, (x.exponent : Int) - 1075)

/-- Numeric equality: a NaN differs from everything, the two zeros are equal. -/
def equal (x y : Double) : Bool :=
  !x.isNaN && !y.isNaN && (x == y || (x.isZero && y.isZero))

theorem equal_self_iff (x : Double) : equal x x = true ↔ x.isNaN = false := by
  simp [equal]

end Double

end Overlay
