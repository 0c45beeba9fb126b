/-!
Floating-point numbers as their sixty-four bits, with an exact view: a sign, and `mantissa * 2 ^ exponent`.
-/

namespace Harvest.Decimal

structure Double where
  bits : UInt64
deriving DecidableEq, Repr

namespace Double

def ofFloat (x : Float) : Double := ⟨x.toBits⟩

/-- What is no number, with either sign. -/
def notANumber (minus : Bool) : Double := ⟨if minus then 0xfff8000000000000 else 0x7ff8000000000000⟩

def toFloat (x : Double) : Float := Float.ofBits x.bits

def isNegative (x : Double) : Bool := x.bits >>> 63 == 1

/-- The biased exponent. -/
def exponentField (x : Double) : Nat := ((x.bits >>> 52) &&& 0x7ff).toNat

def fraction (x : Double) : Nat := (x.bits &&& 0xfffffffffffff).toNat

def mantissa (x : Double) : Nat := if x.exponentField = 0 then x.fraction else x.fraction + 4503599627370496

def exponent (x : Double) : Int := if x.exponentField = 0 then -1074 else x.exponentField - 1075

/-- Whether the next smaller number is only half as far away as the next larger one. -/
def isPowerStep (x : Double) : Bool := x.fraction = 0 && x.exponentField > 1

end Double

end Harvest.Decimal
