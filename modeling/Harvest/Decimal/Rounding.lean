import Harvest.Decimal.Double

/-!
Arithmetic with floating-point numbers: every result is the number nearest to the exact one, and the even one
of two that are equally near.
-/

namespace Harvest.Decimal

/-- A quotient rounded to a whole number. -/
def roundedQuotient (a b : Nat) : Nat :=
  let q := a / b
  let rest := 2 * (a % b)
  if b < rest ∨ (rest = b ∧ q % 2 = 1) then q + 1 else q

/-- The binary exponent of a quotient: `2 ^ e ≤ a / b < 2 ^ (e + 1)`. -/
def binaryExponent (a b : Nat) : Int :=
  let e : Int := (a.log2 : Int) - b.log2
  if Nat.pow 2 e.toNat * b ≤ a * Nat.pow 2 (-e).toNat then e else e - 1

namespace Double

/-- The bits from which on there are only infinities and what is no number. -/
def finiteLimit : Nat := 0x7ff0000000000000

/-- The number nearest to `a / b`; none, if it is too large. The exponents of numbers next to each other are
such that rounding up to a power of two carries into the exponent. -/
def ofQuotient? (a b : Nat) : Option Double :=
  if a = 0 then some ⟨0⟩
  else
    let e := max (binaryExponent a b - 52) (-1074)
    let mantissa := roundedQuotient (a * Nat.pow 2 (-e).toNat) (b * Nat.pow 2 e.toNat)
    let bits := (e + 1074).toNat * 4503599627370496 + mantissa
    if bits < finiteLimit then some ⟨bits.toUInt64⟩ else none

/-- The absolute value is `numerator / denominator`. -/
def numerator (x : Double) : Nat := x.mantissa * Nat.pow 2 x.exponent.toNat

def denominator (x : Double) : Nat := Nat.pow 2 (-x.exponent).toNat

/-- The product of absolute values. -/
def times? (x y : Double) : Option Double :=
  ofQuotient? (x.numerator * y.numerator) (x.denominator * y.denominator)

/-- The quotient of absolute values. -/
def over? (x y : Double) : Option Double :=
  ofQuotient? (x.numerator * y.denominator) (x.denominator * y.numerator)

/-- A number that is not negative, with its sign changed. -/
def negated (x : Double) : Double := ⟨x.bits ||| 0x8000000000000000⟩

def powerOfTen? (n : Nat) : Option Double := ofQuotient? (Nat.pow 10 n) 1

end Double

end Harvest.Decimal
