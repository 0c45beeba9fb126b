import Harvest.Decimal.Shortest

/-!
Floating-point numbers as text: their shortest digits, positional or with an exponent.
-/

namespace Harvest.Decimal

/-- Which numbers are written without an exponent, by the decimal exponent of their first digit. -/
structure Format where
  /-- The least exponent written positionally; `none` for all small ones. -/
  least : Option Int
  /-- The greatest exponent written positionally; `none` for all large ones. -/
  greatest : Option Int

def zeros (n : Nat) : String := String.ofList (List.replicate n '0')

/-- Digits with a point, and a zero on each side of it that has none. -/
def positional (d : Scaled) : String :=
  let digits := (Nat.toDigits 10 d.digits)
  if 0 ≤ d.exponent then String.ofList digits ++ zeros d.exponent.toNat ++ ".0"
  else
    let places := (-d.exponent).toNat
    if places < digits.length then
      String.ofList (digits.take (digits.length - places)) ++ "." ++
        String.ofList (digits.drop (digits.length - places))
    else "0." ++ zeros (places - digits.length) ++ String.ofList digits

/-- One digit, the others behind a point, and the exponent with its sign. -/
def scientific (d : Scaled) (exponent : Int) : String :=
  let digits := (Nat.toDigits 10 d.digits)
  let rest := digits.drop 1
  String.ofList (digits.take 1) ++ (if rest.isEmpty then "" else "." ++ String.ofList rest) ++
    (if exponent < 0 then s!"e-{exponent.natAbs}" else s!"e+{exponent.natAbs}")

def Format.write (f : Format) (x : Double) : String :=
  let d := shortest x
  let exponent := d.exponent + width d.digits - 1
  let plain := f.least.all (· ≤ exponent) && f.greatest.all (exponent ≤ ·)
  (if x.isNegative then "-" else "") ++ (if plain then positional d else scientific d exponent)

end Harvest.Decimal
