import Harvest.Decimal.Double

/-!
The fewest decimal digits that read back as the same floating-point number. Every number stands for the
interval of reals that round to it. For one, two, ... seventeen digits the two neighbours of the value on
the decimal grid of that many digits are tested; the first grid with a hit gives the digits, the nearer
neighbour of two hits, and the even one of two that are equally near.
-/

namespace Harvest.Decimal

/-- The decimal number `digits * 10 ^ exponent`. -/
structure Scaled where
  digits : Nat
  exponent : Int
deriving DecidableEq, Repr

def width (n : Nat) : Nat := (Nat.toDigits 10 n).length

/-- Removes zeros at the end, at most `fuel` of them. -/
def Scaled.stripZeros (d : Scaled) : Nat → Scaled
  | 0 => d
  | fuel + 1 =>
    if d.digits ≠ 0 ∧ d.digits % 10 = 0 then Scaled.stripZeros ⟨d.digits / 10, d.exponent + 1⟩ fuel
    else d

/-- A fraction with the ends of its rounding interval, over one denominator. -/
structure Interval where
  low : Nat
  value : Nat
  high : Nat
  denominator : Nat
  /-- Whether the ends round to the value too. -/
  closed : Bool

/-- The reals that round to a number, its sign left aside. -/
def Interval.ofDouble (x : Double) : Interval :=
  let m := x.mantissa
  let q := x.exponent - 2
  let below := if x.isPowerStep then 1 else 2
  let up := Nat.pow 2 q.toNat
  ⟨(4 * m - below) * up, 4 * m * up, (4 * m + 2) * up, Nat.pow 2 (-q).toNat, m % 2 = 0⟩

/-- The power of ten just above a fraction: `10 ^ (k - 1) ≤ value < 10 ^ k`. -/
def Interval.magnitude (i : Interval) : Int :=
  let d : Int := (width i.value : Int) - width i.denominator
  if Nat.pow 10 d.toNat * i.denominator ≤ i.value * Nat.pow 10 (-d).toNat then d + 1 else d

/-- The point of the grid `10 ^ e` that reads back, if there is one. -/
def Interval.onGrid (i : Interval) (e : Int) : Option Nat :=
  let up := Nat.pow 10 (-e).toNat
  let step := Nat.pow 10 e.toNat * i.denominator
  let low := i.low * up
  let value := i.value * up
  let high := i.high * up
  let inside (c : Nat) : Bool :=
    if i.closed then low ≤ c * step && c * step ≤ high else low < c * step && c * step < high
  let c := value / step
  match inside c, inside (c + 1) with
  | true, true =>
    let past := value % step
    if 2 * past < step || (2 * past = step && c % 2 = 0) then some c else some (c + 1)
  | true, false => some c
  | false, true => some (c + 1)
  | false, false => none

/-- The first number of digits, from `n` on, whose grid has a point that reads back. -/
def Interval.search (i : Interval) (k : Int) (n : Nat) : Nat → Scaled
  | 0 => ⟨(i.onGrid (k - n)).getD 0, k - n⟩
  | fuel + 1 =>
    match i.onGrid (k - n) with
    | some c => ⟨c, k - n⟩
    | none => i.search k (n + 1) fuel

/-- The shortest decimal that reads back as the absolute value of `x`. -/
def shortest (x : Double) : Scaled :=
  if x.mantissa = 0 then ⟨0, 0⟩
  else
    let i := Interval.ofDouble x
    (i.search i.magnitude 1 16).stripZeros 20

end Harvest.Decimal
