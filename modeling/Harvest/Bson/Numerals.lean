import Harvest.Decimal.Double
import Harvest.Text.Split

/-!
Numbers as texts inside documents: whole numbers of a given width, floating-point numbers, and decimal
numbers of up to thirty-four digits.
-/

namespace Harvest.Bson

def cutSign : List Char → Bool × List Char
  | '-' :: cs => (true, cs)
  | '+' :: cs => (false, cs)
  | cs => (false, cs)

def natOf? (cs : List Char) : Option Nat :=
  if cs.isEmpty ∨ ¬cs.all Char.isDigit then none
  else some (cs.foldl (fun n c => n * 10 + (c.toNat - 48)) 0)

/-- A whole number of a width of `bits`. -/
def wholeOf? (bits : Nat) (s : String) : Option Int := do
  let (minus, cs) := cutSign s.toList
  let n ← natOf? cs
  let value : Int := if minus then -n else n
  let limit : Int := Nat.pow 2 (bits - 1)
  if -limit ≤ value ∧ value < limit then pure value else none

def cutAt (p : Char → Bool) (cs : List Char) : List Char × Option (List Char) :=
  (cs.takeWhile (!p ·), (cs.dropWhile (!p ·)).tail?)

def lowercase (cs : List Char) : String := String.ofList (cs.map Char.toLower)

/-- A floating-point number in decimal notation, or the name of an infinity or of no number. -/
def doubleOf? (s : String) : Option Decimal.Double := do
  let (minus, cs) := cutSign s.toList
  let signed (f : Float) : Decimal.Double := .ofFloat (if minus then -f else f)
  let name := lowercase cs
  if name = "nan" then pure (.notANumber minus)
  else if name = "inf" ∨ name = "infinity" then pure (signed (1.0 / 0.0))
  else
    let (number, power) := cutAt (fun c => c = 'e' || c = 'E') cs
    let (whole, fraction) := cutAt (· = '.') number
    let places := fraction.getD []
    let digits ← natOf? (whole ++ places)
    let exponent : Int ← match power with
      | none => pure 0
      | some cs => do
        let (minus, cs) := cutSign cs
        let n ← natOf? cs
        pure (if minus then -n else n)
    let exponent := exponent - places.length
    let size : Int := (toString digits).length + exponent
    if digits = 0 ∨ size < -400 then pure (signed 0.0)
    else if 400 < size then pure (signed (1.0 / 0.0))
    else pure (signed (Float.ofScientific digits (decide (exponent < 0)) exponent.natAbs))

/-- A coefficient without zeros in front, at least one character long. -/
def significant (cs : List Char) : List Char :=
  match cs.dropWhile (· = '0') with
  | [] => ['0']
  | ds => ds

def dropZeros (cs : List Char) (count : Nat) : Option (List Char) :=
  if cs.length < count then none
  else if (cs.drop (cs.length - count)).all (· = '0') then some (cs.take (cs.length - count))
  else none

def leastExponent : Int := -6176
def greatestExponent : Int := 6111
def greatestWidth : Nat := 34

/-- The text of a decimal number: positional for exponents that are not large. -/
def writeDecimal (digits : List Char) (exponent : Int) : List Char :=
  let adjusted : Int := exponent + digits.length - 1
  if exponent ≤ 0 ∧ -6 ≤ adjusted then
    let places := exponent.natAbs
    if places = 0 then digits
    else if digits.length ≤ places then '0' :: '.' :: List.replicate (places - digits.length) '0' ++ digits
    else digits.take (digits.length - places) ++ '.' :: digits.drop (digits.length - places)
  else
    digits.take 1 ++ (if digits.length = 1 then [] else '.' :: digits.drop 1) ++
      'E' :: (if 0 < adjusted then ['+'] else []) ++ (toString adjusted).toList

/-- An exponent while a number is read: it fits in sixteen bits. -/
def exponent? (e : Int) : Option Int := if -32768 ≤ e ∧ e < 32768 then some e else none

/-- Fits a decimal number into its widest coefficient and its range of exponents, without rounding. -/
def fitDecimal (coefficient : List Char) (exponent : Int) : Option (List Char × Int) := do
  let excess := coefficient.length - greatestWidth
  let coefficient ← dropZeros coefficient excess
  let exponent ← exponent? (exponent + excess)
  if coefficient = ['0'] then pure (coefficient, max leastExponent (min exponent greatestExponent))
  else if exponent < leastExponent then
    pure (← dropZeros coefficient (leastExponent - exponent).toNat, leastExponent)
  else if greatestExponent < exponent then
    let missing := (exponent - greatestExponent).toNat
    if greatestWidth < coefficient.length + missing then none
    else pure (coefficient ++ List.replicate missing '0', greatestExponent)
  else pure (coefficient, exponent)

/-- The digits of a coefficient, which may have a plus sign of its own. -/
def coefficient? (cs : List Char) : Option Nat :=
  match cs with
  | '+' :: cs => natOf? cs
  | cs => natOf? cs

def writeFinite (minus : Bool) (coefficient : Nat) (exponent : Int) : String :=
  String.ofList ((if minus then ['-'] else []) ++ writeDecimal (toString coefficient).toList exponent)

def writeInfinity (minus : Bool) : String := if minus then "-Infinity" else "Infinity"

/-- What is no number has no sign. -/
def notANumberText : String := "NaN"

/-- The canonical text of a decimal number. No digits at all are as good as a zero. -/
def decimalOf? (s : String) : Option String := do
  let (minus, cs) := cutSign s.toList
  let name := lowercase cs
  if name = "nan" ∨ name = "snan" then pure notANumberText
  else if name = "inf" ∨ name = "infinity" then pure (writeInfinity minus)
  else
    let (number, power) := cutAt (fun c => c = 'e' || c = 'E') cs
    let exponent ← match power with
      | none => pure 0
      | some cs => wholeOf? 16 (String.ofList cs)
    let (whole, fraction) := cutAt (· = '.') number
    let places := fraction.getD []
    let exponent ← exponent? (exponent - places.length)
    let (coefficient, exponent) ← fitDecimal (significant (whole ++ places)) exponent
    pure (writeFinite minus (← coefficient? coefficient) exponent)

/-- The number that bytes make up, the least significant one first. -/
def natOfBytes (bytes : List UInt8) : Nat := bytes.foldr (fun b n => b.toNat + 256 * n) 0

def bitsAt (n low width : Nat) : Nat := n / Nat.pow 2 low % Nat.pow 2 width

/-- The greatest coefficient has thirty-four digits. -/
def coefficientBound : Nat := Nat.pow 10 greatestWidth

/-- The canonical text of the decimal number that sixteen bytes hold: a sign, an exponent and a coefficient,
which counts as zero if it is too large; special values have all of the four bits after the sign set. -/
def decimalOfBytes? (bytes : List UInt8) : Option String :=
  if bytes.length ≠ 16 then none
  else
    let n := natOfBytes bytes
    let minus := bitsAt n 127 1 = 1
    if bitsAt n 123 4 = 15 then
      some (if bitsAt n 122 1 = 1 then notANumberText else writeInfinity minus)
    else if bitsAt n 125 2 = 3 then some (writeFinite minus 0 (bitsAt n 111 14 + leastExponent))
    else
      let coefficient := bitsAt n 0 113
      some (writeFinite minus (if coefficient < coefficientBound then coefficient else 0)
        (bitsAt n 113 14 + leastExponent))

end Harvest.Bson
