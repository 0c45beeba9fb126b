import Harvest.Decimal.Rounding
import Harvest.Json.Document

/-!
Strings and numbers of JSON text. A scan gives the scalar and the text after it, or no text where nothing
more is read.
-/

namespace Harvest.Json

open Decimal (Double)

/-- A part of a string: a character as it stands or as a short escape, or a sixteen-bit unit. -/
inductive Piece
  | plain (c : Char)
  | short (c : Char)
  | unit (value : Nat)
deriving DecidableEq, Repr

/-- Where the parts of a string end. -/
inductive StringEnd
  | closed (rest : List Char)
  | ended
  | control
  /-- After a backslash stands no letter of an escape. -/
  | badEscape
  /-- After a backslash and `u` stand no four hexadecimal digits. -/
  | badUnit

def hexValue? (c : Char) : Option Nat :=
  if '0' ≤ c ∧ c ≤ '9' then some (c.toNat - 48)
  else if 'a' ≤ c ∧ c ≤ 'f' then some (c.toNat - 87)
  else if 'A' ≤ c ∧ c ≤ 'F' then some (c.toNat - 55)
  else none

def unit? (a b c d : Char) : Option Nat := do
  let h ← hexValue? a
  let i ← hexValue? b
  let j ← hexValue? c
  let k ← hexValue? d
  pure (((h * 16 + i) * 16 + j) * 16 + k)

/-- The character of a short escape. -/
def short? : Char → Option Char
  | '"' => some '"'
  | '\\' => some '\\'
  | '/' => some '/'
  | 'b' => some '\x08'
  | 'f' => some '\x0c'
  | 'n' => some '\n'
  | 'r' => some '\r'
  | 't' => some '\t'
  | _ => none

/-- Whether fewer than four bytes are left. -/
def endsInUnit (s : List Char) : Bool := s.foldr (fun c n => c.utf8Size + n) 0 < 4

/-- The parts of a string after its opening quote. -/
def scanPieces : List Char → List Piece × StringEnd
  | [] => ([], .ended)
  | '"' :: rest => ([], .closed rest)
  | '\\' :: 'u' :: a :: b :: c :: d :: rest =>
    match unit? a b c d with
    | some u =>
      let (ps, stop) := scanPieces rest
      (.unit u :: ps, stop)
    | none => ([], .badUnit)
  | '\\' :: 'u' :: rest => ([], if endsInUnit rest then .ended else .badUnit)
  | ['\\'] => ([], .ended)
  | '\\' :: e :: rest =>
    match short? e with
    | some c =>
      let (ps, stop) := scanPieces rest
      (.short c :: ps, stop)
    | none => ([], .badEscape)
  | c :: rest =>
    if c.toNat < 0x20 then ([], .control)
    else
      let (ps, stop) := scanPieces rest
      (.plain c :: ps, stop)

def StringEnd.flaw? : StringEnd → Option Flaw
  | closed _ => none
  | ended => some .stringEnds
  | control => some .controlCharacter
  | badEscape | badUnit => some .invalidEscape

def StringEnd.rest? : StringEnd → Option (List Char)
  | closed rest => some rest
  | _ => none

def isLeading (u : Nat) : Bool := 0xD800 ≤ u && u ≤ 0xDBFF
def isTrailing (u : Nat) : Bool := 0xDC00 ≤ u && u ≤ 0xDFFF

/-- The text that the parts of a string spell; the two halves of a surrogate pair stand together. -/
def spell (stop : StringEnd) : List Piece → Except Flaw (List Char)
  | [] => match stop.flaw? with
    | none => .ok []
    | some f => .error f
  | .plain c :: ps | .short c :: ps => (spell stop ps).map (c :: ·)
  | .unit u :: ps =>
    if isTrailing u then .error .loneSurrogate
    else if isLeading u then
      match ps with
      | .unit v :: rest =>
        if isTrailing v then
          (spell stop rest).map (Char.ofNat (0x10000 + (u - 0xD800) * 0x400 + (v - 0xDC00)) :: ·)
        else .error .loneSurrogate
      | [] =>
        match stop with
        | .ended => .error .stringEnds
        | .badUnit => .error .invalidEscape
        | _ => .error .unpairedEscape
      | _ => .error .unpairedEscape
    else (spell stop ps).map (Char.ofNat u :: ·)

def scanString (s : List Char) : Scan String × Option (List Char) :=
  let (ps, stop) := scanPieces s
  (⟨(spell stop ps).map String.ofList, stop.flaw?⟩, stop.rest?)

structure Numeral where
  negative : Bool
  whole : List Nat
  fraction : Option (List Nat)
  /-- The sign and the digits of the exponent, if there is one. -/
  exponent : Option (Bool × List Nat)

def digit? (c : Char) : Option Nat := if '0' ≤ c ∧ c ≤ '9' then some (c.toNat - 48) else none

def scanDigits : List Char → List Nat × List Char
  | [] => ([], [])
  | c :: rest =>
    match digit? c with
    | some d =>
      let (ds, r) := scanDigits rest
      (d :: ds, r)
    | none => ([], c :: rest)

/-- A digit is missing: the text ends or goes on with something else. -/
def noDigit (rest : List Char) : Flaw := if rest.isEmpty then .valueEnds else .invalidNumber

def scanFraction : List Char → Except Flaw (Option (List Nat) × List Char)
  | '.' :: rest =>
    let (ds, rest) := scanDigits rest
    if ds.isEmpty then .error (noDigit rest) else .ok (some ds, rest)
  | rest => .ok (none, rest)

/-- Whether there is a minus sign. -/
def scanSign : List Char → Bool × List Char
  | '+' :: rest => (false, rest)
  | '-' :: rest => (true, rest)
  | rest => (false, rest)

def scanExponent : List Char → Except Flaw (Option (Bool × List Nat) × List Char)
  | 'e' :: rest | 'E' :: rest =>
    let (minus, rest) := scanSign rest
    let (ds, rest) := scanDigits rest
    if ds.isEmpty then .error (noDigit rest) else .ok (some (minus, ds), rest)
  | rest => .ok (none, rest)

/-- A numeral at the start of a text, after its sign. -/
def scanNumeral (negative : Bool) (s : List Char) : Except Flaw (Numeral × List Char) := do
  let (whole, rest) := scanDigits s
  if whole.isEmpty then throw (noDigit rest)
  if whole.length > 1 ∧ whole.head? = some 0 then throw .invalidNumber
  let (fraction, rest) ← scanFraction rest
  let (exponent, rest) ← scanExponent rest
  pure (⟨negative, whole, fraction, exponent⟩, rest)

/-- The largest significand that is kept; digits beyond it only count as places. -/
def significandLimit : Nat := UInt64.size

/-- Appends digits to a significand as long as it stays below the limit; what is left comes back too. -/
def fill (significand : Nat) : List Nat → Nat × List Nat
  | [] => (significand, [])
  | d :: ds =>
    if significand * 10 + d < significandLimit then fill (significand * 10 + d) ds
    else (significand, d :: ds)

/-- A significand scaled by a power of ten; large divisors are taken in steps of `10 ^ 308`. -/
def scale (x : Double) (exponent : Int) : Nat → Option Double
  | 0 => some x
  | fuel + 1 =>
    if 0 ≤ exponent then
      if exponent ≤ 308 then do x.times? (← Double.powerOfTen? exponent.toNat)
      else if x.mantissa = 0 then some x else none
    else if -308 ≤ exponent then do x.over? (← Double.powerOfTen? exponent.natAbs)
    else if x.mantissa = 0 then some x
    else do scale (← x.over? (← Double.powerOfTen? 308)) (exponent + 308) fuel

/-- The number of an exponent's digits; `none` from `2 ^ 31` on. -/
def exponentValue (ds : List Nat) : Option Nat :=
  let n : Nat := ds.foldl (fun n d => n * 10 + d) 0
  if n < 2147483648 then some n else none

/-- The floating-point number nearest to a numeral, up to the roundings of its digits and of one scaling. -/
def Numeral.toDouble (n : Numeral) : Except Flaw Double := do
  let (significand, wholeLeft) := fill 0 n.whole
  let (significand, fractionLeft) := fill significand (n.fraction.getD [])
  let places : Int := (wholeLeft.length : Int) - ((n.fraction.getD []).length - fractionLeft.length)
  let (minus, digits) := n.exponent.getD (false, [])
  let signed (x : Double) : Double := if n.negative then x.negated else x
  match exponentValue digits with
  | none => if significand = 0 ∨ minus then pure (signed ⟨0⟩) else throw .numberOutOfRange
  | some e =>
    let power : Int := if minus then places - e else places + e
    match (Double.ofQuotient? significand 1).bind (scale · power 16777216) with
    | some x => pure (signed x)
    | none => throw .numberOutOfRange

/-- Whole numbers keep their value where they fit; minus zero and all others are floating-point. -/
def Numeral.toNumber (n : Numeral) : Except Flaw Number :=
  let value : Nat := n.whole.foldl (fun v d => v * 10 + d) 0
  let signed : Int := if n.negative then -(value : Int) else value
  if n.fraction.isNone ∧ n.exponent.isNone ∧ Number.fits signed ∧ ¬(n.negative ∧ value = 0) then
    .ok (.integer signed)
  else n.toDouble.map .float

def scanNumber (s : List Char) : Scan Number × Option (List Char) :=
  let (negative, rest) := match s with
    | '-' :: rest => (true, rest)
    | _ => (false, s)
  match scanNumeral negative rest with
  | .ok (n, rest) => (⟨n.toNumber, none⟩, some rest)
  | .error f => (⟨.error f, some .invalidNumber⟩, none)

end Harvest.Json
