/-!
Bytes as text: two hexadecimal digits for each, or four characters for every three of them.
-/

namespace Harvest.Bson

def hexValue? (c : Char) : Option Nat :=
  if c.isDigit then some (c.toNat - 48)
  else if 'a' ≤ c ∧ c ≤ 'f' then some (c.toNat - 87)
  else if 'A' ≤ c ∧ c ≤ 'F' then some (c.toNat - 55)
  else none

/-- The bytes of an even number of hexadecimal digits of either case. -/
def bytesOfHex? : List Char → Option (List UInt8)
  | [] => some []
  | [_] => none
  | a :: b :: cs => do pure ((16 * (← hexValue? a) + (← hexValue? b)).toUInt8 :: (← bytesOfHex? cs))

def hexOfByte (b : UInt8) : List Char := [Nat.digitChar (b.toNat / 16), Nat.digitChar (b.toNat % 16)]

def hexOfBytes (bs : List UInt8) : String := String.ofList (bs.flatMap hexOfByte)

def sixChar (n : Nat) : Char :=
  if n < 26 then Char.ofNat (65 + n)
  else if n < 52 then Char.ofNat (71 + n)
  else if n < 62 then Char.ofNat (n - 4)
  else if n = 62 then '+'
  else '/'

def sixValue? (c : Char) : Option Nat :=
  if 'A' ≤ c ∧ c ≤ 'Z' then some (c.toNat - 65)
  else if 'a' ≤ c ∧ c ≤ 'z' then some (c.toNat - 71)
  else if c.isDigit then some (c.toNat + 4)
  else if c = '+' then some 62
  else if c = '/' then some 63
  else none

def base64 : List UInt8 → List Char
  | [] => []
  | [a] => [sixChar (a.toNat / 4), sixChar (a.toNat % 4 * 16), '=', '=']
  | [a, b] =>
    [sixChar (a.toNat / 4), sixChar (a.toNat % 4 * 16 + b.toNat / 16), sixChar (b.toNat % 16 * 4), '=']
  | a :: b :: c :: rest =>
    sixChar (a.toNat / 4) :: sixChar (a.toNat % 4 * 16 + b.toNat / 16) ::
      sixChar (b.toNat % 16 * 4 + c.toNat / 64) :: sixChar (c.toNat % 64) :: base64 rest

/-- The bytes of a base-64 text; the bits that padding leaves over must be zero. -/
def bytesOfBase64? : List Char → Option (List UInt8)
  | [] => some []
  | [a, b, '=', '='] => do
    let x ← sixValue? a
    let y ← sixValue? b
    if y % 16 = 0 then pure [(4 * x + y / 16).toUInt8] else none
  | [a, b, c, '='] => do
    let x ← sixValue? a
    let y ← sixValue? b
    let z ← sixValue? c
    if z % 4 = 0 then pure [(4 * x + y / 16).toUInt8, (y % 16 * 16 + z / 4).toUInt8] else none
  | a :: b :: c :: d :: rest => do
    let x ← sixValue? a
    let y ← sixValue? b
    let z ← sixValue? c
    let w ← sixValue? d
    pure ((4 * x + y / 16).toUInt8 :: (y % 16 * 16 + z / 4).toUInt8 :: (z % 4 * 64 + w).toUInt8 ::
      (← bytesOfBase64? rest))
  | _ => none

end Harvest.Bson
