/-!
Percent-encoding: the sets of characters that are encoded in the parts of a URL, and decoding.
-/

namespace Harvest.Url

/-- Controls, and all characters beyond ASCII. -/
def inControls (c : Char) : Bool := c.toNat < 0x20 || 0x7f ≤ c.toNat

def inFragment (c : Char) : Bool := inControls c || c ∈ [' ', '"', '<', '>', '`']

def inQuery (c : Char) : Bool := inControls c || c ∈ [' ', '"', '#', '<', '>']

def inSpecialQuery (c : Char) : Bool := inQuery c || c = '\''

def inPath (c : Char) : Bool := inFragment c || c ∈ ['#', '?', '\x7b', '\x7d']

def inUserinfo (c : Char) : Bool :=
  inPath c || c ∈ ['/', ':', ';', '=', '@', '[', '\\', ']', '^', '|']

def upperHex (n : Nat) : Char := Char.ofNat (if n < 10 then 48 + n else 55 + n)

def encodeByte (b : UInt8) : List Char := ['%', upperHex (b.toNat / 16), upperHex (b.toNat % 16)]

def encodeChar (c : Char) : List Char := (String.singleton c).toUTF8.toList.flatMap encodeByte

/-- Encodes the characters of a set. -/
def encode (set : Char → Bool) (cs : List Char) : List Char :=
  cs.flatMap fun c => if set c then encodeChar c else [c]

def hexDigit? (b : UInt8) : Option UInt8 :=
  if 48 ≤ b ∧ b ≤ 57 then some (b - 48)
  else if 97 ≤ b ∧ b ≤ 102 then some (b - 87)
  else if 65 ≤ b ∧ b ≤ 70 then some (b - 55)
  else none

/-- Replaces every percent sign with two hexadecimal digits by the byte they stand for. -/
def decodeBytes : List UInt8 → List UInt8
  | 37 :: a :: b :: rest =>
    match hexDigit? a, hexDigit? b with
    | some h, some l => (h * 16 + l) :: decodeBytes rest
    | _, _ => 37 :: decodeBytes (a :: b :: rest)
  | b :: rest => b :: decodeBytes rest
  | [] => []

def decode? (cs : List Char) : Option (List Char) :=
  (String.fromUTF8? (ByteArray.mk (decodeBytes (String.ofList cs).toUTF8.toList).toArray)).map
    String.toList

end Harvest.Url
