import Harvest.Text.Split
import Harvest.Url.Percent

/-!
Forms: fields as names with values, in one line of text. Letters, digits and `*-._` stand for themselves, a
space becomes a plus sign, and every other byte is written in hexadecimal digits after a percent sign.
-/

namespace Harvest.Url

namespace Form

def isPlain (b : UInt8) : Bool :=
  (0x30 ≤ b && b ≤ 0x39) || (0x41 ≤ b && b ≤ 0x5A) || (0x61 ≤ b && b ≤ 0x7A) ||
    b = 0x2A || b = 0x2D || b = 0x2E || b = 0x5F

def encodeByte (b : UInt8) : List Char :=
  if isPlain b then [Char.ofNat b.toNat]
  else if b = 0x20 then ['+']
  else Url.encodeByte b

def encodeText (s : String) : String := String.ofList (s.toUTF8.toList.flatMap encodeByte)

def encodeField (f : String × String) : String := encodeText f.1 ++ "=" ++ encodeText f.2

def encode (fields : List (String × String)) : String := "&".intercalate (fields.map encodeField)

/-- A plus sign stands for a space. -/
def spaceOfPlus (b : UInt8) : UInt8 := if b = 0x2B then 0x20 else b

/-- The text that was encoded, if its bytes are one. -/
def decodeText (s : List Char) : Option String :=
  let bytes := (String.ofList s).toUTF8.toList.map spaceOfPlus
  String.fromUTF8? ⟨(decodeBytes bytes).toArray⟩

/-- A name up to the first equals sign and the value after it. -/
def decodeField (s : List Char) : Option (String × String) := do
  let (name, value) := (Text.cutFirst ['='] s).getD (s, [])
  pure (← decodeText name, ← decodeText value)

/-- The fields of a form; empty ones are left out. -/
def decode (s : String) : Option (List (String × String)) :=
  ((Text.pieces ['&'] s.toList).filter (· ≠ [])).mapM decodeField

end Form

end Harvest.Url
