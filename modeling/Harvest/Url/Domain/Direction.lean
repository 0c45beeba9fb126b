import Harvest.Text.Mark

/-!
The directions in which the characters of a domain are written, and which labels keep their reading order
beside labels of another direction. The tables hold the small letters, digits and signs that a domain may
hold; a letter that none of them lists is written from left to right.
-/

namespace Harvest.Url

inductive Direction
  | leftToRight
  | rightToLeft
  /-- Letters written from right to left that join, as in the Arabic script. -/
  | arabic
  | digit
  | sign
  /-- Signs at the end of numbers, as those of currencies. -/
  | unit
  | arabicDigit
  /-- Points, commas and colons. -/
  | separator
  | mark
  | joiner
  | neutral
deriving DecidableEq, Repr

namespace Direction

def rightToLefts : Text.Ranges := Text.Ranges.ofText
  "5be 5c0 5c3 5c6 5d0..5f4 7c0..7ea 7f4..7f5 7fa 7fe..815 81a 824 828 830..858 85e 10800..1091b
   10920..10a00 10a10..10a35 10a40..10ae4 10aeb..10b35 10b40..10cff 10d4a..10d4f 10d6f..10d8f
   10e80..10ea9 10ead..10eb1 10f00..10f27 10f70..10f81 10f86..10ff6 1e800..1e8cf 1e922..1e943
   1e94b..1e95f"

def arabics : Text.Ranges := Text.Ranges.ofText
  "608 60b 60d 61b..64a 66d..66f 671..6d5 6e5..6e6 6ee..6ef 6fa..710 712..72f 74d..7a5 7b1 860..88f
   8a0..8c9 fbb2..fbc2 fe73 10d00..10d23 10ec2..10ec7 10f30..10f45 10f51..10f59 1ec71..1ed3d"

def digits : Text.Ranges := Text.Ranges.ofText
  "30..39 6f0..6f9 102e1..102fb"

def signs : Text.Ranges := Text.Ranges.ofText
  "2b 2d 2212"

def units : Text.Ranges := Text.Ranges.ofText
  "23..25 a2..a5 b0..b1 58f 609..60a 66a 9f2..9f3 9fb af1 bf9 e3f 17db 2030..2032 20a0..20c1 212e 2213
   a838..a839 11fdd..11fe0 1e2ff"

def arabicDigits : Text.Ranges := Text.Ranges.ofText
  "660..669 66b..66c 10d30..10d49 10e60..10e7e"

def separators : Text.Ranges := Text.Ranges.ofText
  "2c 2e..2f 3a 60c 2044"

def neutrals : Text.Ranges := Text.Ranges.ofText
  "21..22 26..2a 3b..40 5b..60 7b..a1 a6..ae b6..d7 f7 2b9..2ba 2c2..2cf 2d2..2ed 2ef..2ff 375 3f6
   58a..58e 606..607 60e..60f 6de 6e9 7f6..7f9 bf3..bf8 bfa c78..c7e f3a..f3d 1390..1399 1400 169b..169c
   17f0..180a 1940..1945 19de..19ff 2010..2027 2035..2043 2045..205e 2104..2129 213a..214d 218a..2211
   2214..2335 237b..2394 2396..26ab 26ad..27ff 2900..2bff 2ce5..2cea 2cf9..2cff 2e00..3004 3008..3020
   3030 3037 303d..303f 30a0 30fb 31c0..31e5 4dc0..4dff a490..a4c6 a60d..a60f a673 a67e..a67f a700..a721
   a788 a828..a82b a874..a877 ab6a..ab6b fbc3..fdff fe45..fe46 10101 10140..1018c 10190..101a0 1091f
   10b39..10b3f 10d6e 10ed0..10ed8 11052..11065 11660..1166c 11fd5..11fdc 11fe1..11ff1 16fe2
   1cc00..1cef0 1d1e9..1d241 1d245 1d300..1d356 1eef0..1f12f 1f16d..1f16f 1f1ad 1f260..1fbfa"

/-- Marks without room of their own that are written from left to right like letters. -/
def leftMarks : List Nat := [0xCBF, 0xCC6, 0x11A07, 0x11A08, 0x11C3F]

def ofChar (c : Char) : Direction :=
  let n := c.toNat
  if n = 0x200C ∨ n = 0x200D then joiner
  else if Text.isRoomless c then if n ∈ leftMarks then leftToRight else mark
  else if rightToLefts.contains n then rightToLeft
  else if arabics.contains n then arabic
  else if digits.contains n then digit
  else if signs.contains n then sign
  else if units.contains n then unit
  else if arabicDigits.contains n then arabicDigit
  else if separators.contains n then separator
  else if neutrals.contains n then neutral
  else leftToRight

/-- What makes a domain one of two directions. -/
def isReversing : Direction → Bool
  | rightToLeft | arabic | arabicDigit => true
  | _ => false

/-- What a label that is written from left to right may hold. -/
def fitsLeftToRight : Direction → Bool
  | rightToLeft | arabic | arabicDigit => false
  | _ => true

/-- What a label that is written from right to left may hold. -/
def fitsRightToLeft : Direction → Bool
  | leftToRight => false
  | _ => true

/-- What a label that is written from right to left may end in, marks apart. -/
def endsRightToLeft : Direction → Bool
  | rightToLeft | arabic | digit | arabicDigit => true
  | _ => false

/-- Whether a label keeps its order: it starts with a letter, holds only what fits its direction and ends
in a letter or digit, marks apart; one from right to left has digits of one kind only. -/
def keepsOrder (label : List Direction) : Bool :=
  match label with
  | [] => true
  | first :: rest =>
    let ending := (rest.reverse.dropWhile (· = mark)).head?
    match first with
    | leftToRight =>
      rest.all fitsLeftToRight && ending.all fun d => d = leftToRight || d = digit
    | rightToLeft | arabic =>
      rest.all fitsRightToLeft && ending.all endsRightToLeft &&
        !(rest.contains digit && rest.contains arabicDigit)
    | _ => false

end Direction

/-- Whether the labels of a domain can be read in one order only. Labels in ASCII always can. -/
def keepOrder (labels : List (List Char)) : Bool :=
  labels.all (·.all (·.toNat < 128)) ||
    (let directions := labels.map (·.map Direction.ofChar)
    !directions.any (·.any Direction.isReversing) || directions.all Direction.keepsOrder)

end Harvest.Url
