/-!
MD5 digests of texts. A message is padded to blocks of sixty-four bytes; each block updates a state of
four words in sixty-four rounds; the digest is the last state, printed in thirty-two hexadecimal digits.
-/

namespace Harvest.Digest

structure State where
  a : UInt32
  b : UInt32
  c : UInt32
  d : UInt32
deriving DecidableEq, Repr

def State.initial : State := ⟨0x67452301, 0xefcdab89, 0x98badcfe, 0x10325476⟩

def State.add (s t : State) : State := ⟨s.a + t.a, s.b + t.b, s.c + t.c, s.d + t.d⟩

/-- The additive constants: the leading bits of `|sin (i + 1)|`. -/
def sines : Array UInt32 := #[
  0xd76aa478, 0xe8c7b756, 0x242070db, 0xc1bdceee, 0xf57c0faf, 0x4787c62a, 0xa8304613, 0xfd469501,
  0x698098d8, 0x8b44f7af, 0xffff5bb1, 0x895cd7be, 0x6b901122, 0xfd987193, 0xa679438e, 0x49b40821,
  0xf61e2562, 0xc040b340, 0x265e5a51, 0xe9b6c7aa, 0xd62f105d, 0x02441453, 0xd8a1e681, 0xe7d3fbc8,
  0x21e1cde6, 0xc33707d6, 0xf4d50d87, 0x455a14ed, 0xa9e3e905, 0xfcefa3f8, 0x676f02d9, 0x8d2a4c8a,
  0xfffa3942, 0x8771f681, 0x6d9d6122, 0xfde5380c, 0xa4beea44, 0x4bdecfa9, 0xf6bb4b60, 0xbebfbc70,
  0x289b7ec6, 0xeaa127fa, 0xd4ef3085, 0x04881d05, 0xd9d4d039, 0xe6db99e5, 0x1fa27cf8, 0xc4ac5665,
  0xf4292244, 0x432aff97, 0xab9423a7, 0xfc93a039, 0x655b59c3, 0x8f0ccc92, 0xffeff47d, 0x85845dd1,
  0x6fa87e4f, 0xfe2ce6e0, 0xa3014314, 0x4e0811a1, 0xf7537e82, 0xbd3af235, 0x2ad7d2bb, 0xeb86d391]

/-- How far each round rotates: four amounts in turn, others in each quarter. -/
def rotations : Array UInt32 := #[7, 12, 17, 22, 5, 9, 14, 20, 4, 11, 16, 23, 6, 10, 15, 21]

def rotateLeft (x amount : UInt32) : UInt32 := (x <<< amount) ||| (x >>> (32 - amount))

/-- One round: quarter `i / 16` chooses the mixing function and the order of the block's words. -/
def round (words : Array UInt32) (s : State) (i : Nat) : State :=
  let (mixed, word) :=
    match i / 16 with
    | 0 => ((s.b &&& s.c) ||| (~~~s.b &&& s.d), i)
    | 1 => ((s.d &&& s.b) ||| (~~~s.d &&& s.c), (5 * i + 1) % 16)
    | 2 => (s.b ^^^ s.c ^^^ s.d, (3 * i + 5) % 16)
    | _ => (s.c ^^^ (s.b ||| ~~~s.d), (7 * i) % 16)
  let turned := s.a + mixed + sines.getD i 0 + words.getD word 0
  let amount := rotations.getD (4 * (i / 16) + i % 4) 0
  ⟨s.d, s.b + rotateLeft turned amount, s.b, s.c⟩

/-- The words of a block, the lowest byte first. -/
def wordsOf : List UInt8 → List UInt32
  | a :: b :: c :: d :: rest =>
    (a.toUInt32 ||| (b.toUInt32 <<< 8) ||| (c.toUInt32 <<< 16) ||| (d.toUInt32 <<< 24)) :: wordsOf rest
  | _ => []

def compress (s : State) (block : List UInt8) : State :=
  s.add ((List.range 64).foldl (round (wordsOf block).toArray) s)

/-- The lowest bytes of a number, the lowest first. -/
def littleEndian (n : Nat) : Nat → List UInt8
  | 0 => []
  | k + 1 => n.toUInt8 :: littleEndian (n / 256) k

/-- A message, one bit, zeros up to the last eight bytes of a block, and the length in bits. -/
def padded (message : List UInt8) : List UInt8 :=
  message ++ 0x80 :: List.replicate ((119 - message.length % 64) % 64) 0 ++
    littleEndian (8 * message.length) 8

def blocks (bytes : List UInt8) : List (List UInt8) :=
  match bytes with
  | [] => []
  | b :: rest => (b :: rest).take 64 :: blocks (rest.drop 63)
termination_by bytes.length
decreasing_by simp only [List.length_drop, List.length_cons]; omega

def ofBytes (message : List UInt8) : State := (blocks (padded message)).foldl compress State.initial

def State.bytes (s : State) : List UInt8 :=
  [s.a, s.b, s.c, s.d].flatMap fun w => littleEndian w.toNat 4

def hexDigit (n : Nat) : Char := Char.ofNat (if n < 10 then 48 + n else 87 + n)

/-- The fingerprint of a text: the digest of its bytes in lower-case hexadecimal digits. -/
def fingerprint (text : String) : String :=
  String.ofList ((ofBytes text.toUTF8.toList).bytes.flatMap fun b =>
    [hexDigit (b.toNat / 16), hexDigit (b.toNat % 16)])

end Harvest.Digest
