import Harvest.Url.Basic

/-!
Addresses as hosts: IPv4 in up to four numbers of three notations, IPv6 in brackets.
-/

namespace Harvest.Url

def splitAt (sep : Char) : List Char → List (List Char)
  | [] => [[]]
  | c :: cs =>
    if c = sep then [] :: splitAt sep cs
    else
      match splitAt sep cs with
      | [] => [[c]]
      | p :: ps => (c :: p) :: ps

def digitIn? (base : Nat) (c : Char) : Option Nat :=
  let d? :=
    if '0' ≤ c ∧ c ≤ '9' then some (c.toNat - 48)
    else if 'a' ≤ c ∧ c ≤ 'f' then some (c.toNat - 87)
    else if 'A' ≤ c ∧ c ≤ 'F' then some (c.toNat - 55)
    else none
  d?.filter (· < base)

def numberIn? (base : Nat) (cs : List Char) : Option Nat :=
  cs.foldlM (fun n c => (digitIn? base c).map (n * base + ·)) 0

/-- A number of an IPv4 address: hexadecimal after `0x`, octal after `0`, else decimal. -/
def ipv4Number? : List Char → Option Nat
  | [] => none
  | '0' :: 'x' :: cs | '0' :: 'X' :: cs => numberIn? 16 cs
  | '0' :: c :: cs => numberIn? 8 (c :: cs)
  | cs => numberIn? 10 cs

/-- The parts of a domain, without the empty one after a point at its end. -/
def ipv4Parts (host : List Char) : List (List Char) :=
  let parts := splitAt '.' host
  if parts.length > 1 ∧ parts.getLast? = some [] then parts.dropLast else parts

/-- Whether a domain must be an IPv4 address: its last part is a number. -/
def endsInNumber (host : List Char) : Bool :=
  match (ipv4Parts host).getLast? with
  | none | some [] => false
  | some last => last.all Char.isDigit || (ipv4Number? last).isSome

/-- The address of numbers; the last one fills the bytes that are left. -/
def ipv4OfNumbers (ns : List Nat) : Option Nat :=
  match ns.reverse with
  | [] => none
  | last :: front =>
    if front.length > 3 ∨ front.any (· > 255) ∨ last ≥ Nat.pow 256 (4 - front.length) then none
    else some (front.reverse.foldl (fun n b => n * 256 + b) 0 * Nat.pow 256 (4 - front.length) + last)

def ipv4? (host : List Char) : Option Nat := do
  ipv4OfNumbers (← (ipv4Parts host).mapM ipv4Number?)

def writeIpv4 (n : Nat) : String :=
  s!"{n / 16777216 % 256}.{n / 65536 % 256}.{n / 256 % 256}.{n % 256}"

def plainByte? (cs : List Char) : Option Nat :=
  match cs with
  | ['0'] => some 0
  | [] | '0' :: _ => none
  | _ => (numberIn? 10 cs).filter (· ≤ 255)

/-- A group of an IPv6 address. -/
def group? (cs : List Char) : Option Nat :=
  if cs.isEmpty ∨ cs.length > 4 then none else numberIn? 16 cs

/-- The groups of one side of a double colon; an IPv4 address may stand at the very end. -/
def groups? (last : Bool) (cs : List Char) : Option (List Nat) :=
  let parts := splitAt ':' cs
  match last, parts.getLast? with
  | true, some p =>
    if p.contains '.' then do
      let front ← parts.dropLast.mapM group?
      match ← (splitAt '.' p).mapM plainByte? with
      | [a, b, c, d] => pure (front ++ [a * 256 + b, c * 256 + d])
      | _ => none
    else parts.mapM group?
  | _, _ => parts.mapM group?

/-- What stands before and after the first double colon. -/
def cutDoubleColon : List Char → Option (List Char × List Char)
  | ':' :: ':' :: rest => some ([], rest)
  | c :: rest => (cutDoubleColon rest).map fun (a, b) => (c :: a, b)
  | [] => none

/-- The groups of a side that may be empty. -/
def side? (last : Bool) (cs : List Char) : Option (List Nat) :=
  if cs.isEmpty then some [] else groups? last cs

/-- An IPv6 address: eight groups, or fewer around a double colon that stands for zeros. -/
def ipv6? (cs : List Char) : Option (List Nat) :=
  match cutDoubleColon cs with
  | none => (groups? true cs).filter (·.length = 8)
  | some (before, after) => do
    let a ← side? false before
    let b ← side? true after
    if a.length + b.length ≤ 7 then
      pure (a ++ List.replicate (8 - a.length - b.length) 0 ++ b)
    else none

/-- The length of the run of zeros at the start. -/
def zeroRun (gs : List Nat) : Nat := (gs.takeWhile (· = 0)).length

/-- Where the first longest run of zeros starts, and its length. -/
def longestZeros (start : Nat) (best : Nat × Nat) : List Nat → Nat × Nat
  | [] => best
  | g :: gs =>
    let n := zeroRun (g :: gs)
    longestZeros (start + 1) (if n > best.2 then (start, n) else best) gs

def joinGroups (gs : List Nat) : String :=
  ":".intercalate (gs.map fun g => String.ofList (Nat.toDigits 16 g))

/-- The shortest text of an address: the first longest run of two or more zeros becomes a double colon. -/
def writeIpv6 (gs : List Nat) : String :=
  match longestZeros 0 (0, 0) gs with
  | (start, n) =>
    if n < 2 then "[" ++ joinGroups gs ++ "]"
    else "[" ++ joinGroups (gs.take start) ++ "::" ++ joinGroups (gs.drop (start + n)) ++ "]"

end Harvest.Url
