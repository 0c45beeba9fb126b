/-!
Labels of letters beyond ASCII in ASCII letters (RFC 3492). The other code points are inserted in
ascending order; each insertion is written as its distance from the one before, in digits whose weights
adapt to the sizes of earlier distances.
-/

namespace Harvest.Url.Punycode

def digitChar (d : Nat) : Char := Char.ofNat (if d < 26 then 97 + d else 22 + d)

def digit? (c : Char) : Option Nat :=
  if 'a' ≤ c ∧ c ≤ 'z' then some (c.toNat - 97)
  else if 'A' ≤ c ∧ c ≤ 'Z' then some (c.toNat - 65)
  else if '0' ≤ c ∧ c ≤ '9' then some (c.toNat - 22)
  else none

def initialBias : Nat := 72

/-- The threshold of the digit at place `k`. -/
def threshold (k bias : Nat) : Nat :=
  if k ≤ bias then 1 else if bias + 26 ≤ k then 26 else k - bias

/-- Divides a distance by 35 until it is small; the places passed come back with it. -/
def settle (delta places : Nat) : Nat × Nat :=
  if 455 < delta then settle (delta / 35) (places + 36) else (delta, places)
termination_by delta
decreasing_by omega

/-- The bias after a distance, when `count` code points are in place. -/
def adapt (delta count : Nat) (first : Bool) : Nat :=
  let delta := if first then delta / 700 else delta / 2
  let (delta, places) := settle (delta + delta / count) 0
  places + 36 * delta / (delta + 38)

/-- A distance in digits from place `k` on; every step at least halves what is left of it. -/
def writeNumber (bias k q : Nat) : Nat → List Char
  | 0 => []
  | fuel + 1 =>
    let t := threshold k bias
    if q < t then [digitChar q]
    else digitChar (t + (q - t) % (36 - t)) :: writeNumber bias (k + 36) ((q - t) / (36 - t)) fuel

structure Progress where
  delta : Nat
  bias : Nat
  count : Nat
  written : List Char

/-- Passes over one code point of the label while `n` is inserted. -/
def Progress.pass (basic n : Nat) (p : Progress) (c : Nat) : Progress :=
  if c < n then { p with delta := p.delta + 1 }
  else if c = n then
    ⟨0, adapt p.delta (p.count + 1) (p.count = basic), p.count + 1,
      p.written ++ writeNumber p.bias 36 p.delta (p.delta + 1)⟩
  else p

/-- Inserts the code points of a sorted list, given the next one that could be inserted. -/
def insertAll (label : List Nat) (basic : Nat) (next : Nat) (p : Progress) : List Nat → List Char
  | [] => p.written
  | n :: ns =>
    let p := label.foldl (Progress.pass basic n) { p with delta := p.delta + (n - next) * (p.count + 1) }
    insertAll label basic (n + 1) { p with delta := p.delta + 1 } ns

def encode (label : List Char) : List Char :=
  let basic := label.filter (·.toNat < 128)
  let points := label.map Char.toNat
  let others := ((points.filter (128 ≤ ·)).mergeSort (· ≤ ·)).eraseDups
  basic ++ (if basic.isEmpty then [] else ['-']) ++
    insertAll points basic.length 128 ⟨0, initialBias, basic.length, []⟩ others

/-- The bound of all numbers: they fit in 32 bits. -/
def numberBound : Nat := 4294967296

/-- Reads the digits of a distance from place `k` on. -/
def readNumber (bias k weight i : Nat) : List Char → Option (Nat × List Char)
  | [] => none
  | c :: cs => do
    let d ← digit? c
    let t := threshold k bias
    let i := i + d * weight
    if numberBound ≤ i then none
    else if d < t then pure (i, cs)
    else if numberBound ≤ weight * (36 - t) then none
    else readNumber bias (k + 36) (weight * (36 - t)) i cs

/-- Inserts code points as the digits say; every insertion takes at least one digit. -/
def readAll (n i bias : Nat) (label : List Nat) : Nat → List Char → Option (List Nat)
  | _, [] => some label
  | 0, _ => none
  | fuel + 1, cs => do
    let (j, rest) ← readNumber bias 36 1 i cs
    let count := label.length + 1
    let n := n + j / count
    if n > 0x10FFFF then none
    else readAll n (j % count + 1) (adapt (j - i) count (i = 0)) (label.insertIdx (j % count) n) fuel rest

/-- What stands before the last hyphen and what after it. -/
def cutLastHyphen (cs : List Char) : List Char × List Char :=
  let after := (cs.reverse.takeWhile (· ≠ '-')).reverse
  let before := cs.take (cs.length - after.length - 1)
  if before.isEmpty then ([], cs) else (before, after)

def decode? (cs : List Char) : Option (List Char) := do
  let (basic, rest) := cutLastHyphen cs
  let points ← readAll 128 0 initialBias (basic.map Char.toNat) rest.length rest
  if points.all fun n => n.isValidChar then pure (points.map Char.ofNat) else none

end Harvest.Url.Punycode
