import Harvest.Text.Normal.Combining
import Harvest.Text.Normal.Composite

/-!
Normal texts. Composites fall apart, the marks of a character are sorted by their classes, and what can be
written as one composite is. Characters that stand for a single other one are left as they are.
-/

namespace Harvest.Text.Normal

/-- The two parts of a Korean syllable: a leading syllable or letter, and what follows it. -/
def syllableParts? (n : Nat) : Option (Nat × Nat) :=
  if 0xAC00 ≤ n ∧ n < 0xD7A4 then
    let i := n - 0xAC00
    if i % 28 = 0 then some (0x1100 + i / 588, 0x1161 + i % 588 / 28)
    else some (n - i % 28, 0x11A7 + i % 28)
  else none

def parts? (n : Nat) : Option (Nat × Nat) :=
  match syllableParts? n with
  | some parts => some parts
  | none =>
    match lastAtMost? Composite.whole composites n with
    | some c => if c.whole = n then some (c.first, c.second) else none
    | none => none

/-- The Korean syllable of two parts. -/
def syllable? (a b : Nat) : Option Nat :=
  if 0x1100 ≤ a ∧ a < 0x1113 ∧ 0x1161 ≤ b ∧ b < 0x1176 then
    some (0xAC00 + (a - 0x1100) * 588 + (b - 0x1161) * 28)
  else if 0xAC00 ≤ a ∧ a < 0xD7A4 ∧ (a - 0xAC00) % 28 = 0 ∧ 0x11A7 < b ∧ b < 0x11C3 then
    some (a + (b - 0x11A7))
  else none

/-- A pair of characters as one number, so that pairs are ordered. -/
def pairKey (a b : Nat) : Nat := a * 0x110000 + b

/-- The composites that are written as one, by their parts. -/
def byParts : Array Composite :=
  ((composites.toList.filter fun c => !writtenApart.contains c.whole).mergeSort fun c d =>
    pairKey c.first c.second ≤ pairKey d.first d.second).toArray

/-- The character that is written for two in a row. -/
def whole? (a b : Nat) : Option Nat :=
  match syllable? a b with
  | some n => some n
  | none =>
    match lastAtMost? (fun c => pairKey c.first c.second) byParts (pairKey a b) with
    | some c => if c.first = a ∧ c.second = b then some c.whole else none
    | none => none

/-- The characters that one falls apart in. Only first parts fall apart further, three times at most. -/
def fallApart : Nat → Nat → List Nat
  | 0, n => [n]
  | depth + 1, n =>
    match parts? n with
    | some (a, b) => fallApart depth a ++ [b]
    | none => [n]

/-- Puts a character before others, behind the marks of smaller classes if it is a mark itself. -/
def insertMark (n : Nat) : List Nat → List Nat
  | [] => [n]
  | m :: ms =>
    if 0 < combiningClass m ∧ combiningClass m < combiningClass n then m :: insertMark n ms
    else n :: m :: ms

/-- Sorts the marks of every character by their classes; marks of one class keep their order. -/
def sortMarks (ns : List Nat) : List Nat := ns.foldr insertMark []

/-- Joins a character with those that follow it. `passed` holds the marks between it and the next one, the
last of them first: the next one joins it only if it is of a greater class than all of these. -/
def joinWith (n : Nat) (passed : List Nat) : List Nat → List Nat
  | [] => n :: passed.reverse
  | m :: ms =>
    let free := passed.all fun p => combiningClass p < combiningClass m
    match if free then whole? n m else none with
    | some whole => joinWith whole passed ms
    | none =>
      if combiningClass m = 0 then n :: passed.reverse ++ joinWith m [] ms
      else joinWith n (m :: passed) ms

/-- The normal form of a text. Characters below U+0300 never join. -/
def points (ns : List Nat) : List Nat :=
  if ns.all (· < 0x300) then ns
  else
    match sortMarks (ns.flatMap (fallApart 4)) with
    | [] => []
    | m :: ms => joinWith m [] ms

end Harvest.Text.Normal

namespace Harvest.Text

def normal (cs : List Char) : List Char := (Normal.points (cs.map Char.toNat)).map Char.ofNat

theorem insertMark_perm (n : Nat) (ns : List Nat) : (Normal.insertMark n ns).Perm (n :: ns) := by
  induction ns with
  | nil => exact .refl _
  | cons m ms ih =>
    unfold Normal.insertMark
    split
    · exact (ih.cons m).trans (.swap n m ms)
    · exact .refl _

/-- Sorting loses no character and adds none. -/
theorem sortMarks_perm (ns : List Nat) : (Normal.sortMarks ns).Perm ns := by
  induction ns with
  | nil => exact .refl _
  | cons n ns ih => exact (insertMark_perm n _).trans (ih.cons n)

end Harvest.Text
