import Harvest.Text.Normal
import Harvest.Url.Domain.Direction
import Harvest.Url.Domain.Folding
import Harvest.Url.Domain.Joiner
import Harvest.Url.Ip
import Harvest.Url.Punycode

/-!
Domains in ASCII. The characters of a domain are replaced by those that they stand for and brought into
normal form; then every label with letters beyond ASCII gets its ASCII form. A label that is marked as such
a form must be the form of a label that could be written out.
-/

namespace Harvest.Url

/-- The ASCII characters that no domain holds. -/
def isForbidden (c : Char) : Bool :=
  c.toNat ≤ 0x20 || c.toNat = 0x7F ||
    c ∈ ['%', '#', '/', ':', '<', '>', '?', '@', '[', '\\', ']', '^', '|']

def isAsciiLabel (label : List Char) : Bool := label.all (·.toNat < 128)

/-- Whether the first character of a label is a mark. -/
def startsWithMark : List Char → Bool
  | c :: _ => Text.isMark c
  | [] => false

/-- What follows the mark of an ASCII form. -/
def afterMark? : List Char → Option (List Char)
  | 'x' :: 'n' :: '-' :: '-' :: rest => some rest
  | _ => none

/-- Whether a text is what folding and the normal form make of it. -/
def isSettled (cs : List Char) : Bool := fold? cs == some cs && Text.normal cs == cs

structure Label where
  /-- As it is shown, with its letters beyond ASCII. -/
  shown : List Char
  /-- Its ASCII form. -/
  written : List Char
deriving DecidableEq, Repr

namespace Label

/-- What letters beyond ASCII ask of a label: it does not start with a mark, and every joiner shows. -/
def isSound (label : List Char) : Bool := !startsWithMark label && joinersMayStand [] label

/-- The lengths up to which labels with letters beyond ASCII and ASCII forms are read. -/
def maxShown : Nat := 1000

def maxForm : Nat := 2000

/-- The label that an ASCII form stands for. -/
def ofForm? (form : List Char) : Option (List Char) := do
  if form.getLast? = some '-' ∨ maxForm < form.length ∨ !isAsciiLabel form then none
  else
    let label ← Punycode.decode? form
    if isAsciiLabel label ∨ !isSettled label ∨ !isSound label then none else pure label

/-- A label from its folded characters in normal form. -/
def read? (label : List Char) : Option Label :=
  if label.any isForbidden then none
  else
    match afterMark? label with
    | some form => (ofForm? form).map fun shown => ⟨shown, label⟩
    | none =>
      if isAsciiLabel label then some ⟨label, label⟩
      else if label.length ≤ maxShown ∧ isSound label then
        some ⟨label, 'x' :: 'n' :: '-' :: '-' :: Punycode.encode label⟩
      else none

end Label

def joinLabels (labels : List (List Char)) : List Char := List.intercalate ['.'] labels

def asciiDomain? (domain : List Char) : Option (List Char) := do
  let folded ← fold? domain
  let labels ← (splitAt '.' (Text.normal folded)).mapM Label.read?
  if keepOrder (labels.map Label.shown) then pure (joinLabels (labels.map Label.written)) else none

end Harvest.Url
