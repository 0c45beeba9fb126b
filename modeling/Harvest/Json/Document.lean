import Harvest.Json.Error

/-!
JSON text as a tree that shows where the text breaks off. Every text has a document: what follows a
breach of the grammar is not read, and the breach is a leaf of the tree. Readers walk the tree from left
to right and report the first thing that stands in their way, so a wrong value is reported before a later
breach of the grammar.
-/

namespace Harvest.Json

/-- A scalar as written: what it means, and the flaw that even a reader who passes over it reports. -/
structure Scan (α : Type) where
  value : Except Flaw α
  skimmed : Option Flaw
deriving Repr

/-- How the items or members of an array or object end. -/
inductive Close
  | closed
  | ended
  | trailingComma
  | endedAfterComma
  | unseparated
  /-- In the middle of the last item or member. -/
  | broken
deriving DecidableEq, Repr

/-- A document. The key of the last member of an object may be flawed; where no string stands at its
place, the member's value is what stands there. -/
inductive Doc
  /-- The text ends where a value should be. -/
  | absent
  | flawed (flaw : Flaw)
  | null
  | bool (value : Bool)
  | number (scan : Scan Number)
  | string (scan : Scan String)
  | array (items : List Doc) (close : Close)
  | object (members : List (Scan String × Doc)) (close : Close)

/-- A whole text: its document, and whether something other than space follows it. -/
structure Document where
  root : Doc
  trailing : Bool

def Scan.plain {α : Type} (a : α) : Scan α := ⟨.ok a, none⟩

mutual
def toDoc : Json → Doc
  | null => .null
  | bool b => .bool b
  | number n => .number (.plain n)
  | string s => .string (.plain s)
  | array vs => .array (itemDocs vs) .closed
  | object ms => .object (memberDocs ms) .closed

def itemDocs : List Json → List Doc
  | [] => []
  | v :: vs => toDoc v :: itemDocs vs

def memberDocs : List (String × Json) → List (Scan String × Doc)
  | [] => []
  | (k, v) :: ms => (.plain k, toDoc v) :: memberDocs ms
end

end Harvest.Json
