/-!
Tables of code points. A table is an ascending array that is searched by halving, and it is written as a
text: numbers in hexadecimal digits, two dots between the ends of a range, blanks between the entries.
-/

namespace Harvest.Text

/-- The words of a text that blanks and line ends part. -/
def words (cs : List Char) : List (List Char) :=
  let (word, rest) := cs.foldr
    (fun c (word, rest) =>
      if c = ' ' ∨ c = '\n' then ([], if word.isEmpty then rest else word :: rest) else (c :: word, rest))
    ([], [])
  if word.isEmpty then rest else word :: rest

def isHexDigit (c : Char) : Bool := c.isDigit || ('a' ≤ c && c ≤ 'f')

def hexNumber (cs : List Char) : Nat :=
  cs.foldl (fun n c => n * 16 + (if c.isDigit then c.toNat - 48 else c.toNat - 87)) 0

/-- The number at the start of a text and what follows it. -/
def takeNumber (cs : List Char) : Nat × List Char :=
  let digits := cs.takeWhile isHexDigit
  (hexNumber digits, cs.drop digits.length)

/-- The entries of a table, one from each word. -/
def readEntries {α : Type} (read : List Char → α) (text : String) : Array α :=
  ((words text.toList).map read).toArray

/-- How many of the keys from `low` on and before `high` are at most `n`, counted from the first key. -/
def countAtMost (key : Nat → Nat) (n low high : Nat) : Nat :=
  if low < high then
    let middle := (low + high) / 2
    if key middle ≤ n then countAtMost key n (middle + 1) high else countAtMost key n low middle
  else low
termination_by high - low

theorem countAtMost_mem (key : Nat → Nat) (n low high : Nat) (ordered : low ≤ high) :
    low ≤ countAtMost key n low high ∧ countAtMost key n low high ≤ high := by
  fun_induction countAtMost key n low high with
  | case1 low high lt middle le ih =>
    have := ih (by omega)
    omega
  | case2 low high lt middle gt ih =>
    have := ih (by omega)
    omega
  | case3 low high ge => omega

/-- Of ascending keys, those before the count are at most `n`, the others are greater. -/
theorem lt_countAtMost_iff (key : Nat → Nat) (ascending : ∀ i j, i ≤ j → key i ≤ key j)
    (n low high i : Nat) (from_low : low ≤ i) (below_high : i < high) :
    i < countAtMost key n low high ↔ key i ≤ n := by
  fun_induction countAtMost key n low high with
  | case1 low high lt middle le ih =>
    have bounds := countAtMost_mem key n (middle + 1) high (by omega)
    by_cases right : middle < i
    · exact ih right below_high
    · have := ascending i middle (by omega)
      omega
  | case2 low high lt middle gt ih =>
    have bounds := countAtMost_mem key n low middle (by omega)
    by_cases left : i < middle
    · exact ih from_low left
    · have := ascending middle i (by omega)
      omega
  | case3 low high ge => omega

/-- The last entry of an ascending table whose key is at most `n`. -/
def lastAtMost? {α : Type} (key : α → Nat) (table : Array α) (n : Nat) : Option α :=
  let count := countAtMost (fun i => (table[i]?.map key).getD 0) n 0 table.size
  if count = 0 then none else table[count - 1]?

/-- Ascending ranges of code points, by their ends. -/
structure Ranges where
  ends : Array (Nat × Nat)

/-- A range as it is written: its two ends, or one code point. -/
def readRange (word : List Char) : (Nat × Nat) × List Char :=
  let (first, rest) := takeNumber word
  match rest with
  | '.' :: '.' :: rest =>
    let (last, rest) := takeNumber rest
    ((first, last), rest)
  | rest => ((first, first), rest)

def Ranges.ofText (text : String) : Ranges :=
  ⟨readEntries (fun word => (readRange word).1) text⟩

/-- Whether a code point lies in one of the ranges. -/
def Ranges.contains (ranges : Ranges) (n : Nat) : Bool :=
  match lastAtMost? Prod.fst ranges.ends n with
  | some (_, last) => n ≤ last
  | none => false

end Harvest.Text
