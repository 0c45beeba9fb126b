import Harvest.Decimal.Double

/-!
JSON values. Objects keep the order of their members. A value that has just been read may repeat a key;
merging keeps the first place of the key and its last value.
-/

namespace Harvest

/-- A number: a whole number as it stands, or a floating-point number. -/
inductive Number
  | integer (value : Int)
  | float (value : Decimal.Double)
deriving DecidableEq, Repr

/-- Whole numbers outside this range are read as floating-point numbers. -/
def Number.fits (n : Int) : Bool := -9223372036854775808 ≤ n && n < 18446744073709551616

inductive Json
  | null
  | bool (value : Bool)
  | number (value : Number)
  | string (value : String)
  | array (items : List Json)
  | object (members : List (String × Json))
deriving Inhabited, Repr

namespace Json

def nat (n : Nat) : Json := number (.integer n)

/-- Puts a value under a key: over the value that is there, or at the end. -/
def insert (key : String) (value : Json) : List (String × Json) → List (String × Json)
  | [] => [(key, value)]
  | m :: ms => if m.1 = key then (key, value) :: ms else m :: insert key value ms

def get? (key : String) : List (String × Json) → Option Json
  | [] => none
  | m :: ms => if m.1 = key then some m.2 else get? key ms

mutual
/-- The value without repeated keys. -/
def merged : Json → Json
  | null => null
  | bool b => bool b
  | number n => number n
  | string s => string s
  | array vs => array (mergedItems vs)
  | object ms => object (mergedMembers [] ms)

def mergedItems : List Json → List Json
  | [] => []
  | v :: vs => merged v :: mergedItems vs

def mergedMembers (before : List (String × Json)) : List (String × Json) → List (String × Json)
  | [] => before
  | (key, v) :: ms => mergedMembers (insert key (merged v) before) ms
end

@[simp] theorem get?_insert (key k : String) (value : Json) (ms : List (String × Json)) :
    get? k (insert key value ms) = if key = k then some value else get? k ms := by
  induction ms with
  | nil => simp [insert, get?]
  | cons m ms ih =>
    unfold insert
    split
    · subst key
      simp only [get?]
      split <;> rfl
    · simp only [get?, ih]
      split
      · subst k
        simp_all [eq_comm]
      · rfl

theorem keys_insert (key : String) (value : Json) (ms : List (String × Json)) :
    (insert key value ms).map (·.1) =
      if key ∈ ms.map (·.1) then ms.map (·.1) else ms.map (·.1) ++ [key] := by
  induction ms with
  | nil => simp [insert]
  | cons m ms ih =>
    unfold insert
    split
    · simp_all
    · rename_i h
      simp only [List.map_cons, ih, List.mem_cons, Ne.symm h, false_or]
      split <;> simp

end Json

end Harvest
