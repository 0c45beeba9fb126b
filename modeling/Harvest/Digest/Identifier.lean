import Harvest.Digest

/-!
Identifiers of stored records and of runs: thirty-two hexadecimal digits in five groups, of which one digit
says that they are drawn and one is 8, 9, a or b.
-/

namespace Harvest.Digest

/-- The identifier that thirty-two digits make up. -/
def grouped (digits : List Char) : String :=
  let variant := match digits[16]? with
    | some c => hexDigit (8 + c.toNat % 4)
    | none => '8'
  let marked := (digits.set 12 '4').set 16 variant
  let group (start length : Nat) := String.ofList ((marked.drop start).take length)
  "-".intercalate [group 0 8, group 8 4, group 12 4, group 16 4, group 20 12]

/-- The identifier of a number, drawn by a seed. -/
def identifier (seed : String) (n : Nat) : String := grouped (fingerprint s!"{seed} {n}").toList

end Harvest.Digest
