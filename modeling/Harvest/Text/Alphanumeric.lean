/-!
Texts of letters and digits chosen by a source of numbers.
-/

namespace Harvest.Text

/-- The ASCII letters and digits. -/
def alphanumerics : Array Char :=
  "ABCDEFGHIJKLMNOPQRSTUVWXYZabcdefghijklmnopqrstuvwxyz0123456789".toList.toArray

/-- The first `length` characters that the numbers of `draw` choose. -/
def alphanumeric (draw : Nat → Nat) (length : Nat) : String :=
  String.ofList ((List.range length).map fun i => alphanumerics.getD (draw i % 62) 'A')

theorem alphanumeric_length (draw : Nat → Nat) (n : Nat) : (alphanumeric draw n).length = n := by
  simp [alphanumeric]

end Harvest.Text
